import Chatroom.Proofs.Gate
import Chatroom.Proofs.Speech

/-!
# Whose departure is announced

When a guest hangs up or says goodbye its departure is posted once, and every other guest
is queued the notice. The departure of a guest that is expelled is not posted. In a run in
which no guest is expelled, what the room is told about arrivals and departures is balanced.
-/

namespace Chatroom
open Fallible Relation Transition

/-! ### Notices of departure -/

/-- The entry that announces the departure of person `n`. -/
def RoomEntry.Closes (n : ℕ) : RoomEntry → Prop
  | .disconnected m _ => m = n
  | _ => False

instance (n : ℕ) : DecidablePred (RoomEntry.Closes n)
  | .disconnected m _ => inferInstanceAs (Decidable (m = n))
  | .chat _ _ _ | .hostChat _ _ | .connected _ _ | .closing => inferInstanceAs (Decidable False)

lemma RoomEntry.serial_of_closes {n : ℕ} {e : RoomEntry} (h : e.Closes n) :
    e.serial = some n := by
  cases e with
  | disconnected m name => exact congrArg some h
  | chat m name text => exact h.elim
  | hostChat name text => exact h.elim
  | connected m name => exact h.elim
  | closing => exact h.elim

/-- The notices of departure of person `n`. -/
def Server.goodbyes (s : Server) (n : ℕ) : List RoomEntry :=
  s.roomLog.filter (fun e => e.Closes n)

/-- Everybody who was announced and is gone has been announced as gone once, and nobody who
was not announced has. -/
structure Server.Balanced (s : Server) : Prop where
  gone : ∀ d ∈ s.departed, (∃ e ∈ s.roomLog, e.Opens d.conn.serial) →
    s.goodbyes d.conn.serial = [.disconnected d.conn.serial d.conn.name]
  unannounced : ∀ c, s.Knows c → (∀ e ∈ s.roomLog, ¬e.Opens c.serial) → s.goodbyes c.serial = []

/-- A guest leaves: the chats it still had to say are posted, then its departure, and every
other guest is queued these and nothing else. -/
structure Leaves (c : Connection) (said : List RoomEntry) (s t : Server) : Prop where
  chats : ∀ e ∈ said, ∃ text, e = .chat c.serial c.name text
  posted : t.roomLog = s.roomLog ++ (said ++ [.disconnected c.serial c.name])
  told : ∀ d ∈ s.connections, d.serial ≠ c.serial → d.state = .active →
    d.enqueueAll ((said ++ [RoomEntry.disconnected c.serial c.name]).map RoomEntry.message) ∈
      t.connections
  others : ∀ d ∈ s.connections, d.serial ≠ c.serial → ∃ d' ∈ t.connections, d'.serial = d.serial
  recorded : ∃ d : Departure, t.departed = s.departed ++ [d] ∧ d.conn.serial = c.serial ∧
    d.conn.name = c.name

/-- Nobody leaves, and what is posted is about those who are there. -/
structure Stays (s t : Server) : Prop where
  serials : t.connections.map Connection.serial = s.connections.map Connection.serial
  departed : t.departed = s.departed
  posted : ∃ said, t.roomLog = s.roomLog ++ said ∧
    ∀ e ∈ said, ∀ n, e.serial = some n → ∃ c ∈ s.connections, c.serial = n

/-- What a handled event does to those who are there. -/
inductive MembershipChange (s t : Server) : Prop
  | stays (h : Stays s t)
  | arrive (hlog : t.roomLog = s.roomLog)
      (hserials : s.connections.map Connection.serial <+: t.connections.map Connection.serial)
      (hdeparted : ∀ d ∈ t.departed, d ∈ s.departed ∨ s.accepted ≤ d.conn.serial)
  | refused {c c' : Connection} (hc : c ∈ s.connections) (hst : c.state = .waitingForClientHello)
      (hlog : t.roomLog = s.roomLog)
      (hothers : ∀ d ∈ s.connections, d.serial ≠ c.serial → d ∈ t.connections)
      (hdeparted : ∃ n, t.departed = s.departed ++ [⟨c', n⟩]) (hserial : c'.serial = c.serial)
  | leaves {c : Connection} {said : List RoomEntry} (hc : c ∈ s.connections)
      (h : Leaves c said s t)

/-! ### Those who stay -/

namespace Stays

variable {s t u : Server}

lemma congr (hconns : t.connections = s.connections) (hdeparted : t.departed = s.departed)
    (hlog : t.roomLog = s.roomLog) : Stays s t where
  serials := by rw [hconns]
  departed := hdeparted
  posted := ⟨[], by rw [hlog, List.append_nil], by simp⟩

lemma trans (h : Stays s t) (h' : Stays t u) : Stays s u where
  serials := h'.serials.trans h.serials
  departed := h'.departed.trans h.departed
  posted := by
    obtain ⟨said, hsaid, habout⟩ := h.posted
    obtain ⟨said', hsaid', habout'⟩ := h'.posted
    refine ⟨said ++ said', ?_, ?_⟩
    · rw [hsaid', hsaid, List.append_assoc]
    · refine List.forall_mem_append.mpr ⟨habout, ?_⟩
      intro e he n hn
      obtain ⟨d, hd, hserial⟩ := habout' e he n hn
      have hmem : n ∈ t.connections.map Connection.serial := List.mem_map.mpr ⟨d, hd, hserial⟩
      rw [h.serials] at hmem
      exact List.mem_map.mp hmem

lemma put (hd : s.Distinct) {c c' : Connection} (hc : c ∈ s.connections) (hpeer : SamePeer c c') :
    Stays s (s.put c') where
  serials := Server.map_put hd hc hpeer.addr _ hpeer.serial
  departed := rfl
  posted := ⟨[], (List.append_nil _).symm, by simp⟩

lemma fdMod (s : Server) (fd : Fd) (events : EventMask) : Stays s (s.fdMod fd events).2 := by
  unfold Server.fdMod
  exact congr rfl rfl rfl

lemma post {e : RoomEntry} {author : Bytes} {notice : Message} {sender : Option ℕ}
    (hauthor : author = e.author) (htext : notice.payload = e.text)
    (he : ∀ n, e.serial = some n → ∃ c ∈ s.connections, c.serial = n) :
    Stays s (s.post e author notice sender).2 := by
  rcases hpost : s.post e author notice sender with ⟨ok, t⟩
  obtain ⟨cs, k, rfl, htold⟩ := post_told hauthor htext hpost
  exact ⟨told_serials htold, rfl, [e], rfl, List.forall_mem_singleton.mpr he⟩

lemma queueClose (s : Server) : Stays s s.queueCloseToAllClients.2 := by
  rcases hclose : s.queueCloseToAllClients with ⟨ok, t⟩
  obtain ⟨cs, k, rfl, htold⟩ := queueClose_told hclose
  exact ⟨told_serials htold, rfl, [], (List.append_nil _).symm, by simp⟩

end Stays

/-! ### The handlers -/

/-- The first frame in the buffer that is not a CHAT breaks the rules. -/
def breaksProtocol (buffer : Bytes) : Bool :=
  match _h : parseFrame buffer with
  | .incomplete => false
  | .illegal => true
  | .frame m rest =>
    if m.type = .closeCon then decide (m.payload ≠ [])
    else if m.type = .chat then breaksProtocol rest
    else true
termination_by buffer.length
decreasing_by exact frameCodec.rest_length_lt _h

section Buffer

variable {buffer : Bytes}

lemma breaksProtocol_incomplete (hp : parseFrame buffer = .incomplete) :
    breaksProtocol buffer = false := by
  rw [breaksProtocol]
  split <;> simp_all

lemma breaksProtocol_illegal (hp : parseFrame buffer = .illegal) :
    breaksProtocol buffer = true := by
  rw [breaksProtocol]
  split <;> simp_all

lemma breaksProtocol_frame {m : Message} {rest : Bytes} (hp : parseFrame buffer = .frame m rest) :
    breaksProtocol buffer =
      if m.type = .closeCon then decide (m.payload ≠ [])
      else if m.type = .chat then breaksProtocol rest
      else true := by
  rw [breaksProtocol]
  split
  · rename_i h
    rw [hp] at h
    cases h
  · rename_i h
    rw [hp] at h
    cases h
  · rename_i m' rest' h
    rw [hp] at h
    cases h
    rfl

end Buffer

/-- With `buffer` to be handled a connection is rejected: its CHATs are broadcast up to a frame
that breaks the rules. -/
def Server.RejectedInBuffer (s : Server) (c : Connection) (buffer : Bytes) : Prop :=
  breaksProtocol buffer = true ∧ s.LinesFit (some c.addr) (spoken false c.serial c.name buffer)

lemma Connection.enqueue_enqueueAll (c : Connection) (m : Message) (ms : List Message) :
    (c.enqueue m).enqueueAll ms = c.enqueueAll (m :: ms) := by
  simp [Connection.enqueueAll, Connection.enqueue, frameCodec, Framing.Codec.encodeAll_cons]

section Handlers

variable {s : Server} (hd : s.Distinct) {c : Connection} (hc : c ∈ s.connections)

include hd hc

lemma leave_parts {c' : Connection} (hleave : Leave c c') :
    Stays s (andThen ((s.put c').announceClientDisconnected c')
        (fun t => t.removeConnection c')).2 ∨
      Leaves c [] s (andThen ((s.put c').announceClientDisconnected c')
        (fun t => t.removeConnection c')).2 := by
  have hpeer := hleave.samePeer
  have hput := Stays.put hd hc hpeer
  have hmem := mem_put hc hpeer.addr
  rcases hann : (s.put c').announceClientDisconnected c' with ⟨ok, t⟩
  cases ok with
  | false =>
    left
    have hpost : Stays (s.put c') ((s.put c').announceClientDisconnected c').2 :=
      Stays.post (e := .disconnected c'.serial c'.name) rfl rfl
        (fun n hn => ⟨c', hmem, Option.some.inj hn⟩)
    rw [hann] at hpost
    exact hput.trans hpost
  | true =>
    right
    obtain ⟨k, rfl, -, -⟩ := post_true (e := .disconnected c'.serial c'.name) rfl rfl hann
    obtain ⟨k', hr, -⟩ := removeConnection_eq
      ((s.put c').heard (some c'.addr) (.disconnected c'.serial c'.name) k) c'
    rw [andThen, hr]
    dsimp only
    rw [hpeer.serial, hpeer.addr, hleave.name_eq]
    have hheard := (hd.put hc hpeer).heard (some c.addr) (.disconnected c.serial c.name) k
    -- a guest that is still there when the notice is posted
    have hother : ∀ d ∈ s.connections, d.serial ≠ c.serial →
        (if Hears (some c.addr) d then
          d.enqueue (RoomEntry.disconnected c.serial c.name).message else d) ∈
          (((s.put c').heard (some c.addr) (.disconnected c.serial c.name) k).released c'
            k').connections := by
      intro d hdm hne
      refine (Keyed.mem_remove hheard.addrs).mpr ⟨?_, ?_⟩
      · exact List.mem_map_of_mem (mem_put_of_ne hd hc hdm hpeer.addr hne)
      · have haddr := hd.addr_ne hc hdm hne
        rw [hpeer.addr]
        split_ifs
        · exact haddr
        · exact haddr
    refine ⟨by simp, rfl, ?_, ?_, ⟨⟨c', _⟩, rfl, hpeer.serial, hleave.name_eq⟩⟩
    · intro d hdm hne hst
      have hhears : Hears (some c.addr) d :=
        ⟨fun heq => hd.addr_ne hc hdm hne (Option.some.inj heq), hst⟩
      have h := hother d hdm hne
      rw [if_pos hhears] at h
      have hall : d.enqueueAll [(RoomEntry.disconnected c.serial c.name).message] =
          d.enqueue (RoomEntry.disconnected c.serial c.name).message := by
        rw [← Connection.enqueue_enqueueAll, Connection.enqueueAll_nil]
      rw [← hall] at h
      exact h
    · intro d hdm hne
      refine ⟨_, hother d hdm hne, ?_⟩
      split_ifs <;> rfl

lemma Leaves.after_chat {t u : Server} {m : Message} {rest : Bytes} {said : List RoomEntry}
    {k : Kernel}
    (ht : t = (s.put (c.cut m rest)).heard (some c.addr) (.chat c.serial c.name m.payload) k)
    (h : Leaves (c.cut m rest) said t u) :
    Leaves c (.chat c.serial c.name m.payload :: said) s u := by
  subst ht
  -- the others have heard the chat before
  have hother : ∀ d ∈ s.connections, d.serial ≠ c.serial →
      (if Hears (some c.addr) d then
        d.enqueue (RoomEntry.chat c.serial c.name m.payload).message else d) ∈
        ((s.put (c.cut m rest)).heard (some c.addr) (.chat c.serial c.name m.payload)
          k).connections :=
    fun d hdm hne => List.mem_map_of_mem (mem_put_of_ne hd hc hdm rfl hne)
  refine ⟨?_, ?_, ?_, ?_, h.recorded⟩
  · exact List.forall_mem_cons.mpr ⟨⟨m.payload, rfl⟩, h.chats⟩
  · rw [h.posted]
    simp [Server.heard, Server.put, Connection.cut]
  · intro d hdm hne hst
    have hhears : Hears (some c.addr) d :=
      ⟨fun heq => hd.addr_ne hc hdm hne (Option.some.inj heq), hst⟩
    have hmem := hother d hdm hne
    rw [if_pos hhears] at hmem
    have htold := h.told _ hmem hne hst
    rw [Connection.enqueue_enqueueAll] at htold
    exact htold
  · intro d hdm hne
    have hmem := hother d hdm hne
    by_cases hh : Hears (some c.addr) d
    · rw [if_pos hh] at hmem
      exact h.others (d.enqueue _) hmem hne
    · rw [if_neg hh] at hmem
      exact h.others d hmem hne

theorem readMessages_parts (hst : c.state = .active ∨ c.state = .closed)
    (hexpel : ¬s.RejectedInBuffer c c.inBuffer) :
    Stays s (s.readMessages c).2 ∨ ∃ said, Leaves c said s (s.readMessages c).2 := by
  induction hn : c.inBuffer.length using Nat.strong_induction_on generalizing s c with
  | h n ih =>
    cases hp : parseFrame c.inBuffer with
    | illegal =>
      refine absurd ⟨breaksProtocol_illegal hp, ?_⟩ hexpel
      rw [spoken_illegal hp]
      exact linesFit_nil
    | incomplete =>
      rw [readMessages_incomplete s hp hst]
      by_cases hclosed : c.state = .closed
      · rw [if_pos hclosed]
        exact (leave_parts hd hc (Leave.hangup hclosed hp)).imp_right (fun h => ⟨[], h⟩)
      · rw [if_neg hclosed]
        exact Or.inl (Stays.put hd hc (SamePeer.refl c))
    | frame m rest =>
      have hbreaks := breaksProtocol_frame hp
      have hspoken : spoken false c.serial c.name c.inBuffer = _ := spoken_frame hp
      rw [readMessages_frame s hp hst]
      by_cases htype : m.type = .closeCon
      · rw [if_pos htype] at hbreaks hspoken ⊢
        by_cases hpay : m.payload = []
        · rw [if_neg (not_not.mpr hpay)]
          exact (leave_parts hd hc (Leave.bye m rest hst hp htype hpay)).imp_right
            (fun h => ⟨[], h⟩)
        · rw [if_neg hpay] at hspoken
          refine absurd ⟨hbreaks.trans (decide_eq_true hpay), ?_⟩ hexpel
          rw [hspoken]
          exact linesFit_nil
      · rw [if_neg htype] at hbreaks hspoken ⊢
        by_cases hchat : m.type = .chat
        · rw [if_pos hchat] at hbreaks hspoken
          rw [if_neg (not_not.mpr hchat)]
          have hpeer : SamePeer c (c.cut m rest) := ⟨rfl, rfl, rfl⟩
          have hput := Stays.put hd hc hpeer
          have hpost : Stays (s.put (c.cut m rest)) ((s.put (c.cut m rest)).post
              (.chat c.serial c.name m.payload) c.name m (some c.addr)).2 :=
            Stays.post rfl rfl (fun n hn => ⟨_, mem_put hc hpeer.addr, Option.some.inj hn⟩)
          have hboth := hput.trans hpost
          rcases hr : (s.put (c.cut m rest)).post (.chat c.serial c.name m.payload) c.name m
            (some c.addr) with ⟨ok, t⟩
          rw [hr] at hboth
          cases ok with
          | false => exact Or.inl hboth
          | true =>
            obtain ⟨-, hdt, hct⟩ := chat_true hd hc hst hp hchat hr
            obtain ⟨k, ht, hlegal, -⟩ :=
              post_true (e := .chat c.serial c.name m.payload) rfl rfl hr
            have hlt : (c.cut m rest).inBuffer.length < n := by
              rw [← hn]
              exact frameCodec.rest_length_lt hp
            have hattended : t.Attended (some c.addr) ↔ s.Attended (some c.addr) := by
              rw [ht]
              exact (attended_heard _ _ _ k).trans (attended_put hpeer.addr)
            -- the chat was heard, so the rest of the buffer decides
            have hexpel' : ¬t.RejectedInBuffer (c.cut m rest) (c.cut m rest).inBuffer := by
              rintro ⟨hoff, hbears⟩
              refine hexpel ⟨hbreaks.trans hoff, ?_⟩
              rw [hspoken, linesFit_cons]
              refine ⟨?_, (Server.LinesFit.congr hattended _).mp hbears⟩
              rw [← Server.LinesFit.congr (attended_put hpeer.addr), linesFit_singleton]
              exact hlegal
            rcases ih _ hlt hdt hct hst hexpel' rfl with hstay | ⟨said, hleaves⟩
            · exact Or.inl (hboth.trans hstay)
            · exact Or.inr ⟨_, Leaves.after_chat hd hc ht hleaves⟩
        · rw [if_neg hchat] at hbreaks hspoken
          refine absurd ⟨hbreaks, ?_⟩ hexpel
          rw [hspoken]
          exact linesFit_nil

theorem readNetworkPackage_parts (hst : c.state = .active) {replies : List RecvReply}
    (hok : recvEnd replies ≠ .failed)
    (hexpel : ¬s.RejectedInBuffer c (c.inBuffer ++ recvData replies)) :
    Stays s (s.readNetworkPackage c replies).2 ∨
      ∃ said, Leaves c said s (s.readNetworkPackage c replies).2 := by
  have hd' : (s.call (.recv c.fd)).Distinct := hd.congr rfl
  have hpeer : SamePeer c (c.ingested replies) := ⟨rfl, rfl, rfl⟩
  have hput : Stays s ((s.call (.recv c.fd)).put (c.ingested replies)) :=
    (Stays.congr rfl rfl rfl : Stays s (s.call (.recv c.fd))).trans (Stays.put hd' hc hpeer)
  obtain ⟨-, hdput, hmem, hstate⟩ := ingest_effect hd' hc hst hok
  have hattended : ((s.call (.recv c.fd)).put (c.ingested replies)).Attended (some c.addr) ↔
      s.Attended (some c.addr) := attended_put hpeer.addr
  have hexpel' : ¬((s.call (.recv c.fd)).put (c.ingested replies)).RejectedInBuffer
      (c.ingested replies)
      (c.ingested replies).inBuffer := by
    rintro ⟨hoff, hbears⟩
    exact hexpel ⟨hoff, (Server.LinesFit.congr hattended _).mp hbears⟩
  rw [readNetworkPackage_eq, if_neg hok]
  rcases readMessages_parts hdput hmem hstate hexpel' with hstay | ⟨said, hleaves⟩
  · exact Or.inl (hput.trans hstay)
  · right
    -- the others are as they were before the call
    have hsame : ∀ d ∈ s.connections, d.serial ≠ c.serial →
        d ∈ ((s.call (.recv c.fd)).put (c.ingested replies)).connections :=
      fun d hdm hne => mem_put_of_ne hd' hc hdm hpeer.addr hne
    exact ⟨said, hleaves.chats, hleaves.posted,
      fun d hdm hne hst => hleaves.told d (hsame d hdm hne) hne hst,
      fun d hdm hne => hleaves.others d (hsame d hdm hne) hne, hleaves.recorded⟩

theorem sendNetworkPackage_stays (replies : List SendReply) :
    Stays s (s.sendNetworkPackage c replies).2 := by
  have hd' : (s.call (.send c.fd)).Distinct := hd.congr rfl
  have hput : ∀ c', SamePeer c c' → Stays s ((s.call (.send c.fd)).put c') := by
    intro c' hpeer
    have hcall : Stays s (s.call (.send c.fd)) := Stays.congr rfl rfl rfl
    exact hcall.trans (Stays.put hd' hc hpeer)
  rw [sendNetworkPackage_eq]
  split_ifs
  · have hpeer : SamePeer c c.joined := ⟨rfl, rfl, rfl⟩
    refine (hput _ hpeer).trans (Stays.post (e := .connected c.serial c.name) rfl rfl ?_)
    intro n hn
    exact ⟨_, mem_put (s := s.call (.send c.fd)) hc hpeer.addr, Option.some.inj hn⟩
  · exact (hput c.drained ⟨rfl, rfl, rfl⟩).trans (Stays.fdMod _ _ _)
  · exact hput _ ⟨rfl, rfl, rfl⟩
  · exact hput _ ⟨rfl, rfl, rfl⟩

theorem receiveClientHello_parts (hst : c.state = .waitingForClientHello)
    (replies : List RecvReply) : MembershipChange s (s.receiveClientHello c replies).2 := by
  have hd' : (s.call (.recv c.fd)).Distinct := hd.congr rfl
  have hput : ∀ c', SamePeer c c' → Stays s ((s.call (.recv c.fd)).put c') := by
    intro c' hpeer
    have hcall : Stays s (s.call (.recv c.fd)) := Stays.congr rfl rfl rfl
    exact hcall.trans (Stays.put hd' hc hpeer)
  -- every removal is silent
  have hremove : ∀ c', SamePeer c c' →
      MembershipChange s ((s.call (.recv c.fd)).removeConnection c').2 := by
    intro c' hpeer
    obtain ⟨k, hr, -⟩ := removeConnection_eq (s.call (.recv c.fd)) c'
    rw [hr]
    refine MembershipChange.refused hc hst rfl ?_ ⟨_, rfl⟩ hpeer.serial
    intro d hdm hne
    refine (Keyed.mem_remove hd'.addrs).mpr ⟨hdm, ?_⟩
    rw [hpeer.addr]
    exact hd.addr_ne hc hdm hne
  rw [receiveClientHello_eq s hst]
  by_cases hfail : recvEnd replies = .failed
  · rw [if_pos hfail]
    exact hremove _ ⟨rfl, rfl, rfl⟩
  · rw [if_neg hfail]
    cases hp : parseFrame (c.inBuffer ++ recvData replies) with
    | illegal => exact hremove _ ⟨rfl, rfl, rfl⟩
    | incomplete =>
      dsimp only
      split_ifs
      · exact hremove _ ⟨rfl, rfl, rfl⟩
      · exact MembershipChange.stays (hput _ ⟨rfl, rfl, rfl⟩)
    | frame m rest =>
      dsimp only
      split_ifs
      · exact hremove _ ⟨rfl, rfl, rfl⟩
      · exact hremove _ ⟨rfl, rfl, rfl⟩
      · have hgreeted := hput ((c.absorb (recvData replies)).greeted s.name m rest) ⟨rfl, rfl, rfl⟩
        exact MembershipChange.stays (hgreeted.trans (Stays.fdMod _ _ _))
      · exact MembershipChange.stays (hput _ ⟨rfl, rfl, rfl⟩)

end Handlers

theorem handleReadStdinEvent_stays (s : Server) (line : Option Bytes) :
    Stays s (s.handleReadStdinEvent line).2 := by
  have hself : Stays s s := Stays.congr rfl rfl rfl
  have hnobody : ∀ {n : ℕ}, none = some n → ∃ c ∈ s.connections, c.serial = n :=
    fun h => by cases h
  cases line with
  | none => exact hself
  | some line =>
    rw [handleReadStdinEvent_eq]
    split_ifs
    · exact hself
    · have hann : Stays s ({ s with serverClosing := true } : Server).announceRoomClosing.2 :=
        (Stays.congr rfl rfl rfl : Stays s { s with serverClosing := true }).trans
          (Stays.post (e := .closing) rfl rfl (fun _ h => hnobody h))
      apply andThen_left hann
      intro _
      have hclose := hann.trans (Stays.queueClose _)
      exact andThen_left hclose (fun _ => hclose)
    · exact Stays.post (e := .hostChat s.name line) rfl rfl (fun _ h => hnobody h)
    · exact Stays.congr rfl rfl rfl

lemma handleAccept_arrive (s : Server) (replies : List AcceptReply) {t : Server}
    (ht : t = (s.handleAcceptClientConnectionEvent replies).2) :
    t.roomLog = s.roomLog ∧
      s.connections.map Connection.serial <+: t.connections.map Connection.serial ∧
      ∀ d ∈ t.departed, d ∈ s.departed ∨ s.accepted ≤ d.conn.serial := by
  subst ht
  have hself : s.roomLog = s.roomLog ∧
      s.connections.map Connection.serial <+: s.connections.map Connection.serial ∧
      ∀ d ∈ s.departed, d ∈ s.departed ∨ s.accepted ≤ d.conn.serial :=
    ⟨rfl, List.prefix_refl _, fun d hd => Or.inl hd⟩
  induction replies generalizing s with
  | nil => exact hself
  | cons reply replies ih =>
    cases reply with
    | error e =>
      rw [Server.handleAcceptClientConnectionEvent]
      split_ifs
      · exact hself
      · exact hself
    | socket fd addr =>
      rcases hreg : epollRegister (s.call (.accept fd)).kernel fd (epollIn ||| epollRdhup)
        with ⟨ok, k⟩
      cases ok with
      | true =>
        rw [handleAccept_accepts hreg]
        obtain ⟨hlog, hserials, hdeparted⟩ := ih { s.call (.accept fd) with
          connections := s.connections ++ [newConnection fd addr s.accepted]
          accepted := s.accepted + 1
          kernel := k } ⟨rfl, List.prefix_refl _, fun d hd => Or.inl hd⟩
        refine ⟨hlog, ?_, ?_⟩
        · rw [List.map_append] at hserials
          exact (List.prefix_append _ _).trans hserials
        · intro d hd
          exact (hdeparted d hd).imp_right (fun hle => Nat.le_of_succ_le hle)
      | false =>
        have hgone : ∀ d ∈ s.departed ++ [⟨newConnection fd addr s.accepted, s.roomLog.length⟩],
            d ∈ s.departed ∨ s.accepted ≤ d.conn.serial :=
          List.forall_mem_append.mpr ⟨fun d hd => Or.inl hd,
            List.forall_mem_singleton.mpr (Or.inr (Nat.le_refl _))⟩
        rw [handleAccept_refuses hreg]
        exact ⟨rfl, List.prefix_refl _, hgone⟩

/-! ### One handled event -/

/-- In this event an active connection is rejected for a frame, or its read fails. -/
def Server.ExpelsGuest (s : Server) (e : EpollEvent) (r : Replies) : Prop :=
  s.serverClosing = false ∧ ∃ c ∈ s.connections, c.fd = e.fd ∧ ¬c.WantsSend e.events ∧
    c.WantsRead e.events ∧
    (recvEnd r.recvs = .failed ∨ s.RejectedInBuffer c (c.inBuffer ++ recvData r.recvs))

lemma MembershipChange.of_tuned {s t : Server} {ctl : List (Option Errno)} {cache : Option ℕ}
    (h : MembershipChange (s.tuned ctl cache) t) : MembershipChange s t := by
  cases h with
  | stays h => exact MembershipChange.stays ⟨h.serials, h.departed, h.posted⟩
  | arrive hlog hserials hdeparted => exact MembershipChange.arrive hlog hserials hdeparted
  | refused hc hst hlog hothers hdeparted hserial =>
    exact MembershipChange.refused hc hst hlog hothers hdeparted hserial
  | leaves hc h =>
    exact MembershipChange.leaves hc ⟨h.chats, h.posted, h.told, h.others, h.recorded⟩

theorem handleEvent_membershipChange {s : Server} (hd : s.Distinct) {e : EpollEvent} {r : Replies}
    (hexpel : ¬s.ExpelsGuest e r) : MembershipChange s (s.handleEvent e r).2 := by
  have htuned : ∀ cache, Stays s (s.tuned r.ctl cache) := fun cache => Stays.congr rfl rfl rfl
  refine handleEvent_cases (Q := fun result => MembershipChange s result.2) hd e r
    (fun cache => MembershipChange.stays (htuned cache)) ?_ ?_ ?_ ?_ ?_
  · intro cache
    obtain ⟨hlog, hserials, hdeparted⟩ := handleAccept_arrive (s.tuned r.ctl cache) r.accepts rfl
    exact MembershipChange.arrive hlog hserials hdeparted
  · intro c hc _ _ hwants
    exact (receiveClientHello_parts (hd.tuned r.ctl _) hc hwants.1 r.recvs).of_tuned
  · intro c hc _ _
    exact MembershipChange.stays
      ((htuned _).trans (sendNetworkPackage_stays (hd.tuned r.ctl _) hc r.sends))
  · intro c hc hfd hopen hsends hread
    have hok : recvEnd r.recvs ≠ .failed := fun hfail =>
      hexpel ⟨hopen, c, hc, hfd, hsends, hread, Or.inl hfail⟩
    have hrejects : ¬s.RejectedInBuffer c (c.inBuffer ++ recvData r.recvs) := fun hrejects =>
      hexpel ⟨hopen, c, hc, hfd, hsends, hread, Or.inr hrejects⟩
    rcases readNetworkPackage_parts (hd.tuned r.ctl (some c.addr)) hc hread.1 hok hrejects with
      hstay | ⟨said, hleaves⟩
    · exact MembershipChange.stays ((htuned _).trans hstay)
    · have hchange : MembershipChange (s.tuned r.ctl (some c.addr)) _ :=
        MembershipChange.leaves hc hleaves
      exact hchange.of_tuned
  · intro cache
    exact MembershipChange.stays ((htuned cache).trans (handleReadStdinEvent_stays _ _))

/-! ### Runs -/

lemma Room.not_closed {host : Bytes} {r : Room}
    (hs : ReflTransGen (Room.Step host) Room.empty r) :
    ∀ n, r.left n = none → ∀ e ∈ r.log, ¬e.Closes n := by
  induction hs with
  | refl => exact fun _ _ e he => absurd he List.not_mem_nil
  | @tail r r' _ hlast ih =>
    -- an entry that is not a notice of departure
    have hpost : ∀ {e : RoomEntry}, (∀ n, ¬e.Closes n) → ∀ n, r.left n = none →
        ∀ x ∈ r.log ++ [e], ¬x.Closes n := fun he n hn =>
      List.forall_mem_append.mpr ⟨ih n hn, List.forall_mem_singleton.mpr (he n)⟩
    -- nobody is left behind by who leaves
    have hother : ∀ {n k : ℕ} (m : ℕ), Function.update r.left n (some k) m = none →
        m ≠ n ∧ r.left m = none := by
      intro n k m hm
      have hne : m ≠ n := by
        rintro rfl
        rw [Function.update_self] at hm
        cases hm
      rw [Function.update_of_ne hne] at hm
      exact ⟨hne, hm⟩
    cases hlast with
    | enter n name hn hleft => exact hpost (fun _ h => h)
    | say n text hn => exact hpost (fun _ h => h)
    | hostSays text => exact hpost (fun _ h => h)
    | close => exact hpost (fun _ h => h)
    | exit n hn =>
      intro m hm
      obtain ⟨hne, hleft⟩ := hother m hm
      exact List.forall_mem_append.mpr ⟨ih m hleft,
        List.forall_mem_singleton.mpr (fun heq => hne heq.symm)⟩
    | vanish n hleft => exact fun m hm => ih m (hother m hm).2

lemma account_append {s t : Server} {said : List RoomEntry} {n : ℕ}
    (hlog : t.roomLog = s.roomLog ++ said) (hsaid : ∀ e ∈ said, e.serial ≠ some n) :
    t.goodbyes n = s.goodbyes n ∧
      ((∃ e ∈ t.roomLog, e.Opens n) → ∃ e ∈ s.roomLog, e.Opens n) := by
  constructor
  · have hnil : said.filter (fun e => e.Closes n) = [] := by
      rw [List.filter_eq_nil_iff]
      intro e he hcloses
      exact hsaid e he (RoomEntry.serial_of_closes (of_decide_eq_true hcloses))
    rw [Server.goodbyes, hlog, List.filter_append, hnil, List.append_nil]
    rfl
  · rintro ⟨e, he, hopens⟩
    rw [hlog] at he
    rcases List.mem_append.mp he with he | he
    · exact ⟨e, he, hopens⟩
    · exact absurd (RoomEntry.serial_of_opens hopens) (hsaid e he)

/-- What is known about a server before it handles an event. -/
structure Server.Accounted (s : Server) : Prop where
  numbered : s.Numbered
  present : ∀ c ∈ s.connections, s.goodbyes c.serial = []
  before : ∀ c ∈ s.connections, c.state = .waitingForClientHello →
    ∀ e ∈ s.roomLog, ¬e.Opens c.serial
  new : ∀ n, s.accepted ≤ n → ∀ e ∈ s.roomLog, e.serial ≠ some n

/-- Everybody who was announced and is gone has been announced as gone once. -/
def Server.DeparturesAnnounced (s : Server) : Prop :=
  ∀ d ∈ s.departed, (∃ e ∈ s.roomLog, e.Opens d.conn.serial) →
    s.goodbyes d.conn.serial = [.disconnected d.conn.serial d.conn.name]

section MembershipChange

variable {s t : Server} (h : MembershipChange s t) (hs : s.Accounted)

include h hs

lemma MembershipChange.departuresAnnounced (hannounced : s.DeparturesAnnounced) :
    t.DeparturesAnnounced := by
  -- those who were gone before
  have hgone : ∀ {said : List RoomEntry}, t.roomLog = s.roomLog ++ said →
      (∀ e ∈ said, ∀ n, e.serial = some n → ∃ c ∈ s.connections, c.serial = n) →
      ∀ d ∈ s.departed, (∃ e ∈ t.roomLog, e.Opens d.conn.serial) →
        t.goodbyes d.conn.serial = [.disconnected d.conn.serial d.conn.name] := by
    intro said hlog hsaid d hd hopened
    have hother : ∀ e ∈ said, e.serial ≠ some d.conn.serial := by
      intro e he hserial
      obtain ⟨c, hc, heq⟩ := hsaid e he _ hserial
      exact hs.numbered.apart c hc d hd heq
    obtain ⟨hsame, hback⟩ := account_append hlog hother
    rw [hsame]
    exact hannounced d hd (hback hopened)
  have hsilent : t.roomLog = s.roomLog → t.roomLog = s.roomLog ++ [] := fun hlog => by
    rw [hlog, List.append_nil]
  cases h with
  | stays h =>
    obtain ⟨said, hlog, hsaid⟩ := h.posted
    intro d hd
    rw [h.departed] at hd
    exact hgone hlog hsaid d hd
  | arrive hlog hserials hdeparted =>
    intro d hd hopened
    rcases hdeparted d hd with hd | hle
    · exact hgone (hsilent hlog) (by simp) d hd hopened
    · obtain ⟨e, he, hopens⟩ := hopened
      rw [hlog] at he
      exact absurd (RoomEntry.serial_of_opens hopens) (hs.new _ hle e he)
  | @refused c c' hc hst hlog hothers hdeparted hserial =>
    obtain ⟨n, hdeparted⟩ := hdeparted
    intro d hd hopened
    rw [hdeparted] at hd
    rcases List.mem_append.mp hd with hd | hd
    · exact hgone (hsilent hlog) (by simp) d hd hopened
    · rw [List.mem_singleton.mp hd] at hopened
      obtain ⟨e, he, hopens⟩ := hopened
      rw [hlog] at he
      have hopens : e.Opens c'.serial := hopens
      rw [hserial] at hopens
      exact absurd hopens (hs.before c hc hst e he)
  | @leaves c said hc h =>
    obtain ⟨d₀, hdeparted, hserial, hname⟩ := h.recorded
    have habout : ∀ e ∈ said ++ [RoomEntry.disconnected c.serial c.name],
        e.serial = some c.serial := by
      refine List.forall_mem_append.mpr ⟨?_, List.forall_mem_singleton.mpr rfl⟩
      intro e he
      obtain ⟨text, rfl⟩ := h.chats e he
      rfl
    intro d hd
    rw [hdeparted] at hd
    rcases List.mem_append.mp hd with hd | hd
    · refine hgone h.posted ?_ d hd
      intro e he n hn
      rw [habout e he] at hn
      exact ⟨c, hc, Option.some.inj hn⟩
    · -- its chats are no notices, and there was no notice before
      intro _
      have hchats : said.filter (fun e => e.Closes c.serial) = [] := by
        rw [List.filter_eq_nil_iff]
        intro e he hcloses
        obtain ⟨text, rfl⟩ := h.chats e he
        exact (of_decide_eq_true hcloses : (RoomEntry.chat c.serial c.name text).Closes c.serial)
      have hbefore : s.roomLog.filter (fun e => e.Closes c.serial) = [] := hs.present c hc
      rw [List.mem_singleton.mp hd, hserial, hname, Server.goodbyes, h.posted, List.filter_append,
        List.filter_append, hbefore, hchats, List.filter_singleton]
      have hcloses : (RoomEntry.disconnected c.serial c.name).Closes c.serial := rfl
      simp [hcloses]

lemma MembershipChange.leaves_of_removed {c : Connection} (hc : c ∈ s.connections)
    (hopened : ∃ e ∈ s.roomLog, e.Opens c.serial)
    (hremoved : ∀ d ∈ t.connections, d.serial ≠ c.serial) : ∃ said, Leaves c said s t := by
  have hlisted : c.serial ∈ s.connections.map Connection.serial := List.mem_map_of_mem hc
  have habsent : c.serial ∉ t.connections.map Connection.serial := by
    intro hmem
    obtain ⟨d, hd, hserial⟩ := List.mem_map.mp hmem
    exact hremoved d hd hserial
  cases h with
  | stays h =>
    rw [← h.serials] at hlisted
    exact absurd hlisted habsent
  | arrive hlog hserials hdeparted => exact absurd (hserials.subset hlisted) habsent
  | @refused b b' hb hst hlog hothers hdeparted hserial =>
    by_cases heq : c.serial = b.serial
    · obtain ⟨e, he, hopens⟩ := hopened
      rw [heq] at hopens
      exact absurd hopens (hs.before b hb hst e he)
    · exact absurd rfl (hremoved c (hothers c hc heq))
  | @leaves b said hb h =>
    by_cases heq : c.serial = b.serial
    · rw [Keyed.eq_of_key_eq hs.numbered.live hc hb heq]
      exact ⟨said, h⟩
    · obtain ⟨d, hd, hserial⟩ := h.others c hc heq
      exact absurd hserial (hremoved d hd)

end MembershipChange

/-- The steps in which no guest is expelled. -/
def NoGuestExpelled (l : Loop) : LoopInput → Prop
  | .replies r => ∀ e ∈ l.nextEvent, ¬l.server.ExpelsGuest e r
  | _ => True

section Runs

variable {host : Bytes} {P : Loop → LoopInput → Prop} {l : Loop}

lemma reach_accounted (hr : (serverSystem host).Reach P l) (hrun : l.Running) :
    l.server.Accounted := by
  obtain ⟨r, hsteps, hrep⟩ := reach_represents hr hrun
  have hclosed := Room.not_closed hsteps
  rw [hrep.log] at hclosed
  refine ⟨reach_numbered hr, ?_, ?_, ?_⟩
  · intro c hc
    rw [Server.goodbyes, List.filter_eq_nil_iff]
    intro e he hcloses
    exact hclosed _ (hrep.live c hc).left e he (of_decide_eq_true hcloses)
  · exact fun c hc hst => ((reach_gated hr).live c hc).before (Or.inl hst)
  · intro n hn e he
    obtain ⟨habsent, hleft, -, -⟩ := hrep.fresh n hn
    have hinv : r.Inv host := (Room.empty_inv host).steps hsteps
    rw [← hrep.log] at he
    exact hinv.outside n habsent hleft e he

lemma step_membershipChange (hr : (serverSystem host).Reach P l) {i : LoopInput} {l' : Loop}
    (hexpel : NoGuestExpelled l i) (hstep : serverLoopStep l i = some l') :
    l.Running ∧ MembershipChange l.server l'.server := by
  obtain ⟨hrun, heq | ⟨r, e, es, ok, rfl, hphase, hev, -⟩⟩ := serverLoopStep_cases hstep
  · rw [heq]
    exact ⟨hrun, MembershipChange.stays (Stays.congr rfl rfl rfl)⟩
  · have hexpels : ¬l.server.ExpelsGuest e r := by
      apply hexpel
      rw [Loop.nextEvent, hphase]
      rfl
    have hchange := handleEvent_membershipChange (reach_inv hr hrun).sound.registry.distinct hexpels
    rw [hev] at hchange
    exact ⟨hrun, hchange⟩

lemma reach_departuresAnnounced (hr : (serverSystem host).Reach NoGuestExpelled l) :
    l.server.DeparturesAnnounced := by
  refine hr.invariant_of_reach (I := fun l => l.server.DeparturesAnnounced) ?_ ?_
  · rintro l ⟨listenFd, epollFd, -, rfl⟩
    exact fun d hd => absurd hd List.not_mem_nil
  · rintro l i l' hreach hannounced hexpel ⟨-, hl⟩
    obtain ⟨hrun, hchange⟩ := step_membershipChange hreach hexpel hl
    exact hchange.departuresAnnounced (reach_accounted hreach hrun) hannounced

end Runs

/-- In every run in which no guest is expelled, each guest that was announced and is gone
was announced as gone exactly once, nobody else was, and at the moment a guest is removed
every other guest is queued the notice. -/
theorem departures_are_announced {host : Bytes} {l : Loop}
    (hr : (serverSystem host).Reach NoGuestExpelled l) :
    l.server.Balanced ∧
      ∀ i l', NoGuestExpelled l i → (serverSystem host).step l i l' → ∀ c ∈ l.server.connections,
        (∃ e ∈ l.server.roomLog, e.Opens c.serial) →
          (∀ d ∈ l'.server.connections, d.serial ≠ c.serial) →
            ∃ said, Leaves c said l.server l'.server := by
  refine ⟨⟨reach_departuresAnnounced hr, ?_⟩, ?_⟩
  · intro c hc hno
    have hunheard := ((reach_gated hr).byHandshake.never c hc hno).unheard
    rw [Server.goodbyes, List.filter_eq_nil_iff]
    intro e he hcloses
    exact hunheard e he (RoomEntry.serial_of_closes (of_decide_eq_true hcloses))
  · rintro i l' hexpel ⟨-, hl⟩ c hc hopened hremoved
    obtain ⟨hrun, hchange⟩ := step_membershipChange hr hexpel hl
    exact hchange.leaves_of_removed (reach_accounted hr hrun) hc hopened hremoved

instance (s : Server) (c : Connection) (buffer : Bytes) : Decidable (s.RejectedInBuffer c buffer) :=
  inferInstanceAs (Decidable (_ ∧ s.LinesFit (some c.addr) (spoken false c.serial c.name buffer)))

instance (s : Server) (e : EpollEvent) (r : Replies) : Decidable (s.ExpelsGuest e r) :=
  inferInstanceAs (Decidable (_ ∧ ∃ c ∈ s.connections, c.fd = e.fd ∧ ¬c.WantsSend e.events ∧
    c.WantsRead e.events ∧
    (recvEnd r.recvs = .failed ∨ s.RejectedInBuffer c (c.inBuffer ++ recvData r.recvs))))

instance (l : Loop) (i : LoopInput) : Decidable (NoGuestExpelled l i) :=
  match i with
  | .replies r => inferInstanceAs (Decidable (∀ e ∈ l.nextEvent, ¬l.server.ExpelsGuest e r))
  | .events _ | .waitFailed _ | .endOfBatch => inferInstanceAs (Decidable True)

/-- One of two guests hangs up. -/
theorem departures_are_announced_hangup : ∃ s t : Server, ∃ c ∈ s.connections,
    s.Balanced ∧ t.Balanced ∧ t.goodbyes 0 = [.disconnected 0 (ascii "ann")] ∧
      ∃ said, Leaves c said s t := by
  obtain ⟨l, hl, hphase, hopen, hempty, c, hc, hserial, hfd, hsend, hwants, hlen, t, ht, hopened,
      hremoved, hbye⟩ : ∃ l,
      runInputs NoGuestExpelled ⟨initialServer (ascii "host") 3 4, .waiting⟩
        (twoGuests ++ [.events [⟨5, epollIn⟩]]) = some l ∧
      l.phase = .handling [⟨5, epollIn⟩] ∧ l.server.serverClosing = false ∧
      (∀ d ∈ l.server.connections, d.inBuffer = []) ∧
      ∃ c ∈ l.server.connections, c.serial = 0 ∧ c.fd = 5 ∧ ¬c.WantsSend epollIn ∧
      c.WantsRead epollIn ∧ (c.ingested [.bytes []]).inBuffer.length < 1 ∧
      ∃ t, (((l.server.tuned [] (some c.addr)).call (.recv c.fd)).put
        (c.ingested [.bytes []])).readMessagesUpTo 1 (c.ingested [.bytes []]) = (true, t) ∧
      (∃ e ∈ l.server.roomLog, e.Opens 0) ∧ (∀ d ∈ t.connections, d.serial ≠ 0) ∧
      t.goodbyes 0 = [.disconnected 0 (ascii "ann")] :=
    ⟨_, rfl, rfl, rfl, by decide, _, List.mem_cons_self, rfl, rfl, by decide, by decide, by decide,
      _, rfl, ⟨_, List.mem_cons_self, by decide⟩, by decide, by decide⟩
  rw [← hserial] at hopened hremoved
  have hreach : (serverSystem (ascii "host")).Reach NoGuestExpelled l :=
    runInputs_reach (by decide) hl
  have hrun : l.Running := Loop.running_of_handling hphase
  have hreg := (reach_inv hreach hrun).sound.registry
  have hstep : (serverSystem (ascii "host")).step l (.replies { recvs := [.bytes []] })
      ⟨t, .handling []⟩ :=
    ⟨freshSockets_nil l.server,
      serverLoopStep_read hreg hphase hopen hc hfd hsend hwants (by decide) hlen ht⟩
  have hexpel : NoGuestExpelled l (.replies { recvs := [.bytes []] }) := by
    rintro e - ⟨-, d, hd, -, -, -, hfail | ⟨hoff, -⟩⟩
    · exact absurd hfail (by decide)
    · rw [hempty d hd, breaksProtocol_incomplete rfl] at hoff
      cases hoff
  obtain ⟨hbalanced, hleaves⟩ := departures_are_announced hreach
  have hbalanced' := (departures_are_announced (hreach.snoc hexpel hstep)).1
  exact ⟨l.server, t, c, hc, hbalanced, hbalanced', hbye,
    hleaves _ _ hexpel hstep c hc hopened hremoved⟩

/-- The connection under fd 5 is reset while another guest is in the room. -/
theorem reset_guest_is_not_announced :
    ¬∀ (host : Bytes) (l l' : Loop) (i : LoopInput) (c : Connection),
      (serverSystem host).Reach System.any l → (serverSystem host).step l i l' →
        l.server.serverClosing = false → c ∈ l.server.connections →
          (∃ e ∈ l.server.roomLog, e.Opens c.serial) →
            (∀ d ∈ l'.server.connections, d.serial ≠ c.serial) →
              ∃ said, Leaves c said l.server l'.server := by
  intro hclaim
  obtain ⟨l, l', hl, hl', hopen, c, hc, hserial, hopened, hremoved, hlog, hlog'⟩ : ∃ l l',
      runInputs System.any ⟨initialServer (ascii "host") 3 4, .waiting⟩
        (twoGuests ++ [.events [⟨5, epollIn⟩]]) = some l ∧
      serverLoopStep l (.replies { recvs := [.error .econnreset] }) = some l' ∧
      l.server.serverClosing = false ∧ ∃ c ∈ l.server.connections, c.serial = 0 ∧
      (∃ e ∈ l.server.roomLog, e.Opens 0) ∧ (∀ d ∈ l'.server.connections, d.serial ≠ 0) ∧
      l.server.roomLog.length = 3 ∧ l'.server.roomLog.length = 3 :=
    ⟨_, _, rfl, rfl, rfl, _, List.mem_cons_self, rfl, ⟨_, List.mem_cons_self, by decide⟩,
      by decide, rfl, rfl⟩
  rw [← hserial] at hopened hremoved
  have hreach : (serverSystem (ascii "host")).Reach System.any l :=
    runInputs_reach (by decide) hl
  have hadm : LoopInput.Admissible l (.replies { recvs := [.error .econnreset] }) :=
    freshSockets_nil l.server
  obtain ⟨said, h⟩ := hclaim _ l l' _ c hreach ⟨hadm, hl'⟩ hopen hc hopened hremoved
  have hlen := congrArg List.length h.posted
  rw [List.length_append, List.length_append, List.length_singleton, hlog, hlog'] at hlen
  omega

end Chatroom
