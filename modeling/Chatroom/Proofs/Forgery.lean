import Chatroom.Proofs.Chronicle
import Chatroom.Proofs.Speech

/-!
# Whose notices the clients are shown

A line of the room is `[name] text`, and notices are lines of the name `server`. The names
that clients send are not checked, so a client can choose one under which its chats look
like notices. This is the only way: in a run in which no such client chats, everything that
looks like a notice is one.
-/

namespace Chatroom
open Fallible Transition

/-! ### Lines that look like notices -/

/-- What a notice begins with. -/
def serverTag : Bytes :=
  ascii "[server] "

/-- The entries that the three `announce_*` functions post. -/
def RoomEntry.IsNotice : RoomEntry → Prop
  | .connected _ _ | .disconnected _ _ | .closing => True
  | .chat _ _ _ | .hostChat _ _ => False

instance : DecidablePred RoomEntry.IsNotice
  | .connected _ _ | .disconnected _ _ | .closing => inferInstanceAs (Decidable True)
  | .chat _ _ _ | .hostChat _ _ => inferInstanceAs (Decidable False)

/-- The names under which every line looks like a notice. -/
def Forging (name : Bytes) : Prop :=
  name = ascii "server" ∨ ascii "server] " <+: name

instance (name : Bytes) : Decidable (Forging name) :=
  inferInstanceAs (Decidable (_ ∨ _))

/-- Whether a line looks like a notice depends on the name alone. -/
lemma serverTag_prefix_iff (name text : Bytes) :
    serverTag <+: formatLine name text ↔ Forging name := by
  have hcons : serverTag <+: formatLine name text ↔
      ascii "server] " <+: name ++ (ascii "] " ++ text) := by
    have htag : serverTag = ascii "[" ++ ascii "server] " := by decide
    rw [htag, formatLine, List.append_assoc, List.append_assoc, List.prefix_append_right_inj]
  rw [hcons]
  constructor
  · intro h
    by_cases hlen : (ascii "server] ").length ≤ name.length
    · right
      exact List.prefix_of_prefix_length_le h (List.prefix_append _ _) hlen
    · left
      have hname : name <+: ascii "server] " :=
        List.prefix_of_prefix_length_le (List.prefix_append _ _) h (by omega)
      obtain ⟨rest, hrest⟩ := hname
      rw [← hrest, List.prefix_append_right_inj] at h
      -- what is left of the tag begins with the bracket that follows the name
      have hbracket : rest.head? = some 93 := by
        obtain ⟨tail, htail⟩ := h
        cases rest with
        | nil =>
          rw [List.append_nil] at hrest
          exact absurd (Nat.le_of_eq (congrArg List.length hrest.symm)) hlen
        | cons ch rest =>
          injection htail with hch
          exact congrArg some hch
      have honly : ∀ n < 8, ((ascii "server] ").drop n).head? = some 93 →
          (ascii "server] ").take n = ascii "server" := by decide
      have hlt : name.length < 8 := by
        have h8 : (ascii "server] ").length = 8 := by decide
        omega
      have htake : (ascii "server] ").take name.length = name := by
        rw [← hrest, List.take_left]
      have hdrop : (ascii "server] ").drop name.length = rest := by
        rw [← hrest, List.drop_left]
      rw [← hdrop] at hbracket
      rw [← htake]
      exact honly name.length hlt hbracket
  · rintro (rfl | h)
    · have hsplit : ascii "server] " = ascii "server" ++ ascii "] " := by decide
      rw [hsplit, List.prefix_append_right_inj]
      exact List.prefix_append _ _
    · exact h.trans (List.prefix_append _ _)

lemma not_forging_of_admitted {name : Bytes} (hreserved : nameIsReserved name = false)
    (hspace : ∀ ch ∈ name, isSpace ch = false) : ¬Forging name := by
  rintro (rfl | h)
  · exact absurd hreserved (by decide)
  · have hmem : (32 : Byte) ∈ name := h.subset (by decide)
    exact absurd (hspace 32 hmem) (by decide)

/-! ### Where the frames come from -/

/-- What connection `n` has to be told according to a log, as entries. -/
def dueEntries (n : ℕ) (log : List RoomEntry) : List RoomEntry :=
  Subscription.view (RoomEntry.Opens n) (RoomEntry.Tells n) log

/-- The BROADCAST frames that were queued to a connection are the messages of the first entries
that it has to be told, one frame an entry, and the entries among these that look like notices
are notices. -/
def Connection.NoticesGenuine (log : List RoomEntry) (c : Connection) : Prop :=
  ∃ heard : List RoomEntry, heard <+: dueEntries c.serial log ∧
    c.broadcasts = heard.map RoomEntry.message ∧ ∀ e ∈ heard, serverTag <+: e.line → e.IsNotice

/-- No notice that was queued to a connection, present or gone, is forged. -/
structure Server.Authentic (s : Server) : Prop where
  live : ∀ c ∈ s.connections, c.NoticesGenuine s.roomLog
  gone : ∀ d ∈ s.departed, d.conn.NoticesGenuine s.roomLog

/-- A connection was queued all that it has to be told, and the next entry is for it. -/
structure Connection.DueNext (log : List RoomEntry) (e : RoomEntry) (c : Connection) : Prop where
  exact : c.broadcasts = dueBroadcasts c.serial log
  due : dueEntries c.serial (log ++ [e]) = dueEntries c.serial log ++ [e]

namespace Connection.NoticesGenuine

variable {log : List RoomEntry} {c c' : Connection}

lemma congr (h : c.NoticesGenuine log) (hserial : c'.serial = c.serial)
    (hbroadcasts : c'.broadcasts = c.broadcasts) : c'.NoticesGenuine log := by
  obtain ⟨heard, hpre, heq, hgenuine⟩ := h
  rw [← hserial] at hpre
  exact ⟨heard, hpre, hbroadcasts.trans heq, hgenuine⟩

lemma extend (h : c.NoticesGenuine log) (e : RoomEntry) : c.NoticesGenuine (log ++ [e]) := by
  obtain ⟨heard, hpre, heq, hgenuine⟩ := h
  exact ⟨heard, hpre.trans (Subscription.view_prefix (List.prefix_append _ _)), heq, hgenuine⟩

lemma of_silent (log : List RoomEntry) (hc : c.broadcasts = []) : c.NoticesGenuine log :=
  ⟨[], List.nil_prefix, hc, by simp⟩

lemma told (h : c.NoticesGenuine log) {p : Connection → Prop} {e : RoomEntry}
    (ht : Told p e.message c c') (hdue : p c → c.DueNext log e)
    (he : p c → protocolPayloadLengthIsLegal e.line.length → serverTag <+: e.line → e.IsNotice) :
    c'.NoticesGenuine (log ++ [e]) := by
  cases ht with
  | missed => exact h.extend e
  | rejected hp hm => exact (h.extend e).congr rfl rfl
  | queued hp hm =>
    obtain ⟨hexact, hnext⟩ := hdue hp
    obtain ⟨heard, hpre, heq, hgenuine⟩ := h
    -- nothing was left out before, so the frame stands for this entry and for no other one
    have hlen : heard.length = (dueEntries c.serial log).length := by
      have hmap : heard.map RoomEntry.message = (dueEntries c.serial log).map RoomEntry.message :=
        heq.symm.trans hexact
      simpa using congrArg List.length hmap
    have hall : heard = dueEntries c.serial log := hpre.eq_of_length hlen
    refine ⟨heard ++ [e], ?_, ?_, ?_⟩
    · show heard ++ [e] <+: dueEntries c.serial (log ++ [e])
      rw [hnext, hall]
    · rw [broadcasts_enqueue c rfl, heq, List.map_append]
      rfl
    · exact List.forall_mem_append.mpr ⟨hgenuine, List.forall_mem_singleton.mpr (he hp hm)⟩

end Connection.NoticesGenuine

section Due

variable {host : Bytes} {s : Server} {r : Room} (hm : s.Midway host r) {c c' : Connection}
  {e : RoomEntry} {sender : Option ℕ}

include hm

lemma Server.Midway.dueNext (hc : c ∈ s.connections) (hst : c.state = .active)
    (he : e.serial ≠ some c.serial) : c.DueNext s.roomLog e := by
  refine ⟨hm.heard hc, ?_⟩
  have hopened := hm.opened_of_joined hc (Or.inl hst)
  rw [dueEntries, Subscription.view_append hopened, List.filter_singleton]
  simp [RoomEntry.tells_of_serial_ne he, dueEntries]

lemma Server.Midway.dueNext_put (hc : c ∈ s.connections) (hpeer : SamePeer c c')
    (he : e.serial = some c.serial) (hactor : Hears sender c' → c'.DueNext s.roomLog e) :
    ∀ d ∈ (s.put c').connections, Hears sender d → d.DueNext s.roomLog e := by
  intro d hd hh
  rcases mem_put_cases hm.sound.registry.distinct hc hd hpeer.addr with rfl | ⟨hmem, -, hne⟩
  · exact hactor hh
  · apply hm.dueNext hmem hh.2
    rw [he]
    exact fun heq => hne (Option.some.inj heq).symm

lemma Server.Midway.dueNext_all (he : e.serial = none) :
    ∀ d ∈ s.connections, Hears none d → d.DueNext s.roomLog e := by
  intro d hd hh
  exact hm.dueNext hd hh.2 (by simp [he])

lemma Server.Midway.dueNext_joining (hc : c ∈ s.connections)
    (hst : c.state = .sendingServerHello) :
    c.joined.DueNext s.roomLog (.connected c.serial c.name) := by
  have hj : ¬c.Joined := by
    rintro (h | h) <;> simp [hst] at h
  have hno : ∀ e ∈ s.roomLog, ¬e.Opens c.serial := fun e he hopen =>
    hm.outside hc hj e he (RoomEntry.serial_of_opens hopen)
  have hopens : (RoomEntry.connected c.serial c.name).Opens c.serial := rfl
  have htells := RoomEntry.tells_of_opens hopens
  have hexact : c.broadcasts = dueBroadcasts c.serial s.roomLog := hm.heard hc
  refine ⟨hexact, ?_⟩
  show dueEntries c.serial _ = dueEntries c.serial _ ++ _
  rw [dueEntries, dueEntries, Subscription.view_opening hno hopens htells,
    Subscription.view_of_not_opened hno, List.nil_append]

end Due

namespace Server.Authentic

variable {s : Server} (h : s.Authentic)

include h

lemma congr {t : Server} (hconns : t.connections = s.connections)
    (hdeparted : t.departed = s.departed) (hlog : t.roomLog = s.roomLog) : t.Authentic := by
  constructor
  · rw [hconns, hlog]
    exact h.live
  · rw [hdeparted, hlog]
    exact h.gone

lemma put {c : Connection} (hc : c.NoticesGenuine s.roomLog) : (s.put c).Authentic := by
  refine ⟨?_, h.gone⟩
  intro d hd
  rcases Keyed.mem_replace hd with rfl | ⟨hmem, -⟩
  · exact hc
  · exact h.live d hmem

lemma fdMod (fd : Fd) (events : EventMask) : (s.fdMod fd events).2.Authentic := by
  unfold Server.fdMod
  exact h.congr rfl rfl rfl

lemma removeConnection {c : Connection} (hc : c.NoticesGenuine s.roomLog) :
    (s.removeConnection c).2.Authentic := by
  obtain ⟨k, hr, -⟩ := removeConnection_eq s c
  rw [hr]
  constructor
  · intro d hd
    exact h.live d ((Keyed.remove_sublist c.addr s.connections).subset hd)
  · exact List.forall_mem_append.mpr ⟨h.gone, List.forall_mem_singleton.mpr hc⟩

lemma post {e : RoomEntry} {author : Bytes} {notice : Message} {sender : Option ℕ}
    (hauthor : author = e.author) (htext : notice.payload = e.text)
    (hdue : ∀ d ∈ s.connections, Hears sender d → d.DueNext s.roomLog e)
    (he : ∀ d ∈ s.connections, Hears sender d → protocolPayloadLengthIsLegal e.line.length →
      serverTag <+: e.line → e.IsNotice) :
    (s.post e author notice sender).2.Authentic := by
  rcases hpost : s.post e author notice sender with ⟨ok, t⟩
  obtain ⟨cs, k, rfl, htold⟩ := post_told hauthor htext hpost
  constructor
  · intro d hd
    obtain ⟨c, hc, ht⟩ := told_of_mem htold hd
    exact (h.live c hc).told ht (hdue c hc) (he c hc)
  · exact fun d hd => (h.gone d hd).extend e

lemma queueClose : s.queueCloseToAllClients.2.Authentic := by
  rcases hclose : s.queueCloseToAllClients with ⟨ok, t⟩
  obtain ⟨cs, k, rfl, htold⟩ := queueClose_told hclose
  refine ⟨?_, h.gone⟩
  intro d hd
  obtain ⟨c, hc, ht⟩ := told_of_mem htold hd
  have hsame : d.serial = c.serial ∧ d.broadcasts = c.broadcasts := by
    cases ht with
    | missed => exact ⟨rfl, rfl⟩
    | queued hp hm => exact ⟨rfl, broadcasts_enqueue_other c (by decide)⟩
    | rejected hp hm => exact ⟨rfl, rfl⟩
  exact (h.live c hc).congr hsame.1 hsame.2

end Server.Authentic

/-! ### The handlers -/

section Handlers

variable {host : Bytes} {r : Room} {s : Server} (h : s.Authentic)

include h

theorem handleAccept_authentic (replies : List AcceptReply) :
    (s.handleAcceptClientConnectionEvent replies).2.Authentic := by
  induction replies generalizing s with
  | nil => exact h
  | cons reply replies ih =>
    cases reply with
    | error e =>
      rw [Server.handleAcceptClientConnectionEvent]
      split_ifs <;> exact h
    | socket fd addr =>
      have hnew : ∀ log, (newConnection fd addr s.accepted).NoticesGenuine log :=
        fun log => Connection.NoticesGenuine.of_silent log rfl
      rcases hreg : epollRegister (s.call (.accept fd)).kernel fd (epollIn ||| epollRdhup)
        with ⟨ok, k⟩
      cases ok with
      | true =>
        rw [handleAccept_accepts hreg]
        refine ih ⟨?_, h.gone⟩
        exact List.forall_mem_append.mpr ⟨h.live, List.forall_mem_singleton.mpr (hnew _)⟩
      | false =>
        have hgone : ∀ d ∈ s.departed ++ [⟨newConnection fd addr s.accepted, s.roomLog.length⟩],
            d.conn.NoticesGenuine s.roomLog :=
          List.forall_mem_append.mpr ⟨h.gone, List.forall_mem_singleton.mpr (hnew _)⟩
        rw [handleAccept_refuses hreg]
        exact ⟨h.live, hgone⟩

theorem receiveClientHello_authentic {c : Connection} (hc : c ∈ s.connections)
    (hst : c.state = .waitingForClientHello) (replies : List RecvReply) :
    (s.receiveClientHello c replies).2.Authentic := by
  have hcall : (s.call (.recv c.fd)).Authentic := h.congr rfl rfl rfl
  have hnotices := h.live c hc
  have hgreeting : MessageType.serverHello ≠ .broadcast := by decide
  rw [receiveClientHello_eq s hst]
  by_cases hfail : recvEnd replies = .failed
  · rw [if_pos hfail]
    exact hcall.removeConnection (hnotices.congr rfl rfl)
  · rw [if_neg hfail]
    cases hp : parseFrame (c.inBuffer ++ recvData replies) with
    | illegal => exact hcall.removeConnection (hnotices.congr rfl rfl)
    | incomplete =>
      dsimp only
      split_ifs
      · exact hcall.removeConnection (hnotices.congr rfl rfl)
      · exact hcall.put (hnotices.congr rfl rfl)
    | frame m rest =>
      dsimp only
      split_ifs
      · exact hcall.removeConnection (hnotices.congr rfl rfl)
      · exact hcall.removeConnection (hnotices.congr rfl rfl)
      · have hgreeted :
            ((c.absorb (recvData replies)).greeted s.name m rest).NoticesGenuine s.roomLog :=
          hnotices.congr rfl (broadcasts_enqueue_other _ hgreeting)
        exact (hcall.put hgreeted).fdMod _ _
      · exact hcall.put (hnotices.congr rfl rfl)

theorem sendNetworkPackage_authentic (hm : s.Midway host r) {c : Connection}
    (hc : c ∈ s.connections) (replies : List SendReply) :
    (s.sendNetworkPackage c replies).2.Authentic := by
  have hcall : (s.call (.send c.fd)).Authentic := h.congr rfl rfl rfl
  have hput : ∀ d : Connection, d.serial = c.serial → d.broadcasts = c.broadcasts →
      ((s.call (.send c.fd)).put d).Authentic :=
    fun d hserial hd => hcall.put ((h.live c hc).congr hserial hd)
  rw [sendNetworkPackage_eq]
  split_ifs with _ hhello
  · have hdue : ∀ d ∈ (s.put c.joined).connections, Hears none d →
        d.DueNext s.roomLog (.connected c.serial c.name) :=
      hm.dueNext_put hc ⟨rfl, rfl, rfl⟩ rfl (fun _ => hm.dueNext_joining hc hhello)
    exact (hput c.joined rfl rfl).post (e := .connected c.serial c.name) rfl rfl hdue
      (fun _ _ _ _ _ => trivial)
  · exact (hput c.drained rfl rfl).fdMod _ _
  · exact hput _ rfl rfl
  · exact hput _ rfl rfl

lemma leave_authentic (hm : s.Midway host r) {c c' : Connection} (hc : c ∈ s.connections)
    (hpeer : SamePeer c c') (hc' : c'.NoticesGenuine s.roomLog) :
    (andThen ((s.put c').announceClientDisconnected c')
      (fun t => t.removeConnection c')).2.Authentic := by
  have he : (RoomEntry.disconnected c'.serial c'.name).serial = some c.serial :=
    congrArg some hpeer.serial
  have hdue : ∀ d ∈ (s.put c').connections, Hears (some c'.addr) d →
      d.DueNext s.roomLog (.disconnected c'.serial c'.name) :=
    hm.dueNext_put hc hpeer he (fun hh => absurd rfl hh.1)
  have hann : ((s.put c').announceClientDisconnected c').2.Authentic :=
    (h.put hc').post (e := .disconnected c'.serial c'.name) rfl rfl hdue
      (fun _ _ _ _ _ => trivial)
  refine andThen_left hann (fun _ => hann.removeConnection ?_)
  exact hc'.extend (.disconnected c'.serial c'.name)

theorem handleReadStdinEvent_authentic (hm : s.Midway host r) (hhost : ¬Forging s.name)
    (line : Option Bytes) :
    (s.handleReadStdinEvent line).2.Authentic := by
  cases line with
  | none => exact h
  | some line =>
    rw [handleReadStdinEvent_eq]
    split_ifs
    · exact h
    · have hclosing : ({ s with serverClosing := true } : Server).Authentic := h.congr rfl rfl rfl
      have hann : ({ s with serverClosing := true } : Server).announceRoomClosing.2.Authentic :=
        hclosing.post (e := .closing) rfl rfl (hm.dueNext_all rfl) (fun _ _ _ _ _ => trivial)
      apply andThen_left hann
      intro _
      exact andThen_left hann.queueClose (fun _ => hann.queueClose)
    · refine h.post (e := .hostChat s.name line) rfl rfl (hm.dueNext_all rfl) ?_
      intro d _ _ _ htag
      exact absurd ((serverTag_prefix_iff s.name line).mp htag) hhost
    · exact h.congr rfl rfl rfl

/-- The next frame in the buffer is a CHAT whose line fits a frame. -/
def Connection.ChatsNext (c : Connection) : Prop :=
  match parseFrame c.inBuffer with
  | .frame m _ =>
    m.type = .chat ∧ protocolPayloadLengthIsLegal (formatLine c.name m.payload).length
  | _ => False

/-- The next frame in the buffer of a connection is a CHAT that somebody is to hear. -/
def Server.HearsNextChat (s : Server) (c : Connection) : Prop :=
  s.Attended (some c.addr) ∧ c.ChatsNext

theorem readMessages_authentic (hm : s.Midway host r) {c : Connection} (hmem : c ∈ s.connections)
    (hclosed : ClosedBy (some c.serial) s) (hst : c.state = .active ∨ c.state = .closed)
    (hhonest : Forging c.name → ¬s.HearsNextChat c) : (s.readMessages c).2.Authentic := by
  induction hn : c.inBuffer.length using Nat.strong_induction_on generalizing s c r with
  | h n ih =>
    have hc := h.live c hmem
    cases hp : parseFrame c.inBuffer with
    | illegal =>
      rw [readMessages_illegal s hp]
      exact h.removeConnection (hc.congr rfl rfl)
    | incomplete =>
      rw [readMessages_incomplete s hp hst]
      split_ifs
      · exact leave_authentic h hm hmem (SamePeer.refl c) hc
      · exact h.put hc
    | frame m rest =>
      have hcut : (c.cut m rest).NoticesGenuine s.roomLog := hc.congr rfl rfl
      have hpeer : SamePeer c (c.cut m rest) := ⟨rfl, rfl, rfl⟩
      rw [readMessages_frame s hp hst]
      split_ifs with hclose hpayload hchat
      · exact h.removeConnection (hc.congr rfl rfl)
      · exact leave_authentic h hm hmem hpeer hcut
      · exact h.removeConnection (hc.congr rfl rfl)
      · have hattended : (s.put (c.cut m rest)).Attended (some c.addr) ↔
            s.Attended (some c.addr) := attended_put rfl
        -- a forged chat is not heard: nobody listens, or it is too long
        have hunheard : Forging c.name → s.Attended (some c.addr) →
            ¬protocolPayloadLengthIsLegal (formatLine c.name m.payload).length := by
          intro hforging hatt hlegal
          apply hhonest hforging
          rw [Server.HearsNextChat, Connection.ChatsNext, hp]
          exact ⟨hatt, not_not.mp hchat, hlegal⟩
        rcases hr : (s.put (c.cut m rest)).post (.chat c.serial c.name m.payload) c.name m
          (some c.addr) with ⟨ok, t⟩
        have hpost : t.Authentic := by
          have hput : ((s.put (c.cut m rest)).post (.chat c.serial c.name m.payload) c.name m
              (some c.addr)).2.Authentic := by
            have hdue : ∀ d ∈ (s.put (c.cut m rest)).connections, Hears (some c.addr) d →
                d.DueNext s.roomLog (.chat c.serial c.name m.payload) :=
              hm.dueNext_put hmem hpeer rfl (fun hh => absurd rfl hh.1)
            refine (h.put hcut).post (e := .chat c.serial c.name m.payload) rfl rfl hdue ?_
            intro d hd hh hlegal htag
            have hforging := (serverTag_prefix_iff c.name m.payload).mp htag
            exact absurd hlegal (hunheard hforging (hattended.mp ⟨d, hd, hh⟩))
          rw [hr] at hput
          exact hput
        cases ok with
        | false => exact hpost
        | true =>
          obtain ⟨hstep, -, hmem'⟩ :=
            chat_true hm.sound.registry.distinct hmem hst hp (not_not.mp hchat) hr
          obtain ⟨r', hm', hclosed'⟩ := (Effects.single hstep).midway hclosed hm
          obtain ⟨k, rfl, hlegal, -⟩ :=
            post_true (e := .chat c.serial c.name m.payload) rfl rfl hr
          have hlt : (c.cut m rest).inBuffer.length < n := by
            rw [← hn]
            exact frameCodec.rest_length_lt hp
          refine ih _ hlt hpost hm' hmem' hclosed' hst ?_ rfl
          rintro hforging ⟨hatt, -⟩
          obtain ⟨d, hd, hh⟩ := (attended_heard _ _ _ _).mp hatt
          exact hunheard hforging (hattended.mp ⟨d, hd, hh⟩) (hlegal d hd hh)

theorem readNetworkPackage_authentic (hm : s.Midway host r) {c : Connection}
    (hc : c ∈ s.connections) (hclosed : ClosedBy (some c.serial) s) (hst : c.state = .active)
    {replies : List RecvReply}
    (hhonest : Forging c.name → recvEnd replies ≠ .failed →
      ¬s.HearsNextChat (c.absorb (recvData replies))) :
    (s.readNetworkPackage c replies).2.Authentic := by
  have hcall : (s.call (.recv c.fd)).Authentic := h.congr rfl rfl rfl
  have hnotices : (c.ingested replies).NoticesGenuine s.roomLog := (h.live c hc).congr rfl rfl
  rw [readNetworkPackage_eq]
  by_cases hfail : recvEnd replies = .failed
  · rw [if_pos hfail]
    exact hcall.removeConnection hnotices
  · rw [if_neg hfail]
    have hdistinct : (s.call (.recv c.fd)).Distinct := hm.sound.registry.distinct.congr rfl
    obtain ⟨hmove, -, hmem, hstate⟩ := ingest_effect hdistinct hc hst hfail
    have heff : Effects (some c.serial) s ((s.call (.recv c.fd)).put (c.ingested replies)) :=
      (Effects.call (some c.serial) s (.recv c.fd)).trans hmove
    obtain ⟨r', hm', hclosed'⟩ := heff.midway hclosed hm
    refine readMessages_authentic (hcall.put hnotices) hm' hmem hclosed' hstate ?_
    · rintro hforging ⟨hatt, hchat⟩
      have hput : ((s.call (.recv c.fd)).put (c.ingested replies)).Attended (some c.addr) ↔
          (s.call (.recv c.fd)).Attended (some c.addr) := attended_put rfl
      refine hhonest hforging hfail ⟨?_, hchat⟩
      exact hput.mp hatt

end Handlers

/-! ### Runs -/

instance (c : Connection) : Decidable c.ChatsNext :=
  match hp : parseFrame c.inBuffer with
  | .frame m _ =>
    decidable_of_iff (m.type = .chat ∧
      protocolPayloadLengthIsLegal (formatLine c.name m.payload).length) (by
        rw [Connection.ChatsNext, hp])
  | .incomplete => isFalse (by simp [Connection.ChatsNext, hp])
  | .illegal => isFalse (by simp [Connection.ChatsNext, hp])

instance (s : Server) (c : Connection) : Decidable (s.HearsNextChat c) :=
  inferInstanceAs (Decidable (_ ∧ _))

/-- The event makes a connection chat under a forging name, and somebody hears it. -/
def Server.ForgesNotice (s : Server) (e : EpollEvent) (r : Replies) : Prop :=
  s.serverClosing = false ∧ ∃ c ∈ s.connections, c.fd = e.fd ∧ ¬c.WantsSend e.events ∧
    c.WantsRead e.events ∧ Forging c.name ∧ recvEnd r.recvs ≠ .failed ∧
    s.HearsNextChat (c.absorb (recvData r.recvs))

/-- The steps in which no notice is forged. -/
def NoForgery (l : Loop) : LoopInput → Prop
  | .replies r => ∀ e ∈ l.nextEvent, ¬l.server.ForgesNotice e r
  | _ => True

instance (s : Server) (e : EpollEvent) (r : Replies) : Decidable (s.ForgesNotice e r) :=
  inferInstanceAs (Decidable (_ ∧ ∃ c ∈ s.connections, c.fd = e.fd ∧ ¬c.WantsSend e.events ∧
    c.WantsRead e.events ∧ Forging c.name ∧ recvEnd r.recvs ≠ .failed ∧
    s.HearsNextChat (c.absorb (recvData r.recvs))))

instance (l : Loop) (i : LoopInput) : Decidable (NoForgery l i) :=
  match i with
  | .replies r => inferInstanceAs (Decidable (∀ e ∈ l.nextEvent, ¬l.server.ForgesNotice e r))
  | .events _ | .waitFailed _ | .endOfBatch => inferInstanceAs (Decidable True)

theorem handleEvent_authentic {host : Bytes} {room : Room} {s : Server} (h : s.Authentic)
    (hm : s.Midway host room) (hclosed : ∀ who, ClosedBy who s) (hhost : ¬Forging host)
    {e : EpollEvent} {r : Replies} (hforges : ¬s.ForgesNotice e r) :
    (s.handleEvent e r).2.Authentic := by
  have htuned : ∀ cache, (s.tuned r.ctl cache).Authentic := fun cache => h.congr rfl rfl rfl
  have hmidway : ∀ who cache, ∃ room', (s.tuned r.ctl cache).Midway host room' ∧
      ClosedBy who (s.tuned r.ctl cache) :=
    fun who cache => (Effects.tuned who s r.ctl cache).midway (hclosed who) hm
  refine handleEvent_cases (Q := fun result => result.2.Authentic) hm.sound.registry.distinct e r
    htuned ?_ ?_ ?_ ?_ ?_
  · exact fun cache => handleAccept_authentic (htuned cache) r.accepts
  · intro c hc _ _ hwants
    exact receiveClientHello_authentic (htuned _) hc hwants.1 r.recvs
  · intro c hc _ _
    obtain ⟨room', hm', -⟩ := hmidway none (some c.addr)
    exact sendNetworkPackage_authentic (htuned _) hm' hc r.sends
  · intro c hc hfd hopen hsend hwants
    obtain ⟨room', hm', hclosed'⟩ := hmidway (some c.serial) (some c.addr)
    apply readNetworkPackage_authentic (htuned _) hm' hc hclosed' hwants.1
    intro hforging hok hhears
    exact hforges ⟨hopen, c, hc, hfd, hsend, hwants, hforging, hok, hhears⟩
  · intro cache
    obtain ⟨room', hm', -⟩ := hmidway none cache
    exact handleReadStdinEvent_authentic (htuned cache) hm' (by rwa [hm'.name]) r.line

/-- In every run in which no client chats under a forging name, whatever looks like a notice
of the server in the queue of a connection was posted by one of the three `announce_*`
functions. -/
theorem notices_are_authentic {host : Bytes} (hreserved : nameIsReserved host = false)
    (hspace : ∀ ch ∈ host, isSpace ch = false) {l : Loop}
    (hr : (serverSystem host).Reach NoForgery l) : l.server.Authentic := by
  have hhost := not_forging_of_admitted hreserved hspace
  refine hr.invariant_of_reach (I := fun l => l.server.Authentic) ?_ ?_
  · rintro _ ⟨listenFd, epollFd, -, rfl⟩
    constructor
    · exact fun c hc => absurd hc List.not_mem_nil
    · exact fun d hd => absurd hd List.not_mem_nil
  · rintro l i l' hreach hauth hP ⟨-, hl⟩
    obtain ⟨hrun, heq | ⟨r, e, es, ok, rfl, hphase, hev, -⟩⟩ := serverLoopStep_cases hl
    · rw [heq]
      exact hauth
    · have hforges : ¬l.server.ForgesNotice e r := by
        apply hP
        rw [Loop.nextEvent, hphase]
        rfl
      obtain ⟨room, hm⟩ := reach_midway hreach hrun
      have hauth' := handleEvent_authentic hauth hm (reach_inv hreach hrun).closedBy hhost hforges
      rw [hev] at hauth'
      exact hauth'

lemma host_is_a_word : ∀ ch ∈ ascii "host", isSpace ch = false := by
  have hall : (ascii "host").all (fun ch => !isSpace ch) = true := by decide
  intro ch hch
  simpa using List.all_eq_true.mp hall ch hch

/-- Two honest guests. -/
theorem notices_are_authentic_two_guests : ∃ l : Loop,
    (∃ c ∈ l.server.connections, c.broadcasts ≠ []) ∧ l.server.Authentic := by
  obtain ⟨l, hl, hheard⟩ : ∃ l,
      runInputs NoForgery ⟨initialServer (ascii "host") 3 4, .waiting⟩ twoGuests = some l ∧
      ∃ c ∈ l.server.connections, c.broadcasts ≠ [] :=
    ⟨_, rfl, _, List.mem_cons_self, by decide⟩
  have hreach : (serverSystem (ascii "host")).Reach NoForgery l := runInputs_reach (by decide) hl
  exact ⟨l, hheard, notices_are_authentic (by decide) host_is_a_word hreach⟩

/-- A guest called `server` and a guest called `ann` are in the room, and the first one is
about to be heard. -/
def guestCalledServer : List LoopInput :=
  arrives 3 5 ++ delivers 5 (helloBytes (ascii "server")) ++ drains 5 ++
    arrives 3 6 ++ delivers 6 (helloBytes (ascii "ann")) ++ drains 6 ++ [.events [⟨5, epollIn⟩]]

/-- The guest called `server` says something, and `ann` is shown it as a notice. -/
theorem guest_called_server_forges_a_notice :
    ¬∀ (host : Bytes) (l : Loop), nameIsReserved host = false →
      (∀ ch ∈ host, isSpace ch = false) → (serverSystem host).Reach System.any l →
        l.server.Authentic := by
  intro hclaim
  let said : List RecvReply := [.bytes (encodeFrame (Message.of .chat (ascii "hi")))]
  let forged : Message := Message.of .broadcast (ascii "[server] hi")
  obtain ⟨l, hl, hphase, hopen, c, hc, hfd, hsend, hwants, hok, hlen, t, ht, hlog, d, hd,
      hheard⟩ : ∃ l,
      runInputs System.any ⟨initialServer (ascii "host") 3 4, .waiting⟩ guestCalledServer = some l ∧
      l.phase = .handling [⟨5, epollIn⟩] ∧ l.server.serverClosing = false ∧
      ∃ c ∈ l.server.connections, c.fd = 5 ∧ ¬c.WantsSend epollIn ∧ c.WantsRead epollIn ∧
      recvEnd said ≠ .failed ∧ (c.ingested said).inBuffer.length < 100 ∧
      ∃ t, (((l.server.tuned [] (some c.addr)).call (.recv c.fd)).put
        (c.ingested said)).readMessagesUpTo 100 (c.ingested said) = (true, t) ∧
      t.roomLog = [.connected 0 (ascii "server"), .connected 1 (ascii "ann"),
        .chat 0 (ascii "server") (ascii "hi")] ∧
      ∃ d ∈ t.connections, forged ∈ d.broadcasts :=
    ⟨_, rfl, rfl, rfl, _, List.mem_cons_self, rfl, by decide, by decide, by decide,
      by decide, _, rfl, by decide, _, List.mem_cons_of_mem _ List.mem_cons_self, by decide⟩
  have hreach : (serverSystem (ascii "host")).Reach System.any l :=
    runInputs_reach (by decide) hl
  have hrun : l.Running := Loop.running_of_handling hphase
  have hreg := (reach_inv hreach hrun).sound.registry
  have hstep : serverLoopStep l (.replies { recvs := said }) = some ⟨t, .handling []⟩ :=
    serverLoopStep_read hreg hphase hopen hc hfd hsend hwants hok hlen ht
  have hadm : LoopInput.Admissible l (.replies { recvs := said }) := freshSockets_nil l.server
  have hauth : t.Authentic :=
    hclaim _ _ (by decide) host_is_a_word
      (hreach.snoc (l := .replies { recvs := said }) trivial ⟨hadm, hstep⟩)
  obtain ⟨heard, hpre, heq, hgenuine⟩ := hauth.live d hd
  rw [heq] at hheard
  obtain ⟨e, he, hmessage⟩ := List.mem_map.mp hheard
  have hline : e.line = ascii "[server] hi" := congrArg Message.payload hmessage
  have hnotice := hgenuine e he (by rw [hline]; decide)
  have hposted : e ∈ t.roomLog := Subscription.view_subset (hpre.subset he)
  rw [hlog] at hposted
  simp only [List.mem_cons, List.not_mem_nil, or_false] at hposted
  rcases hposted with rfl | rfl | rfl
  · exact absurd hline (by decide)
  · exact absurd hline (by decide)
  · exact hnotice

end Chatroom
