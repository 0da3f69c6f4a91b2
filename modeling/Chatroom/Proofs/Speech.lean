import Chatroom.Proofs.Evolution
import Chatroom.Proofs.Reliable

/-!
# What a connection makes the room hear

The entries that one read event of a client makes the server broadcast, as a function of the
bytes it has to handle. While the kernel refuses nothing, the read handler succeeds exactly
if their lines fit into frames or nobody hears them.
-/

namespace Chatroom
open Fallible

/-- Somebody hears what is posted without `sender`. -/
def Server.Attended (s : Server) (sender : Option ℕ) : Prop :=
  ∃ d ∈ s.connections, Hears sender d

instance (s : Server) (sender : Option ℕ) : Decidable (s.Attended sender) :=
  inferInstanceAs (Decidable (∃ d ∈ s.connections, Hears sender d))

/-- The entries that connection `n` called `name` makes the server broadcast with `buffer` to
be handled; `ended` says that its stream has ended. -/
def spoken (ended : Bool) (n : ℕ) (name buffer : Bytes) : List RoomEntry :=
  match _h : parseFrame buffer with
  | .incomplete => if ended then [.disconnected n name] else []
  | .illegal => []
  | .frame m rest =>
    if m.type = .closeCon then
      if m.payload = [] then [.disconnected n name] else []
    else if m.type = .chat then .chat n name m.payload :: spoken ended n name rest
    else []
termination_by buffer.length
decreasing_by exact frameCodec.rest_length_lt _h

/-- The lines of all these entries fit, or nobody hears them. -/
def Server.LinesFit (s : Server) (sender : Option ℕ) (entries : List RoomEntry) : Prop :=
  s.Attended sender → ∀ e ∈ entries, protocolPayloadLengthIsLegal e.line.length

instance (s : Server) (sender : Option ℕ) (entries : List RoomEntry) :
    Decidable (s.LinesFit sender entries) :=
  inferInstanceAs (Decidable (_ → ∀ e ∈ entries, protocolPayloadLengthIsLegal e.line.length))

section Entries

variable {ended : Bool} {n : ℕ} {name buffer : Bytes} {s : Server} {sender : Option ℕ}

lemma spoken_incomplete (hp : parseFrame buffer = .incomplete) :
    spoken ended n name buffer = if ended then [.disconnected n name] else [] := by
  rw [spoken]
  split <;> simp_all

lemma spoken_illegal (hp : parseFrame buffer = .illegal) : spoken ended n name buffer = [] := by
  rw [spoken]
  split <;> simp_all

lemma spoken_frame {m : Message} {rest : Bytes} (hp : parseFrame buffer = .frame m rest) :
    spoken ended n name buffer =
      if m.type = .closeCon then
        if m.payload = [] then [.disconnected n name] else []
      else if m.type = .chat then .chat n name m.payload :: spoken ended n name rest
      else [] := by
  rw [spoken]
  split
  · rename_i h
    rw [hp] at h
    cases h
  · rename_i h
    rw [hp] at h
    cases h
  · rename_i m' rest' h
    rw [hp] at h
    cases h
    rfl

lemma linesFit_nil : s.LinesFit sender [] := fun _ e he => by cases he

lemma linesFit_cons {e : RoomEntry} {entries : List RoomEntry} :
    s.LinesFit sender (e :: entries) ↔ s.LinesFit sender [e] ∧ s.LinesFit sender entries := by
  simp only [Server.LinesFit, List.mem_cons, List.not_mem_nil, or_false, forall_eq_or_imp,
    forall_eq]
  exact ⟨fun h => ⟨fun ha => (h ha).1, fun ha => (h ha).2⟩, fun h ha => ⟨h.1 ha, h.2 ha⟩⟩

lemma linesFit_singleton {e : RoomEntry} :
    s.LinesFit sender [e] ↔ ∀ c ∈ s.connections, Hears sender c →
      protocolPayloadLengthIsLegal e.line.length := by
  simp only [Server.LinesFit, List.mem_singleton, forall_eq]
  exact ⟨fun h c hc hh => h ⟨c, hc, hh⟩, fun h ⟨c, hc, hh⟩ => h c hc hh⟩

lemma Server.LinesFit.congr {t : Server} (h : t.Attended sender ↔ s.Attended sender)
    (entries : List RoomEntry) : t.LinesFit sender entries ↔ s.LinesFit sender entries :=
  imp_congr_left h

end Entries

/-- A connection is neither served nor registered any more. -/
structure Evicted (c : Connection) (s : Server) : Prop where
  removed : ∀ d ∈ s.connections, d.serial ≠ c.serial
  unregistered : s.kernel.mask c.fd = none

lemma evicted_iff {c c' : Connection} (hpeer : SamePeer c c') (s : Server) :
    Evicted c' s ↔ Evicted c s := by
  constructor
  · rintro ⟨hremoved, hmask⟩
    exact ⟨hpeer.serial ▸ hremoved, hpeer.fd ▸ hmask⟩
  · rintro ⟨hremoved, hmask⟩
    exact ⟨hpeer.serial.symm ▸ hremoved, hpeer.fd.symm ▸ hmask⟩

section Handlers

variable {s : Server} {c c' : Connection}

lemma attended_put (haddr : c'.addr = c.addr) :
    (s.put c').Attended (some c.addr) ↔ s.Attended (some c.addr) := by
  constructor
  · rintro ⟨d, hdm, hh⟩
    rcases Keyed.mem_replace hdm with rfl | ⟨hmem, -⟩
    · exact absurd (congrArg some haddr) hh.1
    · exact ⟨d, hmem, hh⟩
  · rintro ⟨d, hdm, hh⟩
    refine ⟨d, Keyed.mem_replace_of_ne hdm ?_, hh⟩
    rw [haddr]
    exact fun heq => hh.1 (congrArg some heq)

lemma attended_heard (sender sender' : Option ℕ) (e : RoomEntry) (k : Kernel) :
    (s.heard sender e k).Attended sender' ↔ s.Attended sender' := by
  constructor
  · rintro ⟨d, hdm, hh⟩
    obtain ⟨b, hb, rfl⟩ := mem_enqueueTo hdm
    refine ⟨b, hb, ?_⟩
    split_ifs at hh <;> exact hh
  · rintro ⟨d, hdm, hh⟩
    refine ⟨_, List.mem_map.mpr ⟨d, hdm, rfl⟩, ?_⟩
    split_ifs <;> exact hh

lemma remove_succeeds (hs : s.Reliable) (hd : s.Distinct) (hc : c ∈ s.connections)
    (hpeer : SamePeer c c') : SucceedsIff (s.removeConnection c') True (Evicted c) := by
  obtain ⟨k, hr, hmask⟩ := removeConnection_succeeds hs c'
  rw [hpeer.fd] at hmask
  rw [hr]
  exact SucceedsIff.of_true rfl trivial
    ⟨fun d hdm => (mem_released hd hc hpeer hdm).2.1, hmask⟩

lemma leave_succeedsIff (hs : s.Reliable) (hd : s.Distinct) (hc : c ∈ s.connections)
    (hpeer : SamePeer c c') (hname : c'.name = c.name) :
    SucceedsIff (andThen ((s.put c').announceClientDisconnected c')
        (fun s => s.removeConnection c'))
      (s.LinesFit (some c.addr) [.disconnected c.serial c.name]) (Evicted c) := by
  have hfits : (∀ d ∈ (s.put c').connections, Hears (some c'.addr) d →
      protocolPayloadLengthIsLegal (RoomEntry.disconnected c'.serial c'.name).line.length) ∧ True ↔
      s.LinesFit (some c.addr) [.disconnected c.serial c.name] := by
    rw [and_true, ← linesFit_singleton, hpeer.addr, hpeer.serial, hname,
      Server.LinesFit.congr (attended_put hpeer.addr)]
  have hpost := post_succeedsIff (hs.put hc c' hpeer.fd) (e := .disconnected c'.serial c'.name)
    (ascii "server") (Message.of .chat (ascii "`" ++ c'.name ++ ascii "` disconnected."))
    (some c'.addr) rfl rfl
  refine (SucceedsIff.bind (hpost.congr Iff.rfl ?_)).congr hfits (fun _ h => h)
  rintro t ⟨k, rfl, hreliable⟩
  have hheard := (hd.put hc hpeer).heard (some c'.addr) (.disconnected c'.serial c'.name) k
  have hself := mem_heard_self hc hpeer.addr (.disconnected c'.serial c'.name) k
  rw [← hpeer.addr] at hself
  exact (remove_succeeds hreliable hheard hself (SamePeer.refl c')).congr Iff.rfl
    (fun t h => (evicted_iff hpeer t).mp h)

theorem readMessages_succeedsIff (hs : s.Reliable) (hd : s.Distinct) (hc : c ∈ s.connections)
    (hst : c.state = .active ∨ c.state = .closed) :
    SucceedsIff (s.readMessages c)
      (s.LinesFit (some c.addr) (spoken (decide (c.state = .closed)) c.serial c.name c.inBuffer))
      (fun s' => c.state = .closed → Evicted c s') := by
  -- a connection that breaks the rules is removed without a word
  have hsilent : ∀ {s : Server} {c c' : Connection}, s.Reliable → s.Distinct →
      c ∈ s.connections → SamePeer c c' → SucceedsIff (s.removeConnection c')
        (s.LinesFit (some c.addr) []) (fun s' => c.state = .closed → Evicted c s') :=
    fun hs hd hc hpeer => (remove_succeeds hs hd hc hpeer).congr (iff_of_true trivial linesFit_nil)
      (fun _ h _ => h)
  induction hn : c.inBuffer.length using Nat.strong_induction_on generalizing s c with
  | h n ih =>
    cases hp : parseFrame c.inBuffer with
    | illegal =>
      rw [readMessages_illegal s hp, spoken_illegal hp]
      exact hsilent hs hd hc ⟨rfl, rfl, rfl⟩
    | incomplete =>
      rw [readMessages_incomplete s hp hst, spoken_incomplete hp]
      by_cases hclosed : c.state = .closed
      · rw [if_pos hclosed, if_pos (decide_eq_true hclosed)]
        exact (leave_succeedsIff hs hd hc ⟨rfl, rfl, rfl⟩ rfl).congr Iff.rfl (fun _ h _ => h)
      · rw [if_neg hclosed, if_neg (by simpa using hclosed)]
        exact SucceedsIff.of_true rfl linesFit_nil (fun h => absurd h hclosed)
    | frame m rest =>
      have hpeer : SamePeer c (c.cut m rest) := ⟨rfl, rfl, rfl⟩
      rw [readMessages_frame s hp hst, spoken_frame hp]
      by_cases htype : m.type = .closeCon
      · rw [if_pos htype, if_pos htype]
        by_cases hpay : m.payload = []
        · rw [if_neg (not_not.mpr hpay), if_pos hpay]
          exact (leave_succeedsIff hs hd hc hpeer rfl).congr Iff.rfl (fun _ h _ => h)
        · rw [if_pos hpay, if_neg hpay]
          exact hsilent hs hd hc ⟨rfl, rfl, rfl⟩
      · rw [if_neg htype, if_neg htype]
        by_cases hchat : m.type = .chat
        · rw [if_neg (not_not.mpr hchat), if_pos hchat]
          have hatt : (s.put (c.cut m rest)).Attended (some c.addr) ↔ s.Attended (some c.addr) :=
            attended_put hpeer.addr
          have hpost := post_succeedsIff (hs.put hc (c.cut m rest) rfl)
            (e := .chat c.serial c.name m.payload) c.name m (some c.addr) rfl rfl
          rw [← linesFit_singleton, Server.LinesFit.congr hatt] at hpost
          refine (SucceedsIff.bind ⟨hpost.ok, fun hlegal => ?_⟩).congr linesFit_cons.symm
            (fun _ h => h)
          -- the rest of the buffer is handled in the state after the broadcast
          obtain ⟨t, hposted, k, rfl, hreliable⟩ := hpost.exists_iff.mpr hlegal
          obtain ⟨-, hdt, hct⟩ := chat_true hd hc hst hp hchat hposted
          have hlt : (c.cut m rest).inBuffer.length < n := by
            rw [← hn]
            exact frameCodec.rest_length_lt hp
          rw [hposted]
          have hrest := ih _ hlt hreliable hdt hct hst rfl
          refine hrest.congr (Server.LinesFit.congr ?_ _) (fun t h hclosed => ?_)
          · exact (attended_heard _ _ _ k).trans hatt
          · exact (evicted_iff hpeer t).mp (h hclosed)
        · rw [if_pos hchat, if_neg hchat]
          exact hsilent hs hd hc ⟨rfl, rfl, rfl⟩

theorem readNetworkPackage_succeedsIff (hs : s.Reliable) (hd : s.Distinct)
    (hc : c ∈ s.connections) (hst : c.state = .active) (replies : List RecvReply) :
    SucceedsIff (s.readNetworkPackage c replies)
      (recvEnd replies = .failed ∨ s.LinesFit (some c.addr)
        (spoken (decide (recvEnd replies = .eof)) c.serial c.name (c.inBuffer ++ recvData replies)))
      (fun s' => recvEnd replies ≠ .wouldBlock → Evicted c s') := by
  have hs' : (s.call (.recv c.fd)).Reliable := hs.call _
  have hd' : (s.call (.recv c.fd)).Distinct := hd.congr rfl
  have hpeer : SamePeer c (c.ingested replies) := ⟨rfl, rfl, rfl⟩
  rw [readNetworkPackage_eq]
  by_cases hfail : recvEnd replies = .failed
  · rw [if_pos hfail]
    exact (remove_succeeds hs' hd' hc hpeer).congr (iff_of_true trivial (Or.inl hfail))
      (fun _ h _ => h)
  · obtain ⟨-, hput, hmem, hstate⟩ := ingest_effect hd' hc hst hfail
    have hclosed : (c.ingested replies).state = .closed ↔ recvEnd replies = .eof := by
      unfold Connection.ingested
      cases hend : recvEnd replies with
      | wouldBlock => simp [RecvEnd.state, hst]
      | eof => simp [RecvEnd.state]
      | failed => exact absurd hend hfail
    have hreads := readMessages_succeedsIff (hs'.put hc (c.ingested replies) rfl) hput hmem hstate
    simp only [hclosed] at hreads
    rw [if_neg hfail]
    refine hreads.congr ?_ ?_
    · rw [or_iff_right hfail]
      exact Server.LinesFit.congr (attended_put (s := s.call (.recv c.fd)) hpeer.addr) _
    · intro t h hend
      have heof : recvEnd replies = .eof := by
        cases hcase : recvEnd replies with
        | wouldBlock => exact absurd hcase hend
        | eof => rfl
        | failed => exact absurd hcase hfail
      exact (evicted_iff hpeer t).mp (h heof)

end Handlers

end Chatroom
