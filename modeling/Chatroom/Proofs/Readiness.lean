import Chatroom.Proofs.Runs

/-!
# Registered events and pending output

The mask that is registered for a client socket asks for `EPOLLOUT` exactly while
output is pending, so queued bytes are never forgotten and the loop never spins on an
idle socket. With the phases of a connection this gives its whole invariant.
-/

namespace Chatroom
open Transition

/-- The registered mask asks for `EPOLLOUT` exactly while output is pending. -/
def MaskMatches (k : Kernel) (c : Connection) : Prop :=
  ∃ events, k.mask c.fd = some events ∧ (events.has epollOut ↔ c.outBuffer ≠ [])

lemma fullMask_has : fullMask.has epollOut := by decide
lemma closingMask_has : closingMask.has epollOut := by decide
lemma quietMask_has : ¬quietMask.has epollOut := by decide

section Masks

variable {k k' : Kernel} {c : Connection}

lemma MaskMatches.congr (h : MaskMatches k c) {d : Connection} (hmask : k'.mask c.fd = k.mask c.fd)
    (hfd : d.fd = c.fd) (hout : d.outBuffer = c.outBuffer) : MaskMatches k' d := by
  obtain ⟨events, hev, hiff⟩ := h
  exact ⟨events, by rw [hfd, hmask, hev], by rw [hout]; exact hiff⟩

lemma enqueue_outBuffer_ne_nil (c : Connection) (m : Message) : (c.enqueue m).outBuffer ≠ [] := by
  simp [Connection.enqueue, encodeFrame]

lemma masksMatch_enqueueTo {cs : List Connection} {p : Connection → Prop} [DecidablePred p]
    {events : EventMask} {m : Message} (hfds : (cs.map Connection.fd).Nodup)
    (hev : events.has epollOut) (hk : MasksAfter k k' cs p events)
    (hcs : ∀ c ∈ cs, ¬p c → MaskMatches k c) : ∀ d ∈ enqueueTo p m cs, MaskMatches k' d := by
  intro d hd
  obtain ⟨c, hc, rfl⟩ := mem_enqueueTo hd
  by_cases hp : p c
  · rw [if_pos hp]
    rcases hk c.fd with ⟨-, hmask⟩ | ⟨hno, -⟩
    · exact ⟨events, hmask, by simp [hev, enqueue_outBuffer_ne_nil]⟩
    · exact absurd ⟨c, hc, hp, rfl⟩ hno
  · rw [if_neg hp]
    rcases hk c.fd with ⟨⟨b, hb, hpb, hfd⟩, -⟩ | ⟨-, hmask⟩
    · rw [Keyed.eq_of_key_eq hfds hb hc hfd] at hpb
      exact absurd hpb hp
    · exact (hcs c hc hp).congr hmask rfl rfl

end Masks

/-- Every connection is registered with the mask that its output calls for. -/
def Server.MasksMatch (s : Server) : Prop :=
  ∀ c ∈ s.connections, MaskMatches s.kernel c

lemma masksMatch_put {s : Server} (hd : s.Distinct) (hs : s.MasksMatch) {c c' : Connection}
    (hc : c ∈ s.connections) (hpeer : SamePeer c c') {d : Connection}
    (hdm : d ∈ (s.put c').connections) (hne : d ≠ c') : MaskMatches s.kernel d ∧ d.fd ≠ c.fd := by
  rcases Keyed.mem_replace hdm with h | ⟨hmem, haddr⟩
  · exact absurd h hne
  · refine ⟨hs d hmem, ?_⟩
    intro hfd
    rw [Keyed.eq_of_key_eq hd.fds hmem hc hfd, hpeer.addr] at haddr
    exact haddr rfl

theorem Effect.masksMatch {who : Option ℕ} {s t : Server} (hsound : s.Sound) (hs : s.MasksMatch)
    (h : Effect who s t) : t.MasksMatch := by
  have hd := hsound.registry.distinct
  cases h with
  | silent k cache hk => exact fun c hc => (hs c hc).congr (hk c.fd) rfl rfl
  | accept fd addr k hfd haddr hopen hk =>
    intro d hdm
    rcases List.mem_append.mp hdm with hdm | hdm
    · refine (hs d hdm).congr ?_ rfl rfl
      rw [hk d.fd, if_neg (hfd d hdm)]
    · rw [List.mem_singleton.mp hdm]
      refine ⟨quietMask, ?_, by simp [quietMask_has, newConnection]⟩
      show k.mask fd = some quietMask
      rw [hk fd, if_pos rfl]
  | @move _ c c' ev k hc hmove hk =>
    intro d hdm
    by_cases hd' : d = c'
    · subst hd'
      have hpeer := hmove.samePeer
      have hmask : k.mask d.fd = ev.or (s.kernel.mask c.fd) := by
        rw [hpeer.fd, hk c.fd, if_pos rfl]
      cases hmove with
      | listen data hst hp => exact (hs c hc).congr hmask rfl rfl
      | introduce data m rest hst hp htype hname hhost =>
        exact ⟨fullMask, hmask, by simp [fullMask_has, Connection.enqueue, encodeFrame]⟩
      | send n hst hn => exact (hs c hc).congr hmask rfl rfl
      | drain hst hout => exact ⟨quietMask, hmask, by simp [quietMask_has, Connection.drained]⟩
      | ingest data st hst hst' => exact (hs c hc).congr hmask rfl rfl
    · obtain ⟨hmatches, hfd⟩ := masksMatch_put hd hs hc hmove.samePeer hdm hd'
      exact hmatches.congr (by rw [hk d.fd, if_neg hfd]) rfl rfl
  | @talk _ c c' e sender k hc htalk hlegal hk =>
    have hpeer := htalk.samePeer
    apply masksMatch_enqueueTo (hd.put hc hpeer).fds fullMask_has hk
    intro d hdm hh
    by_cases hd' : d = c'
    · subst hd'
      cases htalk with
      | chat m rest hst hp htype => exact (hs c hc).congr rfl rfl rfl
      | join hst => exact absurd ⟨by simp, rfl⟩ hh
    · exact (masksMatch_put hd hs hc hpeer hdm hd').1
  | @leave _ c c' k k' hc hleave hlegal hk hk' =>
    have hpeer := hleave.samePeer
    intro d hdm
    obtain ⟨hmem, -, hfd⟩ := mem_said_goodbye hd hc hleave hdm
    have hmatches : MaskMatches k d := by
      refine masksMatch_enqueueTo (hd.put hc hpeer).fds fullMask_has hk ?_ d hmem
      intro b hb hh
      by_cases hb' : b = c'
      · rw [hb']
        cases hleave <;> exact (hs c hc).congr rfl rfl rfl
      · exact (masksMatch_put hd hs hc hpeer hb hb').1
    exact hmatches.congr (hk' d.fd hfd) rfl rfl
  | @drop _ c c' k hc hdrop hk =>
    intro d hdm
    obtain ⟨hmem, -, hfd⟩ := mem_released hd hc hdrop.samePeer hdm
    exact (hs d hmem).congr (hk d.fd hfd) rfl rfl
  | hostTalk text k hlegal hk =>
    exact masksMatch_enqueueTo hd.fds fullMask_has hk (fun c hc _ => hs c hc)
  | close k k' hk hk' =>
    have hheard : ∀ d ∈ enqueueTo (Hears none) RoomEntry.closing.message s.connections,
        MaskMatches k d :=
      masksMatch_enqueueTo hd.fds fullMask_has hk (fun c hc _ => hs c hc)
    have hfds : ((enqueueTo (Hears none) RoomEntry.closing.message s.connections).map
        Connection.fd).Nodup := by
      rw [map_enqueueTo Connection.fd (fun _ _ => rfl)]
      exact hd.fds
    exact masksMatch_enqueueTo hfds closingMask_has hk' (fun c hc _ => hheard c hc)
  | print => exact hs

lemma Effects.masksMatch {who : Option ℕ} {s t : Server} (hsound : s.Sound) (hs : s.MasksMatch)
    (h : Effects who s t) : t.MasksMatch := by
  have hboth : t.Sound ∧ t.MasksMatch :=
    h.preserves (I := fun u => u.Sound ∧ u.MasksMatch)
      (fun _ _ hu hstep => ⟨hstep.sound hu.1, hstep.masksMatch hu.1 hu.2⟩) ⟨hsound, hs⟩
  exact hboth.2

theorem reach_masksMatch {host : Bytes} {P : Loop → LoopInput → Prop} {l : Loop}
    (hr : (serverSystem host).Reach P l) (hrun : l.Running) : l.server.MasksMatch := by
  refine (reach_invariant (I := Server.MasksMatch) ?_ ?_ hr hrun).2
  · intro listenFd epollFd _ c hc
    simp [initialServer] at hc
  · intro s s' e es r hinv hs _ _ hhandled
    obtain ⟨who, heff⟩ := hhandled.effects
    exact heff.masksMatch hinv.sound hs

lemma reach_registered {host : Bytes} {P : Loop → LoopInput → Prop} {l : Loop}
    (hr : (serverSystem host).Reach P l) (hrun : l.Running) :
    ∀ c ∈ l.server.connections, l.server.kernel.mask c.fd ≠ none := by
  intro c hc
  obtain ⟨events, hmask, -⟩ := reach_masksMatch hr hrun c hc
  rw [hmask]
  exact Option.some_ne_none events

/-- Whatever the events, the bytes and the results of the calls were: between two events
of the running loop every connection is in one of three states, with the name and the
output that belong to it, and is registered for `EPOLLOUT` exactly while it has output. -/
theorem server_connection_invariant {host : Bytes} {l : Loop}
    (hr : (serverSystem host).Reach System.any l) (hrun : l.Running) {c : Connection}
    (hc : c ∈ l.server.connections) :
    (c.state = .waitingForClientHello ∨ c.state = .sendingServerHello ∨ c.state = .active) ∧
      (c.state = .waitingForClientHello → c.name = [] ∧ c.outBuffer = []) ∧
      (c.state = .sendingServerHello →
        c.name ≠ [] ∧ c.outBuffer = encodeFrame (Message.of .serverHello host)) ∧
      (c.outBuffer = [] → c.bytesWritten = 0) ∧
      (c.outBuffer ≠ [] → c.bytesWritten < c.outBuffer.length) ∧
      ∃ events, l.server.kernel.mask c.fd = some events ∧
        (events.has epollOut ↔ c.outBuffer ≠ []) := by
  have hinv := reach_inv hr hrun
  have hserved := hinv.sound.served c hc
  rw [hinv.host] at hserved
  refine ⟨hinv.settled c hc, ?_, ?_, ?_, ?_, reach_masksMatch hr hrun c hc⟩
  · intro hst
    obtain ⟨hname, hout, -⟩ := hserved.phase.of_waiting hst
    exact ⟨hname, hout⟩
  · intro hst
    obtain ⟨hello, -, -, -, hne, -, hout⟩ := hserved.phase.of_greeting hst
    exact ⟨hne, hout⟩
  · intro hnil
    rcases hserved.stream.written with ⟨-, hzero⟩ | hlt
    · exact hzero
    · rw [hnil] at hlt
      exact absurd hlt (Nat.not_lt_zero _)
  · intro hne
    exact hserved.stream.written.resolve_left (fun h => hne h.1)

theorem server_connection_invariant_greeted : ∃ l : Loop, ∃ c ∈ l.server.connections,
    c.state = .sendingServerHello ∧ c.outBuffer ≠ [] ∧
      ∃ events, l.server.kernel.mask c.fd = some events ∧
        (events.has epollOut ↔ c.outBuffer ≠ []) := by
  obtain ⟨l, hl, hrun, c, hc, hst, hout⟩ : ∃ l,
      runInputs System.any ⟨initialServer (ascii "host") 3 4, .waiting⟩
        (arrives 3 5 ++ delivers 5 (helloBytes (ascii "ann"))) = some l ∧ l.Running ∧
      ∃ c ∈ l.server.connections, c.state = .sendingServerHello ∧ c.outBuffer ≠ [] :=
    ⟨_, rfl, by decide, _, List.mem_cons_self, rfl, by decide⟩
  have hreach : (serverSystem (ascii "host")).Reach System.any l :=
    runInputs_reach (by decide) hl
  exact ⟨l, c, hc, hst, hout, (server_connection_invariant hreach hrun hc).2.2.2.2.2⟩

end Chatroom
