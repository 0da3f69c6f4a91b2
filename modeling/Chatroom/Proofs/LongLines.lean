import Chatroom.Proofs.Readiness
import Chatroom.Proofs.Speech

/-!
# Lines that are too long

The server checks the length of what comes in, and `protocol_queue_message` checks the length
of what goes out. The line `[author] text` that is broadcast is longer than the text, so an
input near the limit is admitted and then rejected by its first recipient, which stops the
loop.
-/

namespace Chatroom
open Fallible Transition

/-- An input that the checks of the server admit: the state in which it is broadcast, the
connection that does not hear it, and the entries that are broadcast. -/
inductive Admitted (s : Server) (e : EpollEvent) (r : Replies) :
    Server → Option ℕ → List RoomEntry → Prop
  /-- A line of the host that passes the check of `handle_read_stdin_event`. -/
  | hostLine (line : Bytes) (hopen : s.serverClosing = false)
      (he : e.fd = stdinFileno ∧ e.events.has epollIn) (hline : r.line = some line)
      (hne : line ≠ []) (hquit : line ≠ ascii "/quit")
      (hlegal : protocolPayloadLengthIsLegal line.length) :
      Admitted s e r s none [.hostChat s.name line]
  /-- What the parser returns for an active connection, and the end of its stream. -/
  | frames {c : Connection} (hopen : s.serverClosing = false) (hc : c ∈ s.connections)
      (hfd : c.fd = e.fd) (hsend : ¬c.WantsSend e.events) (hread : c.WantsRead e.events)
      (hend : recvEnd r.recvs ≠ .failed) :
      Admitted s e r s (some c.addr) (spoken (decide (recvEnd r.recvs = .eof)) c.serial c.name
        (c.inBuffer ++ recvData r.recvs))
  /-- The name of a CLIENT_HELLO that was accepted, when the greeting has been sent. -/
  | greeted {c : Connection} (hc : c ∈ s.connections) (hfd : c.fd = e.fd)
      (hst : c.state = .sendingServerHello) (hsend : c.WantsSend e.events)
      (hall : sendCount c.unsent.length r.sends = c.unsent.length) :
      Admitted s e r (s.put c.joined) none [.connected c.serial c.name]

lemma readStdin_succeedsIff {s : Server} (hs : s.Reliable) {line : Bytes} (hne : line ≠ [])
    (hquit : line ≠ ascii "/quit") (hlegal : protocolPayloadLengthIsLegal line.length) :
    (s.handleReadStdinEvent (some line)).1 = true ↔ s.LinesFit none [.hostChat s.name line] := by
  have hpost := post_succeedsIff hs (e := .hostChat s.name line) s.name (Message.of .chat line)
    none rfl rfl
  rw [Server.handleReadStdinEvent, if_neg hne, if_neg hquit, if_neg (not_not.mpr hlegal),
    hpost.ok, ← linesFit_singleton]

lemma greeting_succeedsIff {s : Server} (hs : s.Reliable) {c : Connection}
    (hc : c ∈ s.connections) (hst : c.state = .sendingServerHello) {replies : List SendReply}
    (hall : sendCount c.unsent.length replies = c.unsent.length) :
    (s.sendNetworkPackage c replies).1 = true ↔
      (s.put c.joined).LinesFit none [.connected c.serial c.name] := by
  have hput : ((s.call (.send c.fd)).put c.joined).Reliable := (hs.call _).put hc c.joined rfl
  have hpost := post_succeedsIff hput (e := .connected c.serial c.name) (ascii "server")
    (Message.of .chat (ascii "`" ++ c.name ++ ascii "` connected.")) none rfl rfl
  rw [sendNetworkPackage_eq, if_pos hall, if_pos hst]
  exact hpost.ok.trans linesFit_singleton.symm

section Reach

variable {host : Bytes} {l : Loop} {e : EpollEvent} {es : List EpollEvent} {r : Replies}
  {t : Server} {sender : Option ℕ} {entries : List RoomEntry}

theorem Admitted.succeeds_iff (hr : (serverSystem host).Reach System.any l) (hrun : l.Running)
    (hctl : r.ctl = []) (hin : Admitted l.server e r t sender entries) :
    (l.server.handleEvent e r).1 = true ↔ t.LinesFit sender entries := by
  have hreg := (reach_inv hr hrun).sound.registry
  have hreliable : ∀ cache, (l.server.tuned r.ctl cache).Reliable :=
    fun _ => ⟨hctl, reach_registered hr hrun⟩
  cases hin with
  | hostLine line hopen he hline hne hquit hlegal =>
    rw [handleEvent_stdin hreg r (reach_listenFd hr hrun) hopen he, hline]
    exact readStdin_succeedsIff (hreliable none) hne hquit hlegal
  | @frames c hopen hc hfd hsend hread hend =>
    have hiff := (readNetworkPackage_succeedsIff (hreliable (some c.addr))
      (hreg.distinct.tuned r.ctl _) hc hread.1 r.recvs).ok
    rw [handleEvent_read hreg r hc hfd hopen hsend hread, hiff]
    exact or_iff_right hend
  | @greeted c hc hfd hst hsend hall =>
    rw [handleEvent_send hreg r hc hfd hsend]
    exact greeting_succeedsIff (hreliable (some c.addr)) hc hst hall

lemma formatBroadcastMessage_entry (u : RoomEntry) :
    formatBroadcastMessage u.author (Message.of .chat u.text) = u.message := rfl

lemma accepted_iff_linesFit :
    (∀ u ∈ entries, ∀ d ∈ t.connections, Hears sender d →
      (protocolQueueMessage d
        (formatBroadcastMessage u.author (Message.of .chat u.text))).1 = true) ↔
      t.LinesFit sender entries := by
  have haccepted : ∀ (d : Connection) (u : RoomEntry), (protocolQueueMessage d u.message).1 = true ↔
      protocolPayloadLengthIsLegal u.line.length := by
    intro d u
    have hpay : u.message.payload = u.line := rfl
    rw [protocolQueueMessage_eq, hpay]
    split_ifs with h
    · exact iff_of_true rfl h
    · exact iff_of_false id h
  simp only [formatBroadcastMessage_entry, haccepted]
  exact ⟨fun h ⟨d, hd, hh⟩ u hu => h u hu d hd hh, fun h u hu d hd hh => h ⟨d, hd, hh⟩ u hu⟩

end Reach

/-- In every state of the running loop: what an admitted input makes the server broadcast is
accepted for every recipient, the loop goes on and no connection ends in error, exactly if
author and text of every entry leave three bytes of a payload free or nobody hears them. -/
theorem admitted_input_is_broadcast_iff {host : Bytes} {l : Loop} {e : EpollEvent}
    {es : List EpollEvent} {r : Replies} {t : Server} {sender : Option ℕ}
    {entries : List RoomEntry} (hr : (serverSystem host).Reach System.any l)
    (hphase : l.phase = .handling (e :: es)) (hadm : LoopInput.Admissible l (.replies r))
    (hctl : r.ctl = []) (hin : Admitted l.server e r t sender entries) :
    ((∀ u ∈ entries, ∀ d ∈ t.connections, Hears sender d →
        (protocolQueueMessage d
          (formatBroadcastMessage u.author (Message.of .chat u.text))).1 = true) ∧
      ∃ s', l.server.handleEvent e r = (true, s') ∧
        ∀ d ∈ s'.connections, d.state ≠ .connectionError) ↔
      (t.Attended sender → ∀ u ∈ entries, u.author.length + u.text.length + 3 ≤ 65536) := by
  have hrun : l.Running := Loop.running_of_handling hphase
  have hinv := reach_inv hr hrun
  have hsucceeds := hin.succeeds_iff hr hrun hctl
  have hfits : t.LinesFit sender entries ↔
      (t.Attended sender → ∀ u ∈ entries, u.author.length + u.text.length + 3 ≤ 65536) := by
    simp only [Server.LinesFit, RoomEntry.line, formatLine_length]
    rfl
  rw [accepted_iff_linesFit, ← hfits]
  constructor
  · exact fun h => h.1
  · intro hbears
    refine ⟨hbears, (l.server.handleEvent e r).2, ?_, ?_⟩
    · rw [← hsucceeds.mpr hbears]
    · intro d hd
      have hhandled := handleEvent_true hinv.sound.registry.distinct hadm
        (Prod.ext (hsucceeds.mpr hbears) rfl)
      rcases hhandled.settled hinv.sound.registry hinv.settled d hd with hst | hst | hst
      · simp [hst]
      · simp [hst]
      · simp [hst]

/-- One guest is in the room, and the host is about to be heard. -/
def oneGuest : List LoopInput :=
  arrives 3 5 ++ delivers 5 (helloBytes (ascii "ann")) ++ drains 5 ++
    [.events [⟨stdinFileno, epollIn⟩]]

theorem admitted_input_is_broadcast_iff_hi : ∃ l : Loop, ∃ s',
    l.server.Attended none ∧
      l.server.handleEvent ⟨stdinFileno, epollIn⟩ { line := some (ascii "hi") } = (true, s') ∧
      ∀ d ∈ s'.connections, d.state ≠ .connectionError := by
  obtain ⟨l, hl, hphase, hopen, hatt, hname⟩ : ∃ l,
      runInputs System.any ⟨initialServer (ascii "host") 3 4, .waiting⟩ oneGuest = some l ∧
      l.phase = .handling [⟨stdinFileno, epollIn⟩] ∧ l.server.serverClosing = false ∧
      l.server.Attended none ∧ l.server.name = ascii "host" :=
    ⟨_, rfl, rfl, rfl, ⟨_, List.mem_cons_self, by decide⟩, rfl⟩
  have hreach : (serverSystem (ascii "host")).Reach System.any l :=
    runInputs_reach (by decide) hl
  have hin : Admitted l.server ⟨stdinFileno, epollIn⟩ { line := some (ascii "hi") } l.server none
      [.hostChat l.server.name (ascii "hi")] :=
    Admitted.hostLine (ascii "hi") hopen ⟨rfl, by decide⟩ rfl (by decide) (by decide) (by decide)
  have hfits : ∀ u ∈ [RoomEntry.hostChat l.server.name (ascii "hi")],
      u.author.length + u.text.length + 3 ≤ 65536 := by
    rw [hname]
    decide
  have hadm : LoopInput.Admissible l (.replies { line := some (ascii "hi") }) :=
    freshSockets_nil l.server
  obtain ⟨-, s', hok⟩ :=
    (admitted_input_is_broadcast_iff hreach hphase hadm rfl hin).mpr (fun _ => hfits)
  exact ⟨l, s', hatt, hok⟩

/-- A line of the host of 65536 bytes passes its check and stops the server. -/
theorem longest_line_stops_the_loop :
    ¬∀ (host : Bytes) (l : Loop) (e : EpollEvent) (es : List EpollEvent) (r : Replies)
      (t : Server) (sender : Option ℕ) (entries : List RoomEntry),
        (serverSystem host).Reach System.any l → l.phase = .handling (e :: es) →
          LoopInput.Admissible l (.replies r) → r.ctl = [] →
            Admitted l.server e r t sender entries → (l.server.handleEvent e r).1 = true := by
  intro hclaim
  obtain ⟨l, hl, hphase, hopen, hatt⟩ : ∃ l,
      runInputs System.any ⟨initialServer (ascii "host") 3 4, .waiting⟩ oneGuest = some l ∧
      l.phase = .handling [⟨stdinFileno, epollIn⟩] ∧ l.server.serverClosing = false ∧
      l.server.Attended none :=
    ⟨_, rfl, rfl, rfl, ⟨_, List.mem_cons_self, by decide⟩⟩
  have hreach : (serverSystem (ascii "host")).Reach System.any l :=
    runInputs_reach (by decide) hl
  have hrun : l.Running := Loop.running_of_handling hphase
  obtain ⟨line, hline⟩ : ∃ line : Bytes, line = List.replicate 65536 97 := ⟨_, rfl⟩
  have hlen : line.length = 65536 := by rw [hline, List.length_replicate]
  have hne : line ≠ [] := by
    rintro rfl
    cases hlen
  have hquit : line ≠ ascii "/quit" := by
    intro heq
    rw [heq] at hlen
    exact absurd hlen (by decide)
  have hin : Admitted l.server ⟨stdinFileno, epollIn⟩ { line := some line } l.server none
      [.hostChat l.server.name line] :=
    Admitted.hostLine line hopen ⟨rfl, by decide⟩ rfl hne hquit (Nat.le_of_eq hlen)
  have hadm : LoopInput.Admissible l (.replies { line := some line }) :=
    freshSockets_nil l.server
  have hok := hclaim _ l _ _ _ _ _ _ hreach hphase hadm rfl hin
  have hfits := (hin.succeeds_iff hreach hrun rfl).mp hok hatt _ (List.mem_singleton.mpr rfl)
  have htext : (RoomEntry.hostChat l.server.name line).text.length = 65536 := hlen
  rw [RoomEntry.line, formatLine_length, htext] at hfits
  unfold protocolPayloadLengthIsLegal maxPayloadSize at hfits
  omega

end Chatroom
