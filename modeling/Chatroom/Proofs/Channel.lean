import Chatroom.Model.Link
import Chatroom.Proofs.Streams

/-!
# Framing from end to end

Over a link the messages parsed so far are always the first of the messages queued so
far, and all of them once everything was flushed, read and parsed.
-/

namespace Chatroom
open Framing Transition

/-- The invariant of a link: both accounts are right, and the receiver has only seen bytes
of the sender. -/
structure Link.Inv (l : Link) : Prop where
  sender : l.sender.Stream
  receiver : l.receiver.Stream
  queued : l.sender.queued = l.queued
  parsed : l.receiver.parsed = l.parsed
  delivered : l.receiver.received <+: l.sender.sent
  state : l.receiver.state ≠ .connectionError
  idle : l.idle = true → parseFrame l.receiver.inBuffer = .incomplete

lemma Connection.Blank.stream {c : Connection} (h : c.Blank) : c.Stream :=
  Connection.Stream.fresh h.inBuffer h.received h.parsed h.outBuffer h.bytesWritten h.sent h.queued

lemma recvEnd_of_delivers {replies : List RecvReply} (h : ∀ reply ∈ replies, reply.Delivers) :
    recvEnd replies = .wouldBlock := by
  induction replies with
  | nil => rfl
  | cons reply replies ih =>
    have hreply := h reply List.mem_cons_self
    have hrest := ih (fun r hr => h r (List.mem_cons_of_mem reply hr))
    cases reply with
    | bytes bs =>
      have hpos : 0 < bs.length := List.length_pos_of_ne_nil hreply
      rw [recvEnd, if_pos hpos, hrest]
    | error e =>
      have hretry : e.retryable = true := hreply
      rw [recvEnd, if_pos hretry]

theorem Link.Inv.act {l : Link} (h : l.Inv) {a : LinkAct} (ha : l.Allows a) : (l.act a).Inv := by
  cases a with
  | queue message =>
    have hm : protocolPayloadLengthIsLegal message.payload.length := ha
    have hqueue : l.act (.queue message) = { l with
        sender := l.sender.enqueue message, queued := l.queued ++ [message] } := by
      simp only [Link.act, protocolQueueMessage_eq]
      rw [if_pos hm]
      rfl
    rw [hqueue]
    exact ⟨h.sender.enqueue hm, h.receiver, by rw [← h.queued]; rfl, h.parsed, h.delivered, h.state,
      h.idle⟩
  | flush replies =>
    obtain ⟨hstream, hqueued, hsent⟩ := connectionFlushOutBuffer_stream h.sender replies
    exact ⟨hstream, h.receiver, hqueued.trans h.queued, h.parsed, h.delivered.trans hsent, h.state,
      h.idle⟩
  | read replies =>
    obtain ⟨-, hdelivers, hprefix⟩ := ha
    have hread : l.act (.read replies) = { l with
        receiver := { l.receiver.absorb (recvData replies) with
          state := l.receiver.state }, idle := false } := by
      simp only [Link.act, connectionReadIntoInBuffer_eq, recvEnd_of_delivers hdelivers]
      rfl
    rw [hread]
    exact ⟨h.sender, h.receiver.absorb _, h.queued, h.parsed, hprefix, h.state, by simp⟩
  | parse =>
    cases hp : parseFrame l.receiver.inBuffer with
    | incomplete =>
      have hparse : l.act .parse = { l with idle := true } := by
        simp only [Link.act, protocolParseMessage_eq, hp]
      rw [hparse]
      exact ⟨h.sender, h.receiver, h.queued, h.parsed, h.delivered, h.state, fun _ => hp⟩
    | illegal =>
      obtain ⟨rest, -, hlegal, hbuf⟩ :=
        parsed_prefix_of_received h.sender h.receiver h.delivered
      rcases frameCodec.parse_of_prefix hlegal hbuf with hi | ⟨m, r, ms, -, hf, -⟩
      · exact absurd (hp.symm.trans hi) (by simp)
      · exact absurd (hp.symm.trans hf) (by simp)
    | frame m rest =>
      have hparse : l.act .parse = { l with
          receiver := l.receiver.cut m rest, parsed := l.parsed ++ [m] } := by
        simp only [Link.act, protocolParseMessage_eq, hp]
        rfl
      have hidle : l.idle = false := ha
      rw [hparse]
      exact ⟨h.sender, h.receiver.cut hp, h.queued, by rw [← h.parsed]; rfl, h.delivered, h.state,
        by simp [hidle]⟩

theorem reach_link_inv {P : Link → LinkAct → Prop} {l : Link} (hr : linkSystem.Reach P l) :
    l.Inv := by
  refine System.Reach.invariant ?_ ?_ hr
  · rintro l ⟨hs, hrecv, hl⟩
    rw [hl]
    exact ⟨hs.stream, hrecv.stream, hs.queued, hrecv.parsed, by rw [hrecv.received]; exact
      List.nil_prefix, hrecv.state, fun _ => by rw [hrecv.inBuffer]; rfl⟩
  · intro l a l' hinv _ hstep
    have hstep : linkStep l a = some l' := hstep
    rw [linkStep] at hstep
    split_ifs at hstep with ha
    cases hstep
    exact hinv.act ha

/-- The parsed messages are at every moment the first of the queued ones, as they are
framed; the receiver is never in error; and when everything was flushed, read and parsed
nothing is missing and nothing is left. -/
theorem parsed_messages_are_queued {l : Link} (hr : linkSystem.Reach System.any l) :
    l.parsed <+: l.queued.map Message.framed ∧
      (∀ m ∈ l.parsed, m.payloadLength.toNat = m.payload.length) ∧
      l.receiver.state ≠ .connectionError ∧
      (l.sender.outBuffer = [] → l.receiver.received = l.sender.sent → l.idle = true →
        l.parsed = l.queued.map Message.framed ∧ l.receiver.inBuffer = []) := by
  have h := reach_link_inv hr
  obtain ⟨rest, hrest, hlegal, hbuf⟩ := parsed_prefix_of_received h.sender h.receiver h.delivered
  rw [h.queued, h.parsed] at hrest
  refine ⟨⟨rest, hrest.symm⟩, ?_, h.state, ?_⟩
  · intro m hm
    rw [← h.parsed] at hm
    exact (h.receiver.parsed m hm).length
  · intro hout hall hidle
    have hunsent : l.sender.unsent = [] := by rw [Connection.unsent, hout, List.drop_nil]
    have hsent := h.sender.sent
    rw [hunsent, List.append_nil, ← hall, h.receiver.received, h.queued, h.parsed,
      ← encodeAll_framed l.queued, hrest, Codec.encodeAll_append, List.append_cancel_left_eq]
      at hsent
    have hincomplete := h.idle hidle
    rw [hsent] at hincomplete
    have hnil := frameCodec.drained_eq_nil hlegal hincomplete
    rw [hnil] at hsent hrest
    exact ⟨by rw [hrest, List.append_nil], hsent⟩

/-- The stream of two frames, the second without a payload. -/
def twoFrames : Bytes :=
  encodeFrame (Message.of .chat (ascii "hi")) ++ encodeFrame (Message.of 77 [])

/-- The second frame is cut inside its header by a `send` and by a `recv`. -/
theorem parsed_messages_are_queued_split : ∃ l : Link,
    l.parsed = [Message.of .chat (ascii "hi"), Message.of 77 []] ∧
      l.parsed = l.queued.map Message.framed ∧ l.receiver.inBuffer = [] := by
  have hblank : Connection.Blank { fd := 5, state := .active } :=
    ⟨rfl, rfl, rfl, rfl, rfl, rfl, rfl, by decide⟩
  obtain ⟨l, hl, hparsed, hout, hall, hidle⟩ : ∃ l : Link,
      System.run linkStep
        ⟨{ fd := 5, state := .active }, { fd := 5, state := .active }, true, [], []⟩
        [.queue (Message.of .chat (ascii "hi")), .flush [.count 3, .error .eagain],
          .queue (Message.of 77 []), .flush [.count 6, .count 9],
          .read [.bytes (twoFrames.take 9), .error .eintr], .parse, .parse,
          .read [.bytes (twoFrames.drop 9)], .parse, .parse] = some l ∧
      l.parsed = [Message.of .chat (ascii "hi"), Message.of 77 []] ∧ l.sender.outBuffer = [] ∧
      l.receiver.received = l.sender.sent ∧ l.idle = true :=
    ⟨_, rfl, by decide, by decide, by decide, by decide⟩
  have hpath := System.Path.of_run (M := linkSystem) (P := System.any)
    (fun _ _ _ h => ⟨trivial, h⟩) hl
  have h := parsed_messages_are_queued ⟨_, ⟨hblank, hblank, rfl⟩, hpath⟩
  exact ⟨l, hparsed, h.2.2.2 hout hall hidle⟩

end Chatroom
