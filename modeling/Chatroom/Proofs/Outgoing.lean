import Chatroom.Library.Transition
import Chatroom.Proofs.Streams

/-!
# The outgoing stream

Any sequence of `protocol_queue_message` and `connection_flush_out_buffer` calls on one
connection, whatever `send` answers and also after a failure: the bytes that `send` accepted
and the bytes that wait are always the frames of the messages that were queued.
-/

namespace Chatroom
open Transition

/-- The calls that change the outgoing stream of a connection. -/
inductive OutgoingCall
  | queue (message : Message)
  | flush (replies : List SendReply)

/-- The result of a call and the connection after it. -/
def Connection.perform (conn : Connection) : OutgoingCall → Bool × Connection
  | .queue message => protocolQueueMessage conn message
  | .flush replies => connectionFlushOutBuffer conn replies

/-- The sequences of such calls on a connection that starts with nothing to send. -/
def outgoingSystem : System Connection OutgoingCall where
  init conn := conn.outBuffer = [] ∧ conn.bytesWritten = 0 ∧ conn.sent = [] ∧ conn.queued = []
  step conn call conn' := (conn.perform call).2 = conn'

/-- The answers of `send` that a flush does not survive. -/
def SendReply.Fatal : SendReply → Prop
  | .count n => n = 0
  | .error e => e.retryable = false

/-- The answers after which a flush goes on. -/
def SendReply.Takes : SendReply → Prop
  | .count n => 0 < n
  | .error _ => False

/-! ### One flush -/

section Flush

variable {c : Connection}

/-- As long as bytes remain each answer but the last takes one of them at least, so a flush
asks no more often than it has bytes. -/
lemma sendCount_append {remaining : ℕ} {replies : List SendReply}
    (h : remaining ≤ replies.length) (more : List SendReply) :
    sendCount remaining (replies ++ more) = sendCount remaining replies ∧
      sendFails remaining (replies ++ more) = sendFails remaining replies := by
  induction replies generalizing remaining with
  | nil =>
    have hzero : remaining = 0 := by simpa using h
    subst hzero
    cases more with
    | nil => exact ⟨rfl, rfl⟩
    | cons reply more => cases reply <;> simp [sendCount, sendFails]
  | cons reply replies ih =>
    rw [List.length_cons] at h
    cases reply with
    | error e => simp [sendCount, sendFails]
    | count n =>
      simp only [List.cons_append, sendCount, sendFails]
      by_cases hpos : 0 < min n remaining
      · have hle : remaining - min n remaining ≤ replies.length := by omega
        obtain ⟨hcount, hfails⟩ := ih hle
        rw [hcount, hfails]
        exact ⟨rfl, rfl⟩
      · simp only [hpos, if_false, and_self]

theorem connectionFlushOutBuffer_append (c : Connection) {replies : List SendReply}
    (h : c.unsent.length ≤ replies.length) (more : List SendReply) :
    connectionFlushOutBuffer c (replies ++ more) = connectionFlushOutBuffer c replies := by
  obtain ⟨hcount, hfails⟩ := sendCount_append h more
  rw [connectionFlushOutBuffer_eq, connectionFlushOutBuffer_eq, hcount, hfails]

lemma fatal_of_sendFails {remaining : ℕ} {replies : List SendReply}
    (h : sendFails remaining replies = true) : ∃ before reply after,
      replies = before ++ reply :: after ∧ (∀ r ∈ before, r.Takes) ∧ reply.Fatal := by
  induction replies generalizing remaining with
  | nil => simp [sendFails] at h
  | cons reply replies ih =>
    cases reply with
    | error e =>
      simp only [sendFails] at h
      split_ifs at h with hzero
      have hretry : e.retryable = false := by simpa using h
      exact ⟨[], .error e, replies, rfl, by simp, hretry⟩
    | count n =>
      simp only [sendFails] at h
      split_ifs at h with hzero hpos
      · obtain ⟨before, reply, after, rfl, hbefore, hfatal⟩ := ih h
        have hn : (SendReply.count n).Takes := Nat.lt_of_lt_of_le hpos (Nat.min_le_left _ _)
        exact ⟨.count n :: before, reply, after, rfl, List.forall_mem_cons.mpr ⟨hn, hbefore⟩,
          hfatal⟩
      · refine ⟨[], .count n, replies, rfl, by simp, ?_⟩
        show n = 0
        omega

lemma flush_fails (replies : List SendReply)
    (h : (connectionFlushOutBuffer c replies).1 = false) : ∃ before reply after,
      replies = before ++ reply :: after ∧ (∀ r ∈ before, r.Takes) ∧ reply.Fatal := by
  rw [connectionFlushOutBuffer_eq] at h
  by_cases hall : sendCount c.unsent.length replies = c.unsent.length
  · rw [if_pos hall] at h
    cases h
  · rw [if_neg hall] at h
    have hfails : sendFails c.unsent.length replies = true := by simpa using h
    exact fatal_of_sendFails hfails

lemma flush_empties_iff (h : c.Outgoing) (replies : List SendReply) :
    (connectionFlushOutBuffer c replies).1 = true ∧
        (connectionFlushOutBuffer c replies).2.outBuffer = [] ↔
      (connectionFlushOutBuffer c replies).2.sent = frameCodec.encodeAll c.queued := by
  rw [connectionFlushOutBuffer_eq, ← h.sent]
  by_cases hall : sendCount c.unsent.length replies = c.unsent.length
  · rw [if_pos hall]
    exact iff_of_true ⟨rfl, rfl⟩ rfl
  · have hlt : sendCount c.unsent.length replies < c.unsent.length := by
      have hle := sendCount_le c.unsent.length replies
      omega
    rw [if_neg hall]
    apply iff_of_false
    · rintro ⟨-, hnil⟩
      have hnil : c.outBuffer = [] := hnil
      simp [Connection.unsent, hnil] at hlt
    · intro hsent
      have hlen := congrArg List.length (List.append_cancel_left hsent)
      rw [List.length_take] at hlen
      omega

lemma flush_waits (h : c.Outgoing) (replies : List SendReply)
    (hout : (connectionFlushOutBuffer c replies).2.outBuffer ≠ []) :
    (connectionFlushOutBuffer c replies).2.bytesWritten <
      (connectionFlushOutBuffer c replies).2.outBuffer.length := by
  rcases (connectionFlushOutBuffer_outgoing h replies).1.written with ⟨hnil, -⟩ | hlt
  · exact absurd hnil hout
  · exact hlt

end Flush

/-! ### Sequences of calls -/

theorem Connection.Outgoing.perform {c : Connection} (h : c.Outgoing) (call : OutgoingCall) :
    (c.perform call).2.Outgoing := by
  cases call with
  | queue m =>
    simp only [Connection.perform, protocolQueueMessage_eq]
    by_cases hm : protocolPayloadLengthIsLegal m.payload.length
    · rw [if_pos hm]
      exact h.enqueue hm
    · rw [if_neg hm]
      exact ⟨h.sent, h.queued, h.written⟩
  | flush replies => exact (connectionFlushOutBuffer_outgoing h replies).1

theorem outgoing_reach {P : Connection → OutgoingCall → Prop} {c : Connection}
    (hr : outgoingSystem.Reach P c) : c.Outgoing := by
  refine System.Reach.invariant ?_ ?_ hr
  · rintro c ⟨hout, hwritten, hsent, hqueued⟩
    exact ⟨by simp [hsent, hqueued, Connection.unsent, hout], by simp [hqueued],
      Or.inl ⟨hout, hwritten⟩⟩
  · rintro c call d h - rfl
    exact h.perform call

/-- What holds of a connection at any point of such a sequence, and of the next call. -/
structure Connection.StreamIntegrity (c : Connection) : Prop where
  stream : c.sent ++ c.outBuffer.drop c.bytesWritten = c.queued.flatMap encodeFrame
  written_le : c.bytesWritten ≤ c.outBuffer.length
  queues : ∀ m, (protocolQueueMessage c m).1 = true →
    (protocolQueueMessage c m).2.queued = c.queued ++ [m] ∧
      (protocolQueueMessage c m).2.sent = c.sent
  rejects : ∀ m, (protocolQueueMessage c m).1 = false →
    { (protocolQueueMessage c m).2 with state := c.state, complaints := c.complaints } = c
  ends : ∀ replies more, c.unsent.length ≤ replies.length →
    connectionFlushOutBuffer c (replies ++ more) = connectionFlushOutBuffer c replies
  empties : ∀ replies, (connectionFlushOutBuffer c replies).1 = true ∧
      (connectionFlushOutBuffer c replies).2.outBuffer = [] ↔
    (connectionFlushOutBuffer c replies).2.sent = c.queued.flatMap encodeFrame
  waits : ∀ replies, (connectionFlushOutBuffer c replies).1 = true →
    (connectionFlushOutBuffer c replies).2.outBuffer ≠ [] →
    (connectionFlushOutBuffer c replies).2.bytesWritten <
      (connectionFlushOutBuffer c replies).2.outBuffer.length
  fails : ∀ replies, (connectionFlushOutBuffer c replies).1 = false → ∃ before reply after,
    replies = before ++ reply :: after ∧ (∀ r ∈ before, r.Takes) ∧ reply.Fatal
  accounts : ∀ replies, c.sent <+: (connectionFlushOutBuffer c replies).2.sent ∧
    (connectionFlushOutBuffer c replies).2.sent ++
      (connectionFlushOutBuffer c replies).2.outBuffer.drop
        (connectionFlushOutBuffer c replies).2.bytesWritten = c.queued.flatMap encodeFrame

/-- No byte of the outgoing stream is repeated, skipped or reordered. -/
theorem outgoing_stream_is_intact {c : Connection} (hr : outgoingSystem.Reach System.any c) :
    c.StreamIntegrity where
  stream := (outgoing_reach hr).sent
  written_le := (outgoing_reach hr).written_le
  queues := by
    intro m hok
    rw [protocolQueueMessage_eq] at hok ⊢
    split_ifs at hok ⊢
    exact ⟨rfl, rfl⟩
  rejects := by
    intro m hno
    rw [protocolQueueMessage_eq] at hno ⊢
    split_ifs at hno ⊢
    rfl
  ends := fun replies more h => connectionFlushOutBuffer_append c h more
  empties := flush_empties_iff (outgoing_reach hr)
  waits := fun replies _ hout => flush_waits (outgoing_reach hr) replies hout
  fails := flush_fails
  accounts := by
    intro replies
    obtain ⟨hout, hqueued, hsent⟩ := connectionFlushOutBuffer_outgoing (outgoing_reach hr) replies
    refine ⟨hsent, ?_⟩
    have h := hout.sent
    rw [hqueued] at h
    exact h

/-- Two messages, the second of which is queued behind a partly sent first one, and a send
that fails. -/
theorem outgoing_stream_is_intact_broken : ∃ c : Connection, c.sent = [3, 0, 0] ∧
    c.state = .connectionError ∧ c.queued.length = 2 ∧ c.StreamIntegrity := by
  have hfirst : outgoingSystem.Reach System.any { fd := 5, state := .active } :=
    System.Reach.of_init ⟨rfl, rfl, rfl, rfl⟩
  have hqueue := hfirst.snoc (l := .queue (Message.of .chat [104, 105])) trivial rfl
  have hsend := hqueue.snoc (l := .flush [.count 2, .error .eintr]) trivial rfl
  have hagain := hsend.snoc (l := .queue (Message.of .closeCon [])) trivial rfl
  have hbroken := hagain.snoc (l := .flush [.count 1, .error .epipe]) trivial rfl
  exact ⟨_, rfl, rfl, rfl, outgoing_stream_is_intact hbroken⟩

end Chatroom
