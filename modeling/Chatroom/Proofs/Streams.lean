import Chatroom.Proofs.Effects

/-!
# The two byte streams of a connection

Every byte that `recv` returned is in a parsed frame or still in the buffer, and the
bytes that `send` accepted followed by the bytes that wait are the encoded queue. The
five elementary operations of a connection keep both accounts.
-/

namespace Chatroom

/-- The account of the sending direction. -/
structure Connection.Outgoing (c : Connection) : Prop where
  sent : c.sent ++ c.unsent = frameCodec.encodeAll c.queued
  queued : ∀ m ∈ c.queued, protocolPayloadLengthIsLegal m.payload.length
  written : c.outBuffer = [] ∧ c.bytesWritten = 0 ∨ c.bytesWritten < c.outBuffer.length

/-- The accounts of both directions. -/
structure Connection.Stream (c : Connection) : Prop extends c.Outgoing where
  received : c.received = frameCodec.encodeAll c.parsed ++ c.inBuffer
  parsed : ∀ m ∈ c.parsed, m.WellFormed

namespace Connection.Outgoing

variable {c : Connection}

lemma written_le (h : c.Outgoing) : c.bytesWritten ≤ c.outBuffer.length := by
  rcases h.written with ⟨-, hzero⟩ | hlt
  · omega
  · omega

lemma unsent_ne_nil (h : c.Outgoing) (hout : c.outBuffer ≠ []) : c.unsent ≠ [] := by
  rcases h.written with ⟨hnil, -⟩ | hlt
  · exact absurd hnil hout
  · intro hnil
    have hlen : c.unsent.length = 0 := by rw [hnil]; rfl
    rw [Connection.unsent, List.length_drop] at hlen
    omega

lemma enqueue (h : c.Outgoing) {m : Message}
    (hm : protocolPayloadLengthIsLegal m.payload.length) : (c.enqueue m).Outgoing where
  sent := by
    show c.sent ++ (c.outBuffer ++ encodeFrame m).drop c.bytesWritten =
      frameCodec.encodeAll (c.queued ++ [m])
    rw [List.drop_append_of_le_length h.written_le, Framing.Codec.encodeAll_append, ← h.sent]
    simp [frameCodec, Connection.unsent]
  queued := by
    exact List.forall_mem_append.mpr ⟨h.queued, List.forall_mem_singleton.mpr hm⟩
  written := by
    right
    have hle := h.written_le
    have hlen : (c.enqueue m).outBuffer.length = c.outBuffer.length + (encodeFrame m).length :=
      List.length_append
    have hpos : 0 < (encodeFrame m).length := Nat.zero_lt_succ _
    show c.bytesWritten < (c.enqueue m).outBuffer.length
    omega

lemma advance (h : c.Outgoing) {n : ℕ} (hn : n < c.unsent.length) : (c.advance n).Outgoing where
  sent := by
    show c.sent ++ c.unsent.take n ++ c.outBuffer.drop (c.bytesWritten + n) =
      frameCodec.encodeAll c.queued
    rw [← h.sent, ← List.drop_drop, List.append_assoc]
    exact congrArg (c.sent ++ ·) (List.take_append_drop n c.unsent)
  queued := h.queued
  written := by
    right
    rw [Connection.unsent, List.length_drop] at hn
    show c.bytesWritten + n < c.outBuffer.length
    omega

lemma drained (h : c.Outgoing) : c.drained.Outgoing where
  sent := by
    show c.sent ++ c.unsent ++ [] = frameCodec.encodeAll c.queued
    rw [List.append_nil, h.sent]
  queued := h.queued
  written := Or.inl ⟨rfl, rfl⟩

end Connection.Outgoing

namespace Connection.Stream

variable {c c' : Connection}

lemma congr (h : c.Stream) (hin : c'.inBuffer = c.inBuffer) (hout : c'.outBuffer = c.outBuffer)
    (hwritten : c'.bytesWritten = c.bytesWritten) (hrecv : c'.received = c.received)
    (hsent : c'.sent = c.sent) (hqueued : c'.queued = c.queued)
    (hparsed : c'.parsed = c.parsed) : c'.Stream where
  received := by rw [hrecv, hparsed, hin]; exact h.received
  parsed := by rw [hparsed]; exact h.parsed
  sent := by rw [Connection.unsent, hsent, hout, hwritten, hqueued]; exact h.sent
  queued := by rw [hqueued]; exact h.queued
  written := by rw [hout, hwritten]; exact h.written

lemma fresh (hin : c.inBuffer = []) (hrecv : c.received = []) (hparsed : c.parsed = [])
    (hout : c.outBuffer = []) (hwritten : c.bytesWritten = 0) (hsent : c.sent = [])
    (hqueued : c.queued = []) : c.Stream where
  received := by rw [hrecv, hparsed, hin]; rfl
  parsed := by simp [hparsed]
  sent := by simp [hsent, hqueued, Connection.unsent, hout]
  queued := by simp [hqueued]
  written := Or.inl ⟨hout, hwritten⟩

lemma absorb (h : c.Stream) (data : Bytes) : (c.absorb data).Stream where
  received := by
    show c.received ++ data = frameCodec.encodeAll c.parsed ++ (c.inBuffer ++ data)
    rw [h.received, List.append_assoc]
  parsed := h.parsed
  sent := h.sent
  queued := h.queued
  written := h.written

lemma cut (h : c.Stream) {m : Message} {rest : Bytes}
    (hp : parseFrame c.inBuffer = .frame m rest) : (c.cut m rest).Stream where
  received := by
    have hbuf := (encode_of_parseFrame _ _ _ hp).2
    show c.received = frameCodec.encodeAll (c.parsed ++ [m]) ++ rest
    rw [h.received, hbuf, Framing.Codec.encodeAll_append]
    simp [frameCodec]
  parsed := by
    exact List.forall_mem_append.mpr
      ⟨h.parsed, List.forall_mem_singleton.mpr ((encode_of_parseFrame _ _ _ hp).1)⟩
  sent := h.sent
  queued := h.queued
  written := h.written

lemma enqueue (h : c.Stream) {m : Message} (hm : protocolPayloadLengthIsLegal m.payload.length) :
    (c.enqueue m).Stream :=
  ⟨h.toOutgoing.enqueue hm, h.received, h.parsed⟩

lemma advance (h : c.Stream) {n : ℕ} (hn : n < c.unsent.length) : (c.advance n).Stream :=
  ⟨h.toOutgoing.advance hn, h.received, h.parsed⟩

lemma drained (h : c.Stream) : c.drained.Stream :=
  ⟨h.toOutgoing.drained, h.received, h.parsed⟩

lemma frames_received (h : c.Stream) :
    frameCodec.frames c.received = c.parsed ++ frameCodec.frames c.inBuffer := by
  rw [h.received]
  exact frameCodec.frames_encodeAll h.parsed c.inBuffer

end Connection.Stream

/-! ### A flush, and a receiver at the other end -/

lemma connectionFlushOutBuffer_outgoing {c : Connection} (h : c.Outgoing)
    (replies : List SendReply) :
    (connectionFlushOutBuffer c replies).2.Outgoing ∧
      (connectionFlushOutBuffer c replies).2.queued = c.queued ∧
      c.sent <+: (connectionFlushOutBuffer c replies).2.sent := by
  rw [connectionFlushOutBuffer_eq]
  by_cases hall : sendCount c.unsent.length replies = c.unsent.length
  · rw [if_pos hall]
    exact ⟨h.drained, rfl, List.prefix_append _ _⟩
  · rw [if_neg hall]
    have hlt : sendCount c.unsent.length replies < c.unsent.length := by
      have hle := sendCount_le c.unsent.length replies
      omega
    have hadv := h.advance hlt
    exact ⟨⟨hadv.sent, hadv.queued, hadv.written⟩, rfl, List.prefix_append _ _⟩

lemma connectionFlushOutBuffer_stream {c : Connection} (h : c.Stream) (replies : List SendReply) :
    (connectionFlushOutBuffer c replies).2.Stream ∧
      (connectionFlushOutBuffer c replies).2.queued = c.queued ∧
      c.sent <+: (connectionFlushOutBuffer c replies).2.sent := by
  obtain ⟨hout, hqueued, hsent⟩ := connectionFlushOutBuffer_outgoing h.toOutgoing replies
  refine ⟨⟨hout, ?_, ?_⟩, hqueued, hsent⟩
  · rw [connectionFlushOutBuffer_eq]
    split_ifs <;> exact h.received
  · rw [connectionFlushOutBuffer_eq]
    split_ifs <;> exact h.parsed

lemma connectionFlushOutBuffer_frame (c : Connection) (replies : List SendReply) :
    ((connectionFlushOutBuffer c replies).1 = true →
        (connectionFlushOutBuffer c replies).2.state = c.state) ∧
      (connectionFlushOutBuffer c replies).2.parsed = c.parsed ∧
      (connectionFlushOutBuffer c replies).2.complaints = c.complaints ∧
      (connectionFlushOutBuffer c replies).2.inBuffer = c.inBuffer := by
  rw [connectionFlushOutBuffer_eq]
  by_cases hall : sendCount c.unsent.length replies = c.unsent.length
  · rw [if_pos hall]
    exact ⟨fun _ => rfl, rfl, rfl, rfl⟩
  · rw [if_neg hall]
    refine ⟨?_, rfl, rfl, rfl⟩
    intro hok
    have hfail : sendFails c.unsent.length replies = false := by simpa using hok
    simp [hfail]

lemma encodeAll_framed (ms : List Message) :
    frameCodec.encodeAll (ms.map Message.framed) = frameCodec.encodeAll ms := by
  simp [Framing.Codec.encodeAll, List.flatMap_map, frameCodec]

lemma framed_legal {ms : List Message}
    (h : ∀ m ∈ ms, protocolPayloadLengthIsLegal m.payload.length) :
    ∀ m ∈ ms.map Message.framed, frameCodec.legal m := by
  intro m hm
  obtain ⟨n, hn, rfl⟩ := List.mem_map.mp hm
  exact Message.of_wellFormed (h n hn)

lemma Connection.Stream.sent_prefix {c : Connection} (h : c.Stream) :
    c.sent <+: frameCodec.encodeAll (c.queued.map Message.framed) := by
  rw [encodeAll_framed, ← h.sent]
  exact List.prefix_append c.sent c.unsent

/-- A receiver that has only seen bytes of a sender has parsed the first of its messages,
and what is left in the buffer is the beginning of the rest. -/
theorem parsed_prefix_of_received {sender receiver : Connection} (hs : sender.Stream)
    (hr : receiver.Stream) (h : receiver.received <+: sender.sent) :
    ∃ rest, sender.queued.map Message.framed = receiver.parsed ++ rest ∧
      (∀ m ∈ rest, frameCodec.legal m) ∧ receiver.inBuffer <+: frameCodec.encodeAll rest := by
  have hlegal := framed_legal hs.queued
  have hprefix := h.trans hs.sent_prefix
  rw [hr.received] at hprefix
  obtain ⟨rest, hrest, hbuf⟩ := frameCodec.prefix_decode hr.parsed hlegal hprefix
  refine ⟨rest, hrest, ?_, hbuf⟩
  intro m hm
  apply hlegal
  rw [hrest]
  exact List.mem_append_right _ hm

end Chatroom
