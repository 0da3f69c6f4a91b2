import Chatroom.Library.Framing
import Chatroom.Model.Connection

/-!
# The frame format

`protocol.cpp`: one type byte, the payload length in network byte order, the
payload. The second half of the file shows that the two functions are the encoder
and the incremental parser of a framing codec.
-/

namespace Chatroom
open Framing

/-- `MAX_PAYLOAD_SIZE` -/
def maxPayloadSize : ℕ := 64 * 1024

/-- `FRAME_HEADER_SIZE` -/
def frameHeaderSize : ℕ := 5

/-- `protocol_payload_length_is_legal` -/
def protocolPayloadLengthIsLegal (payloadLength : ℕ) : Prop :=
  payloadLength ≤ maxPayloadSize

instance (n : ℕ) : Decidable (protocolPayloadLengthIsLegal n) :=
  inferInstanceAs (Decidable (n ≤ maxPayloadSize))

/-- The four bytes of a 32-bit number after `htonl`, in memory order. -/
def htonl (n : UInt32) : Bytes :=
  [UInt8.ofNat (n.toNat / 0x1000000), UInt8.ofNat (n.toNat / 0x10000),
    UInt8.ofNat (n.toNat / 0x100), UInt8.ofNat n.toNat]

/-- `ntohl` of the number that has these four bytes in memory. -/
def ntohl (b₀ b₁ b₂ b₃ : Byte) : UInt32 :=
  UInt32.ofNat (b₀.toNat * 0x1000000 + b₁.toNat * 0x10000 + b₂.toNat * 0x100 + b₃.toNat)

/-- `protocol_queue_message` -/
def protocolQueueMessage (conn : Connection) (message : Message) : Bool × Connection :=
  if ¬protocolPayloadLengthIsLegal message.payload.length then
    (false, conn.reject (.payloadTooLarge message.payload.length))
  else
    let payloadLength := htonl (UInt32.ofNat message.payload.length)
    (true, { conn with
      outBuffer := conn.outBuffer ++ [message.type] ++ payloadLength ++ message.payload
      queued := conn.queued ++ [message] })

/-- `protocol_parse_message` -/
def protocolParseMessage (conn : Connection) : Option Message × Connection :=
  if h : conn.inBuffer.length < frameHeaderSize then (none, conn)
  else
    have hsize : 5 ≤ conn.inBuffer.length := not_lt.mp h
    let rawType := conn.inBuffer.get ⟨0, by omega⟩
    let payloadLength := ntohl (conn.inBuffer.get ⟨1, by omega⟩) (conn.inBuffer.get ⟨2, by omega⟩)
      (conn.inBuffer.get ⟨3, by omega⟩) (conn.inBuffer.get ⟨4, by omega⟩)
    if ¬protocolPayloadLengthIsLegal payloadLength.toNat then
      (none, conn.reject (.oversizedPayload payloadLength))
    else
      let frameSize := frameHeaderSize + payloadLength.toNat
      if conn.inBuffer.length < frameSize then (none, conn)
      else
        let message : Message :=
          ⟨rawType, payloadLength, (conn.inBuffer.take frameSize).drop frameHeaderSize⟩
        (some message, { conn with
          inBuffer := conn.inBuffer.drop frameSize
          parsed := conn.parsed ++ [message] })

/-! ### The codec -/

lemma ntohl_toNat (b₀ b₁ b₂ b₃ : Byte) :
    (ntohl b₀ b₁ b₂ b₃).toNat =
      b₀.toNat * 0x1000000 + b₁.toNat * 0x10000 + b₂.toNat * 0x100 + b₃.toNat := by
  have h₀ := b₀.toNat_lt
  have h₁ := b₁.toNat_lt
  have h₂ := b₂.toNat_lt
  have h₃ := b₃.toNat_lt
  simp only [ntohl, UInt32.toNat_ofNat']
  omega

lemma htonl_ntohl (b₀ b₁ b₂ b₃ : Byte) : htonl (ntohl b₀ b₁ b₂ b₃) = [b₀, b₁, b₂, b₃] := by
  have h₀ := b₀.toNat_lt
  have h₁ := b₁.toNat_lt
  have h₂ := b₂.toNat_lt
  have h₃ := b₃.toNat_lt
  simp only [htonl, ntohl_toNat, List.cons.injEq, and_true, ← UInt8.toNat_inj,
    UInt8.toNat_ofNat']
  omega

lemma htonl_bytes (n : UInt32) :
    ∃ b₀ b₁ b₂ b₃, htonl n = [b₀, b₁, b₂, b₃] ∧ ntohl b₀ b₁ b₂ b₃ = n := by
  refine ⟨_, _, _, _, rfl, ?_⟩
  have hn := n.toNat_lt
  rw [← UInt32.toNat_inj, ntohl_toNat]
  simp only [UInt8.toNat_ofNat']
  omega

/-- The bytes of a message on the wire. -/
def encodeFrame (message : Message) : Bytes :=
  message.type :: htonl (UInt32.ofNat message.payload.length) ++ message.payload

/-- The messages that the parser can return: the length field is the payload size,
and is legal. -/
def Message.WellFormed (message : Message) : Prop :=
  protocolPayloadLengthIsLegal message.payload.length ∧
    message.payloadLength = UInt32.ofNat message.payload.length

instance (message : Message) : Decidable message.WellFormed :=
  inferInstanceAs (Decidable (_ ∧ _))

/-- What the parser finds after a header with this type and payload length. -/
def parseBody (type : MessageType) (n : UInt32) (body : Bytes) : Outcome Byte Message :=
  if protocolPayloadLengthIsLegal n.toNat then
    if body.length < n.toNat then .incomplete
    else .frame ⟨type, n, body.take n.toNat⟩ (body.drop n.toNat)
  else .illegal

/-- What the parser finds at the front of a buffer. -/
def parseFrame : Bytes → Outcome Byte Message
  | type :: b₀ :: b₁ :: b₂ :: b₃ :: body => parseBody type (ntohl b₀ b₁ b₂ b₃) body
  | _ => .incomplete

/-- The payload length that a complete header declares. -/
def declaredLength : Bytes → UInt32
  | _ :: b₀ :: b₁ :: b₂ :: b₃ :: _ => ntohl b₀ b₁ b₂ b₃
  | _ => 0

lemma ofNat_payload_toNat {n : ℕ} (h : protocolPayloadLengthIsLegal n) :
    (UInt32.ofNat n).toNat = n := by
  rw [UInt32.toNat_ofNat']
  unfold protocolPayloadLengthIsLegal maxPayloadSize at h
  omega

lemma Message.WellFormed.length {m : Message} (h : m.WellFormed) :
    m.payloadLength.toNat = m.payload.length := by
  rw [h.2, ofNat_payload_toNat h.1]

lemma Message.of_wellFormed {type : MessageType} {payload : Bytes}
    (h : protocolPayloadLengthIsLegal payload.length) : (Message.of type payload).WellFormed :=
  ⟨h, rfl⟩

lemma encodeFrame_cons (m : Message) :
    ∃ b₀ b₁ b₂ b₃, encodeFrame m = m.type :: b₀ :: b₁ :: b₂ :: b₃ :: m.payload ∧
      ntohl b₀ b₁ b₂ b₃ = UInt32.ofNat m.payload.length := by
  obtain ⟨b₀, b₁, b₂, b₃, hb, hn⟩ := htonl_bytes (UInt32.ofNat m.payload.length)
  exact ⟨b₀, b₁, b₂, b₃, by simp [encodeFrame, hb], hn⟩

lemma parseFrame_encode (m : Message) (rest : Bytes) (hm : m.WellFormed) :
    parseFrame (encodeFrame m ++ rest) = .frame m rest := by
  obtain ⟨b₀, b₁, b₂, b₃, hb, hn⟩ := encodeFrame_cons m
  have hlen : (ntohl b₀ b₁ b₂ b₃).toNat = m.payload.length := by
    rw [hn, ofNat_payload_toNat hm.1]
  rw [hb]
  have hlegal : protocolPayloadLengthIsLegal (ntohl b₀ b₁ b₂ b₃).toNat := by rw [hlen]; exact hm.1
  have hlong : ¬(m.payload ++ rest).length < (ntohl b₀ b₁ b₂ b₃).toNat := by
    rw [List.length_append, hlen]
    omega
  simp only [List.cons_append, parseFrame, parseBody]
  rw [if_pos hlegal, if_neg hlong, hlen, List.take_left, List.drop_left, hn, ← hm.2]

lemma parseBody_frame {type : MessageType} {n : UInt32} {body rest : Bytes} {m : Message}
    (h : parseBody type n body = .frame m rest) :
    m.WellFormed ∧ m.type = type ∧ m.payloadLength = n ∧ body = m.payload ++ rest := by
  unfold parseBody at h
  by_cases hlegal : protocolPayloadLengthIsLegal n.toNat
  · by_cases hshort : body.length < n.toNat
    · rw [if_pos hlegal, if_pos hshort] at h
      cases h
    · rw [if_pos hlegal, if_neg hshort] at h
      injection h with hm hrest
      have hlen : (body.take n.toNat).length = n.toNat := by
        rw [List.length_take]
        omega
      subst hm hrest
      refine ⟨⟨?_, ?_⟩, rfl, rfl, (List.take_append_drop _ _).symm⟩
      · rw [hlen]
        exact hlegal
      · rw [hlen, UInt32.ofNat_toNat]
  · rw [if_neg hlegal] at h
    cases h

lemma encode_of_parseFrame (bs : Bytes) (m : Message) (rest : Bytes)
    (h : parseFrame bs = .frame m rest) : m.WellFormed ∧ bs = encodeFrame m ++ rest := by
  unfold parseFrame at h
  split at h
  · rename_i type b₀ b₁ b₂ b₃ body
    obtain ⟨hm, htype, hn, hbody⟩ := parseBody_frame h
    refine ⟨hm, ?_⟩
    rw [encodeFrame, ← hm.2, hn, htonl_ntohl, htype, hbody]
    rfl
  · cases h

lemma parseFrame_illegal_append (bs more : Bytes) (h : parseFrame bs = .illegal) :
    parseFrame (bs ++ more) = .illegal := by
  unfold parseFrame at h
  split at h
  · rename_i type b₀ b₁ b₂ b₃ body
    by_cases hlegal : protocolPayloadLengthIsLegal (ntohl b₀ b₁ b₂ b₃).toNat
    · unfold parseBody at h
      rw [if_pos hlegal] at h
      split at h <;> cases h
    · simp only [List.cons_append, parseFrame, parseBody]
      rw [if_neg hlegal]
  · cases h

/-- The frame format as a codec of the framing library. -/
def frameCodec : Codec Byte Message where
  encode := encodeFrame
  legal := Message.WellFormed
  parse := parseFrame
  parse_nil := rfl
  parse_encode := parseFrame_encode
  encode_of_parse := encode_of_parseFrame
  illegal_append := parseFrame_illegal_append

/-- The message as it arrives: the length field is recomputed from the payload. -/
def Message.framed (m : Message) : Message :=
  Message.of m.type m.payload

@[simp] lemma encodeFrame_framed (m : Message) : encodeFrame m.framed = encodeFrame m := rfl

/-- `protocol_queue_message` appends exactly one frame, or rejects the message. -/
theorem protocolQueueMessage_eq (conn : Connection) (m : Message) :
    protocolQueueMessage conn m =
      if protocolPayloadLengthIsLegal m.payload.length then
        (true, { conn with
          outBuffer := conn.outBuffer ++ encodeFrame m
          queued := conn.queued ++ [m] })
      else (false, conn.reject (.payloadTooLarge m.payload.length)) := by
  unfold protocolQueueMessage
  split_ifs <;> simp_all [encodeFrame]

lemma parseFrame_short {bs : Bytes} (h : bs.length < frameHeaderSize) :
    parseFrame bs = .incomplete := by
  unfold parseFrame
  split
  · simp only [frameHeaderSize, List.length_cons] at h
    omega
  · rfl

lemma header_of_long {bs : Bytes} (h : ¬bs.length < frameHeaderSize) :
    ∃ type b₀ b₁ b₂ b₃ body, bs = type :: b₀ :: b₁ :: b₂ :: b₃ :: body := by
  unfold frameHeaderSize at h
  match bs, h with
  | type :: b₀ :: b₁ :: b₂ :: b₃ :: body, _ => exact ⟨type, b₀, b₁, b₂, b₃, body, rfl⟩
  | [], h => exact absurd (by decide) h
  | [_], h => exact absurd (by simp) h
  | [_, _], h => exact absurd (by simp) h
  | [_, _, _], h => exact absurd (by simp) h
  | [_, _, _, _], h => exact absurd (by simp) h

/-- `protocol_parse_message` acts on the buffer as the parser of the codec. -/
theorem protocolParseMessage_eq (conn : Connection) :
    protocolParseMessage conn =
      match parseFrame conn.inBuffer with
      | .incomplete => (none, conn)
      | .illegal => (none, conn.reject (.oversizedPayload (declaredLength conn.inBuffer)))
      | .frame m rest =>
        (some m, { conn with inBuffer := rest, parsed := conn.parsed ++ [m] }) := by
  unfold protocolParseMessage
  by_cases h : conn.inBuffer.length < frameHeaderSize
  · rw [dif_pos h, parseFrame_short h]
  · obtain ⟨type, b₀, b₁, b₂, b₃, body, hbuf⟩ := header_of_long h
    have h₀ : ∀ hi, conn.inBuffer.get ⟨0, hi⟩ = type := by simp [hbuf]
    have h₁ : ∀ hi, conn.inBuffer.get ⟨1, hi⟩ = b₀ := by simp [hbuf]
    have h₂ : ∀ hi, conn.inBuffer.get ⟨2, hi⟩ = b₁ := by simp [hbuf]
    have h₃ : ∀ hi, conn.inBuffer.get ⟨3, hi⟩ = b₂ := by simp [hbuf]
    have h₄ : ∀ hi, conn.inBuffer.get ⟨4, hi⟩ = b₃ := by simp [hbuf]
    have hparse : parseFrame conn.inBuffer = parseBody type (ntohl b₀ b₁ b₂ b₃) body := by
      rw [hbuf, parseFrame]
    have hdecl : declaredLength conn.inBuffer = ntohl b₀ b₁ b₂ b₃ := by
      rw [hbuf, declaredLength]
    rw [dif_neg h, hparse, hdecl]
    simp only [h₀, h₁, h₂, h₃, h₄]
    generalize ntohl b₀ b₁ b₂ b₃ = n
    by_cases hlegal : protocolPayloadLengthIsLegal n.toNat
    · rw [if_neg (not_not.mpr hlegal), parseBody, if_pos hlegal]
      by_cases hshort : body.length < n.toNat
      · have hlen : conn.inBuffer.length < frameHeaderSize + n.toNat := by
          simp [hbuf, frameHeaderSize]
          omega
        rw [if_pos hlen, if_pos hshort]
      · have hlen : ¬conn.inBuffer.length < frameHeaderSize + n.toNat := by
          simp [hbuf, frameHeaderSize]
          omega
        have htake : (conn.inBuffer.take (frameHeaderSize + n.toNat)).drop frameHeaderSize =
            body.take n.toNat := by
          rw [List.drop_take]
          simp [hbuf, frameHeaderSize]
        have hdrop : conn.inBuffer.drop (frameHeaderSize + n.toNat) = body.drop n.toNat := by
          rw [← List.drop_drop]
          simp [hbuf, frameHeaderSize]
        rw [if_neg hlen, if_neg hshort, htake, hdrop]
    · rw [if_pos hlegal, parseBody, if_neg hlegal]

end Chatroom
