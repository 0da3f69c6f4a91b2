import Chatroom.Model.Protocol

/-!
# The grammar of the parser

Every outcome of `protocol_parse_message`, for every buffer: the frames it accepts are the
frames that `protocol_queue_message` appends, it rejects exactly the complete headers with an
illegal length, and it waits in front of what can still become a legal frame. A second
rendering of the parser checks each access to the buffer against its bounds.
-/

namespace Chatroom
open Framing

/-! ### Checked accesses -/

/-- The bytes from `first` to before `last`, if these are positions of the buffer. -/
def checkedRange (buffer : Bytes) (first last : ℕ) : Option Bytes :=
  if first ≤ last ∧ last ≤ buffer.length then some ((buffer.take last).drop first) else none

/-- The `memcpy` of a 32-bit number out of the buffer, and its `ntohl`. -/
def checkedNtohl (buffer : Bytes) (first : ℕ) : Option UInt32 :=
  match checkedRange buffer first (first + 4) with
  | some [b₀, b₁, b₂, b₃] => some (ntohl b₀ b₁ b₂ b₃)
  | _ => none

/-- `protocol_parse_message` where an index, a `memcpy` or an iterator outside of the buffer
makes the whole call undefined. -/
def protocolParseMessageChecked (conn : Connection) : Option (Option Message × Connection) :=
  if conn.inBuffer.length < frameHeaderSize then some (none, conn)
  else
    (conn.inBuffer[0]?).bind fun rawType =>
      (checkedNtohl conn.inBuffer 1).bind fun payloadLength =>
        if ¬protocolPayloadLengthIsLegal payloadLength.toNat then
          some (none, conn.reject (.oversizedPayload payloadLength))
        else
          let frameSize := frameHeaderSize + payloadLength.toNat
          if conn.inBuffer.length < frameSize then some (none, conn)
          else
            (checkedRange conn.inBuffer frameHeaderSize frameSize).bind fun payload =>
              (checkedRange conn.inBuffer 0 frameSize).map fun erased =>
                let message : Message := ⟨rawType, payloadLength, payload⟩
                (some message, { conn with
                  inBuffer := conn.inBuffer.drop erased.length
                  parsed := conn.parsed ++ [message] })

lemma checkedRange_eq {buffer : Bytes} {first last : ℕ} (h : first ≤ last)
    (h' : last ≤ buffer.length) :
    checkedRange buffer first last = some ((buffer.take last).drop first) :=
  if_pos ⟨h, h'⟩

/-- No access of the parser leaves the buffer, whatever length the header declares. -/
theorem protocolParseMessageChecked_eq (conn : Connection) :
    protocolParseMessageChecked conn = some (protocolParseMessage conn) := by
  unfold protocolParseMessageChecked
  by_cases h : conn.inBuffer.length < frameHeaderSize
  · rw [if_pos h, protocolParseMessage, dif_pos h]
  · obtain ⟨type, b₀, b₁, b₂, b₃, body, hbuf⟩ := header_of_long h
    have hlen : conn.inBuffer.length = body.length + 5 := by simp [hbuf]
    have htype : conn.inBuffer[0]? = some type := by simp [hbuf]
    have hlength : checkedNtohl conn.inBuffer 1 = some (ntohl b₀ b₁ b₂ b₃) := by
      rw [checkedNtohl, checkedRange_eq (by omega) (by omega)]
      simp [hbuf]
    rw [if_neg h, protocolParseMessage, dif_neg h, htype, hlength]
    have h₀ : ∀ hi, conn.inBuffer.get ⟨0, hi⟩ = type := by simp [hbuf]
    have h₁ : ∀ hi, conn.inBuffer.get ⟨1, hi⟩ = b₀ := by simp [hbuf]
    have h₂ : ∀ hi, conn.inBuffer.get ⟨2, hi⟩ = b₁ := by simp [hbuf]
    have h₃ : ∀ hi, conn.inBuffer.get ⟨3, hi⟩ = b₂ := by simp [hbuf]
    have h₄ : ∀ hi, conn.inBuffer.get ⟨4, hi⟩ = b₃ := by simp [hbuf]
    rw [Option.bind_some, Option.bind_some]
    simp only [h₀, h₁, h₂, h₃, h₄]
    generalize ntohl b₀ b₁ b₂ b₃ = n
    by_cases hlegal : protocolPayloadLengthIsLegal n.toNat
    · simp only [hlegal, not_true_eq_false, if_false]
      by_cases hshort : conn.inBuffer.length < frameHeaderSize + n.toNat
      · rw [if_pos hshort, if_pos hshort]
      · have hsize : frameHeaderSize + n.toNat ≤ conn.inBuffer.length := Nat.not_lt.mp hshort
        rw [if_neg hshort, if_neg hshort, checkedRange_eq (Nat.le_add_right _ _) hsize,
          checkedRange_eq (Nat.zero_le _) hsize]
        simp only [Option.bind_some, Option.map_some, List.drop_zero, List.length_take,
          Nat.min_eq_left hsize]
    · simp only [hlegal, not_false_eq_true, if_true]

/-! ### What the parser finds -/

section Outcomes

variable (bs : Bytes) (m : Message) (rest : Bytes)

theorem parseFrame_frame_iff :
    parseFrame bs = .frame m rest ↔ m.WellFormed ∧ bs = encodeFrame m ++ rest := by
  constructor
  · exact encode_of_parseFrame bs m rest
  · rintro ⟨hm, rfl⟩
    exact parseFrame_encode m rest hm

theorem parseFrame_illegal_iff :
    parseFrame bs = .illegal ↔
      frameHeaderSize ≤ bs.length ∧ maxPayloadSize < (declaredLength bs).toNat := by
  by_cases h : bs.length < frameHeaderSize
  · have hno : ¬frameHeaderSize ≤ bs.length := Nat.not_le.mpr h
    simp [parseFrame_short h, hno]
  · obtain ⟨type, b₀, b₁, b₂, b₃, body, rfl⟩ := header_of_long h
    have hlong := Nat.not_lt.mp h
    simp only [parseFrame, parseBody, declaredLength, hlong, true_and]
    generalize ntohl b₀ b₁ b₂ b₃ = n
    by_cases hlegal : protocolPayloadLengthIsLegal n.toNat
    · have hle : ¬maxPayloadSize < n.toNat := Nat.not_lt.mpr hlegal
      rw [if_pos hlegal]
      split_ifs <;> simp [hle]
    · have hlt : maxPayloadSize < n.toNat := Nat.not_le.mp hlegal
      rw [if_neg hlegal]
      simp [hlt]

lemma exists_frame_of_header {type b₀ b₁ b₂ b₃ : Byte} {body : Bytes}
    (hlegal : protocolPayloadLengthIsLegal (ntohl b₀ b₁ b₂ b₃).toNat)
    (hshort : body.length < (ntohl b₀ b₁ b₂ b₃).toNat) :
    ∃ m : Message, m.WellFormed ∧ m.payloadLength = ntohl b₀ b₁ b₂ b₃ ∧
      type :: b₀ :: b₁ :: b₂ :: b₃ :: body <+: encodeFrame m ∧
      type :: b₀ :: b₁ :: b₂ :: b₃ :: body ≠ encodeFrame m := by
  have hbytes := htonl_ntohl b₀ b₁ b₂ b₃
  generalize ntohl b₀ b₁ b₂ b₃ = n at hlegal hshort hbytes
  -- the missing bytes may be any, here they are zero
  have hlen : (body ++ List.replicate (n.toNat - body.length) 0).length = n.toNat := by
    rw [List.length_append, List.length_replicate]
    omega
  obtain ⟨payload, hpayload⟩ :
    ∃ payload, payload = body ++ List.replicate (n.toNat - body.length) 0 := ⟨_, rfl⟩
  rw [← hpayload] at hlen
  have hof : UInt32.ofNat payload.length = n := by rw [hlen, UInt32.ofNat_toNat]
  have hframe : encodeFrame ⟨type, n, payload⟩ = type :: b₀ :: b₁ :: b₂ :: b₃ :: payload := by
    simp only [encodeFrame, hof, hbytes]
    rfl
  refine ⟨⟨type, n, payload⟩, ⟨?_, hof.symm⟩, rfl, ?_, ?_⟩
  · show protocolPayloadLengthIsLegal payload.length
    rw [hlen]
    exact hlegal
  · rw [hframe, hpayload]
    exact ⟨List.replicate (n.toNat - body.length) 0, by simp⟩
  · rw [hframe]
    intro heq
    have hbody : body = payload := by simpa using heq
    rw [hbody, hlen] at hshort
    omega

theorem parseFrame_incomplete_iff :
    parseFrame bs = .incomplete ↔ bs.length < frameHeaderSize ∨
      ∃ m : Message, m.WellFormed ∧ m.payloadLength = declaredLength bs ∧
        bs <+: encodeFrame m ∧ bs ≠ encodeFrame m := by
  constructor
  · intro hp
    by_cases h : bs.length < frameHeaderSize
    · exact Or.inl h
    · right
      obtain ⟨type, b₀, b₁, b₂, b₃, body, rfl⟩ := header_of_long h
      simp only [parseFrame, parseBody] at hp
      split_ifs at hp with hlegal hshort
      exact exists_frame_of_header hlegal hshort
  · rintro (h | ⟨m, hm, -, ⟨tail, htail⟩, hne⟩)
    · exact parseFrame_short h
    · -- with the tail the buffer would be a frame, so it is neither one nor illegal
      have hwhole : parseFrame (bs ++ tail) = .frame m [] := by
        rw [htail, ← List.append_nil (encodeFrame m)]
        exact parseFrame_encode m [] hm
      cases hp : parseFrame bs with
      | incomplete => rfl
      | illegal =>
        rw [parseFrame_illegal_append bs tail hp] at hwhole
        cases hwhole
      | frame m' rest =>
        have hmore := frameCodec.frame_append tail hp
        rw [show frameCodec.parse = parseFrame from rfl, hwhole] at hmore
        injection hmore with hmm hrest
        obtain ⟨hrest', -⟩ := List.append_eq_nil_iff.mp hrest.symm
        have hbs := (encode_of_parseFrame bs m' rest hp).2
        rw [hrest', List.append_nil, ← hmm] at hbs
        exact absurd hbs hne

end Outcomes

/-! ### The grammar -/

/-- The bytes that `protocol_queue_message` appends for a message that it accepts. -/
def Appends (m : Message) (frame : Bytes) : Prop :=
  ∀ conn : Connection, (protocolQueueMessage conn m).1 = true ∧
    (protocolQueueMessage conn m).2.outBuffer = conn.outBuffer ++ frame

/-- The frame of a message whose length field is its legal payload size. -/
structure FrameOf (m : Message) (frame : Bytes) : Prop where
  length : m.payloadLength.toNat = m.payload.length
  legal : m.payload.length ≤ maxPayloadSize
  appends : Appends m frame

lemma frameOf_iff {m : Message} {frame : Bytes} :
    FrameOf m frame ↔ m.WellFormed ∧ frame = encodeFrame m := by
  constructor
  · rintro ⟨hlength, hlegal, happ⟩
    refine ⟨⟨hlegal, ?_⟩, ?_⟩
    · rw [← hlength, UInt32.ofNat_toNat]
    · have h := (happ ⟨0, .active, [], [], 0, [], 0, 0, [], [], [], [], []⟩).2
      rw [protocolQueueMessage_eq, if_pos (show protocolPayloadLengthIsLegal _ from hlegal)] at h
      exact h.symm
  · rintro ⟨hm, rfl⟩
    refine ⟨hm.length, hm.1, ?_⟩
    intro conn
    rw [protocolQueueMessage_eq, if_pos hm.1]
    exact ⟨rfl, rfl⟩

/-- All that `protocol_parse_message` does to a connection. -/
structure Connection.Grammar (conn : Connection) : Prop where
  accepts : ∀ m rest, (protocolParseMessage conn).1 = some m ∧
      (protocolParseMessage conn).2.inBuffer = rest ↔
    ∃ frame, FrameOf m frame ∧ conn.inBuffer = frame ++ rest
  accepted : ∀ m, (protocolParseMessage conn).1 = some m →
    (protocolParseMessage conn).2.state = conn.state
  rejects : protocolParseMessage conn =
      (none, conn.reject (.oversizedPayload (declaredLength conn.inBuffer))) ↔
    frameHeaderSize ≤ conn.inBuffer.length ∧ maxPayloadSize < (declaredLength conn.inBuffer).toNat
  marked : (protocolParseMessage conn).2.state = .connectionError ↔
    conn.state = .connectionError ∨ frameHeaderSize ≤ conn.inBuffer.length ∧
      maxPayloadSize < (declaredLength conn.inBuffer).toNat
  waits : protocolParseMessage conn = (none, conn) ↔
    conn.inBuffer.length < frameHeaderSize ∨ ∃ m frame, FrameOf m frame ∧
      m.payloadLength = declaredLength conn.inBuffer ∧ conn.inBuffer <+: frame ∧
      conn.inBuffer ≠ frame
  complete : (∃ m, (protocolParseMessage conn).1 = some m) ∨
    protocolParseMessage conn =
      (none, conn.reject (.oversizedPayload (declaredLength conn.inBuffer))) ∨
    protocolParseMessage conn = (none, conn)
  kept : (protocolParseMessage conn).1 = none →
    (protocolParseMessage conn).2.inBuffer = conn.inBuffer
  untouched : (protocolParseMessage conn).2.name = conn.name ∧
    (protocolParseMessage conn).2.outBuffer = conn.outBuffer ∧
    (protocolParseMessage conn).2.bytesWritten = conn.bytesWritten ∧
    (protocolParseMessage conn).2.fd = conn.fd
  inBounds : protocolParseMessageChecked conn = some (protocolParseMessage conn)

lemma reject_ne (conn : Connection) (x : Complaint) : conn.reject x ≠ conn := by
  intro h
  have hlen := congrArg (fun c => c.complaints.length) h
  simp [Connection.reject] at hlen

section Verdicts

variable (conn : Connection)

lemma parser_accepts_iff (m : Message) (rest : Bytes) :
    (protocolParseMessage conn).1 = some m ∧ (protocolParseMessage conn).2.inBuffer = rest ↔
      parseFrame conn.inBuffer = .frame m rest := by
  rw [protocolParseMessage_eq]
  cases parseFrame conn.inBuffer <;> simp

lemma parser_rejects_iff :
    protocolParseMessage conn =
        (none, conn.reject (.oversizedPayload (declaredLength conn.inBuffer))) ↔
      parseFrame conn.inBuffer = .illegal := by
  rw [protocolParseMessage_eq]
  cases parseFrame conn.inBuffer with
  | incomplete => simp [(reject_ne conn _).symm]
  | illegal => simp
  | frame m rest => simp

lemma parser_waits_iff :
    protocolParseMessage conn = (none, conn) ↔ parseFrame conn.inBuffer = .incomplete := by
  rw [protocolParseMessage_eq]
  cases parseFrame conn.inBuffer with
  | incomplete => simp
  | illegal => simp [reject_ne conn _]
  | frame m rest => simp

lemma parser_marks_iff :
    (protocolParseMessage conn).2.state = .connectionError ↔
      conn.state = .connectionError ∨ parseFrame conn.inBuffer = .illegal := by
  rw [protocolParseMessage_eq]
  cases parseFrame conn.inBuffer with
  | incomplete => simp
  | illegal => exact iff_of_true rfl (Or.inr rfl)
  | frame m rest => simp

end Verdicts

/-- The parser accepts, rejects or waits, and the bytes in the buffer say which. -/
theorem parser_has_grammar (conn : Connection) : conn.Grammar where
  accepts := by
    intro m rest
    rw [parser_accepts_iff, parseFrame_frame_iff]
    simp only [frameOf_iff, and_assoc, exists_and_left, exists_eq_left]
  accepted := by
    intro m hm
    have hframe := (parser_accepts_iff conn m _).mp ⟨hm, rfl⟩
    rw [protocolParseMessage_eq, hframe]
  rejects := (parser_rejects_iff conn).trans (parseFrame_illegal_iff conn.inBuffer)
  marked := by rw [parser_marks_iff, parseFrame_illegal_iff]
  waits := by
    rw [parser_waits_iff, parseFrame_incomplete_iff]
    simp only [frameOf_iff, and_assoc, exists_and_left, exists_eq_left]
  complete := by
    cases hp : parseFrame conn.inBuffer with
    | frame m rest => exact Or.inl ⟨m, ((parser_accepts_iff conn m rest).mpr hp).1⟩
    | illegal => exact Or.inr (Or.inl ((parser_rejects_iff conn).mpr hp))
    | incomplete => exact Or.inr (Or.inr ((parser_waits_iff conn).mpr hp))
  kept := by
    rw [protocolParseMessage_eq]
    cases parseFrame conn.inBuffer with
    | incomplete => exact fun _ => rfl
    | illegal => exact fun _ => rfl
    | frame m rest =>
      intro hnone
      cases hnone
  untouched := by
    rw [protocolParseMessage_eq]
    cases parseFrame conn.inBuffer <;> exact ⟨rfl, rfl, rfl, rfl⟩
  inBounds := protocolParseMessageChecked_eq conn

end Chatroom
