import Chatroom.Proofs.Evolution

/-!
# The phases of a connection

In which phase a connection of the server is decides what it has said and what it was
told. A phase relates the state to the messages parsed and queued since `accept`, and
is kept by every elementary step.
-/

namespace Chatroom

/-- What is queued to a connection after its greeting. -/
def FromRoom (m : Message) : Prop :=
  m.type = .broadcast ∨ m = Message.of .closeCon []

/-- The phases between `accept` and release. A connection is `closed` only while the
handler that saw the end of its stream still runs. -/
inductive Handshake (host : Bytes) (c : Connection) : Prop
  | waiting (hst : c.state = .waitingForClientHello) (hname : c.name = [])
      (hout : c.outBuffer = []) (hparsed : c.parsed = []) (hqueued : c.queued = [])
      (hin : parseFrame c.inBuffer = .incomplete)
  | greeting (hello : Message) (hst : c.state = .sendingServerHello)
      (hparsed : c.parsed = [hello]) (htype : hello.type = .clientHello)
      (hname : c.name = hello.payload) (hne : c.name ≠ [])
      (hqueued : c.queued = [serverGreeting host])
      (hout : c.outBuffer = encodeFrame (serverGreeting host))
  | joined (hello : Message) (chats heard : List Message)
      (hst : c.state = .active ∨ c.state = .closed)
      (hparsed : c.parsed = hello :: chats) (htype : hello.type = .clientHello)
      (hname : c.name = hello.payload) (hne : c.name ≠ [])
      (hchats : ∀ m ∈ chats, m.type = .chat)
      (hqueued : c.queued = serverGreeting host :: heard)
      (hheard : ∀ m ∈ heard, FromRoom m)
      (hsent : encodeFrame (serverGreeting host) <+: c.sent)

/-- A connection that the server still serves. -/
structure Connection.Served (host : Bytes) (c : Connection) : Prop where
  stream : c.Stream
  complaints : c.complaints = []
  phase : Handshake host c

namespace Handshake

variable {host : Bytes} {c : Connection}

lemma of_waiting (h : Handshake host c) (hst : c.state = .waitingForClientHello) :
    c.name = [] ∧ c.outBuffer = [] ∧ c.parsed = [] ∧ c.queued = [] ∧
      parseFrame c.inBuffer = .incomplete := by
  cases h with
  | waiting _ hname hout hparsed hqueued hin => exact ⟨hname, hout, hparsed, hqueued, hin⟩
  | greeting hello hst' => simp [hst] at hst'
  | joined hello chats heard hst' => simp [hst] at hst'

lemma of_greeting (h : Handshake host c) (hst : c.state = .sendingServerHello) :
    ∃ hello, c.parsed = [hello] ∧ hello.type = .clientHello ∧ c.name = hello.payload ∧
      c.name ≠ [] ∧ c.queued = [serverGreeting host] ∧
      c.outBuffer = encodeFrame (serverGreeting host) := by
  cases h with
  | waiting hst' => simp [hst] at hst'
  | greeting hello _ hparsed htype hname hne hqueued hout =>
    exact ⟨hello, hparsed, htype, hname, hne, hqueued, hout⟩
  | joined hello chats heard hst' => simp [hst] at hst'

lemma of_joined (h : Handshake host c) (hst : c.state = .active ∨ c.state = .closed) :
    ∃ hello chats heard, c.parsed = hello :: chats ∧ hello.type = .clientHello ∧
      c.name = hello.payload ∧ c.name ≠ [] ∧ (∀ m ∈ chats, m.type = .chat) ∧
      c.queued = serverGreeting host :: heard ∧
      (∀ m ∈ heard, FromRoom m) ∧
      encodeFrame (serverGreeting host) <+: c.sent := by
  cases h with
  | waiting hst' => simp [hst'] at hst
  | greeting hello hst' => simp [hst'] at hst
  | joined hello chats heard _ hparsed htype hname hne hchats hqueued hheard hsent =>
    exact ⟨hello, chats, heard, hparsed, htype, hname, hne, hchats, hqueued, hheard, hsent⟩

end Handshake

section Steps

variable {host : Bytes} {c c' : Connection}

lemma newConnection_served (fd : Fd) (addr serial : ℕ) :
    (newConnection fd addr serial).Served host where
  stream := Connection.Stream.fresh rfl rfl rfl rfl rfl rfl rfl
  complaints := rfl
  phase := Handshake.waiting rfl rfl rfl rfl rfl rfl

lemma Move.served {ev : Option EventMask} (h : c.Served host) (hm : Move host c ev c') :
    c'.Served host := by
  cases hm with
  | listen data hc hp =>
    obtain ⟨hname, hout, hparsed, hqueued, -⟩ := h.phase.of_waiting hc
    exact ⟨h.stream.absorb data, h.complaints,
      Handshake.waiting hc hname hout hparsed hqueued hp⟩
  | introduce data m rest hc hp htype hname hhost =>
    obtain ⟨-, hout, hparsed, hqueued, -⟩ := h.phase.of_waiting hc
    have hstream := ((h.stream.absorb data).cut hp).enqueue (m := serverGreeting host) hhost
    refine ⟨hstream.congr rfl rfl rfl rfl rfl rfl rfl,
      h.complaints, Handshake.greeting m rfl ?_ htype rfl hname ?_ ?_⟩
    · show c.parsed ++ [m] = [m]
      rw [hparsed]
      rfl
    · show c.queued ++ [serverGreeting host] = [serverGreeting host]
      rw [hqueued]
      rfl
    · show c.outBuffer ++ encodeFrame (serverGreeting host) = encodeFrame (serverGreeting host)
      rw [hout]
      rfl
  | send n hc hn =>
    refine ⟨h.stream.advance hn, h.complaints, ?_⟩
    rcases hc with hc | hc
    · obtain ⟨hello, hparsed, htype, hname, hne, hqueued, hout⟩ := h.phase.of_greeting hc
      exact Handshake.greeting hello hc hparsed htype hname hne hqueued hout
    · obtain ⟨hello, chats, heard, hparsed, htype, hname, hne, hchats, hqueued, hheard, hsent⟩ :=
        h.phase.of_joined (Or.inl hc)
      exact Handshake.joined hello chats heard (Or.inl hc) hparsed htype hname hne hchats hqueued
        hheard (hsent.trans (List.prefix_append _ _))
  | drain hc hout =>
    obtain ⟨hello, chats, heard, hparsed, htype, hname, hne, hchats, hqueued, hheard, hsent⟩ :=
      h.phase.of_joined (Or.inl hc)
    exact ⟨h.stream.drained, h.complaints, Handshake.joined hello chats heard (Or.inl hc) hparsed
      htype hname hne hchats hqueued hheard (hsent.trans (List.prefix_append _ _))⟩
  | ingest data st hc hst =>
    obtain ⟨hello, chats, heard, hparsed, htype, hname, hne, hchats, hqueued, hheard, hsent⟩ :=
      h.phase.of_joined (Or.inl hc)
    have hstream := h.stream.absorb data
    exact ⟨hstream.congr rfl rfl rfl rfl rfl rfl rfl,
      h.complaints, Handshake.joined hello chats heard hst hparsed htype hname hne hchats hqueued
        hheard hsent⟩

lemma Talk.served {e : RoomEntry} {sender : Option ℕ} (h : c.Served host)
    (ht : Talk c c' e sender) : c'.Served host := by
  cases ht with
  | chat m rest hc hp htype =>
    obtain ⟨hello, chats, heard, hparsed, hhello, hname, hne, hchats, hqueued, hheard, hsent⟩ :=
      h.phase.of_joined hc
    refine ⟨h.stream.cut hp, h.complaints, Handshake.joined hello (chats ++ [m]) heard hc ?_ hhello
      hname hne ?_ hqueued hheard hsent⟩
    · show c.parsed ++ [m] = hello :: (chats ++ [m])
      rw [hparsed]
      rfl
    · exact List.forall_mem_append.mpr ⟨hchats, List.forall_mem_singleton.mpr htype⟩
  | join hc =>
    obtain ⟨hello, hparsed, htype, hname, hne, hqueued, -⟩ := h.phase.of_greeting hc
    have hstream := h.stream.drained
    refine ⟨hstream.congr rfl rfl rfl rfl rfl rfl rfl,
      h.complaints, Handshake.joined hello [] [] (Or.inl rfl) hparsed htype hname hne (by simp)
        hqueued (by simp) ?_⟩
    show encodeFrame (serverGreeting host) <+: c.sent ++ c.unsent
    rw [h.stream.sent, hqueued]
    exact List.prefix_append (encodeFrame (serverGreeting host)) []

lemma Connection.Served.enqueue (h : c.Served host) (hst : c.state = .active) {m : Message}
    (hm : FromRoom m) (hlegal : protocolPayloadLengthIsLegal m.payload.length) :
    (c.enqueue m).Served host := by
  obtain ⟨hello, chats, heard, hparsed, htype, hname, hne, hchats, hqueued, hheard, hsent⟩ :=
    h.phase.of_joined (Or.inl hst)
  refine ⟨h.stream.enqueue hlegal, h.complaints, Handshake.joined hello chats (heard ++ [m])
    (Or.inl hst) hparsed htype hname hne hchats ?_ ?_ hsent⟩
  · show c.queued ++ [m] = serverGreeting host :: (heard ++ [m])
    rw [hqueued]
    rfl
  · exact List.forall_mem_append.mpr ⟨hheard, List.forall_mem_singleton.mpr hm⟩

lemma Hear.served (h : c.Served host) (hh : Hear c c') : c'.Served host := by
  cases hh with
  | line e hst hlegal => exact h.enqueue hst (Or.inl rfl) hlegal
  | dismiss hst => exact h.enqueue hst (Or.inr rfl) (Nat.zero_le _)

theorem Evolve.served (h : c.Served host) (he : Evolve host c c') : c'.Served host := by
  cases he with
  | move hm => exact hm.served h
  | talk ht => exact ht.served h
  | hear hh => exact hh.served h

end Steps

/-! ### Records -/

/-- What the record of a connection shows when a check has rejected a frame of it. -/
def Complaint.Justified (c : Connection) : Complaint → Prop
  | .oversizedPayload _ => parseFrame c.inBuffer = .illegal
  | .payloadTooLarge _ => True
  | .expectedClientHello _ => ∃ m, c.parsed = [m] ∧ m.type ≠ .clientHello
  | .emptyName => ∃ m, c.parsed = [m] ∧ m.payload = []
  | .expectedEmptyCloseCon =>
    ∃ hello chats m, c.parsed = hello :: chats ++ [m] ∧ m.type = .closeCon ∧ m.payload ≠ []
  | .expectedChat _ =>
    ∃ hello chats m, c.parsed = hello :: chats ++ [m] ∧ m.type ≠ .closeCon ∧ m.type ≠ .chat
  | .expectedServerHello _ => ∃ m, c.parsed = [m] ∧ m.type ≠ .serverHello
  | .expectedBroadcast _ =>
    ∃ hello heard m, c.parsed = hello :: heard ++ [m] ∧ m.type ≠ .closeCon ∧ m.type ≠ .broadcast
  | .unexpectedMessage => True

/-- A list of messages that is empty or begins with `first` and goes on with messages that
satisfy `next`. -/
def Begins (first : Message) (next : Message → Prop) (ms : List Message) : Prop :=
  ms = [] ∨ ∃ rest, ms = first :: rest ∧ ∀ m ∈ rest, next m

/-- What can be read off the record of a connection, whatever became of it. -/
structure Connection.Record (first : Message) (next : Message → Prop) (c : Connection) : Prop where
  stream : c.Stream
  complaints : ∀ x ∈ c.complaints, x.Justified c
  told : Begins first next c.queued

/-- The record of a connection of the server. -/
abbrev Connection.Recorded (host : Bytes) (c : Connection) : Prop :=
  c.Record (serverGreeting host) FromRoom

section Records

variable {host : Bytes} {c c' : Connection}

lemma Handshake.told (h : Handshake host c) : Begins (serverGreeting host) FromRoom c.queued := by
  cases h with
  | waiting _ _ _ _ hqueued _ => exact Or.inl hqueued
  | greeting hello _ _ _ _ _ hqueued _ => exact Or.inr ⟨[], hqueued, by simp⟩
  | joined hello chats heard _ _ _ _ _ _ hqueued hheard _ => exact Or.inr ⟨heard, hqueued, hheard⟩

lemma Connection.Served.recorded (h : c.Served host) : c.Recorded host where
  stream := h.stream
  complaints := by simp [h.complaints]
  told := h.phase.told

lemma Connection.Record.of_fields {first : Message} {next : Message → Prop}
    (h : c.Record first next) (hin : c'.inBuffer = c.inBuffer)
    (hout : c'.outBuffer = c.outBuffer) (hwritten : c'.bytesWritten = c.bytesWritten)
    (hrecv : c'.received = c.received) (hsent : c'.sent = c.sent) (hqueued : c'.queued = c.queued)
    (hparsed : c'.parsed = c.parsed) (hcomplaints : ∀ x ∈ c'.complaints, x.Justified c') :
    c'.Record first next where
  stream := h.stream.congr hin hout hwritten hrecv hsent hqueued hparsed
  complaints := hcomplaints
  told := by rw [hqueued]; exact h.told

lemma Connection.Served.absorbed (h : c.Served host) (data : Bytes) :
    (c.absorb data).Recorded host where
  stream := h.stream.absorb data
  complaints := by
    show ∀ x ∈ c.complaints, _
    simp [h.complaints]
  told := h.phase.told

lemma Connection.Served.absorbed_cut (h : c.Served host) (data : Bytes) {m : Message}
    {rest : Bytes} (hp : parseFrame (c.inBuffer ++ data) = .frame m rest) :
    ((c.absorb data).cut m rest).Recorded host where
  stream := (h.stream.absorb data).cut hp
  complaints := by
    show ∀ x ∈ c.complaints, _
    simp [h.complaints]
  told := h.phase.told

lemma Connection.Served.was_cut (h : c.Served host) {m : Message} {rest : Bytes}
    (hp : parseFrame c.inBuffer = .frame m rest) : (c.cut m rest).Recorded host where
  stream := h.stream.cut hp
  complaints := by
    show ∀ x ∈ c.complaints, _
    simp [h.complaints]
  told := h.phase.told

lemma Connection.Record.rejected {first : Message} {next : Message → Prop}
    (h : c.Record first next) (hnone : c.complaints = []) {x : Complaint} (hx : x.Justified c) :
    (c.reject x).Record first next := by
  refine h.of_fields rfl rfl rfl rfl rfl rfl rfl ?_
  intro y hy
  have hy : y ∈ c.complaints ++ [x] := hy
  rw [hnone, List.nil_append, List.mem_singleton] at hy
  rw [hy]
  cases x <;> exact hx

theorem Released.recorded (h : c.Served host) (hr : Released c c') : c'.Recorded host := by
  rcases hr with hleave | hdrop
  · cases hleave with
    | hangup hst hp => exact h.recorded
    | bye m rest hst hp htype hempty => exact h.was_cut hp
  · cases hdrop with
    | failed data hst =>
      exact (h.absorbed data).of_fields rfl rfl rfl rfl rfl rfl rfl (h.absorbed data).complaints
    | hangup data hst hp =>
      exact (h.absorbed data).of_fields rfl rfl rfl rfl rfl rfl rfl (h.absorbed data).complaints
    | oversizedHello data hst hp => exact (h.absorbed data).rejected h.complaints hp
    | notHello data m rest hst hp htype =>
      have hparsed := (h.phase.of_waiting hst).2.2.1
      refine (h.absorbed_cut data hp).rejected h.complaints ⟨m, ?_, htype⟩
      show c.parsed ++ [m] = [m]
      rw [hparsed]
      rfl
    | emptyName data m rest hst hp hname =>
      have hparsed := (h.phase.of_waiting hst).2.2.1
      refine (h.absorbed_cut data hp).rejected h.complaints ⟨m, ?_, hname⟩
      show c.parsed ++ [m] = [m]
      rw [hparsed]
      rfl
    | oversized hst hp => exact h.recorded.rejected h.complaints hp
    | closePayload m rest hst hp htype hpayload =>
      obtain ⟨hello, chats, -, hparsed, -⟩ := h.phase.of_joined hst
      refine (h.was_cut hp).rejected h.complaints ⟨hello, chats, m, ?_, htype, hpayload⟩
      show c.parsed ++ [m] = hello :: chats ++ [m]
      rw [hparsed]
    | notChat m rest hst hp htype hchat =>
      obtain ⟨hello, chats, -, hparsed, -⟩ := h.phase.of_joined hst
      refine (h.was_cut hp).rejected h.complaints ⟨hello, chats, m, ?_, htype, hchat⟩
      show c.parsed ++ [m] = hello :: chats ++ [m]
      rw [hparsed]

end Records

/-! ### The server -/

/-- The registry and all its connections are in order, and the records of the released
ones can be trusted. -/
structure Server.Sound (s : Server) : Prop where
  registry : s.Registry
  served : ∀ c ∈ s.connections, c.Served s.name
  recorded : ∀ d ∈ s.departed, d.conn.Recorded s.name

theorem Effect.sound {who : Option ℕ} {s t : Server} (hs : s.Sound) (h : Effect who s t) :
    t.Sound := by
  refine ⟨h.registry hs.registry, ?_, ?_⟩
  · intro d hdm
    rw [h.frame.1]
    rcases h.origin hs.registry.distinct hdm with ⟨fd, addr, -, rfl, -⟩ | ⟨c, hc, hl, -⟩
    · exact newConnection_served fd addr s.accepted
    · exact hl.preserves (fun _ _ => Evolve.served) (hs.served c hc)
  · intro d hdm
    rw [h.frame.1]
    rcases h.mem_departed hs.registry.distinct hdm with hdm | ⟨c, hc, hlast, -⟩
    · exact hs.recorded d hdm
    · exact hlast.recorded (hs.served c hc)

theorem Effects.sound {who : Option ℕ} {s t : Server} (hs : s.Sound) (h : Effects who s t) :
    t.Sound :=
  h.preserves (fun _ _ hs h => Effect.sound hs h) hs

end Chatroom
