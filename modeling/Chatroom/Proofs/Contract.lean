import Chatroom.Proofs.ClientHandlers

/-!
# What a run of the client amounts to

Whatever happens to a client, it queues its introduction, then a chat for each line that was
typed into it while it was in the room, and a CLOSE_CON at the end. As long as its loop goes
on, bytes that are queued can be sent, and it shuts its socket down only when all of them
have been.
-/

namespace Chatroom
open Transition

/-! ### The script of a client -/

/-- The frames that a client called `name` queues for these chats, and when it quits. -/
def clientScript (name : Bytes) (chats : List Bytes) (quitting : Bool) : List Message :=
  clientGreeting name :: (chats.map (Message.of .chat) ++
    if quitting then [Message.of .closeCon []] else [])

/-- The event gets the handler of standard input. -/
def Client.readsStdin (client : Client) (e : EpollEvent) : Prop :=
  client.clientQuitting = false ∧ client.eventIsCheckConnectionSuccess e.fd e.events = false ∧
    client.eventIsSendNetworkMessage e.fd e.events = false ∧
    client.eventIsReadNetworkMessage e.fd e.events = false ∧
    client.eventIsReadStdin e.fd e.events = true

instance (client : Client) (e : EpollEvent) : Decidable (client.readsStdin e) :=
  inferInstanceAs (Decidable (_ ∧ _ ∧ _ ∧ _ ∧ _))

/-- The line that `std::getline` returns in a step, with the state in which it finds the
connection. -/
def ClientLoop.lineRead (l : ClientLoop) : ClientInput → Option (ConnectionState × Bytes)
  | .replies r =>
    match l.phase with
    | .handling (e :: _) =>
      if l.client.readsStdin e then r.line.map (fun line => (l.client.conn.state, line)) else none
    | _ => none
  | _ => none

/-- The lines that are read in a run. -/
def linesRead (l : ClientLoop) : List ClientInput → List (ConnectionState × Bytes)
  | [] => []
  | i :: is =>
    (l.lineRead i).toList ++
      match clientLoopStep l i with
      | some l' => linesRead l' is
      | none => []

/-- A line that a client in the room sends. -/
def Sendable (p : ConnectionState × Bytes) : Prop :=
  p.1 = .active ∧ p.2 ≠ [] ∧ p.2 ≠ ascii "/quit" ∧ p.2.length ≤ 65536

instance : DecidablePred Sendable := fun _ => inferInstanceAs (Decidable (_ ∧ _ ∧ _ ∧ _))

/-- The chats among the lines that were read. -/
def chatsOf (lines : List (ConnectionState × Bytes)) : List Bytes :=
  (lines.filter (fun p => Sendable p)).map Prod.snd

lemma chatsOf_append (lines lines' : List (ConnectionState × Bytes)) :
    chatsOf (lines ++ lines') = chatsOf lines ++ chatsOf lines' := by
  rw [chatsOf, List.filter_append, List.map_append]
  rfl

lemma clientScript_chat (name : Bytes) (chats : List Bytes) (line : Bytes) :
    clientScript name chats false ++ [Message.of .chat line] =
      clientScript name (chats ++ [line]) false := by
  simp [clientScript]

lemma clientScript_quit (name : Bytes) (chats : List Bytes) :
    clientScript name chats false ++ [Message.of .closeCon []] =
      clientScript name chats true := by
  simp [clientScript]

/-! ### The account of a client -/

/-- A SERVER_HELLO has been parsed. -/
def Connection.Greeted (c : Connection) : Prop :=
  ∃ m ∈ c.parsed, m.type = .serverHello

/-- What a client has queued, parsed and shut down, in any state. -/
structure Client.Spoken (name : Bytes) (chats : List Bytes) (client : Client) : Prop where
  queued : client.conn.queued = [] ∧ chats = [] ∧ client.clientQuitting = false ∨
    client.conn.queued = clientScript name chats client.clientQuitting
  greeted : chats ≠ [] → client.conn.Greeted
  shut : ∀ fd, .shutdown fd ∈ client.kernel.calls →
    client.clientQuitting = true ∧ client.conn.sent = frameCodec.encodeAll client.conn.queued

/-- What is pending will be written: EPOLLOUT is registered and its event gets the write
handler. -/
def Client.Writable (client : Client) : Prop :=
  client.conn.outBuffer ≠ [] →
    (∃ events, client.kernel.mask client.conn.fd = some events ∧ events.has epollOut) ∧
      client.eventIsSendNetworkMessage client.conn.fd epollOut = true

/-- A client whose loop goes on. -/
structure Client.Working (client : Client) : Prop where
  greeted : client.conn.state = .active → client.conn.Greeted
  writable : client.Writable
  unshut : ∀ fd, .shutdown fd ∉ client.kernel.calls

/-- What a handler of the client does for its contract. -/
def Client.Honours (name : Bytes) (chats : List Bytes) (r : Bool × Client) : Prop :=
  r.2.Spoken name chats ∧ (r.1 = true → r.2.Working)

section Handlers

variable {name : Bytes} {chats : List Bytes} {client client' : Client}

lemma Client.acceptsSend_iff (client : Client) :
    client.eventIsSendNetworkMessage client.conn.fd epollOut = true ↔
      (client.clientQuitting = true ∨ client.conn.state = .sendingClientHello ∨
        client.conn.state = .active) ∧ client.conn.outBuffer ≠ [] := by
  have hflag : epollOut.has epollOut := by decide
  unfold Client.eventIsSendNetworkMessage
  simp [hflag]

lemma Client.Spoken.congr (h : client.Spoken name chats)
    (hqueued : client'.conn.queued = client.conn.queued)
    (hquit : client'.clientQuitting = client.clientQuitting)
    (hparsed : client.conn.parsed <+: client'.conn.parsed)
    (hunshut : ∀ fd, .shutdown fd ∉ client'.kernel.calls) : client'.Spoken name chats where
  queued := by
    rw [hqueued, hquit]
    exact h.queued
  greeted := by
    intro hne
    obtain ⟨m, hm, htype⟩ := h.greeted hne
    exact ⟨m, hparsed.subset hm, htype⟩
  shut := fun fd hfd => absurd hfd (hunshut fd)

lemma fdMod_honours (h : client.Spoken name chats) {events : EventMask}
    (hgreeted : client.conn.state = .active → client.conn.Greeted)
    (hunshut : ∀ fd, .shutdown fd ∉ client.kernel.calls)
    (hpending : client.conn.outBuffer ≠ [] → events.has epollOut ∧
      client.eventIsSendNetworkMessage client.conn.fd epollOut = true) :
    Client.Honours name chats (client.fdMod events) := by
  have hcalls := epollUpdate_calls client.kernel epollCtlMod client.conn.fd events
  have hunshut' : ∀ fd, .shutdown fd ∉ (client.fdMod events).2.kernel.calls := by
    intro fd hfd
    have hfd : .shutdown fd ∈
        (epollUpdate client.kernel epollCtlMod client.conn.fd events).2.calls :=
      hfd
    rw [hcalls] at hfd
    rcases List.mem_append.mp hfd with hfd | hfd
    · exact hunshut fd hfd
    · cases List.mem_singleton.mp hfd
  refine ⟨h.congr rfl rfl (List.prefix_refl _) hunshut', ?_⟩
  intro hok
  refine ⟨hgreeted, ?_, hunshut'⟩
  intro hout
  obtain ⟨hhas, haccepts⟩ := hpending hout
  refine ⟨⟨events, ?_, hhas⟩, haccepts⟩
  have hmod : epollFdMod client.kernel client.conn.fd events =
      (true, (epollFdMod client.kernel client.conn.fd events).2) := Prod.ext hok rfl
  have hmask := epollFdMod_true hmod client.conn.fd
  rw [if_pos rfl] at hmask
  exact hmask

/-! ### Reading -/

/-- What the read loop of a client leaves alone. -/
structure ReadLoopKeeps (client client' : Client) : Prop where
  kernel : client'.kernel = client.kernel
  quitting : client'.clientQuitting = client.clientQuitting
  fd : client'.conn.fd = client.conn.fd
  queued : client'.conn.queued = client.conn.queued
  outBuffer : client'.conn.outBuffer = client.conn.outBuffer
  parsed : client.conn.parsed <+: client'.conn.parsed

lemma ReadLoopKeeps.trans {client'' : Client} (h : ReadLoopKeeps client client')
    (h' : ReadLoopKeeps client' client'') : ReadLoopKeeps client client'' :=
  ⟨h'.kernel.trans h.kernel, h'.quitting.trans h.quitting, h'.fd.trans h.fd,
    h'.queued.trans h.queued, h'.outBuffer.trans h.outBuffer, h.parsed.trans h'.parsed⟩

lemma ReadLoopKeeps.cut (client : Client) (m : Message) (rest : Bytes) :
    ReadLoopKeeps client (client.withConn (client.conn.cut m rest)) :=
  ⟨rfl, rfl, rfl, rfl, rfl, List.prefix_append _ _⟩

theorem clientReadMessages_readLoopKeeps (hst : client.conn.state ≠ .connectionError) :
    ReadLoopKeeps client client.readMessages.2 ∧
      (client.readMessages.1 = true → client.conn.state ≠ .closed ∧
        (client.conn.state = .active → client.readMessages.2.conn.state = .active) ∧
        (client.readMessages.2.conn.state = .active →
          client.conn.state = .active ∨ client.readMessages.2.conn.Greeted)) := by
  induction hn : client.conn.inBuffer.length using Nat.strong_induction_on generalizing client with
  | h n ih =>
    cases hp : parseFrame client.conn.inBuffer with
    | incomplete =>
      rw [Client.readMessages_incomplete hp hst]
      exact ⟨⟨rfl, rfl, rfl, rfl, rfl, List.prefix_refl _⟩,
        fun hok => ⟨of_decide_eq_true hok, id, Or.inl⟩⟩
    | illegal =>
      rw [Client.readMessages_illegal hp]
      exact ⟨⟨rfl, rfl, rfl, rfl, rfl, List.prefix_refl _⟩,
        fun hok => absurd hok Bool.false_ne_true⟩
    | frame m rest =>
      have hcut := ReadLoopKeeps.cut client m rest
      have hlt : rest.length < n := by
        rw [← hn]
        exact frameCodec.rest_length_lt hp
      have hstops : ∀ {client' : Client},
          ReadLoopKeeps (client.withConn (client.conn.cut m rest)) client' →
          ReadLoopKeeps client client' ∧ (false = true → client.conn.state ≠ .closed ∧
            (client.conn.state = .active → client'.conn.state = .active) ∧
            (client'.conn.state = .active → client.conn.state = .active ∨
              client'.conn.Greeted)) :=
        fun h => ⟨hcut.trans h, fun hok => absurd hok Bool.false_ne_true⟩
      rw [Client.readMessages_frame hp hst]
      have hreaction := handleNetworkMessage_reaction (client.withConn (client.conn.cut m rest)) m
      rcases hr : (client.withConn (client.conn.cut m rest)).handleNetworkMessage m
        with ⟨ok, client'⟩
      rw [hr] at hreaction
      cases hreaction with
      | greet hwait htype =>
        let entered : Client := { client with
          conn := { client.conn.cut m rest with name := m.payload, state := .active }
          stdout := client.stdout ++ [ascii "Connected to server.\nName: " ++ m.payload,
            ascii "[client] connected to server. Start chatting."] }
        have hentered : entered.conn.state ≠ .connectionError :=
          show ConnectionState.active ≠ .connectionError by decide
        obtain ⟨hover, hstate⟩ := ih rest.length hlt hentered rfl
        refine ⟨⟨hover.kernel, hover.quitting, hover.fd, hover.queued, hover.outBuffer,
          hcut.parsed.trans hover.parsed⟩, ?_⟩
        intro hok
        have hwait : client.conn.state = .waitingForServerHello := hwait
        refine ⟨by simp [hwait], fun _ => (hstate hok).2.1 rfl, fun _ => Or.inr ?_⟩
        have hmem : m ∈ client.conn.parsed ++ [m] := List.mem_append_right _ List.mem_cons_self
        exact ⟨m, hover.parsed.subset hmem, htype⟩
      | line hact htype =>
        have hact : client.conn.state = .active := hact
        let shown : Client := { client with
          conn := client.conn.cut m rest
          stdout := client.stdout ++ [m.payload] }
        have hshown : shown.conn.state ≠ .connectionError := hst
        obtain ⟨hover, hstate⟩ := ih rest.length hlt hshown rfl
        exact ⟨⟨hover.kernel, hover.quitting, hover.fd, hover.queued, hover.outBuffer,
          hcut.parsed.trans hover.parsed⟩,
          fun hok => ⟨by simp [hact], (hstate hok).2.1, fun _ => Or.inl hact⟩⟩
      | dismissed hact htype hempty =>
        exact hstops ⟨rfl, rfl, rfl, rfl, rfl, List.prefix_refl _⟩
      | notHello hwait htype => exact hstops ⟨rfl, rfl, rfl, rfl, rfl, List.prefix_refl _⟩
      | closePayload hact htype hpayload =>
        exact hstops ⟨rfl, rfl, rfl, rfl, rfl, List.prefix_refl _⟩
      | notBroadcast hact htype hbroadcast =>
        exact hstops ⟨rfl, rfl, rfl, rfl, rfl, List.prefix_refl _⟩
      | unexpected hwait hact => exact hstops ⟨rfl, rfl, rfl, rfl, rfl, List.prefix_refl _⟩

theorem clientHandleRead_honours (ho : client.InOrder name) (hs : client.Spoken name chats)
    (hw : client.Working) (hquit : client.clientQuitting = false)
    (hst : client.conn.state = .waitingForServerHello ∨ client.conn.state = .active)
    (replies : List RecvReply) :
    Client.Honours name chats (client.handleReadNetworkMessageEvent replies) := by
  have hunshut : ∀ fd, .shutdown fd ∉ (client.call (.recv client.conn.fd)).kernel.calls := by
    intro fd hfd
    rcases List.mem_append.mp hfd with hfd | hfd
    · exact hw.unshut fd hfd
    · cases List.mem_singleton.mp hfd
  rw [Client.handleRead_eq]
  by_cases hfail : recvEnd replies = .failed
  · rw [if_pos hfail]
    exact ⟨hs.congr rfl rfl (List.prefix_refl _) hunshut, fun hok => absurd hok Bool.false_ne_true⟩
  · rw [if_neg hfail]
    have hstate : (client.conn.ingested replies).state ≠ .connectionError := by
      show (recvEnd replies).state client.conn.state ≠ .connectionError
      cases hend : recvEnd replies with
      | failed => exact absurd hend hfail
      | eof => exact ConnectionState.noConfusion
      | wouldBlock => exact ho.phase.state_ne.2
    have hread : ((client.call (.recv client.conn.fd)).withConn
        (client.conn.ingested replies)).conn.state ≠ .connectionError := hstate
    obtain ⟨hover, hgoes⟩ := clientReadMessages_readLoopKeeps hread
    generalize ((client.call (.recv client.conn.fd)).withConn
      (client.conn.ingested replies)).readMessages = r at hover hgoes ⊢
    have hunshut' : ∀ fd, .shutdown fd ∉ r.2.kernel.calls := by
      rw [hover.kernel]
      exact hunshut
    refine ⟨hs.congr hover.queued hover.quitting hover.parsed hunshut', ?_⟩
    intro hok
    obtain ⟨hopen, hstays, hgreets⟩ := hgoes hok
    have hsame : (client.conn.ingested replies).state = client.conn.state := by
      show (recvEnd replies).state client.conn.state = client.conn.state
      cases hend : recvEnd replies with
      | failed => exact absurd hend hfail
      | eof =>
        refine absurd ?_ hopen
        show (recvEnd replies).state client.conn.state = .closed
        rw [hend]
        rfl
      | wouldBlock => rfl
    refine ⟨?_, ?_, hunshut'⟩
    · intro hactive
      rcases hgreets hactive with hwas | hgreeted
      · obtain ⟨m, hm, htype⟩ := hw.greeted (hsame.symm.trans hwas)
        exact ⟨m, hover.parsed.subset hm, htype⟩
      · exact hgreeted
    · intro hout
      rw [hover.outBuffer] at hout
      obtain ⟨⟨events, hmask, hhas⟩, haccepts⟩ := hw.writable hout
      refine ⟨⟨events, ?_, hhas⟩, ?_⟩
      · rw [hover.kernel, hover.fd]
        exact hmask
      · have hactive : client.conn.state = .active := by
          rcases hst with hwaiting | hactive
          · have hwho := (client.acceptsSend_iff.mp haccepts).1
            simp [hquit, hwaiting] at hwho
          · exact hactive
        rw [Client.acceptsSend_iff, hover.outBuffer]
        exact ⟨Or.inr (Or.inr (hstays (hsame.trans hactive))), hout⟩

/-! ### Writing -/

theorem clientHandleSend_honours (ho : client.InOrder name) (hs : client.Spoken name chats)
    (hw : client.Working)
    (haccepts : client.eventIsSendNetworkMessage client.conn.fd epollOut = true)
    (replies : List SendReply) :
    Client.Honours name chats (client.handleSendNetworkMessageEvent replies) := by
  have hunshut : ∀ fd, .shutdown fd ∉ (client.call (.send client.conn.fd)).kernel.calls := by
    intro fd hfd
    rcases List.mem_append.mp hfd with hfd | hfd
    · exact hw.unshut fd hfd
    · cases List.mem_singleton.mp hfd
  obtain ⟨hstream, hqueued, -⟩ := connectionFlushOutBuffer_stream ho.stream replies
  obtain ⟨hstate, hparsed, -, -⟩ := connectionFlushOutBuffer_frame client.conn replies
  have hfd : (connectionFlushOutBuffer client.conn replies).2.fd = client.conn.fd := by
    rw [connectionFlushOutBuffer_eq]
    split_ifs <;> rfl
  have hconn : (client.call (.send client.conn.fd)).conn = client.conn := rfl
  rw [Client.handleSendNetworkMessageEvent, hconn]
  rcases hr : connectionFlushOutBuffer client.conn replies with ⟨ok, conn⟩
  simp only [hr] at hstream hqueued hstate hparsed hfd ⊢
  have hspoken : ((client.call (.send client.conn.fd)).withConn conn).Spoken name chats :=
    hs.congr hqueued rfl (by rw [Client.withConn, hparsed]) hunshut
  cases ok with
  | false => exact ⟨hspoken, fun hok => absurd hok Bool.false_ne_true⟩
  | true =>
    have hst := hstate rfl
    have hgreeted : conn.state = .active → conn.Greeted := by
      intro hactive
      obtain ⟨m, hm, htype⟩ := hw.greeted (hst.symm.trans hactive)
      exact ⟨m, hparsed.symm ▸ hm, htype⟩
    dsimp only
    by_cases hout : conn.outBuffer ≠ []
    · rw [if_pos hout]
      refine ⟨hspoken, fun _ => ⟨hgreeted, ?_, hunshut⟩⟩
      intro _
      obtain ⟨hwho, hpending⟩ := client.acceptsSend_iff.mp haccepts
      obtain ⟨⟨events, hmask, hhas⟩, -⟩ := hw.writable hpending
      refine ⟨⟨events, ?_, hhas⟩, ?_⟩
      · show client.kernel.mask conn.fd = some events
        rw [hfd]
        exact hmask
      · have haccepts' : ((client.call (.send client.conn.fd)).withConn
            conn).eventIsSendNetworkMessage conn.fd epollOut = true := by
          have hiff := ((client.call (.send client.conn.fd)).withConn conn).acceptsSend_iff
          refine hiff.mpr ⟨?_, hout⟩
          show client.clientQuitting = true ∨ conn.state = .sendingClientHello ∨
            conn.state = .active
          rw [hst]
          exact hwho
        exact haccepts'
    · rw [if_neg hout]
      have hempty : conn.outBuffer = [] := not_not.mp hout
      by_cases hquit : (client.call (.send client.conn.fd)).clientQuitting = true
      · rw [if_pos hquit]
        refine ⟨⟨hspoken.queued, hspoken.greeted, fun _ _ => ⟨hquit, ?_⟩⟩,
          fun hok => absurd hok Bool.false_ne_true⟩
        -- the buffer is empty, so `send` has taken all that was ever queued
        have hsent := hstream.sent
        have hunsent : conn.unsent = [] := by simp [Connection.unsent, hempty]
        rw [hunsent, List.append_nil] at hsent
        exact hsent
      · rw [if_neg hquit]
        by_cases hhello : conn.state = .sendingClientHello
        · rw [if_pos hhello]
          have hwaits : ((client.call (.send client.conn.fd)).withConn
              { conn with state := .waitingForServerHello }).Spoken name chats :=
            hspoken.congr rfl rfl (List.prefix_refl _) hunshut
          exact fdMod_honours hwaits (fun hactive => by cases hactive) hunshut
            (fun hne => absurd hempty hne)
        · rw [if_neg hhello]
          exact fdMod_honours hspoken hgreeted hunshut (fun hne => absurd hempty hne)

/-! ### Connecting -/

lemma queueClientHello_honours (hname : client.name = name) (hs : client.Spoken name chats)
    (hquit : client.clientQuitting = false) (hqueued : client.conn.queued = [])
    (hst : client.conn.state = .sendingClientHello)
    (hunshut : ∀ fd, .shutdown fd ∉ client.kernel.calls) (events : EventMask)
    (hevents : events.has epollOut) :
    Client.Honours name chats
      (match client.queueClientHello with
      | (false, client) => (false, client)
      | (true, client) => client.fdMod events) := by
  subst hname
  have hnone : chats = [] := by
    rcases hs.queued with ⟨-, hnone, -⟩ | hscript
    · exact hnone
    · rw [hqueued] at hscript
      cases hscript
  rw [Client.queueClientHello, protocolQueueMessage_eq]
  by_cases hlegal : protocolPayloadLengthIsLegal
      (Message.of .clientHello client.name).payload.length
  · rw [if_pos hlegal]
    have hspoken : (client.withConn (client.conn.enqueue (clientGreeting client.name))).Spoken
        client.name chats := by
      refine ⟨Or.inr ?_, fun hne => absurd hnone hne, fun fd hfd => absurd hfd (hunshut fd)⟩
      show client.conn.queued ++ [clientGreeting client.name] =
        clientScript client.name chats client.clientQuitting
      rw [hqueued, hnone, hquit]
      rfl
    show Client.Honours client.name chats
      ((client.withConn (client.conn.enqueue (clientGreeting client.name))).fdMod events)
    refine fdMod_honours hspoken ?_ hunshut ?_
    · intro hactive
      have hactive : client.conn.state = .active := hactive
      rw [hst] at hactive
      cases hactive
    · intro hne
      exact ⟨hevents, (Client.acceptsSend_iff _).mpr ⟨Or.inr (Or.inl hst), hne⟩⟩
  · rw [if_neg hlegal]
    exact ⟨hs.congr rfl rfl (List.prefix_refl _) hunshut, fun hok => absurd hok Bool.false_ne_true⟩

theorem clientConnectionSuccess_honours (ho : client.InOrder name)
    (hs : client.Spoken name chats) (hw : client.Working)
    (hst : client.conn.state = .connecting) (reply : ConnectReply) :
    Client.Honours name chats (client.handleConnectionSuccessEvent reply) := by
  have hqueued : client.conn.queued = [] := by
    cases ho.phase with
    | connecting _ _ hqueued => exact hqueued
    | introduced said hst' => simp [hst] at hst'
    | active hello heard said hst' => simp [hst] at hst'
  have hquit : client.clientQuitting = false := by
    rcases hs.queued with ⟨-, -, hquit⟩ | hscript
    · exact hquit
    · rw [hqueued] at hscript
      cases hscript
  cases reply with
  | failed =>
    exact ⟨hs.congr rfl rfl (List.prefix_refl _) hw.unshut,
      fun hok => absurd hok Bool.false_ne_true⟩
  | established =>
    have hspoken : (client.withConn { client.conn with state := .sendingClientHello }).Spoken name
        chats := hs.congr rfl rfl (List.prefix_refl _) hw.unshut
    have hnamed : (client.withConn { client.conn with state := .sendingClientHello }).name = name :=
      ho.named
    have hevents : (epollOut ||| epollRdhup).has epollOut := by decide
    exact queueClientHello_honours hnamed hspoken hquit hqueued rfl hw.unshut _ hevents

/-! ### Standard input -/

lemma queueMessage_honours (after : Client) {chats' : List Bytes} (hw : client.Working)
    {m : Message}
    (hqueued : client.conn.queued ++ [m] = clientScript name chats' after.clientQuitting)
    (hgreeted : chats' ≠ [] → client.conn.Greeted)
    (hconn : after.conn = client.conn.enqueue m) (hkernel : after.kernel = client.kernel)
    (hwho : after.clientQuitting = true ∨ client.conn.state = .active) {events : EventMask}
    (hevents : events.has epollOut) :
    Client.Honours name chats' (after.fdMod events) := by
  have hunshut : ∀ fd, .shutdown fd ∉ after.kernel.calls := by
    rw [hkernel]
    exact hw.unshut
  have hspoken : after.Spoken name chats' := by
    refine ⟨Or.inr ?_, ?_, fun fd hfd => absurd hfd (hunshut fd)⟩
    · rw [hconn]
      exact hqueued
    · rw [hconn]
      exact hgreeted
  refine fdMod_honours hspoken ?_ hunshut ?_
  · rw [hconn]
    exact hw.greeted
  · intro hne
    refine ⟨hevents, after.acceptsSend_iff.mpr ⟨?_, hne⟩⟩
    rw [hconn]
    rcases hwho with hquit | hactive
    · exact Or.inl hquit
    · exact Or.inr (Or.inr hactive)

/-- What the stdin handler is given and makes a chat of. -/
def chatsFrom (client : Client) (line : Option Bytes) : List Bytes :=
  chatsOf (line.map (fun line => (client.conn.state, line))).toList

theorem clientHandleStdin_honours (ho : client.InOrder name) (hs : client.Spoken name chats)
    (hw : client.Working) (hquit : client.clientQuitting = false) (line : Option Bytes) :
    Client.Honours name (chats ++ chatsFrom client line) (client.handleReadStdinEvent line) := by
  -- who is connected has introduced itself
  have hscript : client.conn.state ≠ .connecting →
      client.conn.queued = clientScript name chats false := by
    intro hst
    rcases hs.queued with ⟨hqueued, -, -⟩ | hqueued
    · cases ho.phase with
      | connecting hst' _ _ => exact absurd hst' hst
      | introduced said _ _ hsaid => simp [hqueued] at hsaid
      | active hello heard said _ _ hsaid => simp [hqueued] at hsaid
    · rw [hquit] at hqueued
      exact hqueued
  -- a line that is not sent
  have hmute : ∀ {line : Bytes}, ¬Sendable (client.conn.state, line) →
      chats ++ chatsFrom client (some line) = chats := by
    intro line hno
    simp [chatsFrom, chatsOf, hno]
  cases line with
  | none =>
    have hnil : chats ++ chatsFrom client none = chats := by simp [chatsFrom, chatsOf]
    rw [hnil]
    exact ⟨hs, fun hok => absurd hok Bool.false_ne_true⟩
  | some line =>
    rw [Client.handleReadStdinEvent]
    by_cases hnil : line = []
    · rw [if_pos hnil, hmute (fun h => h.2.1 hnil)]
      exact ⟨hs, fun _ => hw⟩
    · rw [if_neg hnil]
      by_cases hcommand : line = ascii "/quit"
      · rw [if_pos hcommand, hmute (fun h => h.2.2.1 hcommand)]
        by_cases htcp : ¬client.tcpConnectionIsEstablished
        · rw [if_pos htcp]
          exact ⟨hs.congr rfl rfl (List.prefix_refl _) hw.unshut,
            fun hok => absurd hok Bool.false_ne_true⟩
        · rw [if_neg htcp, Client.handleQuitCommand, protocolQueueMessage_eq]
          have hlegal : protocolPayloadLengthIsLegal (Message.of .closeCon []).payload.length := by
            decide
          rw [if_pos hlegal]
          have hqueued := hscript (not_not.mp htcp).2.2
          exact queueMessage_honours { client.print (ascii "[client] exiting.") with
            conn := client.conn.enqueue (Message.of .closeCon []), clientQuitting := true } hw
            (by rw [hqueued]; exact clientScript_quit name chats) hs.greeted rfl rfl (Or.inl rfl)
            (by decide)
      · rw [if_neg hcommand]
        by_cases hactive : client.conn.state ≠ .active
        · rw [if_pos hactive, hmute (fun h => hactive h.1)]
          exact ⟨hs, fun _ => hw⟩
        · rw [if_neg hactive]
          by_cases hlong : ¬protocolPayloadLengthIsLegal line.length
          · rw [if_pos hlong, hmute (fun h => hlong h.2.2.2)]
            exact ⟨hs.congr rfl rfl (List.prefix_refl _) hw.unshut,
              fun _ => ⟨hw.greeted, hw.writable, hw.unshut⟩⟩
          · rw [if_neg hlong]
            dsimp only
            have hlegal : protocolPayloadLengthIsLegal (Message.of .chat line).payload.length :=
              not_not.mp hlong
            rw [protocolQueueMessage_eq, if_pos hlegal]
            have hactive : client.conn.state = .active := not_not.mp hactive
            have hsendable : Sendable (client.conn.state, line) :=
              ⟨hactive, hnil, hcommand, not_not.mp hlong⟩
            have hchats : chatsFrom client (some line) = [line] := by
              simp [chatsFrom, chatsOf, hsendable]
            have hqueued := hscript (by simp [hactive])
            rw [hchats]
            exact queueMessage_honours { client with
              conn := client.conn.enqueue (Message.of .chat line)
              stdout := formatPrintMessage client.stdout client.name (Message.of .chat line) } hw
              (by rw [hqueued, hquit]; exact clientScript_chat name chats line)
              (fun _ => hw.greeted hactive) rfl rfl (Or.inr hactive) (by decide)

/-! ### Runs -/

/-- The client with the verdicts on the next `epoll_ctl` calls. -/
def Client.tuned (client : Client) (ctl : List (Option Errno)) : Client :=
  { client with kernel := { client.kernel with ctlScript := ctl } }

lemma clientHandleEvent_eq (client : Client) (e : EpollEvent) (r : ClientReplies) :
    client.handleEvent e r =
      if client.clientQuitting && !client.eventIsSendNetworkMessage e.fd e.events then
        (true, client.tuned r.ctl)
      else if client.eventIsCheckConnectionSuccess e.fd e.events then
        (client.tuned r.ctl).handleConnectionSuccessEvent r.connect
      else if client.eventIsSendNetworkMessage e.fd e.events then
        (client.tuned r.ctl).handleSendNetworkMessageEvent r.sends
      else if client.eventIsReadNetworkMessage e.fd e.events then
        (client.tuned r.ctl).handleReadNetworkMessageEvent r.recvs
      else if client.eventIsReadStdin e.fd e.events then
        (client.tuned r.ctl).handleReadStdinEvent r.line
      else (true, client.tuned r.ctl) :=
  rfl

theorem clientHandleEvent_honours (ho : client.InOrder name) (hs : client.Spoken name chats)
    (hw : client.Working) (e : EpollEvent) (r : ClientReplies) :
    Client.Honours name
      (chats ++ if client.readsStdin e then chatsFrom client r.line else [])
      (client.handleEvent e r) := by
  have ho' : (client.tuned r.ctl).InOrder name := ⟨ho.named, ho.stream, ho.complaints, ho.phase⟩
  have hs' : (client.tuned r.ctl).Spoken name chats := ⟨hs.queued, hs.greeted, hs.shut⟩
  have hw' : (client.tuned r.ctl).Working := ⟨hw.greeted, hw.writable, hw.unshut⟩
  -- who does not read from standard input makes no chat
  have hquiet : ∀ {x : Bool × Client}, ¬client.readsStdin e → Client.Honours name chats x →
      Client.Honours name (chats ++ if client.readsStdin e then chatsFrom client r.line else [])
        x := by
    intro x hno hx
    rw [if_neg hno, List.append_nil]
    exact hx
  have hnothing : Client.Honours name chats (true, client.tuned r.ctl) := ⟨hs', fun _ => hw'⟩
  rw [clientHandleEvent_eq]
  by_cases hskip : (client.clientQuitting && !client.eventIsSendNetworkMessage e.fd e.events) = true
  · rw [if_pos hskip]
    rw [Bool.and_eq_true] at hskip
    exact hquiet (fun h => by rw [h.1] at hskip; exact Bool.false_ne_true hskip.1) hnothing
  · rw [if_neg hskip]
    by_cases hconnect : client.eventIsCheckConnectionSuccess e.fd e.events = true
    · rw [if_pos hconnect]
      have hst : client.conn.state = .connecting := (of_decide_eq_true hconnect).2.1
      exact hquiet (fun h => by rw [h.2.1] at hconnect; exact Bool.false_ne_true hconnect)
        (clientConnectionSuccess_honours ho' hs' hw' hst r.connect)
    · rw [if_neg hconnect]
      by_cases hsend : client.eventIsSendNetworkMessage e.fd e.events = true
      · rw [if_pos hsend]
        have haccepts : (client.tuned r.ctl).eventIsSendNetworkMessage
            (client.tuned r.ctl).conn.fd epollOut = true := by
          obtain ⟨-, hwho, hpending, -⟩ := of_decide_eq_true hsend
          exact (Client.acceptsSend_iff _).mpr ⟨hwho, hpending⟩
        exact hquiet (fun h => by rw [h.2.2.1] at hsend; exact Bool.false_ne_true hsend)
          (clientHandleSend_honours ho' hs' hw' haccepts r.sends)
      · rw [if_neg hsend]
        have hquit : client.clientQuitting = false := by
          by_contra hquit
          apply hskip
          rw [Bool.not_eq_false] at hquit
          rw [Bool.not_eq_true] at hsend
          rw [hquit, hsend]
          rfl
        by_cases hread : client.eventIsReadNetworkMessage e.fd e.events = true
        · rw [if_pos hread]
          rw [Client.eventIsReadNetworkMessage, Bool.and_eq_true] at hread
          obtain ⟨-, hst, -⟩ := of_decide_eq_true hread.2
          refine hquiet ?_ (clientHandleRead_honours ho' hs' hw' hquit hst r.recvs)
          intro h
          have hno := h.2.2.2.1
          rw [Client.eventIsReadNetworkMessage, hread.1, hread.2] at hno
          cases hno
        · rw [if_neg hread]
          by_cases hstdin : client.eventIsReadStdin e.fd e.events = true
          · rw [if_pos hstdin]
            have hreads : client.readsStdin e :=
              ⟨hquit, eq_false_of_ne_true hconnect, eq_false_of_ne_true hsend,
                eq_false_of_ne_true hread, hstdin⟩
            rw [if_pos hreads]
            exact clientHandleStdin_honours ho' hs' hw' hquit r.line
          · rw [if_neg hstdin]
            exact hquiet (fun h => hstdin h.2.2.2.2) hnothing

lemma startedClient_honours (name : Bytes) (fd epollFd : Fd) (immediately : Bool)
    (ctl : List (Option Errno)) :
    Client.Honours name [] (createdClient name fd epollFd immediately ctl).enterLoop := by
  have hunshut : ∀ g, .shutdown g ∉ (createdClient name fd epollFd immediately ctl).kernel.calls :=
    fun g hg => absurd hg List.not_mem_nil
  have hspoken : (createdClient name fd epollFd immediately ctl).Spoken name [] :=
    ⟨Or.inl ⟨rfl, rfl, rfl⟩, fun hne => absurd rfl hne, fun g hg => absurd hg (hunshut g)⟩
  rw [Client.enterLoop]
  cases immediately with
  | false =>
    have hst : (clientConnection fd false).state = .connecting := rfl
    have hno : ¬((createdClient name fd epollFd false ctl).conn.state = .sendingClientHello ∧
        (createdClient name fd epollFd false ctl).conn.outBuffer = []) := by
      rintro ⟨hst', -⟩
      exact absurd (hst.symm.trans hst') (by decide)
    rw [if_neg hno]
    refine ⟨hspoken, fun _ => ⟨?_, fun hne => absurd rfl hne, hunshut⟩⟩
    intro hactive
    exact absurd (hst.symm.trans hactive) (by decide)
  | true =>
    rw [if_pos ⟨rfl, rfl⟩]
    exact queueClientHello_honours rfl hspoken rfl rfl rfl hunshut _ (by decide)

/-- What holds between two events, and after the loop. -/
structure ClientLoop.Honours (name : Bytes) (chats : List Bytes) (l : ClientLoop) : Prop where
  order : l.Running → l.client.InOrder name
  spoken : l.client.Spoken name chats
  working : l.Running → l.client.Working

lemma clientLoopStep_honours {l l' : ClientLoop} {i : ClientInput} (h : l.Honours name chats)
    (hstep : clientLoopStep l i = some l') :
    l'.Honours name (chats ++ chatsOf (l.lineRead i).toList) := by
  obtain ⟨hrun, hcases⟩ := clientLoopStep_cases hstep
  have hquiet : l.lineRead i = none → l'.client = l.client →
      l'.Honours name (chats ++ chatsOf (l.lineRead i).toList) := by
    intro hnone heq
    have hnil : chats ++ chatsOf (l.lineRead i).toList = chats := by simp [hnone, chatsOf]
    rw [hnil]
    exact ⟨fun _ => heq ▸ h.order hrun, heq ▸ h.spoken, fun _ => heq ▸ h.working hrun⟩
  cases i with
  | events es =>
    rcases hcases with heq | ⟨r, e, es', ok, hi, -⟩
    · exact hquiet rfl heq
    · cases hi
  | waitFailed err =>
    rcases hcases with heq | ⟨r, e, es', ok, hi, -⟩
    · exact hquiet rfl heq
    · cases hi
  | endOfBatch =>
    rcases hcases with heq | ⟨r, e, es', ok, hi, -⟩
    · exact hquiet rfl heq
    · cases hi
  | replies r =>
    obtain ⟨e, es, ok, hphase, hev, hphase'⟩ := clientLoopStep_replies hstep
    have hread : chatsOf (l.lineRead (.replies r)).toList =
        if l.client.readsStdin e then chatsFrom l.client r.line else [] := by
      rw [ClientLoop.lineRead, hphase]
      dsimp only
      split_ifs <;> rfl
    have horder := clientHandleEvent_keeps (h.order hrun) e r
    have hhonours := clientHandleEvent_honours (h.order hrun) h.spoken (h.working hrun) e r
    rw [hev] at horder hhonours
    rw [hread]
    -- the loop goes on only if the handler says so
    have hok : l'.Running → ok = true := by
      intro hrun'
      cases ok with
      | true => rfl
      | false => exact absurd hphase' hrun'
    exact ⟨fun hrun' => horder.1 (hok hrun'), hhonours.1, fun hrun' => hhonours.2 (hok hrun')⟩

theorem clientRun_honours {l l' : ClientLoop} {is : List ClientInput} (h : l.Honours name chats)
    (hrun : System.run clientLoopStep l is = some l') :
    l'.Honours name (chats ++ chatsOf (linesRead l is)) := by
  induction is generalizing l chats with
  | nil =>
    cases hrun
    simpa [linesRead, chatsOf] using h
  | cons i is ih =>
    obtain ⟨l₁, hstep, hrest⟩ := Option.bind_eq_some_iff.mp hrun
    have h₁ := ih (clientLoopStep_honours h hstep) hrest
    rw [List.append_assoc, ← chatsOf_append] at h₁
    rw [linesRead, hstep]
    exact h₁

end Handlers

/-- What a run of the client amounts to. -/
structure ClientLoop.KeepsContract (name : Bytes) (lines : List (ConnectionState × Bytes))
    (l : ClientLoop) : Prop where
  queued : l.client.conn.queued = [] ∧ chatsOf lines = [] ∨
    l.client.conn.queued = clientScript name (chatsOf lines) l.client.clientQuitting
  greeted : chatsOf lines ≠ [] → l.client.conn.Greeted
  entered : l.Running → l.client.conn.state = .active → l.client.conn.Greeted
  writable : l.Running → l.client.Writable
  shut : ∀ fd, .shutdown fd ∈ l.client.kernel.calls →
    l.client.clientQuitting = true ∧ l.client.conn.sent = frameCodec.encodeAll l.client.conn.queued

/-- In every state of every run the client has queued its introduction, the lines that were
read while it was in the room, and CLOSE_CON if it quits; it was in the room only after a
SERVER_HELLO; nothing that is queued is stuck; and the socket is shut down only after all of
it was sent. -/
theorem client_keeps_its_contract {name : Bytes} {l₀ l : ClientLoop} {is : List ClientInput}
    (hinit : (clientSystem name).init l₀) (hrun : System.run clientLoopStep l₀ is = some l) :
    l.KeepsContract name (linesRead l₀ is) := by
  obtain ⟨fd, epollFd, immediately, ctl, rfl⟩ := hinit
  have hkeeps := startedClient_keeps name fd epollFd immediately ctl
  have hhonours := startedClient_honours name fd epollFd immediately ctl
  have hstart :
      (startedClient (createdClient name fd epollFd immediately ctl)).Honours name [] := by
    have hok : (startedClient (createdClient name fd epollFd immediately ctl)).Running →
        (createdClient name fd epollFd immediately ctl).enterLoop.1 = true := by
      intro hrunning
      by_contra hstop
      exact hrunning (if_neg hstop)
    exact ⟨fun h => hkeeps.1 (hok h), hhonours.1, fun h => hhonours.2 (hok h)⟩
  have h := clientRun_honours hstart hrun
  rw [List.nil_append] at h
  refine ⟨?_, h.spoken.greeted, fun hrunning => (h.working hrunning).greeted,
    fun hrunning => (h.working hrunning).writable, h.spoken.shut⟩
  rcases h.spoken.queued with ⟨hnil, hnone, -⟩ | hscript
  · exact Or.inl ⟨hnil, hnone⟩
  · exact Or.inr hscript

/-- The client quits when only a part of its introduction was sent. -/
def quitsMidGreeting : List ClientInput :=
  [.events [⟨5, epollOut⟩], .replies { sends := [.count 3, .error .eagain] }, .endOfBatch,
    .events [⟨stdinFileno, epollIn⟩], .replies { line := some (ascii "/quit") }, .endOfBatch,
    .events [⟨5, epollOut⟩], .replies { sends := [.count 100] }]

theorem client_keeps_its_contract_mid_greeting : ∃ l : ClientLoop,
    .shutdown 5 ∈ l.client.kernel.calls ∧
      l.client.conn.queued = clientScript (ascii "ann") [] true ∧
      l.KeepsContract (ascii "ann") [(.sendingClientHello, ascii "/quit")] := by
  obtain ⟨l₀, hl₀⟩ : ∃ l₀, l₀ = startedClient (createdClient (ascii "ann") 5 6 true []) := ⟨_, rfl⟩
  have hinit : (clientSystem (ascii "ann")).init l₀ := ⟨5, 6, true, [], hl₀⟩
  subst hl₀
  obtain ⟨l, hl, hshut, hqueued, hlines⟩ : ∃ l,
      System.run clientLoopStep (startedClient (createdClient (ascii "ann") 5 6 true []))
        quitsMidGreeting = some l ∧
      .shutdown 5 ∈ l.client.kernel.calls ∧
      l.client.conn.queued = clientScript (ascii "ann") [] true ∧
      linesRead (startedClient (createdClient (ascii "ann") 5 6 true [])) quitsMidGreeting =
        [(.sendingClientHello, ascii "/quit")] :=
    ⟨_, rfl, by decide, by decide, by decide⟩
  have hcontract := client_keeps_its_contract hinit hl
  rw [hlines] at hcontract
  exact ⟨l, hshut, hqueued, hcontract⟩

end Chatroom
