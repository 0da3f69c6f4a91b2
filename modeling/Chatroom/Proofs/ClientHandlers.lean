import Chatroom.Model.ClientLoop
import Chatroom.Proofs.Handshake

/-!
# What the client says and hears

A client says CLIENT_HELLO first and then CHAT, and CLOSE_CON at the end. What it has parsed
tells in which phase it is; when it rejects a frame, its record shows why.
-/

namespace Chatroom
open Transition

/-- The first message of a client. -/
def clientGreeting (name : Bytes) : Message :=
  Message.of .clientHello name

/-- What a client queues after its first message. -/
def FromClient (m : Message) : Prop :=
  m.type = .chat ∨ m = Message.of .closeCon []

/-- The client after its connection record was overwritten. -/
def Client.withConn (client : Client) (c : Connection) : Client :=
  { client with conn := c }

/-! ### Equations -/

/-- What the client does about one frame. -/
inductive Reaction (client : Client) (m : Message) : Bool → Client → Prop
  | greet (hst : client.conn.state = .waitingForServerHello) (htype : m.type = .serverHello) :
      Reaction client m true { client with
        conn := { client.conn with name := m.payload, state := .active }
        stdout := client.stdout ++ [ascii "Connected to server.\nName: " ++ m.payload,
          ascii "[client] connected to server. Start chatting."] }
  | line (hst : client.conn.state = .active) (htype : m.type = .broadcast) :
      Reaction client m true { client with stdout := client.stdout ++ [m.payload] }
  | dismissed (hst : client.conn.state = .active) (htype : m.type = .closeCon)
      (hempty : m.payload = []) :
      Reaction client m false { client with
        conn := { client.conn with state := .closed }
        stdout := client.stdout ++ [ascii "[client] server closed the room."] }
  | notHello (hst : client.conn.state = .waitingForServerHello) (htype : m.type ≠ .serverHello) :
      Reaction client m false (client.withConn (client.conn.reject (.expectedServerHello m.type)))
  | closePayload (hst : client.conn.state = .active) (htype : m.type = .closeCon)
      (hpayload : m.payload ≠ []) :
      Reaction client m false (client.withConn (client.conn.reject .expectedEmptyCloseCon))
  | notBroadcast (hst : client.conn.state = .active) (htype : m.type ≠ .closeCon)
      (hbroadcast : m.type ≠ .broadcast) :
      Reaction client m false (client.withConn (client.conn.reject (.expectedBroadcast m.type)))
  | unexpected (hwaiting : client.conn.state ≠ .waitingForServerHello)
      (hactive : client.conn.state ≠ .active) :
      Reaction client m false (client.withConn (client.conn.reject .unexpectedMessage))

theorem handleNetworkMessage_reaction (client : Client) (m : Message) :
    Reaction client m (client.handleNetworkMessage m).1 (client.handleNetworkMessage m).2 := by
  unfold Client.handleNetworkMessage
  dsimp only
  by_cases hwaiting : client.conn.state = .waitingForServerHello
  · rw [if_pos hwaiting]
    by_cases htype : m.type ≠ .serverHello
    · rw [if_pos htype]
      exact Reaction.notHello hwaiting htype
    · rw [if_neg htype]
      have h := Reaction.greet hwaiting (not_not.mp htype)
      simpa only [Client.print, List.append_assoc, List.singleton_append] using h
  · rw [if_neg hwaiting]
    by_cases hactive : client.conn.state = .active
    · rw [if_pos hactive]
      by_cases hclose : m.type = .closeCon
      · rw [if_pos hclose]
        by_cases hpayload : m.payload ≠ []
        · rw [if_pos hpayload]
          exact Reaction.closePayload hactive hclose hpayload
        · rw [if_neg hpayload]
          exact Reaction.dismissed hactive hclose (not_not.mp hpayload)
      · rw [if_neg hclose]
        by_cases htype : m.type ≠ .broadcast
        · rw [if_pos htype]
          exact Reaction.notBroadcast hactive hclose htype
        · rw [if_neg htype]
          exact Reaction.line hactive (not_not.mp htype)
    · rw [if_neg hactive]
      exact Reaction.unexpected hwaiting hactive

section ReadLoop

variable {client : Client}

lemma Client.readMessages_incomplete (hp : parseFrame client.conn.inBuffer = .incomplete)
    (hst : client.conn.state ≠ .connectionError) :
    client.readMessages = (decide (client.conn.state ≠ .closed), client) := by
  rw [Client.readMessages]
  split
  · rename_i conn h
    rw [parseMessage_incomplete hp] at h
    cases h
    rw [if_neg hst]
    by_cases hclosed : client.conn.state = .closed
    · simp [hclosed]
    · simp [hclosed]
  · rename_i message conn h
    rw [parseMessage_incomplete hp] at h
    cases h

lemma Client.readMessages_illegal (hp : parseFrame client.conn.inBuffer = .illegal) :
    client.readMessages = (false, client.withConn
      (client.conn.reject (.oversizedPayload (declaredLength client.conn.inBuffer)))) := by
  rw [Client.readMessages]
  split
  · rename_i conn h
    rw [parseMessage_illegal hp] at h
    cases h
    rfl
  · rename_i message conn h
    rw [parseMessage_illegal hp] at h
    cases h

lemma Client.readMessages_frame {m : Message} {rest : Bytes}
    (hp : parseFrame client.conn.inBuffer = .frame m rest)
    (hst : client.conn.state ≠ .connectionError) :
    client.readMessages =
      match (client.withConn (client.conn.cut m rest)).handleNetworkMessage m with
      | (false, client) => (false, client)
      | (true, client) => client.readMessages := by
  rw [Client.readMessages]
  split
  · rename_i conn h
    rw [parseMessage_frame hp] at h
    cases h
  · rename_i message conn h
    rw [parseMessage_frame hp] at h
    cases h
    have hcut : (client.conn.cut m rest).state ≠ .connectionError := hst
    rw [if_neg hcut]
    have hwith : ({ client with conn := client.conn.cut m rest } : Client) =
      client.withConn (client.conn.cut m rest) := rfl
    split
    · rename_i client' hm
      rw [← hwith, hm]
    · rename_i client' hm
      rw [← hwith, hm]

lemma Client.readMessages_single {m : Message} {t : Client}
    (hst : client.conn.state ≠ .connectionError)
    (hp : parseFrame client.conn.inBuffer = .frame m [])
    (ht : (client.withConn (client.conn.cut m [])).handleNetworkMessage m = (true, t))
    (hactive : t.conn.state = .active) : client.readMessages = (true, t) := by
  have hbuf : parseFrame t.conn.inBuffer = .incomplete := by
    have h := Client.handleNetworkMessage_inBuffer (client.withConn (client.conn.cut m [])) m
    rw [ht] at h
    rw [h]
    rfl
  rw [Client.readMessages_frame hp hst, ht]
  dsimp only
  rw [Client.readMessages_incomplete hbuf (by rw [hactive]; decide), hactive]
  rfl

theorem Client.handleRead_eq (replies : List RecvReply) :
    client.handleReadNetworkMessageEvent replies =
      if recvEnd replies = .failed then
        (false, (client.call (.recv client.conn.fd)).withConn (client.conn.ingested replies))
      else ((client.call (.recv client.conn.fd)).withConn
        (client.conn.ingested replies)).readMessages := by
  have hread : connectionReadIntoInBuffer client.conn replies =
      (recvEnd replies != .failed, client.conn.ingested replies) :=
    connectionReadIntoInBuffer_eq client.conn replies
  have hconn : (client.call (.recv client.conn.fd)).conn = client.conn := rfl
  by_cases hfail : recvEnd replies = .failed
  · have hok : (recvEnd replies != .failed) = false := by simpa using hfail
    rw [if_pos hfail, Client.handleReadNetworkMessageEvent]
    simp only [hconn, hread, hok]
    rfl
  · have hok : (recvEnd replies != .failed) = true := by simpa using hfail
    rw [if_neg hfail, Client.handleReadNetworkMessageEvent]
    simp only [hconn, hread, hok]
    rfl

end ReadLoop

/-! ### Phases -/

/-- The phases of a client between two events. -/
inductive ClientPhase (name : Bytes) (c : Connection) : Prop
  | connecting (hst : c.state = .connecting) (hparsed : c.parsed = []) (hqueued : c.queued = [])
  | introduced (said : List Message)
      (hst : c.state = .sendingClientHello ∨ c.state = .waitingForServerHello)
      (hparsed : c.parsed = []) (hqueued : c.queued = clientGreeting name :: said)
      (hsaid : ∀ m ∈ said, FromClient m)
  | active (hello : Message) (heard said : List Message) (hst : c.state = .active)
      (hparsed : c.parsed = hello :: heard) (hqueued : c.queued = clientGreeting name :: said)
      (hsaid : ∀ m ∈ said, FromClient m)

/-- The record of the connection of a client. -/
abbrev Client.Recorded (name : Bytes) (client : Client) : Prop :=
  client.conn.Record (clientGreeting name) FromClient

/-- A client whose loop goes on. -/
structure Client.InOrder (name : Bytes) (client : Client) : Prop where
  named : client.name = name
  stream : client.conn.Stream
  complaints : client.conn.complaints = []
  phase : ClientPhase name client.conn

section Phases

variable {name : Bytes} {client client' : Client} {c c' : Connection}

lemma ClientPhase.told (h : ClientPhase name c) :
    Begins (clientGreeting name) FromClient c.queued := by
  cases h with
  | connecting _ _ hqueued => exact Or.inl hqueued
  | introduced said _ _ hqueued hsaid => exact Or.inr ⟨said, hqueued, hsaid⟩
  | active hello heard said _ _ hqueued hsaid => exact Or.inr ⟨said, hqueued, hsaid⟩

lemma Client.InOrder.recorded (h : client.InOrder name) : client.Recorded name where
  stream := h.stream
  complaints := by simp [h.complaints]
  told := h.phase.told

lemma ClientPhase.of_introduced (h : ClientPhase name c)
    (hst : c.state = .sendingClientHello ∨ c.state = .waitingForServerHello) :
    c.parsed = [] ∧ ∃ said, c.queued = clientGreeting name :: said ∧ ∀ m ∈ said, FromClient m := by
  cases h with
  | connecting hst' => simp [hst'] at hst
  | introduced said _ hparsed hqueued hsaid => exact ⟨hparsed, said, hqueued, hsaid⟩
  | active hello heard said hst' => simp [hst'] at hst

lemma ClientPhase.of_active (h : ClientPhase name c) (hst : c.state = .active) :
    (∃ hello heard, c.parsed = hello :: heard) ∧
      ∃ said, c.queued = clientGreeting name :: said ∧ ∀ m ∈ said, FromClient m := by
  cases h with
  | connecting hst' => simp [hst] at hst'
  | introduced said hst' => simp [hst] at hst'
  | active hello heard said _ hparsed hqueued hsaid =>
    exact ⟨⟨hello, heard, hparsed⟩, said, hqueued, hsaid⟩

lemma ClientPhase.state_ne (h : ClientPhase name c) :
    c.state ≠ .closed ∧ c.state ≠ .connectionError := by
  cases h with
  | connecting hst => simp [hst]
  | introduced said hst => rcases hst with hst | hst <;> simp [hst]
  | active hello heard said hst => simp [hst]

lemma ClientPhase.congr (h : ClientPhase name c) (hst : c'.state = c.state)
    (hparsed : c'.parsed = c.parsed) (hqueued : c'.queued = c.queued) : ClientPhase name c' := by
  cases h with
  | connecting hst' hp hq =>
    exact .connecting (hst.trans hst') (hparsed.trans hp) (hqueued.trans hq)
  | introduced said hst' hp hq hsaid =>
    exact .introduced said (by rw [hst]; exact hst') (hparsed.trans hp) (hqueued.trans hq) hsaid
  | active hello heard said hst' hp hq hsaid =>
    exact .active hello heard said (hst.trans hst') (hparsed.trans hp) (hqueued.trans hq) hsaid

lemma ClientPhase.enqueue (h : ClientPhase name c) (hst : c.state ≠ .connecting) {m : Message}
    (hm : FromClient m) : ClientPhase name (c.enqueue m) := by
  have hmore : ∀ said : List Message, (∀ x ∈ said, FromClient x) →
      ∀ x ∈ said ++ [m], FromClient x := by
    intro said hsaid
    exact List.forall_mem_append.mpr ⟨hsaid, List.forall_mem_singleton.mpr hm⟩
  have hqueue : ∀ said, c.queued = clientGreeting name :: said →
      (c.enqueue m).queued = clientGreeting name :: (said ++ [m]) := by
    intro said hq
    show c.queued ++ [m] = _
    rw [hq]
    rfl
  cases h with
  | connecting hst' => exact absurd hst' hst
  | introduced said hst' hp hq hsaid =>
    exact .introduced (said ++ [m]) hst' hp (hqueue said hq) (hmore said hsaid)
  | active hello heard said hst' hp hq hsaid =>
    exact .active hello heard (said ++ [m]) hst' hp (hqueue said hq) (hmore said hsaid)

/-- What a handler of the client keeps: the loop goes on in order, and in any case the
record can be trusted. -/
def Client.Keeps (name : Bytes) (r : Bool × Client) : Prop :=
  (r.1 = true → r.2.InOrder name) ∧ r.2.Recorded name

lemma Client.InOrder.keeps (h : client.InOrder name) (ok : Bool) :
    Client.Keeps name (ok, client) :=
  ⟨fun _ => h, h.recorded⟩

lemma Client.Recorded.stops (h : client.Recorded name) : Client.Keeps name (false, client) :=
  ⟨fun hok => absurd hok Bool.false_ne_true, h⟩

/-! ### The read handler -/

lemma Client.Recorded.cut (h : client.Recorded name) (hnone : client.conn.complaints = [])
    {m : Message} {rest : Bytes} (hp : parseFrame client.conn.inBuffer = .frame m rest) :
    (client.withConn (client.conn.cut m rest)).Recorded name where
  stream := h.stream.cut hp
  complaints := by
    show ∀ x ∈ client.conn.complaints, _
    simp [hnone]
  told := h.told

theorem readMessages_keeps (hname : client.name = name) (hrec : client.Recorded name)
    (hnone : client.conn.complaints = [])
    (hphase : ClientPhase name client.conn ∨ client.conn.state = .closed) :
    Client.Keeps name client.readMessages := by
  induction hn : client.conn.inBuffer.length using Nat.strong_induction_on generalizing client with
  | h n ih =>
    have hst : client.conn.state ≠ .connectionError := by
      rcases hphase with h | h
      · exact h.state_ne.2
      · simp [h]
    cases hp : parseFrame client.conn.inBuffer with
    | incomplete =>
      rw [Client.readMessages_incomplete hp hst]
      rcases hphase with h | h
      · exact Client.InOrder.keeps ⟨hname, hrec.stream, hnone, h⟩ _
      · have hstop : decide (client.conn.state ≠ .closed) = false := by simp [h]
        rw [hstop]
        exact hrec.stops
    | illegal =>
      rw [Client.readMessages_illegal hp]
      exact Client.Recorded.stops (hrec.rejected hnone hp)
    | frame m rest =>
      have hcut : (client.withConn (client.conn.cut m rest)).Recorded name := hrec.cut hnone hp
      have hlt : rest.length < n := by
        rw [← hn]
        exact frameCodec.rest_length_lt hp
      have hreject : ∀ {x : Complaint}, x.Justified (client.conn.cut m rest) →
          Client.Keeps name (false, (client.withConn (client.conn.cut m rest)).withConn
            ((client.conn.cut m rest).reject x)) := fun hx =>
        Client.Recorded.stops (hcut.rejected hnone hx)
      -- only a closed connection has no phase, and it accepts nothing
      have hof : ∀ {st : ConnectionState}, st ≠ .closed → client.conn.state = st →
          ClientPhase name client.conn := fun hne h => hphase.resolve_right (fun h' => hne (h ▸ h'))
      rw [Client.readMessages_frame hp hst]
      have hreaction := handleNetworkMessage_reaction (client.withConn (client.conn.cut m rest)) m
      rcases hr : (client.withConn (client.conn.cut m rest)).handleNetworkMessage m
        with ⟨ok, client'⟩
      rw [hr] at hreaction
      cases hreaction with
      | greet hwait htype =>
        obtain ⟨hparsed, said, hqueued, hsaid⟩ :=
          (hof (by decide) hwait).of_introduced (Or.inr hwait)
        refine ih rest.length hlt hname (hcut.of_fields rfl rfl rfl rfl rfl rfl rfl hcut.complaints)
          hnone (Or.inl (.active m [] said rfl ?_ hqueued hsaid)) rfl
        show client.conn.parsed ++ [m] = [m]
        rw [hparsed]
        rfl
      | line hact htype =>
        obtain ⟨⟨hello, heard, hparsed⟩, said, hqueued, hsaid⟩ :=
          (hof (by decide) hact).of_active hact
        refine ih rest.length hlt hname hcut hnone
          (Or.inl (.active hello (heard ++ [m]) said hact ?_ hqueued hsaid)) rfl
        show client.conn.parsed ++ [m] = hello :: (heard ++ [m])
        rw [hparsed]
        rfl
      | dismissed hact htype hempty =>
        exact Client.Recorded.stops (hcut.of_fields rfl rfl rfl rfl rfl rfl rfl hcut.complaints)
      | notHello hwait htype =>
        obtain ⟨hparsed, -⟩ := (hof (by decide) hwait).of_introduced (Or.inr hwait)
        refine hreject ⟨m, ?_, htype⟩
        show client.conn.parsed ++ [m] = [m]
        rw [hparsed]
        rfl
      | closePayload hact htype hpayload =>
        obtain ⟨hello, heard, hparsed⟩ := ((hof (by decide) hact).of_active hact).1
        refine hreject ⟨hello, heard, m, ?_, htype, hpayload⟩
        show client.conn.parsed ++ [m] = hello :: heard ++ [m]
        rw [hparsed]
      | notBroadcast hact htype hbroadcast =>
        obtain ⟨hello, heard, hparsed⟩ := ((hof (by decide) hact).of_active hact).1
        refine hreject ⟨hello, heard, m, ?_, htype, hbroadcast⟩
        show client.conn.parsed ++ [m] = hello :: heard ++ [m]
        rw [hparsed]
      | unexpected hwait hact => exact hreject trivial

theorem handleRead_keeps (h : client.InOrder name) (replies : List RecvReply) :
    Client.Keeps name (client.handleReadNetworkMessageEvent replies) := by
  have hstream := h.stream.absorb (recvData replies)
  have hingested : ((client.call (.recv client.conn.fd)).withConn
      (client.conn.ingested replies)).Recorded name :=
    { stream := hstream.congr rfl rfl rfl rfl rfl rfl rfl
      complaints := by
        show ∀ x ∈ client.conn.complaints, _
        simp [h.complaints]
      told := h.phase.told }
  rw [Client.handleRead_eq]
  by_cases hfail : recvEnd replies = .failed
  · rw [if_pos hfail]
    exact hingested.stops
  · rw [if_neg hfail]
    refine readMessages_keeps h.named hingested h.complaints ?_
    cases hend : recvEnd replies with
    | failed => exact absurd hend hfail
    | eof =>
      right
      show (recvEnd replies).state client.conn.state = .closed
      rw [hend]
      rfl
    | wouldBlock =>
      left
      refine h.phase.congr ?_ rfl rfl
      show (recvEnd replies).state client.conn.state = client.conn.state
      rw [hend]
      rfl

/-! ### The other handlers -/

lemma fdMod_keeps (h : client.InOrder name) (events : EventMask) :
    Client.Keeps name (client.fdMod events) :=
  ⟨fun _ => ⟨h.named, h.stream, h.complaints, h.phase⟩, h.recorded⟩

theorem handleSend_keeps (h : client.InOrder name) (replies : List SendReply) :
    Client.Keeps name (client.handleSendNetworkMessageEvent replies) := by
  obtain ⟨hstream, hqueued, -⟩ := connectionFlushOutBuffer_stream h.stream replies
  obtain ⟨hstate, hparsed, hcomplaints, -⟩ := connectionFlushOutBuffer_frame client.conn replies
  rw [Client.handleSendNetworkMessageEvent]
  have hconn : (client.call (.send client.conn.fd)).conn = client.conn := rfl
  rw [hconn]
  rcases hr : connectionFlushOutBuffer client.conn replies with ⟨ok, conn⟩
  simp only [hr] at hstream hqueued hstate hparsed hcomplaints ⊢
  have hnone : conn.complaints = [] := hcomplaints.trans h.complaints
  have hrec : ((client.call (.send client.conn.fd)).withConn conn).Recorded name :=
    { stream := hstream
      complaints := by
        show ∀ x ∈ conn.complaints, _
        simp [hnone]
      told := by
        show Begins _ _ conn.queued
        rw [hqueued]
        exact h.phase.told }
  cases ok with
  | false => exact hrec.stops
  | true =>
    have hphase : ClientPhase name conn := h.phase.congr (hstate rfl) hparsed hqueued
    dsimp only
    have horder : ((client.call (.send client.conn.fd)).withConn conn).InOrder name :=
      ⟨h.named, hstream, hnone, hphase⟩
    by_cases hout : conn.outBuffer ≠ []
    · rw [if_pos hout]
      exact horder.keeps true
    · rw [if_neg hout]
      by_cases hquit : (client.call (.send client.conn.fd)).clientQuitting = true
      · rw [if_pos hquit]
        exact Client.Recorded.stops hrec
      · rw [if_neg hquit]
        apply fdMod_keeps
        by_cases hhello : conn.state = .sendingClientHello
        · rw [if_pos hhello]
          obtain ⟨hp, said, hq, hsaid⟩ := hphase.of_introduced (Or.inl hhello)
          exact ⟨h.named, hstream.congr rfl rfl rfl rfl rfl rfl rfl, hnone,
            .introduced said (Or.inr rfl) hp hq hsaid⟩
        · rw [if_neg hhello]
          exact horder

lemma queueClientHello_keeps (hname : client.name = name) (hstream : client.conn.Stream)
    (hnone : client.conn.complaints = []) (hst : client.conn.state = .sendingClientHello)
    (hparsed : client.conn.parsed = []) (hqueued : client.conn.queued = []) :
    Client.Keeps name client.queueClientHello := by
  have hrec : client.Recorded name :=
    { stream := hstream
      complaints := by simp [hnone]
      told := Or.inl hqueued }
  rw [Client.queueClientHello, protocolQueueMessage_eq, hname]
  by_cases hlegal : protocolPayloadLengthIsLegal (Message.of .clientHello name).payload.length
  · rw [if_pos hlegal]
    have hq : (client.conn.enqueue (clientGreeting name)).queued = [clientGreeting name] := by
      show client.conn.queued ++ [clientGreeting name] = _
      rw [hqueued]
      rfl
    have horder : (client.withConn (client.conn.enqueue (clientGreeting name))).InOrder name :=
      ⟨hname, hstream.enqueue hlegal, hnone, .introduced [] (Or.inl hst) hparsed hq (by simp)⟩
    rw [← hname] at horder ⊢
    exact horder.keeps true
  · rw [if_neg hlegal]
    have hreject : (client.withConn (client.conn.reject
        (.payloadTooLarge (Message.of .clientHello name).payload.length))).Recorded name :=
      Connection.Record.rejected hrec hnone trivial
    rw [← hname] at hreject ⊢
    exact hreject.stops

theorem handleConnectionSuccess_keeps (h : client.InOrder name)
    (hst : client.conn.state = .connecting) (reply : ConnectReply) :
    Client.Keeps name (client.handleConnectionSuccessEvent reply) := by
  obtain ⟨hparsed, hqueued⟩ : client.conn.parsed = [] ∧ client.conn.queued = [] := by
    cases h.phase with
    | connecting _ hparsed hqueued => exact ⟨hparsed, hqueued⟩
    | introduced said hst' => simp [hst] at hst'
    | active hello heard said hst' => simp [hst] at hst'
  have hstream : ∀ st : ConnectionState,
      Connection.Stream { client.conn with state := st } := fun st =>
    h.stream.congr rfl rfl rfl rfl rfl rfl rfl
  cases reply with
  | failed =>
    have hrec : (client.withConn { client.conn with state := .connectionError }).Recorded name :=
      h.recorded.of_fields rfl rfl rfl rfl rfl rfl rfl h.recorded.complaints
    exact hrec.stops
  | established =>
    have hhello : Client.Keeps name
        (client.withConn { client.conn with state := .sendingClientHello }).queueClientHello :=
      queueClientHello_keeps h.named (hstream _) h.complaints rfl hparsed hqueued
    show Client.Keeps name (match (client.withConn
        { client.conn with state := .sendingClientHello }).queueClientHello with
      | (false, client) => (false, client)
      | (true, client) => client.fdMod (epollOut ||| epollRdhup))
    rcases hr : (client.withConn
      { client.conn with state := .sendingClientHello }).queueClientHello with ⟨ok, client'⟩
    rw [hr] at hhello
    cases ok with
    | false => exact hhello
    | true => exact fdMod_keeps (hhello.1 rfl) _

lemma print_inOrder (h : client.InOrder name) (line : Bytes) : (client.print line).InOrder name :=
  ⟨h.named, h.stream, h.complaints, h.phase⟩

lemma queueMessage_keeps (h : client.InOrder name) (hst : client.conn.state ≠ .connecting)
    {m : Message} (hm : FromClient m) {r : Bool × Connection}
    (hr : protocolQueueMessage client.conn m = r) :
    (r.1 = true → (client.withConn r.2).InOrder name) ∧ (client.withConn r.2).Recorded name := by
  rw [protocolQueueMessage_eq] at hr
  by_cases hlegal : protocolPayloadLengthIsLegal m.payload.length
  · rw [if_pos hlegal] at hr
    have horder : (client.withConn (client.conn.enqueue m)).InOrder name :=
      ⟨h.named, h.stream.enqueue hlegal, h.complaints, h.phase.enqueue hst hm⟩
    rw [← hr]
    exact ⟨fun _ => horder, horder.recorded⟩
  · rw [if_neg hlegal] at hr
    rw [← hr]
    exact ⟨fun hok => absurd hok Bool.false_ne_true, h.recorded.rejected h.complaints trivial⟩

theorem handleReadStdin_keeps (h : client.InOrder name) (line : Option Bytes) :
    Client.Keeps name (client.handleReadStdinEvent line) := by
  cases line with
  | none => exact h.keeps false
  | some line =>
    rw [Client.handleReadStdinEvent]
    by_cases hnil : line = []
    · rw [if_pos hnil]
      exact h.keeps true
    · rw [if_neg hnil]
      by_cases hquit : line = ascii "/quit"
      · rw [if_pos hquit]
        by_cases htcp : ¬client.tcpConnectionIsEstablished
        · rw [if_pos htcp]
          exact (print_inOrder h _).keeps false
        · rw [if_neg htcp]
          have hst : client.conn.state ≠ .connecting := (not_not.mp htcp).2.2
          have hprint := print_inOrder h (ascii "[client] exiting.")
          rw [Client.handleQuitCommand]
          rcases hr : protocolQueueMessage (client.print (ascii "[client] exiting.")).conn
            (Message.of .closeCon []) with ⟨ok, conn⟩
          obtain ⟨horder, hrec⟩ := queueMessage_keeps hprint hst (Or.inr rfl) hr
          cases ok with
          | false => exact hrec.stops
          | true =>
            have horder := horder rfl
            have hquitting : ({ client.print (ascii "[client] exiting.") with
                conn := conn, clientQuitting := true } : Client).InOrder name :=
              ⟨horder.named, horder.stream, horder.complaints, horder.phase⟩
            exact fdMod_keeps hquitting _
      · rw [if_neg hquit]
        by_cases hact : client.conn.state ≠ .active
        · rw [if_pos hact]
          exact h.keeps true
        · rw [if_neg hact]
          have hst : client.conn.state ≠ .connecting := by
            rw [not_not.mp hact]
            decide
          by_cases hlong : ¬protocolPayloadLengthIsLegal line.length
          · rw [if_pos hlong]
            exact (print_inOrder h _).keeps true
          · rw [if_neg hlong]
            dsimp only
            rcases hr : protocolQueueMessage client.conn (Message.of .chat line) with ⟨ok, conn⟩
            obtain ⟨horder, hrec⟩ := queueMessage_keeps h hst (Or.inl rfl) hr
            cases ok with
            | false => exact hrec.stops
            | true =>
              have horder := horder rfl
              have hprinted : ({ client with
                  conn := conn
                  stdout := formatPrintMessage client.stdout client.name (Message.of .chat line) } :
                  Client).InOrder name :=
                ⟨horder.named, horder.stream, horder.complaints, horder.phase⟩
              exact fdMod_keeps hprinted _

/-! ### Runs -/

theorem clientHandleEvent_keeps (h : client.InOrder name) (e : EpollEvent) (r : ClientReplies) :
    Client.Keeps name (client.handleEvent e r) := by
  have h' : ({ client with kernel := { client.kernel with ctlScript := r.ctl } } : Client).InOrder
      name := ⟨h.named, h.stream, h.complaints, h.phase⟩
  rw [Client.handleEvent]
  split_ifs with hquit hconnect hsend hread hstdin
  · exact h'.keeps true
  · exact handleConnectionSuccess_keeps h' (of_decide_eq_true hconnect).2.1 r.connect
  · exact handleSend_keeps h' r.sends
  · exact handleRead_keeps h' r.recvs
  · exact handleReadStdin_keeps h' r.line
  · exact h'.keeps true

lemma startedClient_keeps (name : Bytes) (fd epollFd : Fd) (immediately : Bool)
    (ctl : List (Option Errno)) :
    Client.Keeps name (createdClient name fd epollFd immediately ctl).enterLoop := by
  have hstream : (clientConnection fd immediately).Stream :=
    Connection.Stream.fresh rfl rfl rfl rfl rfl rfl rfl
  rw [Client.enterLoop]
  cases immediately with
  | false =>
    have hst : (clientConnection fd false).state ≠ .sendingClientHello :=
      show ConnectionState.connecting ≠ .sendingClientHello by decide
    rw [if_neg (fun h => hst h.1)]
    exact Client.InOrder.keeps ⟨rfl, hstream, rfl, .connecting rfl rfl rfl⟩ true
  | true =>
    have hhello : Client.Keeps name (createdClient name fd epollFd true ctl).queueClientHello :=
      queueClientHello_keeps rfl hstream rfl rfl rfl rfl
    rw [if_pos ⟨rfl, rfl⟩]
    rcases hr : (createdClient name fd epollFd true ctl).queueClientHello with ⟨ok, client'⟩
    rw [hr] at hhello
    cases ok with
    | false => exact hhello
    | true => exact fdMod_keeps (hhello.1 rfl) _

lemma startedClient_received (name : Bytes) (fd epollFd : Fd) (immediately : Bool)
    (ctl : List (Option Errno)) :
    (startedClient (createdClient name fd epollFd immediately ctl)).client.conn.received = [] := by
  cases immediately with
  | false => rfl
  | true =>
    show (createdClient name fd epollFd true ctl).enterLoop.2.conn.received = []
    rw [Client.enterLoop, if_pos ⟨rfl, rfl⟩, Client.queueClientHello, protocolQueueMessage_eq]
    split_ifs <;> rfl

end Phases

lemma clientLoopStep_replies {l l' : ClientLoop} {r : ClientReplies}
    (h : clientLoopStep l (.replies r) = some l') :
    ∃ e es ok, l.phase = .handling (e :: es) ∧ l.client.handleEvent e r = (ok, l'.client) ∧
      l'.phase = if ok then .handling es else .stopped := by
  cases hphase : l.phase with
  | waiting => simp [clientLoopStep, hphase] at h
  | stopped => simp [clientLoopStep, hphase] at h
  | handling es =>
    cases es with
    | nil => simp [clientLoopStep, hphase] at h
    | cons e es =>
      rw [clientLoopStep, hphase] at h
      rcases hev : l.client.handleEvent e r with ⟨ok, client⟩
      cases ok with
      | true =>
        simp only [hev] at h
        cases h
        exact ⟨e, es, true, rfl, hev, rfl⟩
      | false =>
        simp only [hev] at h
        cases h
        exact ⟨e, es, false, rfl, hev, rfl⟩

lemma clientLoopStep_cases {l l' : ClientLoop} {i : ClientInput}
    (h : clientLoopStep l i = some l') :
    l.Running ∧ (l'.client = l.client ∨ ∃ r e es ok, i = .replies r ∧
      l.phase = .handling (e :: es) ∧ l.client.handleEvent e r = (ok, l'.client) ∧
      l'.phase = if ok then .handling es else .stopped) := by
  unfold ClientLoop.Running
  cases i with
  | events es =>
    rw [clientLoopStep] at h
    split_ifs at h with hw
    cases h
    exact ⟨by simp [hw.1], Or.inl rfl⟩
  | waitFailed err =>
    by_cases hw : l.phase = .waiting
    · rw [clientLoopStep, if_pos hw] at h
      cases h
      exact ⟨by simp [hw], Or.inl rfl⟩
    · rw [clientLoopStep, if_neg hw] at h
      cases h
  | endOfBatch =>
    by_cases hw : l.phase = .handling []
    · rw [clientLoopStep, if_pos hw] at h
      cases h
      exact ⟨by simp [hw], Or.inl rfl⟩
    · rw [clientLoopStep, if_neg hw] at h
      cases h
  | replies r =>
    obtain ⟨e, es, ok, hphase, hev, hphase'⟩ := clientLoopStep_replies h
    exact ⟨by simp [hphase], Or.inr ⟨r, e, es, ok, rfl, hphase, hev, hphase'⟩⟩

/-- In every reachable state the record of a client can be trusted, and as long as its loop
goes on it is in order. -/
theorem client_reach_keeps {name : Bytes} {P : ClientLoop → ClientInput → Prop} {l : ClientLoop}
    (hr : (clientSystem name).Reach P l) :
    (l.Running → l.client.InOrder name) ∧ l.client.Recorded name := by
  refine System.Reach.invariant
    (I := fun l => (l.Running → l.client.InOrder name) ∧ l.client.Recorded name) ?_ ?_ hr
  · rintro l ⟨fd, epollFd, immediately, ctl, rfl⟩
    have hkeeps := startedClient_keeps name fd epollFd immediately ctl
    refine ⟨?_, hkeeps.2⟩
    intro hrun
    apply hkeeps.1
    by_contra hstop
    exact hrun (if_neg hstop)
  · rintro l i l' ⟨horder, hrec⟩ - hstep
    obtain ⟨hrun, heq | ⟨r, e, es, ok, -, -, hev, hphase⟩⟩ := clientLoopStep_cases hstep
    · rw [heq]
      exact ⟨fun _ => horder hrun, hrec⟩
    · have hkeeps := clientHandleEvent_keeps (horder hrun) e r
      rw [hev] at hkeeps
      refine ⟨?_, hkeeps.2⟩
      intro hrun'
      cases ok with
      | true => exact hkeeps.1 rfl
      | false => exact absurd hphase hrun'

end Chatroom
