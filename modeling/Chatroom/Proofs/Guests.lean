import Chatroom.Proofs.Membership

/-!
# A client that stays remains connected

A client whose user stays, and none of whose calls fails, leaves its loop only when its host
dismisses it or its stream ends. A genuine host dismisses its guests only when it closes the room,
and no genuine guest is removed before.
-/

namespace Chatroom
open Relation Transition

/-! ### The socket of a client -/

/-- The socket of the client is registered. -/
def Client.Enrolled (client : Client) : Prop :=
  client.kernel.mask client.conn.fd ≠ none

section Clients

variable {client client' : Client} {name : Bytes} {chats : List Bytes}

lemma Client.Enrolled.congr (h : client.Enrolled) (hfd : client'.conn.fd = client.conn.fd)
    (hkernel : ∀ fd, client'.kernel.mask fd = client.kernel.mask fd) : client'.Enrolled := by
  unfold Client.Enrolled
  rw [hfd, hkernel]
  exact h

lemma Client.Enrolled.fdMod (h : client.Enrolled) (events : EventMask) :
    (client.fdMod events).2.Enrolled := by
  intro hnone
  exact h ((epollFdMod_registered client.kernel client.conn.fd events client.conn.fd).mp hnone)

lemma queueClientHello_enrolled (h : client.Enrolled) (events : EventMask) :
    (match client.queueClientHello with
      | (false, client) => (false, client)
      | (true, client) => client.fdMod events).2.Enrolled := by
  rw [Client.queueClientHello, protocolQueueMessage_eq]
  have hqueued : (client.withConn
      (client.conn.enqueue (clientGreeting client.name))).Enrolled := h
  split_ifs
  · exact hqueued.fdMod events
  · exact h

lemma connectionFlushOutBuffer_fd (c : Connection) (replies : List SendReply) :
    (connectionFlushOutBuffer c replies).2.fd = c.fd := by
  rw [connectionFlushOutBuffer_eq]
  split_ifs <;> rfl

lemma clientHandleSend_enrolled (h : client.Enrolled) (replies : List SendReply) :
    (client.handleSendNetworkMessageEvent replies).2.Enrolled := by
  have hfd := connectionFlushOutBuffer_fd client.conn replies
  have hconn : (client.call (.send client.conn.fd)).conn = client.conn := rfl
  rw [Client.handleSendNetworkMessageEvent, hconn]
  rcases hr : connectionFlushOutBuffer client.conn replies with ⟨ok, conn⟩
  rw [hr] at hfd
  have hflushed : ((client.call (.send client.conn.fd)).withConn conn).Enrolled :=
    h.congr hfd (fun _ => rfl)
  cases ok with
  | false => exact hflushed
  | true =>
    dsimp only
    split_ifs
    · exact hflushed
    · exact hflushed.congr rfl (fun _ => rfl)
    · have hwaits : ((client.call (.send client.conn.fd)).withConn
          { conn with state := .waitingForServerHello }).Enrolled := hflushed
      exact hwaits.fdMod _
    · exact hflushed.fdMod _

lemma clientHandleRead_enrolled (h : client.Enrolled)
    (hst : client.conn.state ≠ .connectionError) (replies : List RecvReply) :
    (client.handleReadNetworkMessageEvent replies).2.Enrolled := by
  rw [Client.handleRead_eq]
  split_ifs with hfail
  · exact h
  · have hread : ((client.call (.recv client.conn.fd)).withConn
        (client.conn.ingested replies)).conn.state ≠ .connectionError := by
      show (recvEnd replies).state client.conn.state ≠ .connectionError
      cases hend : recvEnd replies with
      | failed => exact absurd hend hfail
      | eof => exact ConnectionState.noConfusion
      | wouldBlock => exact hst
    obtain ⟨hover, -⟩ := clientReadMessages_readLoopKeeps hread
    exact h.congr hover.fd (fun fd => by rw [hover.kernel]; rfl)

lemma clientHandleStdin_enrolled (h : client.Enrolled) (line : Option Bytes) :
    (client.handleReadStdinEvent line).2.Enrolled := by
  cases line with
  | none => exact h
  | some line =>
    rw [Client.handleReadStdinEvent]
    split_ifs with hnil hcommand htcp hactive hlong
    · exact h
    · have hlegal : protocolPayloadLengthIsLegal (Message.of .closeCon []).payload.length := by
        decide
      rw [Client.handleQuitCommand, protocolQueueMessage_eq, if_pos hlegal]
      have hquits : Client.Enrolled { client.print (ascii "[client] exiting.") with
          conn := client.conn.enqueue (Message.of .closeCon []), clientQuitting := true } := h
      exact hquits.fdMod _
    · exact h
    · exact h
    · have hlegal : protocolPayloadLengthIsLegal (Message.of .chat line).payload.length := hlong
      dsimp only
      rw [protocolQueueMessage_eq, if_pos hlegal]
      have hsaid : Client.Enrolled { client with
          conn := client.conn.enqueue (Message.of .chat line)
          stdout := formatPrintMessage client.stdout client.name (Message.of .chat line) } := h
      exact hsaid.fdMod _
    · exact h

theorem clientHandleEvent_enrolled (h : client.Enrolled)
    (hst : client.conn.state ≠ .connectionError) (e : EpollEvent) (r : ClientReplies) :
    (client.handleEvent e r).2.Enrolled := by
  have htuned : (client.tuned r.ctl).Enrolled := h
  rw [clientHandleEvent_eq]
  split_ifs
  · exact htuned
  · cases r.connect with
    | failed => exact htuned
    | established =>
      have hconnected : ((client.tuned r.ctl).withConn
          { client.conn with state := .sendingClientHello }).Enrolled := htuned
      exact queueClientHello_enrolled hconnected _
  · exact clientHandleSend_enrolled htuned r.sends
  · exact clientHandleRead_enrolled htuned hst r.recvs
  · exact clientHandleStdin_enrolled htuned r.line
  · exact htuned

lemma clientReach_enrolled {l : ClientLoop} (hr : (clientSystem name).Reach System.any l) :
    l.client.Enrolled := by
  refine hr.invariant_of_reach (I := fun l => l.client.Enrolled) ?_ ?_
  · rintro l ⟨fd, epollFd, immediately, ctl, rfl⟩
    have hcreated : (createdClient name fd epollFd immediately ctl).Enrolled := by
      have hfind : ((InterestList.watching [⟨fd, initialSocketEvents
          (clientConnection fd immediately)⟩, ⟨stdinFileno, epollIn⟩]).find fd) ≠ none :=
        InterestList.find_add_ne_none _ _ _
          (Or.inr (InterestList.find_add_ne_none _ _ _ (Or.inl rfl)))
      intro hmask
      exact hfind (Option.map_eq_none_iff.mp hmask)
    show (createdClient name fd epollFd immediately ctl).enterLoop.2.Enrolled
    rw [Client.enterLoop]
    split_ifs
    · exact queueClientHello_enrolled hcreated _
    · exact hcreated
  · intro l i l' hreach henrolled _ hstep
    obtain ⟨hrun, heq | ⟨r, e, es, ok, -, -, hev, -⟩⟩ := clientLoopStep_cases hstep
    · rw [heq]
      exact henrolled
    · have hst := ((client_reach_keeps hreach).1 hrun).phase.state_ne.2
      have h := clientHandleEvent_enrolled henrolled hst e r
      rwa [hev] at h

/-! ### Handlers of a client that stays -/

/-- The host has dismissed the client, or it has sent what the client rejects. -/
def Connection.Dismissed (c : Connection) : Prop :=
  (∃ m ∈ c.parsed, m.type = .closeCon) ∨ ∃ x ∈ c.complaints, x.AgainstServer

/-- The loop of the client goes on and it does not quit, or it was dismissed. -/
def Client.Remains (r : Bool × Client) : Prop :=
  r.1 = true ∧ r.2.clientQuitting = false ∨ r.2.conn.Dismissed

lemma Client.Enrolled.remains (h : client.Enrolled) (hscript : client.kernel.ctlScript = [])
    (hopen : client.clientQuitting = false) (events : EventMask) :
    Client.Remains (client.fdMod events) := by
  obtain ⟨k, hmod, -⟩ := epollFdMod_succeeds hscript h events
  rw [Client.fdMod, hmod]
  exact Or.inl ⟨rfl, hopen⟩

lemma queueClientHello_remains (h : client.Enrolled) (hscript : client.kernel.ctlScript = [])
    (hopen : client.clientQuitting = false)
    (hname : protocolPayloadLengthIsLegal client.name.length) (events : EventMask) :
    Client.Remains (match client.queueClientHello with
      | (false, client) => (false, client)
      | (true, client) => client.fdMod events) := by
  have hlegal : protocolPayloadLengthIsLegal
      (Message.of .clientHello client.name).payload.length := hname
  have hqueued : (client.withConn
      (client.conn.enqueue (clientGreeting client.name))).Enrolled := h
  rw [Client.queueClientHello, protocolQueueMessage_eq, if_pos hlegal]
  exact hqueued.remains hscript hopen events

lemma clientHandleSend_remains (h : client.Enrolled) (hscript : client.kernel.ctlScript = [])
    (hopen : client.clientQuitting = false) {replies : List SendReply}
    (hsends : ∀ reply ∈ replies, reply.harmless = true) :
    Client.Remains (client.handleSendNetworkMessageEvent replies) := by
  have hflush : connectionFlushOutBuffer client.conn replies =
      (true, (connectionFlushOutBuffer client.conn replies).2) := by
    rw [connectionFlushOutBuffer_eq, sendFails_harmless hsends]
    split_ifs <;> rfl
  have hfd := connectionFlushOutBuffer_fd client.conn replies
  have hconn : (client.call (.send client.conn.fd)).conn = client.conn := rfl
  rw [Client.handleSendNetworkMessageEvent, hconn, hflush]
  generalize (connectionFlushOutBuffer client.conn replies).2 = conn at hfd ⊢
  have hflushed : ((client.call (.send client.conn.fd)).withConn conn).Enrolled :=
    h.congr hfd (fun _ => rfl)
  dsimp only
  split_ifs with hout hquit hhello
  · exact Or.inl ⟨rfl, hopen⟩
  · rw [show (client.call (.send client.conn.fd)).clientQuitting = false from hopen] at hquit
    cases hquit
  · have hwaits : ((client.call (.send client.conn.fd)).withConn
        { conn with state := .waitingForServerHello }).Enrolled := hflushed
    exact hwaits.remains hscript hopen _
  · exact hflushed.remains hscript hopen _

lemma clientReadMessages_remains
    (hst : client.conn.state = .waitingForServerHello ∨ client.conn.state = .active)
    (hopen : client.clientQuitting = false) : Client.Remains client.readMessages := by
  induction hn : client.conn.inBuffer.length using Nat.strong_induction_on generalizing client with
  | h n ih =>
    have herror : client.conn.state ≠ .connectionError := by
      rcases hst with hst | hst <;> simp [hst]
    have hrejected : ∀ {c : Connection} {x : Complaint}, x.AgainstServer →
        (c.reject x).Dismissed :=
      fun hx => Or.inr ⟨_, List.mem_append_right _ List.mem_cons_self, hx⟩
    cases hp : parseFrame client.conn.inBuffer with
    | incomplete =>
      have hclosed : client.conn.state ≠ .closed := by
        rcases hst with hst | hst <;> simp [hst]
      rw [Client.readMessages_incomplete hp herror]
      exact Or.inl ⟨decide_eq_true hclosed, hopen⟩
    | illegal =>
      rw [Client.readMessages_illegal hp]
      exact Or.inr (hrejected trivial)
    | frame m rest =>
      have hlt : rest.length < n := by
        rw [← hn]
        exact frameCodec.rest_length_lt hp
      have hmem : m ∈ (client.conn.cut m rest).parsed :=
        List.mem_append_right _ List.mem_cons_self
      rw [Client.readMessages_frame hp herror]
      have hreaction := handleNetworkMessage_reaction (client.withConn (client.conn.cut m rest)) m
      rcases hr : (client.withConn (client.conn.cut m rest)).handleNetworkMessage m
        with ⟨ok, client'⟩
      rw [hr] at hreaction
      cases hreaction with
      | greet hwait htype => exact ih rest.length hlt (Or.inr rfl) hopen rfl
      | line hact htype => exact ih rest.length hlt (Or.inr hact) hopen rfl
      | dismissed hact htype hempty => exact Or.inr (Or.inl ⟨m, hmem, htype⟩)
      | notHello hwait htype => exact Or.inr (hrejected trivial)
      | closePayload hact htype hpayload => exact Or.inr (hrejected trivial)
      | notBroadcast hact htype hbroadcast => exact Or.inr (hrejected trivial)
      | unexpected hwait hact =>
        rcases hst with hst | hst
        · exact absurd hst hwait
        · exact absurd hst hact

lemma clientHandleStdin_remains (h : client.Enrolled) (hscript : client.kernel.ctlScript = [])
    (hopen : client.clientQuitting = false) {line : Bytes} (hline : line ≠ ascii "/quit") :
    Client.Remains (client.handleReadStdinEvent (some line)) := by
  rw [Client.handleReadStdinEvent, if_neg hline]
  split_ifs with hnil hactive hlong
  · exact Or.inl ⟨rfl, hopen⟩
  · exact Or.inl ⟨rfl, hopen⟩
  · have hlegal : protocolPayloadLengthIsLegal (Message.of .chat line).payload.length := hlong
    dsimp only
    rw [protocolQueueMessage_eq, if_pos hlegal]
    have hsaid : Client.Enrolled { client with
        conn := client.conn.enqueue (Message.of .chat line)
        stdout := formatPrintMessage client.stdout client.name (Message.of .chat line) } := h
    exact hsaid.remains hscript hopen _
  · exact Or.inl ⟨rfl, hopen⟩

end Clients

/-- The user of the client stays, and none of its calls fails. -/
def ClientStays (l : ClientLoop) : ClientInput → Prop
  | .replies r => r.ctl = [] ∧ r.connect = .established ∧
    (∀ reply ∈ r.sends, reply.harmless = true) ∧
    (l.reads (.replies r) = true → ∃ line ∈ r.line, line ≠ ascii "/quit")
  | .waitFailed e => e = .eintr
  | .events _ | .endOfBatch => True

section Stays

variable {name : Bytes} {l l' : ClientLoop}

lemma clientHandleEvent_remains {client : Client} (h : client.Enrolled)
    (hopen : client.clientQuitting = false)
    (hname : protocolPayloadLengthIsLegal client.name.length) {e : EpollEvent} {r : ClientReplies}
    (hctl : r.ctl = []) (hconnect : r.connect = .established)
    (hsends : ∀ reply ∈ r.sends, reply.harmless = true)
    (hline : client.readsStdin e → ∃ line ∈ r.line, line ≠ ascii "/quit")
    (hend : recvEnd r.recvs = .wouldBlock) : Client.Remains (client.handleEvent e r) := by
  have htuned : (client.tuned r.ctl).Enrolled := h
  rw [clientHandleEvent_eq]
  split_ifs with hskip hconn hsend hread hstdin
  · exact Or.inl ⟨rfl, hopen⟩
  · rw [hconnect]
    have hconnected : ((client.tuned r.ctl).withConn
        { client.conn with state := .sendingClientHello }).Enrolled := htuned
    exact queueClientHello_remains hconnected hctl hopen hname _
  · exact clientHandleSend_remains htuned hctl hopen hsends
  · have hok : recvEnd r.recvs ≠ .failed := by
      rw [hend]
      decide
    rw [Client.eventIsReadNetworkMessage, Bool.and_eq_true] at hread
    have hst : client.conn.state = .waitingForServerHello ∨ client.conn.state = .active :=
      (of_decide_eq_true hread.2).2.1
    have hsame : ((client.tuned r.ctl).conn.ingested r.recvs).state = client.conn.state := by
      rw [Connection.ingested, hend]
      rfl
    rw [Client.handleRead_eq, if_neg hok]
    refine clientReadMessages_remains ?_ hopen
    show ((client.tuned r.ctl).conn.ingested r.recvs).state = .waitingForServerHello ∨
      ((client.tuned r.ctl).conn.ingested r.recvs).state = .active
    rw [hsame]
    exact hst
  · have hreads : client.readsStdin e :=
      ⟨hopen, eq_false_of_ne_true hconn, eq_false_of_ne_true hsend, eq_false_of_ne_true hread,
        hstdin⟩
    obtain ⟨line, hsome, hcommand⟩ := hline hreads
    rw [Option.mem_def.mp hsome]
    exact clientHandleStdin_remains htuned hctl hopen hcommand
  · exact Or.inl ⟨rfl, hopen⟩

theorem clientLoopStep_remains (hr : (clientSystem name).Reach System.any l)
    (hname : protocolPayloadLengthIsLegal name.length)
    (hopen : l.client.clientQuitting = false) {i : ClientInput} (hi : ClientStays l i)
    (hstep : clientLoopStep l i = some l') :
    l'.Running ∧ l'.client.clientQuitting = false ∨ l'.client.conn.Dismissed ∨
      ∃ r, i = .replies r ∧ recvEnd r.recvs ≠ .wouldBlock := by
  cases i with
  | events es =>
    rw [clientLoopStep] at hstep
    split_ifs at hstep
    cases hstep
    exact Or.inl ⟨Phase.noConfusion, hopen⟩
  | waitFailed e =>
    have he : e = .eintr := hi
    rw [clientLoopStep, if_pos he] at hstep
    split_ifs at hstep
    cases hstep
    exact Or.inl ⟨Phase.noConfusion, hopen⟩
  | endOfBatch =>
    rw [clientLoopStep] at hstep
    split_ifs at hstep
    cases hstep
    exact Or.inl ⟨Phase.noConfusion, hopen⟩
  | replies r =>
    by_cases hend : recvEnd r.recvs = .wouldBlock
    · obtain ⟨e, es, ok, hphase, hev, hphase'⟩ := clientLoopStep_replies hstep
      obtain ⟨hctl, hconnect, hsends, hline⟩ := hi
      have horder := (client_reach_keeps hr).1 (clientLoopStep_cases hstep).1
      have hread : l.client.readsStdin e → ∃ line ∈ r.line, line ≠ ascii "/quit" := by
        intro hreads
        apply hline
        rw [ClientLoop.reads, ClientLoop.nextEvent, hphase]
        exact decide_eq_true hreads
      have hremains := clientHandleEvent_remains (clientReach_enrolled hr) hopen
        (by rw [horder.named]; exact hname) hctl hconnect hsends hread hend
      rw [hev] at hremains
      rcases hremains with ⟨hok, hstays⟩ | hdismissed
      · left
        have hok : ok = true := hok
        rw [hok] at hphase'
        refine ⟨?_, hstays⟩
        rw [ClientLoop.Running, hphase']
        exact Phase.noConfusion
      · exact Or.inr (Or.inl hdismissed)
    · exact Or.inr (Or.inr ⟨r, rfl, hend⟩)

end Stays

/-! ### Guests of an open room -/

/-- The user of client `n` stays, none of its calls fails, and it is told that its stream has
ended or is broken only when the host has left its loop or has released the connection. -/
def GuestStays (peer : ℕ → ℕ) (n : ℕ) (net : Network) : NetworkInput → Prop
  | .client m i => m = n → ClientStays (net.clients n) i ∧
      ∀ r, i = .replies r → recvEnd r.recvs ≠ .wouldBlock →
        ¬net.server.Running ∨ ∃ d ∈ net.server.server.departed, peer d.conn.serial = n
  | .server _ => True

section Kept

variable {host : Bytes} {names : ℕ → Bytes} {peer : ℕ → ℕ} {net net' : Network} {n : ℕ}

lemma Effect.closing {who : Option ℕ} {s t : Server} (h : Effect who s t)
    (hs : s.serverClosing = true) : t.serverClosing = true := by
  cases h <;> first | exact hs | rfl

lemma serverLoopStep_open {l l' : Loop} {i : LoopInput}
    (hr : (serverSystem host).Reach System.any l) (hstep : (serverSystem host).step l i l')
    (hrun : l'.Running) (hopen : l'.server.serverClosing = false) :
    l.Running ∧ l.server.serverClosing = false := by
  obtain ⟨hadm, hstep⟩ := hstep
  obtain ⟨hrunning, heq | ⟨r, e, es, rfl, -, -, hev⟩⟩ := serverLoopStep_running hstep hrun
  · rw [heq] at hopen
    exact ⟨hrunning, hopen⟩
  · refine ⟨hrunning, ?_⟩
    by_contra hclosing
    have hdistinct := (reach_inv hr hrunning).sound.registry.distinct
    obtain ⟨who, heff⟩ := (handleEvent_true hdistinct hadm hev).effects
    have hclosed := heff.preserves (I := fun s => s.serverClosing = true)
      (fun _ _ hs heffect => heffect.closing hs) (Bool.not_eq_false _ ▸ hclosing)
    rw [hopen] at hclosed
    cases hclosed

/-- A genuine host dismisses its guests only when it closes the room. -/
lemma Connection.Dismissed.closing {P : Network → NetworkInput → Prop}
    (hr : (networkSystem host names peer).Reach P net) (hrun : net.server.Running)
    (h : (net.clients n).client.conn.Dismissed) : net.server.server.serverClosing = true := by
  obtain ⟨hserver, hclients, hfifo⟩ := network_components hr
  have hclient := (client_reach_keeps (hclients n)).2
  -- what the client has received was sent on some connection, if it was anything
  obtain ⟨c, hrec, hprefix, hknown⟩ : ∃ c : Connection, c.Recorded host ∧
      (net.clients n).client.conn.received <+: c.sent ∧
      (c.queued = [] ∨ net.server.server.Knows c) := by
    rcases hfifo.downstream n with hnil | ⟨c, hc, -, hprefix⟩
    · refine ⟨{ fd := 0, state := .closed }, ?_, by rw [hnil], Or.inl rfl⟩
      exact ⟨Connection.Stream.fresh rfl rfl rfl rfl rfl rfl rfl, by simp, Or.inl rfl⟩
    · exact ⟨c, reach_recorded hserver c hc, hprefix, Or.inr hc⟩
  rcases h with ⟨m, hm, htype⟩ | ⟨x, hx, hagainst⟩
  · obtain ⟨rest, hqueued, -, -⟩ := parsed_prefix_of_received hrec.stream hclient.stream hprefix
    have hmem : m ∈ c.queued.map Message.framed := by
      rw [hqueued]
      exact List.mem_append_left _ hm
    obtain ⟨bye, hbye, rfl⟩ := List.mem_map.mp hmem
    have hc := hknown.resolve_left (List.ne_nil_of_mem hbye)
    by_contra hopen
    exact reach_undismissed hserver hrun (eq_false_of_ne_true hopen) c hc bye hbye htype
  · exact absurd hagainst (no_complaint_against_server hrec hclient hprefix x hx)

end Kept

lemma NetworkInput.NoFailureNoQuit.guestStays {n : ℕ} {i : NetworkInput} (h : i.NoFailureNoQuit n)
    (peer : ℕ → ℕ) (net : Network) : GuestStays peer n net i := by
  match i with
  | .server _ => trivial
  | .client m (.events _) | .client m .endOfBatch =>
    exact fun _ => ⟨trivial, fun r hr => by cases hr⟩
  | .client m (.waitFailed e) => exact fun hm => ⟨h hm, fun r hr => by cases hr⟩
  | .client m (.replies r) =>
    intro hm
    obtain ⟨hctl, hconnect, hsends, hline, hend⟩ := h hm
    refine ⟨⟨hctl, hconnect, hsends, ?_⟩, ?_⟩
    · intro _
      obtain ⟨line, hsome, hcommand⟩ := (Option.any_eq_true _ _).mp hline
      exact ⟨line, hsome, of_decide_eq_true hcommand⟩
    · intro r' hr' hne
      cases hr'
      exact absurd hend hne

/-- While the host runs and its room is open, a guest whose user does not leave
and whose calls do not fail is connected at both ends. -/
theorem remaining_client_stays_connected {host : Bytes} {names : ℕ → Bytes} {peer : ℕ → ℕ}
    {net net' : Network}
    {n : ℕ} (hnames : ∀ m, names m ≠ []) (hname : protocolPayloadLengthIsLegal (names n).length)
    (hr : (networkSystem host names peer).Reach (EndsOnlyWhenLeft peer) net)
    (hlistens : (net.clients n).Running) (hstays : (net.clients n).client.clientQuitting = false)
    (hp : (networkSystem host names peer).Path
      (fun t i => EndsOnlyWhenLeft peer t i ∧ GuestStays peer n t i) net net')
    (hrun : net'.server.Running) (hopen : net'.server.server.serverClosing = false) :
    (net'.clients n).Running ∧ (net'.clients n).client.clientQuitting = false ∧
      ∀ c, net'.server.server.Knows c → peer c.serial = n →
        c ∈ net'.server.server.connections := by
  have hr' : (networkSystem host names peer).Reach (EndsOnlyWhenLeft peer) net' :=
    hr.path (hp.mono fun _ _ h => h.1)
  have hkept : net'.server.Running → net'.server.server.serverClosing = false →
      (net'.clients n).Running ∧ (net'.clients n).client.clientQuitting = false := by
    refine hr.preserves (I := fun t => t.server.Running → t.server.server.serverClosing = false →
      (t.clients n).Running ∧ (t.clients n).client.clientQuitting = false)
      (fun _ _ h => h.1) ?_ hp (fun _ _ => ⟨hlistens, hstays⟩)
    rintro t i u ht hkept ⟨hends, hguest⟩ hstep hrun hopen
    have hu := ht.snoc hends hstep
    obtain ⟨hserver, hclients, -⟩ := network_components ht
    obtain ⟨hstep, -⟩ := hstep
    cases i with
    | server i =>
      obtain ⟨hwas, hwasOpen⟩ := serverLoopStep_open hserver hstep.1 hrun hopen
      rw [hstep.2]
      exact hkept hwas hwasOpen
    | client m i =>
      obtain ⟨hclient, heq, hothers⟩ := hstep
      rw [heq] at hrun hopen
      obtain ⟨-, hwasStaying⟩ := hkept hrun hopen
      by_cases hm : m = n
      · subst hm
        obtain ⟨hi, hstream⟩ := hguest rfl
        rcases clientLoopStep_remains (hclients m) hname hwasStaying hi hclient with
          hremains | hdismissed | ⟨r, hreplies, hend⟩
        · exact hremains
        · have hclosing := hdismissed.closing hu (heq ▸ hrun)
          rw [heq, hopen] at hclosing
          cases hclosing
        · rcases hstream r hreplies hend with hstopped | ⟨d, hd, hpeer⟩
          · exact absurd hrun hstopped
          · have hquit := network_goneHaveQuit hnames ht hrun d hd
            rw [hpeer, hwasStaying] at hquit
            exact absurd (hquit (hkept hrun hopen).1) Bool.false_ne_true
      · rw [hothers n (fun h => hm h.symm)]
        exact hkept hrun hopen
  obtain ⟨hrunning, hstaying⟩ := hkept hrun hopen
  refine ⟨hrunning, hstaying, ?_⟩
  rintro c (hc | ⟨d, hd, rfl⟩) hpeer
  · exact hc
  · have hquit := network_goneHaveQuit hnames hr' hrun d hd
    rw [hpeer, hstaying] at hquit
    exact absurd (hquit hrunning) Bool.false_ne_true

theorem remaining_client_stays_connected_bob : ∃ net : Network,
    ascii "[ann] hi" ∈ (net.clients 1).client.stdout ∧ (net.clients 1).Running ∧
      (net.clients 1).client.clientQuitting = false ∧
      ∀ c, net.server.server.Knows c → c.serial = 1 → c ∈ net.server.server.connections := by
  obtain ⟨net, net', hr, hp, hlistens, hstays, hrun, hopen, -, -, -, hheard⟩ := two_guests_stay
  have hp' := hp.mono (fun t i hi =>
    (⟨hi.endsOnlyWhenLeft id t, hi.guestStays id t⟩ :
      EndsOnlyWhenLeft id t i ∧ GuestStays id 1 t i))
  exact ⟨net', hheard,
    remaining_client_stays_connected firstIsAnn_ne_nil (by decide) hr hlistens hstays hp' hrun
      hopen⟩

end Chatroom
