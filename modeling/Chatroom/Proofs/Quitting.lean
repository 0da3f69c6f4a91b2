import Chatroom.Library.Progress
import Chatroom.Proofs.Consoles
import Chatroom.Proofs.Shutdown
import Chatroom.Proofs.Terminal

/-!
# A client that quits

`/quit` queues a CLOSE_CON and from then on the client only writes. It leaves its loop when
everything is written, and shuts its side of the connection down.
-/

namespace Chatroom
open Transition

/-- The loop of the client waits for room in its socket. -/
def Client.Pending (client : Client) : Prop :=
  ∃ events, client.kernel.mask client.conn.fd = some events ∧ events.has epollOut

/-- The client is told that there is room in its socket, which takes some bytes. -/
def ClientServes (l : ClientLoop) : ClientInput → Prop
  | .replies r => (∃ e ∈ l.nextEvent, e.fd = l.client.conn.fd ∧ e.events.has epollOut) ∧
    ∃ n rest, r.sends = .count n :: rest ∧ 0 < n
  | _ => False

/-- The steps in which no `send` and no `epoll_wait` fails. -/
def ClientNothingFails (_ : ClientLoop) : ClientInput → Prop
  | .replies r => ∀ reply ∈ r.sends, reply.harmless = true
  | .waitFailed e => e = .eintr
  | .events _ | .endOfBatch => True

/-- What a client that quits leaves behind when nothing failed: all that it ever queued has
been sent, up to its CLOSE_CON, and its side of the connection is shut down. -/
structure Client.FinishesQuit (name : Bytes) (client : Client) : Prop where
  queued : ∃ chats, client.conn.queued = clientScript name chats true
  sent : client.conn.sent = frameCodec.encodeAll client.conn.queued
  shut : .shutdown client.conn.fd ∈ client.kernel.calls

/-! ### Events -/

section Events

variable {client : Client} {name : Bytes}

lemma clientHandleSend_quitting (hquit : client.clientQuitting = true) (replies : List SendReply) :
    client.handleSendNetworkMessageEvent replies =
      if sendCount client.conn.unsent.length replies = client.conn.unsent.length then
        (false, ((client.call (.send client.conn.fd)).withConn client.conn.drained).call
          (.shutdown client.conn.fd))
      else if sendFails client.conn.unsent.length replies then
        (false, (client.call (.send client.conn.fd)).withConn
          { client.conn.advance (sendCount client.conn.unsent.length replies) with
            state := .connectionError })
      else (true, (client.call (.send client.conn.fd)).withConn
        (client.conn.advance (sendCount client.conn.unsent.length replies))) := by
  have hflush := connectionFlushOutBuffer_eq client.conn replies
  have hconn : (client.call (.send client.conn.fd)).conn = client.conn := rfl
  rw [Client.handleSendNetworkMessageEvent, hconn]
  by_cases hall : sendCount client.conn.unsent.length replies = client.conn.unsent.length
  · rw [if_pos hall] at hflush ⊢
    rw [hflush]
    dsimp only
    rw [if_neg (by simp)]
    exact if_pos hquit
  · rw [if_neg hall] at hflush ⊢
    have hne : client.conn.outBuffer ≠ [] := by
      intro hnil
      have hzero : client.conn.unsent.length = 0 := by simp [Connection.unsent, hnil]
      have hle := sendCount_le client.conn.unsent.length replies
      omega
    by_cases hfail : sendFails client.conn.unsent.length replies = true
    · rw [hfail] at hflush
      simp only [hflush, hfail]
      rfl
    · have hfail : sendFails client.conn.unsent.length replies = false := by simpa using hfail
      rw [hfail] at hflush
      simp only [hflush, hfail, Bool.not_false, ne_eq, hne, not_false_eq_true, if_true]
      rfl

lemma eventIsSend_connected (ho : client.InOrder name) {e : EpollEvent}
    (hsend : client.eventIsSendNetworkMessage e.fd e.events = true) :
    ¬client.eventIsCheckConnectionSuccess e.fd e.events = true := by
  intro hconnect
  have hst : client.conn.state = .connecting := (of_decide_eq_true hconnect).2.1
  obtain ⟨-, -, hout, -⟩ := of_decide_eq_true hsend
  have hqueued : client.conn.queued = [] := by
    cases ho.phase with
    | connecting _ _ hqueued => exact hqueued
    | introduced said hst' => simp [hst] at hst'
    | active hello heard said hst' => simp [hst] at hst'
  have hsent := ho.stream.sent
  rw [hqueued] at hsent
  exact ho.stream.unsent_ne_nil hout (List.append_eq_nil_iff.mp hsent).2

lemma clientHandleEvent_quitting (ho : client.InOrder name) (hquit : client.clientQuitting = true)
    (e : EpollEvent) (r : ClientReplies) :
    client.handleEvent e r =
      if client.eventIsSendNetworkMessage e.fd e.events = true then
        (client.tuned r.ctl).handleSendNetworkMessageEvent r.sends
      else (true, client.tuned r.ctl) := by
  rw [clientHandleEvent_eq]
  by_cases hsend : client.eventIsSendNetworkMessage e.fd e.events = true
  · rw [hsend, hquit, if_neg (eventIsSend_connected ho hsend)]
    rfl
  · have hno : client.eventIsSendNetworkMessage e.fd e.events = false := by simpa using hsend
    rw [hno, hquit]
    rfl

/-- A client that quits has handed `n` bytes to its socket. -/
structure Client.Wrote (client : Client) (n : ℕ) (client' : Client) : Prop where
  quitting : client'.clientQuitting = true
  unsent : client'.conn.unsent.length + n = client.conn.unsent.length
  queued : client'.conn.queued = client.conn.queued
  fd : client'.conn.fd = client.conn.fd
  mask : ∀ fd, client'.kernel.mask fd = client.kernel.mask fd

lemma Client.Wrote.pending {client' : Client} {n : ℕ} (h : client.Wrote n client')
    (hp : client.Pending) : client'.Pending := by
  obtain ⟨events, hmask, hhas⟩ := hp
  exact ⟨events, by rw [h.fd, h.mask, hmask], hhas⟩

lemma clientHandleSend_wrote (hquit : client.clientQuitting = true) (replies : List SendReply) :
    client.Wrote (sendCount client.conn.unsent.length replies)
      (client.handleSendNetworkMessageEvent replies).2 := by
  have hle := sendCount_le client.conn.unsent.length replies
  have hcall : ∀ fd, (client.call (.send client.conn.fd)).kernel.mask fd =
      client.kernel.mask fd := fun fd => Kernel.mask_call _ _ fd
  have hadvance : (client.conn.advance
      (sendCount client.conn.unsent.length replies)).unsent.length +
        sendCount client.conn.unsent.length replies = client.conn.unsent.length := by
    simp only [Connection.unsent, Connection.advance, List.length_drop] at hle ⊢
    omega
  rw [clientHandleSend_quitting hquit]
  by_cases hall : sendCount client.conn.unsent.length replies = client.conn.unsent.length
  · rw [if_pos hall, hall]
    exact ⟨hquit, Nat.zero_add _, rfl, rfl, fun fd => (Kernel.mask_call _ _ fd).trans (hcall fd)⟩
  · rw [if_neg hall]
    by_cases hfail : sendFails client.conn.unsent.length replies = true
    · rw [if_pos hfail]
      exact ⟨hquit, hadvance, rfl, rfl, hcall⟩
    · rw [if_neg hfail]
      exact ⟨hquit, hadvance, rfl, rfl, hcall⟩

lemma clientHandleEvent_wrote (ho : client.InOrder name) (hquit : client.clientQuitting = true)
    (e : EpollEvent) (r : ClientReplies) :
    client.Wrote
      (if client.eventIsSendNetworkMessage e.fd e.events = true then
        sendCount client.conn.unsent.length r.sends else 0)
      (client.handleEvent e r).2 := by
  rw [clientHandleEvent_quitting ho hquit]
  split_ifs with hsend
  · have htuned : (client.tuned r.ctl).clientQuitting = true := hquit
    obtain ⟨hquit', hunsent, hqueued, hfd, hmask⟩ := clientHandleSend_wrote htuned r.sends
    exact ⟨hquit', hunsent, hqueued, hfd, hmask⟩
  · exact ⟨hquit, rfl, rfl, rfl, fun _ => rfl⟩

/-! ### The command -/

lemma clientHandleSend_clientQuitting (replies : List SendReply) :
    (client.handleSendNetworkMessageEvent replies).2.clientQuitting = client.clientQuitting := by
  rw [Client.handleSendNetworkMessageEvent]
  rcases connectionFlushOutBuffer (client.call (.send client.conn.fd)).conn replies with ⟨ok, conn⟩
  cases ok with
  | false => rfl
  | true =>
    dsimp only
    split_ifs <;> rfl

lemma clientHandleRead_clientQuitting
    (hst : client.conn.state = .waitingForServerHello ∨ client.conn.state = .active)
    (replies : List RecvReply) :
    (client.handleReadNetworkMessageEvent replies).2.clientQuitting = client.clientQuitting := by
  rw [Client.handleRead_eq]
  split_ifs with hfail
  · rfl
  · have hst' : (client.conn.ingested replies).state ≠ .connectionError := by
      show (recvEnd replies).state client.conn.state ≠ .connectionError
      cases hend : recvEnd replies with
      | wouldBlock => rcases hst with hst | hst <;> simp [RecvEnd.state, hst]
      | eof => simp [RecvEnd.state]
      | failed => exact absurd hend hfail
    exact (clientReadMessages_readLoopKeeps hst').1.quitting

lemma clientHandleStdin_quits (hopen : client.clientQuitting = false) (line : Option Bytes)
    (hquit : (client.handleReadStdinEvent line).2.clientQuitting = true) :
    (client.handleReadStdinEvent line).2.conn.outBuffer ≠ [] := by
  have hstays : ∀ {x : Bool × Client}, x.2.clientQuitting = client.clientQuitting →
      x.2.clientQuitting = true → x.2.conn.outBuffer ≠ [] := by
    intro x hx hxq
    rw [hx, hopen] at hxq
    cases hxq
  cases line with
  | none => exact hstays rfl hquit
  | some line =>
    rw [Client.handleReadStdinEvent] at hquit ⊢
    split_ifs at hquit ⊢ with hnil hcommand htcp hactive hlong
    · exact hstays rfl hquit
    · have hlegal : protocolPayloadLengthIsLegal (Message.of .closeCon []).payload.length := by
        decide
      rw [Client.handleQuitCommand, protocolQueueMessage_eq, if_pos hlegal]
      exact enqueue_outBuffer_ne_nil client.conn (Message.of .closeCon [])
    · exact hstays rfl hquit
    · exact hstays rfl hquit
    · have hlegal : protocolPayloadLengthIsLegal (Message.of .chat line).payload.length := hlong
      dsimp only at hquit
      rw [protocolQueueMessage_eq, if_pos hlegal] at hquit
      exact absurd (hopen.symm.trans hquit) Bool.false_ne_true
    · exact hstays rfl hquit

lemma clientHandleEvent_quits (hopen : client.clientQuitting = false) (e : EpollEvent)
    (r : ClientReplies) (hquit : (client.handleEvent e r).2.clientQuitting = true) :
    (client.handleEvent e r).2.conn.outBuffer ≠ [] := by
  have hstays : ∀ {x : Bool × Client}, x.2.clientQuitting = client.clientQuitting →
      x.2.clientQuitting = true → x.2.conn.outBuffer ≠ [] := by
    intro x hx hxq
    rw [hx, hopen] at hxq
    cases hxq
  rw [clientHandleEvent_eq] at hquit ⊢
  split_ifs at hquit ⊢ with hskip hconnect hsend hread hstdin
  · exact hstays rfl hquit
  · exact hstays (clientConnectionSuccess_silent r.connect).quitting hquit
  · exact hstays (clientHandleSend_clientQuitting r.sends) hquit
  · rw [Client.eventIsReadNetworkMessage, Bool.and_eq_true] at hread
    have hst : (client.tuned r.ctl).conn.state = .waitingForServerHello ∨
        (client.tuned r.ctl).conn.state = .active := (of_decide_eq_true hread.2).2.1
    exact hstays (clientHandleRead_clientQuitting hst r.recvs) hquit
  · have htuned : (client.tuned r.ctl).clientQuitting = false := hopen
    exact clientHandleStdin_quits htuned r.line hquit
  · exact hstays rfl hquit

end Events

/-! ### Runs -/

section Runs

variable {name : Bytes} {l l' : ClientLoop} {i : ClientInput}

lemma clientReach_quitting (hr : (clientSystem name).Reach System.any l) (hrun : l.Running)
    (hquit : l.client.clientQuitting = true) : l.client.conn.outBuffer ≠ [] := by
  suffices h : l.Running → l.client.clientQuitting = true → l.client.conn.outBuffer ≠ [] from
    h hrun hquit
  refine hr.invariant_of_reach (I := fun l => l.Running → l.client.clientQuitting = true →
    l.client.conn.outBuffer ≠ []) ?_ ?_
  · rintro l₀ ⟨fd, epollFd, immediately, ctl, rfl⟩ - hquit
    have hopen : (createdClient name fd epollFd immediately ctl).enterLoop.2.clientQuitting =
        false := by
      rw [Client.enterLoop, Client.queueClientHello]
      split_ifs with hnow
      · rcases protocolQueueMessage (createdClient name fd epollFd immediately ctl).conn
          (Message.of .clientHello (createdClient name fd epollFd immediately ctl).name)
          with ⟨ok, conn⟩
        cases ok <;> rfl
      · rfl
    exact absurd (hopen.symm.trans hquit) Bool.false_ne_true
  · intro t i u ht hout _ hstep
    obtain ⟨hrun, heq | ⟨r, e, es, ok, -, -, hev, hphase⟩⟩ := clientLoopStep_cases hstep
    · rw [heq]
      exact fun _ => hout hrun
    · intro hrun' hquit'
      have hgoes : ok = true := by
        cases ok with
        | true => rfl
        | false => exact absurd hphase hrun'
      subst hgoes
      by_cases hquit : t.client.clientQuitting = true
      · rw [clientHandleEvent_quitting ((client_reach_keeps ht).1 hrun) hquit] at hev
        split_ifs at hev with hsend
        · -- the write went on, so the buffer is not empty yet
          have htuned : (t.client.tuned r.ctl).clientQuitting = true := hquit
          rw [clientHandleSend_quitting htuned] at hev
          split_ifs at hev
          · cases hev
          · cases hev
          · injection hev with _ hu
            rw [← hu]
            exact hout hrun hquit
        · injection hev with _ hu
          rw [← hu]
          exact hout hrun hquit
      · have hopen : t.client.clientQuitting = false := by simpa using hquit
        have hquits := clientHandleEvent_quits hopen e r
        rw [hev] at hquits
        exact hquits hquit'

lemma clientReach_honours (hr : (clientSystem name).Reach System.any l) :
    ∃ chats, l.Honours name chats := by
  refine System.Reach.invariant (I := fun l => ∃ chats, ClientLoop.Honours name chats l) ?_ ?_ hr
  · rintro l₀ ⟨fd, epollFd, immediately, ctl, rfl⟩
    have hkeeps := startedClient_keeps name fd epollFd immediately ctl
    have hhonours := startedClient_honours name fd epollFd immediately ctl
    have hok : (startedClient (createdClient name fd epollFd immediately ctl)).Running →
        (createdClient name fd epollFd immediately ctl).enterLoop.1 = true := by
      intro hrunning
      by_contra hstop
      exact hrunning (if_neg hstop)
    exact ⟨[], fun h => hkeeps.1 (hok h), hhonours.1, fun h => hhonours.2 (hok h)⟩
  · rintro t i u ⟨chats, ht⟩ - hstep
    exact ⟨_, clientLoopStep_honours ht hstep⟩

lemma clientReach_pending (hr : (clientSystem name).Reach System.any l) (hrun : l.Running)
    (hquit : l.client.clientQuitting = true) : l.client.Pending := by
  obtain ⟨chats, hhonours⟩ := clientReach_honours hr
  exact ((hhonours.working hrun).writable (clientReach_quitting hr hrun hquit)).1

lemma clientLoopStep_wrote (hr : (clientSystem name).Reach System.any l)
    (hquit : l.client.clientQuitting = true) (hstep : clientLoopStep l i = some l') :
    ∃ n, l.client.Wrote n l'.client ∧ (ClientServes l i → 0 < n) := by
  obtain ⟨hrun, -⟩ := clientLoopStep_cases hstep
  have hidle : l'.client = l.client → ¬ClientServes l i →
      ∃ n, l.client.Wrote n l'.client ∧ (ClientServes l i → 0 < n) := by
    intro heq hno
    rw [heq]
    exact ⟨0, ⟨hquit, rfl, rfl, rfl, fun _ => rfl⟩, fun h => absurd h hno⟩
  cases i with
  | events es =>
    rw [clientLoopStep] at hstep
    split_ifs at hstep
    cases hstep
    exact hidle rfl id
  | waitFailed e =>
    rw [clientLoopStep] at hstep
    split_ifs at hstep
    · cases hstep
      exact hidle rfl id
    · cases hstep
      exact hidle rfl id
  | endOfBatch =>
    rw [clientLoopStep] at hstep
    split_ifs at hstep
    cases hstep
    exact hidle rfl id
  | replies r =>
    obtain ⟨e, es, ok, hphase, hev, -⟩ := clientLoopStep_replies hstep
    have ho := (client_reach_keeps hr).1 hrun
    have hwrote := clientHandleEvent_wrote ho hquit e r
    rw [hev] at hwrote
    refine ⟨_, hwrote, ?_⟩
    rintro ⟨⟨e', he', hfd, hflags⟩, n, rest, hsends, hn⟩
    have hnext : l.nextEvent = some e := by rw [ClientLoop.nextEvent, hphase]
    rw [hnext, Option.mem_some_iff] at he'
    subst he'
    have hout := clientReach_quitting hr hrun hquit
    have hsend : l.client.eventIsSendNetworkMessage e.fd e.events = true :=
      decide_eq_true ⟨hfd, Or.inl hquit, hout, hflags⟩
    have hpos := List.length_pos_iff.mpr (ho.stream.unsent_ne_nil hout)
    rw [if_pos hsend, hsends]
    exact sendCount_pos hn hpos rest

end Runs

/-- No run of a client that quits goes on for ever in which its socket takes some bytes sooner
or later. -/
theorem quit_terminates {name : Bytes} {l : ClientLoop}
    (hr : (clientSystem name).Reach System.any l) (hquit : l.client.clientQuitting = true) :
    ¬∃ x : (clientSystem name).Execution System.any, x.state 0 = l ∧
      x.WeaklyFair (fun t => t.client.Pending) ClientServes := by
  rintro ⟨x, hx, hfair⟩
  have hx₀ : (clientSystem name).Reach System.any (x.state 0) ∧
      (x.state 0).client.clientQuitting = true := by
    rw [hx]
    exact ⟨hr, hquit⟩
  refine x.not_weaklyFair (fun t => (clientSystem name).Reach System.any t ∧
      t.client.clientQuitting = true) (fun t => t.client.conn.unsent.length)
    (fun _ : Unit => fun t => t.client.Pending) (fun _ => ClientServes) hx₀ ?_ ?_ ?_
    (fun _ => hfair)
  · rintro t i u ⟨ht, hq⟩ - hstep
    obtain ⟨n, hwrote, -⟩ := clientLoopStep_wrote ht hq hstep
    refine ⟨⟨ht.snoc (l := i) trivial hstep, hwrote.quitting⟩, ?_⟩
    have hunsent := hwrote.unsent
    rcases Nat.eq_zero_or_pos n with rfl | hn
    · exact Or.inr ⟨hunsent, fun _ => hwrote.pending⟩
    · left
      omega
  · rintro t i u ⟨ht, hq⟩ - hstep
    exact ⟨(), clientReach_pending ht (clientLoopStep_cases hstep).1 hq⟩
  · rintro - t i u ⟨ht, hq⟩ - hstep - hserves
    obtain ⟨n, hwrote, hpos⟩ := clientLoopStep_wrote ht hq hstep
    have hunsent := hwrote.unsent
    have hn := hpos hserves
    omega

/-- A client introduces itself, and `/quit` is entered before it hears of the host. -/
def leavingGuest : List ClientInput :=
  [.events [⟨5, epollOut⟩], .replies { sends := [.count 1000] }, .endOfBatch,
    .events [⟨stdinFileno, epollIn⟩], .replies { line := some (ascii "/quit") }]

lemma leavingGuest_leaves : ∃ l : ClientLoop,
    (clientSystem (ascii "ann")).Reach System.any l ∧ l.client.clientQuitting = true ∧
      l.Running ∧ l.client.conn.outBuffer ≠ [] := by
  obtain ⟨l, hl, hquit, hrun, hout⟩ : ∃ l,
      System.run clientLoopStep (startedClient (createdClient (ascii "ann") 5 6 true []))
        leavingGuest = some l ∧ l.client.clientQuitting = true ∧ l.phase ≠ .stopped ∧
      l.client.conn.outBuffer ≠ [] :=
    ⟨_, rfl, rfl, by decide, by decide⟩
  have hinit : (clientSystem (ascii "ann")).Reach System.any
      (startedClient (createdClient (ascii "ann") 5 6 true [])) :=
    System.Reach.of_init ⟨5, 6, true, [], rfl⟩
  exact ⟨l, clientRun_reach hinit hl, hquit, hrun, hout⟩

theorem quit_terminates_leaving : ∃ l : ClientLoop, l.Running ∧ l.client.conn.outBuffer ≠ [] ∧
    ¬∃ x : (clientSystem (ascii "ann")).Execution System.any, x.state 0 = l ∧
      x.WeaklyFair (fun t => t.client.Pending) ClientServes := by
  obtain ⟨l, hr, hquit, hrun, hout⟩ := leavingGuest_leaves
  exact ⟨l, hrun, hout, quit_terminates hr hquit⟩

/-! ### Everything is said -/

section Leaving

variable {name : Bytes} {l l' : ClientLoop} {i : ClientInput}

lemma clientLoopStep_finishesQuit (hr : (clientSystem name).Reach System.any l)
    (hquit : l.client.clientQuitting = true) (hi : ClientNothingFails l i)
    (hstep : clientLoopStep l i = some l') (hstopped : l'.phase = .stopped) :
    l'.client.FinishesQuit name := by
  have hr' : (clientSystem name).Reach System.any l' := clientStep_reach hr hstep
  cases i with
  | events es =>
    rw [clientLoopStep] at hstep
    split_ifs at hstep
    cases hstep
    cases hstopped
  | waitFailed e =>
    have he : e = .eintr := hi
    rw [clientLoopStep, if_pos he] at hstep
    split_ifs at hstep
    cases hstep
    cases hstopped
  | endOfBatch =>
    rw [clientLoopStep] at hstep
    split_ifs at hstep
    cases hstep
    cases hstopped
  | replies r =>
    obtain ⟨e, es, ok, hphase, hev, hphase'⟩ := clientLoopStep_replies hstep
    have hrun : l.Running := (clientLoopStep_cases hstep).1
    have ho := (client_reach_keeps hr).1 hrun
    have hfailed : ok = false := by
      cases ok with
      | true =>
        rw [hphase'] at hstopped
        cases hstopped
      | false => rfl
    subst hfailed
    rw [clientHandleEvent_quitting ho hquit] at hev
    split_ifs at hev with hsend
    · have htuned : (l.client.tuned r.ctl).clientQuitting = true := hquit
      rw [clientHandleSend_quitting htuned, sendFails_harmless hi, if_neg Bool.false_ne_true] at hev
      split_ifs at hev with hall
      · injection hev with _ hclient
        obtain ⟨chats, hhonours⟩ := clientReach_honours hr'
        have hquit' : l'.client.clientQuitting = true := by
          rw [← hclient]
          exact hquit
        have hscript := hhonours.spoken.queued
        rw [hquit'] at hscript
        have hshut : .shutdown l'.client.conn.fd ∈ l'.client.kernel.calls := by
          rw [← hclient]
          exact List.mem_append_right _ List.mem_cons_self
        have hqueued : l'.client.conn.queued = clientScript name chats true :=
          hscript.resolve_left (fun h => Bool.false_ne_true h.2.2.symm)
        exact ⟨⟨chats, hqueued⟩, (hhonours.spoken.shut _ hshut).2, hshut⟩
      · cases hev
    · cases hev

lemma client_batch_passes (es : List EpollEvent) {client : Client}
    (hr : (clientSystem name).Reach System.any ⟨client, .handling es⟩)
    (hquit : client.clientQuitting = true) :
    ∃ client', (clientSystem name).Path ClientNothingFails ⟨client, .handling es⟩
        ⟨client', .waiting⟩ ∧ client'.clientQuitting = true ∧
      client'.conn.unsent.length = client.conn.unsent.length := by
  induction es generalizing client with
  | nil =>
    have hstep : clientLoopStep ⟨client, .handling []⟩ .endOfBatch = some ⟨client, .waiting⟩ := by
      simp [clientLoopStep]
    exact ⟨client, System.Path.single (l := .endOfBatch) trivial hstep, hquit, rfl⟩
  | cons e es ih =>
    have hrun : ClientLoop.Running ⟨client, .handling (e :: es)⟩ := Phase.noConfusion
    have ho := (client_reach_keeps hr).1 hrun
    have hpos := List.length_pos_iff.mpr
      (ho.stream.unsent_ne_nil (clientReach_quitting hr hrun hquit))
    obtain ⟨client₁, hev⟩ : ∃ client₁, client.handleEvent e {} = (true, client₁) := by
      rw [clientHandleEvent_quitting ho hquit]
      split_ifs
      · have htuned : (client.tuned []).clientQuitting = true := hquit
        have hne : sendCount (client.tuned []).conn.unsent.length [] ≠
            (client.tuned []).conn.unsent.length := by
          simp only [sendCount]
          exact hpos.ne
        rw [clientHandleSend_quitting htuned, if_neg hne]
        exact ⟨_, rfl⟩
      · exact ⟨_, rfl⟩
    have hwrote := clientHandleEvent_wrote ho hquit e {}
    rw [hev] at hwrote
    have hzero : (if client.eventIsSendNetworkMessage e.fd e.events = true then
        sendCount client.conn.unsent.length [] else 0) = 0 := by
      split_ifs
      · rfl
      · rfl
    have hunsent := hwrote.unsent
    rw [hzero] at hunsent
    have hstep : clientLoopStep ⟨client, .handling (e :: es)⟩ (.replies {}) =
        some ⟨client₁, .handling es⟩ := by
      simp only [clientLoopStep, hev]
    have hfirst : (clientSystem name).Path ClientNothingFails ⟨client, .handling (e :: es)⟩
        ⟨client₁, .handling es⟩ :=
      System.Path.single (l := .replies {}) (fun _ h => absurd h List.not_mem_nil) hstep
    obtain ⟨client', hpath, hquit', hlen⟩ := ih (clientStep_reach hr hstep) hwrote.quitting
    exact ⟨client', hfirst.trans hpath, hquit', hlen.trans hunsent⟩

lemma client_writes_some {client : Client}
    (hr : (clientSystem name).Reach System.any ⟨client, .waiting⟩)
    (hquit : client.clientQuitting = true) :
    ∃ l, (clientSystem name).Path ClientNothingFails ⟨client, .waiting⟩ l ∧
      l.client.conn.unsent.length < client.conn.unsent.length ∧
      l.client.clientQuitting = true ∧ (l.phase = .stopped ∨ l.phase = .handling []) := by
  have hroom : epollOut.has epollOut := by decide
  obtain ⟨e, he⟩ : ∃ e : EpollEvent, e = ⟨client.conn.fd, epollOut⟩ := ⟨_, rfl⟩
  obtain ⟨r, hreplies⟩ : ∃ r : ClientReplies, r = { sends := [.count 1] } := ⟨_, rfl⟩
  have hwait : clientLoopStep ⟨client, .waiting⟩ (.events [e]) = some ⟨client, .handling [e]⟩ := by
    simp [clientLoopStep, maxEpollEvents]
  have hfirst : (clientSystem name).Path ClientNothingFails ⟨client, .waiting⟩
      ⟨client, .handling [e]⟩ :=
    System.Path.single (l := .events [e]) trivial hwait
  have hr₁ := clientStep_reach hr hwait
  obtain ⟨l, hstep, hphase⟩ : ∃ l, clientLoopStep ⟨client, .handling [e]⟩ (.replies r) = some l ∧
      (l.phase = .stopped ∨ l.phase = .handling []) := by
    rcases hev : client.handleEvent e r with ⟨ok, client'⟩
    cases ok with
    | true => exact ⟨⟨client', .handling []⟩, by simp only [clientLoopStep, hev], Or.inr rfl⟩
    | false => exact ⟨⟨client', .stopped⟩, by simp only [clientLoopStep, hev], Or.inl rfl⟩
  have hserves : ClientServes ⟨client, .handling [e]⟩ (.replies r) := by
    rw [hreplies]
    exact ⟨⟨e, rfl, by rw [he], by rw [he]; exact hroom⟩, 1, [], rfl, Nat.one_pos⟩
  have hok : ClientNothingFails ⟨client, .handling [e]⟩ (.replies r) := by
    rw [hreplies]
    intro reply hreply
    rw [List.mem_singleton.mp hreply]
    rfl
  obtain ⟨n, hwrote, hpos⟩ := clientLoopStep_wrote hr₁ hquit hstep
  have hunsent := hwrote.unsent
  have hn := hpos hserves
  dsimp only at hunsent
  exact ⟨l, hfirst.snoc hok hstep, by omega, hwrote.quitting, hphase⟩

lemma client_can_leave (hr : (clientSystem name).Reach System.any l) (hrun : l.Running)
    (hquit : l.client.clientQuitting = true) :
    ∃ l', (clientSystem name).Path ClientNothingFails l l' ∧ l'.phase = .stopped := by
  induction hn : l.client.conn.unsent.length using Nat.strong_induction_on generalizing l with
  | h n ih =>
    have hwaiting : ∀ {client : Client}, (clientSystem name).Reach System.any ⟨client, .waiting⟩ →
        client.clientQuitting = true → client.conn.unsent.length = n →
        ∃ l', (clientSystem name).Path ClientNothingFails ⟨client, .waiting⟩ l' ∧
          l'.phase = .stopped := by
      intro client hreach hq hlen
      obtain ⟨l₁, hpath, hlt, hq₁, hstopped | hphase⟩ := client_writes_some hreach hq
      · exact ⟨l₁, hpath, hstopped⟩
      · have hrun₁ : l₁.Running := by
          rw [ClientLoop.Running, hphase]
          simp
        obtain ⟨l₂, hpath₂, hstopped⟩ := ih _ (hlen ▸ hlt)
          (hreach.path (hpath.mono (fun _ _ _ => trivial))) hrun₁ hq₁ rfl
        exact ⟨l₂, hpath.trans hpath₂, hstopped⟩
    rcases l with ⟨client, phase⟩
    cases phase with
    | waiting => exact hwaiting hr hquit hn
    | handling es =>
      obtain ⟨client', hpath, hq, hlen⟩ := client_batch_passes es hr hquit
      obtain ⟨l', hpath', hstopped⟩ :=
        hwaiting (hr.path (hpath.mono (fun _ _ _ => trivial))) hq (hlen.trans hn)
      exact ⟨l', hpath.trans hpath', hstopped⟩
    | stopped => exact absurd rfl hrun

end Leaving

/-- A client that quits and for which nothing fails leaves its loop only after all that it ever
queued was sent, CLOSE_CON last, and with its side of the connection shut down; and it can
always leave. -/
theorem quit_delivers {name : Bytes} {l : ClientLoop}
    (hr : (clientSystem name).Reach System.any l) (hrun : l.Running)
    (hquit : l.client.clientQuitting = true) :
    (∀ l', (clientSystem name).Path ClientNothingFails l l' → l'.phase = .stopped →
      l'.client.FinishesQuit name) ∧
      ∃ l', (clientSystem name).Path ClientNothingFails l l' ∧ l'.phase = .stopped := by
  refine ⟨?_, client_can_leave hr hrun hquit⟩
  intro l' hpath hstopped
  have hall : l'.client.clientQuitting = true ∧
      (l'.phase = .stopped → l'.client.FinishesQuit name) := by
    refine hr.preserves (I := fun t => t.client.clientQuitting = true ∧
      (t.phase = .stopped → t.client.FinishesQuit name))
      (fun _ _ _ => trivial) ?_ hpath ⟨hquit, fun h => (hrun h).elim⟩
    rintro t i u ht ⟨hq, -⟩ hi hstep
    obtain ⟨n, hwrote, -⟩ := clientLoopStep_wrote ht hq hstep
    exact ⟨hwrote.quitting, clientLoopStep_finishesQuit ht hq hi hstep⟩
  exact hall.2 hstopped

theorem quit_delivers_leaving : ∃ l : ClientLoop, l.Running ∧ l.client.conn.outBuffer ≠ [] ∧
    (∀ l', (clientSystem (ascii "ann")).Path ClientNothingFails l l' → l'.phase = .stopped →
      l'.client.FinishesQuit (ascii "ann")) ∧
      ∃ l', (clientSystem (ascii "ann")).Path ClientNothingFails l l' ∧ l'.phase = .stopped := by
  obtain ⟨l, hr, hquit, hrun, hout⟩ := leavingGuest_leaves
  exact ⟨l, hrun, hout, quit_delivers hr hrun hquit⟩

end Chatroom
