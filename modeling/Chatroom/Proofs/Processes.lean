import Chatroom.Model.Sockets
import Chatroom.Proofs.Contract
import Chatroom.Proofs.Lifecycle
import Chatroom.Proofs.Quitting

/-!
# A process leaves no descriptor open

From `socket` to the last `close`: whichever call fails, and wherever the loop is left, the
log of a process is lawful, and it ends with nothing open but standard input.
-/

namespace Chatroom
open Handles Transition

/-- A call on a new socket as an act on its descriptor. -/
def SocketCall.act : SocketCall → Act Fd
  | .socket fd => .opens fd
  | .reuseAddr fd | .getFlags fd | .setFlags fd _ | .bind fd _ | .listen fd | .connect fd _ =>
    .uses fd
  | .close fd => .closes fd

/-- What a process has done to descriptors, if its loop is left in this state. -/
def Process.log {L : Type} (cleanedUp : L → Kernel) (p : Process L) : List (Act Fd) :=
  p.setup.map SocketCall.act ++ (p.loop.map (fun l => (cleanedUp l).acts)).getD []

/-- A log at whose end every descriptor that was opened has been closed once. -/
structure Clean (log : List (Act Fd)) : Prop where
  lawful : Lawful [stdinFileno] log
  left : heldAfter [stdinFileno] log = [stdinFileno]
  closed : ∀ before fd after, log = before ++ .opens fd :: after → ClosedOnce fd after

lemma Clean.of_lawful {log : List (Act Fd)} (hlawful : Lawful [stdinFileno] log)
    (hleft : heldAfter [stdinFileno] log = [stdinFileno])
    (hopened : ∀ fd, .opens fd ∈ log → fd ≠ stdinFileno) : Clean log where
  lawful := hlawful
  left := hleft
  closed := by
    intro before fd after hlog
    have hne : fd ≠ stdinFileno := by
      apply hopened
      rw [hlog]
      exact List.mem_append_right _ List.mem_cons_self
    rw [hlog] at hlawful hleft
    apply hlawful.opening_closedOnce (List.nodup_singleton _)
    rw [hleft, List.mem_singleton]
    exact hne

lemma Clean.nil : Clean [] :=
  ⟨trivial, rfl, fun before fd after h => by simp at h⟩

lemma processSystem_reach {L ℓ : Type} {init : Process L → Prop} {M : System L ℓ} {p : Process L}
    {l l' : L} (hr : (processSystem init M.step).Reach System.any p) (hl : p.loop = some l)
    (hpath : M.Path System.any l l') :
    (processSystem init M.step).Reach System.any { p with loop := some l' } := by
  refine hpath.preserves (I := fun l' =>
    (processSystem init M.step).Reach System.any { p with loop := some l' }) ?_ ?_
  · rintro l i l' hreach - hstep
    exact hreach.snoc trivial ⟨l, l', rfl, hstep, rfl⟩
  · rw [← hl]
    exact hr

lemma freshDescriptors_of {r : SocketReplies} {created : CreateReplies} {fd : Fd}
    (hr : r.socket = .created fd) (hfd : 0 ≤ fd ∧ fd ≠ stdinFileno)
    (hadm : created.create.Admissible fd) : FreshDescriptors r created := by
  constructor
  · intro g hg
    rw [hr, CreateReply.created.injEq] at hg
    rw [← hg]
    exact hfd
  · intro g hg
    rw [hr, CreateReply.created.injEq] at hg
    rw [← hg]
    exact hadm

/-! ### Setting up -/

/-- These calls open a socket and use it. -/
def OpensAndUses (fd : Fd) (calls : List SocketCall) : Prop :=
  ∃ uses, calls.map SocketCall.act = .opens fd :: uses ∧ ∀ a ∈ uses, a = .uses fd

section Setup

variable {fd : Fd} {calls : List SocketCall}

lemma OpensAndUses.append (h : OpensAndUses fd calls) {more : List SocketCall}
    (hmore : ∀ c ∈ more, c.act = .uses fd) : OpensAndUses fd (calls ++ more) := by
  obtain ⟨uses, hcalls, huses⟩ := h
  refine ⟨uses ++ more.map SocketCall.act, by rw [List.map_append, hcalls]; rfl, ?_⟩
  rw [List.forall_mem_append, List.forall_mem_map]
  exact ⟨huses, hmore⟩

lemma OpensAndUses.use (h : OpensAndUses fd calls) {c : SocketCall} (hc : c.act = .uses fd) :
    OpensAndUses fd (calls ++ [c]) :=
  h.append (List.forall_mem_singleton.mpr hc)

lemma OpensAndUses.lawful (h : OpensAndUses fd calls) (hfd : fd ≠ stdinFileno) :
    Lawful [stdinFileno] (calls.map SocketCall.act) ∧
      heldAfter [stdinFileno] (calls.map SocketCall.act) = [stdinFileno, fd] := by
  obtain ⟨uses, hcalls, huses⟩ := h
  have hopen : Act.Allowed [stdinFileno] (.opens fd) := by
    simpa [Act.Allowed] using hfd
  have hused : ∀ a ∈ uses, ∃ r ∈ [stdinFileno, fd], a = .uses r :=
    fun a ha => ⟨fd, by simp, huses a ha⟩
  obtain ⟨hlawful, hafter⟩ := lawful_uses hused
  rw [hcalls]
  exact ⟨⟨hopen, hlawful⟩, hafter⟩

lemma OpensAndUses.closed (h : OpensAndUses fd calls) (hfd : fd ≠ stdinFileno)
    {rest : List (Act Fd)} (hlawful : Lawful [stdinFileno, fd] rest)
    (hleft : heldAfter [stdinFileno, fd] rest = [stdinFileno])
    (hopened : ∀ g, .opens g ∈ rest → g ≠ stdinFileno) :
    Clean (calls.map SocketCall.act ++ rest) := by
  obtain ⟨hsetup, hafter⟩ := h.lawful hfd
  apply Clean.of_lawful
  · rw [lawful_append, hafter]
    exact ⟨hsetup, hlawful⟩
  · rw [heldAfter_append, hafter]
    exact hleft
  · intro g hg
    rcases List.mem_append.mp hg with hg | hg
    · obtain ⟨uses, hcalls, huses⟩ := h
      rw [hcalls] at hg
      rcases List.mem_cons.mp hg with heq | hmem
      · injection heq with heq
        rw [heq]
        exact hfd
      · cases huses _ hmem
    · exact hopened g hg

lemma OpensAndUses.givenUp (h : OpensAndUses fd calls) (hfd : fd ≠ stdinFileno) :
    Clean ((calls ++ [SocketCall.close fd]).map SocketCall.act) := by
  rw [List.map_append]
  apply h.closed hfd
  · exact ⟨by simp [SocketCall.act, Act.Allowed], trivial⟩
  · simp [SocketCall.act, heldAfter, Act.after, hfd.symm]
  · simp [SocketCall.act]

lemma setNonblocking_uses (fd : Fd) (r : SocketReplies) :
    ∀ c ∈ (setNonblocking fd r).2, c.act = .uses fd := by
  unfold setNonblocking
  cases r.getFlags <;> simp [SocketCall.act]

theorem serverCreateListeningSocket_cases (port : ℤ) (r : SocketReplies)
    (hr : ∀ fd, r.socket = .created fd → 0 ≤ fd ∧ fd ≠ stdinFileno) :
    (serverCreateListeningSocket port r).1 = -1 ∧
        Clean ((serverCreateListeningSocket port r).2.map SocketCall.act) ∨
      ∃ fd, r.socket = .created fd ∧ (serverCreateListeningSocket port r).1 = fd ∧
        OpensAndUses fd (serverCreateListeningSocket port r).2 := by
  unfold serverCreateListeningSocket
  cases hsocket : r.socket with
  | failed e => exact Or.inl ⟨rfl, Clean.nil⟩
  | created fd =>
    have hfd := (hr fd hsocket).2
    have hopened : OpensAndUses fd [.socket fd, .reuseAddr fd] := ⟨[.uses fd], rfl, by simp⟩
    have hnonblocking := hopened.append (setNonblocking_uses fd r)
    have hbound := hnonblocking.use (c := .bind fd (portNumber port)) rfl
    have hlistening := hbound.use (c := .listen fd) rfl
    dsimp only
    split_ifs
    · exact Or.inl ⟨rfl, hopened.givenUp hfd⟩
    · exact Or.inl ⟨rfl, hnonblocking.givenUp hfd⟩
    · exact Or.inl ⟨rfl, hbound.givenUp hfd⟩
    · exact Or.inl ⟨rfl, hlistening.givenUp hfd⟩
    · exact Or.inr ⟨fd, rfl, rfl, hlistening⟩

theorem clientConnectToServer_cases (addr : SockAddr) (r : SocketReplies)
    (hr : ∀ fd, r.socket = .created fd → 0 ≤ fd ∧ fd ≠ stdinFileno) :
    (clientConnectToServer addr r).1 = none ∧
        Clean ((clientConnectToServer addr r).2.map SocketCall.act) ∨
      ∃ fd immediately, r.socket = .created fd ∧
        (clientConnectToServer addr r).1 = some (clientConnection fd immediately) ∧
        OpensAndUses fd (clientConnectToServer addr r).2 := by
  unfold clientConnectToServer
  cases hsocket : r.socket with
  | failed e => exact Or.inl ⟨rfl, Clean.nil⟩
  | created fd =>
    have hfd := (hr fd hsocket).2
    have hopened : OpensAndUses fd [.socket fd] := ⟨[], rfl, by simp⟩
    have hnonblocking := hopened.append (setNonblocking_uses fd r)
    have hconnecting := hnonblocking.use (c := .connect fd addr) rfl
    dsimp only
    split_ifs
    · exact Or.inl ⟨rfl, hnonblocking.givenUp hfd⟩
    · cases r.connect with
      | connected => exact Or.inr ⟨fd, true, rfl, rfl, hconnecting⟩
      | inProgress => exact Or.inr ⟨fd, false, rfl, rfl, hconnecting⟩
      | failed e => exact Or.inl ⟨rfl, hconnecting.givenUp hfd⟩

end Setup

/-! ### The host -/

section Host

variable {name : Bytes} {port : ℤ} {p : Process Loop}

lemma cleanup_opened {listenFd : Fd} {s : Server}
    (h : s.Descriptors listenFd ∨ s.NotStarted listenFd) {fd : Fd}
    (hfd : .opens fd ∈ s.cleanup.kernel.acts) : fd ≠ stdinFileno := by
  rcases h with h | h
  · have hcalls := h.cleanup_calls
    rw [Kernel.acts, hcalls, List.map_append, List.map_map] at hfd
    rcases List.mem_append.mp hfd with hfd | hfd
    · exact (h.opened fd hfd).1
    · obtain ⟨g, -, hg⟩ := List.mem_map.mp hfd
      cases hg
  · have hcleanup : s.cleanup.kernel.calls = s.kernel.calls := by
      unfold Server.cleanup
      simp [h.noListener, h.noEpoll, h.connections]
    rw [Kernel.acts, hcleanup] at hfd
    rcases h.calls with hcalls | ⟨g, hg, -, hcalls | hcalls⟩
    · rw [hcalls] at hfd
      simp [SysCall.act] at hfd
    · rw [hcalls] at hfd
      have heq : fd = g := by simpa [SysCall.act] using hfd
      rw [heq]
      exact hg
    · rw [hcalls] at hfd
      have heq : fd = g := by simpa [SysCall.act] using hfd
      rw [heq]
      exact hg

lemma serverProcess_reach (hr : (serverProcess name port).Reach System.any p) :
    p.loop = none ∧ Clean (p.setup.map SocketCall.act) ∨
      ∃ fd l, 0 ≤ fd ∧ fd ≠ stdinFileno ∧ OpensAndUses fd p.setup ∧ p.loop = some l ∧
        (serverRun name fd).Reach System.any l := by
  refine System.Reach.invariant (I := fun p : Process Loop =>
    p.loop = none ∧ Clean (p.setup.map SocketCall.act) ∨
      ∃ fd l, 0 ≤ fd ∧ fd ≠ stdinFileno ∧ OpensAndUses fd p.setup ∧ p.loop = some l ∧
        (serverRun name fd).Reach System.any l) ?_ ?_ hr
  · rintro p ⟨r, created, hfresh, rfl⟩
    unfold serverInit
    rcases serverCreateListeningSocket_cases port r hfresh.socket with
      ⟨hfailed, hclean⟩ | ⟨fd, hsocket, hfd, hraised⟩
    · rw [if_pos hfailed]
      exact Or.inl ⟨rfl, hclean⟩
    · obtain ⟨hpos, hstdin⟩ := hfresh.socket fd hsocket
      have hne : ¬(serverCreateListeningSocket port r).1 = -1 := by
        rw [hfd]
        rintro rfl
        exact absurd hpos (by decide)
      rw [if_neg hne, hfd]
      refine Or.inr ⟨fd, _, hpos, hstdin, hraised, rfl, ?_⟩
      exact System.Reach.of_init ⟨created, hfresh.epoll fd hsocket, rfl⟩
  · rintro p i p' hp - ⟨l, l', hloop, hstep, rfl⟩
    rcases hp with ⟨hnone, -⟩ | ⟨fd, k, hpos, hstdin, hraised, hk, hreach⟩
    · rw [hnone] at hloop
      cases hloop
    · rw [hloop, Option.some.injEq] at hk
      subst hk
      exact Or.inr ⟨fd, l', hpos, hstdin, hraised, rfl, hreach.snoc trivial hstep⟩

end Host

/-- Whichever calls of the host fail, and wherever its loop is left: from the listening socket
on, every descriptor is opened, used while it is open, and closed once. -/
theorem host_leaves_nothing_open {name : Bytes} {port : ℤ} {p : Process Loop}
    (hr : (serverProcess name port).Reach System.any p) :
    Clean (p.log (fun l => l.server.cleanup.kernel)) := by
  rcases serverProcess_reach hr with ⟨hnone, hclean⟩ | ⟨fd, l, hpos, hstdin, hraised, hl, hreach⟩
  · rw [Process.log, hnone]
    simpa using hclean
  · rw [Process.log, hl]
    show Clean (p.setup.map SocketCall.act ++ l.server.cleanup.kernel.acts)
    rcases run_descriptors hpos hstdin hreach with ⟨hdesc, -⟩ | ⟨-, hnot⟩
    · have hwound := hdesc.allClosed
      exact hraised.closed hstdin hwound.lawful hwound.left
        (fun g hg => cleanup_opened (Or.inl hdesc) hg)
    · have hwound := hnot.allClosed hstdin
      exact hraised.closed hstdin hwound.lawful hwound.left
        (fun g hg => cleanup_opened (Or.inr hnot) hg)

/-- A port is taken, and the socket is given up; on another port the host meets the troubles of
`failingInputs`. -/
theorem host_leaves_nothing_open_troubled :
    Clean ((serverInit (ascii "host") 80 { socket := .created 3, bind := some .einval }
      ⟨.created 5, []⟩).log (fun l => l.server.cleanup.kernel)) ∧
    ∃ l, runInputs System.any ((listeningServer (ascii "host") 3).enterLoop ⟨.created 5, []⟩)
        failingInputs = some l ∧
      Clean (Process.log (fun l : Loop => l.server.cleanup.kernel)
        { serverInit (ascii "host") 8080 { socket := .created 3 } ⟨.created 5, []⟩ with
          loop := some l }) := by
  have hfresh : ∀ r : SocketReplies, r.socket = .created 3 → FreshDescriptors r ⟨.created 5, []⟩ :=
    fun r hr => freshDescriptors_of hr (by decide) (by decide)
  obtain ⟨l, hl⟩ : ∃ l, runInputs System.any
      ((listeningServer (ascii "host") 3).enterLoop ⟨.created 5, []⟩) failingInputs = some l :=
    ⟨_, rfl⟩
  have hpath : (serverSystem (ascii "host")).Path System.any
      ((listeningServer (ascii "host") 3).enterLoop ⟨.created 5, []⟩) l := runInputs_path hl
  refine ⟨host_leaves_nothing_open (System.Reach.of_init ⟨_, _, hfresh _ rfl, rfl⟩), l, hl, ?_⟩
  have hstart : (serverProcess (ascii "host") 8080).Reach System.any
      (serverInit (ascii "host") 8080 { socket := .created 3 } ⟨.created 5, []⟩) :=
    System.Reach.of_init ⟨_, _, hfresh _ rfl, rfl⟩
  exact host_leaves_nothing_open (processSystem_reach hstart rfl hpath)

/-! ### The handlers of a client -/

/-- The same connection over the same descriptors. -/
structure Client.SameFds (client client' : Client) : Prop where
  fd : client'.conn.fd = client.conn.fd
  epollFd : client'.epollFd = client.epollFd
  kernel : Kernel.UsesOnly [client.conn.fd] client.kernel client'.kernel

namespace Client.SameFds

variable {client client' client'' : Client}

lemma trans (h : client.SameFds client') (h' : client'.SameFds client'') :
    client.SameFds client'' :=
  ⟨h'.fd.trans h.fd, h'.epollFd.trans h.epollFd, h.kernel.trans (h.fd ▸ h'.kernel)⟩

lemma withConn (h : client.SameFds client') {c : Connection} (hc : c.fd = client'.conn.fd) :
    client.SameFds (client'.withConn c) :=
  ⟨hc.trans h.fd, h.epollFd, h.kernel⟩

lemma call (client : Client) {x : SysCall} (hx : x.act = .uses client.conn.fd) :
    client.SameFds (client.call x) :=
  ⟨rfl, rfl, Kernel.UsesOnly.call hx List.mem_cons_self⟩

lemma fdMod (h : client.SameFds client') (events : EventMask) :
    client.SameFds (client'.fdMod events).2 :=
  h.trans ⟨rfl, rfl, Kernel.UsesOnly.mod client'.kernel events List.mem_cons_self⟩

lemma refl (client : Client) : client.SameFds client :=
  ⟨rfl, rfl, Kernel.UsesOnly.refl _⟩

end Client.SameFds

section Handlers

variable {client : Client}

lemma protocolParseMessage_fd (c : Connection) : (protocolParseMessage c).2.fd = c.fd := by
  rw [protocolParseMessage_eq]
  split <;> rfl

lemma protocolQueueMessage_fd (c : Connection) (m : Message) :
    (protocolQueueMessage c m).2.fd = c.fd := by
  rw [protocolQueueMessage_eq]
  split_ifs <;> rfl

lemma handleNetworkMessage_sameFds (client : Client) (m : Message) :
    client.SameFds (client.handleNetworkMessage m).2 := by
  unfold Client.handleNetworkMessage
  dsimp only
  split_ifs <;> exact ⟨rfl, rfl, Kernel.UsesOnly.refl _⟩

lemma clientReadMessages_sameFds (client : Client) : client.SameFds client.readMessages.2 := by
  have hparsed : ∀ {client : Client} {message : Option Message} {conn : Connection},
      protocolParseMessage client.conn = (message, conn) →
      client.SameFds (client.withConn conn) := by
    intro client message conn h
    have hfd := protocolParseMessage_fd client.conn
    rw [h] at hfd
    exact (Client.SameFds.refl client).withConn hfd
  fun_induction Client.readMessages client with
  | case1 client conn h herror => exact hparsed h
  | case2 client conn h herror hclosed => exact hparsed h
  | case3 client conn h herror hclosed => exact hparsed h
  | case4 client message conn h herror => exact hparsed h
  | case5 client message conn h herror client' hm =>
    have hreaction := handleNetworkMessage_sameFds (client.withConn conn) message
    rw [Client.withConn, hm] at hreaction
    exact (hparsed h).trans hreaction
  | case6 client message conn h herror client' hm ih =>
    have hreaction := handleNetworkMessage_sameFds (client.withConn conn) message
    rw [Client.withConn, hm] at hreaction
    exact ((hparsed h).trans hreaction).trans ih

lemma clientHandleRead_sameFds (replies : List RecvReply) :
    client.SameFds (client.handleReadNetworkMessageEvent replies).2 := by
  have hread : client.SameFds ((client.call (.recv client.conn.fd)).withConn
      (client.conn.ingested replies)) :=
    (Client.SameFds.call client rfl).withConn rfl
  rw [Client.handleRead_eq]
  split_ifs
  · exact hread
  · exact hread.trans (clientReadMessages_sameFds _)

lemma clientHandleSend_sameFds (replies : List SendReply) :
    client.SameFds (client.handleSendNetworkMessageEvent replies).2 := by
  have hfd : (connectionFlushOutBuffer client.conn replies).2.fd = client.conn.fd := by
    rw [connectionFlushOutBuffer_eq]
    split_ifs <;> rfl
  have hconn : (client.call (.send client.conn.fd)).conn = client.conn := rfl
  rw [Client.handleSendNetworkMessageEvent, hconn]
  rcases hr : connectionFlushOutBuffer client.conn replies with ⟨ok, conn⟩
  rw [hr] at hfd
  have hflushed : client.SameFds ((client.call (.send client.conn.fd)).withConn conn) :=
    (Client.SameFds.call client rfl).withConn hfd
  cases ok with
  | false => exact hflushed
  | true =>
    dsimp only
    split_ifs
    · exact hflushed
    · exact hflushed.trans (Client.SameFds.call _ rfl)
    · have hwaits : client.SameFds ((client.call (.send client.conn.fd)).withConn
          { conn with state := .waitingForServerHello }) :=
        (Client.SameFds.call client rfl).withConn hfd
      exact hwaits.fdMod _
    · exact hflushed.fdMod _

lemma queueMessage_sameFds {client' : Client} (h : client.SameFds client') (m : Message) :
    client.SameFds (client'.withConn (protocolQueueMessage client'.conn m).2) :=
  h.withConn (protocolQueueMessage_fd client'.conn m)

lemma queueClientHello_sameFds {client' : Client} (h : client.SameFds client')
    (events : EventMask) :
    client.SameFds (match client'.queueClientHello with
      | (false, client) => (false, client)
      | (true, client) => client.fdMod events).2 := by
  have hqueued : client.SameFds client'.queueClientHello.2 :=
    queueMessage_sameFds h (Message.of .clientHello client'.name)
  rcases hq : client'.queueClientHello with ⟨ok, queued⟩
  rw [hq] at hqueued
  cases ok with
  | false => exact hqueued
  | true => exact hqueued.fdMod events

lemma clientConnectionSuccess_sameFds (reply : ConnectReply) :
    client.SameFds (client.handleConnectionSuccessEvent reply).2 := by
  cases reply with
  | failed => exact (Client.SameFds.refl client).withConn rfl
  | established =>
    have hconnected : client.SameFds
        (client.withConn { client.conn with state := .sendingClientHello }) :=
      (Client.SameFds.refl client).withConn rfl
    exact queueClientHello_sameFds hconnected _

lemma clientHandleStdin_sameFds (line : Option Bytes) :
    client.SameFds (client.handleReadStdinEvent line).2 := by
  have hprint : ∀ line : Bytes, client.SameFds (client.print line) :=
    fun _ => ⟨rfl, rfl, Kernel.UsesOnly.refl _⟩
  cases line with
  | none => exact Client.SameFds.refl client
  | some line =>
    rw [Client.handleReadStdinEvent]
    split_ifs
    · exact Client.SameFds.refl client
    · have hqueued := queueMessage_sameFds (hprint (ascii "[client] exiting."))
        (Message.of .closeCon [])
      rw [Client.handleQuitCommand]
      rcases hq : protocolQueueMessage (client.print (ascii "[client] exiting.")).conn
        (Message.of .closeCon []) with ⟨ok, conn⟩
      rw [hq] at hqueued
      cases ok with
      | false => exact hqueued
      | true =>
        have hquits : client.SameFds { (client.print (ascii "[client] exiting.")).withConn conn with
            clientQuitting := true } := ⟨hqueued.fd, hqueued.epollFd, hqueued.kernel⟩
        exact hquits.fdMod _
    · exact hprint _
    · exact Client.SameFds.refl client
    · have hqueued := queueMessage_sameFds (Client.SameFds.refl client) (Message.of .chat line)
      rcases hq : protocolQueueMessage client.conn (Message.of .chat line) with ⟨ok, conn⟩
      rw [hq] at hqueued
      dsimp only
      rw [hq]
      cases ok with
      | false => exact hqueued
      | true =>
        have hsaid : client.SameFds { client.withConn conn with
            stdout := formatPrintMessage client.stdout client.name (Message.of .chat line) } :=
          ⟨hqueued.fd, hqueued.epollFd, hqueued.kernel⟩
        exact hsaid.fdMod _
    · exact hprint _

theorem clientHandleEvent_sameFds (client : Client) (e : EpollEvent) (r : ClientReplies) :
    client.SameFds (client.handleEvent e r).2 := by
  have htuned : client.SameFds (client.tuned r.ctl) := ⟨rfl, rfl, ⟨[], by simp [Client.tuned]⟩,
    fun _ => Iff.rfl⟩
  rw [clientHandleEvent_eq]
  split_ifs
  · exact htuned
  · exact htuned.trans (clientConnectionSuccess_sameFds r.connect)
  · exact htuned.trans (clientHandleSend_sameFds r.sends)
  · exact htuned.trans (clientHandleRead_sameFds r.recvs)
  · exact htuned.trans (clientHandleStdin_sameFds r.line)
  · exact htuned

end Handlers

/-! ### The client -/

/-- The account of the descriptors of a client whose loop was entered. -/
structure Client.Descriptors (fd : Fd) (client : Client) : Prop where
  socket : client.conn.fd = fd
  epoll : 0 ≤ client.epollFd ∧ client.epollFd ≠ stdinFileno ∧ client.epollFd ≠ fd
  acts : ∃ uses, client.kernel.acts = .opens client.epollFd :: uses ∧
    ∀ a ∈ uses, ∃ g ∈ [stdinFileno, fd, client.epollFd], a = .uses g

/-- The client and its log when no epoll instance could be set up. -/
structure Client.NotStarted (fd : Fd) (client : Client) : Prop where
  socket : client.conn.fd = fd
  noEpoll : client.epollFd = -1
  acts : client.kernel.acts = [] ∨ ∃ g uses, g ≠ stdinFileno ∧ g ≠ fd ∧
    client.kernel.acts = .opens g :: uses ++ [.closes g] ∧
    ∀ a ∈ uses, ∃ r ∈ [stdinFileno, fd, g], a = .uses r

section Guest

variable {name : Bytes} {addr : SockAddr} {fd : Fd} {client client' : Client}
  {p : Process ClientLoop}

lemma Client.Descriptors.sameFds (h : client.Descriptors fd) (hs : client.SameFds client') :
    client'.Descriptors fd := by
  obtain ⟨uses, hacts, huses⟩ := h.acts
  obtain ⟨xs, hxs, hmore⟩ := hs.kernel.calls
  refine ⟨hs.fd.trans h.socket, by rw [hs.epollFd]; exact h.epoll, uses ++ xs.map SysCall.act,
    ?_, ?_⟩
  · rw [Kernel.acts, hxs, List.map_append, hs.epollFd]
    exact congrArg (· ++ xs.map SysCall.act) hacts
  · rw [hs.epollFd, List.forall_mem_append, List.forall_mem_map]
    refine ⟨huses, ?_⟩
    intro x hx
    obtain ⟨g, hg, heq⟩ := hmore x hx
    refine ⟨fd, by simp, ?_⟩
    rw [heq, List.mem_singleton.mp hg, h.socket]

lemma Client.Descriptors.cleanup (h : client.Descriptors fd) (hpos : 0 ≤ fd)
    (hstdin : fd ≠ stdinFileno) :
    Lawful [stdinFileno, fd] client.cleanup.kernel.acts ∧
      heldAfter [stdinFileno, fd] client.cleanup.kernel.acts = [stdinFileno] ∧
      ∀ g, .opens g ∈ client.cleanup.kernel.acts → g ≠ stdinFileno := by
  obtain ⟨uses, hacts, huses⟩ := h.acts
  obtain ⟨hepos, hestdin, hefd⟩ := h.epoll
  have hne : client.conn.fd ≠ -1 := by
    rw [h.socket]
    rintro rfl
    exact absurd hpos (by decide)
  have hne' : client.epollFd ≠ -1 := by
    intro heq
    rw [heq] at hepos
    exact absurd hepos (by decide)
  have hlog : client.cleanup.kernel.acts =
      .opens client.epollFd :: (uses ++ [.closes fd, .closes client.epollFd]) := by
    have hcleanup : client.cleanup.kernel =
        (client.kernel.close client.conn.fd).close client.epollFd := by
      unfold Client.cleanup
      simp [hne, hne']
    rw [hcleanup, Kernel.acts, Kernel.calls_close, Kernel.calls_close, h.socket, List.append_assoc,
      List.map_append, ← List.cons_append, ← hacts]
    rfl
  obtain ⟨hlawful, hafter⟩ := lawful_uses huses
  have hopen : Act.Allowed [stdinFileno, fd] (.opens client.epollFd) := by
    simp [Act.Allowed, hestdin, hefd]
  rw [hlog]
  refine ⟨⟨hopen, ?_⟩, ?_, ?_⟩
  · rw [lawful_append]
    refine ⟨hlawful, ?_⟩
    rw [Act.after, List.cons_append, List.cons_append, List.nil_append, hafter]
    refine ⟨by simp [Act.Allowed], ?_, trivial⟩
    simp [Act.Allowed, Act.after, hstdin.symm]
  · show heldAfter [stdinFileno, fd, client.epollFd]
      (uses ++ [.closes fd, .closes client.epollFd]) = [stdinFileno]
    rw [heldAfter_append, hafter]
    simp [heldAfter, Act.after, hstdin.symm, hestdin.symm]
  · intro g hg
    rcases List.mem_cons.mp hg with heq | hmem
    · injection heq with heq
      rw [heq]
      exact hestdin
    · rcases List.mem_append.mp hmem with hmem | hmem
      · obtain ⟨q, -, heq⟩ := huses _ hmem
        cases heq
      · simp at hmem

lemma Client.NotStarted.cleanup (h : client.NotStarted fd) (hpos : 0 ≤ fd)
    (hstdin : fd ≠ stdinFileno) :
    Lawful [stdinFileno, fd] client.cleanup.kernel.acts ∧
      heldAfter [stdinFileno, fd] client.cleanup.kernel.acts = [stdinFileno] ∧
      ∀ g, .opens g ∈ client.cleanup.kernel.acts → g ≠ stdinFileno := by
  have hne : client.conn.fd ≠ -1 := by
    rw [h.socket]
    rintro rfl
    exact absurd hpos (by decide)
  have hlog : client.cleanup.kernel.acts = client.kernel.acts ++ [.closes fd] := by
    have hcleanup : client.cleanup.kernel = client.kernel.close client.conn.fd := by
      unfold Client.cleanup
      simp [hne, h.noEpoll]
    rw [hcleanup, Kernel.acts, Kernel.calls_close, h.socket, List.map_append]
    rfl
  rw [hlog]
  rcases h.acts with hnil | ⟨g, uses, hgstdin, hgfd, hacts, huses⟩
  · rw [hnil]
    refine ⟨⟨by simp [Act.Allowed], trivial⟩, ?_, by simp⟩
    simp [heldAfter, Act.after, hstdin.symm]
  · obtain ⟨hlawful, hafter⟩ := lawful_uses huses
    have hopen : Act.Allowed [stdinFileno, fd] (.opens g) := by
      simp [Act.Allowed, hgstdin, hgfd]
    rw [hacts, List.cons_append, List.cons_append, List.append_assoc]
    refine ⟨⟨hopen, ?_⟩, ?_, ?_⟩
    · rw [lawful_append]
      refine ⟨hlawful, ?_⟩
      rw [Act.after, List.cons_append, List.cons_append, List.nil_append, hafter]
      refine ⟨by simp [Act.Allowed], ?_, trivial⟩
      simp [Act.Allowed, Act.after, hgfd.symm, hgstdin.symm]
    · show heldAfter [stdinFileno, fd, g] (uses ++ ([.closes g] ++ [.closes fd])) = [stdinFileno]
      rw [heldAfter_append, hafter]
      simp [heldAfter, Act.after, hstdin.symm, hgstdin.symm, hgfd.symm]
    · intro q hq
      rcases List.mem_cons.mp hq with heq | hmem
      · injection heq with heq
        rw [heq]
        exact hgstdin
      · rcases List.mem_append.mp hmem with hmem | hmem
        · obtain ⟨r, -, heq⟩ := huses _ hmem
          cases heq
        · simp at hmem

lemma client_eventLoop_cases (hfd : client.conn.fd = fd) (hepoll : client.epollFd = -1)
    (hcalls : client.kernel.calls = []) (created : CreateReplies)
    (hfresh : created.create.Admissible fd) :
    (client.eventLoop created).client.Descriptors fd ∨
      (client.eventLoop created).phase = .stopped ∧
        (client.eventLoop created).client.NotStarted fd := by
  unfold Client.eventLoop
  cases hcreate : created.create with
  | failed e =>
    right
    refine ⟨rfl, hfd, hepoll, Or.inl ?_⟩
    show client.kernel.calls.map SysCall.act = []
    rw [hcalls]
    rfl
  | created g =>
    rw [hcreate] at hfresh
    obtain ⟨hgpos, hgstdin, hgfd⟩ := hfresh
    have hcases := createEpoll_cases { client.kernel with ctlScript := created.ctl } client.conn.fd
      g (initialSocketEvents client.conn)
    rw [hcalls, hfd] at hcases
    rw [hfd]
    rcases hresult : createEpollWithSocketEvents { client.kernel with ctlScript := created.ctl } fd
      (initialSocketEvents client.conn) (.created g) with ⟨epollFd, k⟩
    rw [hresult] at hcases
    dsimp only at hcases ⊢
    rcases hcases with ⟨rfl, hlog, -⟩ | ⟨rfl, hlog⟩
    · left
      have hne : ¬epollFd = -1 := by
        rintro rfl
        exact absurd hgpos (by decide)
      rw [if_neg hne]
      have hcreated : Client.Descriptors fd { client with epollFd := epollFd, kernel := k } := by
        refine ⟨hfd, ⟨hgpos, hgstdin, hgfd⟩, [.uses fd, .uses stdinFileno], ?_, ?_⟩
        · show k.calls.map SysCall.act = _
          rw [hlog]
          rfl
        · simp
      refine hcreated.sameFds ?_
      show Client.SameFds _ (Client.enterLoop { client with epollFd := epollFd, kernel := k }).2
      rw [Client.enterLoop]
      split_ifs
      · exact queueClientHello_sameFds (Client.SameFds.refl _) _
      · exact Client.SameFds.refl _
    · right
      rw [if_pos rfl]
      refine ⟨rfl, hfd, hepoll, Or.inr ⟨g, ?_⟩⟩
      rcases hlog with hlog | hlog
      · refine ⟨[.uses fd], hgstdin, hgfd, ?_, by simp⟩
        show k.calls.map SysCall.act = _
        rw [hlog]
        rfl
      · refine ⟨[.uses fd, .uses stdinFileno], hgstdin, hgfd, ?_, by simp⟩
        show k.calls.map SysCall.act = _
        rw [hlog]
        rfl

lemma clientProcess_reach (hr : (clientProcess name addr).Reach System.any p) :
    p.loop = none ∧ Clean (p.setup.map SocketCall.act) ∨
      ∃ fd l, 0 ≤ fd ∧ fd ≠ stdinFileno ∧ OpensAndUses fd p.setup ∧ p.loop = some l ∧
        (l.client.Descriptors fd ∨ l.phase = .stopped ∧ l.client.NotStarted fd) := by
  refine System.Reach.invariant (I := fun p : Process ClientLoop =>
    p.loop = none ∧ Clean (p.setup.map SocketCall.act) ∨
      ∃ fd l, 0 ≤ fd ∧ fd ≠ stdinFileno ∧ OpensAndUses fd p.setup ∧ p.loop = some l ∧
        (l.client.Descriptors fd ∨ l.phase = .stopped ∧ l.client.NotStarted fd)) ?_ ?_ hr
  · rintro p ⟨r, created, hfresh, rfl⟩
    unfold clientInit
    rcases clientConnectToServer_cases addr r hfresh.socket with
      ⟨hfailed, hclean⟩ | ⟨fd, immediately, hsocket, hconn, hraised⟩
    · rcases hresult : clientConnectToServer addr r with ⟨conn, calls⟩
      rw [hresult] at hfailed hclean
      dsimp only at hfailed
      subst hfailed
      exact Or.inl ⟨rfl, hclean⟩
    · obtain ⟨hpos, hstdin⟩ := hfresh.socket fd hsocket
      rcases hresult : clientConnectToServer addr r with ⟨conn, calls⟩
      rw [hresult] at hconn hraised
      dsimp only at hconn
      subst hconn
      refine Or.inr ⟨fd, _, hpos, hstdin, hraised, rfl, ?_⟩
      apply client_eventLoop_cases ?_ rfl rfl created (hfresh.epoll fd hsocket)
      rfl
  · rintro p i p' hp - ⟨l, l', hloop, hstep, rfl⟩
    rcases hp with ⟨hnone, -⟩ | ⟨fd, k, hpos, hstdin, hraised, hk, hcases⟩
    · rw [hnone] at hloop
      cases hloop
    · rw [hloop, Option.some.injEq] at hk
      subst hk
      refine Or.inr ⟨fd, l', hpos, hstdin, hraised, rfl, ?_⟩
      obtain ⟨hrun, hstep⟩ := clientLoopStep_cases hstep
      rcases hcases with hdesc | ⟨hstopped, -⟩
      · left
        rcases hstep with heq | ⟨r, e, es, ok, -, -, hev, -⟩
        · rw [heq]
          exact hdesc
        · have hsame := clientHandleEvent_sameFds l.client e r
          rw [hev] at hsame
          exact hdesc.sameFds hsame
      · exact absurd hstopped hrun

end Guest

/-- Whichever calls of a client fail, and wherever its loop is left: from the socket on, every
descriptor is opened, used while it is open, and closed once. -/
theorem guest_leaves_nothing_open {name : Bytes} {addr : SockAddr} {p : Process ClientLoop}
    (hr : (clientProcess name addr).Reach System.any p) :
    Clean (p.log (fun l => l.client.cleanup.kernel)) := by
  rcases clientProcess_reach hr with ⟨hnone, hclean⟩ | ⟨fd, l, hpos, hstdin, hraised, hl, hcases⟩
  · rw [Process.log, hnone]
    simpa using hclean
  · rw [Process.log, hl]
    show Clean (p.setup.map SocketCall.act ++ l.client.cleanup.kernel.acts)
    rcases hcases with hdesc | ⟨-, hnot⟩
    · obtain ⟨hlawful, hleft, hopened⟩ := hdesc.cleanup hpos hstdin
      exact hraised.closed hstdin hlawful hleft hopened
    · obtain ⟨hlawful, hleft, hopened⟩ := hnot.cleanup hpos hstdin
      exact hraised.closed hstdin hlawful hleft hopened

/-- The server refuses the connection; another client is left while its CLOSE_CON is queued. -/
theorem guest_leaves_nothing_open_leaving :
    Clean ((clientInit (ascii "ann") ⟨0x7F000001, 8080⟩
      { socket := .created 5, connect := .failed .epipe } ⟨.created 6, []⟩).log
      (fun l => l.client.cleanup.kernel)) ∧
    ∃ p l l', clientInit (ascii "ann") ⟨0x7F000001, 8080⟩ { socket := .created 5 }
        ⟨.created 6, []⟩ = p ∧ p.loop = some l ∧
      System.run clientLoopStep l leavingGuest = some l' ∧ l'.client.conn.outBuffer ≠ [] ∧
      Clean (Process.log (fun l : ClientLoop => l.client.cleanup.kernel)
        { p with loop := some l' }) := by
  have hfresh : ∀ r : SocketReplies, r.socket = .created 5 → FreshDescriptors r ⟨.created 6, []⟩ :=
    fun r hr => freshDescriptors_of hr (by decide) (by decide)
  obtain ⟨p, l, l', hp, hl, hrun, hout⟩ : ∃ p l l', clientInit (ascii "ann") ⟨0x7F000001, 8080⟩
        { socket := .created 5 } ⟨.created 6, []⟩ = p ∧ p.loop = some l ∧
      System.run clientLoopStep l leavingGuest = some l' ∧ l'.client.conn.outBuffer ≠ [] :=
    ⟨_, _, _, rfl, rfl, rfl, by decide⟩
  have hpath : (clientSystem (ascii "ann")).Path System.any l l' :=
    System.Path.of_run (fun _ _ _ h => ⟨trivial, h⟩) hrun
  have hstart : (clientProcess (ascii "ann") ⟨0x7F000001, 8080⟩).Reach System.any p :=
    System.Reach.of_init ⟨_, _, hfresh _ rfl, hp.symm⟩
  exact ⟨guest_leaves_nothing_open (System.Reach.of_init ⟨_, _, hfresh _ rfl, rfl⟩),
    p, l, l', hp, hl, hrun, hout,
    guest_leaves_nothing_open (processSystem_reach hstart hl hpath)⟩

end Chatroom
