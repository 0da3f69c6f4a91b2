import Chatroom.Proofs.Consoles
import Chatroom.Proofs.Erasure

/-!
# Typed lines

Whether every typed line is processed. Lines are processed in order and once; but the event
loops look at the descriptor only, and one event takes one line, so that a line which is
fetched along with the one before it waits in `std::cin` until something else is typed.
-/

namespace Chatroom
open Transition LineReader

/-- The loop runs, the room is open, and every reported event was handled. -/
def Loop.AtRest (l : Loop) : Prop :=
  l.Running ∧ l.server.serverClosing = false ∧ l.pending = []

instance (l : ClientLoop) : Decidable l.Running :=
  inferInstanceAs (Decidable (_ ≠ _))

/-- The loop runs, the client is in the room and does not quit, and every reported event was
handled. -/
def ClientLoop.AtRest (l : ClientLoop) : Prop :=
  l.Running ∧ l.client.clientQuitting = false ∧ l.client.conn.state = .active ∧
    (l.phase = .waiting ∨ l.phase = .handling [])

/-- `std::cin` holds no complete line. -/
def NoLineBuffered {σ : Type} (c : Console σ Byte) : Prop :=
  lines newline c.reader.buffer = []

/-- No typed line is left behind in the runs from a console that meets `start` by steps that
meet `Q`: whenever the loop is at rest and nothing is unread on descriptor 0,
`handle_read_stdin_event` was called for every complete line that had not been read before the
loop was entered, once and in order. -/
def NoLineLeftBehind {σ ι : Type} (P : Program σ ι Byte) (atRest : σ → Prop)
    (start : Console σ Byte → Prop) (Q : Console σ Byte → ConsoleInput ι Byte → Prop) : Prop :=
  ∀ c₀ c, (P.console newline).init c₀ → start c₀ → (P.console newline).Path Q c₀ c →
    atRest c.program → c.reader.CaughtUp newline

/-- What becomes of the lines that are typed at a console: a line is taken exactly when the loop
is told of descriptor 0, it is the one that `handle_read_stdin_event` gets, and lines are taken
in order. None is left behind if `std::cin` holds no complete line at the start and every fetch
finds a single line, and neither condition can be dropped. -/
structure HandlesTypedLines {σ ι : Type} (P : Program σ ι Byte) (atRest : σ → Prop)
    (told : σ → ι → Prop) (handles : σ → ι → Bytes → σ → Prop) : Prop where
  keepsUp : NoLineLeftBehind P atRest NoLineBuffered (P.OneLinePerFetch newline)
  start_iff : ∀ c, (P.console newline).init c → c.reader.unread = [] →
    (c.reader.CaughtUp newline ↔ NoLineBuffered c)
  step_iff : ∀ c₀ c i c', (P.console newline).init c₀ → NoLineBuffered c₀ →
    (P.console newline).Path (P.OneLinePerFetch newline) c₀ c →
    P.consoleNext newline c i = some c' →
    (c'.reader.CaughtUp newline ↔ P.OneLinePerFetch newline c i)
  inOrder : ∀ c, (P.console newline).Reach System.any c →
    c.reader.taken <+: lines newline c.reader.received
  asked : ∀ c i c', (P.console newline).Reach System.any c → told c.program i →
    P.consoleNext newline c (.run i) = some c' →
    ∃ line, c'.reader.taken = c.reader.taken ++ [line] ∧ handles c.program i line c'.program
  taken : ∀ c i c', (P.console newline).Reach System.any c →
    P.consoleNext newline c i = some c' → c'.reader.taken = c.reader.taken ∨
      ∃ j line, i = .run j ∧ c'.reader.taken = c.reader.taken ++ [line] ∧
        handles c.program j line c'.program
  typed : ∀ c i line,
    P.consoleNext newline c (.run (P.supply line i)) = P.consoleNext newline c (.run i)

lemma handlesTypedLines {σ ι : Type} {P : Program σ ι Byte} {atRest : σ → Prop}
    {told : σ → ι → Prop} {handles : σ → ι → Bytes → σ → Prop}
    (hreads : ∀ c i, (P.console newline).Reach System.any c → told c.program i →
      P.reads c.program i = true)
    (htakes : ∀ c i c', (P.console newline).Reach System.any c → P.reads c.program i = true →
      P.consoleNext newline c (.run i) = some c' →
      ∃ line, c.reader.getline newline = some (line, c'.reader) ∧
        handles c.program i line c'.program) : HandlesTypedLines P atRest told handles where
  keepsUp c₀ c hinit hstart hp _ := Program.path_caughtUp hinit hstart hp
  start_iff c hinit hunread := Program.init_caughtUp_iff hinit hunread
  step_iff c₀ c i c' hinit hstart hp hstep :=
    Program.path_step_caughtUp_iff hinit hstart hp hstep
  inOrder c hr := (Program.reach_flows hr).in_order
  asked c i c' hr htold hstep := by
    obtain ⟨line, hget, hhandles⟩ := htakes c i c' hr (hreads c i hr htold) hstep
    exact ⟨line, Reader.getline_taken hget, hhandles⟩
  taken c i c' hr hstep := by
    rcases Program.consoleNext_cases hstep with ⟨chunk, -, rfl⟩ | ⟨j, -, -, -, hreader⟩ |
      ⟨j, -, rfl, hj, -, -⟩
    · exact Or.inl rfl
    · exact Or.inl (congrArg Reader.taken hreader)
    · obtain ⟨line, hget, hhandles⟩ := htakes c j c' hr hj hstep
      exact Or.inr ⟨j, line, rfl, Reader.getline_taken hget, hhandles⟩
  typed c i line := Program.consoleNext_supply c i line

/-! ### Typing -/

/-- Some lines arrive in one chunk, descriptor 0 is reported, and the batch is handled. -/
def hostTyping (ls : List Bytes) : List (ConsoleInput LoopInput Byte) :=
  [.arrive (unlines newline ls), .run (.events [⟨stdinFileno, epollIn⟩]), .run (.replies {}),
    .run .endOfBatch]

def clientTyping (ls : List Bytes) : List (ConsoleInput ClientInput Byte) :=
  [.arrive (unlines newline ls), .run (.events [⟨stdinFileno, epollIn⟩]), .run (.replies {}),
    .run .endOfBatch]

/-- A client sends its introduction, and its socket becomes readable. -/
def clientIntroduces (fd : Fd) : List (ConsoleInput ClientInput Byte) :=
  [.run (.events [⟨fd, epollOut⟩]), .run (.replies { sends := [.count 1000] }), .run .endOfBatch,
    .run (.events [⟨fd, epollIn⟩])]

/-- The SERVER_HELLO of `host` is read. -/
def serverHelloArrives (host : Bytes) : ClientReplies :=
  { recvs := [.bytes (encodeFrame (Message.of .serverHello host))] }

/-- The client when it has the bytes of the SERVER_HELLO, and when it has handled it. -/
def Client.fetched (client : Client) (host : Bytes) : Client :=
  ((client.tuned []).call (.recv client.conn.fd)).withConn
    (client.conn.ingested (serverHelloArrives host).recvs)

def Client.welcomed (client : Client) (host : Bytes) : Client :=
  let fetched := client.fetched host
  ((fetched.withConn (fetched.conn.cut (Message.of .serverHello host) [])).handleNetworkMessage
    (Message.of .serverHello host)).2

section Welcome

variable {l : ClientLoop} {es : List EpollEvent} (host : Bytes)
  (hphase : l.phase = .handling (⟨l.client.conn.fd, epollIn⟩ :: es))
  (hquit : l.client.clientQuitting = false)
  (hst : l.client.conn.state = .waitingForServerHello)

include hquit hst

lemma tests_of_waiting :
    l.client.eventIsCheckConnectionSuccess l.client.conn.fd epollIn = false ∧
      l.client.eventIsSendNetworkMessage l.client.conn.fd epollIn = false ∧
      l.client.eventIsReadNetworkMessage l.client.conn.fd epollIn = true := by
  have hhas : epollIn.has (epollIn ||| epollRdhup ||| epollHup) := by decide
  refine ⟨?_, ?_, ?_⟩
  · simp [Client.eventIsCheckConnectionSuccess, hst]
  · simp [Client.eventIsSendNetworkMessage, hst, hquit]
  · simp [Client.eventIsReadNetworkMessage, hst, hquit, hhas]

include hphase

lemma reads_of_waiting : l.reads (.replies (serverHelloArrives host)) = false := by
  obtain ⟨-, -, hread⟩ := tests_of_waiting hquit hst
  rw [ClientLoop.reads, ClientLoop.nextEvent, hphase, Option.any_some]
  apply decide_eq_false
  intro hreads
  exact Bool.false_ne_true (hreads.2.2.2.1.symm.trans hread)

lemma clientLoopStep_welcome (hbuf : l.client.conn.inBuffer = [])
    (hhost : protocolPayloadLengthIsLegal host.length) :
    clientLoopStep l (.replies (serverHelloArrives host)) =
      some ⟨l.client.welcomed host, .handling es⟩ := by
  obtain ⟨hconnect, hsend, hread⟩ := tests_of_waiting hquit hst
  have hpos : 0 < (encodeFrame (Message.of .serverHello host)).length :=
    List.length_pos_of_ne_nil (frameCodec.encode_ne_nil (Message.of_wellFormed hhost))
  have hend : recvEnd (serverHelloArrives host).recvs = .wouldBlock := by
    simp [serverHelloArrives, recvEnd, hpos]
  have hdata : recvData (serverHelloArrives host).recvs =
      encodeFrame (Message.of .serverHello host) := by
    simp [serverHelloArrives, recvData, hpos]
  have hstate : (l.client.fetched host).conn.state = .waitingForServerHello := by
    rw [Client.fetched, Connection.ingested, hend]
    exact hst
  have hp : parseFrame (l.client.fetched host).conn.inBuffer =
      .frame (Message.of .serverHello host) [] := by
    have hframe := parseFrame_encode (Message.of .serverHello host) [] (Message.of_wellFormed hhost)
    have hin : (l.client.fetched host).conn.inBuffer =
        l.client.conn.inBuffer ++ recvData (serverHelloArrives host).recvs := rfl
    rw [hin, hbuf, hdata, List.nil_append]
    rw [List.append_nil] at hframe
    exact hframe
  have hreact : ((l.client.fetched host).withConn ((l.client.fetched host).conn.cut
      (Message.of .serverHello host) [])).handleNetworkMessage (Message.of .serverHello host) =
      (true, l.client.welcomed host) ∧ (l.client.welcomed host).conn.state = .active := by
    have hwaiting : ((l.client.fetched host).withConn ((l.client.fetched host).conn.cut
        (Message.of .serverHello host) [])).conn.state = .waitingForServerHello := hstate
    rw [Client.welcomed, Client.handleNetworkMessage, if_pos hwaiting]
    exact ⟨rfl, rfl⟩
  have hloop : (l.client.fetched host).readMessages = (true, l.client.welcomed host) :=
    Client.readMessages_single (by rw [hstate]; decide) hp hreact.1 hreact.2
  have hev : l.client.handleEvent ⟨l.client.conn.fd, epollIn⟩ (serverHelloArrives host) =
      (true, l.client.welcomed host) := by
    rw [clientHandleEvent_eq]
    simp only [hquit, hconnect, hsend, hread, Bool.false_and, Bool.false_eq_true, if_false, if_true]
    rw [Client.handleRead_eq, if_neg (by rw [hend]; decide)]
    exact hloop
  rw [clientLoopStep, hphase]
  simp only [hev]

end Welcome

lemma path_welcomed {Q : Console ClientLoop Byte → ConsoleInput ClientInput Byte → Prop}
    {name : Bytes} (host : Bytes) {c₀ c : Console ClientLoop Byte} {es : List EpollEvent}
    (hp : ((clientProgram name).console newline).Path Q c₀ c)
    (hq : Q c (.run (.replies (serverHelloArrives host))))
    (hphase : c.program.phase = .handling (⟨c.program.client.conn.fd, epollIn⟩ :: es))
    (hquit : c.program.client.clientQuitting = false)
    (hst : c.program.client.conn.state = .waitingForServerHello)
    (hbuf : c.program.client.conn.inBuffer = [])
    (hhost : protocolPayloadLengthIsLegal host.length) :
    ((clientProgram name).console newline).Path Q c₀
      ⟨⟨c.program.client.welcomed host, .handling es⟩, c.reader⟩ := by
  have hreads : (clientProgram name).reads c.program (.replies (serverHelloArrives host)) = false :=
    reads_of_waiting host hphase hquit hst
  have hnext : (clientProgram name).next c.program (.replies (serverHelloArrives host)) =
      some ⟨c.program.client.welcomed host, .handling es⟩ :=
    clientLoopStep_welcome host hphase hquit hst hbuf hhost
  have hreport : ¬((clientProgram name).reports (.replies (serverHelloArrives host)) = true ∧
      c.reader.unread = []) := fun h => Bool.false_ne_true h.1
  apply hp.snoc hq
  show (clientProgram name).consoleNext newline c _ = some _
  rw [Program.consoleNext, if_neg hreport, hreads, hnext]
  rfl

/-- A host and a client, each with nothing on its descriptor 0. -/
def hostConsole : Console Loop Byte :=
  ⟨⟨initialServer (ascii "host") 3 4, .waiting⟩, {}⟩

def clientConsole : Console ClientLoop Byte :=
  ⟨startedClient (createdClient (ascii "ann") 5 6 true []), {}⟩

lemma hostConsole_init : ((hostProgram (ascii "host")).console newline).init hostConsole :=
  ⟨⟨3, 4, by decide, rfl⟩, rfl, rfl⟩

lemma clientConsole_init : ((clientProgram (ascii "ann")).console newline).init clientConsole :=
  ⟨⟨5, 6, true, [], rfl⟩, rfl, rfl⟩

lemma host_leaves_a_line : ∃ c,
    ((hostProgram (ascii "host")).console newline).Path System.any hostConsole c ∧
    c.program.AtRest ∧ c.reader.received = unlines newline [ascii "hello", ascii "world"] ∧
    c.reader.unread = [] ∧ c.reader.taken = [ascii "hello"] ∧
    c.program.server.roomLog = [.hostChat (ascii "host") (ascii "hello")] := by
  obtain ⟨c, hc, hrest, hfacts⟩ : ∃ c,
      (hostProgram (ascii "host")).consoleRun newline System.any hostConsole
        (hostTyping [ascii "hello", ascii "world"]) = some c ∧ c.program.AtRest ∧
      c.reader.received = unlines newline [ascii "hello", ascii "world"] ∧
      c.reader.unread = [] ∧ c.reader.taken = [ascii "hello"] ∧
      c.program.server.roomLog = [.hostChat (ascii "host") (ascii "hello")] :=
    ⟨_, rfl, ⟨by decide, rfl, rfl⟩, rfl, rfl, rfl, rfl⟩
  exact ⟨c, Program.consoleRun_path hc, hrest, hfacts⟩

lemma client_leaves_a_line : ∃ c,
    ((clientProgram (ascii "ann")).console newline).Path System.any clientConsole c ∧
    c.program.AtRest ∧ c.reader.received = unlines newline [ascii "hello", ascii "world"] ∧
    c.reader.unread = [] ∧ c.reader.taken = [ascii "hello"] ∧
    c.program.client.conn.queued =
      [clientGreeting (ascii "ann"), Message.of .chat (ascii "hello")] := by
  obtain ⟨k, c, hk, hphase, hquit, hst, hbuf, hc, hrest, hfacts⟩ : ∃ k c,
      (clientProgram (ascii "ann")).consoleRun newline System.any clientConsole
        (clientIntroduces 5) = some k ∧
      k.program.phase = .handling [⟨k.program.client.conn.fd, epollIn⟩] ∧
      k.program.client.clientQuitting = false ∧
      k.program.client.conn.state = .waitingForServerHello ∧ k.program.client.conn.inBuffer = [] ∧
      (clientProgram (ascii "ann")).consoleRun newline System.any
        ⟨⟨k.program.client.welcomed (ascii "host"), .handling []⟩, k.reader⟩
        (.run .endOfBatch :: clientTyping [ascii "hello", ascii "world"]) = some c ∧
      c.program.AtRest ∧ c.reader.received = unlines newline [ascii "hello", ascii "world"] ∧
      c.reader.unread = [] ∧ c.reader.taken = [ascii "hello"] ∧
      c.program.client.conn.queued =
        [clientGreeting (ascii "ann"), Message.of .chat (ascii "hello")] :=
    ⟨_, _, rfl, rfl, rfl, rfl, rfl, rfl, ⟨by decide, rfl, rfl, Or.inl rfl⟩, rfl, rfl, rfl, rfl⟩
  have hentered := path_welcomed (ascii "host") (Program.consoleRun_path hk) trivial hphase
    hquit hst hbuf (by decide)
  exact ⟨c, hentered.trans (Program.consoleRun_path hc), hrest, hfacts⟩

lemma not_caughtUp_of_missing {r : Reader Byte} {l l' : Bytes} (hl : newline ∉ l)
    (hl' : newline ∉ l') (hreceived : r.received = unlines newline [l, l'])
    (hunread : r.unread = []) (htaken : r.taken = [l]) : ¬r.CaughtUp newline := by
  intro hcaught
  have hlines : lines newline (unlines newline [l, l'] ++ []) = [l, l'] ++ lines newline [] := by
    apply lines_unlines
    simp [hl, hl']
  have h := hcaught hunread
  rw [htaken, hreceived, ← List.append_nil (unlines newline [l, l']), hlines] at h
  simp at h

/-- Two lines that arrive in one chunk: both programs process the first, and nothing reports
the second, which `std::cin` has already fetched. -/
theorem typed_lines_are_left_behind :
    (∃ c, ((hostProgram (ascii "host")).console newline).Path System.any hostConsole c ∧
      c.program.AtRest ∧ c.reader.received = unlines newline [ascii "hello", ascii "world"] ∧
      c.reader.unread = [] ∧ c.reader.taken = [ascii "hello"] ∧
      c.program.server.roomLog = [.hostChat (ascii "host") (ascii "hello")]) ∧
    (∃ c, ((clientProgram (ascii "ann")).console newline).Path System.any clientConsole c ∧
      c.program.AtRest ∧ c.reader.received = unlines newline [ascii "hello", ascii "world"] ∧
      c.reader.unread = [] ∧ c.reader.taken = [ascii "hello"] ∧
      c.program.client.conn.queued =
        [clientGreeting (ascii "ann"), Message.of .chat (ascii "hello")]) ∧
    ¬NoLineLeftBehind (hostProgram (ascii "host")) Loop.AtRest (fun c => c.reader = {})
      System.any ∧
    ¬NoLineLeftBehind (clientProgram (ascii "ann")) ClientLoop.AtRest (fun c => c.reader = {})
      System.any := by
  have hhello : newline ∉ ascii "hello" := by decide
  have hworld : newline ∉ ascii "world" := by decide
  refine ⟨host_leaves_a_line, client_leaves_a_line, ?_, ?_⟩
  · intro hclaim
    obtain ⟨c, hp, hrest, hreceived, hunread, htaken, -⟩ := host_leaves_a_line
    exact not_caughtUp_of_missing hhello hworld hreceived hunread htaken
      (hclaim hostConsole c hostConsole_init rfl hp hrest)
  · intro hclaim
    obtain ⟨c, hp, hrest, hreceived, hunread, htaken, -⟩ := client_leaves_a_line
    exact not_caughtUp_of_missing hhello hworld hreceived hunread htaken
      (hclaim clientConsole c clientConsole_init rfl hp hrest)

lemma host_types_in_turn : ∃ c d d',
    ((hostProgram (ascii "host")).console newline).Path
      ((hostProgram (ascii "host")).OneLinePerFetch newline) hostConsole c ∧
    c.program.AtRest ∧ c.reader.unread = [] ∧ c.reader.taken = [ascii "hello", ascii "world"] ∧
    ((hostProgram (ascii "host")).console newline).Path
      ((hostProgram (ascii "host")).OneLinePerFetch newline) hostConsole d ∧
    (hostProgram (ascii "host")).consoleNext newline d (.run (.replies {})) = some d' ∧
    ¬(hostProgram (ascii "host")).OneLinePerFetch newline d (.run (.replies {})) := by
  obtain ⟨c, d, d', hc, hrest, hunread, htaken, hd, hd', hmany⟩ : ∃ c d d',
      (hostProgram (ascii "host")).consoleRun newline
        ((hostProgram (ascii "host")).OneLinePerFetch newline) hostConsole
        (hostTyping [ascii "hello"] ++ hostTyping [ascii "world"]) = some c ∧
      c.program.AtRest ∧ c.reader.unread = [] ∧ c.reader.taken = [ascii "hello", ascii "world"] ∧
      (hostProgram (ascii "host")).consoleRun newline
        ((hostProgram (ascii "host")).OneLinePerFetch newline) c
        ((hostTyping [ascii "quick", ascii "lines"]).take 2) = some d ∧
      (hostProgram (ascii "host")).consoleNext newline d (.run (.replies {})) = some d' ∧
      ¬(hostProgram (ascii "host")).OneLinePerFetch newline d (.run (.replies {})) :=
    ⟨_, _, _, rfl, ⟨by decide, rfl, rfl⟩, rfl, rfl, rfl, rfl, by decide⟩
  have hp := Program.consoleRun_path hc
  exact ⟨c, d, d', hp, hrest, hunread, htaken, hp.trans (Program.consoleRun_path hd), hd', hmany⟩

lemma client_types_in_turn : ∃ c d d',
    ((clientProgram (ascii "ann")).console newline).Path
      ((clientProgram (ascii "ann")).OneLinePerFetch newline) clientConsole c ∧
    c.program.AtRest ∧ c.reader.unread = [] ∧ c.reader.taken = [ascii "hello", ascii "world"] ∧
    ((clientProgram (ascii "ann")).console newline).Path
      ((clientProgram (ascii "ann")).OneLinePerFetch newline) clientConsole d ∧
    (clientProgram (ascii "ann")).consoleNext newline d (.run (.replies {})) = some d' ∧
    ¬(clientProgram (ascii "ann")).OneLinePerFetch newline d (.run (.replies {})) := by
  obtain ⟨k, c, d, d', hk, hphase, hquit, hst, hbuf, hq, hc, hrest, hunread, htaken, hd, hd',
      hmany⟩ : ∃ k c d d',
      (clientProgram (ascii "ann")).consoleRun newline
        ((clientProgram (ascii "ann")).OneLinePerFetch newline) clientConsole
        (clientIntroduces 5) = some k ∧
      k.program.phase = .handling [⟨k.program.client.conn.fd, epollIn⟩] ∧
      k.program.client.clientQuitting = false ∧
      k.program.client.conn.state = .waitingForServerHello ∧ k.program.client.conn.inBuffer = [] ∧
      (clientProgram (ascii "ann")).OneLinePerFetch newline k
        (.run (.replies (serverHelloArrives (ascii "host")))) ∧
      (clientProgram (ascii "ann")).consoleRun newline
        ((clientProgram (ascii "ann")).OneLinePerFetch newline)
        ⟨⟨k.program.client.welcomed (ascii "host"), .handling []⟩, k.reader⟩
        (.run .endOfBatch :: clientTyping [ascii "hello"] ++ clientTyping [ascii "world"]) =
          some c ∧
      c.program.AtRest ∧ c.reader.unread = [] ∧ c.reader.taken = [ascii "hello", ascii "world"] ∧
      (clientProgram (ascii "ann")).consoleRun newline
        ((clientProgram (ascii "ann")).OneLinePerFetch newline) c
        ((clientTyping [ascii "quick", ascii "lines"]).take 2) = some d ∧
      (clientProgram (ascii "ann")).consoleNext newline d (.run (.replies {})) = some d' ∧
      ¬(clientProgram (ascii "ann")).OneLinePerFetch newline d (.run (.replies {})) :=
    ⟨_, _, _, _, rfl, rfl, rfl, rfl, rfl, by decide, rfl, ⟨by decide, rfl, rfl, Or.inl rfl⟩, rfl,
      rfl, rfl, rfl, by decide⟩
  have hentered := path_welcomed (ascii "host") (Program.consoleRun_path hk) hq hphase hquit hst
    hbuf (by decide)
  have hp := hentered.trans (Program.consoleRun_path hc)
  exact ⟨c, d, d', hp, hrest, hunread, htaken, hp.trans (Program.consoleRun_path hd), hd', hmany⟩

/-- In both programs no typed line is left behind as long as `std::cin` holds no complete line
when the loop is entered and a line that `std::getline` has to fetch is the only one on the
descriptor; the first step in which it is not leaves a line behind. -/
theorem typed_lines_are_fetched_singly (host name : Bytes) :
    HandlesTypedLines (hostProgram host) Loop.AtRest Loop.StdinEvent Loop.HandlesLine ∧
    HandlesTypedLines (clientProgram name) ClientLoop.AtRest ClientLoop.StdinEvent
      ClientLoop.HandlesLine := by
  constructor
  · apply handlesTypedLines
    · intro c i hr htold
      exact (host_reads_iff hr i).mpr htold
    · intro c i c' hr hreads hstep
      exact host_takes_line hr hreads hstep
  · apply handlesTypedLines
    · intro c i _ htold
      exact client_reads htold
    · intro c i c' _ hreads hstep
      exact client_takes_line hreads hstep

/-- A host and a client keep up with two lines that arrive one after the other, and fall behind
when two more arrive in one chunk. -/
theorem typed_lines_are_fetched_singly_in_turn :
    (∃ c d d', ((hostProgram (ascii "host")).console newline).Path
        ((hostProgram (ascii "host")).OneLinePerFetch newline) hostConsole c ∧
      c.reader.taken = [ascii "hello", ascii "world"] ∧
      c.reader.taken = lines newline c.reader.received ∧
      (hostProgram (ascii "host")).consoleNext newline d (.run (.replies {})) = some d' ∧
      ¬d'.reader.CaughtUp newline) ∧
    ∃ c d d', ((clientProgram (ascii "ann")).console newline).Path
        ((clientProgram (ascii "ann")).OneLinePerFetch newline) clientConsole c ∧
      c.reader.taken = [ascii "hello", ascii "world"] ∧
      c.reader.taken = lines newline c.reader.received ∧
      (clientProgram (ascii "ann")).consoleNext newline d (.run (.replies {})) = some d' ∧
      ¬d'.reader.CaughtUp newline := by
  obtain ⟨hhost, hclient⟩ := typed_lines_are_fetched_singly (ascii "host") (ascii "ann")
  constructor
  · obtain ⟨c, d, d', hc, hrest, hunread, htaken, hd, hd', hmany⟩ := host_types_in_turn
    have hall := hhost.keepsUp hostConsole c hostConsole_init rfl hc hrest hunread
    refine ⟨c, d, d', hc, htaken, hall, hd', ?_⟩
    rw [hhost.step_iff hostConsole d _ d' hostConsole_init rfl hd hd']
    exact hmany
  · obtain ⟨c, d, d', hc, hrest, hunread, htaken, hd, hd', hmany⟩ := client_types_in_turn
    have hall := hclient.keepsUp clientConsole c clientConsole_init rfl hc hrest hunread
    refine ⟨c, d, d', hc, htaken, hall, hd', ?_⟩
    rw [hclient.step_iff clientConsole d _ d' clientConsole_init rfl hd hd']
    exact hmany

end Chatroom
