import Chatroom.Library.LineReader
import Chatroom.Proofs.Contract
import Chatroom.Proofs.Runs

/-!
# The loops at their consoles

Both event loops wait for descriptor 0 and then take one line from `std::cin`, which keeps
what it fetched from the descriptor and did not hand out. A loop with its `std::cin` is a
program in front of a line reader: which of its steps call `std::getline` is read off the
dispatch, and no other handler looks at the line.
-/

namespace Chatroom
open Transition LineReader

/-- Descriptor 0 is among the reported events. -/
def reportsStdin (es : List EpollEvent) : Bool :=
  es.any (fun e => decide (e.fd = stdinFileno ∧ e.events.has epollIn))

/-! ### The host -/

/-- The event gets the handler of standard input. -/
def Server.readsStdin (s : Server) (e : EpollEvent) : Bool :=
  s.dispatch e (fun _ => false) (fun _ => false) (fun _ => false) (fun _ => false)
    (fun _ => false) (fun _ => true)

lemma dispatch_of_not_reads {β : Type} {s : Server} {e : EpollEvent} (h : s.readsStdin e = false)
    (skip accept hello send read f g : Server → β) :
    s.dispatch e skip accept hello send read f = s.dispatch e skip accept hello send read g := by
  unfold Server.readsStdin Server.dispatch at h
  unfold Server.dispatch
  split
  · rfl
  · rename_i t hskip
    simp only [hskip] at h
    by_cases haccept : t.eventIsAcceptClientConnection e.fd e.events = true
    · rw [if_pos haccept, if_pos haccept]
    · rw [if_neg haccept] at h ⊢
      rw [if_neg haccept]
      split
      · rfl
      · rename_i u hhello
        simp only [hhello] at h
        split
        · rfl
        · rename_i v hsend
          simp only [hsend] at h
          split
          · rfl
          · rename_i w hread
            simp only [hread] at h
            by_cases hstdin : w.eventIsReadStdin e.fd e.events = true
            · rw [if_pos hstdin] at h
              cases h
            · rw [if_neg hstdin, if_neg hstdin]

lemma readsStdin_iff {s : Server} (hreg : s.Registry) (hlisten : s.listenFd ≠ stdinFileno)
    (ctl : List (Option Errno)) (cache : Option ℕ) (e : EpollEvent) :
    (s.tuned ctl cache).readsStdin e = true ↔
      s.serverClosing = false ∧ e.fd = stdinFileno ∧ e.events.has epollIn := by
  rw [Server.readsStdin]
  by_cases hclosing : s.serverClosing = true
  · rw [dispatch_closing hreg.distinct hclosing]
    cases s.find e.fd <;> simp [hclosing]
  · have hopen : s.serverClosing = false := by simpa using hclosing
    by_cases haccept : e.fd = s.listenFd ∧ e.events.has epollIn
    · have hfd : e.fd ≠ stdinFileno := haccept.1 ▸ hlisten
      rw [dispatch_accept hopen haccept]
      simp [hfd]
    · rw [dispatch_open hreg.distinct hopen haccept]
      cases hfind : s.find e.fd with
      | none => simp [hopen]
      | some c =>
        obtain ⟨hc, hcfd⟩ := Server.find_some hfind
        have hfd : e.fd ≠ stdinFileno := hcfd ▸ (hreg.client_fd c hc).2.1
        simp [hfd]

lemma Loop.nextEvent_some {l : Loop} {e : EpollEvent} (h : l.nextEvent = some e) :
    ∃ es, l.phase = .handling (e :: es) := by
  rw [Loop.nextEvent] at h
  split at h
  · rename_i e' es hphase
    cases h
    exact ⟨es, hphase⟩
  · cases h

/-- `handle_read_stdin_event` is called in this step of the loop. -/
def Loop.reads (l : Loop) : LoopInput → Bool
  | .replies r =>
    l.nextEvent.any (fun e => (l.server.tuned r.ctl l.server.cachedConnection).readsStdin e)
  | .events _ | .waitFailed _ | .endOfBatch => false

/-- The input with the line that `std::getline` returns. -/
def LoopInput.supply (line : Bytes) : LoopInput → LoopInput
  | .replies r => .replies { r with line := some line }
  | i => i

def LoopInput.reports : LoopInput → Bool
  | .events es => reportsStdin es
  | .waitFailed _ | .replies _ | .endOfBatch => false

lemma serverLoopStep_supply {l : Loop} {i : LoopInput} (h : l.reads i = false) (line : Bytes) :
    serverLoopStep l (i.supply line) = serverLoopStep l i := by
  cases i with
  | events es => rfl
  | waitFailed e => rfl
  | endOfBatch => rfl
  | replies r =>
    unfold serverLoopStep LoopInput.supply
    cases hphase : l.phase with
    | waiting => rfl
    | stopped => rfl
    | handling es =>
      cases es with
      | nil => rfl
      | cons e es =>
        have hreads : (l.server.tuned r.ctl l.server.cachedConnection).readsStdin e = false := by
          rw [Loop.reads, Loop.nextEvent, hphase] at h
          exact h
        dsimp only
        rw [handleEvent_dispatch, handleEvent_dispatch, dispatch_of_not_reads hreads]

/-- The loop of a host called `name`, with the reader behind `std::getline`. -/
def hostProgram (name : Bytes) : Program Loop LoopInput Byte where
  init := (serverSystem name).init
  next := admittedStep System.any
  reads := Loop.reads
  supply := LoopInput.supply
  reports := LoopInput.reports
  reads_supply l i line := by
    cases i <;> rfl
  next_supply l i line h := by
    have hadm : (i.supply line).Admissible l ↔ i.Admissible l := by
      cases i <;> rfl
    rw [admittedStep, admittedStep, serverLoopStep_supply h]
    simp only [hadm]
    rfl
  supply_supply i line line' := by
    cases i <;> rfl
  reports_supply i line := by
    cases i <;> rfl

lemma host_loop {name : Bytes} {Q : Console Loop Byte → ConsoleInput LoopInput Byte → Prop}
    {c : Console Loop Byte} (hr : ((hostProgram name).console newline).Reach Q c) :
    (serverSystem name).Reach System.any c.program := by
  apply hr.invariant (I := fun d => (serverSystem name).Reach System.any d.program)
  · intro d hd
    exact System.Reach.of_init hd.1
  · intro d i d' hd _ hstep
    have hloop : ∀ j, admittedStep System.any d.program j = some d'.program →
        (serverSystem name).Reach System.any d'.program := by
      intro j hnext
      obtain ⟨hadm, -, hnext⟩ := admittedStep_some.mp hnext
      exact hd.snoc trivial ⟨hadm, hnext⟩
    rcases Program.consoleNext_cases hstep with ⟨chunk, -, rfl⟩ | ⟨j, -, -, hnext, -⟩ |
      ⟨j, line, -, -, hnext, -⟩
    · exact hd
    · exact hloop j hnext
    · exact hloop _ hnext

/-- The step handles an event that reports descriptor 0 as readable, and the room is open. -/
def Loop.StdinEvent (l : Loop) : LoopInput → Prop
  | .replies _ =>
    l.server.serverClosing = false ∧ ∃ e ∈ l.nextEvent, e.fd = stdinFileno ∧ e.events.has epollIn
  | .events _ | .waitFailed _ | .endOfBatch => False

/-- In this step the loop calls `handle_read_stdin_event` with `line`. -/
def Loop.HandlesLine (l : Loop) (i : LoopInput) (line : Bytes) (l' : Loop) : Prop :=
  ∃ r ok, i = .replies r ∧
    (l.server.tuned r.ctl none).handleReadStdinEvent (some line) = (ok, l'.server)

section Host

variable {name : Bytes} {Q : Console Loop Byte → ConsoleInput LoopInput Byte → Prop}
  {c c' : Console Loop Byte} (hr : ((hostProgram name).console newline).Reach Q c)

include hr

theorem host_reads_iff (i : LoopInput) : c.program.reads i = true ↔ c.program.StdinEvent i := by
  cases i with
  | events es => exact iff_of_false Bool.false_ne_true id
  | waitFailed e => exact iff_of_false Bool.false_ne_true id
  | endOfBatch => exact iff_of_false Bool.false_ne_true id
  | replies r =>
    rw [Loop.reads, Loop.StdinEvent]
    cases hnext : c.program.nextEvent with
    | none => simp
    | some e =>
      obtain ⟨es, hphase⟩ := Loop.nextEvent_some hnext
      have hrun := Loop.running_of_handling hphase
      have hloop := host_loop hr
      have hreads := readsStdin_iff (reach_inv hloop hrun).sound.registry
        (reach_listenFd hloop hrun) r.ctl c.program.server.cachedConnection e
      simpa using hreads

theorem host_takes_line {i : LoopInput} (hreads : c.program.reads i = true)
    (hstep : (hostProgram name).consoleNext newline c (.run i) = some c') :
    ∃ line, c.reader.getline newline = some (line, c'.reader) ∧
      c.program.HandlesLine i line c'.program := by
  obtain ⟨line, hget, hnext⟩ := Program.consoleNext_line hreads hstep
  refine ⟨line, hget, ?_⟩
  have hevent := (host_reads_iff hr i).mp hreads
  cases i with
  | events es => exact hevent.elim
  | waitFailed e => exact hevent.elim
  | endOfBatch => exact hevent.elim
  | replies r =>
    obtain ⟨hopen, e, hfirst, he⟩ := hevent
    obtain ⟨-, -, hloopStep⟩ := admittedStep_some.mp hnext
    obtain ⟨e', es, ok, hphase, hev, -⟩ := serverLoopStep_replies hloopStep
    have hrun := Loop.running_of_handling hphase
    have hloop := host_loop hr
    rw [Loop.nextEvent, hphase] at hfirst
    cases hfirst
    rw [handleEvent_stdin (reach_inv hloop hrun).sound.registry _ (reach_listenFd hloop hrun) hopen
      he] at hev
    exact ⟨r, ok, rfl, hev⟩

end Host

/-! ### A client -/

def ClientLoop.nextEvent (l : ClientLoop) : Option EpollEvent :=
  match l.phase with
  | .handling (e :: _) => some e
  | _ => none

/-- `handle_read_stdin_event` is called in this step of the loop. -/
def ClientLoop.reads (l : ClientLoop) : ClientInput → Bool
  | .replies _ => l.nextEvent.any (fun e => decide (l.client.readsStdin e))
  | .events _ | .waitFailed _ | .endOfBatch => false

def ClientInput.supply (line : Bytes) : ClientInput → ClientInput
  | .replies r => .replies { r with line := some line }
  | i => i

def ClientInput.reports : ClientInput → Bool
  | .events es => reportsStdin es
  | .waitFailed _ | .replies _ | .endOfBatch => false

lemma clientHandleEvent_line {client : Client} {e : EpollEvent} (h : ¬client.readsStdin e)
    (r : ClientReplies) (line : Option Bytes) :
    client.handleEvent e { r with line := line } = client.handleEvent e r := by
  rw [clientHandleEvent_eq, clientHandleEvent_eq]
  dsimp only
  by_cases hskip : (client.clientQuitting && !client.eventIsSendNetworkMessage e.fd e.events) = true
  · rw [if_pos hskip, if_pos hskip]
  · rw [if_neg hskip, if_neg hskip]
    by_cases hconnect : client.eventIsCheckConnectionSuccess e.fd e.events = true
    · rw [if_pos hconnect, if_pos hconnect]
    · rw [if_neg hconnect, if_neg hconnect]
      by_cases hsend : client.eventIsSendNetworkMessage e.fd e.events = true
      · rw [if_pos hsend, if_pos hsend]
      · rw [if_neg hsend, if_neg hsend]
        by_cases hread : client.eventIsReadNetworkMessage e.fd e.events = true
        · rw [if_pos hread, if_pos hread]
        · have hstdin : ¬client.eventIsReadStdin e.fd e.events = true := by
            intro hstdin
            have hboth := hstdin
            rw [Client.eventIsReadStdin, Bool.and_eq_true, Bool.not_eq_true'] at hboth
            exact h ⟨hboth.1, eq_false_of_ne_true hconnect, eq_false_of_ne_true hsend,
              eq_false_of_ne_true hread, hstdin⟩
          rw [if_neg hread, if_neg hread, if_neg hstdin, if_neg hstdin]

lemma clientLoopStep_supply {l : ClientLoop} {i : ClientInput} (h : l.reads i = false)
    (line : Bytes) : clientLoopStep l (i.supply line) = clientLoopStep l i := by
  cases i with
  | events es => rfl
  | waitFailed e => rfl
  | endOfBatch => rfl
  | replies r =>
    unfold clientLoopStep ClientInput.supply
    cases hphase : l.phase with
    | waiting => rfl
    | stopped => rfl
    | handling es =>
      cases es with
      | nil => rfl
      | cons e es =>
        rw [ClientLoop.reads, ClientLoop.nextEvent, hphase] at h
        have hreads : ¬l.client.readsStdin e := of_decide_eq_false h
        dsimp only
        rw [clientHandleEvent_line hreads]

/-- The step handles an event that reports descriptor 0 as readable (which is not the socket),
and the client does not quit. -/
def ClientLoop.StdinEvent (l : ClientLoop) : ClientInput → Prop
  | .replies _ =>
    l.client.clientQuitting = false ∧ l.client.conn.fd ≠ stdinFileno ∧
      ∃ e ∈ l.nextEvent, e.fd = stdinFileno ∧ e.events.has epollIn
  | .events _ | .waitFailed _ | .endOfBatch => False

/-- In this step the loop calls `handle_read_stdin_event` with `line`. -/
def ClientLoop.HandlesLine (l : ClientLoop) (i : ClientInput) (line : Bytes) (l' : ClientLoop) :
    Prop :=
  ∃ r ok, i = .replies r ∧
    (l.client.tuned r.ctl).handleReadStdinEvent (some line) = (ok, l'.client)

lemma client_reads {l : ClientLoop} {i : ClientInput} (h : l.StdinEvent i) : l.reads i = true := by
  cases i with
  | events es => exact h.elim
  | waitFailed e => exact h.elim
  | endOfBatch => exact h.elim
  | replies r =>
    obtain ⟨hquit, hfd, e, hfirst, hstdin, hhas⟩ := h
    have hne : e.fd ≠ l.client.conn.fd := fun h => hfd (h.symm.trans hstdin)
    have hreads : l.client.readsStdin e := by
      refine ⟨hquit, ?_, ?_, ?_, ?_⟩
      · simp [Client.eventIsCheckConnectionSuccess, hne]
      · simp [Client.eventIsSendNetworkMessage, hne]
      · simp [Client.eventIsReadNetworkMessage, hne]
      · simp [Client.eventIsReadStdin, hquit, hstdin, hhas]
    rw [ClientLoop.reads, Option.mem_def.mp hfirst, Option.any_some]
    exact decide_eq_true hreads

/-- The loop of a client called `name`, with the reader behind `std::getline`. -/
def clientProgram (name : Bytes) : Program ClientLoop ClientInput Byte where
  init := (clientSystem name).init
  next := clientLoopStep
  reads := ClientLoop.reads
  supply := ClientInput.supply
  reports := ClientInput.reports
  reads_supply l i line := by
    cases i <;> rfl
  next_supply l i line h := clientLoopStep_supply h line
  supply_supply i line line' := by
    cases i <;> rfl
  reports_supply i line := by
    cases i <;> rfl

theorem client_takes_line {name : Bytes} {c c' : Console ClientLoop Byte} {i : ClientInput}
    (hreads : c.program.reads i = true)
    (hstep : (clientProgram name).consoleNext newline c (.run i) = some c') :
    ∃ line, c.reader.getline newline = some (line, c'.reader) ∧
      c.program.HandlesLine i line c'.program := by
  obtain ⟨line, hget, hnext⟩ := Program.consoleNext_line hreads hstep
  refine ⟨line, hget, ?_⟩
  cases i with
  | events es => cases hreads
  | waitFailed e => cases hreads
  | endOfBatch => cases hreads
  | replies r =>
    obtain ⟨e, es, ok, hphase, hev, -⟩ := clientLoopStep_replies hnext
    rw [ClientLoop.reads, ClientLoop.nextEvent, hphase, Option.any_some,
      decide_eq_true_iff] at hreads
    obtain ⟨hquit, hconnect, hsend, hread, hstdin⟩ := hreads
    rw [clientHandleEvent_eq] at hev
    simp only [hquit, hconnect, hsend, hread, hstdin, Bool.false_and, Bool.false_eq_true, if_false,
      if_true] at hev
    exact ⟨r, ok, rfl, hev⟩

end Chatroom
