import Mathlib.Data.List.Count
import Mathlib.Data.List.Infix
import Chatroom.Library.Transition

/-!
# Lines taken one at a time

A reader stands between a descriptor and a program. Symbols arrive on the descriptor; the
reader fetches everything that is there when its own buffer has no complete line, and it
hands out one line for each call. A program that calls the reader when the descriptor is
reported as readable takes the lines in order and none of them twice. It keeps up with what
arrives exactly as long as each fetch finds a single line, since what else was fetched is no
longer on the descriptor.
-/

namespace LineReader
open Transition

/-! ### Lines -/

section Lines

variable {α : Type*} [DecidableEq α] (nl : α)

/-- The complete lines of a stream, without their terminators. -/
def lines (stream : List α) : List (List α) :=
  (stream.splitOn nl).dropLast

/-- The stream of the given lines. -/
def unlines (ls : List (List α)) : List α :=
  ls.flatMap (fun l => l ++ [nl])

/-- Cut off the first line. -/
def cutLine : List α → Option (List α × List α)
  | [] => none
  | a :: stream =>
    if a = nl then some ([], stream) else (cutLine stream).map (fun p => (a :: p.1, p.2))

variable {nl}

lemma cutLine_none {stream : List α} (h : cutLine nl stream = none) : nl ∉ stream := by
  induction stream with
  | nil => exact List.not_mem_nil
  | cons a stream ih =>
    rw [cutLine] at h
    by_cases ha : a = nl
    · rw [if_pos ha] at h
      cases h
    · rw [if_neg ha, Option.map_eq_none_iff] at h
      rw [List.mem_cons, not_or]
      exact ⟨fun heq => ha heq.symm, ih h⟩

lemma cutLine_some {stream line rest : List α} (h : cutLine nl stream = some (line, rest)) :
    nl ∉ line ∧ stream = line ++ nl :: rest := by
  induction stream generalizing line with
  | nil => cases h
  | cons a stream ih =>
    rw [cutLine] at h
    by_cases ha : a = nl
    · rw [if_pos ha] at h
      cases h
      exact ⟨List.not_mem_nil, by rw [ha, List.nil_append]⟩
    · rw [if_neg ha, Option.map_eq_some_iff] at h
      obtain ⟨⟨line', rest'⟩, hcut, heq⟩ := h
      cases heq
      obtain ⟨hline, hstream⟩ := ih hcut
      refine ⟨?_, by rw [hstream, List.cons_append]⟩
      rw [List.mem_cons, not_or]
      exact ⟨fun heq => ha heq.symm, hline⟩

lemma lines_line {line : List α} (h : nl ∉ line) (rest : List α) :
    lines nl (line ++ nl :: rest) = line :: lines nl rest := by
  rw [lines, List.splitOn_append_cons_self_of_not_mem h, List.dropLast_cons_of_ne_nil, lines]
  exact List.splitOn_ne_nil nl rest

lemma lines_unlines {ls : List (List α)} (h : ∀ l ∈ ls, nl ∉ l) (rest : List α) :
    lines nl (unlines nl ls ++ rest) = ls ++ lines nl rest := by
  induction ls with
  | nil => rfl
  | cons l ls ih =>
    have hstream : unlines nl (l :: ls) ++ rest = l ++ nl :: (unlines nl ls ++ rest) := by
      simp [unlines]
    rw [hstream, lines_line (h l List.mem_cons_self),
      ih (fun l' hl' => h l' (List.mem_cons_of_mem l hl')), List.cons_append]

lemma length_lines (stream : List α) : (lines nl stream).length = stream.count nl := by
  have h : (stream.splitOn nl).length = stream.count nl + 1 := by
    induction stream with
    | nil => rfl
    | cons a stream ih =>
      rw [List.splitOn_cons_eq_if_modifyHead]
      by_cases ha : a = nl
      · rw [if_pos (by simp [ha]), List.length_cons, ih, ha, List.count_cons_self]
      · rw [if_neg (by simp [ha]), List.length_modifyHead, ih, List.count_cons_of_ne ha]
  rw [lines, List.length_dropLast, h, Nat.add_sub_cancel]

lemma lines_eq_nil {stream : List α} : lines nl stream = [] ↔ stream.count nl = 0 := by
  rw [← List.length_eq_zero_iff, length_lines]

end Lines

/-! ### The reader -/

/-- What is unread on the descriptor, what was fetched from it and not yet handed out, and
two history variables: everything that arrived, and the lines that were handed out. -/
structure Reader (α : Type*) where
  unread : List α := []
  buffer : List α := []
  received : List α := []
  taken : List (List α) := []
  deriving DecidableEq

namespace Reader

variable {α : Type*}

def arrive (r : Reader α) (chunk : List α) : Reader α :=
  { r with unread := r.unread ++ chunk, received := r.received ++ chunk }

variable [DecidableEq α] (nl : α)

/-- The next line. Everything unread is fetched when the buffer has no complete line; the
call does not return as long as there is none then. -/
def getline (r : Reader α) : Option (List α × Reader α) :=
  match cutLine nl r.buffer with
  | some (line, rest) => some (line, { r with buffer := rest, taken := r.taken ++ [line] })
  | none =>
    match cutLine nl (r.buffer ++ r.unread) with
    | some (line, rest) =>
      some (line, { r with unread := [], buffer := rest, taken := r.taken ++ [line] })
    | none => none

/-- When nothing is unread, every complete line that arrived was handed out, once and in
order. -/
def CaughtUp (r : Reader α) : Prop :=
  r.unread = [] → r.taken = lines nl r.received

/-- Nothing was handed out yet. The buffer may hold what somebody else fetched. -/
structure Untaken (r : Reader α) : Prop where
  taken : r.taken = []
  received : r.received = r.buffer ++ r.unread

/-- What arrived is what was handed out, then what was fetched, then what is unread. -/
structure Flows (r : Reader α) : Prop where
  stream : r.received = unlines nl r.taken ++ (r.buffer ++ r.unread)
  legal : ∀ l ∈ r.taken, nl ∉ l

variable {nl} {r r' : Reader α}

lemma getline_cases {line : List α} (h : r.getline nl = some (line, r')) :
    ∃ rest, nl ∉ line ∧
      ((r.buffer = line ++ nl :: rest ∧
          r' = { r with buffer := rest, taken := r.taken ++ [line] }) ∨
        (nl ∉ r.buffer ∧ r.buffer ++ r.unread = line ++ nl :: rest ∧
          r' = { r with unread := [], buffer := rest, taken := r.taken ++ [line] })) := by
  rw [getline] at h
  cases hbuffer : cutLine nl r.buffer with
  | some p =>
    rw [hbuffer] at h
    cases h
    obtain ⟨hline, hcut⟩ := cutLine_some hbuffer
    exact ⟨p.2, hline, Or.inl ⟨hcut, rfl⟩⟩
  | none =>
    rw [hbuffer] at h
    cases hfetched : cutLine nl (r.buffer ++ r.unread) with
    | none =>
      rw [hfetched] at h
      cases h
    | some p =>
      rw [hfetched] at h
      cases h
      obtain ⟨hline, hcut⟩ := cutLine_some hfetched
      exact ⟨p.2, hline, Or.inr ⟨cutLine_none hbuffer, hcut, rfl⟩⟩

lemma getline_taken {line : List α} (h : r.getline nl = some (line, r')) :
    r'.taken = r.taken ++ [line] := by
  obtain ⟨rest, -, ⟨-, rfl⟩ | ⟨-, -, rfl⟩⟩ := getline_cases h <;> rfl

omit [DecidableEq α] in
lemma Untaken.flows (h : r.Untaken) : r.Flows nl where
  stream := by
    rw [h.received, h.taken]
    rfl
  legal := by
    rw [h.taken]
    exact fun l hl => absurd hl List.not_mem_nil

namespace Flows

lemma lines_received (h : r.Flows nl) :
    lines nl r.received = r.taken ++ lines nl (r.buffer ++ r.unread) := by
  rw [h.stream, lines_unlines h.legal]

/-- Nothing is lost, repeated or moved. -/
lemma in_order (h : r.Flows nl) : r.taken <+: lines nl r.received := by
  rw [h.lines_received]
  exact List.prefix_append _ _

lemma caughtUp_iff (h : r.Flows nl) :
    r.CaughtUp nl ↔ (r.unread = [] → lines nl r.buffer = []) := by
  have hmissing : r.unread = [] →
      (r.taken = lines nl r.received ↔ lines nl r.buffer = []) := by
    intro hunread
    rw [h.lines_received, hunread, List.append_nil, List.self_eq_append_right]
  constructor
  · intro hcaught hunread
    exact (hmissing hunread).mp (hcaught hunread)
  · intro hempty hunread
    exact (hmissing hunread).mpr (hempty hunread)

omit [DecidableEq α] in
lemma arrive (h : r.Flows nl) (chunk : List α) : (r.arrive chunk).Flows nl where
  stream := by
    rw [Reader.arrive, h.stream]
    simp only [List.append_assoc]
  legal := h.legal

lemma getline (h : r.Flows nl) {line : List α} (hget : r.getline nl = some (line, r')) :
    r'.Flows nl := by
  obtain ⟨rest, hline, hcases⟩ := getline_cases hget
  have hlegal : ∀ l ∈ r.taken ++ [line], nl ∉ l := by
    intro l hl
    rcases List.mem_append.mp hl with hl | hl
    · exact h.legal l hl
    · rw [List.mem_singleton.mp hl]
      exact hline
  rcases hcases with ⟨hbuffer, rfl⟩ | ⟨-, hfetched, rfl⟩
  · refine ⟨?_, hlegal⟩
    rw [h.stream, hbuffer]
    simp [unlines]
  · refine ⟨?_, hlegal⟩
    rw [h.stream, hfetched]
    simp [unlines]

end Flows

lemma getline_leaves_nothing_iff (hempty : lines nl r.buffer = []) {line : List α}
    (hget : r.getline nl = some (line, r')) :
    r'.unread = [] ∧ (lines nl r'.buffer = [] ↔ (lines nl r.unread).length = 1) := by
  obtain ⟨rest, hline, ⟨hbuffer, rfl⟩ | ⟨-, hfetched, rfl⟩⟩ := getline_cases hget
  · rw [hbuffer, lines_line hline] at hempty
    cases hempty
  · refine ⟨rfl, ?_⟩
    have hcount := congrArg (List.count nl) hfetched
    have hlinecount : line.count nl = 0 := List.count_eq_zero.mpr hline
    rw [List.count_append, List.count_append, List.count_cons_self, lines_eq_nil.mp hempty,
      hlinecount] at hcount
    rw [lines_eq_nil, length_lines]
    dsimp only
    omega

end Reader

/-! ### A program in front of the reader -/

/-- A program with steps on inputs. Some of its steps take a line, which becomes a part of
the input; which steps do so does not depend on the line, and the others ignore it. Some
inputs report that the descriptor is readable. -/
structure Program (σ ι α : Type*) where
  init : σ → Prop
  next : σ → ι → Option σ
  reads : σ → ι → Bool
  supply : List α → ι → ι
  reports : ι → Bool
  reads_supply : ∀ s i line, reads s (supply line i) = reads s i
  next_supply : ∀ s i line, reads s i = false → next s (supply line i) = next s i
  supply_supply : ∀ i line line', supply line (supply line' i) = supply line i
  reports_supply : ∀ i line, reports (supply line i) = reports i

/-- A program and its reader. -/
structure Console (σ α : Type*) where
  program : σ
  reader : Reader α

/-- What happens next: whole lines arrive, or the program takes a step. -/
inductive ConsoleInput (ι α : Type*)
  | arrive (chunk : List α)
  | run (i : ι)

namespace Program

variable {σ ι α : Type*} [DecidableEq α] (P : Program σ ι α) (nl : α)

/-- One step. The descriptor is reported as readable only while something is unread, and a
line that the program takes is the next one of the reader. -/
def consoleNext (c : Console σ α) : ConsoleInput ι α → Option (Console σ α)
  | .arrive chunk =>
    if chunk.getLast? = some nl then some ⟨c.program, c.reader.arrive chunk⟩ else none
  | .run i =>
    if P.reports i = true ∧ c.reader.unread = [] then none
    else if P.reads c.program i = true then
      match c.reader.getline nl with
      | some (line, reader) => (P.next c.program (P.supply line i)).map (fun s => ⟨s, reader⟩)
      | none => none
    else (P.next c.program i).map (fun s => ⟨s, c.reader⟩)

/-- The runs of the program from a reader that has handed out nothing. -/
def console : System (Console σ α) (ConsoleInput ι α) where
  init c := P.init c.program ∧ c.reader.Untaken
  step c i c' := P.consoleNext nl c i = some c'

/-- The steps in which a line that has to be fetched is the only one on the descriptor. -/
def OneLinePerFetch (c : Console σ α) : ConsoleInput ι α → Prop
  | .arrive _ => True
  | .run i => P.reads c.program i = true → lines nl c.reader.buffer = [] →
    (lines nl c.reader.unread).length = 1

instance (c : Console σ α) (i : ConsoleInput ι α) : Decidable (P.OneLinePerFetch nl c i) :=
  match i with
  | .arrive _ => inferInstanceAs (Decidable True)
  | .run _ => inferInstanceAs (Decidable (_ → _ → _))

/-- Take the given inputs as long as they meet `Q`. -/
def consoleRun (Q : Console σ α → ConsoleInput ι α → Prop) [∀ c i, Decidable (Q c i)] :
    Console σ α → List (ConsoleInput ι α) → Option (Console σ α) :=
  System.run (fun c i => if Q c i then P.consoleNext nl c i else none)

variable {P nl} {c c' : Console σ α}

lemma consoleRun_path {Q : Console σ α → ConsoleInput ι α → Prop} [∀ c i, Decidable (Q c i)]
    {is : List (ConsoleInput ι α)} (h : P.consoleRun nl Q c is = some c') :
    (P.console nl).Path Q c c' := by
  refine System.Path.of_run ?_ h
  intro d i d' hstep
  by_cases hi : Q d i
  · rw [if_pos hi] at hstep
    exact ⟨hi, hstep⟩
  · rw [if_neg hi] at hstep
    cases hstep

lemma consoleNext_cases {i : ConsoleInput ι α} (h : P.consoleNext nl c i = some c') :
    (∃ chunk, i = .arrive chunk ∧ c' = ⟨c.program, c.reader.arrive chunk⟩) ∨
      (∃ j, i = .run j ∧ P.reads c.program j = false ∧ P.next c.program j = some c'.program ∧
        c'.reader = c.reader) ∨
      ∃ j line, i = .run j ∧ P.reads c.program j = true ∧
        P.next c.program (P.supply line j) = some c'.program ∧
        c.reader.getline nl = some (line, c'.reader) := by
  cases i with
  | arrive chunk =>
    rw [consoleNext] at h
    split_ifs at h
    cases h
    exact Or.inl ⟨chunk, rfl, rfl⟩
  | run j =>
    right
    rw [consoleNext] at h
    by_cases hreport : P.reports j = true ∧ c.reader.unread = []
    · rw [if_pos hreport] at h
      cases h
    · rw [if_neg hreport] at h
      by_cases hreads : P.reads c.program j = true
      · right
        rw [if_pos hreads] at h
        cases hget : c.reader.getline nl with
        | none =>
          rw [hget] at h
          cases h
        | some p =>
          rw [hget] at h
          obtain ⟨s, hnext, rfl⟩ := Option.map_eq_some_iff.mp h
          exact ⟨j, p.1, rfl, hreads, hnext, rfl⟩
      · left
        rw [if_neg hreads] at h
        obtain ⟨s, hnext, rfl⟩ := Option.map_eq_some_iff.mp h
        exact ⟨j, rfl, eq_false_of_ne_true hreads, hnext, rfl⟩

lemma consoleNext_line {i : ι} (hreads : P.reads c.program i = true)
    (h : P.consoleNext nl c (.run i) = some c') :
    ∃ line, c.reader.getline nl = some (line, c'.reader) ∧
      P.next c.program (P.supply line i) = some c'.program := by
  rcases consoleNext_cases h with ⟨chunk, hno, -⟩ | ⟨j, hj, hno, -, -⟩ |
    ⟨j, line, hj, -, hnext, hget⟩
  · cases hno
  · cases hj
    rw [hreads] at hno
    cases hno
  · cases hj
    exact ⟨line, hget, hnext⟩

lemma consoleNext_supply (c : Console σ α) (i : ι) (line : List α) :
    P.consoleNext nl c (.run (P.supply line i)) = P.consoleNext nl c (.run i) := by
  simp only [consoleNext, P.reports_supply, P.reads_supply, P.supply_supply]
  by_cases hreads : P.reads c.program i = true
  · rw [if_pos hreads, if_pos hreads]
  · rw [if_neg hreads, if_neg hreads, P.next_supply _ _ _ (eq_false_of_ne_true hreads)]

lemma consoleNext_flows (hflows : c.reader.Flows nl) {i : ConsoleInput ι α}
    (h : P.consoleNext nl c i = some c') : c'.reader.Flows nl := by
  rcases consoleNext_cases h with ⟨chunk, -, rfl⟩ | ⟨j, -, -, -, hreader⟩ |
    ⟨j, line, -, -, -, hget⟩
  · exact hflows.arrive chunk
  · rw [hreader]
    exact hflows
  · exact hflows.getline hget

theorem reach_flows {Q : Console σ α → ConsoleInput ι α → Prop}
    (hr : (P.console nl).Reach Q c) : c.reader.Flows nl := by
  apply hr.invariant (I := fun d => d.reader.Flows nl)
  · intro d hd
    exact hd.2.flows
  · intro d i d' hflows _ hstep
    exact consoleNext_flows hflows hstep

lemma consoleNext_empty_iff (hempty : lines nl c.reader.buffer = []) {i : ConsoleInput ι α}
    (h : P.consoleNext nl c i = some c') :
    (lines nl c'.reader.buffer = [] ↔ P.OneLinePerFetch nl c i) ∧
      (¬P.OneLinePerFetch nl c i → c'.reader.unread = []) := by
  rcases consoleNext_cases h with ⟨chunk, rfl, rfl⟩ | ⟨j, rfl, hreads, -, hreader⟩ |
    ⟨j, line, rfl, hreads, -, hget⟩
  · exact ⟨⟨fun _ => trivial, fun _ => hempty⟩, fun hno => absurd trivial hno⟩
  · have hmeets : P.OneLinePerFetch nl c (.run j) := by
      intro hreads'
      rw [hreads] at hreads'
      cases hreads'
    rw [hreader]
    exact ⟨⟨fun _ => hmeets, fun _ => hempty⟩, fun hno => absurd hmeets hno⟩
  · obtain ⟨hunread, hiff⟩ := Reader.getline_leaves_nothing_iff hempty hget
    refine ⟨?_, fun _ => hunread⟩
    rw [hiff]
    exact ⟨fun hone _ _ => hone, fun hmeets => hmeets hreads hempty⟩

lemma init_caughtUp_iff (hinit : (P.console nl).init c) (hunread : c.reader.unread = []) :
    c.reader.CaughtUp nl ↔ lines nl c.reader.buffer = [] := by
  rw [hinit.2.flows.caughtUp_iff]
  exact ⟨fun h => h hunread, fun h _ => h⟩

section Run

variable {c₀ : Console σ α} (hinit : (P.console nl).init c₀)
  (hstart : lines nl c₀.reader.buffer = []) (hp : (P.console nl).Path (P.OneLinePerFetch nl) c₀ c)

include hstart hp

/-- In a run that starts without a complete line in the buffer and whose fetches each find a
single line, no complete line stays in the buffer. -/
theorem path_empty : lines nl c.reader.buffer = [] := by
  refine hp.preserves (I := fun d => lines nl d.reader.buffer = []) ?_ hstart
  intro d i d' hempty hmeets hstep
  exact (consoleNext_empty_iff hempty hstep).1.mpr hmeets

include hinit

theorem path_caughtUp : c.reader.CaughtUp nl :=
  (reach_flows ⟨c₀, hinit, hp⟩).caughtUp_iff.mpr (fun _ => path_empty hstart hp)

theorem path_step_caughtUp_iff {i : ConsoleInput ι α} (h : P.consoleNext nl c i = some c') :
    c'.reader.CaughtUp nl ↔ P.OneLinePerFetch nl c i := by
  have hflows := consoleNext_flows (reach_flows ⟨c₀, hinit, hp⟩) h
  obtain ⟨hiff, hunread⟩ := consoleNext_empty_iff (path_empty hstart hp) h
  rw [hflows.caughtUp_iff]
  constructor
  · intro hcaught
    by_contra hno
    exact hno (hiff.mp (hcaught (hunread hno)))
  · intro hmeets _
    exact hiff.mpr hmeets

end Run

end Program

end LineReader
