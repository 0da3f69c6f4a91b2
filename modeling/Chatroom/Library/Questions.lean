import Mathlib.Data.List.Basic
import Mathlib.Data.List.SplitBy
import Mathlib.Data.List.TakeWhile

/-!
# Questions to a terminal

Formatted input from a stream with an end-of-file and a failure flag, and the loop around it:
print a prompt and read a token; when nothing can be read, clear the flags, drop the line and
ask again; when what was read will not do, ask again at once. Whether such a question is ever
answered, with what, and what it leaves to be read is a function of the lines that are typed.
-/

namespace Questions

/-! ### The input stream -/

/-- What is left to be read, and the flags. After the last symbol the end of file stands. -/
structure InputStream (α : Type*) where
  rest : List α
  eof : Bool := false
  fail : Bool := false
  deriving DecidableEq

/-- How a value is cut off a text that starts with it: within a line, and not for nothing. -/
structure Token {α : Type*} (nl : α) (β : Type*) where
  cut : List α → Option β × List α
  suffix : ∀ l, (cut l).2 <:+ l
  shorter : ∀ l v, (cut l).1 = some v → (cut l).2.length < l.length
  within : ∀ l more, nl ∉ l → cut (l ++ nl :: more) = ((cut l).1, (cut l).2 ++ nl :: more)

namespace InputStream

variable {α β : Type*}

def good (s : InputStream α) : Bool :=
  !s.eof && !s.fail

def clear (s : InputStream α) : InputStream α :=
  { s with eof := false, fail := false }

/-- The stream that still has this text, after an extraction that succeeded. -/
def after (rest : List α) : InputStream α where
  rest := rest
  eof := rest.isEmpty

/-- Skip blanks before a formatted extraction. -/
def skipBlanks (space : α → Bool) (s : InputStream α) : InputStream α :=
  if s.good then
    match s.rest.dropWhile space with
    | [] => { rest := [], eof := true, fail := true }
    | rest => { s with rest := rest }
  else { s with fail := true }

/-- A formatted extraction. -/
def extract (space : α → Bool) {nl : α} (token : Token nl β) (s : InputStream α) :
    Option β × InputStream α :=
  let s := s.skipBlanks space
  if s.good then
    let r := token.cut s.rest
    (r.1, { rest := r.2, eof := r.2.isEmpty, fail := r.1.isNone })
  else (none, s)

/-- Drop everything up to the next terminator, and the terminator. -/
def ignoreLine [DecidableEq α] (nl : α) (s : InputStream α) : InputStream α :=
  if s.good then
    match s.rest.dropWhile (fun a => !decide (a = nl)) with
    | [] => { s with rest := [], eof := true }
    | _ :: rest => { s with rest := rest }
  else { s with fail := true }

end InputStream

/-! ### Asking -/

/-- An input stream and what was printed. -/
structure Terminal (α : Type*) where
  input : InputStream α
  output : List α

/-- What is asked for, and the comments on what will not do. -/
structure Question {α : Type*} (nl : α) (β γ : Type*) where
  token : Token nl β
  accept : β → Option γ
  prompt : List α
  unreadable : List α := []
  refused : List α := []

namespace Terminal

variable {α : Type*}

def print (t : Terminal α) (text : List α) : Terminal α :=
  { t with output := t.output ++ text }

def withInput (t : Terminal α) (input : InputStream α) : Terminal α :=
  { t with input := input }

end Terminal

section Asking

variable {α β γ : Type*} [DecidableEq α] {nl : α}

/-- Ask until there is an answer, at most so many times. -/
def Question.ask (q : Question nl β γ) (space : α → Bool) :
    ℕ → Terminal α → Option (γ × Terminal α)
  | 0, _ => none
  | fuel + 1, t =>
    let t := t.print q.prompt
    match t.input.extract space q.token with
    | (none, input) => q.ask space fuel
        ((t.print q.unreadable).withInput (input.clear.ignoreLine nl))
    | (some v, input) =>
      match q.accept v with
      | some c => some (c, t.withInput input)
      | none => q.ask space fuel ((t.print q.refused).withInput input)

end Asking

/-! ### Answers, line by line -/

section Answers

variable {α β γ : Type*} {nl : α}

/-- The first token of a line that will do, and the rest of the line; nothing once the line has
something else. -/
def Question.inLine (q : Question nl β γ) (space : α → Bool) (line : List α) :
    Option (γ × List α) :=
  match _h : q.token.cut (line.dropWhile space) with
  | (none, _) => none
  | (some v, rest) =>
    match q.accept v with
    | some c => some (c, rest)
    | none => q.inLine space rest
  termination_by line.length
  decreasing_by
    have hshorter := q.token.shorter (line.dropWhile space) v (by rw [_h])
    rw [_h] at hshorter
    exact hshorter.trans_le (List.length_dropWhile_le _ _)

/-- The answer in the first line that has one, and the lines from there on. -/
def Question.answer (q : Question nl β γ) (space : α → Bool) :
    List (List α) → Option (γ × List (List α))
  | [] => none
  | line :: lines =>
    match q.inLine space line with
    | some (c, rest) => some (c, rest :: lines)
    | none => q.answer space lines

lemma Question.inLine_some {q : Question nl β γ} {space : α → Bool} {line rest : List α} {c : γ}
    (h : q.inLine space line = some (c, rest)) :
    rest <:+ line ∧ ∃ text v, (q.token.cut text).1 = some v ∧ q.accept v = some c := by
  fun_induction q.inLine space line with
  | case1 line rest' hcut => cases h
  | case2 line v rest' hcut c' hc =>
    cases h
    have hsuffix := q.token.suffix (line.dropWhile space)
    rw [hcut] at hsuffix
    exact ⟨hsuffix.trans (List.dropWhile_suffix space), _, v, by rw [hcut], hc⟩
  | case3 line v rest' hcut hc ih =>
    obtain ⟨hrest, haccepted⟩ := ih h
    have hsuffix := q.token.suffix (line.dropWhile space)
    rw [hcut] at hsuffix
    exact ⟨(hrest.trans hsuffix).trans (List.dropWhile_suffix space), haccepted⟩

lemma Question.answer_some {q : Question nl β γ} {space : α → Bool} {lines left : List (List α)}
    {c : γ} (h : q.answer space lines = some (c, left)) :
    ∃ before line rest later, lines = before ++ line :: later ∧ left = rest :: later ∧
      q.inLine space line = some (c, rest) := by
  induction lines with
  | nil => cases h
  | cons line lines ih =>
    rw [answer] at h
    cases hin : q.inLine space line with
    | some r =>
      obtain ⟨c', rest⟩ := r
      rw [hin] at h
      cases h
      exact ⟨[], line, rest, lines, rfl, rfl, hin⟩
    | none =>
      rw [hin] at h
      obtain ⟨before, line', rest, later, rfl, hleft, hin'⟩ := ih h
      exact ⟨line :: before, line', rest, later, rfl, hleft, hin'⟩

lemma Question.answer_lines {q : Question nl β γ} {space : α → Bool} {lines left : List (List α)}
    {c : γ} (h : q.answer space lines = some (c, left)) (hlines : ∀ line ∈ lines, nl ∉ line) :
    ∀ line ∈ left, nl ∉ line := by
  obtain ⟨before, line, rest, later, rfl, rfl, hin⟩ := answer_some h
  rw [List.forall_mem_append, List.forall_mem_cons] at hlines
  rw [List.forall_mem_cons]
  exact ⟨fun hmem => hlines.2.1 ((inLine_some hin).1.mem hmem), hlines.2.2⟩

lemma Question.answer_accepted {q : Question nl β γ} {space : α → Bool}
    {lines left : List (List α)} {c : γ} (h : q.answer space lines = some (c, left)) :
    ∃ text v, (q.token.cut text).1 = some v ∧ q.accept v = some c := by
  obtain ⟨before, line, rest, later, -, -, hin⟩ := answer_some h
  exact (inLine_some hin).2

end Answers

/-! ### One attempt -/

namespace InputStream

variable {α β : Type*} {nl : α} {space : α → Bool} {token : Token nl β} {s : InputStream α}

/-- The next extraction is not doomed, unless there is nothing left. -/
def Usable (s : InputStream α) : Prop :=
  s.fail = false ∧ (s.eof = true → s.rest = [])

lemma usable_after (rest : List α) : (after rest).Usable :=
  ⟨rfl, fun h => List.isEmpty_iff.mp h⟩

lemma skipBlanks_blank (h : s.Usable) (hblank : s.rest.dropWhile space = []) :
    s.skipBlanks space = { rest := [], eof := true, fail := true } := by
  obtain ⟨rest, eof, fail⟩ := s
  obtain ⟨rfl : fail = false, hend⟩ := h
  dsimp only at hblank hend
  cases eof with
  | true =>
    obtain rfl := hend rfl
    simp [skipBlanks, good]
  | false => simp [skipBlanks, good, hblank]

lemma skipBlanks_text (h : s.Usable) (htext : s.rest.dropWhile space ≠ []) :
    s.skipBlanks space = { rest := s.rest.dropWhile space } := by
  obtain ⟨rest, eof, fail⟩ := s
  obtain ⟨rfl : fail = false, hend⟩ := h
  dsimp only at htext hend
  cases eof with
  | true =>
    obtain rfl := hend rfl
    exact absurd rfl htext
  | false =>
    unfold skipBlanks
    rw [if_pos (by rfl)]
    dsimp only
    split
    · next hnil => exact absurd hnil htext
    · rfl

lemma extract_blank (h : s.Usable) (hblank : s.rest.dropWhile space = []) :
    s.extract space token = (none, { rest := [], eof := true, fail := true }) := by
  rw [extract, skipBlanks_blank h hblank]
  rfl

lemma extract_text (h : s.Usable) (htext : s.rest.dropWhile space ≠ []) :
    s.extract space token =
      ((token.cut (s.rest.dropWhile space)).1,
        { rest := (token.cut (s.rest.dropWhile space)).2
          eof := (token.cut (s.rest.dropWhile space)).2.isEmpty
          fail := (token.cut (s.rest.dropWhile space)).1.isNone }) := by
  rw [extract, skipBlanks_text h htext]
  rfl

lemma extract_congr {s' : InputStream α} (h : s.Usable) (h' : s'.Usable)
    (hrest : s.rest.dropWhile space = s'.rest.dropWhile space) :
    s.extract space token = s'.extract space token := by
  by_cases hblank : s'.rest.dropWhile space = []
  · rw [extract_blank h (hrest.trans hblank), extract_blank h' hblank]
  · rw [extract_text h (by rwa [hrest]), extract_text h' hblank, hrest]

lemma ignoreLine_clear_end [DecidableEq α] {rest : List α} (eof fail : Bool) (h : nl ∉ rest) :
    (clear { rest := rest, eof := eof, fail := fail }).ignoreLine nl =
      { rest := [], eof := true, fail := false } := by
  have hdrop : rest.dropWhile (fun a => !decide (a = nl)) = [] := by
    rw [List.dropWhile_eq_nil_iff]
    intro a ha
    simp only [Bool.not_eq_true', decide_eq_false_iff_not]
    rintro rfl
    exact h ha
  simp [clear, ignoreLine, good, hdrop]

lemma ignoreLine_clear_line [DecidableEq α] {rest more : List α} (eof fail : Bool)
    (h : nl ∉ rest) :
    (clear { rest := rest ++ nl :: more, eof := eof, fail := fail }).ignoreLine nl =
      { rest := more, eof := false, fail := false } := by
  have hdrop : (rest ++ nl :: more).dropWhile (fun a => !decide (a = nl)) = nl :: more := by
    rw [List.dropWhile_append_of_pos]
    · simp
    · intro a ha
      simp only [Bool.not_eq_true', decide_eq_false_iff_not]
      rintro rfl
      exact h ha
  simp [clear, ignoreLine, good, hdrop]

end InputStream

/-- What is left when the first `line` of a text is read up: nothing, or the other lines. -/
def Tail {α : Type*} (nl : α) (tail : List α) : Prop :=
  tail = [] ∨ ∃ more, tail = nl :: more

/-- The text of some lines after the first. -/
def LinesAfter {α : Type*} (nl : α) (lines : List (List α)) (tail : List α) : Prop :=
  lines = [] ∧ tail = [] ∨ lines ≠ [] ∧ tail = nl :: [nl].intercalate lines

lemma LinesAfter.tail {α : Type*} {nl : α} {lines : List (List α)} {tail : List α}
    (h : LinesAfter nl lines tail) : Tail nl tail := by
  rcases h with ⟨-, rfl⟩ | ⟨-, rfl⟩
  · exact Or.inl rfl
  · exact Or.inr ⟨_, rfl⟩

lemma intercalate_tail {α : Type*} (nl : α) (lines : List (List α)) :
    ∃ tail, LinesAfter nl lines tail ∧
      ∀ line : List α, [nl].intercalate (line :: lines) = line ++ tail := by
  cases lines with
  | nil => exact ⟨[], Or.inl ⟨rfl, rfl⟩, fun line => by simp⟩
  | cons line' lines =>
    exact ⟨nl :: [nl].intercalate (line' :: lines), Or.inr ⟨by simp, rfl⟩, fun line => by simp⟩

section Lines

variable {α β : Type*} {nl : α} {space : α → Bool} {token : Token nl β} {s : InputStream α}

lemma Token.cut_append (token : Token nl β) {line tail : List α} (hline : nl ∉ line)
    (htail : Tail nl tail) :
    token.cut (line ++ tail) = ((token.cut line).1, (token.cut line).2 ++ tail) := by
  rcases htail with rfl | ⟨more, rfl⟩
  · rw [List.append_nil, List.append_nil]
  · exact token.within line more hline

lemma Token.cut_nil (token : Token nl β) : (token.cut []).1 = none := by
  by_contra h
  obtain ⟨v, hv⟩ := Option.ne_none_iff_exists'.mp h
  exact absurd (token.shorter [] v hv) (Nat.not_lt_zero _)

lemma InputStream.extract_line {line tail : List α}
    (h : s.Usable) (hrest : s.rest = line ++ tail) (hline : nl ∉ line) (htail : Tail nl tail)
    (htext : line.dropWhile space ≠ []) :
    s.extract space token =
      ((token.cut (line.dropWhile space)).1,
        { rest := (token.cut (line.dropWhile space)).2 ++ tail
          eof := ((token.cut (line.dropWhile space)).2 ++ tail).isEmpty
          fail := (token.cut (line.dropWhile space)).1.isNone }) := by
  have hdrop : s.rest.dropWhile space = line.dropWhile space ++ tail := by
    rw [hrest, List.dropWhile_append, if_neg]
    rwa [List.isEmpty_iff]
  have hskipped : nl ∉ line.dropWhile space :=
    fun hmem => hline ((List.dropWhile_suffix space).mem hmem)
  have hnil : s.rest.dropWhile space ≠ [] := by
    rw [hdrop]
    exact List.append_ne_nil_of_left_ne_nil htext tail
  rw [extract_text h hnil, hdrop, token.cut_append hskipped htail]

lemma Token.text_of_cut {text rest : List α} {v : β} (hcut : token.cut text = (some v, rest)) :
    text ≠ [] := by
  rintro rfl
  have hnone := token.cut_nil
  rw [hcut] at hnone
  cases hnone

lemma InputStream.extract_cut {line tail rest : List α} {v : β} (h : s.Usable)
    (hrest : s.rest = line ++ tail) (hline : nl ∉ line) (htail : Tail nl tail)
    (hcut : token.cut (line.dropWhile space) = (some v, rest)) :
    s.extract space token = (some v, .after (rest ++ tail)) := by
  rw [extract_line h hrest hline htail (Token.text_of_cut hcut), hcut]
  rfl

end Lines

/-! ### A whole question -/

section Loop

variable {α β γ : Type*} [DecidableEq α] {nl : α} {space : α → Bool} {q : Question nl β γ}
  {t t' t'' : Terminal α} {c : γ}

/-- With enough fuel `f` returns `r`, and the lines that `r` leaves are left to be read; with less
it returns nothing. -/
def Computes (nl : α) (f : ℕ → Option (γ × Terminal α)) (r : Option (γ × List (List α))) : Prop :=
  match r with
  | some (c, left) => ∃ t, t.input = .after ([nl].intercalate left) ∧
      (∃ n, ∀ fuel, n ≤ fuel → f fuel = some (c, t)) ∧ ∀ fuel, f fuel = none ∨ f fuel = some (c, t)
  | none => ∀ fuel, f fuel = none

/-- The question is answered so, given enough attempts. -/
def Question.Answers (q : Question nl β γ) (space : α → Bool) (t : Terminal α) (c : γ)
    (t' : Terminal α) : Prop :=
  ∃ n, ∀ fuel, n ≤ fuel → q.ask space fuel t = some (c, t')

/-- The question is never answered. -/
def Question.Unanswered (q : Question nl β γ) (space : α → Bool) (t : Terminal α) : Prop :=
  ∀ fuel, q.ask space fuel t = none

/-- After some attempts the loop is at `t'`. -/
def Question.Resumes (q : Question nl β γ) (space : α → Bool) (t t' : Terminal α) : Prop :=
  ∃ n, ∀ fuel, q.ask space (n + fuel) t = q.ask space fuel t'

namespace Question

lemma Resumes.refl (t : Terminal α) : q.Resumes space t t :=
  ⟨0, fun fuel => by rw [Nat.zero_add]⟩

lemma Resumes.trans (h : q.Resumes space t t') (h' : q.Resumes space t' t'') :
    q.Resumes space t t'' := by
  obtain ⟨n, hn⟩ := h
  obtain ⟨m, hm⟩ := h'
  refine ⟨n + m, ?_⟩
  intro fuel
  rw [Nat.add_assoc, hn, hm]

lemma Resumes.answers (h : q.Resumes space t t') (h' : q.Answers space t' c t'') :
    q.Answers space t c t'' := by
  obtain ⟨n, hn⟩ := h
  obtain ⟨m, hm⟩ := h'
  refine ⟨n + m, ?_⟩
  intro fuel hfuel
  obtain ⟨k, rfl⟩ := Nat.exists_eq_add_of_le hfuel
  rw [Nat.add_assoc, hn, hm _ (Nat.le_add_right m k)]

lemma ask_mono {n m : ℕ} (hnm : n ≤ m) {r : γ × Terminal α} (h : q.ask space n t = some r) :
    q.ask space m t = some r := by
  induction n generalizing m t with
  | zero => cases h
  | succ n ih =>
    obtain ⟨m, rfl⟩ := Nat.exists_eq_add_of_le' (Nat.zero_lt_of_lt hnm)
    have hle : n ≤ m := Nat.le_of_succ_le_succ hnm
    rw [ask] at h ⊢
    split at h
    · exact ih hle h
    · next v input hread =>
      split at h
      · exact h
      · exact ih hle h

lemma Resumes.unanswered (h : q.Resumes space t t') (h' : q.Unanswered space t') :
    q.Unanswered space t := by
  obtain ⟨n, hn⟩ := h
  intro fuel
  by_contra hanswer
  obtain ⟨r, hr⟩ := Option.ne_none_iff_exists'.mp hanswer
  have hmore := ask_mono (Nat.le_add_left fuel n) hr
  rw [hn, h'] at hmore
  cases hmore

lemma Answers.computes (h : q.Answers space t c t') :
    (∃ n, ∀ fuel, n ≤ fuel → q.ask space fuel t = some (c, t')) ∧
      ∀ fuel, q.ask space fuel t = none ∨ q.ask space fuel t = some (c, t') := by
  refine ⟨h, ?_⟩
  obtain ⟨n, hn⟩ := h
  intro fuel
  cases hask : q.ask space fuel t with
  | none => exact Or.inl rfl
  | some r =>
    right
    rw [← hn _ (Nat.le_add_right n fuel), ask_mono (Nat.le_add_left fuel n) hask]

lemma Resumes.computes (h : q.Resumes space t t') {r : Option (γ × List (List α))}
    (h' : Computes nl (fun fuel => q.ask space fuel t') r) :
    Computes nl (fun fuel => q.ask space fuel t) r := by
  cases r with
  | none => exact h.unanswered h'
  | some r =>
    obtain ⟨c, left⟩ := r
    obtain ⟨u, hinput, hanswers, -⟩ := h'
    exact ⟨u, hinput, (h.answers hanswers).computes⟩

lemma unanswered_of_end (h : t.input.Usable) (hend : t.input.rest.dropWhile space = []) :
    q.Unanswered space t := by
  intro fuel
  induction fuel generalizing t with
  | zero => rfl
  | succ fuel ih =>
    have hread : (t.print q.prompt).input.extract space q.token =
        (none, { rest := [], eof := true, fail := true }) :=
      InputStream.extract_blank h hend
    rw [ask, hread]
    dsimp only
    rw [InputStream.ignoreLine_clear_end true true List.not_mem_nil]
    exact ih ⟨rfl, fun _ => rfl⟩ rfl

lemma Resumes.step (h : ∀ fuel, q.ask space (fuel + 1) t = q.ask space fuel t') :
    q.Resumes space t t' := by
  refine ⟨1, ?_⟩
  intro fuel
  rw [Nat.add_comm, h]

lemma along_line (space : α → Bool) {line tail : List α} (h : t.input.Usable)
    (hrest : t.input.rest = line ++ tail) (hline : nl ∉ line) (htail : Tail nl tail) :
    match q.inLine space line with
    | some (c, rest) => ∃ t', q.Answers space t c t' ∧ t'.input = .after (rest ++ tail)
    | none => ∃ t' left, q.Resumes space t t' ∧ t'.input.Usable ∧
        t'.input.rest = left ++ tail ∧ nl ∉ left ∧
        (q.token.cut (left.dropWhile space)).1 = none := by
  fun_induction q.inLine space line generalizing t with
  | case1 line rest hcut =>
    exact ⟨t, line, Resumes.refl t, h, hrest, hline, by rw [hcut]⟩
  | case2 line v rest hcut c hc =>
    have hread : (t.print q.prompt).input.extract space q.token = (some v, .after (rest ++ tail)) :=
      InputStream.extract_cut h hrest hline htail hcut
    refine ⟨(t.print q.prompt).withInput (.after (rest ++ tail)), ⟨1, ?_⟩, rfl⟩
    intro fuel hfuel
    obtain ⟨fuel, rfl⟩ := Nat.exists_eq_add_of_le' hfuel
    rw [ask, hread]
    dsimp only
    rw [hc]
  | case3 line v rest hcut hc ih =>
    have hread : (t.print q.prompt).input.extract space q.token = (some v, .after (rest ++ tail)) :=
      InputStream.extract_cut h hrest hline htail hcut
    have hsuffix := q.token.suffix (line.dropWhile space)
    rw [hcut] at hsuffix
    have hleft : nl ∉ rest :=
      fun hmem => hline ((hsuffix.trans (List.dropWhile_suffix space)).mem hmem)
    have hresumes : q.Resumes space t
        (((t.print q.prompt).print q.refused).withInput (.after (rest ++ tail))) := by
      apply Resumes.step
      intro fuel
      rw [ask, hread]
      dsimp only
      rw [hc]
    have hline' := ih (t := ((t.print q.prompt).print q.refused).withInput (.after (rest ++ tail)))
      (InputStream.usable_after (rest ++ tail)) rfl hleft
    split at hline'
    · obtain ⟨t', hanswers, hinput⟩ := hline'
      exact ⟨t', hresumes.answers hanswers, hinput⟩
    · obtain ⟨t', left, hmore, hrest'⟩ := hline'
      exact ⟨t', left, hresumes.trans hmore, hrest'⟩

lemma after_line {line tail : List α} (h : t.input.Usable) (hrest : t.input.rest = line ++ tail)
    (hline : nl ∉ line) (htail : Tail nl tail) (hspace : space nl = true)
    (hnone : (q.token.cut (line.dropWhile space)).1 = none) :
    (tail = [] → q.Unanswered space t) ∧
      ∀ more, tail = nl :: more →
        ∃ t', q.Resumes space t t' ∧ t'.input.Usable ∧ t'.input.rest = more := by
  by_cases htext : line.dropWhile space = []
  · constructor
    · rintro rfl
      apply unanswered_of_end h
      rw [hrest, List.append_nil, htext]
    · rintro more rfl
      -- The extraction skips the terminator with the other blanks.
      refine ⟨t.withInput (.after more), ⟨0, ?_⟩, InputStream.usable_after more, rfl⟩
      have hdrop : t.input.rest.dropWhile space = more.dropWhile space := by
        rw [hrest, List.dropWhile_append, htext]
        simp [hspace]
      have hread : (t.print q.prompt).input.extract space q.token =
          ((t.withInput (.after more)).print q.prompt).input.extract space q.token :=
        InputStream.extract_congr h (InputStream.usable_after more) hdrop
      intro fuel
      rw [Nat.zero_add]
      cases fuel with
      | zero => rfl
      | succ fuel =>
        rw [ask, ask, hread]
        rfl
  · have hread : (t.print q.prompt).input.extract space q.token = _ :=
      InputStream.extract_line h hrest hline htail htext
    rw [hnone] at hread
    have hsuffix := (q.token.suffix (line.dropWhile space)).trans (List.dropWhile_suffix space)
    have hleft : nl ∉ (q.token.cut (line.dropWhile space)).2 := fun hmem => hline (hsuffix.mem hmem)
    constructor
    · rintro rfl
      rw [List.append_nil] at hread
      have hresumes : q.Resumes space t (((t.print q.prompt).print q.unreadable).withInput
          { rest := [], eof := true, fail := false }) := by
        apply Resumes.step
        intro fuel
        rw [ask, hread]
        dsimp only
        rw [InputStream.ignoreLine_clear_end _ _ hleft]
      exact hresumes.unanswered (unanswered_of_end ⟨rfl, fun _ => rfl⟩ rfl)
    · rintro more rfl
      refine ⟨((t.print q.prompt).print q.unreadable).withInput
        { rest := more, eof := false, fail := false }, ?_, ⟨rfl, fun hend => by cases hend⟩, rfl⟩
      apply Resumes.step
      intro fuel
      rw [ask, hread]
      dsimp only
      rw [InputStream.ignoreLine_clear_line _ _ hleft]

/-- The loop around a question finds the answer in the lines that are typed. -/
theorem ask_computes (hspace : space nl = true) {lines : List (List α)} (h : t.input.Usable)
    (hlines : ∀ line ∈ lines, nl ∉ line) (hrest : t.input.rest = [nl].intercalate lines) :
    Computes nl (fun fuel => q.ask space fuel t) (q.answer space lines) := by
  induction lines generalizing t with
  | nil =>
    apply unanswered_of_end h
    rw [hrest]
    rfl
  | cons line lines ih =>
    rw [List.forall_mem_cons] at hlines
    obtain ⟨hline, hlines⟩ := hlines
    obtain ⟨tail, htail, htext⟩ := intercalate_tail nl lines
    rw [htext] at hrest
    have halong := along_line (q := q) space h hrest hline htail.tail
    rw [answer]
    cases hin : q.inLine space line with
    | some r =>
      obtain ⟨c, rest⟩ := r
      rw [hin] at halong
      obtain ⟨t', hanswers, hinput⟩ := halong
      exact ⟨t', by rw [hinput, htext], hanswers.computes⟩
    | none =>
      rw [hin] at halong
      obtain ⟨t', left, hresumes, hstanding, hrest', hleft, hnone⟩ := halong
      obtain ⟨hend, hmore⟩ := after_line hstanding hrest' hleft htail.tail hspace hnone
      rcases htail with ⟨rfl, rfl⟩ | ⟨-, rfl⟩
      · exact hresumes.unanswered (hend rfl)
      · obtain ⟨u, hresumes', hstanding', hrest''⟩ := hmore _ rfl
        exact (hresumes.trans hresumes').computes (ih hstanding' hlines hrest'')

end Question

/-! ### One question after another -/

section Composition

variable {δ : Type*} {f : ℕ → Option (γ × Terminal α)} {r : Option (γ × List (List α))}

omit [DecidableEq α] in
lemma Computes.bind (h : Computes nl f r) {g : γ × Terminal α → ℕ → Option (δ × Terminal α)}
    {r' : γ × List (List α) → Option (δ × List (List α))}
    (hg : ∀ c left t, r = some (c, left) → t.input = .after ([nl].intercalate left) →
      Computes nl (g (c, t)) (r' (c, left))) :
    Computes nl (fun fuel => (f fuel).bind (fun x => g x fuel)) (r.bind r') := by
  cases r with
  | none =>
    intro fuel
    have hfuel : f fuel = none := h fuel
    simp only [hfuel, Option.bind_none]
  | some r =>
    obtain ⟨c, left⟩ := r
    obtain ⟨t, hinput, ⟨n, hn⟩, hf⟩ := h
    have hrest := hg c left t rfl hinput
    rw [Option.bind_some]
    cases hr' : r' (c, left) with
    | none =>
      rw [hr'] at hrest
      intro fuel
      rcases hf fuel with hfuel | hfuel
      · simp only [hfuel, Option.bind_none]
      · simp only [hfuel, Option.bind_some]
        exact hrest fuel
    | some d =>
      rw [hr'] at hrest
      obtain ⟨t', hinput', ⟨m, hm⟩, hg'⟩ := hrest
      refine ⟨t', hinput', ⟨max n m, ?_⟩, ?_⟩
      · intro fuel hfuel
        simp only [hn fuel (le_trans (le_max_left n m) hfuel), Option.bind_some]
        exact hm fuel (le_trans (le_max_right n m) hfuel)
      · intro fuel
        rcases hf fuel with hfuel | hfuel
        · left
          simp only [hfuel, Option.bind_none]
        · simp only [hfuel, Option.bind_some]
          exact hg' fuel

omit [DecidableEq α] in
lemma Computes.map (h : Computes nl f r) {g : γ × Terminal α → δ × Terminal α} {k : γ → δ}
    (hg : ∀ c t, (g (c, t)).1 = k c ∧ (g (c, t)).2.input = t.input) :
    Computes nl (fun fuel => (f fuel).map g) (r.map (fun x => (k x.1, x.2))) := by
  cases r with
  | none =>
    intro fuel
    have hfuel : f fuel = none := h fuel
    simp only [hfuel, Option.map_none]
  | some r =>
    obtain ⟨c, left⟩ := r
    obtain ⟨t, hinput, ⟨n, hn⟩, hf⟩ := h
    obtain ⟨hk, ht⟩ := hg c t
    have hpair : g (c, t) = (k c, (g (c, t)).2) := Prod.ext hk rfl
    refine ⟨(g (c, t)).2, ht.trans hinput, ⟨n, ?_⟩, ?_⟩
    · intro fuel hfuel
      simp only [hn fuel hfuel, Option.map_some]
      rw [hpair]
    · intro fuel
      rcases hf fuel with hfuel | hfuel
      · left
        simp only [hfuel, Option.map_none]
      · right
        simp only [hfuel, Option.map_some]
        rw [hpair]

end Composition

/-! ### The end of a dialog -/

omit [DecidableEq α] in
lemma not_mem_splitOn [BEq α] [LawfulBEq α] (text : List α) :
    ∀ line ∈ text.splitOn nl, nl ∉ line := by
  induction text with
  | nil => simp
  | cons a text ih =>
    rw [List.splitOn_cons_eq_if_modifyHead]
    split_ifs with ha
    · rw [List.forall_mem_cons]
      exact ⟨List.not_mem_nil, ih⟩
    · cases hsplit : text.splitOn nl with
      | nil => simp
      | cons line lines =>
        rw [hsplit, List.forall_mem_cons] at ih
        rw [List.modifyHead_cons, List.forall_mem_cons, List.mem_cons, not_or]
        exact ⟨⟨fun heq => ha (by rw [heq, beq_self_eq_true]), ih.1⟩, ih.2⟩

lemma ignoreLine_after {line : List α} {lines : List (List α)} (hline : nl ∉ line) :
    ((InputStream.after ([nl].intercalate (line :: lines))).ignoreLine nl).rest =
        [nl].intercalate lines ∧
      (((InputStream.after ([nl].intercalate (line :: lines))).ignoreLine nl).good = true ↔
        lines ≠ []) := by
  obtain ⟨tail, htail, htext⟩ := intercalate_tail nl lines
  rw [htext]
  rcases htail with ⟨rfl, rfl⟩ | ⟨hlines, rfl⟩
  · rw [List.append_nil]
    cases line with
    | nil => simp [InputStream.after, InputStream.ignoreLine, InputStream.good]
    | cons a line =>
      have hclear := InputStream.ignoreLine_clear_end false false hline
      have heq : (InputStream.after (a :: line)).ignoreLine nl = _ := hclear
      rw [heq]
      simp [InputStream.good]
  · have hclear : (InputStream.clear
        { rest := line ++ nl :: [nl].intercalate lines }).ignoreLine nl = _ :=
      InputStream.ignoreLine_clear_line false false hline
    have hafter : InputStream.after (line ++ nl :: [nl].intercalate lines) =
        InputStream.clear { rest := line ++ nl :: [nl].intercalate lines } := by
      cases line <;> rfl
    rw [hafter, hclear]
    exact ⟨rfl, iff_of_true rfl hlines⟩

end Loop

end Questions
