import Chatroom.Model.Dialog

/-!
# What the dialogs make of the typed lines

Each dialog computes a function of the lines of its input: the answers, or that there is none
and the dialog goes on for ever, and the lines that are left for the event loop. The loop of
`main` is different, since it never clears a failure.
-/

namespace Chatroom
open Questions

/-- A terminal on which all this is typed. -/
def typed (input : Bytes) : Terminal Byte :=
  ⟨{ rest := input }, []⟩

/-- The name and the port of a host in the lines that are typed. -/
def hostAnswers (lines : List Bytes) : Option ((Bytes × ℤ) × List Bytes) :=
  (usernameQuestion.answer isSpace lines).bind (fun (name, lines) =>
    (listeningPortQuestion.answer isSpace lines).map (fun (port, lines) => ((name, port), lines)))

/-- The name and the address of a client in the lines that are typed. -/
def guestAnswers (inetPton : Bytes → Option UInt32) (lines : List Bytes) :
    Option ((Bytes × SockAddr) × List Bytes) :=
  (clientNameQuestion.answer isSpace lines).bind (fun (name, lines) =>
    ((serverIpQuestion inetPton).answer isSpace lines).bind (fun (ip, lines) =>
      (serverPortQuestion.answer isSpace lines).map (fun (port, lines) =>
        ((name, ⟨ip, portNumber port⟩), lines))))

/-- The names that the dialogs let pass. -/
structure LegalName (name : Bytes) : Prop where
  nonempty : name ≠ []
  word : ∀ ch ∈ name, isSpace ch = false
  unreserved : nameIsReserved name = false

lemma word_of_all {name : Bytes} (h : name.all (fun ch => !isSpace ch) = true) :
    ∀ ch ∈ name, isSpace ch = false := by
  intro ch hch
  simpa using List.all_eq_true.mp h ch hch

section Answers

variable {text name : Bytes} {lines left : List Bytes}

lemma cutWord_some (h : (cutWord text).1 = some name) :
    name ≠ [] ∧ ∀ ch ∈ name, isSpace ch = false := by
  unfold cutWord at h
  dsimp only at h
  split_ifs at h with hne
  cases h
  refine ⟨hne, ?_⟩
  intro ch hch
  simpa using List.mem_takeWhile_imp hch

lemma cutInt_some {value : ℤ} (h : (cutInt text).1 = some value) :
    intMin ≤ value ∧ value ≤ intMax := by
  unfold cutInt at h
  dsimp only at h
  split_ifs at h with hrange
  cases h
  exact hrange.2

lemma portNumber_ne_zero {port : ℤ} (hpos : 1 ≤ port) (hle : port ≤ 65535) :
    portNumber port ≠ 0 := by
  have hmod : port % 65536 = port := Int.emod_eq_of_lt (by omega) (by omega)
  obtain ⟨n, rfl⟩ := Int.eq_ofNat_of_zero_le (by omega : 0 ≤ port)
  intro h
  have hnat := congrArg UInt16.toNat h
  rw [portNumber, hmod] at hnat
  simp at hnat
  omega

lemma nameQuestion_admits {prompt : String}
    (h : (nameQuestion prompt).answer isSpace lines = some (name, left)) : LegalName name := by
  obtain ⟨text, word, hcut, haccept⟩ := Question.answer_accepted h
  obtain ⟨hne, hword⟩ := cutWord_some hcut
  have haccept : (if nameIsReserved word then none else some word) = some name := haccept
  split_ifs at haccept with hreserved
  cases haccept
  exact ⟨hne, hword, by simpa using hreserved⟩

lemma hostAnswers_admitted {port : ℤ} (h : hostAnswers lines = some ((name, port), left)) :
    LegalName name ∧ intMin ≤ port ∧ port ≤ intMax := by
  obtain ⟨⟨name', lines'⟩, hname, hport⟩ := Option.bind_eq_some_iff.mp h
  obtain ⟨⟨port', left'⟩, hport, heq⟩ := Option.map_eq_some_iff.mp hport
  cases heq
  refine ⟨nameQuestion_admits hname, ?_⟩
  obtain ⟨text, value, hcut, haccept⟩ := Question.answer_accepted hport
  cases haccept
  exact cutInt_some hcut

lemma guestAnswers_admitted {inetPton : Bytes → Option UInt32} {addr : SockAddr}
    (h : guestAnswers inetPton lines = some ((name, addr), left)) :
    LegalName name ∧ (∃ text, inetPton text = some addr.ip) ∧ addr.port ≠ 0 := by
  obtain ⟨⟨name', lines'⟩, hname, hrest⟩ := Option.bind_eq_some_iff.mp h
  obtain ⟨⟨ip, lines''⟩, hip, hrest⟩ := Option.bind_eq_some_iff.mp hrest
  obtain ⟨⟨port, left'⟩, hport, heq⟩ := Option.map_eq_some_iff.mp hrest
  cases heq
  refine ⟨nameQuestion_admits hname, ?_, ?_⟩
  · obtain ⟨text, word, -, haccept⟩ := Question.answer_accepted hip
    exact ⟨word, haccept⟩
  · obtain ⟨text, value, -, haccept⟩ := Question.answer_accepted hport
    have haccept : (if 1 ≤ value ∧ value ≤ 65535 then some value else none) = some port := haccept
    split_ifs at haccept with hrange
    cases haccept
    exact portNumber_ne_zero hrange.1 hrange.2

lemma hostAnswers_left {port : ℤ} (h : hostAnswers lines = some ((name, port), left))
    (hlines : ∀ line ∈ lines, newline ∉ line) :
    ∃ line later, left = line :: later ∧ newline ∉ line := by
  obtain ⟨⟨name', lines'⟩, hname, hport⟩ := Option.bind_eq_some_iff.mp h
  obtain ⟨⟨port', left'⟩, hport, heq⟩ := Option.map_eq_some_iff.mp hport
  cases heq
  have hleft := Question.answer_lines hport (Question.answer_lines hname hlines)
  obtain ⟨before, line, rest, later, -, rfl, -⟩ := Question.answer_some hport
  exact ⟨rest, later, rfl, hleft rest List.mem_cons_self⟩

lemma guestAnswers_left {inetPton : Bytes → Option UInt32} {addr : SockAddr}
    (h : guestAnswers inetPton lines = some ((name, addr), left))
    (hlines : ∀ line ∈ lines, newline ∉ line) :
    ∃ line later, left = line :: later ∧ newline ∉ line := by
  obtain ⟨⟨name', lines'⟩, hname, hrest⟩ := Option.bind_eq_some_iff.mp h
  obtain ⟨⟨ip, lines''⟩, hip, hrest⟩ := Option.bind_eq_some_iff.mp hrest
  obtain ⟨⟨port, left'⟩, hport, heq⟩ := Option.map_eq_some_iff.mp hrest
  cases heq
  have hleft := Question.answer_lines hport
    (Question.answer_lines hip (Question.answer_lines hname hlines))
  obtain ⟨before, line, rest, later, -, rfl, -⟩ := Question.answer_some hport
  exact ⟨rest, later, rfl, hleft rest List.mem_cons_self⟩

end Answers

section Dialogs

variable {t : Terminal Byte} {lines : List Bytes}

lemma ask_left {β γ : Type} (q : Question newline β γ) (hlines : ∀ line ∈ lines, newline ∉ line)
    (h : t.input = .after ([newline].intercalate lines)) :
    Computes newline (fun fuel => q.ask isSpace fuel t) (q.answer isSpace lines) := by
  apply Question.ask_computes rfl ?_ hlines
  · rw [h]
    rfl
  · rw [h]
    exact InputStream.usable_after _

lemma serverDialog_computes (h : t.input.Usable) (hlines : ∀ line ∈ lines, newline ∉ line)
    (hrest : t.input.rest = [newline].intercalate lines) :
    Computes newline (fun fuel => serverDialog fuel t) (hostAnswers lines) := by
  have hname : Computes newline
      (fun fuel => usernameQuestion.ask isSpace fuel (t.print (ascii "Server mode selected.\n")))
      (usernameQuestion.answer isSpace lines) :=
    Question.ask_computes rfl h hlines hrest
  refine hname.bind ?_
  intro name left t' hname hinput
  have hport := ask_left listeningPortQuestion (Question.answer_lines hname hlines)
    (t := t'.print (ascii "Your username is: " ++ name ++ ascii "\n")) hinput
  exact hport.map (k := fun port => (name, port)) (fun port t => ⟨rfl, rfl⟩)

lemma clientDialog_computes (inetPton : Bytes → Option UInt32) (h : t.input.Usable)
    (hlines : ∀ line ∈ lines, newline ∉ line)
    (hrest : t.input.rest = [newline].intercalate lines) :
    Computes newline (fun fuel => clientDialog inetPton fuel t) (guestAnswers inetPton lines) := by
  have hname : Computes newline
      (fun fuel => clientNameQuestion.ask isSpace fuel (t.print (ascii "Initializing client...\n")))
      (clientNameQuestion.answer isSpace lines) :=
    Question.ask_computes rfl h hlines hrest
  refine hname.bind ?_
  intro name left t' hname hinput
  have hleft := Question.answer_lines hname hlines
  have hip := ask_left (serverIpQuestion inetPton) hleft
    (t := t'.print (ascii "Your name is: " ++ name ++ ascii "\n")) hinput
  refine hip.bind ?_
  intro ip left' t'' hip hinput'
  have hport := ask_left serverPortQuestion (Question.answer_lines hip hleft) hinput'
  exact hport.map (k := fun port => ((name, ⟨ip, portNumber port⟩) : Bytes × SockAddr))
    (fun port t => ⟨rfl, rfl⟩)

end Dialogs

/-! ### The two modes -/

/-- The lines after the answers are what the event loop reads. -/
def LeftToLoop (left : List Bytes) (t : Terminal Byte) : Prop :=
  t.input.rest = [newline].intercalate left.tail ∧ (t.input.good = true ↔ left.tail ≠ [])

/-- With enough attempts `f` starts what `r` says, and a loop that is entered gets the lines that
`r` leaves; if `r` says nothing `f` asks for ever. -/
def StartsAs {σ : Type} (entered : σ → Bool) (f : ℕ → Option (σ × Terminal Byte))
    (r : Option (σ × List Bytes)) : Prop :=
  match r with
  | some (x, left) => ∃ t, (∃ n, ∀ fuel, n ≤ fuel → f fuel = some (x, t)) ∧
      (entered x = true → LeftToLoop left t)
  | none => ∀ fuel, f fuel = none

def Process.entered {L : Type} (p : Process L) : Bool :=
  p.loop.isSome

section Starts

variable {σ τ γ : Type} {entered : σ → Bool} {r : Option (σ × List Bytes)}

lemma StartsAs.bind {f : ℕ → Option (γ × Terminal Byte)} {x : γ × Terminal Byte}
    (hsome : ∃ n, ∀ fuel, n ≤ fuel → f fuel = some x)
    (hall : ∀ fuel, f fuel = none ∨ f fuel = some x)
    {g : γ × Terminal Byte → ℕ → Option (σ × Terminal Byte)} (h : StartsAs entered (g x) r) :
    StartsAs entered (fun fuel => (f fuel).bind (fun x => g x fuel)) r := by
  obtain ⟨n, hn⟩ := hsome
  cases r with
  | none =>
    intro fuel
    dsimp only
    rcases hall fuel with hfuel | hfuel
    · rw [hfuel, Option.bind_none]
    · rw [hfuel, Option.bind_some]
      exact h fuel
  | some y =>
    obtain ⟨t, ⟨m, hm⟩, hleft⟩ := h
    refine ⟨t, ⟨max n m, ?_⟩, hleft⟩
    intro fuel hfuel
    dsimp only
    rw [hn fuel (le_trans (le_max_left n m) hfuel), Option.bind_some]
    exact hm fuel (le_trans (le_max_right n m) hfuel)

lemma StartsAs.map {f : ℕ → Option (σ × Terminal Byte)} (h : StartsAs entered f r) {k : σ → τ}
    {entered' : τ → Bool} (hk : ∀ x, entered' (k x) = entered x) :
    StartsAs entered' (fun fuel => (f fuel).map (fun (x, t) => (k x, t)))
      (r.map (fun (x, left) => (k x, left))) := by
  cases r with
  | none =>
    intro fuel
    have hnone : f fuel = none := h fuel
    dsimp only
    rw [hnone, Option.map_none]
  | some y =>
    obtain ⟨t, ⟨n, hn⟩, hleft⟩ := h
    refine ⟨t, ⟨n, ?_⟩, ?_⟩
    · intro fuel hfuel
      dsimp only
      rw [hn fuel hfuel, Option.map_some]
    · intro hentered
      exact hleft (by rwa [hk] at hentered)

end Starts

section Modes

variable {t : Terminal Byte} {lines : List Bytes} (r : SocketReplies) (created : CreateReplies)

lemma leftToLoop_ignoreLine {left : List Bytes}
    (hleft : ∃ line later, left = line :: later ∧ newline ∉ line)
    (h : t.input = .after ([newline].intercalate left)) :
    LeftToLoop left (t.withInput (t.input.ignoreLine newline)) := by
  obtain ⟨line, later, rfl, hline⟩ := hleft
  have hignored : LeftToLoop (line :: later) (t.withInput
      ((InputStream.after ([newline].intercalate (line :: later))).ignoreLine newline)) :=
    ignoreLine_after hline
  rwa [← h] at hignored

/-- The process of a host, as the lines have it. -/
def hostOf (lines : List Bytes) : Option (Process Loop × List Bytes) :=
  (hostAnswers lines).map (fun ((name, port), left) => (serverInit name port r created, left))

/-- The process of a client, as the lines have it. -/
def guestOf (inetPton : Bytes → Option UInt32) (lines : List Bytes) :
    Option (Process ClientLoop × List Bytes) :=
  (guestAnswers inetPton lines).map
    (fun ((name, addr), left) => (clientInit name addr r created, left))

lemma serverMode_starts (h : t.input.Usable) (hlines : ∀ line ∈ lines, newline ∉ line)
    (hrest : t.input.rest = [newline].intercalate lines) :
    StartsAs Process.entered (fun fuel => serverMode fuel t r created)
      (hostOf r created lines) := by
  have hdialog := serverDialog_computes h hlines hrest
  rw [hostOf]
  cases hanswers : hostAnswers lines with
  | none =>
    rw [hanswers] at hdialog
    intro fuel
    have hnone : serverDialog fuel t = none := hdialog fuel
    dsimp only
    rw [serverMode, hnone]
    rfl
  | some answers =>
    obtain ⟨⟨name, port⟩, left⟩ := answers
    rw [hanswers] at hdialog
    obtain ⟨t', hinput, ⟨n, hn⟩, -⟩ := hdialog
    have hignored := leftToLoop_ignoreLine (hostAnswers_left hanswers hlines) hinput
    have hmode : ∀ fuel, n ≤ fuel → serverMode fuel t r created =
        some (serverInit name port r created,
          if (serverInit name port r created).loop = none then t'
          else t'.withInput (t'.input.ignoreLine newline)) := by
      intro fuel hfuel
      have hsome : serverDialog fuel t = some ((name, port), t') := hn fuel hfuel
      rw [serverMode, hsome]
      rfl
    refine ⟨_, ⟨n, hmode⟩, ?_⟩
    intro hentered
    rw [if_neg]
    · exact hignored
    · intro hnone
      rw [Process.entered, hnone] at hentered
      cases hentered

lemma clientMode_starts (inetPton : Bytes → Option UInt32) (h : t.input.Usable)
    (hlines : ∀ line ∈ lines, newline ∉ line)
    (hrest : t.input.rest = [newline].intercalate lines) :
    StartsAs Process.entered (fun fuel => clientMode inetPton fuel t r created)
      (guestOf r created inetPton lines) := by
  have hdialog := clientDialog_computes inetPton h hlines hrest
  rw [guestOf]
  cases hanswers : guestAnswers inetPton lines with
  | none =>
    rw [hanswers] at hdialog
    intro fuel
    have hnone : clientDialog inetPton fuel t = none := hdialog fuel
    dsimp only
    rw [clientMode, hnone]
    rfl
  | some answers =>
    obtain ⟨⟨name, addr⟩, left⟩ := answers
    rw [hanswers] at hdialog
    obtain ⟨t', hinput, ⟨n, hn⟩, -⟩ := hdialog
    have hignored := leftToLoop_ignoreLine (guestAnswers_left hanswers hlines)
      (t := t'.print (ascii "Connection setup started.\n")) hinput
    by_cases hloop : (clientInit name addr r created).loop = none
    · refine ⟨t', ⟨n, ?_⟩, ?_⟩
      · intro fuel hfuel
        have hsome : clientDialog inetPton fuel t = some ((name, addr), t') := hn fuel hfuel
        dsimp only
        rw [clientMode, hsome, Option.map_some]
        dsimp only
        rw [if_pos hloop]
      · intro hentered
        rw [Process.entered, hloop] at hentered
        cases hentered
    · refine ⟨_, ⟨n, ?_⟩, fun _ => hignored⟩
      intro fuel hfuel
      have hsome : clientDialog inetPton fuel t = some ((name, addr), t') := hn fuel hfuel
      dsimp only
      rw [clientMode, hsome, Option.map_some]
      dsimp only
      rw [if_neg hloop]

end Modes

/-- `server_init` on any input: it starts the host with the first name and the first port that the
lines have, and hands the lines after the port to the event loop; if they have none it asks for
ever. -/
theorem host_starts_as_typed (input : Bytes) (r : SocketReplies) (created : CreateReplies) :
    StartsAs Process.entered (fun fuel => serverMode fuel (typed input) r created)
        (hostOf r created (input.splitOn newline)) ∧
      ∀ name port left, hostAnswers (input.splitOn newline) = some ((name, port), left) →
        LegalName name ∧ intMin ≤ port ∧ port ≤ intMax :=
  ⟨serverMode_starts r created ⟨rfl, fun h => by cases h⟩ (not_mem_splitOn input)
    (List.intercalate_splitOn newline).symm, fun _ _ _ h => hostAnswers_admitted h⟩

/-- `client_init` on any input, whatever `inet_pton` accepts. -/
theorem guest_starts_as_typed (inetPton : Bytes → Option UInt32) (input : Bytes)
    (r : SocketReplies) (created : CreateReplies) :
    StartsAs Process.entered (fun fuel => clientMode inetPton fuel (typed input) r created)
        (guestOf r created inetPton (input.splitOn newline)) ∧
      ∀ name addr left, guestAnswers inetPton (input.splitOn newline) =
          some ((name, addr), left) →
        LegalName name ∧ (∃ text, inetPton text = some addr.ip) ∧ addr.port ≠ 0 :=
  ⟨clientMode_starts r created inetPton ⟨rfl, fun h => by cases h⟩ (not_mem_splitOn input)
    (List.intercalate_splitOn newline).symm, fun _ _ _ h => guestAnswers_admitted h⟩

/-! ### The loop of `main` -/

/-- The modes that `main` knows. -/
def modeQuestion : Question newline ℤ ℤ where
  token := intToken
  accept mode := if mode = 1 ∨ mode = 2 then some mode else none
  prompt := []

section Mode

variable {indeterminate : ℕ → ℤ} {t : Terminal Byte} {fuel : ℕ}

lemma storedInt_no_mode {text : Bytes} (h : (cutInt text).1 = none) :
    ¬(storedInt text = 1 ∨ storedInt text = 2) := by
  unfold cutInt at h
  dsimp only at h
  split_ifs at h with hrange
  unfold storedInt intMin intMax at *
  by_cases hdigits : (unsignedText text).takeWhile isDigit = []
  · have hzero : integerValue text = 0 := by
      unfold integerValue
      rw [hdigits]
      simp [decimalValue]
    rw [hzero]
    decide
  · have hout : ¬(-2147483648 ≤ integerValue text ∧ integerValue text ≤ 2147483647) :=
      fun hin => hrange ⟨hdigits, hin⟩
    omega

lemma readMode_input (stale : ℤ) (t : Terminal Byte) :
    (readMode stale t).2.input = (t.input.extract isSpace intToken).2 :=
  rfl

lemma readMode_unread (stale : ℤ) (h : (t.input.skipBlanks isSpace).good = false) :
    (readMode stale t).1 = stale := by
  have hskip : (readMode stale t).1 = if (t.input.skipBlanks isSpace).good then _ else stale := rfl
  rw [hskip, h]
  rfl

lemma readMode_read (stale : ℤ) (h : t.input.Usable)
    (htext : t.input.rest.dropWhile isSpace ≠ []) :
    (readMode stale t).1 = (cutInt (t.input.rest.dropWhile isSpace)).1.getD
      (storedInt (t.input.rest.dropWhile isSpace)) := by
  have hskip : (readMode stale t).1 = if (t.input.skipBlanks isSpace).good then
      (t.input.extract isSpace intToken).1.getD (storedInt (t.input.skipBlanks isSpace).rest)
      else stale := rfl
  rw [hskip, InputStream.extract_text h htext, InputStream.skipBlanks_text h htext]
  rfl

lemma readMode_cut (stale : ℤ) (h : t.input.Usable) {mode : ℤ} {rest : Bytes}
    (hcut : cutInt (t.input.rest.dropWhile isSpace) = (some mode, rest)) :
    (readMode stale t).1 = mode ∧ (readMode stale t).2.input = .after rest := by
  have hcut' : intToken.cut (t.input.rest.dropWhile isSpace) = (some mode, rest) := hcut
  have htext := Token.text_of_cut hcut'
  have hread : t.input.extract isSpace intToken = _ := InputStream.extract_text h htext
  rw [hcut'] at hread
  refine ⟨by rw [readMode_read stale h htext, hcut]; rfl, ?_⟩
  rw [readMode_input, hread]
  rfl

lemma selectMode_failed (h : t.input.fail = true) {x : ℤ × Terminal Byte}
    (hx : selectMode indeterminate fuel t = some x) :
    ∃ k, indeterminate k = 1 ∨ indeterminate k = 2 := by
  induction fuel generalizing t with
  | zero => cases hx
  | succ fuel ih =>
    have hskip : t.input.skipBlanks isSpace = t.input := by
      obtain ⟨⟨rest, eof, fail⟩, output⟩ := t
      obtain rfl : fail = true := h
      simp [InputStream.skipBlanks, InputStream.good]
    have hbad : t.input.good = false := by
      simp [InputStream.good, h]
    have hmode := readMode_unread (indeterminate fuel) (by rw [hskip, hbad])
    have hinput : (readMode (indeterminate fuel) t).2.input.fail = true := by
      rw [readMode_input, InputStream.extract, hskip, hbad]
      exact h
    rw [selectMode] at hx
    split_ifs at hx with hsel
    · exact ⟨fuel, by rwa [hmode] at hsel⟩
    · refine ih ?_ hx
      exact hinput

lemma selectMode_answers (indeterminate : ℕ → ℤ) (h : t.input.Usable) {text : Bytes}
    (hrest : t.input.rest = text) :
    match modeQuestion.inLine isSpace text with
    | some (mode, rest) => ∃ t', t'.input = .after rest ∧
        (∃ n, ∀ fuel, n ≤ fuel → selectMode indeterminate fuel t = some (mode, t')) ∧
        ∀ fuel, selectMode indeterminate fuel t = none ∨
          selectMode indeterminate fuel t = some (mode, t')
    | none => ∀ fuel x, selectMode indeterminate fuel t = some x →
        ∃ k, indeterminate k = 1 ∨ indeterminate k = 2 := by
  fun_induction modeQuestion.inLine isSpace text generalizing t with
  | case1 text rest hcut =>
    intro fuel x hx
    cases fuel with
    | zero => cases hx
    | succ fuel =>
      rw [selectMode] at hx
      by_cases htext : text.dropWhile isSpace = []
      · have hmode := readMode_unread (t := t) (indeterminate fuel)
          (by rw [InputStream.skipBlanks_blank h (by rw [hrest, htext])]; rfl)
        split_ifs at hx with hsel
        · exact ⟨fuel, by rwa [hmode] at hsel⟩
        · refine selectMode_failed ?_ hx
          show (readMode (indeterminate fuel) t).2.input.fail = true
          rw [readMode_input, InputStream.extract_blank h (by rw [hrest, htext])]
      · rw [← hrest] at htext hcut
        have hnone : (cutInt (t.input.rest.dropWhile isSpace)).1 = none := congrArg Prod.fst hcut
        have hmode := readMode_read (indeterminate fuel) h htext
        rw [hnone, Option.getD_none] at hmode
        rw [hmode, if_neg (storedInt_no_mode hnone)] at hx
        refine selectMode_failed ?_ hx
        show (readMode (indeterminate fuel) t).2.input.fail = true
        rw [readMode_input, InputStream.extract_text h htext]
        exact congrArg Option.isNone hnone
  | case2 text mode rest hcut mode' hmode =>
    rw [← hrest] at hcut
    obtain ⟨hread, hinput⟩ := readMode_cut 0 h hcut
    have haccept : (if mode = 1 ∨ mode = 2 then some mode else none) = some mode' := hmode
    split_ifs at haccept with hsel
    cases haccept
    have hselect : ∀ fuel, selectMode indeterminate (fuel + 1) t =
        some (mode, (readMode 0 t).2) := by
      intro fuel
      have hread' := (readMode_cut (indeterminate fuel) h hcut).1
      rw [selectMode, if_pos (by rwa [hread'])]
      exact congrArg some (Prod.ext hread' rfl)
    refine ⟨(readMode 0 t).2, hinput, ⟨1, ?_⟩, ?_⟩
    · intro fuel hfuel
      obtain ⟨fuel, rfl⟩ := Nat.exists_eq_add_of_le' hfuel
      exact hselect fuel
    · intro fuel
      cases fuel with
      | zero => exact Or.inl rfl
      | succ fuel => exact Or.inr (hselect fuel)
  | case3 text mode rest hcut hmode ih =>
    rw [← hrest] at hcut
    obtain ⟨hread, hinput⟩ := readMode_cut 0 h hcut
    have haccept : (if mode = 1 ∨ mode = 2 then some mode else none) = none := hmode
    split_ifs at haccept with hsel
    have hselect : ∀ fuel, selectMode indeterminate (fuel + 1) t = selectMode indeterminate fuel
        ((readMode 0 t).2.print (ascii "Invalid mode selected.\n")) := by
      intro fuel
      have hread' := (readMode_cut (indeterminate fuel) h hcut).1
      rw [selectMode, if_neg (by rwa [hread'])]
      rfl
    have hinput' : ((readMode 0 t).2.print (ascii "Invalid mode selected.\n")).input =
        .after rest := hinput
    have hrec := ih (by rw [hinput']; exact InputStream.usable_after rest)
      (by rw [hinput']; rfl)
    split at hrec
    · obtain ⟨t', hinput'', ⟨n, hn⟩, hall⟩ := hrec
      refine ⟨t', hinput'', ⟨n + 1, ?_⟩, ?_⟩
      · intro fuel hfuel
        obtain ⟨fuel, rfl⟩ := Nat.exists_eq_add_of_le' (Nat.le_of_add_left_le hfuel)
        rw [hselect]
        exact hn fuel (by omega)
      · intro fuel
        cases fuel with
        | zero => exact Or.inl rfl
        | succ fuel =>
          rw [hselect]
          exact hall fuel
    · intro fuel x hx
      cases fuel with
      | zero => cases hx
      | succ fuel =>
        rw [hselect] at hx
        exact hrec fuel x hx

end Mode

def Started.entered : Started → Bool
  | .host p => p.entered
  | .guest p => p.entered

/-- What is started when this mode is selected and these lines are left. -/
def startOf (inetPton : Bytes → Option UInt32) (r : SocketReplies) (created : CreateReplies)
    (mode : ℤ) (lines : List Bytes) : Option (Started × List Bytes) :=
  if mode = 1 then (hostOf r created lines).map (fun (p, left) => (.host p, left))
  else (guestOf r created inetPton lines).map (fun (p, left) => (.guest p, left))

/-- The program on any input. If the first integers of the input come to a mode before anything
else does, it starts what the lines after the mode say; if they do not, it starts something only if
an uninitialised variable selects it. -/
theorem main_starts_as_typed (indeterminate : ℕ → ℤ) (inetPton : Bytes → Option UInt32)
    (input : Bytes) (r : SocketReplies) (created : CreateReplies) :
    match modeQuestion.inLine isSpace input with
    | some (mode, rest) => StartsAs Started.entered
        (fun fuel => main indeterminate inetPton fuel (typed input) r created)
        (startOf inetPton r created mode (rest.splitOn newline))
    | none => ∀ fuel x, main indeterminate inetPton fuel (typed input) r created = some x →
        ∃ k, indeterminate k = 1 ∨ indeterminate k = 2 := by
  have hstanding : (typed input).input.Usable := ⟨rfl, fun h => by cases h⟩
  have htyped : (typed input).input.rest = input := rfl
  have hmode := selectMode_answers indeterminate hstanding htyped
  cases hin : modeQuestion.inLine isSpace input with
  | none =>
    rw [hin] at hmode
    intro fuel x hx
    obtain ⟨y, hy, -⟩ := Option.bind_eq_some_iff.mp hx
    exact hmode fuel y hy
  | some answer =>
    obtain ⟨mode, rest⟩ := answer
    rw [hin] at hmode
    obtain ⟨t, hinput, hsome, hall⟩ := hmode
    have hstanding : t.input.Usable := by
      rw [hinput]
      exact InputStream.usable_after rest
    have hrest : t.input.rest = [newline].intercalate (rest.splitOn newline) := by
      rw [hinput, List.intercalate_splitOn]
      rfl
    refine StartsAs.bind hsome hall ?_
    dsimp only
    rw [startOf]
    by_cases hone : mode = 1
    · simp only [if_pos hone]
      exact (serverMode_starts r created hstanding (not_mem_splitOn rest) hrest).map
        (fun p => rfl)
    · simp only [if_neg hone]
      exact (clientMode_starts r created inetPton hstanding (not_mem_splitOn rest) hrest).map
        (fun p => rfl)

end Chatroom
