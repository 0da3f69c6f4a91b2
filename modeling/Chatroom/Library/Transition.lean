import Mathlib.Logic.Relation

/-!
# Labelled transition systems

Runs of a system with a step relation labelled by what the environment supplied.
A run can be restricted to the steps that meet a condition on the state before
the step and on the label, so that "in every run whose steps all meet `P`" is a
statement about `System.Reach P`.
-/

namespace Transition

/-- A system: its initial states and its labelled steps. -/
structure System (σ ℓ : Type*) where
  init : σ → Prop
  step : σ → ℓ → σ → Prop

namespace System

variable {σ ℓ : Type*} (M : System σ ℓ)

/-- One step under a label that meets `P`. -/
def StepVia (P : σ → ℓ → Prop) (s t : σ) : Prop :=
  ∃ l, P s l ∧ M.step s l t

/-- A run from `s` to `t` whose steps all meet `P`. -/
def Path (P : σ → ℓ → Prop) : σ → σ → Prop :=
  Relation.ReflTransGen (M.StepVia P)

/-- The states reached from an initial state by steps that all meet `P`. -/
def Reach (P : σ → ℓ → Prop) (t : σ) : Prop :=
  ∃ s, M.init s ∧ M.Path P s t

/-- No restriction on the steps. -/
def any : σ → ℓ → Prop := fun _ _ => True

instance (s : σ) (l : ℓ) : Decidable (any s l) :=
  inferInstanceAs (Decidable True)

variable {M} {P Q : σ → ℓ → Prop}

lemma Path.mono (h : ∀ s l, P s l → Q s l) {s t : σ} (hp : M.Path P s t) : M.Path Q s t :=
  Relation.ReflTransGen.mono (fun s _ ⟨l, hl, hs⟩ => ⟨l, h s l hl, hs⟩) s t hp

lemma Path.trans {s t u : σ} (h : M.Path P s t) (h' : M.Path P t u) : M.Path P s u :=
  Relation.ReflTransGen.trans h h'

lemma Path.snoc {s t u : σ} {l : ℓ} (h : M.Path P s t) (hl : P t l) (hs : M.step t l u) :
    M.Path P s u :=
  Relation.ReflTransGen.tail h ⟨l, hl, hs⟩

lemma Path.single {s t : σ} {l : ℓ} (hl : P s l) (hs : M.step s l t) : M.Path P s t :=
  Relation.ReflTransGen.single ⟨l, hl, hs⟩

lemma Reach.of_init {s : σ} (h : M.init s) : M.Reach P s :=
  ⟨s, h, Relation.ReflTransGen.refl⟩

lemma Reach.snoc {s t : σ} {l : ℓ} (h : M.Reach P s) (hl : P s l) (hs : M.step s l t) :
    M.Reach P t := by
  obtain ⟨s₀, h₀, hp⟩ := h
  exact ⟨s₀, h₀, hp.snoc hl hs⟩

lemma Reach.path {s t : σ} (h : M.Reach P s) (hp : M.Path P s t) : M.Reach P t := by
  obtain ⟨s₀, h₀, hp₀⟩ := h
  exact ⟨s₀, h₀, hp₀.trans hp⟩

/-- What every admitted step preserves holds along every run. -/
theorem Path.preserves {I : σ → Prop} (hstep : ∀ s l t, I s → P s l → M.step s l t → I t)
    {s t : σ} (hp : M.Path P s t) (hs : I s) : I t := by
  induction hp with
  | refl => exact hs
  | tail _ hst ih =>
    obtain ⟨l, hl, hst⟩ := hst
    exact hstep _ l _ ih hl hst

/-- An invariant: it holds initially and every admitted step preserves it. -/
theorem Reach.invariant {I : σ → Prop} (hinit : ∀ s, M.init s → I s)
    (hstep : ∀ s l t, I s → P s l → M.step s l t → I t) {s : σ} (hr : M.Reach P s) : I s := by
  obtain ⟨s₀, h₀, hp⟩ := hr
  exact hp.preserves hstep (hinit s₀ h₀)

/-- Along a run from a reachable state what is preserved is what the admitted steps from
reachable states preserve; the steps of the run may meet a stronger condition. -/
theorem Reach.preserves {I : σ → Prop} (hQ : ∀ s l, Q s l → P s l)
    (hstep : ∀ s l t, M.Reach P s → I s → Q s l → M.step s l t → I t) {s t : σ}
    (hr : M.Reach P s) (hp : M.Path Q s t) (hs : I s) : I t := by
  have hboth : M.Reach P t ∧ I t := by
    refine hp.preserves (I := fun u => M.Reach P u ∧ I u) ?_ ⟨hr, hs⟩
    rintro u l v ⟨hu, hI⟩ hl hst
    exact ⟨hu.snoc (hQ u l hl) hst, hstep u l v hu hI hl hst⟩
  exact hboth.2

theorem Reach.invariant_of_reach {I : σ → Prop} (hinit : ∀ s, M.init s → I s)
    (hstep : ∀ s l t, M.Reach P s → I s → P s l → M.step s l t → I t) {s : σ}
    (hr : M.Reach P s) : I s := by
  obtain ⟨s₀, h₀, hp⟩ := hr
  exact (Reach.of_init h₀).preserves (fun _ _ h => h) hstep hp (hinit s₀ h₀)

/-- A relation between the start of a run and its end: reflexive on the states that
satisfy `I`, and extended by every admitted step. -/
theorem Path.relates {I : σ → Prop} {R : σ → σ → Prop}
    (hI : ∀ s l t, I s → P s l → M.step s l t → I t)
    (hrefl : ∀ s, I s → R s s)
    (hstep : ∀ s t l u, I t → R s t → P t l → M.step t l u → R s u)
    {s t : σ} (hp : M.Path P s t) (hs : I s) : R s t := by
  have hboth : I t ∧ R s t := by
    induction hp with
    | refl => exact ⟨hs, hrefl s hs⟩
    | tail _ hst ih =>
      obtain ⟨l, hl, hst⟩ := hst
      exact ⟨hI _ l _ ih.1 hl hst, hstep _ _ l _ ih.1 ih.2 hl hst⟩
  exact hboth.2

/-- Iterate a step function over given labels, as long as it is defined. -/
def run (next : σ → ℓ → Option σ) (s : σ) : List ℓ → Option σ
  | [] => some s
  | l :: ls => (next s l).bind (fun t => run next t ls)

lemma run_append (next : σ → ℓ → Option σ) (s : σ) (ls ms : List ℓ) :
    run next s (ls ++ ms) = (run next s ls).bind (fun t => run next t ms) := by
  induction ls generalizing s with
  | nil => rfl
  | cons l ls ih =>
    rw [List.cons_append, run, run, Option.bind_assoc]
    simp only [ih]

theorem Path.of_run {next : σ → ℓ → Option σ}
    (h : ∀ s l t, next s l = some t → P s l ∧ M.step s l t) {s t : σ} {ls : List ℓ}
    (hrun : run next s ls = some t) : M.Path P s t := by
  induction ls generalizing s with
  | nil =>
    cases hrun
    exact Relation.ReflTransGen.refl
  | cons l ls ih =>
    obtain ⟨u, hstep, hrest⟩ := Option.bind_eq_some_iff.mp hrun
    obtain ⟨hl, hs⟩ := h s l u hstep
    exact (Path.single hl hs).trans (ih hrest)

end System

end Transition
