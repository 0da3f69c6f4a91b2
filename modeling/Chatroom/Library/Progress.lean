import Chatroom.Library.Transition
import Mathlib.Order.WellFounded

/-!
# Progress under weak fairness

Infinite runs of a labelled system. A run is weakly fair when what is enabled at some
moment and stays enabled is done at last. A quantity that no step lowers, and that a fair
step raises, gets as far as it is wanted. A rank that no step raises, and that a fair step
lowers, leaves no room for an infinite run.
-/

namespace Transition.System

variable {σ ℓ : Type*}

/-- An infinite run whose steps all meet `P`. -/
structure Execution (M : System σ ℓ) (P : σ → ℓ → Prop) where
  state : ℕ → σ
  label : ℕ → ℓ
  admitted : ∀ n, P (state n) (label n)
  step : ∀ n, M.step (state n) (label n) (state (n + 1))

namespace Execution

variable {M : System σ ℓ} {P : σ → ℓ → Prop} (x : M.Execution P)

/-- Whatever stays enabled is done at some later step. -/
def WeaklyFair (enabled : σ → Prop) (done : σ → ℓ → Prop) : Prop :=
  ∀ n, ∃ m, n ≤ m ∧ (¬enabled (x.state m) ∨ done (x.state m) (x.label m))

lemma weaklyFair_of_always {enabled : σ → Prop} {done : σ → ℓ → Prop} (h : ∀ s l, done s l) :
    x.WeaklyFair enabled done :=
  fun n => ⟨n, le_rfl, Or.inr (h _ _)⟩

lemma preserves {I : σ → Prop} (hstep : ∀ s l t, I s → P s l → M.step s l t → I t)
    (h₀ : I (x.state 0)) (n : ℕ) : I (x.state n) := by
  induction n with
  | zero => exact h₀
  | succ n ih => exact hstep _ _ _ ih (x.admitted n) (x.step n)

lemma path {m n : ℕ} (h : m ≤ n) : M.Path P (x.state m) (x.state n) := by
  induction n, h using Nat.le_induction with
  | base => exact Relation.ReflTransGen.refl
  | succ n _ ih => exact ih.snoc (x.admitted n) (x.step n)

/-- The rule of attainment. As long as the run stays in `stays`, no step lowers `quantity`,
a step that does what is enabled raises it, and something is enabled until it has reached
`k`. -/
theorem attains {enabled : σ → Prop} {done : σ → ℓ → Prop} (hfair : x.WeaklyFair enabled done)
    (stays : σ → Prop) (quantity : σ → ℕ) {n k : ℕ}
    (hstep : ∀ m, n ≤ m → stays (x.state m) → stays (x.state (m + 1)) →
      quantity (x.state m) ≤ quantity (x.state (m + 1)))
    (hdone : ∀ m, n ≤ m → stays (x.state m) → stays (x.state (m + 1)) → enabled (x.state m) →
      done (x.state m) (x.label m) → quantity (x.state m) < quantity (x.state (m + 1)))
    (henabled : ∀ m, n ≤ m → stays (x.state m) → quantity (x.state m) < k →
      enabled (x.state m)) :
    ∃ m, n ≤ m ∧ (stays (x.state m) → k ≤ quantity (x.state m)) := by
  by_contra hnever
  have hshort : ∀ m, n ≤ m → stays (x.state m) ∧ quantity (x.state m) < k := by
    intro m hm
    by_contra hnot
    exact hnever ⟨m, hm, fun hstays => by
      by_contra hlt
      exact hnot ⟨hstays, not_le.mp hlt⟩⟩
  have hmono : ∀ m m', n ≤ m → m ≤ m' → quantity (x.state m) ≤ quantity (x.state m') := by
    intro m m' hm hle
    induction m', hle using Nat.le_induction with
    | base => exact le_rfl
    | succ m' hle ih =>
      have hm' := hm.trans hle
      exact ih.trans (hstep m' hm' (hshort m' hm').1 (hshort (m' + 1) (by omega)).1)
  -- it passes every bound
  have hgrows : ∀ d, ∃ m, n ≤ m ∧ d ≤ quantity (x.state m) := by
    intro d
    induction d with
    | zero => exact ⟨n, le_rfl, Nat.zero_le _⟩
    | succ d ih =>
      obtain ⟨m, hm, hd⟩ := ih
      obtain ⟨m', hle, hfair'⟩ := hfair m
      have hm' := hm.trans hle
      have hen := henabled m' hm' (hshort m' hm').1 (hshort m' hm').2
      have hlt := hdone m' hm' (hshort m' hm').1 (hshort (m' + 1) (by omega)).1 hen
        (hfair'.resolve_left (fun hne => hne hen))
      have hle' := hmono m m' hm hle
      exact ⟨m' + 1, by omega, by omega⟩
  obtain ⟨m, hm, hk⟩ := hgrows k
  have hlt := (hshort m hm).2
  omega

/-- The rule of termination. Every step keeps the invariant, and lowers the rank or keeps
both the rank and whatever is enabled; something is enabled before every step; and what
is done while it is enabled lowers the rank. -/
theorem not_weaklyFair {α ι : Type*} [LinearOrder α] [WellFoundedLT α] (I : σ → Prop) (rank : σ → α)
    (enabled : ι → σ → Prop) (done : ι → σ → ℓ → Prop) (h₀ : I (x.state 0))
    (hstep : ∀ s l t, I s → P s l → M.step s l t →
      I t ∧ (rank t < rank s ∨ rank t = rank s ∧ ∀ i, enabled i s → enabled i t))
    (henabled : ∀ s l t, I s → P s l → M.step s l t → ∃ i, enabled i s)
    (hdone : ∀ i s l t, I s → P s l → M.step s l t → enabled i s → done i s l →
      rank t < rank s) :
    ¬∀ i, x.WeaklyFair (enabled i) (done i) := by
  intro hfair
  have hI : ∀ n, I (x.state n) :=
    x.preserves (fun s l t hs hl hst => (hstep s l t hs hl hst).1) h₀
  -- the run at the moment of its lowest rank
  obtain ⟨k, hk⟩ : ∃ k, ∀ n, rank (x.state k) ≤ rank (x.state n) :=
    ⟨Function.argmin (fun n => rank (x.state n)),
      fun n => Function.argmin_le (fun n => rank (x.state n)) n⟩
  obtain ⟨i, hi⟩ := henabled _ _ _ (hI k) (x.admitted k) (x.step k)
  have hkept : ∀ d, rank (x.state (k + d)) = rank (x.state k) ∧ enabled i (x.state (k + d)) := by
    intro d
    induction d with
    | zero => exact ⟨rfl, hi⟩
    | succ d ih =>
      obtain ⟨-, hlt | ⟨heq, hen⟩⟩ :=
        hstep _ _ _ (hI (k + d)) (x.admitted (k + d)) (x.step (k + d))
      · rw [ih.1] at hlt
        exact absurd hlt (not_lt.mpr (hk _))
      · exact ⟨heq.trans ih.1, hen i ih.2⟩
  obtain ⟨m, hm, hdisabled⟩ := hfair i k
  obtain ⟨d, rfl⟩ := Nat.exists_eq_add_of_le hm
  obtain ⟨hrank, hen⟩ := hkept d
  have hlt := hdone i _ _ _ (hI (k + d)) (x.admitted (k + d)) (x.step (k + d)) hen
    (hdisabled.resolve_left (fun hne => hne hen))
  rw [hrank] at hlt
  exact absurd hlt (not_lt.mpr (hk _))

/-! ### Runs that come to rest -/

/-- A step before the run. -/
def cons {s : σ} {l : ℓ} (hl : P s l) (hs : M.step s l (x.state 0)) : M.Execution P where
  state
    | 0 => s
    | n + 1 => x.state n
  label
    | 0 => l
    | n + 1 => x.label n
  admitted
    | 0 => hl
    | n + 1 => x.admitted n
  step
    | 0 => hs
    | n + 1 => x.step n

/-- A step that changes nothing, again and again. -/
def idle {t : σ} {l : ℓ} (hl : P t l) (hs : M.step t l t) : M.Execution P where
  state _ := t
  label _ := l
  admitted _ := hl
  step _ := hs

lemma exists_prepend {s : σ} (hp : M.Path P s (x.state 0)) :
    ∃ y : M.Execution P, y.state 0 = s ∧ ∃ k, ∀ m, y.state (k + m) = x.state m := by
  induction hp using Relation.ReflTransGen.head_induction_on with
  | refl => exact ⟨x, rfl, 0, fun m => by rw [Nat.zero_add]⟩
  | head hfirst _ ih =>
    obtain ⟨i, hi, hstep⟩ := hfirst
    obtain ⟨y, hzero, k, hlater⟩ := ih
    rw [← hzero] at hstep
    refine ⟨y.cons hi hstep, rfl, k + 1, ?_⟩
    intro m
    rw [Nat.add_right_comm]
    exact hlater m

lemma weaklyFair_of_rest {enabled : σ → Prop} {done : σ → ℓ → Prop} {t : σ} {n : ℕ}
    (hrest : ∀ m, n ≤ m → x.state m = t) (ht : ¬enabled t) : x.WeaklyFair enabled done := by
  intro k
  refine ⟨max k n, le_max_left k n, Or.inl ?_⟩
  rw [hrest _ (le_max_right k n)]
  exact ht

end Execution

end Transition.System
