import Mathlib.Logic.Basic

/-!
# Calls that report success by a boolean

A call that returns a boolean and a new state. Its contract is the exact condition under
which it reports success, and what it leaves when it does; a caller that gives up as soon as
one of its calls fails has the conjunction of their conditions.
-/

namespace Fallible

variable {σ : Type*}

/-- The call reports success exactly if `B` holds, and then leaves a state with `Q`. -/
structure SucceedsIff (r : Bool × σ) (B : Prop) (Q : σ → Prop) : Prop where
  ok : r.1 = true ↔ B
  left : B → Q r.2

/-- Go on after a success, and pass a failure on. -/
def andThen (r : Bool × σ) (f : σ → Bool × σ) : Bool × σ :=
  match r with
  | (false, s) => (false, s)
  | (true, s) => f s

lemma andThen_left {Q : σ → Prop} {r : Bool × σ} {f : σ → Bool × σ} (hr : Q r.2)
    (hf : r.1 = true → Q (f r.2).2) : Q (andThen r f).2 := by
  rcases r with ⟨ok, s⟩
  cases ok with
  | false => exact hr
  | true => exact hf rfl

namespace SucceedsIff

variable {r : Bool × σ} {B B' : Prop} {Q Q' : σ → Prop}

lemma of_true (h : r.1 = true) (hB : B) (hQ : Q r.2) : SucceedsIff r B Q :=
  ⟨iff_of_true h hB, fun _ => hQ⟩

lemma of_false (h : r.1 = false) (hB : ¬B) : SucceedsIff r B Q :=
  ⟨iff_of_false (by rw [h]; exact Bool.false_ne_true) hB, fun hB' => absurd hB' hB⟩

lemma congr (h : SucceedsIff r B Q) (hB : B ↔ B') (hQ : ∀ s, Q s → Q' s) :
    SucceedsIff r B' Q' :=
  ⟨h.ok.trans hB, fun hB' => hQ _ (h.left (hB.mpr hB'))⟩

lemma exists_iff (h : SucceedsIff r B Q) : (∃ s, r = (true, s) ∧ Q s) ↔ B := by
  constructor
  · rintro ⟨s, hr, -⟩
    exact h.ok.mp (by rw [hr])
  · intro hB
    refine ⟨r.2, ?_, h.left hB⟩
    rw [← h.ok.mpr hB]

/-- The rule of sequence. -/
theorem bind {f : σ → Bool × σ} (h : SucceedsIff r B (fun s => SucceedsIff (f s) B' Q)) :
    SucceedsIff (andThen r f) (B ∧ B') Q := by
  rcases r with ⟨ok, s⟩
  cases ok with
  | false =>
    have hB : ¬B := fun hB => Bool.false_ne_true (h.ok.mpr hB)
    exact of_false rfl (fun hboth => hB hboth.1)
  | true =>
    have hB : B := h.ok.mp rfl
    have hf := h.left hB
    exact ⟨hf.ok.trans (and_iff_right hB).symm, fun hboth => hf.left hboth.2⟩

end SucceedsIff

end Fallible
