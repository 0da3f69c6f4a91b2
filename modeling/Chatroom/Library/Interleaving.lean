import Mathlib.Data.List.Basic

/-!
# Interleavings

A list that two authors write together, each in an order of its own. It grows at its
end, by what one of the two adds.
-/

namespace Interleaving

variable {α : Type*}

/-- `zs` consists of `xs` and `ys`, which keep their orders. -/
inductive Interleaves : List α → List α → List α → Prop
  | nil : Interleaves [] [] []
  | left {xs ys zs : List α} (x : α) (h : Interleaves xs ys zs) :
      Interleaves (xs ++ [x]) ys (zs ++ [x])
  | right {xs ys zs : List α} (y : α) (h : Interleaves xs ys zs) :
      Interleaves xs (ys ++ [y]) (zs ++ [y])

namespace Interleaves

variable {xs ys zs : List α}

lemma append_right (h : Interleaves xs ys zs) (more : List α) :
    Interleaves xs (ys ++ more) (zs ++ more) := by
  induction more generalizing ys zs with
  | nil =>
    rw [List.append_nil, List.append_nil]
    exact h
  | cons y more ih =>
    have hone := ih (h.right y)
    rwa [List.append_assoc, List.append_assoc] at hone

lemma mem_iff (h : Interleaves xs ys zs) {z : α} : z ∈ zs ↔ z ∈ xs ∨ z ∈ ys := by
  induction h with
  | nil => simp
  | left x _ ih =>
    rw [List.mem_append, List.mem_append, ih]
    exact or_right_comm
  | right y _ ih =>
    rw [List.mem_append, List.mem_append, ih]
    exact or_assoc

end Interleaves

end Interleaving
