import Mathlib.Data.List.TakeWhile

/-!
# Reading a log from a given entry on

A subscriber of a log sees nothing before the entry that opens its subscription, and
from then on every entry that it keeps, in log order.
-/

namespace Subscription

variable {ε : Type*} (opens keeps : ε → Prop) [DecidablePred opens] [DecidablePred keeps]

/-- The entries from the opening one on. -/
def since (log : List ε) : List ε :=
  log.dropWhile (fun e => ¬opens e)

/-- What the subscriber sees of a log. -/
def view (log : List ε) : List ε :=
  (since opens log).filter (fun e => keeps e)

variable {opens keeps}

lemma since_of_not_opened {log : List ε} (h : ∀ e ∈ log, ¬opens e) : since opens log = [] := by
  rw [since, List.dropWhile_eq_nil_iff]
  intro e he
  exact decide_eq_true (h e he)

lemma since_append_of_not_opened {log : List ε} (h : ∀ e ∈ log, ¬opens e) (es : List ε) :
    since opens (log ++ es) = since opens es := by
  rw [since, List.dropWhile_append_of_pos]
  · rfl
  · intro e he
    exact decide_eq_true (h e he)

lemma since_append_of_opened {log : List ε} (h : ∃ e ∈ log, opens e) (es : List ε) :
    since opens (log ++ es) = since opens log ++ es := by
  have hne : since opens log ≠ [] := by
    intro hnil
    rw [since, List.dropWhile_eq_nil_iff] at hnil
    obtain ⟨e, he, hopen⟩ := h
    exact of_decide_eq_true (hnil e he) hopen
  rw [since] at hne
  rw [since, since, List.dropWhile_append, if_neg]
  rw [List.isEmpty_iff]
  exact hne

lemma view_of_not_opened {log : List ε} (h : ∀ e ∈ log, ¬opens e) :
    view opens keeps log = [] := by
  rw [view, since_of_not_opened h]
  rfl

lemma view_opening {log : List ε} (h : ∀ e ∈ log, ¬opens e) {e : ε} (he : opens e)
    (hkeep : keeps e) : view opens keeps (log ++ [e]) = [e] := by
  rw [view, since_append_of_not_opened h, since]
  simp [he, hkeep]

lemma view_append {log : List ε} (h : ∃ e ∈ log, opens e) (es : List ε) :
    view opens keeps (log ++ es) = view opens keeps log ++ es.filter (fun e => keeps e) := by
  rw [view, since_append_of_opened h, List.filter_append]
  rfl

lemma view_append_of_not_opened {log : List ε} (h : ∀ e ∈ log, ¬opens e) {e : ε}
    (he : ¬opens e) : view opens keeps (log ++ [e]) = view opens keeps log := by
  have hall : ∀ x ∈ log ++ [e], ¬opens x := by
    exact List.forall_mem_append.mpr ⟨h, List.forall_mem_singleton.mpr he⟩
  rw [view_of_not_opened hall, view_of_not_opened h]

lemma view_subset {log : List ε} : view opens keeps log ⊆ log :=
  fun _ he => (List.dropWhile_suffix _).mem (List.mem_filter.mp he).1

lemma view_prefix {log log' : List ε} (h : log <+: log') :
    view opens keeps log <+: view opens keeps log' := by
  obtain ⟨es, rfl⟩ := h
  by_cases hopened : ∃ e ∈ log, opens e
  · rw [view_append hopened]
    exact List.prefix_append _ _
  · have hno : ∀ e ∈ log, ¬opens e := fun e he hopen => hopened ⟨e, he, hopen⟩
    rw [view_of_not_opened hno]
    exact List.nil_prefix

end Subscription
