import Mathlib.Data.List.Count
import Mathlib.Data.List.Nodup
import Mathlib.Data.List.TakeWhile

/-!
# Handles that are opened, used and closed

A log of acts on handles is lawful when a handle is opened only while it is not open, and
used and closed only while it is. A handle that was closed may be opened again. In a lawful
log at whose end a handle is not open, every opening of it is followed by exactly one close,
and by nothing else on that handle until it is opened again.
-/

namespace Handles

variable {ρ : Type*}

inductive Act (ρ : Type*)
  | opens (r : ρ)
  | uses (r : ρ)
  | closes (r : ρ)
  deriving DecidableEq

def Act.handle : Act ρ → ρ
  | .opens r | .uses r | .closes r => r

variable [DecidableEq ρ]

/-- The open handles after an act, in the order in which they were opened. -/
def Act.after (held : List ρ) : Act ρ → List ρ
  | .opens r => held ++ [r]
  | .uses _ => held
  | .closes r => held.erase r

def Act.Allowed (held : List ρ) : Act ρ → Prop
  | .opens r => r ∉ held
  | .uses r => r ∈ held
  | .closes r => r ∈ held

/-- The open handles after a log. -/
def heldAfter (held : List ρ) (acts : List (Act ρ)) : List ρ :=
  acts.foldl Act.after held

/-- Every act is allowed when it happens. -/
def Lawful : List ρ → List (Act ρ) → Prop
  | _, [] => True
  | held, a :: acts => a.Allowed held ∧ Lawful (a.after held) acts

/-- The acts up to the next time that `r` is opened. -/
def lifetime (r : ρ) (acts : List (Act ρ)) : List (Act ρ) :=
  acts.takeWhile (fun a => a ≠ .opens r)

/-- Before `r` is opened again it is closed once, and not touched after that. -/
def ClosedOnce (r : ρ) (acts : List (Act ρ)) : Prop :=
  ∃ before rest, lifetime r acts = before ++ .closes r :: rest ∧ .closes r ∉ before ∧
    ∀ a ∈ rest, a.handle ≠ r

variable {held : List ρ} {acts : List (Act ρ)} {r : ρ}

lemma heldAfter_append (xs ys : List (Act ρ)) :
    heldAfter held (xs ++ ys) = heldAfter (heldAfter held xs) ys :=
  List.foldl_append

lemma lawful_append {xs ys : List (Act ρ)} :
    Lawful held (xs ++ ys) ↔ Lawful held xs ∧ Lawful (heldAfter held xs) ys := by
  induction xs generalizing held with
  | nil => simp [Lawful, heldAfter]
  | cons a xs ih =>
    have hcons : heldAfter held (a :: xs) = heldAfter (a.after held) xs := rfl
    rw [List.cons_append, Lawful, Lawful, ih, hcons, and_assoc]

lemma lawful_uses (h : ∀ a ∈ acts, ∃ r ∈ held, a = .uses r) :
    Lawful held acts ∧ heldAfter held acts = held := by
  induction acts with
  | nil => exact ⟨trivial, rfl⟩
  | cons a acts ih =>
    obtain ⟨r, hr, rfl⟩ := h a List.mem_cons_self
    obtain ⟨hlawful, hafter⟩ := ih (fun b hb => h b (List.mem_cons_of_mem _ hb))
    exact ⟨⟨hr, hlawful⟩, hafter⟩

lemma lawful_closeAll {rs : List ρ} (hr : r ∉ rs) :
    Lawful (r :: rs) (rs.map .closes) ∧ heldAfter (r :: rs) (rs.map .closes) = [r] := by
  induction rs with
  | nil => exact ⟨trivial, rfl⟩
  | cons q rs ih =>
    rw [List.mem_cons, not_or] at hr
    have herase : Act.after (r :: q :: rs) (.closes q) = r :: rs := by
      simp [Act.after, hr.1]
    obtain ⟨hlawful, hafter⟩ := ih hr.2
    have hcons : heldAfter (r :: q :: rs) (.closes q :: rs.map .closes) =
        heldAfter (Act.after (r :: q :: rs) (.closes q)) (rs.map .closes) := rfl
    rw [List.map_cons, Lawful, hcons, herase]
    exact ⟨⟨List.mem_cons_of_mem r List.mem_cons_self, hlawful⟩, hafter⟩

lemma Act.Allowed.nodup {a : Act ρ} (h : a.Allowed held) (hn : held.Nodup) :
    (a.after held).Nodup := by
  cases a with
  | opens r =>
    unfold Act.after
    rw [List.nodup_append]
    refine ⟨hn, List.nodup_singleton r, ?_⟩
    intro x hx y hy hxy
    rw [List.mem_singleton.mp hy] at hxy
    exact h (hxy ▸ hx)
  | uses r => exact hn
  | closes r => exact hn.erase r

lemma Lawful.nodup (h : Lawful held acts) (hn : held.Nodup) : (heldAfter held acts).Nodup := by
  induction acts generalizing held with
  | nil => exact hn
  | cons a acts ih => exact ih h.2 (h.1.nodup hn)

lemma Act.mem_after_of_ne {a : Act ρ} (hne : a.handle ≠ r) : r ∈ a.after held ↔ r ∈ held := by
  cases a with
  | opens q =>
    have hrq : r ≠ q := fun h => hne h.symm
    simp [Act.after, hrq]
  | uses q => rfl
  | closes q => exact List.mem_erase_of_ne (fun h => hne h.symm)

lemma lifetime_cons_of_ne {a : Act ρ} (hne : a ≠ .opens r) :
    lifetime r (a :: acts) = a :: lifetime r acts := by
  simp [lifetime, hne]

lemma Lawful.untouched (h : Lawful held acts) (hr : r ∉ held) :
    ∀ a ∈ lifetime r acts, a.handle ≠ r := by
  induction acts generalizing held with
  | nil => exact fun a ha => absurd ha List.not_mem_nil
  | cons a acts ih =>
    obtain ⟨hallowed, hrest⟩ := h
    by_cases hopen : a = .opens r
    · simp [lifetime, hopen]
    · have hne : a.handle ≠ r := by
        intro heq
        cases a with
        | opens q => exact hopen (congrArg Act.opens heq)
        | uses q => exact hr (heq ▸ hallowed)
        | closes q => exact hr (heq ▸ hallowed)
      rw [lifetime_cons_of_ne hopen, List.forall_mem_cons]
      refine ⟨hne, ih hrest ?_⟩
      rw [Act.mem_after_of_ne hne]
      exact hr

/-- An open handle that is not open in the end is closed exactly once in between. -/
theorem Lawful.closedOnce (h : Lawful held acts) (hn : held.Nodup) (hr : r ∈ held)
    (hend : r ∉ heldAfter held acts) : ClosedOnce r acts := by
  induction acts generalizing held with
  | nil => exact absurd hr hend
  | cons a acts ih =>
    obtain ⟨hallowed, hrest⟩ := h
    by_cases hclose : a = .closes r
    · subst hclose
      refine ⟨[], lifetime r acts, lifetime_cons_of_ne (by simp), List.not_mem_nil, ?_⟩
      exact hrest.untouched hn.not_mem_erase
    · have hopen : a ≠ .opens r := by
        rintro rfl
        exact hallowed hr
      have hmem : r ∈ a.after held := by
        by_cases hne : a.handle = r
        · cases a with
          | opens q => exact absurd (congrArg Act.opens hne) hopen
          | uses q => exact hr
          | closes q => exact absurd (congrArg Act.closes hne) hclose
        · rw [Act.mem_after_of_ne hne]
          exact hr
      obtain ⟨before, rest, hsplit, hbefore, huntouched⟩ := ih hrest (hallowed.nodup hn) hmem hend
      refine ⟨a :: before, rest, ?_, ?_, huntouched⟩
      · rw [lifetime_cons_of_ne hopen, hsplit, List.cons_append]
      · rw [List.mem_cons, not_or]
        exact ⟨fun heq => hclose heq.symm, hbefore⟩

theorem Lawful.opening_closedOnce {before after : List (Act ρ)}
    (h : Lawful held (before ++ .opens r :: after)) (hn : held.Nodup)
    (hend : r ∉ heldAfter held (before ++ .opens r :: after)) : ClosedOnce r after := by
  obtain ⟨hbefore, hallowed, hafter⟩ := lawful_append.mp h
  rw [heldAfter_append] at hend
  exact hafter.closedOnce (hallowed.nodup (hbefore.nodup hn))
    (List.mem_append_right _ List.mem_cons_self) hend

theorem Lawful.count_closes (h : Lawful held acts) (r : ρ) :
    acts.count (.closes r) + (heldAfter held acts).count r =
      acts.count (.opens r) + held.count r := by
  induction acts generalizing held with
  | nil => simp [heldAfter]
  | cons a acts ih =>
    obtain ⟨hallowed, hrest⟩ := h
    have hih := ih hrest
    have hcons : heldAfter held (a :: acts) = heldAfter (a.after held) acts := rfl
    rw [hcons]
    cases a with
    | uses q =>
      have h₁ : (Act.uses q :: acts).count (.closes r) = acts.count (.closes r) := by
        simp
      have h₂ : (Act.uses q :: acts).count (.opens r) = acts.count (.opens r) := by
        simp
      rw [h₁, h₂]
      exact hih
    | opens q =>
      have h₁ : (Act.opens q :: acts).count (.closes r) = acts.count (.closes r) := by
        simp
      have hafter : Act.after held (.opens q) = held ++ [q] := rfl
      rw [hafter, List.count_append] at hih
      rw [h₁, hafter]
      by_cases hq : q = r
      · subst hq
        rw [List.count_cons_self]
        rw [List.count_singleton_self] at hih
        omega
      · have h₂ : (Act.opens q :: acts).count (.opens r) = acts.count (.opens r) := by
          simp [hq]
        have h₃ : [q].count r = 0 := by simp [hq]
        rw [h₂]
        omega
    | closes q =>
      have h₂ : (Act.closes q :: acts).count (.opens r) = acts.count (.opens r) := by
        simp
      have hafter : Act.after held (.closes q) = held.erase q := rfl
      rw [hafter] at hih
      rw [h₂, hafter]
      by_cases hq : q = r
      · subst hq
        have hpos : 0 < held.count q := List.count_pos_iff.mpr hallowed
        rw [List.count_erase_self] at hih
        rw [List.count_cons_self]
        omega
      · have h₁ : (Act.closes q :: acts).count (.closes r) = acts.count (.closes r) := by
          simp [hq]
        rw [List.count_erase_of_ne (fun h => hq h.symm)] at hih
        rw [h₁]
        exact hih

end Handles
