import Mathlib.Algebra.GroupWithZero.Nat
import Mathlib.Data.List.Basic
import Mathlib.Data.List.Nodup

/-!
# Tables with a key field

A list of records with a key read from each record: look up by key, overwrite the
record of a key, drop the record of a key. The lemmas assume what such tables
keep, that no two records share a key.
-/

namespace Keyed

variable {α κ : Type*}

lemma eq_of_key_eq {key : α → κ} {l : List α} (hn : (l.map key).Nodup) {a b : α} (ha : a ∈ l)
    (hb : b ∈ l) (h : key a = key b) : a = b :=
  List.inj_on_of_nodup_map hn ha hb h

lemma nodup_append_singleton {key : α → κ} {l : List α} {a : α} (hn : (l.map key).Nodup)
    (ha : ∀ b ∈ l, key b ≠ key a) : ((l ++ [a]).map key).Nodup := by
  rw [List.map_append, List.nodup_append]
  refine ⟨hn, by simp, ?_⟩
  intro x hx y hy
  obtain ⟨b, hb, rfl⟩ := List.mem_map.mp hx
  rw [List.map_singleton, List.mem_singleton] at hy
  rw [hy]
  exact ha b hb

variable [DecidableEq κ] (key : α → κ)

/-- The first record with key `k`. -/
def lookup (k : κ) (l : List α) : Option α :=
  l.find? (fun a => key a = k)

/-- Overwrite the record that has the key of `a`. -/
def replace (a : α) (l : List α) : List α :=
  l.map (fun b => if key b = key a then a else b)

/-- Drop the first record with key `k`. -/
def remove (k : κ) (l : List α) : List α :=
  l.eraseP (fun a => key a = k)

variable {key}

lemma lookup_some {k : κ} {l : List α} {a : α} (h : lookup key k l = some a) :
    a ∈ l ∧ key a = k := by
  have hmem := List.mem_of_find?_eq_some h
  have hkey := List.find?_some h
  exact ⟨hmem, by simpa using hkey⟩

lemma lookup_none {k : κ} {l : List α} : lookup key k l = none ↔ ∀ a ∈ l, key a ≠ k := by
  simp [lookup]

lemma lookup_of_mem {l : List α} (hn : (l.map key).Nodup) {a : α} (ha : a ∈ l) :
    lookup key (key a) l = some a := by
  cases h : lookup key (key a) l with
  | none => exact absurd rfl (lookup_none.mp h a ha)
  | some b =>
    obtain ⟨hb, hkey⟩ := lookup_some h
    rw [eq_of_key_eq hn hb ha hkey]

@[simp] lemma map_key_replace (a : α) (l : List α) : (replace key a l).map key = l.map key := by
  induction l with
  | nil => rfl
  | cons b l ih =>
    by_cases h : key b = key a
    · simpa [replace, h] using ih
    · simpa [replace, h] using ih

lemma mem_replace {a b : α} {l : List α} (h : b ∈ replace key a l) :
    b = a ∨ (b ∈ l ∧ key b ≠ key a) := by
  obtain ⟨c, hc, rfl⟩ := List.mem_map.mp h
  by_cases hk : key c = key a
  · simp [hk]
  · simp [hk, hc]

lemma mem_replace_self {a c : α} {l : List α} (hc : c ∈ l) (hk : key c = key a) :
    a ∈ replace key a l :=
  List.mem_map.mpr ⟨c, hc, by simp [hk]⟩

lemma mem_replace_of_ne {a b : α} {l : List α} (hb : b ∈ l) (hk : key b ≠ key a) :
    b ∈ replace key a l :=
  List.mem_map.mpr ⟨b, hb, by simp [hk]⟩

lemma replace_of_absent {a : α} {l : List α} (h : ∀ b ∈ l, key b ≠ key a) :
    replace key a l = l := by
  rw [replace]
  conv_rhs => rw [← List.map_id l]
  apply List.map_congr_left
  intro b hb
  rw [if_neg (h b hb), id]

lemma replace_eq_self {a : α} {l : List α} (hn : (l.map key).Nodup) (ha : a ∈ l) :
    replace key a l = l := by
  have h : ∀ b ∈ l, (if key b = key a then a else b) = b := by
    intro b hb
    by_cases hk : key b = key a
    · rw [if_pos hk, eq_of_key_eq hn hb ha hk]
    · rw [if_neg hk]
  rw [replace, List.map_congr_left h, List.map_id']

lemma map_replace {β : Type*} {l : List α} (hn : (l.map key).Nodup) {a b : α} (hb : b ∈ l)
    (hk : key a = key b) (f : α → β) (hf : f a = f b) : (replace key a l).map f = l.map f := by
  rw [replace, List.map_map]
  apply List.map_congr_left
  intro c hc
  rw [Function.comp_apply]
  split_ifs with h
  · rw [eq_of_key_eq hn hc hb (h.trans hk), hf]
  · rfl

lemma sum_replace {l : List α} (hn : (l.map key).Nodup) {a b : α} (hb : b ∈ l)
    (hk : key a = key b) (f : α → ℕ) :
    ((replace key a l).map f).sum + f b = (l.map f).sum + f a := by
  induction l with
  | nil => cases hb
  | cons c l ih =>
    rw [List.map_cons, List.nodup_cons] at hn
    have hcons : replace key a (c :: l) = (if key c = key a then a else c) :: replace key a l :=
      rfl
    rw [hcons, List.map_cons, List.map_cons, List.sum_cons, List.sum_cons]
    rcases List.mem_cons.mp hb with rfl | hmem
    · have habsent : ∀ d ∈ l, key d ≠ key a := by
        intro d hd heq
        exact hn.1 (List.mem_map.mpr ⟨d, hd, heq.trans hk⟩)
      rw [if_pos hk.symm, replace_of_absent habsent]
      omega
    · have hne : key c ≠ key a := by
        intro heq
        exact hn.1 (List.mem_map.mpr ⟨b, hmem, hk.symm.trans heq.symm⟩)
      rw [if_neg hne]
      have := ih hn.2 hmem
      omega

lemma lookup_replace (k : κ) (a : α) (l : List α) :
    lookup key k (replace key a l) =
      if k = key a then (lookup key k l).map (fun _ => a) else lookup key k l := by
  induction l with
  | nil => simp [lookup, replace]
  | cons b l ih =>
    simp only [lookup, replace, List.map_cons, List.find?_cons] at ih ⊢
    by_cases hb : key b = key a
    · by_cases hk : k = key a
      · simp [hb, hk]
      · have hak : ¬key a = k := fun h => hk h.symm
        simpa [hb, hk, hak] using ih
    · by_cases hk : k = key a
      · subst hk
        simpa [hb] using ih
      · by_cases hbk : key b = k
        · simp [hk, hbk]
        · simpa [hb, hk, hbk] using ih

lemma lookup_append_singleton (k : κ) (a : α) (l : List α) :
    lookup key k (l ++ [a]) = (lookup key k l).or (if key a = k then some a else none) := by
  by_cases h : key a = k <;> simp [lookup, List.find?_append, h]

lemma lookup_remove_of_ne {k k' : κ} (h : k' ≠ k) (l : List α) :
    lookup key k' (remove key k l) = lookup key k' l := by
  induction l with
  | nil => rfl
  | cons b l ih =>
    simp only [lookup, remove, List.eraseP_cons] at ih ⊢
    by_cases hb : key b = k
    · have hk : ¬k = k' := fun h' => h h'.symm
      simp [hb, hk]
    · by_cases hb' : key b = k'
      · simp [hb', h]
      · simpa [hb, hb'] using ih

lemma remove_cons_of_eq {k : κ} {a : α} (h : key a = k) (l : List α) :
    remove key k (a :: l) = l := by
  simp [remove, h]

lemma remove_cons_of_ne {k : κ} {a : α} (h : key a ≠ k) (l : List α) :
    remove key k (a :: l) = a :: remove key k l := by
  simp [remove, h]

lemma remove_eq_filter {k : κ} {l : List α} (hn : (l.map key).Nodup) :
    remove key k l = l.filter (fun a => key a ≠ k) := by
  induction l with
  | nil => rfl
  | cons b l ih =>
    rw [List.map_cons, List.nodup_cons] at hn
    by_cases h : key b = k
    · have hl : l.filter (fun a => key a ≠ k) = l := by
        rw [List.filter_eq_self]
        intro a ha
        simp only [ne_eq, decide_not, Bool.not_eq_eq_eq_not, Bool.not_true, decide_eq_false_iff_not]
        rintro rfl
        exact hn.1 (List.mem_map.mpr ⟨a, ha, h.symm⟩)
      simp only [remove, List.eraseP_cons, h, decide_true, cond_true, ne_eq, not_true_eq_false,
        decide_false, Bool.false_eq_true, not_false_eq_true, List.filter_cons_of_neg]
      exact hl.symm
    · have ih := ih hn.2
      simp only [remove] at ih
      simp [remove, h, ih]

lemma remove_replace {l : List α} (hn : (l.map key).Nodup) (a : α) :
    remove key (key a) (replace key a l) = remove key (key a) l := by
  induction l with
  | nil => rfl
  | cons b l ih =>
    rw [List.map_cons, List.nodup_cons] at hn
    have hcons : replace key a (b :: l) =
        (if key b = key a then a else b) :: replace key a l := rfl
    rw [hcons]
    by_cases h : key b = key a
    · have hl : replace key a l = l :=
        replace_of_absent (fun c hc h' => hn.1 (List.mem_map.mpr ⟨c, hc, h'.trans h.symm⟩))
      rw [if_pos h, remove_cons_of_eq rfl, remove_cons_of_eq h, hl]
    · rw [if_neg h, remove_cons_of_ne h, remove_cons_of_ne h, ih hn.2]

lemma mem_remove {k : κ} {l : List α} (hn : (l.map key).Nodup) {a : α} :
    a ∈ remove key k l ↔ a ∈ l ∧ key a ≠ k := by
  rw [remove_eq_filter hn, List.mem_filter]
  simp

/-! The same operations at the position where a linear search stops. -/

lemma findIdx_eq_length_iff {k : κ} {l : List α} :
    l.findIdx (fun a => key a = k) = l.length ↔ lookup key k l = none := by
  rw [List.findIdx_eq_length, lookup_none]
  simp

lemma modify_findIdx {l : List α} (hn : (l.map key).Nodup) {a : α} {f : α → α}
    (hf : ∀ b, key b = key a → f b = a) :
    l.modify (l.findIdx (fun b => key b = key a)) f = replace key a l := by
  induction l with
  | nil => rfl
  | cons b l ih =>
    rw [List.map_cons, List.nodup_cons] at hn
    by_cases hb : key b = key a
    · have hrest : replace key a l = l :=
        replace_of_absent (fun c hc h => hn.1 (List.mem_map.mpr ⟨c, hc, h.trans hb.symm⟩))
      have hcons : replace key a (b :: l) = a :: replace key a l := by simp [replace, hb]
      rw [hcons, hrest]
      simp [List.findIdx_cons, hb, hf b hb]
    · have hcons : replace key a (b :: l) = b :: replace key a l := by simp [replace, hb]
      rw [hcons, ← ih hn.2]
      simp [List.findIdx_cons, hb]

lemma eraseIdx_findIdx {k : κ} {l : List α} :
    l.eraseIdx (l.findIdx (fun a => key a = k)) = remove key k l := by
  induction l with
  | nil => rfl
  | cons b l ih =>
    by_cases hb : key b = k
    · simp [List.findIdx_cons, remove, hb]
    · simp only [remove] at ih
      simp [List.findIdx_cons, remove, hb, ih]

lemma map_remove_eq_erase {μ : Type*} [DecidableEq μ] {key' : α → μ} {l : List α}
    (hn : (l.map key).Nodup) (hn' : (l.map key').Nodup) {a : α} (ha : a ∈ l) :
    (remove key (key a) l).map key' = (l.map key').erase (key' a) := by
  induction l with
  | nil => exact absurd ha List.not_mem_nil
  | cons b l ih =>
    by_cases hba : b = a
    · simp [remove, hba]
    · have ha' : a ∈ l := List.mem_of_ne_of_mem (fun h => hba h.symm) ha
      have hk : key b ≠ key a := fun h => hba (eq_of_key_eq hn List.mem_cons_self ha h)
      have hk' : key' b ≠ key' a := fun h => hba (eq_of_key_eq hn' List.mem_cons_self ha h)
      have hcons : remove key (key a) (b :: l) = b :: remove key (key a) l := by
        simp [remove, hk]
      have herase : (key' b :: l.map key').erase (key' a) =
          key' b :: (l.map key').erase (key' a) := by
        simp [hk']
      rw [List.map_cons, List.nodup_cons] at hn hn'
      rw [hcons, List.map_cons, List.map_cons, herase, ih hn.2 hn'.2 ha']

/-! A part of a table. -/

section Filter

variable {l : List α} (hn : (l.map key).Nodup) {p : α → Bool}

include hn

lemma filter_replace {a b : α} (hb : b ∈ l) (hk : key a = key b) (hp : p a = p b) :
    (replace key a l).filter p = replace key a (l.filter p) := by
  rw [replace, List.filter_map, replace]
  congr 1
  apply List.filter_congr
  intro c hc
  rw [Function.comp_apply]
  split_ifs with h
  · rw [hp, eq_of_key_eq hn hc hb (h.trans hk)]
  · rfl

lemma filter_replace_outside {a b : α} (hb : b ∈ l) (hk : key a = key b) (hp : p a = p b)
    (hpb : p b = false) : (replace key a l).filter p = l.filter p := by
  rw [filter_replace hn hb hk hp]
  apply replace_of_absent
  intro c hc heq
  obtain ⟨hmem, hpc⟩ := List.mem_filter.mp hc
  rw [eq_of_key_eq hn hmem hb (heq.trans hk), hpb] at hpc
  exact Bool.false_ne_true hpc

lemma filter_remove (k : κ) : (remove key k l).filter p = remove key k (l.filter p) := by
  have hn' : ((l.filter p).map key).Nodup := hn.sublist (List.filter_sublist.map key)
  rw [remove_eq_filter hn, remove_eq_filter hn', List.filter_filter, List.filter_filter]
  apply List.filter_congr
  intro a _
  exact Bool.and_comm _ _

lemma filter_remove_outside {b : α} (hb : b ∈ l) (hpb : p b = false) :
    (remove key (key b) l).filter p = l.filter p := by
  rw [remove_eq_filter hn, List.filter_filter]
  apply List.filter_congr
  intro a ha
  by_cases h : key a = key b
  · rw [eq_of_key_eq hn ha hb h, hpb, Bool.false_and]
  · simp [h]

end Filter

/-! Tables whose records correspond. -/

section Aligned

variable {R : α → α → Prop} (hkey : ∀ a b, R a b → key b = key a) {l l' : List α}
  (h : List.Forall₂ R l l')

include hkey h

lemma forall₂_replace {a b : α} (hab : R a b) :
    List.Forall₂ R (replace key a l) (replace key b l') := by
  induction h with
  | nil => exact List.Forall₂.nil
  | cons hhead _ ih =>
    refine List.Forall₂.cons ?_ ih
    dsimp only
    rw [hkey _ _ hhead, hkey _ _ hab]
    split_ifs
    · exact hab
    · exact hhead

lemma forall₂_remove (k : κ) : List.Forall₂ R (remove key k l) (remove key k l') := by
  induction h with
  | nil => exact List.Forall₂.nil
  | @cons a b l l' hhead htail ih =>
    have hab := hkey _ _ hhead
    by_cases hk : key a = k
    · rw [remove_cons_of_eq hk, remove_cons_of_eq (hab.trans hk)]
      exact htail
    · rw [remove_cons_of_ne hk, remove_cons_of_ne (by rwa [hab])]
      exact List.Forall₂.cons hhead ih

end Aligned

lemma remove_sublist (k : κ) (l : List α) : (remove key k l).Sublist l :=
  List.eraseP_sublist

end Keyed
