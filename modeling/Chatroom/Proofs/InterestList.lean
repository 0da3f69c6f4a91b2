import Chatroom.Model.Epoll

/-!
# The interest list as a map from descriptors to masks

Each wrapper of `epoll_ctl` is described by what it does to `Kernel.mask`.
-/

namespace Chatroom

/-- The masks that the server registers for a client socket. -/
def quietMask : EventMask := epollIn ||| epollRdhup
def fullMask : EventMask := epollIn ||| epollOut ||| epollRdhup
def closingMask : EventMask := epollOut ||| epollRdhup

@[simp] lemma Kernel.mask_call (k : Kernel) (c : SysCall) (fd : Fd) :
    (k.call c).mask fd = k.mask fd := rfl

@[simp] lemma Kernel.mask_ctlScript (k : Kernel) (cs : List (Option Errno)) (fd : Fd) :
    Kernel.mask { k with ctlScript := cs } fd = k.mask fd := rfl

lemma epollUpdate_true {k k' : Kernel} {op : ℤ} {fd : Fd} {events : EventMask}
    (h : epollUpdate k op fd events = (true, k')) :
    epollCtl k.interest op fd events = .ok k'.interest := by
  unfold epollUpdate at h
  dsimp only at h
  split at h
  · cases h
  · cases hc : epollCtl k.interest op fd events with
    | error e =>
      rw [hc] at h
      cases h
    | ok interest =>
      rw [hc] at h
      cases h
      rfl

lemma epollUpdate_false {k k' : Kernel} {op : ℤ} {fd : Fd} {events : EventMask}
    (h : epollUpdate k op fd events = (false, k')) : k'.interest = k.interest := by
  unfold epollUpdate at h
  dsimp only at h
  split at h
  · cases h
    rfl
  · split at h <;> cases h
    rfl

lemma epollUpdate_calls (k : Kernel) (op : ℤ) (fd : Fd) (events : EventMask) :
    (epollUpdate k op fd events).2.calls = k.calls ++ [.ctl op fd] := by
  unfold epollUpdate
  dsimp only
  split
  · rfl
  · split <;> rfl

lemma epollUpdate_unscripted {k : Kernel} (hk : k.ctlScript = []) (op : ℤ) (fd : Fd)
    (events : EventMask) :
    epollUpdate k op fd events =
      match epollCtl k.interest op fd events with
      | .error _ => (false, k.call (.ctl op fd))
      | .ok interest => (true, { k.call (.ctl op fd) with interest := interest }) := by
  unfold epollUpdate
  rw [hk]
  cases h : epollCtl k.interest op fd events <;> simp [Kernel.call, hk]

namespace InterestList

variable (l : InterestList) (entry : PollEntry) (fd : Fd)

lemma find_add (h : l.find entry.fd = none) :
    (l.add entry).find fd = if fd = entry.fd then some entry else l.find fd := by
  rw [add, dif_pos h, find, Keyed.lookup_append_singleton]
  by_cases hfd : fd = entry.fd
  · rw [if_pos hfd, if_pos hfd.symm, hfd]
    exact congrArg (fun o => Option.or o (some entry)) h
  · rw [if_neg hfd, if_neg (fun h => hfd h.symm), Option.or_none]
    rfl

lemma find_add_ne_none (h : fd = entry.fd ∨ l.find fd ≠ none) : (l.add entry).find fd ≠ none := by
  by_cases hnone : l.find entry.fd = none
  · rw [find_add l entry fd hnone]
    split_ifs with hfd
    · exact Option.some_ne_none entry
    · exact h.resolve_left hfd
  · rw [add, dif_neg hnone]
    rcases h with rfl | hsome
    · exact hnone
    · exact hsome

lemma find_modify :
    (l.modify entry).find fd =
      if fd = entry.fd then (l.find fd).map (fun _ => entry) else l.find fd :=
  Keyed.lookup_replace fd entry l.entries

lemma find_delete (g : Fd) : (l.delete fd).find g = if g = fd then none else l.find g := by
  by_cases hg : g = fd
  · rw [if_pos hg, hg, find, Keyed.lookup_none]
    intro e he
    exact ((Keyed.mem_remove l.nodup).mp he).2
  · rw [if_neg hg]
    exact Keyed.lookup_remove_of_ne hg l.entries

end InterestList

lemma epollFdMod_true {k k' : Kernel} {fd : Fd} {events : EventMask}
    (h : epollFdMod k fd events = (true, k')) (g : Fd) :
    k'.mask g = if g = fd then some events else k.mask g := by
  have hctl := epollUpdate_true h
  simp only [epollCtl, epollCtlAdd, epollCtlMod, Int.reduceEq, if_false, if_true] at hctl
  split_ifs at hctl with hnone
  injection hctl with hinterest
  unfold Kernel.mask
  rw [← hinterest, InterestList.find_modify]
  by_cases hg : g = fd
  · subst hg
    cases hl : k.interest.find g with
    | none => simp [hl] at hnone
    | some e => simp
  · simp [hg]

lemma epollFdAdd_true {k k' : Kernel} {fd : Fd} {events : EventMask}
    (h : epollFdAdd k fd events = (true, k')) (g : Fd) :
    k'.mask g = if g = fd then some events else k.mask g := by
  have hctl := epollUpdate_true h
  simp only [epollCtl, epollCtlAdd, if_true] at hctl
  split_ifs at hctl with hsome
  injection hctl with hinterest
  have hnone : k.interest.find fd = none := by simpa using hsome
  unfold Kernel.mask
  rw [← hinterest, InterestList.find_add _ _ _ hnone]
  by_cases hg : g = fd
  · simp [hg]
  · simp [hg]

lemma epollFdMod_registered (k : Kernel) (fd : Fd) (events : EventMask) (g : Fd) :
    (epollFdMod k fd events).2.mask g = none ↔ k.mask g = none := by
  cases h : epollFdMod k fd events with
  | mk ok k' =>
    cases ok with
    | false =>
      unfold Kernel.mask
      rw [epollUpdate_false h]
    | true =>
      have hctl := epollUpdate_true h
      simp only [epollCtl, epollCtlAdd, epollCtlMod, Int.reduceEq, if_false, if_true] at hctl
      split_ifs at hctl with hnone
      injection hctl with hinterest
      unfold Kernel.mask
      rw [← hinterest, InterestList.find_modify]
      split_ifs <;> simp

lemma epollFdRemove_mask (k : Kernel) (fd : Fd) (events : EventMask) {g : Fd} (hg : g ≠ fd) :
    (epollFdRemove k fd events).2.mask g = k.mask g := by
  cases h : epollFdRemove k fd events with
  | mk ok k' =>
    cases ok with
    | false =>
      unfold Kernel.mask
      rw [epollUpdate_false h]
    | true =>
      have hctl := epollUpdate_true h
      simp only [epollCtl, epollCtlAdd, epollCtlMod, epollCtlDel, Int.reduceEq, if_false,
        if_true] at hctl
      split_ifs at hctl with hnone
      injection hctl with hinterest
      unfold Kernel.mask
      rw [← hinterest, InterestList.find_delete, if_neg hg]

@[simp] lemma Kernel.calls_close (k : Kernel) (fd : Fd) :
    (k.close fd).calls = k.calls ++ [.close fd] := rfl

lemma Kernel.mask_close (k : Kernel) (fd g : Fd) :
    (k.close fd).mask g = if g = fd then none else k.mask g := by
  unfold Kernel.mask Kernel.close
  rw [InterestList.find_delete]
  split_ifs <;> rfl

/-! ### Calls that the kernel does not refuse -/

section Unscripted

variable {k : Kernel} (hk : k.ctlScript = [])

include hk

lemma epollFdMod_succeeds {fd : Fd} (hfd : k.mask fd ≠ none) (events : EventMask) :
    ∃ k', epollFdMod k fd events = (true, k') ∧ k'.ctlScript = [] := by
  have hfind : k.interest.find fd ≠ none := by
    intro h
    exact hfd (by rw [Kernel.mask, h]; rfl)
  have hctl : epollCtl k.interest epollCtlMod fd events =
      .ok (k.interest.modify ⟨fd, events⟩) := by
    simp [epollCtl, epollCtlAdd, epollCtlMod, hfind]
  rw [epollFdMod, epollUpdate_unscripted hk, hctl]
  exact ⟨_, rfl, hk⟩

lemma epollFdAdd_succeeds {fd : Fd} (hfd : k.mask fd = none) (events : EventMask) :
    ∃ k', epollFdAdd k fd events = (true, k') ∧ k'.ctlScript = [] := by
  have hfind : k.interest.find fd = none := by
    rw [Kernel.mask] at hfd
    exact Option.map_eq_none_iff.mp hfd
  have hctl : epollCtl k.interest epollCtlAdd fd events =
      .ok (k.interest.add ⟨fd, events⟩) := by
    simp [epollCtl, epollCtlAdd, hfind]
  rw [epollFdAdd, epollUpdate_unscripted hk, hctl]
  exact ⟨_, rfl, hk⟩

lemma epollFdRemove_gone (fd : Fd) (events : EventMask) :
    (epollFdRemove k fd events).2.mask fd = none ∧
      (epollFdRemove k fd events).2.ctlScript = [] := by
  rw [epollFdRemove, epollUpdate_unscripted hk]
  cases hfind : k.interest.find fd with
  | none =>
    have hctl : epollCtl k.interest epollCtlDel fd events = .error .enoent := by
      simp [epollCtl, epollCtlAdd, epollCtlMod, epollCtlDel, hfind]
    rw [hctl]
    exact ⟨by simp [Kernel.mask, Kernel.call, hfind], hk⟩
  | some entry =>
    have hctl : epollCtl k.interest epollCtlDel fd events = .ok (k.interest.delete fd) := by
      simp [epollCtl, epollCtlAdd, epollCtlMod, epollCtlDel, hfind]
    rw [hctl]
    exact ⟨by simp [Kernel.mask, InterestList.find_delete], hk⟩

end Unscripted

lemma InterestList.mem_watching {entries : List PollEntry} {entry : PollEntry}
    (h : entry ∈ (InterestList.watching entries).entries) : entry ∈ entries := by
  have hfold : ∀ (es : List PollEntry) (l : InterestList),
      entry ∈ (es.foldl InterestList.add l).entries → entry ∈ l.entries ∨ entry ∈ es := by
    intro es
    induction es with
    | nil => exact fun l hmem => Or.inl hmem
    | cons e es ih =>
      intro l hmem
      rcases ih (l.add e) hmem with hadd | hes
      · unfold InterestList.add at hadd
        split_ifs at hadd
        · rcases List.mem_append.mp hadd with hl | he
          · exact Or.inl hl
          · exact Or.inr (List.mem_singleton.mp he ▸ List.mem_cons_self)
        · exact Or.inl hadd
      · exact Or.inr (List.mem_cons_of_mem e hes)
  exact (hfold entries _ h).resolve_left List.not_mem_nil

lemma Kernel.exists_entry {k : Kernel} {fd : Fd} (h : k.mask fd ≠ none) :
    ∃ entry ∈ k.interest.entries, entry.fd = fd := by
  by_contra hnone
  have hfind : k.interest.find fd = none :=
    Keyed.lookup_none.mpr (fun entry hmem hfd => hnone ⟨entry, hmem, hfd⟩)
  apply h
  rw [Kernel.mask, hfind]
  rfl

end Chatroom
