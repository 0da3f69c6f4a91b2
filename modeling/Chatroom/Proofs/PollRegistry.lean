import Chatroom.Model.PollEmulation
import Chatroom.Proofs.InterestList

/-!
# The emulation is a registry

Each live instance of the emulation is an interest list, `epoll_ctl` acts on it as the
`epoll_ctl` of the model does, and `epoll_wait` reports the watched descriptors that `poll`
found ready, in the order of their registration.
-/

namespace Chatroom

namespace PollEmulation
open Transition

namespace PollState

variable (s : PollState)

/-- An instance that was created. -/
def Live (epollFd : ℤ) : Prop :=
  s.pollInstances epollFd ≠ none

/-- The mask under which an instance watches a descriptor. -/
def mask (epollFd : ℤ) (fd : Fd) : Option EventMask :=
  (s.pollInstances epollFd).bind
    (fun entries => (Keyed.lookup PollEntry.fd fd entries).map PollEntry.events)

/-- No instance watches a descriptor twice, and the next instance number is unused. -/
structure Sound : Prop where
  nodup : ∀ epollFd entries, s.pollInstances epollFd = some entries →
    (entries.map PollEntry.fd).Nodup
  below : ∀ epollFd, s.Live epollFd → s.nextPollInstance < epollFd
  negative : s.nextPollInstance ≤ -2

end PollState

section Instances

variable {s s' : PollState} {epollFd : ℤ}

lemma store_same (entries : List PollEntry) :
    (s.store epollFd entries).pollInstances epollFd = some entries :=
  Function.update_self ..

lemma store_other (entries : List PollEntry) {other : ℤ} (h : other ≠ epollFd) :
    (s.store epollFd entries).pollInstances other = s.pollInstances other :=
  Function.update_of_ne h ..

lemma store_mask (l : InterestList) (other : ℤ) (fd : Fd) :
    (s.store epollFd l.entries).mask other fd =
      if other = epollFd then (l.find fd).map PollEntry.events else s.mask other fd := by
  unfold PollState.mask
  by_cases h : other = epollFd
  · rw [if_pos h, h, store_same]
    rfl
  · rw [if_neg h, store_other _ h]

lemma store_live {entries : List PollEntry} (hlive : s.Live epollFd) (other : ℤ) :
    (s.store epollFd entries).Live other ↔ s.Live other := by
  unfold PollState.Live
  by_cases h : other = epollFd
  · rw [h, store_same]
    exact iff_of_true (Option.some_ne_none _) hlive
  · rw [store_other _ h]

lemma PollState.Sound.store (hs : s.Sound) (hlive : s.Live epollFd) (l : InterestList) :
    (s.store epollFd l.entries).Sound where
  nodup := by
    intro other entries h
    by_cases heq : other = epollFd
    · rw [heq, store_same] at h
      injection h with h
      rw [← h]
      exact l.nodup
    · rw [store_other _ heq] at h
      exact hs.nodup other entries h
  below := fun other h => hs.below other ((store_live hlive other).mp h)
  negative := hs.negative

lemma mask_interest {l : InterestList} (hl : s.pollInstances epollFd = some l.entries) (fd : Fd) :
    s.mask epollFd fd = (l.find fd).map PollEntry.events := by
  rw [PollState.mask, hl]
  rfl

lemma PollState.Sound.interest (hs : s.Sound) (hlive : s.Live epollFd) :
    ∃ l : InterestList, s.pollInstances epollFd = some l.entries := by
  obtain ⟨entries, h⟩ := Option.ne_none_iff_exists'.mp hlive
  exact ⟨⟨entries, hs.nodup epollFd entries h⟩, h⟩

lemma position_eq_length_iff (l : InterestList) (fd : Fd) :
    position l.entries fd = l.entries.length ↔ l.find fd = none :=
  Keyed.findIdx_eq_length_iff

theorem epollCtl_interest {l : InterestList} (hl : s.pollInstances epollFd = some l.entries)
    (op : ℤ) (fd : Fd) (event : Option EventMask) :
    epollCtl s epollFd op fd event =
      match Chatroom.epollCtl l op fd (event.getD 0) with
      | .error e => (.error e, s)
      | .ok l' => (.ok (), s.store epollFd l'.entries) := by
  have hposition := position_eq_length_iff l fd
  have hmodify : l.entries.modify (position l.entries fd)
      (fun e => { e with events := event.getD 0 }) = (l.modify ⟨fd, event.getD 0⟩).entries :=
    Keyed.modify_findIdx l.nodup (a := ⟨fd, event.getD 0⟩)
      (fun b hb => by rw [show b.fd = fd from hb])
  have herase : l.entries.eraseIdx (position l.entries fd) = (l.delete fd).entries :=
    Keyed.eraseIdx_findIdx
  unfold epollCtl Chatroom.epollCtl
  rw [hl]
  dsimp only
  rw [hmodify, herase]
  cases hfind : l.find fd with
  | none =>
    have hend : position l.entries fd = l.entries.length := hposition.mpr hfind
    have hadd : (l.add ⟨fd, event.getD 0⟩).entries = l.entries ++ [⟨fd, event.getD 0⟩] := by
      rw [InterestList.add, dif_pos hfind]
    split_ifs <;> simp_all
  | some entry =>
    have hend : position l.entries fd ≠ l.entries.length := by
      intro h
      rw [hposition.mp h] at hfind
      cases hfind
    split_ifs <;> simp_all

/-! ### The outcomes of `epoll_ctl` -/

/-- The reasons for which a call fails. -/
inductive Refusal (s : PollState) (epollFd op : ℤ) (fd : Fd) : Errno → Prop
  | ebadf (h : ¬s.Live epollFd) : Refusal s epollFd op fd .ebadf
  | eexist (hlive : s.Live epollFd) (hop : op = epollCtlAdd) (h : s.mask epollFd fd ≠ none) :
      Refusal s epollFd op fd .eexist
  | enoent (hlive : s.Live epollFd) (hop : op = epollCtlMod ∨ op = epollCtlDel)
      (h : s.mask epollFd fd = none) : Refusal s epollFd op fd .enoent
  | einval (hlive : s.Live epollFd) (hadd : op ≠ epollCtlAdd) (hmod : op ≠ epollCtlMod)
      (hdel : op ≠ epollCtlDel) : Refusal s epollFd op fd .einval

/-- The entry of `fd` after a call that succeeds. -/
def entryAfter (op : ℤ) (event : Option EventMask) : Option EventMask :=
  if op = epollCtlDel then none else some (event.getD 0)

/-- A call fails and changes nothing, or it changes the entry of its descriptor. -/
inductive Outcome (s : PollState) (epollFd op : ℤ) (fd : Fd) (event : Option EventMask) :
    Except Errno Unit × PollState → Prop
  | refused (e : Errno) (h : Refusal s epollFd op fd e) :
      Outcome s epollFd op fd event (.error e, s)
  | done (l : InterestList) (hlive : s.Live epollFd)
      (hop : op = epollCtlAdd ∧ s.mask epollFd fd = none ∨
        (op = epollCtlMod ∨ op = epollCtlDel) ∧ s.mask epollFd fd ≠ none)
      (hmask : ∀ g, (l.find g).map PollEntry.events =
        if g = fd then entryAfter op event else s.mask epollFd g) :
      Outcome s epollFd op fd event (.ok (), s.store epollFd l.entries)

theorem epollCtl_outcome (hs : s.Sound) (epollFd op : ℤ) (fd : Fd) (event : Option EventMask) :
    Outcome s epollFd op fd event (epollCtl s epollFd op fd event) := by
  by_cases hlive : s.Live epollFd
  · obtain ⟨l, hl⟩ := hs.interest hlive
    have hmask := mask_interest hl
    have hne : ∀ entry, l.find fd = some entry → s.mask epollFd fd ≠ none := by
      intro entry hfind
      rw [hmask, hfind]
      exact Option.some_ne_none _
    have hadd : epollCtlAdd ≠ epollCtlDel := by decide
    have hmod : epollCtlMod ≠ epollCtlDel := by decide
    rw [epollCtl_interest hl, Chatroom.epollCtl]
    cases hfind : l.find fd with
    | none =>
      have hnone : s.mask epollFd fd = none := by
        rw [hmask, hfind]
        rfl
      split_ifs with h₁ h₂ h₃ h₄ h₅ h₆
      · cases h₂
      · refine Outcome.done _ hlive (Or.inl ⟨h₁, hnone⟩) ?_
        intro g
        rw [InterestList.find_add _ _ _ hfind, hmask, entryAfter, h₁, if_neg hadd]
        split_ifs <;> rfl
      · exact Outcome.refused _ (Refusal.enoent hlive (Or.inl h₃) hnone)
      · exact absurd rfl h₄
      · exact Outcome.refused _ (Refusal.enoent hlive (Or.inr h₅) hnone)
      · exact absurd rfl h₆
      · exact Outcome.refused _ (Refusal.einval hlive h₁ h₃ h₅)
    | some entry =>
      split_ifs with h₁ h₂ h₃ h₄ h₅ h₆
      · exact Outcome.refused _ (Refusal.eexist hlive h₁ (hne entry hfind))
      · exact absurd rfl h₂
      · cases h₄
      · refine Outcome.done _ hlive (Or.inr ⟨Or.inl h₃, hne entry hfind⟩) ?_
        intro g
        rw [InterestList.find_modify, hmask, entryAfter, h₃, if_neg hmod]
        by_cases hg : g = fd
        · subst hg
          simp [hfind]
        · simp [hg]
      · cases h₆
      · refine Outcome.done _ hlive (Or.inr ⟨Or.inr h₅, hne entry hfind⟩) ?_
        intro g
        rw [InterestList.find_delete, hmask, entryAfter, if_pos h₅]
        split_ifs <;> rfl
      · exact Outcome.refused _ (Refusal.einval hlive h₁ h₃ h₅)
  · have hnone : s.pollInstances epollFd = none := not_not.mp hlive
    have heq : epollCtl s epollFd op fd event = (.error .ebadf, s) := by
      rw [epollCtl, hnone]
    rw [heq]
    exact Outcome.refused _ (Refusal.ebadf hlive)

lemma PollState.Sound.ctl (hs : s.Sound) (epollFd op : ℤ) (fd : Fd) (event : Option EventMask) :
    (epollCtl s epollFd op fd event).2.Sound := by
  have h := epollCtl_outcome hs epollFd op fd event
  generalize epollCtl s epollFd op fd event = r at h
  cases h with
  | refused e h => exact hs
  | done l hlive hop hmask => exact hs.store hlive l

/-! ### Creating an instance -/

lemma epollCreate1_some (h : epollCreate1 s = some (epollFd, s')) :
    epollFd = s.nextPollInstance ∧ s'.nextPollInstance = epollFd - 1 ∧
      s'.pollInstances epollFd = some [] ∧
      ∀ other, other ≠ epollFd → s'.pollInstances other = s.pollInstances other := by
  unfold epollCreate1 at h
  split_ifs at h
  injection h with h
  injection h with hfd hs
  subst hfd
  rw [← hs]
  exact ⟨rfl, rfl, Function.update_self .., fun other hother => Function.update_of_ne hother ..⟩

lemma PollState.Sound.create (hs : s.Sound) (h : epollCreate1 s = some (epollFd, s')) :
    s'.Sound := by
  obtain ⟨hfd, hnext, hempty, hothers⟩ := epollCreate1_some h
  have hneg := hs.negative
  refine ⟨?_, ?_, ?_⟩
  · intro other entries hother
    by_cases heq : other = epollFd
    · rw [heq, hempty] at hother
      injection hother with hother
      rw [← hother]
      exact List.nodup_nil
    · rw [hothers other heq] at hother
      exact hs.nodup other entries hother
  · intro other hlive
    by_cases heq : other = epollFd
    · omega
    · have hold : s.Live other := by
        unfold PollState.Live at hlive
        rw [hothers other heq] at hlive
        exact hlive
      have hlt := hs.below other hold
      omega
  · omega

end Instances

/-! ### Waiting -/

section Waiting

variable {entries : List PollEntry} {revents : ℕ → PollFlags}

/-- The event of the entry at position `i`. -/
def eventAt (revents : ℕ → PollFlags) (i : ℕ) (entry : PollEntry) : EpollEvent :=
  ⟨entry.fd, pollEventsToEpoll (revents i)⟩

/-- The events of the entries that are ready, in the order of registration. -/
def readyEvents (entries : List PollEntry) (revents : ℕ → PollFlags) : List EpollEvent :=
  (entries.mapIdx (eventAt revents)).filter (fun e => e.events ≠ 0)

end Waiting

/-- What one call of `epoll_wait` reports, by the `revents` that `poll` set. -/
structure Reports (entries : List PollEntry) (revents : ℕ → PollFlags) (maxevents : ℤ)
    (r : ℤ × List EpollEvent) : Prop where
  count : r.1 = r.2.length
  bounded : (r.2.length : ℤ) ≤ maxevents
  nodup : (r.2.map EpollEvent.fd).Nodup
  ordered : (r.2.map EpollEvent.fd).Sublist (entries.map PollEntry.fd)
  translated : ∀ e ∈ r.2, ∃ i entry, entries[i]? = some entry ∧ e = eventAt revents i entry ∧
    pollEventsToEpoll (revents i) ≠ 0
  first : r.2 <+: readyEvents entries revents
  complete : ((readyEvents entries revents).length : ℤ) ≤ maxevents →
    ∀ i entry, entries[i]? = some entry → pollEventsToEpoll (revents i) ≠ 0 →
      eventAt revents i entry ∈ r.2

/-- The instances as finite maps from descriptors to masks. -/
structure PollState.Registry (s : PollState) : Prop where
  distinct : ∀ epollFd entries, s.pollInstances epollFd = some entries →
    (entries.map PollEntry.fd).Nodup
  creates : ∀ epollFd s', epollCreate1 s = some (epollFd, s') →
    ¬s.Live epollFd ∧ s'.pollInstances epollFd = some [] ∧
      ∀ other, other ≠ epollFd → s'.pollInstances other = s.pollInstances other
  adds : ∀ epollFd fd event, (epollCtl s epollFd epollCtlAdd fd event).1 = .ok () ↔
    s.Live epollFd ∧ s.mask epollFd fd = none
  modifies : ∀ epollFd fd event, (epollCtl s epollFd epollCtlMod fd event).1 = .ok () ↔
    s.Live epollFd ∧ s.mask epollFd fd ≠ none
  deletes : ∀ epollFd fd event, (epollCtl s epollFd epollCtlDel fd event).1 = .ok () ↔
    s.Live epollFd ∧ s.mask epollFd fd ≠ none
  changes : ∀ epollFd op fd event, (epollCtl s epollFd op fd event).1 = .ok () →
    ∀ other g, (epollCtl s epollFd op fd event).2.mask other g =
      if other = epollFd ∧ g = fd then entryAfter op event else s.mask other g
  fails : ∀ epollFd op fd event e, (epollCtl s epollFd op fd event).1 = .error e →
    Refusal s epollFd op fd e ∧ (epollCtl s epollFd op fd event).2 = s
  apart : ∀ epollFd op fd event other, other ≠ epollFd →
    (epollCtl s epollFd op fd event).2.pollInstances other = s.pollInstances other
  lives : ∀ epollFd op fd event other,
    (epollCtl s epollFd op fd event).2.Live other ↔ s.Live other
  reports : ∀ epollFd entries maxevents poll, s.pollInstances epollFd = some entries →
    0 ≤ maxevents → 0 < (poll (watched entries)).readyCount →
      Reports entries (poll (watched entries)).revents maxevents
        (epollWait s epollFd maxevents poll)

section Registry

variable {s : PollState} {epollFd op : ℤ} {fd : Fd} {event : Option EventMask}
  {r : Except Errno Unit × PollState}

lemma Outcome.changes (h : Outcome s epollFd op fd event r) (hok : r.1 = .ok ()) (other : ℤ)
    (g : Fd) : r.2.mask other g =
      if other = epollFd ∧ g = fd then entryAfter op event else s.mask other g := by
  cases h with
  | refused e h => cases hok
  | done l hlive hop hmask =>
    rw [store_mask, hmask]
    by_cases hother : other = epollFd
    · simp [hother]
    · simp [hother]

lemma Outcome.apart (h : Outcome s epollFd op fd event r) {other : ℤ} (hother : other ≠ epollFd) :
    r.2.pollInstances other = s.pollInstances other := by
  cases h with
  | refused e h => rfl
  | done l hlive hop hmask => exact store_other _ hother

lemma Outcome.lives (h : Outcome s epollFd op fd event r) (other : ℤ) :
    r.2.Live other ↔ s.Live other := by
  cases h with
  | refused e h => exact Iff.rfl
  | done l hlive hop hmask => exact store_live hlive other

lemma Outcome.fails (h : Outcome s epollFd op fd event r) {e : Errno} (he : r.1 = .error e) :
    Refusal s epollFd op fd e ∧ r.2 = s := by
  cases h with
  | refused e' h =>
    injection he with he
    exact ⟨he ▸ h, rfl⟩
  | done l hlive hop hmask => cases he

end Registry

end PollEmulation

end Chatroom
