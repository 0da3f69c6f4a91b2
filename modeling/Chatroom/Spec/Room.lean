import Mathlib.Data.Set.Insert
import Mathlib.Logic.Function.Basic
import Mathlib.Logic.Relation
import Chatroom.Library.Subscription
import Chatroom.Model.Server

/-!
# The room

What the server is for, without sockets and buffers: people enter a room under a name,
say something, leave or vanish, and the host announces. Everything that happens goes to
one log, and everyone in the room is told of it, except of their own words and of their
own departure.
-/

namespace Chatroom
open Subscription

namespace RoomEntry

/-- The person an entry is about. -/
def serial : RoomEntry → Option ℕ
  | .connected n _ => some n
  | .chat n _ _ => some n
  | .hostChat _ _ => none
  | .disconnected n _ => some n
  | .closing => none

/-- The name of that person. -/
def speaker : RoomEntry → Option Bytes
  | .connected _ name => some name
  | .chat _ name _ => some name
  | .hostChat _ _ => none
  | .disconnected _ name => some name
  | .closing => none

/-- The entry with which person `n` enters. -/
def Opens (n : ℕ) : RoomEntry → Prop
  | .connected m _ => m = n
  | _ => False

/-- Person `n` is told of an entry. -/
def Tells (n : ℕ) : RoomEntry → Prop
  | .chat m _ _ => m ≠ n
  | .disconnected m _ => m ≠ n
  | _ => True

instance (n : ℕ) : DecidablePred (Opens n)
  | .connected m _ => inferInstanceAs (Decidable (m = n))
  | .chat _ _ _ | .hostChat _ _ | .disconnected _ _ | .closing => inferInstanceAs (Decidable False)

instance (n : ℕ) : DecidablePred (Tells n)
  | .chat m _ _ | .disconnected m _ => inferInstanceAs (Decidable (m ≠ n))
  | .connected _ _ | .hostChat _ _ | .closing => inferInstanceAs (Decidable True)

/-- The text of a chat of person `n`. -/
def said (n : ℕ) : RoomEntry → Option Bytes
  | .chat m _ text => if m = n then some text else none
  | _ => none

lemma serial_of_opens {n : ℕ} {e : RoomEntry} (h : e.Opens n) : e.serial = some n := by
  cases e with
  | connected m name => exact congrArg some h
  | chat m name text => exact h.elim
  | hostChat name text => exact h.elim
  | disconnected m name => exact h.elim
  | closing => exact h.elim

lemma tells_of_opens {n : ℕ} {e : RoomEntry} (h : e.Opens n) : e.Tells n := by
  cases e with
  | connected m name => trivial
  | chat m name text => exact h.elim
  | hostChat name text => trivial
  | disconnected m name => exact h.elim
  | closing => trivial

lemma tells_of_serial_ne {n : ℕ} {e : RoomEntry} (h : e.serial ≠ some n) : e.Tells n := by
  cases e with
  | chat m name text => exact fun hm => h (congrArg some hm)
  | disconnected m name => exact fun hm => h (congrArg some hm)
  | connected m name => trivial
  | hostChat name text => trivial
  | closing => trivial

lemma said_of_serial_ne {n : ℕ} {e : RoomEntry} (h : e.serial ≠ some n) : e.said n = none := by
  cases e with
  | chat m name text =>
    have hm : m ≠ n := fun hm => h (congrArg some hm)
    rw [said, if_neg hm]
  | connected m name => rfl
  | hostChat name text => rfl
  | disconnected m name => rfl
  | closing => rfl

end RoomEntry

/-- Who is present, when those who are gone left (as a length of the log), under which
name everyone entered, what everyone was told and has said. -/
structure Room where
  log : List RoomEntry
  present : Set ℕ
  left : ℕ → Option ℕ
  name : ℕ → Bytes
  inbox : ℕ → List RoomEntry
  said : ℕ → List Bytes

namespace Room

def empty : Room where
  log := []
  present := ∅
  left := fun _ => none
  name := fun _ => []
  inbox := fun _ => []
  said := fun _ => []

open Classical in
/-- Add an entry to the log and tell an audience of it. -/
noncomputable def post (r : Room) (audience : Set ℕ) (e : RoomEntry) : Room :=
  { r with
    log := r.log ++ [e]
    inbox := fun n => if n ∈ audience ∧ e.Tells n then r.inbox n ++ [e] else r.inbox n }

/-- Person `n` is gone. -/
def gone (r : Room) (n : ℕ) : Room :=
  { r with
    present := r.present \ {n}
    left := Function.update r.left n (some r.log.length) }

/-- What can happen in a room whose host is called `host`. -/
inductive Step (host : Bytes) : Room → Room → Prop
  | enter {r : Room} (n : ℕ) (name : Bytes) (hn : n ∉ r.present) (hleft : r.left n = none) :
      Step host r { r.post (insert n r.present) (.connected n name) with
        present := insert n r.present
        name := Function.update r.name n name }
  | say {r : Room} (n : ℕ) (text : Bytes) (hn : n ∈ r.present) :
      Step host r { r.post r.present (.chat n (r.name n) text) with
        said := Function.update r.said n (r.said n ++ [text]) }
  | hostSays {r : Room} (text : Bytes) : Step host r (r.post r.present (.hostChat host text))
  | close {r : Room} : Step host r (r.post r.present .closing)
  | exit {r : Room} (n : ℕ) (hn : n ∈ r.present) :
      Step host r ((r.post r.present (.disconnected n (r.name n))).gone n)
  | vanish {r : Room} (n : ℕ) (hleft : r.left n = none) : Step host r (r.gone n)

/-- How much of the log person `n` could see. -/
def horizon (r : Room) (n : ℕ) : ℕ :=
  (r.left n).getD r.log.length

/-- What holds in a room at any time. -/
structure Inv (host : Bytes) (r : Room) : Prop where
  inbox : ∀ n, r.inbox n = view (RoomEntry.Opens n) (RoomEntry.Tells n) (r.log.take (r.horizon n))
  entered : ∀ n ∈ r.present, r.left n = none ∧ ∃ e ∈ r.log, e.Opens n
  outside : ∀ n, n ∉ r.present → r.left n = none → ∀ e ∈ r.log, e.serial ≠ some n
  left_le : ∀ n k, r.left n = some k → k ≤ r.log.length
  opened : ∀ e ∈ r.log, ∀ n, e.serial = some n → ∃ e' ∈ r.log, e'.Opens n
  once : ∀ n, (r.log.filter (fun e => e.Opens n)).length ≤ 1
  names : ∀ e ∈ r.log, ∀ n, e.serial = some n → e.speaker = some (r.name n)
  said : ∀ n, r.log.filterMap (RoomEntry.said n) = r.said n
  hosted : ∀ name text, .hostChat name text ∈ r.log → name = host

variable {host : Bytes} {r : Room}

lemma inbox_post (h : r.Inv host) {audience : Set ℕ} {e : RoomEntry}
    (haud : ∀ n ∈ audience, r.left n = none ∧
      ((∃ x ∈ r.log, x.Opens n) ∨ (∀ x ∈ r.log, ¬x.Opens n) ∧ e.Opens n))
    (hout : ∀ n, n ∉ audience → r.left n = none → (∀ x ∈ r.log, ¬x.Opens n) ∧ ¬e.Opens n)
    (n : ℕ) :
    (r.post audience e).inbox n = view (RoomEntry.Opens n) (RoomEntry.Tells n)
      ((r.post audience e).log.take ((r.post audience e).horizon n)) := by
  have hold := h.inbox n
  have hlog : (r.post audience e).log = r.log ++ [e] := rfl
  cases hleft : r.left n with
  | some k =>
    have hk := h.left_le n k hleft
    have haudience : n ∉ audience := by
      intro hn
      rw [(haud n hn).1] at hleft
      cases hleft
    have hinbox : (r.post audience e).inbox n = r.inbox n := if_neg (fun hc => haudience hc.1)
    have hhor : (r.post audience e).horizon n = k := by
      rw [horizon, show (r.post audience e).left n = some k from hleft]
      rfl
    have hhor' : r.horizon n = k := by rw [horizon, hleft]; rfl
    rw [hinbox, hhor, hlog, List.take_append_of_le_length hk, hold, hhor']
  | none =>
    have hhor : (r.post audience e).horizon n = (r.log ++ [e]).length := by
      rw [horizon, show (r.post audience e).left n = none from hleft]
      rfl
    have hhor' : r.horizon n = r.log.length := by rw [horizon, hleft]; rfl
    rw [hhor', List.take_length] at hold
    rw [hhor, hlog, List.take_length]
    by_cases hn : n ∈ audience
    · rcases (haud n hn).2 with hopened | ⟨hno, hopens⟩
      · rw [view_append hopened, ← hold]
        by_cases ht : e.Tells n
        · have hinbox : (r.post audience e).inbox n = r.inbox n ++ [e] := if_pos ⟨hn, ht⟩
          rw [hinbox, List.filter_singleton]
          simp [ht]
        · have hinbox : (r.post audience e).inbox n = r.inbox n := if_neg (fun hc => ht hc.2)
          rw [hinbox, List.filter_singleton]
          simp [ht]
      · have ht := RoomEntry.tells_of_opens hopens
        have hinbox : (r.post audience e).inbox n = r.inbox n ++ [e] := if_pos ⟨hn, ht⟩
        rw [hinbox, view_opening hno hopens ht, hold, view_of_not_opened hno]
        rfl
    · obtain ⟨hno, hopens⟩ := hout n hn hleft
      have hinbox : (r.post audience e).inbox n = r.inbox n := if_neg (fun hc => hn hc.1)
      rw [hinbox, view_append_of_not_opened hno hopens, hold]

lemma not_opened_outside (h : r.Inv host) {n : ℕ} (hn : n ∉ r.present) (hleft : r.left n = none) :
    ∀ e ∈ r.log, ¬e.Opens n := fun e he hopen =>
  h.outside n hn hleft e he (RoomEntry.serial_of_opens hopen)

lemma Inv.post (h : r.Inv host) {e : RoomEntry} {words : ℕ → List Bytes} (hnew : ∀ n, ¬e.Opens n)
    (habout : ∀ n, e.serial = some n → n ∈ r.present ∧ e.speaker = some (r.name n))
    (hwords : ∀ n, words n = r.said n ++ (e.said n).toList)
    (hhost : ∀ name text, e = .hostChat name text → name = host) :
    ({ r.post r.present e with said := words } : Room).Inv host where
  inbox := by
    refine inbox_post h ?_ ?_
    · intro n hn
      exact ⟨(h.entered n hn).1, Or.inl (h.entered n hn).2⟩
    · intro n hn hleft
      exact ⟨not_opened_outside h hn hleft, hnew n⟩
  entered := by
    intro n hn
    obtain ⟨hleft, x, hx, hopen⟩ := h.entered n hn
    exact ⟨hleft, x, List.mem_append_left _ hx, hopen⟩
  outside := by
    intro n hn hleft
    refine List.forall_mem_append.mpr ⟨h.outside n hn hleft, List.forall_mem_singleton.mpr ?_⟩
    exact fun hserial => hn (habout n hserial).1
  left_le := by
    intro n k hk
    have hle := h.left_le n k hk
    show k ≤ (r.log ++ [e]).length
    rw [List.length_append]
    omega
  opened := by
    intro x hx n hserial
    have hopened : ∃ x ∈ r.log, x.Opens n := by
      rcases List.mem_append.mp hx with hx | hx
      · exact h.opened x hx n hserial
      · rw [List.mem_singleton.mp hx] at hserial
        exact (h.entered n (habout n hserial).1).2
    obtain ⟨y, hy, hopen⟩ := hopened
    exact ⟨y, List.mem_append_left _ hy, hopen⟩
  once := by
    intro n
    show ((r.log ++ [e]).filter (fun e => e.Opens n)).length ≤ 1
    rw [List.filter_append, List.filter_singleton]
    simpa [hnew n] using h.once n
  names := by
    intro x hx n hserial
    rcases List.mem_append.mp hx with hx | hx
    · exact h.names x hx n hserial
    · rw [List.mem_singleton.mp hx] at hserial ⊢
      exact (habout n hserial).2
  said := by
    intro n
    show (r.log ++ [e]).filterMap (RoomEntry.said n) = words n
    rw [List.filterMap_append, h.said n, hwords n]
    cases he : e.said n <;> simp [he]
  hosted := by
    intro name text hx
    rcases List.mem_append.mp hx with hx | hx
    · exact h.hosted name text hx
    · exact hhost name text (List.mem_singleton.mp hx).symm

lemma Inv.enter (h : r.Inv host) {n : ℕ} (name : Bytes) (hn : n ∉ r.present)
    (hleft : r.left n = none) :
    ({ r.post (insert n r.present) (.connected n name) with
        present := insert n r.present
        name := Function.update r.name n name } : Room).Inv host where
  inbox := by
    refine inbox_post h ?_ ?_
    · intro m hm
      rcases hm with rfl | hm
      · exact ⟨hleft, Or.inr ⟨not_opened_outside h hn hleft, rfl⟩⟩
      · exact ⟨(h.entered m hm).1, Or.inl (h.entered m hm).2⟩
    · intro m hm hm'
      have hne : m ≠ n := fun heq => hm (Or.inl heq)
      exact ⟨not_opened_outside h (fun hp => hm (Or.inr hp)) hm', fun hopen => hne hopen.symm⟩
  entered := by
    intro m hm
    rcases hm with rfl | hm
    · exact ⟨hleft, _, List.mem_append_right _ List.mem_cons_self, rfl⟩
    · obtain ⟨hm', x, hx, hopen⟩ := h.entered m hm
      exact ⟨hm', x, List.mem_append_left _ hx, hopen⟩
  outside := by
    intro m hm hm'
    refine List.forall_mem_append.mpr
      ⟨h.outside m (fun hp => hm (Or.inr hp)) hm', List.forall_mem_singleton.mpr ?_⟩
    exact fun hserial => hm (Or.inl (Option.some.inj hserial).symm)
  left_le := by
    intro m k hk
    have hle := h.left_le m k hk
    show k ≤ (r.log ++ [RoomEntry.connected n name]).length
    rw [List.length_append]
    omega
  opened := by
    intro x hx m hserial
    rcases List.mem_append.mp hx with hx | hx
    · obtain ⟨y, hy, hopen⟩ := h.opened x hx m hserial
      exact ⟨y, List.mem_append_left _ hy, hopen⟩
    · rw [List.mem_singleton.mp hx] at hserial
      exact ⟨_, List.mem_append_right _ List.mem_cons_self, Option.some.inj hserial⟩
  once := by
    intro m
    show ((r.log ++ [RoomEntry.connected n name]).filter (fun e => e.Opens m)).length ≤ 1
    rw [List.filter_append]
    by_cases hm : n = m
    · subst hm
      have hnil : r.log.filter (fun e => e.Opens n) = [] := by
        rw [List.filter_eq_nil_iff]
        intro x hx
        simpa using not_opened_outside h hn hleft x hx
      rw [hnil, List.nil_append]
      exact List.length_filter_le _ _
    · have hno : ¬(RoomEntry.connected n name).Opens m := hm
      simpa [List.filter_singleton, hno] using h.once m
  names := by
    intro x hx m hserial
    rcases List.mem_append.mp hx with hx | hx
    · have hne : m ≠ n := by
        intro heq
        rw [heq] at hserial
        exact h.outside n hn hleft x hx hserial
      show x.speaker = some (Function.update r.name n name m)
      rw [Function.update_of_ne hne]
      exact h.names x hx m hserial
    · rw [List.mem_singleton.mp hx] at hserial ⊢
      have hm : n = m := Option.some.inj hserial
      show some name = some (Function.update r.name n name m)
      rw [hm, Function.update_self]
  said := by
    intro m
    show (r.log ++ [RoomEntry.connected n name]).filterMap (RoomEntry.said m) = r.said m
    rw [List.filterMap_append, h.said m]
    exact List.append_nil _
  hosted := by
    intro name' text hx
    rcases List.mem_append.mp hx with hx | hx
    · exact h.hosted name' text hx
    · cases List.mem_singleton.mp hx

lemma Inv.gone (h : r.Inv host) {n : ℕ} (hleft : r.left n = none) :
    (r.gone n).Inv host where
  inbox := by
    intro m
    have hhor : (r.gone n).horizon m = r.horizon m := by
      show ((Function.update r.left n (some r.log.length)) m).getD r.log.length = _
      by_cases hm : m = n
      · rw [hm, Function.update_self, horizon, hleft]
        rfl
      · rw [Function.update_of_ne hm]
        rfl
    rw [hhor]
    exact h.inbox m
  entered := by
    rintro m ⟨hm, hne⟩
    have hne : m ≠ n := hne
    obtain ⟨hm', hopened⟩ := h.entered m hm
    refine ⟨?_, hopened⟩
    show Function.update r.left n (some r.log.length) m = none
    rw [Function.update_of_ne hne]
    exact hm'
  outside := by
    intro m hm hm'
    have hm' : Function.update r.left n (some r.log.length) m = none := hm'
    by_cases hne : m = n
    · rw [hne, Function.update_self] at hm'
      cases hm'
    · rw [Function.update_of_ne hne] at hm'
      exact h.outside m (fun hp => hm ⟨hp, hne⟩) hm'
  left_le := by
    intro m k hk
    have hk : Function.update r.left n (some r.log.length) m = some k := hk
    by_cases hne : m = n
    · rw [hne, Function.update_self] at hk
      cases hk
      exact Nat.le_refl _
    · rw [Function.update_of_ne hne] at hk
      exact h.left_le m k hk
  opened := h.opened
  once := h.once
  names := h.names
  said := h.said
  hosted := h.hosted

lemma Inv.announce (h : r.Inv host) {e : RoomEntry} (he : e.serial = none)
    (hhost : ∀ name text, e = .hostChat name text → name = host) :
    (r.post r.present e).Inv host := by
  have hno : ∀ n, e.serial ≠ some n := by
    intro n hn
    rw [he] at hn
    cases hn
  refine h.post (fun n hopen => hno n (RoomEntry.serial_of_opens hopen))
    (fun n hn => absurd hn (hno n)) ?_ hhost
  intro n
  rw [RoomEntry.said_of_serial_ne (hno n)]
  exact (List.append_nil _).symm

theorem Step.inv {r' : Room} (h : r.Inv host) (hs : Step host r r') : r'.Inv host := by
  cases hs with
  | enter n name hn hleft => exact h.enter name hn hleft
  | say n text hn =>
    refine h.post (fun _ hopen => hopen) ?_ ?_ (fun _ _ he => by cases he)
    · intro m hm
      rw [← Option.some.inj hm]
      exact ⟨hn, rfl⟩
    · intro m
      by_cases hm : m = n
      · rw [hm, Function.update_self, RoomEntry.said, if_pos rfl]
        rfl
      · have hne : ¬n = m := fun h => hm h.symm
        rw [Function.update_of_ne hm, RoomEntry.said, if_neg hne]
        exact (List.append_nil _).symm
  | hostSays text => exact h.announce rfl (fun _ _ he => by cases he; rfl)
  | close => exact h.announce rfl (fun _ _ he => by cases he)
  | exit n hn =>
    have hpost : (r.post r.present (.disconnected n (r.name n))).Inv host := by
      refine h.post (fun _ hopen => hopen) ?_ ?_ (fun _ _ he => by cases he)
      · intro m hm
        rw [← Option.some.inj hm]
        exact ⟨hn, rfl⟩
      · intro m
        exact (List.append_nil _).symm
    exact hpost.gone (h.entered n hn).1
  | vanish n hleft => exact h.gone hleft

lemma empty_inv (host : Bytes) : empty.Inv host where
  inbox := fun _ => rfl
  entered := fun n hn => hn.elim
  outside := fun _ _ _ e he => absurd he List.not_mem_nil
  left_le := fun n k hk => by cases hk
  opened := fun e he => absurd he List.not_mem_nil
  once := fun _ => Nat.zero_le _
  names := fun e he => absurd he List.not_mem_nil
  said := fun _ => rfl
  hosted := fun _ _ he => absurd he List.not_mem_nil

lemma Inv.steps {r' : Room} (h : r.Inv host) (hs : Relation.ReflTransGen (Step host) r r') :
    r'.Inv host := by
  induction hs with
  | refl => exact h
  | tail _ hlast ih => exact hlast.inv ih

end Room

end Chatroom
