import Chatroom.Library.Fallible
import Chatroom.Proofs.Handlers

/-!
# Calls that cannot fail

A broadcast fails for two reasons only: the line is too long for a frame, or the kernel
refuses to change a mask. While the kernel refuses nothing and every connection is
registered, the length of the line decides.
-/

namespace Chatroom
open Fallible

/-- The kernel refuses none of the next calls, and every connection is registered. -/
structure Server.Reliable (s : Server) : Prop where
  script : s.kernel.ctlScript = []
  registered : ∀ c ∈ s.connections, s.kernel.mask c.fd ≠ none

lemma MasksAfter.registered {k k' : Kernel} {cs : List Connection} {p : Connection → Prop}
    {events : EventMask} (h : MasksAfter k k' cs p events) {fd : Fd} (hfd : k.mask fd ≠ none) :
    k'.mask fd ≠ none := by
  rcases h fd with ⟨-, hmask⟩ | ⟨-, hmask⟩
  · rw [hmask]
    exact Option.some_ne_none events
  · rw [hmask]
    exact hfd

lemma queueToEach_succeeds (skip : Connection → Bool) (m : Message) (events : EventMask)
    {cs : List Connection} {k : Kernel} (hk : k.ctlScript = [])
    (hreg : ∀ c ∈ cs, k.mask c.fd ≠ none)
    (hlegal : ∀ c ∈ cs, skip c = false → protocolPayloadLengthIsLegal m.payload.length) :
    ∃ cs' k', Server.queueToEach skip m events cs k = (true, cs', k') ∧ k'.ctlScript = [] := by
  induction cs generalizing k with
  | nil => exact ⟨[], k, rfl, hk⟩
  | cons c cs ih =>
    have hreg' : ∀ d ∈ cs, k.mask d.fd ≠ none := fun d hd => hreg d (List.mem_cons_of_mem c hd)
    have hlegal' : ∀ d ∈ cs, skip d = false → protocolPayloadLengthIsLegal m.payload.length :=
      fun d hd => hlegal d (List.mem_cons_of_mem c hd)
    by_cases hskip : skip c = true
    · obtain ⟨cs', k', hr, hk'⟩ := ih hk hreg' hlegal'
      refine ⟨c :: cs', k', ?_, hk'⟩
      simp only [Server.queueToEach, hskip, if_true, hr]
    · have hskip : skip c = false := by simpa using hskip
      have hm := hlegal c List.mem_cons_self hskip
      obtain ⟨k₁, hmod, hk₁⟩ := epollFdMod_succeeds hk (hreg c List.mem_cons_self) events
      have hreg₁ : ∀ d ∈ cs, k₁.mask d.fd ≠ none := by
        intro d hd
        rw [epollFdMod_true hmod d.fd]
        split_ifs
        · exact Option.some_ne_none events
        · exact hreg' d hd
      obtain ⟨cs', k', hr, hk'⟩ := ih hk₁ hreg₁ hlegal'
      refine ⟨c.enqueue m :: cs', k', ?_, hk'⟩
      simp only [Server.queueToEach, hskip, Bool.false_eq_true, if_false, protocolQueueMessage_eq,
        if_pos hm, hmod, hr]
      rfl

namespace Server.Reliable

variable {s : Server}

lemma call (h : s.Reliable) (x : SysCall) : (s.call x).Reliable :=
  ⟨h.script, h.registered⟩

lemma put (h : s.Reliable) {c : Connection} (hc : c ∈ s.connections) (c' : Connection)
    (hfd : c'.fd = c.fd) : (s.put c').Reliable where
  script := h.script
  registered := by
    intro d hd
    rcases Keyed.mem_replace hd with rfl | ⟨hmem, -⟩
    · rw [hfd]
      exact h.registered c hc
    · exact h.registered d hmem

lemma enqueueTo (h : s.Reliable) {p q : Connection → Prop} [DecidablePred p] {m : Message}
    {events : EventMask} {t : Server} (ht : t.connections = Chatroom.enqueueTo p m s.connections)
    (hk : MasksAfter s.kernel t.kernel s.connections q events) (hscript : t.kernel.ctlScript = []) :
    t.Reliable where
  script := hscript
  registered := by
    intro d hd
    rw [ht] at hd
    obtain ⟨c, hc, rfl⟩ := mem_enqueueTo hd
    have hreg := hk.registered (h.registered c hc)
    split_ifs <;> exact hreg

end Server.Reliable

section Posting

variable {s : Server} (hs : s.Reliable)

include hs

lemma fdMod_succeeds {fd : Fd} (hfd : s.kernel.mask fd ≠ none) (events : EventMask) :
    ∃ k, s.fdMod fd events = (true, { s with kernel := k }) := by
  obtain ⟨k, hmod, -⟩ := epollFdMod_succeeds hs.script hfd events
  exact ⟨k, by rw [Server.fdMod, hmod]⟩

theorem post_succeedsIff {e : RoomEntry} (author : Bytes) (notice : Message) (sender : Option ℕ)
    (hauthor : author = e.author) (htext : notice.payload = e.text) :
    SucceedsIff (s.post e author notice sender)
      (∀ c ∈ s.connections, Hears sender c → protocolPayloadLengthIsLegal e.line.length)
      (fun t => ∃ k, t = s.heard sender e k ∧ t.Reliable) := by
  have hlen : (formatBroadcastMessage author notice).payload.length = e.line.length := by
    rw [hauthor, formatBroadcastMessage, htext]
    rfl
  have hsuccess : (∀ c ∈ s.connections, Hears sender c →
      protocolPayloadLengthIsLegal e.line.length) →
      ∃ k, s.post e author notice sender = (true, s.heard sender e k) ∧
        (s.heard sender e k).Reliable := by
    intro hlegal
    obtain ⟨cs, k, hr, hk⟩ := queueToEach_succeeds
      (fun conn => decide (some conn.addr = sender ∨ conn.state ≠ .active))
      (formatBroadcastMessage author notice) (epollIn ||| epollOut ||| epollRdhup)
      hs.script hs.registered (by
        intro c hc hskip
        rw [hlen]
        exact hlegal c hc ((hears_iff sender c).mp hskip))
    obtain ⟨s', hpost, hscript⟩ : ∃ s', s.post e author notice sender = (true, s') ∧
        s'.kernel.ctlScript = [] := by
      unfold Server.post Server.broadcastMessageToOtherClients
      dsimp only
      rw [hr]
      exact ⟨_, rfl, hk⟩
    obtain ⟨k', rfl, -, hmask⟩ := post_true hauthor htext hpost
    exact ⟨k', hpost, hs.enqueueTo rfl hmask hscript⟩
  constructor
  · constructor
    · intro hok
      have hpost : s.post e author notice sender = (true, (s.post e author notice sender).2) := by
        rw [← hok]
      obtain ⟨-, -, hlegal, -⟩ := post_true hauthor htext hpost
      exact hlegal
    · intro hlegal
      obtain ⟨k, hpost, -⟩ := hsuccess hlegal
      rw [hpost]
  · intro hlegal
    obtain ⟨k, hpost, hreliable⟩ := hsuccess hlegal
    rw [hpost]
    exact ⟨k, rfl, hreliable⟩

lemma queueClose_succeeds : ∃ s', s.queueCloseToAllClients = (true, s') := by
  obtain ⟨cs, k, hr, -⟩ := queueToEach_succeeds
    (fun conn => decide (conn.state ≠ .active)) (Message.of .closeCon [])
    (epollOut ||| epollRdhup) hs.script hs.registered (fun _ _ _ => Nat.zero_le _)
  unfold Server.queueCloseToAllClients
  dsimp only
  rw [hr]
  exact ⟨_, rfl⟩

lemma removeConnection_succeeds (c : Connection) :
    ∃ k, s.removeConnection c = (true, s.released c k) ∧ k.mask c.fd = none := by
  obtain ⟨hgone, -⟩ := epollFdRemove_gone hs.script c.fd 0
  unfold Server.removeConnection Server.connectionCleanup
  by_cases h : c.fd ≠ -1
  · refine ⟨((epollFdRemove s.kernel c.fd 0).2).close c.fd, ?_, ?_⟩
    · simp only [h, ne_eq, not_false_eq_true, if_true]
      rfl
    · rw [Kernel.mask_close, if_pos rfl]
  · refine ⟨(epollFdRemove s.kernel c.fd 0).2, ?_, hgone⟩
    simp only [h, if_false]
    rfl

end Posting

end Chatroom
