import Mathlib.Data.List.ReduceOption
import Chatroom.Proofs.Readiness
import Chatroom.Proofs.ErasedHandlers
import Chatroom.Proofs.Shutdown

/-!
# Connections that never join the room

What arrives for a connection that never becomes active can be taken out of a run. The
other connections and the screen do not tell the difference.
-/

namespace Chatroom
open Fallible Transition

/-! ### One event -/

/-- The larger server between two events. -/
structure ErasedIdle (seen : ℕ → Bool) (s t : Server) : Prop extends Erased seen s t where
  registry : s.Registry
  registered : ∀ c ∈ s.connections, s.kernel.mask c.fd ≠ none
  quiet : ∀ c ∈ s.connections, seen c.serial = false → c.state ≠ .active

/-- Both servers between two events. -/
structure ErasedPair (seen : ℕ → Bool) (s t : Server) : Prop extends ErasedIdle seen s t where
  registry' : t.Registry
  registered' : ∀ d ∈ t.connections, t.kernel.mask d.fd ≠ none

/-- No connection that does not count has become active. -/
def Server.Unopened (s : Server) (seen : ℕ → Bool) : Prop :=
  ∀ e ∈ s.roomLog, ∀ n, seen n = false → ¬e.Opens n

/-- The descriptor belongs to a connection that does not count. -/
def Server.hides (s : Server) (seen : ℕ → Bool) (fd : Fd) : Bool :=
  s.connections.any (fun c => decide (c.fd = fd ∧ seen c.serial = false))

/-- The event is that of a connection that does not count, or lets in such connections
only. -/
def Server.skips (s : Server) (seen : ℕ → Bool) (e : EpollEvent) (r : Replies) : Bool :=
  s.hides seen e.fd ||
    (s.eventIsAcceptClientConnection e.fd e.events && !(acceptedSockets r.accepts).isEmpty &&
      (acceptedSockets (seenAccepts seen s.accepted r.accepts)).isEmpty)

/-- What the handler is told when the sockets that do not count are kept from it. -/
def Replies.shown (r : Replies) (seen : ℕ → Bool) (n : ℕ) : Replies :=
  { r with accepts := seenAccepts seen n r.accepts }

/-- The call returned a socket, or there was none. -/
def AcceptReply.harmless : AcceptReply → Bool
  | .socket _ _ => true
  | .error e => e.retryable

section Events

variable {seen : ℕ → Bool} {s t : Server}

lemma hides_iff {fd : Fd} :
    s.hides seen fd = true ↔ ∃ c ∈ s.connections, c.fd = fd ∧ seen c.serial = false := by
  unfold Server.hides
  rw [List.any_eq_true]
  constructor
  · rintro ⟨c, hc, hdec⟩
    exact ⟨c, hc, of_decide_eq_true hdec⟩
  · rintro ⟨c, hc, hboth⟩
    exact ⟨c, hc, decide_eq_true hboth⟩

lemma seen_of_not_hides {fd : Fd} (h : s.hides seen fd = false) {c : Connection}
    (hc : c ∈ s.connections) (hfd : c.fd = fd) : seen c.serial = true := by
  by_contra hunseen
  have hhides : s.hides seen fd = true := hides_iff.mpr ⟨c, hc, hfd, by simpa using hunseen⟩
  rw [h] at hhides
  cases hhides

lemma Renumbered.wantsHello {c d : Connection} (h : Renumbered c d) (flags : EventMask) :
    d.WantsHello flags ↔ c.WantsHello flags := by
  unfold Connection.WantsHello
  rw [h.state]

lemma Renumbered.wantsSend {c d : Connection} (h : Renumbered c d) (flags : EventMask) :
    d.WantsSend flags ↔ c.WantsSend flags := by
  unfold Connection.WantsSend
  rw [h.state, h.outBuffer]

lemma Renumbered.wantsRead {c d : Connection} (h : Renumbered c d) (flags : EventMask) :
    d.WantsRead flags ↔ c.WantsRead flags := by
  unfold Connection.WantsRead
  rw [h.state]

lemma Erased.tuned (h : Erased seen s t) (ctl ctl' : List (Option Errno))
    (cache cache' : Option ℕ) : Erased seen (s.tuned ctl cache) (t.tuned ctl' cache') :=
  h.congr rfl rfl rfl rfl h.name rfl rfl h.epollFd h.closing (fun _ => Iff.rfl) (fun _ => Iff.rfl)

lemma Erased.tuned_left (h : Erased seen s t) (ctl : List (Option Errno)) (cache : Option ℕ) :
    Erased seen (s.tuned ctl cache) t :=
  h.congr rfl rfl rfl rfl h.name rfl rfl h.epollFd h.closing (fun _ => Iff.rfl) (fun _ => Iff.rfl)

lemma ErasedPair.close (h : ErasedPair seen s t) (cache cache' : Option ℕ) :
    Close seen (s.tuned [] cache) (t.tuned [] cache') where
  toErased := h.toErased.tuned [] [] cache cache'
  distinct := h.registry.distinct.tuned [] cache
  distinct' := h.registry'.distinct.tuned [] cache'
  reliable := ⟨rfl, h.registered⟩
  reliable' := ⟨rfl, h.registered'⟩
  quiet := h.quiet

lemma ErasedPair.find_cases (h : ErasedPair seen s t) {fd : Fd} (hshown : s.hides seen fd = false) :
    (s.find fd = none ∧ t.find fd = none) ∨
      ∃ c ∈ s.connections, ∃ d ∈ t.connections, seen c.serial = true ∧ Renumbered c d ∧
        s.find fd = some c ∧ t.find fd = some d := by
  cases hfind : s.find fd with
  | none =>
    refine Or.inl ⟨rfl, h.find_none ?_⟩
    intro c hc _
    exact Keyed.lookup_none.mp hfind c hc
  | some c =>
    obtain ⟨hc, hfd⟩ := Server.find_some hfind
    have hseen := seen_of_not_hides hshown hc hfd
    obtain ⟨d, hd, hnum⟩ := h.renumbered hc hseen
    refine Or.inr ⟨c, hc, d, hd, hseen, hnum, rfl, ?_⟩
    rw [← hfd, ← hnum.fd]
    exact Server.find_of_mem h.registry'.distinct hd

lemma stdin_follows (h : Close seen s t) (p : Prop) [Decidable p] (line : Option Bytes) :
    Follows seen (if p then s.handleReadStdinEvent line else (true, s))
      (if p then t.handleReadStdinEvent line else (true, t)) := by
  by_cases hp : p
  · rw [if_pos hp, if_pos hp]
    exact readStdin_follows h line
  · rw [if_neg hp, if_neg hp]
    exact h.toErased.returns.follows

theorem handleEvent_follows (h : ErasedPair seen s t) {e : EpollEvent} {r : Replies}
    (hshown : s.hides seen e.fd = false) (hctl : r.ctl = [])
    (hfresh : FreshSockets s r.accepts) :
    Follows seen (s.handleEvent e r) (t.handleEvent e (r.shown seen s.accepted)) := by
  have hctl' : (r.shown seen s.accepted).ctl = [] := hctl
  by_cases hclosing : s.serverClosing = true
  · have hclosing' : t.serverClosing = true := h.closing.trans hclosing
    rw [handleEvent_closing h.registry.distinct hclosing,
      handleEvent_closing h.registry'.distinct hclosing', hctl, hctl']
    rcases h.find_cases hshown with ⟨hfind, hfind'⟩ |
      ⟨c, hc, d, hd, hseen, hnum, hfind, hfind'⟩
    · rw [hfind, hfind']
      have hclose := h.close none none
      exact hclose.toErased.returns.follows
    · rw [hfind, hfind', Server.handleClosing, Server.handleClosing]
      have hclose := h.close (some c.addr) (some d.addr)
      by_cases hsend : c.WantsSend e.events
      · rw [if_pos hsend, if_pos ((hnum.wantsSend _).mpr hsend)]
        exact (sendNetworkPackage_erased hclose hc hseen hd hnum r.sends).follows
      · rw [if_neg hsend, if_neg (fun hwants => hsend ((hnum.wantsSend _).mp hwants))]
        exact hclose.toErased.returns.follows
  · have hopen : s.serverClosing = false := by simpa using hclosing
    have hopen' : t.serverClosing = false := h.closing.trans hopen
    by_cases haccept : e.fd = s.listenFd ∧ e.events.has epollIn
    · have haccept' : e.fd = t.listenFd ∧ e.events.has epollIn := by
        rw [h.listenFd]
        exact haccept
      rw [handleEvent_accept hopen haccept, handleEvent_accept hopen' haccept', hctl, hctl']
      have hclose := h.close s.cachedConnection t.cachedConnection
      exact (handleAccept_erased hclose.toErased rfl rfl
        (hfresh.tuned [] s.cachedConnection)).follows
    · have haccept' : ¬(e.fd = t.listenFd ∧ e.events.has epollIn) := by
        rw [h.listenFd]
        exact haccept
      rw [handleEvent_open h.registry.distinct hopen haccept,
        handleEvent_open h.registry'.distinct hopen' haccept', hctl, hctl']
      rcases h.find_cases hshown with ⟨hfind, hfind'⟩ |
        ⟨c, hc, d, hd, hseen, hnum, hfind, hfind'⟩
      · rw [hfind, hfind', Server.handleOpen, Server.handleOpen]
        exact stdin_follows (h.close none none) _ r.line
      · rw [hfind, hfind', Server.handleOpen, Server.handleOpen]
        have hclose := h.close (some c.addr) (some d.addr)
        by_cases hhello : c.WantsHello e.events
        · rw [if_pos hhello, if_pos ((hnum.wantsHello _).mpr hhello)]
          exact (receiveClientHello_erased hclose hc hseen hd hnum hhello.1 r.recvs).follows
        · rw [if_neg hhello, if_neg (fun hwants => hhello ((hnum.wantsHello _).mp hwants))]
          by_cases hsend : c.WantsSend e.events
          · rw [if_pos hsend, if_pos ((hnum.wantsSend _).mpr hsend)]
            exact (sendNetworkPackage_erased hclose hc hseen hd hnum r.sends).follows
          · rw [if_neg hsend, if_neg (fun hwants => hsend ((hnum.wantsSend _).mp hwants))]
            by_cases hread : c.WantsRead e.events
            · rw [if_pos hread, if_pos ((hnum.wantsRead _).mpr hread)]
              exact (readNetworkPackage_erased hclose hc hseen hd hnum hread.1
                r.recvs).follows
            · rw [if_neg hread, if_neg (fun hwants => hread ((hnum.wantsRead _).mp hwants))]
              exact stdin_follows hclose _ r.line

lemma send_unseen (h : ErasedIdle seen s t) {c : Connection} (hc : c ∈ s.connections)
    (hunseen : seen c.serial = false) {e : EpollEvent} {r : Replies}
    (hsends : ∀ reply ∈ r.sends, reply.harmless = true) (cache : Option ℕ)
    (hlog : ∀ x ∈ (if c.WantsSend e.events then (s.tuned [] cache).sendNetworkPackage c r.sends
      else (true, s.tuned [] cache)).2.roomLog, ¬x.Opens c.serial) :
    (if c.WantsSend e.events then (s.tuned [] cache).sendNetworkPackage c r.sends
      else (true, s.tuned [] cache)).1 = true ∧
      Erased seen (if c.WantsSend e.events then (s.tuned [] cache).sendNetworkPackage c r.sends
        else (true, s.tuned [] cache)).2 t := by
  have herased := h.toErased.tuned_left [] cache
  by_cases hsend : c.WantsSend e.events
  · rw [if_pos hsend] at hlog ⊢
    have hst : c.state = .sendingServerHello := hsend.1.resolve_right (h.quiet c hc hunseen)
    exact sendNetworkPackage_unseen herased (h.registry.distinct.tuned [] cache) hc hunseen hst
      (sendFails_harmless hsends _) hlog
  · rw [if_neg hsend]
    exact ⟨rfl, herased⟩

/-- Whatever happens to a connection that does not count: the smaller server does not see it. -/
theorem handleEvent_hidden (h : ErasedIdle seen s t)
    (hname : protocolPayloadLengthIsLegal s.name.length) {e : EpollEvent} {r : Replies}
    (hhides : s.hides seen e.fd = true) (hctl : r.ctl = [])
    (hsends : ∀ reply ∈ r.sends, reply.harmless = true)
    (hlog : (s.handleEvent e r).2.Unopened seen) :
    (s.handleEvent e r).1 = true ∧ Erased seen (s.handleEvent e r).2 t := by
  obtain ⟨c, hc, hfd, hunseen⟩ := hides_iff.mp hhides
  have hfind : s.find e.fd = some c := hfd ▸ Server.find_of_mem h.registry.distinct hc
  have herased := h.toErased.tuned_left [] (some c.addr)
  by_cases hclosing : s.serverClosing = true
  · rw [handleEvent_closing h.registry.distinct hclosing, hctl, hfind, Server.handleClosing,
      Option.map_some] at hlog ⊢
    exact send_unseen h hc hunseen hsends _ (fun x hx => hlog x hx _ hunseen)
  · have hopen : s.serverClosing = false := by simpa using hclosing
    obtain ⟨-, hstdin, hlisten⟩ := h.registry.client_fd c hc
    rw [hfd] at hstdin hlisten
    rw [handleEvent_open h.registry.distinct hopen (fun haccept => hlisten haccept.1), hctl, hfind,
      Server.handleOpen, Option.map_some] at hlog ⊢
    by_cases hhello : c.WantsHello e.events
    · rw [if_pos hhello]
      exact receiveClientHello_unseen herased (h.registry.distinct.tuned [] _) ⟨rfl, h.registered⟩
        hc hunseen hhello.1 hname r.recvs
    · have hread : ¬c.WantsRead e.events := fun hwants => h.quiet c hc hunseen hwants.1
      have hkeyboard : ¬(e.fd = stdinFileno ∧ e.events.has epollIn) := fun hin => hstdin hin.1
      rw [if_neg hhello, if_neg hread, if_neg hkeyboard] at hlog ⊢
      exact send_unseen h hc hunseen hsends _ (fun x hx => hlog x hx _ hunseen)

lemma handleAccept_nothing {replies : List AcceptReply} (hnone : acceptedSockets replies = [])
    (hharmless : ∀ reply ∈ replies, reply.harmless = true) :
    t.handleAcceptClientConnectionEvent replies = (true, t) := by
  cases replies with
  | nil => rfl
  | cons reply replies =>
    cases reply with
    | socket fd addr => cases hnone
    | error err =>
      have herr : err.retryable = true := hharmless _ List.mem_cons_self
      rw [Server.handleAcceptClientConnectionEvent, if_pos herr]

lemma harmless_seenAccepts {replies : List AcceptReply}
    (h : ∀ reply ∈ replies, reply.harmless = true) (n : ℕ) :
    ∀ reply ∈ seenAccepts seen n replies, reply.harmless = true := by
  induction replies generalizing n with
  | nil => exact h
  | cons reply replies ih =>
    have ih := ih (fun x hx => h x (List.mem_cons_of_mem reply hx))
    cases reply with
    | error err =>
      rw [seenAccepts]
      intro x hx
      rcases List.mem_cons.mp hx with rfl | hx
      · exact h _ List.mem_cons_self
      · exact ih n x hx
    | socket fd addr =>
      rw [seenAccepts]
      split_ifs
      · intro x hx
        rcases List.mem_cons.mp hx with rfl | hx
        · rfl
        · exact ih (n + 1) x hx
      · exact ih (n + 1)

theorem handleEvent_skipped (h : ErasedPair seen s t)
    (hname : protocolPayloadLengthIsLegal s.name.length) {e : EpollEvent} {r : Replies}
    (hskips : s.skips seen e r = true) (hctl : r.ctl = [])
    (hsends : ∀ reply ∈ r.sends, reply.harmless = true)
    (haccepts : ∀ reply ∈ r.accepts, reply.harmless = true) (hfresh : FreshSockets s r.accepts)
    (hlog : (s.handleEvent e r).2.Unopened seen) :
    (s.handleEvent e r).1 = true ∧ Erased seen (s.handleEvent e r).2 t := by
  by_cases hhides : s.hides seen e.fd = true
  · exact handleEvent_hidden h.toErasedIdle hname hhides hctl hsends hlog
  · have haccept : ((s.eventIsAcceptClientConnection e.fd e.events &&
        !(acceptedSockets r.accepts).isEmpty) &&
          (acceptedSockets (seenAccepts seen s.accepted r.accepts)).isEmpty) = true := by
      unfold Server.skips at hskips
      rw [Bool.or_eq_true] at hskips
      exact hskips.resolve_left hhides
    simp only [Server.eventIsAcceptClientConnection, Bool.and_eq_true, Bool.not_eq_true',
      decide_eq_true_eq, List.isEmpty_iff] at haccept
    obtain ⟨⟨⟨hopen, hlisten⟩, -⟩, hnone⟩ := haccept
    have hclose := h.close s.cachedConnection t.cachedConnection
    have hloop := handleAccept_erased hclose.toErased rfl rfl
      (hfresh.tuned [] s.cachedConnection)
    have hnothing := handleAccept_nothing (t := t.tuned [] t.cachedConnection) hnone
      (harmless_seenAccepts haccepts s.accepted)
    rw [handleEvent_accept hopen hlisten, hctl]
    have heq : seenAccepts seen (s.tuned [] s.cachedConnection).accepted r.accepts =
        seenAccepts seen s.accepted r.accepts := rfl
    rw [heq, hnothing] at hloop
    have htrue := hloop.reported.symm
    exact ⟨htrue, (hloop.goesOn htrue).congr rfl rfl rfl rfl (hloop.goesOn htrue).name rfl rfl
      (hloop.goesOn htrue).epollFd (hloop.goesOn htrue).closing (fun _ => Iff.rfl)
      (fun _ => Iff.rfl)⟩

theorem handleEvent_over (h : ErasedIdle seen s t) (hclosing : t.serverClosing = true)
    (hempty : t.allConnectionBuffersEmpty = true) {e : EpollEvent} {r : Replies} (hctl : r.ctl = [])
    (hsends : ∀ reply ∈ r.sends, reply.harmless = true)
    (hlog : (s.handleEvent e r).2.Unopened seen) :
    (s.handleEvent e r).1 = true ∧ Erased seen (s.handleEvent e r).2 t := by
  have hclosing' : s.serverClosing = true := h.closing.symm.trans hclosing
  rw [handleEvent_closing h.registry.distinct hclosing', hctl] at hlog ⊢
  cases hfind : s.find e.fd with
  | none => exact ⟨rfl, h.toErased.tuned_left [] _⟩
  | some c =>
    obtain ⟨hc, hfd⟩ := Server.find_some hfind
    rw [hfind, Server.handleClosing, Option.map_some] at hlog
    rw [Server.handleClosing, Option.map_some]
    by_cases hseen : seen c.serial = true
    · obtain ⟨d, hd, hnum⟩ := h.renumbered hc hseen
      have hdrained : c.outBuffer = [] := by
        unfold Server.allConnectionBuffersEmpty at hempty
        rw [← hnum.outBuffer]
        exact List.isEmpty_iff.mp (List.all_eq_true.mp hempty d hd)
      rw [if_neg (fun hwants => hwants.2.1 hdrained)]
      exact ⟨rfl, h.toErased.tuned_left [] _⟩
    · have hunseen : seen c.serial = false := by simpa using hseen
      exact send_unseen h hc hunseen hsends _ (fun x hx => hlog x hx _ hunseen)

end Events

/-! ### The log of a run -/

section Log

variable {host : Bytes} {P : Loop → LoopInput → Prop} {s s' : Server} {who : Option ℕ}

lemma Abort.log_grows (h : Abort who s s') : s.roomLog <+: s'.roomLog := by
  cases h <;> first | exact List.prefix_refl _ | exact List.prefix_append _ _

lemma Effects.log_grows (h : Effects who s s') : s.roomLog <+: s'.roomLog :=
  h.preserves (I := fun u => s.roomLog <+: u.roomLog)
    (fun _ _ hu hstep => hu.trans hstep.log_prefix) (List.prefix_refl _)

theorem path_log_grows {l l' : Loop} (hr : (serverSystem host).Reach P l)
    (hp : (serverSystem host).Path P l l') : l.server.roomLog <+: l'.server.roomLog :=
  path_relates (R := fun s s' => s.roomLog <+: s'.roomLog) (fun _ => List.prefix_refl _)
    (fun _ _ _ h h' => h.trans h') (fun _ _ _ _ heff => heff.log_grows)
    (fun _ _ _ _ habort => habort.log_grows) hr hp

lemma Server.Unopened.earlier {seen : ℕ → Bool} (h : s'.Unopened seen)
    (hlog : s.roomLog <+: s'.roomLog) : s.Unopened seen :=
  fun e he => h e (hlog.subset he)

end Log

/-! ### Taking the events out of a run -/

/-- The steps in which no `send`, `accept`, `epoll_ctl` or `epoll_wait` fails for good. -/
def NoCallFails (l : Loop) (i : LoopInput) : Prop :=
  NothingFails l i ∧
    match i with
    | .replies r => ∀ reply ∈ r.accepts, reply.harmless = true
    | .events _ | .waitFailed _ | .endOfBatch => True

instance (l : Loop) (i : LoopInput) : Decidable (NoCallFails l i) :=
  match i with
  | .replies r =>
    inferInstanceAs (Decidable (NothingFails l (.replies r) ∧
      ∀ reply ∈ r.accepts, reply.harmless = true))
  | .events es => inferInstanceAs (Decidable (NothingFails l (.events es) ∧ True))
  | .waitFailed e => inferInstanceAs (Decidable (NothingFails l (.waitFailed e) ∧ True))
  | .endOfBatch => inferInstanceAs (Decidable (NothingFails l .endOfBatch ∧ True))

/-- Connection `n` has become active: the step in which it does announces it. -/
def Server.everActive (s : Server) (n : ℕ) : Bool :=
  s.roomLog.any (fun e => decide (e.Opens n))

/-- The events of the batch that are still to be handled. -/
def Loop.pending (l : Loop) : List EpollEvent :=
  match l.phase with
  | .handling es => es
  | .waiting | .stopped => []

/-- The rest of a run without the events of the connections that do not count: those events
of the current batch that stay, and what stays of each input. -/
def erase (seen : ℕ → Bool) :
    Loop → List LoopInput → List EpollEvent × List (Option LoopInput)
  | l, [] => (l.pending.filter (fun e => !l.server.hides seen e.fd), [])
  | l, i :: is =>
    match serverLoopStep l i with
    | none => ([], [])
    | some l' =>
      let later := erase seen l' is
      match i, l.pending with
      | .events _, _ => ([], some (.events later.1) :: later.2)
      | .replies r, e :: _ =>
        if l.server.skips seen e r then (later.1, none :: later.2)
        else (e :: later.1, some (.replies (r.shown seen l.server.accepted)) :: later.2)
      | i, _ => ([], some i :: later.2)

section Run

variable {host : Bytes} {seen : ℕ → Bool} {l l' m : Loop}

lemma unopened_everActive (s : Server) : s.Unopened s.everActive := by
  intro e he n hn hopens
  have hany : s.everActive n = true := List.any_eq_true.mpr ⟨e, he, decide_eq_true hopens⟩
  rw [hn] at hany
  cases hany

lemma reach_erasedIdle {P : Loop → LoopInput → Prop} (hr : (serverSystem host).Reach P l)
    (hrun : l.Running) {t : Server} (herased : Erased seen l.server t)
    (hlog : l.server.Unopened seen) : ErasedIdle seen l.server t where
  toErased := herased
  registry := (reach_inv hr hrun).sound.registry
  registered := reach_registered hr hrun
  quiet := by
    intro c hc hunseen hst
    obtain ⟨e, he, hopens⟩ := ((reach_gated hr).live c hc).opened hst
    exact hlog e he _ hunseen hopens

lemma reach_erasedPair {P Q : Loop → LoopInput → Prop} (hr : (serverSystem host).Reach P l)
    (hm : (serverSystem host).Reach Q m) (hrun : l.Running) (hrun' : m.Running)
    (herased : Erased seen l.server m.server) (hlog : l.server.Unopened seen) :
    ErasedPair seen l.server m.server where
  toErasedIdle := reach_erasedIdle hr hrun herased hlog
  registry' := (reach_inv hm hrun').sound.registry
  registered' := reach_registered hm hrun'

/-- Where the run without the hidden events is while the other one is in `l`. -/
def Loop.shownPhase (l : Loop) (seen : ℕ → Bool) (is : List LoopInput) : Phase :=
  match l.phase with
  | .handling _ => .handling (erase seen l is).1
  | .waiting => .waiting
  | .stopped => .stopped

/-- The two runs have come equally far. -/
structure InStep (seen : ℕ → Bool) (l : Loop) (is : List LoopInput) (m : Loop) : Prop where
  room : SameRoom seen l.server m.server
  erased : l.Running → Erased seen l.server m.server
  phase : m.phase = l.shownPhase seen is

/-- The run without the hidden events is over: the room was closed and those who count have
got everything. -/
structure Over (seen : ℕ → Bool) (l m : Loop) : Prop where
  erased : Erased seen l.server m.server
  stopped : m.phase = .stopped
  closing : m.server.serverClosing = true
  empty : m.server.allConnectionBuffersEmpty = true

lemma InStep.running_iff {is : List LoopInput} (h : InStep seen l is m) :
    m.Running ↔ l.Running := by
  unfold Loop.Running
  rw [h.phase, Loop.shownPhase]
  cases l.phase <;> simp

lemma erase_length (seen : ℕ → Bool) (l : Loop) (is : List LoopInput) :
    (erase seen l is).1.length ≤ l.pending.length := by
  induction is generalizing l with
  | nil => exact List.length_filter_le _ _
  | cons i is ih =>
    rw [erase]
    cases hl : serverLoopStep l i with
    | none => exact Nat.zero_le _
    | some l' =>
      have hlater := ih l'
      cases i with
      | events es => exact Nat.zero_le _
      | waitFailed err => exact Nat.zero_le _
      | endOfBatch => exact Nat.zero_le _
      | replies r =>
        obtain ⟨e, es, ok, hphase, -, hphase'⟩ := serverLoopStep_replies hl
        have hpending : l.pending = e :: es := by rw [Loop.pending, hphase]
        have hlt : l'.pending.length ≤ es.length := by
          rw [Loop.pending, hphase']
          cases ok
          · exact Nat.zero_le _
          · exact Nat.le_refl _
        rw [hpending]
        dsimp only
        rw [List.length_cons]
        split_ifs
        · dsimp only
          omega
        · rw [List.length_cons]
          omega

/-- What becomes of an input in the run without the hidden events, after the other run went
on to `l`. -/
inductive Matched (seen : ℕ → Bool) (l : Loop) (is : List LoopInput) (m : Loop) :
    Option LoopInput → Prop
  | skipped (h : InStep seen l is m) : Matched seen l is m none
  | kept {i : LoopInput} {m' : Loop} (hadm : i.Admissible m) (hfails : NoCallFails m i)
      (hstep : serverLoopStep m i = some m') (h : InStep seen l is m' ∨ Over seen l m') :
      Matched seen l is m (some i)

lemma InStep.events {es : List EpollEvent} {is : List LoopInput}
    (h : InStep seen l (.events es :: is) m) (hl : serverLoopStep l (.events es) = some l') :
    Matched seen l' is m (some (.events (erase seen l' is).1)) := by
  rw [serverLoopStep] at hl
  split_ifs at hl with hw
  cases hl
  have hm : m.phase = .waiting := by rw [h.phase, Loop.shownPhase, hw.1]
  have hlen : (erase seen ⟨l.server, .handling es⟩ is).1.length ≤ maxEpollEvents :=
    (erase_length seen ⟨l.server, .handling es⟩ is).trans hw.2
  have hstep : serverLoopStep m (.events (erase seen ⟨l.server, .handling es⟩ is).1) =
      some ⟨m.server, .handling (erase seen ⟨l.server, .handling es⟩ is).1⟩ := by
    rw [serverLoopStep, if_pos ⟨hm, hlen⟩]
  have hrun : l.Running := by simp [Loop.Running, hw.1]
  exact Matched.kept trivial ⟨trivial, trivial⟩ hstep
    (Or.inl ⟨h.room, fun _ => h.erased hrun, rfl⟩)

lemma InStep.waitFailed {err : Errno} {is : List LoopInput}
    (h : InStep seen l (.waitFailed err :: is) m)
    (hfails : NoCallFails l (.waitFailed err)) (hl : serverLoopStep l (.waitFailed err) = some l') :
    Matched seen l' is m (some (.waitFailed err)) := by
  by_cases hw : l.phase = .waiting
  · rw [serverLoopStep, if_pos hw] at hl
    cases hl
    have hm : m.phase = .waiting := by rw [h.phase, Loop.shownPhase, hw]
    have hrun : l.Running := by simp [Loop.Running, hw]
    have hstep : serverLoopStep m (.waitFailed err) =
        some ⟨m.server, if err = .eintr then .waiting else .stopped⟩ := by
      rw [serverLoopStep, if_pos hm]
    refine Matched.kept trivial hfails hstep (Or.inl ⟨h.room, fun _ => h.erased hrun, ?_⟩)
    by_cases heintr : err = .eintr
    · simp [Loop.shownPhase, heintr]
    · simp [Loop.shownPhase, heintr]
  · rw [serverLoopStep, if_neg hw] at hl
    cases hl

lemma InStep.endOfBatch {is : List LoopInput} (h : InStep seen l (.endOfBatch :: is) m)
    (hl : serverLoopStep l .endOfBatch = some l') :
    Matched seen l' is m (some .endOfBatch) := by
  have hl₀ := hl
  by_cases hw : l.phase = .handling []
  · rw [serverLoopStep, if_pos hw] at hl
    cases hl
    have hnone : (erase seen l (.endOfBatch :: is)).1 = [] := by
      rw [erase, hl₀]
    have hm : m.phase = .handling [] := by rw [h.phase, Loop.shownPhase, hw, hnone]
    have hrun : l.Running := by simp [Loop.Running, hw]
    have herased := h.erased hrun
    have hstep : serverLoopStep m .endOfBatch = some ⟨m.server,
        if m.server.serverClosing ∧ m.server.allConnectionBuffersEmpty then .stopped
          else .waiting⟩ := by
      rw [serverLoopStep, if_pos hm]
    refine Matched.kept trivial ⟨trivial, trivial⟩ hstep ?_
    by_cases hmdone : m.server.serverClosing ∧ m.server.allConnectionBuffersEmpty
    · by_cases hldone : l.server.serverClosing ∧ l.server.allConnectionBuffersEmpty
      · rw [if_pos hmdone, if_pos hldone]
        exact Or.inl ⟨h.room, fun _ => herased, rfl⟩
      · rw [if_pos hmdone, if_neg hldone]
        exact Or.inr ⟨herased, rfl, hmdone.1, hmdone.2⟩
    · have hldone : ¬(l.server.serverClosing ∧ l.server.allConnectionBuffersEmpty) := by
        rintro ⟨hclosing, hempty⟩
        exact hmdone ⟨herased.closing.trans hclosing, herased.buffersEmpty hempty⟩
      rw [if_neg hmdone, if_neg hldone]
      exact Or.inl ⟨h.room, fun _ => herased, rfl⟩
  · rw [serverLoopStep, if_neg hw] at hl
    cases hl

lemma skips_of_hides {s : Server} {e : EpollEvent} {r : Replies} (h : s.skips seen e r = false) :
    s.hides seen e.fd = false := by
  unfold Server.skips at h
  rw [Bool.or_eq_false_iff] at h
  exact h.1

lemma Follows.inStep {ok ok' : Bool} {t : Server} {es : List EpollEvent} {is : List LoopInput}
    (h : Follows seen (ok, l'.server) (ok', t))
    (hphase : l'.phase = if ok then .handling es else .stopped) :
    InStep seen l' is ⟨t, if ok' then .handling (erase seen l' is).1 else .stopped⟩ ∨
      Over seen l' ⟨t, if ok' then .handling (erase seen l' is).1 else .stopped⟩ := by
  cases ok with
  | false =>
    have hfalse : ok' = false := by
      by_contra htrue
      exact absurd (h.goesOn (by simpa using htrue)) Bool.false_ne_true
    have hstopped : ¬l'.Running := fun hrun => hrun hphase
    rw [hfalse]
    refine Or.inl ⟨h.room, fun hrun => absurd hrun hstopped, ?_⟩
    rw [Loop.shownPhase, hphase]
    rfl
  | true =>
    have herased := h.erased rfl
    cases ok' with
    | true =>
      refine Or.inl ⟨h.room, fun _ => herased, ?_⟩
      rw [Loop.shownPhase, hphase]
      rfl
    | false =>
      obtain ⟨hclosing, hempty⟩ := h.ends rfl rfl
      exact Or.inr ⟨herased, rfl, hclosing, hempty⟩

lemma InStep.replies {r : Replies} {is : List LoopInput} (h : InStep seen l (.replies r :: is) m)
    (hpair : ErasedPair seen l.server m.server) (hlog : l'.server.Unopened seen)
    (hname : protocolPayloadLengthIsLegal l.server.name.length)
    (hfails : NoCallFails l (.replies r)) (hfresh : FreshSockets l.server r.accepts)
    (hl : serverLoopStep l (.replies r) = some l') :
    ∃ o, (erase seen l (.replies r :: is)).2 = o :: (erase seen l' is).2 ∧
      Matched seen l' is m o := by
  obtain ⟨⟨hctl, hsends⟩, haccepts⟩ := hfails
  obtain ⟨e, es, ok, hphase, hev, hphase'⟩ := serverLoopStep_replies hl
  have hpending : l.pending = e :: es := by rw [Loop.pending, hphase]
  have hshown : l.shownPhase seen (.replies r :: is) =
      .handling (erase seen l (.replies r :: is)).1 := by rw [Loop.shownPhase, hphase]
  have hm := h.phase.trans hshown
  have herase : erase seen l (.replies r :: is) =
      if l.server.skips seen e r then ((erase seen l' is).1, none :: (erase seen l' is).2)
      else (e :: (erase seen l' is).1,
        some (.replies (r.shown seen l.server.accepted)) :: (erase seen l' is).2) := by
    rw [erase, hl, hpending]
  by_cases hskips : l.server.skips seen e r = true
  · rw [if_pos hskips] at herase
    rw [herase] at hm
    have hlog' : (l.server.handleEvent e r).2.Unopened seen := by
      rw [hev]
      exact hlog
    obtain ⟨htrue, herased⟩ := handleEvent_skipped hpair hname hskips hctl hsends haccepts hfresh
      hlog'
    rw [hev] at htrue herased
    have hok : ok = true := htrue
    rw [hok] at hphase'
    refine ⟨none, by rw [herase], Matched.skipped ⟨herased.toSameRoom, fun _ => herased, ?_⟩⟩
    rw [hm, Loop.shownPhase, hphase']
    rfl
  · rw [if_neg hskips] at herase
    rw [herase] at hm
    have hfollows := handleEvent_follows hpair (skips_of_hides (by simpa using hskips)) hctl hfresh
    rcases hev' : m.server.handleEvent e (r.shown seen l.server.accepted) with ⟨ok', t⟩
    rw [hev, hev'] at hfollows
    have hstep : serverLoopStep m (.replies (r.shown seen l.server.accepted)) =
        some ⟨t, if ok' then .handling (erase seen l' is).1 else .stopped⟩ := by
      rw [serverLoopStep, hm]
      dsimp only
      rw [hev']
      cases ok' <;> rfl
    have hadm : (LoopInput.replies (r.shown seen l.server.accepted)).Admissible m :=
      FreshSockets.erased hfresh hpair.toErased l.server.accepted
    have hfails' : NoCallFails m (.replies (r.shown seen l.server.accepted)) :=
      ⟨⟨hctl, hsends⟩, harmless_seenAccepts haccepts l.server.accepted⟩
    exact ⟨_, by rw [herase], Matched.kept hadm hfails' hstep (hfollows.inStep hphase')⟩

theorem InStep.step {i : LoopInput} {is : List LoopInput} (h : InStep seen l (i :: is) m)
    (hr : (serverSystem host).Reach NoCallFails l) (hm : (serverSystem host).Reach NoCallFails m)
    (hhost : protocolPayloadLengthIsLegal host.length) (hadm : i.Admissible l)
    (hfails : NoCallFails l i) (hl : serverLoopStep l i = some l')
    (hlog : l'.server.Unopened seen) :
    ∃ o, (erase seen l (i :: is)).2 = o :: (erase seen l' is).2 ∧ Matched seen l' is m o := by
  cases i with
  | events es => exact ⟨_, by rw [erase, hl], h.events hl⟩
  | waitFailed err => exact ⟨_, by rw [erase, hl], h.waitFailed hfails hl⟩
  | endOfBatch => exact ⟨_, by rw [erase, hl], h.endOfBatch hl⟩
  | replies r =>
    obtain ⟨hrun, -⟩ := serverLoopStep_cases hl
    have hname : l.server.name = host := (reach_inv hr hrun).host
    have hprefix : l.server.roomLog <+: l'.server.roomLog :=
      path_log_grows hr (System.Path.single hfails ⟨hadm, hl⟩)
    have hpair := reach_erasedPair hr hm hrun (h.running_iff.mpr hrun) (h.erased hrun)
      (hlog.earlier hprefix)
    rw [← hname] at hhost
    exact h.replies hpair hlog hhost hfails hadm hl

/-- The larger server goes on alone, until those who do not count have got their greetings. -/
theorem Over.step {i : LoopInput} (h : Over seen l m)
    (hr : (serverSystem host).Reach NoCallFails l) (hadm : i.Admissible l)
    (hfails : NoCallFails l i) (hl : serverLoopStep l i = some l')
    (hlog : l'.server.Unopened seen) : Over seen l' m := by
  have hprefix : l.server.roomLog <+: l'.server.roomLog :=
    path_log_grows hr (System.Path.single hfails ⟨hadm, hl⟩)
  obtain ⟨hrun, heq | ⟨r, e, es, ok, rfl, -, hev, -⟩⟩ := serverLoopStep_cases hl
  · refine ⟨?_, h.stopped, h.closing, h.empty⟩
    rw [heq]
    exact h.erased
  · obtain ⟨⟨hctl, hsends⟩, -⟩ := hfails
    have hbeside := reach_erasedIdle hr hrun h.erased (hlog.earlier hprefix)
    have hlog' : (l.server.handleEvent e r).2.Unopened seen := by
      rw [hev]
      exact hlog
    obtain ⟨-, herased⟩ := handleEvent_over hbeside h.closing h.empty hctl hsends hlog'
    rw [hev] at herased
    exact ⟨herased, h.stopped, h.closing, h.empty⟩

/-- What a state of a run and a state of the run without the hidden events have in common. -/
structure Alike (seen : ℕ → Bool) (l m : Loop) : Prop where
  active : ∀ c ∈ l.server.connections, c.state = .active → seen c.serial = true
  room : SameRoom seen l.server m.server
  goesOn : m.Running → l.Running
  ends : l.Running → ¬m.Running →
    m.server.serverClosing = true ∧ m.server.allConnectionBuffersEmpty = true

lemma reach_active {P : Loop → LoopInput → Prop} (hr : (serverSystem host).Reach P l)
    (hlog : l.server.Unopened seen) :
    ∀ c ∈ l.server.connections, c.state = .active → seen c.serial = true := by
  intro c hc hst
  obtain ⟨e, he, hopens⟩ := ((reach_gated hr).live c hc).opened hst
  by_contra hunseen
  exact hlog e he _ (by simpa using hunseen) hopens

lemma InStep.alike {P : Loop → LoopInput → Prop} {is : List LoopInput} (h : InStep seen l is m)
    (hr : (serverSystem host).Reach P l) (hlog : l.server.Unopened seen) : Alike seen l m where
  active := reach_active hr hlog
  room := h.room
  goesOn := h.running_iff.mp
  ends := fun hrun hstopped => absurd (h.running_iff.mpr hrun) hstopped

lemma Over.not_running (h : Over seen l m) : ¬m.Running :=
  fun hrun => hrun h.stopped

lemma Over.alike {P : Loop → LoopInput → Prop} (h : Over seen l m)
    (hr : (serverSystem host).Reach P l) (hlog : l.server.Unopened seen) : Alike seen l m where
  active := reach_active hr hlog
  room := h.erased.toSameRoom
  goesOn := fun hrun => absurd hrun h.not_running
  ends := fun _ _ => ⟨h.closing, h.empty⟩

lemma runInputs_cons {P : Loop → LoopInput → Prop} [∀ l i, Decidable (P l i)] {i : LoopInput}
    {is : List LoopInput} :
    runInputs P l (i :: is) = some l' ↔
      ∃ k, (i.Admissible l ∧ P l i ∧ serverLoopStep l i = some k) ∧
        runInputs P k is = some l' := by
  unfold runInputs
  rw [System.run, Option.bind_eq_some_iff]
  simp only [admittedStep_some]

lemma runInputs_drop {P : Loop → LoopInput → Prop} [∀ l i, Decidable (P l i)]
    {is : List LoopInput} (hrun : runInputs P l is = some l') {k : ℕ} {lk : Loop}
    (hk : runInputs P l (is.take k) = some lk) : runInputs P lk (is.drop k) = some l' := by
  rw [← List.take_append_drop k is] at hrun
  unfold runInputs at hrun hk ⊢
  rw [System.run_append, hk, Option.bind_some] at hrun
  exact hrun

theorem Over.run {is : List LoopInput} (h : Over seen l m)
    (hr : (serverSystem host).Reach NoCallFails l) (hrun : runInputs NoCallFails l is = some l')
    (hlog : l'.server.Unopened seen) : Over seen l' m := by
  induction is generalizing l with
  | nil =>
    cases hrun
    exact h
  | cons i is ih =>
    obtain ⟨k, ⟨hadm, hfails, hl⟩, hrest⟩ := runInputs_cons.mp hrun
    have hk := hr.snoc hfails ⟨hadm, hl⟩
    have hlater := path_log_grows hk (runInputs_path hrest)
    exact ih (h.step hr hadm hfails hl (hlog.earlier hlater)) hk hrest

theorem InStep.run {is : List LoopInput} (h : InStep seen l is m)
    (hr : (serverSystem host).Reach NoCallFails l) (hm : (serverSystem host).Reach NoCallFails m)
    (hhost : protocolPayloadLengthIsLegal host.length)
    (hrun : runInputs NoCallFails l is = some l') (hlog : l'.server.Unopened seen) (k : ℕ)
    {lk : Loop} (hk : runInputs NoCallFails l (is.take k) = some lk) :
    ∃ j ≤ k, ∃ mj, runInputs NoCallFails m ((erase seen l is).2.take j).reduceOption = some mj ∧
      Alike seen lk mj ∧ (mj.Running → j = k) := by
  have hstart : l.server.Unopened seen :=
    hlog.earlier (path_log_grows hr (runInputs_path hrun))
  induction is generalizing l m k with
  | nil =>
    rw [List.take_nil] at hk
    cases hk
    exact ⟨k, Nat.le_refl k, m, by rw [erase, List.take_nil]; rfl, h.alike hr hstart, fun _ => rfl⟩
  | cons i is ih =>
    cases k with
    | zero =>
      cases hk
      exact ⟨0, Nat.le_refl 0, m, rfl, h.alike hr hstart, fun _ => rfl⟩
    | succ k =>
      obtain ⟨l₁, ⟨hadm, hfails, hl⟩, hrest⟩ := runInputs_cons.mp hrun
      have hr₁ := hr.snoc hfails ⟨hadm, hl⟩
      have hlog₁ : l₁.server.Unopened seen :=
        hlog.earlier (path_log_grows hr₁ (runInputs_path hrest))
      rw [List.take_succ_cons] at hk
      obtain ⟨l₁', ⟨-, -, hl'⟩, hk⟩ := runInputs_cons.mp hk
      obtain rfl : l₁ = l₁' := Option.some.inj (hl.symm.trans hl')
      obtain ⟨o, herase, hmatched⟩ := h.step hr hm hhost hadm hfails hl hlog₁
      cases hmatched with
      | skipped hin =>
        obtain ⟨j, hj, mj, hmj, halike, hsame⟩ := ih hin hr₁ hm hrest k hk hlog₁
        refine ⟨j + 1, Nat.succ_le_succ hj, mj, ?_, halike, fun hrunning => ?_⟩
        · rw [herase, List.take_succ_cons, List.reduceOption_cons_of_none]
          exact hmj
        · rw [hsame hrunning]
      | @kept i' m' hadm' hfails' hstep hnext =>
        rcases hnext with hin | hover
        · have hm' := hm.snoc hfails' ⟨hadm', hstep⟩
          obtain ⟨j, hj, mj, hmj, halike, hsame⟩ := ih hin hr₁ hm' hrest k hk hlog₁
          refine ⟨j + 1, Nat.succ_le_succ hj, mj, ?_, halike, fun hrunning => ?_⟩
          · rw [herase, List.take_succ_cons, List.reduceOption_cons_of_some]
            exact runInputs_cons.mpr ⟨m', ⟨hadm', hfails', hstep⟩, hmj⟩
          · rw [hsame hrunning]
        · have hrk : (serverSystem host).Reach NoCallFails lk := hr₁.path (runInputs_path hk)
          have hlogk : lk.server.Unopened seen :=
            hlog.earlier (path_log_grows hrk (runInputs_path (runInputs_drop hrest hk)))
          have hoverk := hover.run hr₁ hk hlogk
          refine ⟨1, Nat.succ_le_succ (Nat.zero_le k), m', ?_, hoverk.alike hrk hlogk,
            fun hrunning => absurd hrunning hoverk.not_running⟩
          rw [herase, List.take_succ_cons, List.reduceOption_cons_of_some]
          exact runInputs_cons.mpr ⟨m', ⟨hadm', hfails', hstep⟩, rfl⟩

lemma initial_inStep (seen : ℕ → Bool) (listenFd epollFd : Fd) (is : List LoopInput) :
    InStep seen ⟨initialServer host listenFd epollFd, .waiting⟩ is
      ⟨initialServer host listenFd epollFd, .waiting⟩ := by
  have hreg : (initialServer host listenFd epollFd).Registers := by
    intro fd hfd
    obtain ⟨entry, hmem, rfl⟩ := Kernel.exists_entry hfd
    rcases List.mem_cons.mp (InterestList.mem_watching hmem) with rfl | hstdin
    · exact Or.inl rfl
    · rw [List.mem_singleton.mp hstdin]
      exact Or.inr (Or.inl rfl)
  have herased : Erased seen (initialServer host listenFd epollFd)
      (initialServer host listenFd epollFd) :=
    ⟨⟨List.Forall₂.nil, rfl⟩, rfl, rfl, rfl, rfl, hreg, hreg⟩
  exact ⟨herased.toSameRoom, fun _ => herased, rfl⟩

end Run

/-- Whoever never becomes active is invisible to the room. Without the events of these
connections the loop takes the same steps, as long as it runs: the others have the same state,
name, buffers and queues, and the screen shows the same lines. It ends with the other one, or
before it when the room was closed and only greetings were left to write. -/
theorem newcomers_are_invisible {host : Bytes} (hhost : host.length ≤ 65536) {l₀ l : Loop}
    (hinit : (serverSystem host).init l₀) {is : List LoopInput}
    (hrun : runInputs NoCallFails l₀ is = some l) (k : ℕ) {lk : Loop}
    (hk : runInputs NoCallFails l₀ (is.take k) = some lk) :
    ∃ j ≤ k, ∃ mj,
      runInputs NoCallFails l₀ ((erase l.server.everActive l₀ is).2.take j).reduceOption =
        some mj ∧
      Alike l.server.everActive lk mj ∧ (mj.Running → j = k) := by
  have hr := System.Reach.of_init (P := NoCallFails) hinit
  obtain ⟨listenFd, epollFd, -, rfl⟩ := hinit
  exact (initial_inStep l.server.everActive listenFd epollFd is).run hr hr hhost hrun
    (unopened_everActive l.server) k hk

/-- Ann joins, and somebody else connects, sends a frame that is too large and is removed. -/
def annAndStranger : List LoopInput :=
  arrives 3 5 ++ delivers 5 (helloBytes (ascii "ann")) ++ drains 5 ++ arrives 3 6 ++
    delivers 6 [1, 255, 255, 255, 255]

theorem newcomers_are_invisible_stranger : ∃ l lk : Loop,
    runInputs NoCallFails ⟨initialServer (ascii "host") 3 4, .waiting⟩ annAndStranger = some l ∧
      lk.server.connections.length = 2 ∧ ∃ j ≤ 12, ∃ mj,
        runInputs NoCallFails ⟨initialServer (ascii "host") 3 4, .waiting⟩
          ((erase l.server.everActive ⟨initialServer (ascii "host") 3 4, .waiting⟩
            annAndStranger).2.take j).reduceOption = some mj ∧
        Alike l.server.everActive lk mj ∧ (mj.Running → j = 12) := by
  obtain ⟨l, hl⟩ : ∃ l, runInputs NoCallFails ⟨initialServer (ascii "host") 3 4, .waiting⟩
      annAndStranger = some l := ⟨_, rfl⟩
  obtain ⟨lk, hk, htwo⟩ : ∃ lk, runInputs NoCallFails
      ⟨initialServer (ascii "host") 3 4, .waiting⟩ (annAndStranger.take 12) = some lk ∧
      lk.server.connections.length = 2 := ⟨_, rfl, by decide⟩
  have hinit : (serverSystem (ascii "host")).init ⟨initialServer (ascii "host") 3 4, .waiting⟩ :=
    ⟨3, 4, by decide, rfl⟩
  exact ⟨l, lk, hl, htwo, newcomers_are_invisible (by decide) hinit hl 12 hk⟩

end Chatroom
