import Chatroom.Library.Progress
import Chatroom.Proofs.Shutdown
import Mathlib.Algebra.Order.BigOperators.Group.List
import Mathlib.Algebra.Order.Ring.Nat
import Mathlib.Data.Prod.Lex

/-!
# A closing room comes to its end

After `/quit` the loop runs until everything is written. What may still have to be
written is bounded when the room closes: the pending output, and one notice for each
connection that is greeted late, to everybody. Each byte that a socket takes is paid
from this sum, so the loop ends as soon as the guests read what they were sent.
-/

namespace Chatroom
open Fallible Relation Transition

/-- The length of the notice that a connection was greeted, as a frame. -/
def Connection.noticeLength (c : Connection) : ℕ :=
  (encodeFrame (RoomEntry.connected c.serial c.name).message).length

/-- What a closing room of `guests` connections may still have to write because of one of
them: its pending output, and while it is being greeted the notice about it to each. -/
def Connection.owed (guests : ℕ) (c : Connection) : ℕ :=
  c.unsent.length + if c.state = .sendingServerHello then guests * c.noticeLength else 0

/-- The bytes that a closing room may still have to write. -/
def Server.owed (s : Server) : ℕ :=
  (s.connections.map (Connection.owed s.connections.length)).sum

/-- The bytes that the sockets of the room have taken. -/
def Server.written (s : Server) : ℕ :=
  (s.connections.map (fun c => c.sent.length)).sum

/-! ### The account of one connection -/

/-- What was written to a connection, and what is still owed because of it. -/
def Connection.account (guests : ℕ) (c : Connection) : ℕ :=
  c.sent.length + c.owed guests

section Accounts

variable {c d : Connection} {p : Connection → Prop} {m : Message} {cs ds : List Connection}

lemma Connection.unsent_advance (c : Connection) (n : ℕ) :
    (c.advance n).unsent = c.unsent.drop n := by
  simp [Connection.unsent, Connection.advance, List.drop_drop]

lemma Connection.account_advance (guests : ℕ) {n : ℕ} (hn : n ≤ c.unsent.length) :
    (c.advance n).account guests = c.account guests := by
  have hsent : (c.advance n).sent.length = c.sent.length + n := by
    simp [Connection.advance, List.length_take, hn]
  have hstate : (c.advance n).state = c.state := rfl
  have hnotice : (c.advance n).noticeLength = c.noticeLength := rfl
  rw [Connection.account, Connection.account, Connection.owed, Connection.owed, hsent, hstate,
    hnotice, Connection.unsent_advance, List.length_drop]
  omega

lemma Connection.account_error (guests : ℕ) (c : Connection) :
    Connection.account guests { c with state := .connectionError } ≤ c.account guests := by
  show c.sent.length + (c.unsent.length + 0) ≤ c.sent.length + c.owed guests
  rw [Connection.owed]
  omega

lemma Connection.sent_drained (c : Connection) :
    c.drained.sent.length = c.sent.length + c.unsent.length := by
  simp [Connection.drained]

lemma Connection.account_drained (guests : ℕ) (hst : c.state ≠ .sendingServerHello) :
    c.drained.account guests = c.account guests := by
  have hstate : c.drained.state = c.state := rfl
  have hunsent : c.drained.unsent = [] := rfl
  rw [Connection.account, Connection.account, Connection.owed, Connection.owed, hstate, hunsent,
    if_neg hst, if_neg hst, Connection.sent_drained]
  rfl

lemma Connection.account_joined (guests : ℕ) (hst : c.state = .sendingServerHello) :
    c.joined.account guests + guests * c.noticeLength = c.account guests := by
  have hsent : c.joined.sent.length = c.sent.length + c.unsent.length := c.sent_drained
  have hunsent : c.joined.unsent = [] := rfl
  have hstate : c.joined.state ≠ .sendingServerHello := by
    show ConnectionState.active ≠ .sendingServerHello
    decide
  rw [Connection.account, Connection.account, Connection.owed, Connection.owed, hsent, hunsent,
    if_pos hst, if_neg hstate]
  simp only [List.length_nil]
  omega

lemma Told.account (guests : ℕ) (h : Told p m c d) :
    d.account guests ≤ c.account guests + (encodeFrame m).length := by
  cases h with
  | missed => exact Nat.le_add_right _ _
  | queued hp hm =>
    have hunsent : (c.enqueue m).unsent.length ≤ c.unsent.length + (encodeFrame m).length := by
      simp only [Connection.unsent, Connection.enqueue, List.length_drop, List.length_append]
      omega
    have hstate : (c.enqueue m).state = c.state := rfl
    have hsent : (c.enqueue m).sent = c.sent := rfl
    have hnotice : (c.enqueue m).noticeLength = c.noticeLength := rfl
    rw [Connection.account, Connection.account, Connection.owed, Connection.owed, hstate, hsent,
      hnotice]
    omega
  | rejected hp hm => exact le_trans (c.account_error guests) (Nat.le_add_right _ _)

lemma told_total (guests : ℕ) (h : List.Forall₂ (Told p m) cs ds) :
    (ds.map (Connection.account guests)).sum ≤
        (cs.map (Connection.account guests)).sum + cs.length * (encodeFrame m).length ∧
      (ds.map (fun d => d.sent.length)).sum = (cs.map (fun c => c.sent.length)).sum ∧
      ds.map Connection.fd = cs.map Connection.fd := by
  induction h with
  | nil => exact ⟨Nat.zero_le _, rfl, rfl⟩
  | @cons c d cs ds ht _ ih =>
    obtain ⟨hle, hsent, hfds⟩ := ih
    have haccount := ht.account guests
    have hsame : d.sent = c.sent ∧ d.fd = c.fd := by
      cases ht <;> exact ⟨rfl, rfl⟩
    simp only [List.map_cons, List.sum_cons, List.length_cons, Nat.succ_mul, hsent, hfds,
      hsame.1, hsame.2, and_self, and_true]
    omega

end Accounts

/-! ### What the room has written and owes -/

lemma Server.written_add_owed (s : Server) :
    s.written + s.owed = (s.connections.map (Connection.account s.connections.length)).sum := by
  rw [Server.written, Server.owed, ← List.sum_map_add]
  rfl

/-- What one event changes in what a closing room has written and owes. -/
structure ClosingStep (s s' : Server) : Prop where
  closing : s'.serverClosing = s.serverClosing
  fds : s'.connections.map Connection.fd = s.connections.map Connection.fd
  balance : s'.written + s'.owed ≤ s.written + s.owed
  written : s.written ≤ s'.written
  idle : s'.written = s.written → ∀ fd, s'.kernel.mask fd = s.kernel.mask fd

lemma ClosingStep.refl (s : Server) : ClosingStep s s :=
  ⟨rfl, rfl, le_rfl, le_rfl, fun _ _ => rfl⟩

section Books

variable {s s' : Server} {c c' : Connection}

lemma ClosingStep.put (hd : s.Distinct) (hc : c ∈ s.connections) (hpeer : SamePeer c c') (gain : ℕ)
    (hsent : c'.sent.length = c.sent.length + gain)
    (haccount : c'.account s.connections.length ≤ c.account s.connections.length) {k : Kernel}
    (hidle : gain = 0 → ∀ fd, k.mask fd = s.kernel.mask fd) (cache : Option ℕ) :
    ClosingStep s { s.put c' with kernel := k, cachedConnection := cache } ∧
      Server.written { s.put c' with kernel := k, cachedConnection := cache } =
        s.written + gain := by
  have htotal := Keyed.sum_replace hd.addrs hc hpeer.addr
    (Connection.account s.connections.length)
  have hsum := Keyed.sum_replace hd.addrs hc hpeer.addr (fun c => c.sent.length)
  have hlen : (s.put c').connections.length = s.connections.length := List.length_map _
  have hwritten : Server.written { s.put c' with kernel := k, cachedConnection := cache } =
      s.written + gain := by
    show ((Keyed.replace Connection.addr c' s.connections).map (fun c => c.sent.length)).sum =
      (s.connections.map (fun c => c.sent.length)).sum + gain
    omega
  refine ⟨⟨rfl, ?_, ?_, by omega, ?_⟩, hwritten⟩
  · exact Keyed.map_replace hd.addrs hc hpeer.addr Connection.fd hpeer.fd
  · rw [Server.written_add_owed, Server.written_add_owed]
    show ((Keyed.replace Connection.addr c' s.connections).map
      (Connection.account (s.put c').connections.length)).sum ≤ _
    rw [hlen]
    omega
  · intro heq
    exact hidle (by omega)

theorem sendNetworkPackage_closingStep (hd : s.Distinct) (hc : c ∈ s.connections)
    (hstream : c.Stream) (hout : c.outBuffer ≠ []) (replies : List SendReply) :
    ClosingStep s (s.sendNetworkPackage c replies).2 ∧
      s.written + sendCount c.unsent.length replies ≤
        (s.sendNetworkPackage c replies).2.written := by
  have hpos : 0 < c.unsent.length := List.length_pos_iff.mpr (hstream.unsent_ne_nil hout)
  have hle := sendCount_le c.unsent.length replies
  have hcall : ∀ fd, (s.call (.send c.fd)).kernel.mask fd = s.kernel.mask fd :=
    fun fd => Kernel.mask_call _ _ fd
  rw [sendNetworkPackage_eq]
  by_cases hall : sendCount c.unsent.length replies = c.unsent.length
  · rw [if_pos hall, hall]
    by_cases hst : c.state = .sendingServerHello
    · -- the greeting is out, and everybody is told
      rw [if_pos hst]
      rcases hpost : ((s.call (.send c.fd)).put c.joined).announceClientConnected c.joined
        with ⟨ok, t⟩
      obtain ⟨cs, k, rfl, htold⟩ := post_told (e := .connected c.serial c.name) rfl rfl hpost
      obtain ⟨hcost, hsame, hfds⟩ := told_total s.connections.length htold
      have hpeer : SamePeer c c.joined := ⟨rfl, rfl, rfl⟩
      have htotal := Keyed.sum_replace hd.addrs hc hpeer.addr
        (Connection.account s.connections.length)
      have hsum := Keyed.sum_replace hd.addrs hc hpeer.addr (fun c => c.sent.length)
      have hsent : c.joined.sent.length = c.sent.length + c.unsent.length := c.sent_drained
      have hjoined := c.account_joined s.connections.length hst
      have hlen : (Keyed.replace Connection.addr c.joined s.connections).length =
          s.connections.length := List.length_map _
      have hlen' : cs.length = s.connections.length := by
        rw [← htold.length_eq]
        exact hlen
      have hwritten : (cs.map (fun d => d.sent.length)).sum = s.written + c.unsent.length := by
        rw [hsame]
        show ((Keyed.replace Connection.addr c.joined s.connections).map
            (fun d => d.sent.length)).sum =
          (s.connections.map (fun d => d.sent.length)).sum + c.unsent.length
        omega
      refine ⟨⟨rfl, ?_, ?_, ?_, ?_⟩, ?_⟩
      · refine hfds.trans ?_
        exact Keyed.map_replace hd.addrs hc hpeer.addr Connection.fd rfl
      · rw [Server.written_add_owed, Server.written_add_owed]
        show (cs.map (Connection.account cs.length)).sum ≤ _
        rw [hlen']
        have hcost' : (cs.map (Connection.account s.connections.length)).sum ≤
            ((Keyed.replace Connection.addr c.joined s.connections).map
              (Connection.account s.connections.length)).sum +
              (Keyed.replace Connection.addr c.joined s.connections).length * c.noticeLength :=
          hcost
        rw [hlen] at hcost'
        omega
      · show s.written ≤ (cs.map (fun d => d.sent.length)).sum
        omega
      · intro heq
        replace heq : (cs.map (fun d => d.sent.length)).sum = s.written := heq
        omega
      · show s.written + c.unsent.length ≤ (cs.map (fun d => d.sent.length)).sum
        omega
    · -- the output is out, and `EPOLLOUT` is no longer asked for
      rw [if_neg hst]
      rcases hmod : ((s.call (.send c.fd)).put c.drained).fdMod c.fd quietMask with ⟨ok, t⟩
      obtain ⟨k, rfl⟩ := fdMod_kernel hmod
      have hpeer : SamePeer c c.drained := ⟨rfl, rfl, rfl⟩
      obtain ⟨hbooks, hwritten⟩ := ClosingStep.put (k := k) hd hc hpeer _ c.sent_drained
        (c.account_drained s.connections.length hst).le (fun hzero => by omega)
        s.cachedConnection
      exact ⟨hbooks, hwritten.ge⟩
  · rw [if_neg hall]
    have hsent : (c.advance (sendCount c.unsent.length replies)).sent.length =
        c.sent.length + sendCount c.unsent.length replies := by
      simp [Connection.advance, List.length_take, hle]
    have haccount := c.account_advance s.connections.length hle
    by_cases hfail : sendFails c.unsent.length replies = true
    · rw [if_pos hfail]
      have hpeer : SamePeer c { c.advance (sendCount c.unsent.length replies) with
          state := .connectionError } := ⟨rfl, rfl, rfl⟩
      obtain ⟨hbooks, hwritten⟩ := ClosingStep.put (k := (s.call (.send c.fd)).kernel) hd hc hpeer _
        hsent (le_trans (Connection.account_error s.connections.length _) haccount.le)
        (fun _ => hcall) s.cachedConnection
      exact ⟨hbooks, hwritten.ge⟩
    · rw [if_neg hfail]
      have hpeer : SamePeer c (c.advance (sendCount c.unsent.length replies)) := ⟨rfl, rfl, rfl⟩
      obtain ⟨hbooks, hwritten⟩ := ClosingStep.put (k := (s.call (.send c.fd)).kernel) hd hc hpeer _
        hsent haccount.le (fun _ => hcall) s.cachedConnection
      exact ⟨hbooks, hwritten.ge⟩

theorem handleEvent_closingStep (hd : s.Distinct) (hclosing : s.serverClosing = true)
    (hstream : ∀ c ∈ s.connections, c.Stream) (e : EpollEvent) (r : Replies) :
    ClosingStep s (s.handleEvent e r).2 ∧
      ∀ c ∈ s.connections, c.fd = e.fd → c.WantsSend e.events →
        s.written + sendCount c.unsent.length r.sends ≤ (s.handleEvent e r).2.written := by
  have htuned : ∀ (cache : Option ℕ) {t : Server},
      ClosingStep (s.tuned r.ctl cache) t → ClosingStep s t :=
    fun _ _ h => ⟨h.closing, h.fds, h.balance, h.written, h.idle⟩
  rw [handleEvent_closing hd hclosing]
  cases hfind : s.find e.fd with
  | none =>
    refine ⟨htuned _ (ClosingStep.refl _), ?_⟩
    intro c hc hfd
    rw [← hfd, Server.find_of_mem hd hc] at hfind
    cases hfind
  | some c =>
    obtain ⟨hc, -⟩ := Server.find_some hfind
    rw [Server.handleClosing]
    by_cases hw : c.WantsSend e.events
    · rw [if_pos hw]
      obtain ⟨hbooks, hwritten⟩ := sendNetworkPackage_closingStep
        (hd.tuned r.ctl (some c.addr)) hc (hstream c hc) hw.2.1 r.sends
      refine ⟨htuned _ hbooks, ?_⟩
      intro c' hc' hfd _
      rw [← hfd, Server.find_of_mem hd hc', Option.some.injEq] at hfind
      rw [hfind]
      exact hwritten
    · rw [if_neg hw]
      refine ⟨htuned _ (ClosingStep.refl _), ?_⟩
      intro c' hc' hfd hw'
      rw [← hfd, Server.find_of_mem hd hc', Option.some.injEq] at hfind
      rw [hfind] at hw'
      exact absurd hw' hw

end Books

/-! ### Runs of a closing room -/

section Runs

variable {host : Bytes} {l l' : Loop} {i : LoopInput}

theorem serverLoopStep_closingStep (hr : (serverSystem host).Reach System.any l)
    (hclosing : l.server.serverClosing = true) (hstep : serverLoopStep l i = some l') :
    ClosingStep l.server l'.server := by
  cases i with
  | events es =>
    rw [serverLoopStep] at hstep
    split_ifs at hstep
    cases hstep
    exact ClosingStep.refl _
  | waitFailed e =>
    rw [serverLoopStep] at hstep
    split_ifs at hstep
    · cases hstep
      exact ClosingStep.refl _
    · cases hstep
      exact ClosingStep.refl _
  | endOfBatch =>
    rw [serverLoopStep] at hstep
    split_ifs at hstep
    · cases hstep
      exact ClosingStep.refl _
    · cases hstep
      exact ClosingStep.refl _
  | replies r =>
    obtain ⟨e, es, ok, hphase, hev, -⟩ := serverLoopStep_replies hstep
    have hinv := reach_inv hr (Loop.running_of_handling hphase)
    have hbooks := (handleEvent_closingStep hinv.sound.registry.distinct hclosing
      (fun c hc => (hinv.sound.served c hc).stream) e r).1
    rw [hev] at hbooks
    exact hbooks

/-! ### When nothing is owed -/

lemma owed_ne_zero_iff (hr : (serverSystem host).Reach System.any l) (hrun : l.Running) :
    l.server.owed ≠ 0 ↔ ∃ c ∈ l.server.connections, c.outBuffer ≠ [] := by
  have hinv := reach_inv hr hrun
  constructor
  · intro hne
    by_contra hnone
    apply hne
    rw [Server.owed]
    apply List.sum_eq_zero
    intro x hx
    obtain ⟨c, hc, rfl⟩ := List.mem_map.mp hx
    have hout : c.outBuffer = [] := by
      by_contra hout
      exact hnone ⟨c, hc, hout⟩
    have hst : c.state ≠ .sendingServerHello := by
      intro hst
      obtain ⟨-, -, -, -, -, -, hgreeting⟩ := (hinv.sound.served c hc).phase.of_greeting hst
      rw [hout] at hgreeting
      simp [encodeFrame] at hgreeting
    rw [Connection.owed, if_neg hst, Connection.unsent, hout]
    simp
  · rintro ⟨c, hc, hout⟩ hzero
    have hpos := List.length_pos_iff.mpr ((hinv.sound.served c hc).stream.unsent_ne_nil hout)
    have hle : c.owed l.server.connections.length ≤ l.server.owed :=
      List.le_sum_of_mem (List.mem_map_of_mem hc)
    rw [hzero, Connection.owed] at hle
    omega

lemma allConnectionBuffersEmpty_iff (hr : (serverSystem host).Reach System.any l)
    (hrun : l.Running) : l.server.allConnectionBuffersEmpty = true ↔ l.server.owed = 0 := by
  rw [← not_iff_not, ← ne_eq (l.server.owed), owed_ne_zero_iff hr hrun,
    Server.allConnectionBuffersEmpty]
  simp

theorem reach_waits_owing (hr : (serverSystem host).Reach System.any l)
    (hclosing : l.server.serverClosing = true) (hwait : l.phase = .waiting) :
    l.server.owed ≠ 0 := by
  have hwaits : l.server.serverClosing = true → l.phase = .waiting →
      l.server.allConnectionBuffersEmpty = false := by
    refine hr.invariant (I := fun l => l.server.serverClosing = true → l.phase = .waiting →
      l.server.allConnectionBuffersEmpty = false) ?_ ?_
    · rintro l₀ ⟨listenFd, epollFd, -, rfl⟩ hcl
      cases hcl
    · rintro t i u hwaits - ⟨-, hstep⟩ hcl hphase
      cases i with
      | events es =>
        rw [serverLoopStep] at hstep
        split_ifs at hstep
        cases hstep
        cases hphase
      | waitFailed e =>
        rw [serverLoopStep] at hstep
        split_ifs at hstep with hbefore he
        · cases hstep
          exact hwaits hcl hbefore
        · cases hstep
          cases hphase
      | endOfBatch =>
        rw [serverLoopStep] at hstep
        split_ifs at hstep with hbefore hempty
        · cases hstep
          cases hphase
        · cases hstep
          by_contra hne
          exact hempty ⟨hcl, by simpa using hne⟩
      | replies r =>
        obtain ⟨e, es, ok, -, -, hphase'⟩ := serverLoopStep_replies hstep
        rw [hphase'] at hphase
        cases ok <;> cases hphase
  have hrun : l.Running := by
    rw [Loop.Running, hwait]
    decide
  intro hzero
  have hempty := (allConnectionBuffersEmpty_iff hr hrun).mpr hzero
  rw [hwaits hclosing hwait] at hempty
  cases hempty

/-! ### The run ends -/

/-- The loop waits for room in the socket of a connection. -/
def Server.Pending (s : Server) (fd : Fd) : Prop :=
  fd ∈ s.connections.map Connection.fd ∧
    ∃ events, s.kernel.mask fd = some events ∧ events.has epollOut

/-- The loop is told that there is room in a socket, and the socket takes some bytes. -/
def Serves (fd : Fd) (l : Loop) : LoopInput → Prop
  | .replies r => (∃ e ∈ l.nextEvent, e.fd = fd ∧ e.events.has epollOut) ∧
    ∃ n rest, r.sends = .count n :: rest ∧ 0 < n
  | _ => False

/-- The steps that are left of a batch. -/
def Phase.remaining : Phase → ℕ
  | .handling es => es.length + 1
  | .waiting | .stopped => 0

/-- What decreases until a closing room stops: what it owes, and when it owes nothing the
events of the last batch. -/
def Loop.rank (l : Loop) : ℕ ×ₗ ℕ :=
  toLex (l.server.owed, if l.server.owed = 0 then l.phase.remaining else 0)

lemma wantsSend_of_pending (hr : (serverSystem host).Reach System.any l) (hrun : l.Running)
    {fd : Fd} (hfd : l.server.Pending fd) {flags : EventMask} (hflags : flags.has epollOut) :
    ∃ c ∈ l.server.connections, c.fd = fd ∧ c.WantsSend flags := by
  obtain ⟨hmem, events, hmask, hout⟩ := hfd
  obtain ⟨c, hc, rfl⟩ := List.mem_map.mp hmem
  obtain ⟨events', hmask', hiff⟩ := reach_masksMatch hr hrun c hc
  rw [hmask, Option.some.injEq] at hmask'
  rw [← hmask'] at hiff
  have hinv := reach_inv hr hrun
  refine ⟨c, hc, rfl, ?_, hiff.mp hout, hflags⟩
  rcases hinv.settled c hc with hst | hst | hst
  · obtain ⟨-, hnil, -⟩ := (hinv.sound.served c hc).phase.of_waiting hst
    exact absurd hnil (hiff.mp hout)
  · exact Or.inl hst
  · exact Or.inr hst

lemma serves_owed (hr : (serverSystem host).Reach System.any l)
    (hclosing : l.server.serverClosing = true) {fd : Fd} (hfd : l.server.Pending fd)
    (hserves : Serves fd l i) (hstep : serverLoopStep l i = some l') :
    l'.server.owed < l.server.owed := by
  cases i with
  | events es => exact hserves.elim
  | waitFailed e => exact hserves.elim
  | endOfBatch => exact hserves.elim
  | replies r =>
    obtain ⟨⟨e', he', hfd', hflags⟩, n, rest, hsends, hn⟩ := hserves
    obtain ⟨e, es, ok, hphase, hev, -⟩ := serverLoopStep_replies hstep
    have hrun := Loop.running_of_handling hphase
    have hnext : l.nextEvent = some e := by rw [Loop.nextEvent, hphase]
    rw [hnext, Option.mem_some_iff] at he'
    subst he'
    have hinv := reach_inv hr hrun
    obtain ⟨c, hc, hcfd, hw⟩ := wantsSend_of_pending hr hrun hfd hflags
    obtain ⟨hbooks, hwritten⟩ := handleEvent_closingStep hinv.sound.registry.distinct hclosing
      (fun c hc => (hinv.sound.served c hc).stream) e r
    have hcount := hwritten c hc (hcfd.trans hfd'.symm) hw
    rw [hev] at hbooks hcount
    have hpos := List.length_pos_iff.mpr
      ((hinv.sound.served c hc).stream.unsent_ne_nil hw.2.1)
    have htaken : 0 < sendCount c.unsent.length r.sends := by
      rw [hsends]
      exact sendCount_pos hn hpos rest
    have hbalance := hbooks.balance
    dsimp only at hcount hbalance
    omega

lemma remaining_lt (hr : (serverSystem host).Reach System.any l)
    (hclosing : l.server.serverClosing = true) (hzero : l.server.owed = 0)
    (hstep : serverLoopStep l i = some l') : l'.phase.remaining < l.phase.remaining := by
  have hnotwaiting : l.phase ≠ .waiting := fun hwait => reach_waits_owing hr hclosing hwait hzero
  cases i with
  | events es =>
    rw [serverLoopStep] at hstep
    split_ifs at hstep with hwait
    exact absurd hwait.1 hnotwaiting
  | waitFailed e =>
    rw [serverLoopStep] at hstep
    split_ifs at hstep with hwait he
    · exact absurd hwait hnotwaiting
    · exact absurd hwait hnotwaiting
  | endOfBatch =>
    rw [serverLoopStep] at hstep
    split_ifs at hstep with hphase hempty
    · cases hstep
      rw [hphase]
      exact Nat.succ_pos _
    · have hrun : l.Running := by
        rw [Loop.Running, hphase]
        simp
      exact absurd ⟨hclosing, (allConnectionBuffersEmpty_iff hr hrun).mpr hzero⟩ hempty
  | replies r =>
    obtain ⟨e, es, ok, hphase, -, hphase'⟩ := serverLoopStep_replies hstep
    rw [hphase, hphase']
    cases ok with
    | true => exact Nat.lt_succ_self _
    | false => exact Nat.succ_pos _

/-- A step of a closing room lowers its rank, or leaves the pending connections as they
are. -/
lemma closing_rank (hr : (serverSystem host).Reach System.any l)
    (hclosing : l.server.serverClosing = true) (hstep : serverLoopStep l i = some l') :
    l'.rank < l.rank ∨ l'.rank = l.rank ∧ l'.server.owed = l.server.owed ∧
      ∀ fd, l.server.Pending fd → l'.server.Pending fd := by
  have hbooks := serverLoopStep_closingStep hr hclosing hstep
  have hbalance := hbooks.balance
  have hwritten := hbooks.written
  rcases Nat.lt_or_ge l'.server.owed l.server.owed with hlt | hge
  · exact Or.inl (Prod.Lex.toLex_lt_toLex.mpr (Or.inl hlt))
  · have howed : l'.server.owed = l.server.owed := by omega
    have hsame : l'.server.written = l.server.written := by omega
    by_cases hzero : l.server.owed = 0
    · left
      rw [Loop.rank, Loop.rank, howed, if_pos hzero, if_pos hzero]
      exact Prod.Lex.toLex_lt_toLex.mpr (Or.inr ⟨rfl, remaining_lt hr hclosing hzero hstep⟩)
    · right
      refine ⟨?_, howed, ?_⟩
      · rw [Loop.rank, Loop.rank, howed, if_neg hzero, if_neg hzero]
      · rintro fd ⟨hmem, hmask⟩
        refine ⟨?_, ?_⟩
        · rw [hbooks.fds]
          exact hmem
        · rw [hbooks.idle hsame fd]
          exact hmask

end Runs

/-- Whatever the guests do, a room that closes writes no more than it owed at the start. -/
theorem closing_output_is_bounded {host : Bytes} {l l' : Loop}
    (hr : (serverSystem host).Reach System.any l)
    (hclosing : l.server.serverClosing = true)
    (hpath : (serverSystem host).Path System.any l l') :
    l'.server.written + l'.server.owed ≤ l.server.written + l.server.owed ∧
      l'.server.connections.map Connection.fd = l.server.connections.map Connection.fd := by
  have hall : l'.server.serverClosing = true ∧
      l'.server.written + l'.server.owed ≤ l.server.written + l.server.owed ∧
      l'.server.connections.map Connection.fd = l.server.connections.map Connection.fd := by
    refine hr.preserves (I := fun t => t.server.serverClosing = true ∧
      t.server.written + t.server.owed ≤ l.server.written + l.server.owed ∧
      t.server.connections.map Connection.fd = l.server.connections.map Connection.fd)
      (fun _ _ h => h) ?_ hpath ⟨hclosing, le_rfl, rfl⟩
    rintro t i u ht ⟨hcl, hle, hfds⟩ - ⟨-, hstep⟩
    have hchange := serverLoopStep_closingStep ht hcl hstep
    exact ⟨hchange.closing.trans hcl, hchange.balance.trans hle, hchange.fds.trans hfds⟩
  exact hall.2

/-- The host quits while a newcomer is being greeted. -/
def quitsDuringGreeting : List LoopInput :=
  guestAndNewcomer ++ [.replies quitLine]

/-- The sockets of the newcomer and of the guest take everything. -/
def closingSince : List LoopInput :=
  [.endOfBatch] ++ drains 6 ++ drains 5 ++ drains 6

theorem closing_output_is_bounded_newcomer : ∃ l l' : Loop,
    l.server.serverClosing = true ∧ l'.phase = .stopped ∧ l'.server.owed = 0 ∧
      l.server.written < l'.server.written ∧
      l'.server.written + l'.server.owed ≤ l.server.written + l.server.owed := by
  obtain ⟨l, l', hl, hclosing, hl', hstopped, howed, hwritten⟩ : ∃ l l',
      runInputs System.any ⟨initialServer (ascii "host") 3 4, .waiting⟩ quitsDuringGreeting =
        some l ∧ l.server.serverClosing = true ∧ runInputs System.any l closingSince = some l' ∧
      l'.phase = .stopped ∧ l'.server.owed = 0 ∧ l.server.written < l'.server.written :=
    ⟨_, _, rfl, rfl, rfl, rfl, by decide +kernel, by decide +kernel⟩
  have hreach : (serverSystem (ascii "host")).Reach System.any l :=
    runInputs_reach (by decide) hl
  exact ⟨l, l', hclosing, hstopped, howed, hwritten,
    (closing_output_is_bounded hreach hclosing (runInputs_path hl')).1⟩

/-- After `/quit` no run goes on for ever in which every socket that the loop waits for takes
some bytes sooner or later. -/
theorem shutdown_terminates {host : Bytes} {l : Loop}
    (hr : (serverSystem host).Reach System.any l) (hclosing : l.server.serverClosing = true) :
    ¬∃ x : (serverSystem host).Execution System.any, x.state 0 = l ∧
      ∀ fd, x.WeaklyFair (fun t => t.server.Pending fd) (Serves fd) := by
  rintro ⟨x, hx, hfair⟩
  have hx₀ : (serverSystem host).Reach System.any (x.state 0) ∧
      (x.state 0).server.serverClosing = true := by
    rw [hx]
    exact ⟨hr, hclosing⟩
  -- no fairness is needed for the steps of a room that owes nothing
  refine x.not_weaklyFair (fun t => (serverSystem host).Reach System.any t ∧
      t.server.serverClosing = true) Loop.rank
    (fun i t => Option.casesOn i (t.server.owed = 0) t.server.Pending)
    (fun i t input => Option.casesOn i True (fun fd => Serves fd t input))
    hx₀ ?_ ?_ ?_ ?_
  · rintro t i u ⟨ht, hcl⟩ - hstep
    refine ⟨⟨ht.snoc trivial hstep, (serverLoopStep_closingStep ht hcl hstep.2).closing.trans hcl⟩,
      ?_⟩
    rcases closing_rank ht hcl hstep.2 with hlt | ⟨hrank, howed, hkept⟩
    · exact Or.inl hlt
    · refine Or.inr ⟨hrank, ?_⟩
      intro j hj
      cases j with
      | none => exact howed.trans hj
      | some fd => exact hkept fd hj
  · rintro t i u ⟨ht, hcl⟩ - hstep
    by_cases hzero : t.server.owed = 0
    · exact ⟨none, hzero⟩
    · have hrun := (serverLoopStep_cases hstep.2).1
      obtain ⟨c, hc, hout⟩ := (owed_ne_zero_iff ht hrun).mp hzero
      obtain ⟨events, hmask, hiff⟩ := reach_masksMatch ht hrun c hc
      exact ⟨some c.fd, List.mem_map_of_mem hc, events, hmask, hiff.mpr hout⟩
  · rintro j t i u ⟨ht, hcl⟩ - hstep hj hdone
    cases j with
    | none =>
      rcases closing_rank ht hcl hstep.2 with hlt | ⟨-, howed, -⟩
      · exact hlt
      · have hzero : t.server.owed = 0 := hj
        rw [Loop.rank, Loop.rank, howed, if_pos hzero, if_pos hzero]
        exact Prod.Lex.toLex_lt_toLex.mpr (Or.inr ⟨rfl, remaining_lt ht hcl hzero hstep.2⟩)
    | some fd =>
      exact Prod.Lex.toLex_lt_toLex.mpr (Or.inl (serves_owed ht hcl hj hdone hstep.2))
  · intro j
    cases j with
    | none => exact x.weaklyFair_of_always (fun _ _ => trivial)
    | some fd => exact hfair fd

theorem shutdown_terminates_newcomer : ∃ l : Loop, l.Running ∧ l.server.owed ≠ 0 ∧
    ¬∃ x : (serverSystem (ascii "host")).Execution System.any, x.state 0 = l ∧
      ∀ fd, x.WeaklyFair (fun t => t.server.Pending fd) (Serves fd) := by
  obtain ⟨l, hl, hclosing, hrun, howed⟩ : ∃ l,
      runInputs System.any ⟨initialServer (ascii "host") 3 4, .waiting⟩ quitsDuringGreeting =
        some l ∧ l.server.serverClosing = true ∧ l.Running ∧ l.server.owed ≠ 0 :=
    ⟨_, rfl, rfl, by decide, by decide +kernel⟩
  exact ⟨l, hrun, howed, shutdown_terminates (runInputs_reach (by decide) hl) hclosing⟩

/-! ### Everything is written -/

/-- The notices about those who are being greeted fit into a frame. -/
def Server.Announceable (s : Server) : Prop :=
  ∀ c ∈ s.connections, c.state = .sendingServerHello →
    protocolPayloadLengthIsLegal (RoomEntry.connected c.serial c.name).line.length

instance (s : Server) : Decidable s.Announceable :=
  inferInstanceAs (Decidable (∀ c ∈ s.connections, _))

section Written

variable {host : Bytes} {s : Server} {l l' : Loop} {i : LoopInput}

lemma Server.Announceable.put (h : s.Announceable) {c' : Connection}
    (hc' : c'.state = .sendingServerHello →
      protocolPayloadLengthIsLegal (RoomEntry.connected c'.serial c'.name).line.length) :
    (s.put c').Announceable := by
  intro d hd hst
  rcases Keyed.mem_replace hd with rfl | ⟨hmem, -⟩
  · exact hc' hst
  · exact h d hmem hst

lemma sendNetworkPackage_announceable (hs : s.Reliable) (h : s.Announceable) {c : Connection}
    (hc : c ∈ s.connections) {replies : List SendReply}
    (hsends : ∀ reply ∈ replies, reply.harmless = true) :
    ∃ s', s.sendNetworkPackage c replies = (true, s') ∧ s'.Announceable := by
  have hcall : (s.call (.send c.fd)).Reliable := hs.call _
  rw [sendNetworkPackage_eq, sendFails_harmless hsends, if_neg Bool.false_ne_true]
  by_cases hall : sendCount c.unsent.length replies = c.unsent.length
  · rw [if_pos hall]
    by_cases hst : c.state = .sendingServerHello
    · rw [if_pos hst]
      have hput : ((s.call (.send c.fd)).put c.joined).Announceable :=
        Server.Announceable.put (s := s.call (.send c.fd)) h (fun hjoined => by cases hjoined)
      have hposts := post_succeedsIff (hcall.put hc c.joined rfl)
        (e := .connected c.serial c.name) (ascii "server")
        (Message.of .chat (ascii "`" ++ c.name ++ ascii "` connected.")) none rfl rfl
      obtain ⟨t, hpost, k, rfl, -⟩ := hposts.exists_iff.mpr (fun _ _ _ => h c hc hst)
      refine ⟨_, hpost, ?_⟩
      intro d hd hdst
      obtain ⟨b, hb, rfl⟩ := mem_enqueueTo hd
      by_cases hh : Hears none b
      · rw [if_pos hh] at hdst
        rw [show (b.enqueue _).state = b.state from rfl, hh.2] at hdst
        cases hdst
      · rw [if_neg hh] at hdst ⊢
        exact hput b hb hdst
    · rw [if_neg hst]
      obtain ⟨k, hmod⟩ := fdMod_succeeds (hcall.put hc c.drained rfl) (hs.registered c hc) quietMask
      refine ⟨_, hmod, ?_⟩
      exact Server.Announceable.put (s := s.call (.send c.fd)) h
        (fun hdrained => absurd hdrained hst)
  · rw [if_neg hall]
    exact ⟨_, rfl, Server.Announceable.put (s := s.call (.send c.fd)) h (fun hst => h c hc hst)⟩

lemma handleEvent_announceable (hd : s.Distinct) (hclosing : s.serverClosing = true)
    (hreg : ∀ c ∈ s.connections, s.kernel.mask c.fd ≠ none) (h : s.Announceable) (e : EpollEvent)
    {r : Replies} (hctl : r.ctl = []) (hsends : ∀ reply ∈ r.sends, reply.harmless = true) :
    ∃ s', s.handleEvent e r = (true, s') ∧ s'.Announceable := by
  rw [handleEvent_closing hd hclosing]
  cases hfind : s.find e.fd with
  | none => exact ⟨_, rfl, h⟩
  | some c =>
    obtain ⟨hc, -⟩ := Server.find_some hfind
    rw [Server.handleClosing]
    split_ifs with hw
    · have hreliable : (s.tuned r.ctl (some c.addr)).Reliable := ⟨hctl, hreg⟩
      exact sendNetworkPackage_announceable hreliable h hc hsends
    · exact ⟨_, rfl, h⟩

lemma serverLoopStep_announceable (hr : (serverSystem host).Reach System.any l)
    (hclosing : l.server.serverClosing = true) (h : l.server.Announceable) (hi : NothingFails l i)
    (hstep : serverLoopStep l i = some l') :
    l'.server.Announceable ∧
      (l'.phase = .stopped → l'.server.allConnectionBuffersEmpty = true) := by
  cases i with
  | events es =>
    rw [serverLoopStep] at hstep
    split_ifs at hstep
    cases hstep
    exact ⟨h, fun hstopped => by cases hstopped⟩
  | waitFailed e =>
    have he : e = .eintr := hi
    rw [serverLoopStep, if_pos he] at hstep
    split_ifs at hstep
    cases hstep
    exact ⟨h, fun hstopped => by cases hstopped⟩
  | endOfBatch =>
    rw [serverLoopStep] at hstep
    split_ifs at hstep with hphase hempty
    · cases hstep
      exact ⟨h, fun _ => hempty.2⟩
    · cases hstep
      exact ⟨h, fun hstopped => by cases hstopped⟩
  | replies r =>
    obtain ⟨e, es, ok, hphase, hev, hphase'⟩ := serverLoopStep_replies hstep
    have hrun := Loop.running_of_handling hphase
    obtain ⟨s', hok, hs'⟩ := handleEvent_announceable (reach_inv hr hrun).sound.registry.distinct
      hclosing (reach_registered hr hrun) h e hi.1 hi.2
    rw [hok] at hev
    injection hev with hok' hs
    rw [hphase', ← hok', ← hs]
    exact ⟨hs', fun hstopped => by cases hstopped⟩

lemma last_batch (es : List EpollEvent) {s : Server}
    (hr : (serverSystem host).Reach System.any ⟨s, .handling es⟩)
    (hclosing : s.serverClosing = true) (hzero : s.owed = 0) :
    ∃ l, (serverSystem host).Path NothingFails ⟨s, .handling es⟩ l ∧ l.phase = .stopped := by
  induction es generalizing s with
  | nil =>
    have hempty := (allConnectionBuffersEmpty_iff hr (by simp [Loop.Running])).mpr hzero
    have hstep : serverLoopStep ⟨s, .handling []⟩ .endOfBatch = some ⟨s, .stopped⟩ := by
      simp [serverLoopStep, hclosing, hempty]
    exact ⟨_, System.Path.single (l := .endOfBatch) trivial ⟨trivial, hstep⟩, rfl⟩
  | cons e es ih =>
    have hinv := reach_inv hr (by simp [Loop.Running])
    obtain ⟨s₁, hev, -⟩ := handleEvent_idle hinv.sound.registry.distinct hclosing
      (fun c hc => (hinv.sound.served c hc).stream) e
    have hstep : serverLoopStep ⟨s, .handling (e :: es)⟩ (.replies {}) =
        some ⟨s₁, .handling es⟩ := by
      simp only [serverLoopStep, hev]
    have hadm : LoopInput.Admissible ⟨s, .handling (e :: es)⟩ (.replies {}) := freshSockets_nil s
    have hbooks := serverLoopStep_closingStep hr hclosing hstep
    have hbalance := hbooks.balance
    have hwritten := hbooks.written
    dsimp only at hbalance hwritten
    obtain ⟨l, hpath, hstopped⟩ := ih (hr.snoc trivial ⟨hadm, hstep⟩)
      (hbooks.closing.trans hclosing) (by omega)
    have hfirst : (serverSystem host).Path NothingFails ⟨s, .handling (e :: es)⟩
        ⟨s₁, .handling es⟩ :=
      System.Path.single (l := .replies {}) ⟨rfl, by simp⟩ ⟨hadm, hstep⟩
    exact ⟨l, hfirst.trans hpath, hstopped⟩

lemma write_some {s : Server} (hr : (serverSystem host).Reach System.any ⟨s, .waiting⟩)
    (hclosing : s.serverClosing = true) :
    ∃ l, (serverSystem host).Path NothingFails ⟨s, .waiting⟩ l ∧ l.server.owed < s.owed ∧
      l.server.serverClosing = true ∧ (l.phase = .stopped ∨ l.phase = .handling []) := by
  have hrun : Loop.Running ⟨s, .waiting⟩ := by simp [Loop.Running]
  obtain ⟨c, hc, hout⟩ := (owed_ne_zero_iff hr hrun).mp (reach_waits_owing hr hclosing rfl)
  obtain ⟨events, hmask, hiff⟩ := reach_masksMatch hr hrun c hc
  have hpending : s.Pending c.fd := ⟨List.mem_map_of_mem hc, events, hmask, hiff.mpr hout⟩
  have hroom : epollOut.has epollOut := by decide
  obtain ⟨e, he⟩ : ∃ e : EpollEvent, e = ⟨c.fd, epollOut⟩ := ⟨_, rfl⟩
  obtain ⟨r, hreplies⟩ : ∃ r : Replies, r = { sends := [.count 1] } := ⟨_, rfl⟩
  have hwait : serverLoopStep ⟨s, .waiting⟩ (.events [e]) = some ⟨s, .handling [e]⟩ := by
    simp [serverLoopStep, maxEpollEvents]
  have hfirst : (serverSystem host).Path NothingFails ⟨s, .waiting⟩ ⟨s, .handling [e]⟩ :=
    System.Path.single (l := .events [e]) trivial ⟨trivial, hwait⟩
  have hr₁ := hr.path (hfirst.mono (fun _ _ _ => trivial))
  obtain ⟨l, hstep, hphase⟩ : ∃ l, serverLoopStep ⟨s, .handling [e]⟩ (.replies r) = some l ∧
      (l.phase = .stopped ∨ l.phase = .handling []) := by
    rcases hev : s.handleEvent e r with ⟨ok, s'⟩
    cases ok with
    | true => exact ⟨⟨s', .handling []⟩, by simp only [serverLoopStep, hev], Or.inr rfl⟩
    | false => exact ⟨⟨s', .stopped⟩, by simp only [serverLoopStep, hev], Or.inl rfl⟩
  have hserves : Serves c.fd ⟨s, .handling [e]⟩ (.replies r) := by
    rw [hreplies]
    exact ⟨⟨e, rfl, by rw [he], by rw [he]; exact hroom⟩, 1, [], rfl, Nat.one_pos⟩
  have hadm : LoopInput.Admissible ⟨s, .handling [e]⟩ (.replies r) := by
    rw [hreplies]
    exact freshSockets_nil s
  have hok : NothingFails ⟨s, .handling [e]⟩ (.replies r) := by
    rw [hreplies]
    exact ⟨rfl, by simp [SendReply.harmless]⟩
  have howed := serves_owed hr₁ hclosing hpending hserves hstep
  have hbooks := serverLoopStep_closingStep hr₁ hclosing hstep
  have hcl := hbooks.closing.trans hclosing
  exact ⟨l, hfirst.snoc hok ⟨hadm, hstep⟩, howed, hcl, hphase⟩

lemma closing_can_stop (hr : (serverSystem host).Reach System.any l) (hrun : l.Running)
    (hclosing : l.server.serverClosing = true) :
    ∃ l', (serverSystem host).Path NothingFails l l' ∧ l'.phase = .stopped := by
  induction hn : l.server.owed using Nat.strong_induction_on generalizing l with
  | h n ih =>
    have hwaiting : ∀ {s : Server}, (serverSystem host).Reach System.any ⟨s, .waiting⟩ →
        s.serverClosing = true → s.owed ≤ n →
        ∃ l', (serverSystem host).Path NothingFails ⟨s, .waiting⟩ l' ∧ l'.phase = .stopped := by
      intro s hs hcl hle
      obtain ⟨l₁, hpath, hlt, hcl₁, hstopped | hphase⟩ := write_some hs hcl
      · exact ⟨l₁, hpath, hstopped⟩
      · have hrun₁ : l₁.Running := by
          rw [Loop.Running, hphase]
          simp
        obtain ⟨l₂, hpath₂, hstopped⟩ := ih _ (lt_of_lt_of_le hlt hle)
          (hs.path (hpath.mono (fun _ _ _ => trivial))) hrun₁ hcl₁ rfl
        exact ⟨l₂, hpath.trans hpath₂, hstopped⟩
    rcases l with ⟨s, phase⟩
    cases phase with
    | waiting => exact hwaiting hr hclosing hn.le
    | handling es =>
      by_cases hzero : s.owed = 0
      · exact last_batch es hr hclosing hzero
      · have hne : s.allConnectionBuffersEmpty = false := by
          by_contra hempty
          exact hzero ((allConnectionBuffersEmpty_iff hr hrun).mp (by simpa using hempty))
        obtain ⟨s₁, hidle, hconns, -, hcl⟩ := idle_path es hr hclosing hne
        have howed : s₁.owed ≤ n := by
          rw [Server.owed, hconns]
          exact hn.le
        obtain ⟨l', hpath, hstopped⟩ :=
          hwaiting (hr.path (hidle.mono (fun _ _ _ => trivial))) hcl howed
        exact ⟨l', hidle.trans hpath, hstopped⟩
    | stopped => exact absurd rfl hrun

end Written

/-- A room that closes while every pending notice fits into a frame, and for which nothing fails,
ends only with everything written that was queued to its guests, and it can always end. -/
theorem shutdown_delivers {host : Bytes} {l : Loop} (hr : (serverSystem host).Reach System.any l)
    (hrun : l.Running) (hclosing : l.server.serverClosing = true)
    (hlegal : l.server.Announceable) :
    (∀ l', (serverSystem host).Path NothingFails l l' → l'.phase = .stopped →
      ∀ c ∈ l'.server.connections, c.outBuffer = [] ∧
        c.sent = frameCodec.encodeAll c.queued) ∧
      ∃ l', (serverSystem host).Path NothingFails l l' ∧ l'.phase = .stopped := by
  refine ⟨?_, closing_can_stop hr hrun hclosing⟩
  intro l' hpath hstopped c hc
  have hall : l'.server.serverClosing = true ∧ l'.server.Announceable ∧
      (l'.phase = .stopped → l'.server.allConnectionBuffersEmpty = true) := by
    refine hr.preserves (I := fun t => t.server.serverClosing = true ∧ t.server.Announceable ∧
      (t.phase = .stopped → t.server.allConnectionBuffersEmpty = true))
      (fun _ _ _ => trivial) ?_ hpath ⟨hclosing, hlegal, fun h => (hrun h).elim⟩
    rintro t i u ht ⟨hcl, hann, -⟩ hi ⟨-, hstep⟩
    exact ⟨(serverLoopStep_closingStep ht hcl hstep).closing.trans hcl,
      serverLoopStep_announceable ht hcl hann hi hstep⟩
  have hr' : (serverSystem host).Reach System.any l' := hr.path (hpath.mono fun _ _ _ => trivial)
  obtain ⟨-, -, hempty⟩ := hall
  have hout : c.outBuffer = [] := by
    have hbuffers := hempty hstopped
    rw [Server.allConnectionBuffersEmpty, List.all_eq_true] at hbuffers
    simpa using hbuffers c hc
  have hsent := (reach_recorded hr' c (Or.inl hc)).stream.sent
  rw [Connection.unsent, hout, List.drop_nil, List.append_nil] at hsent
  exact ⟨hout, hsent⟩

theorem shutdown_delivers_newcomer : ∃ l : Loop,
    (∃ c ∈ l.server.connections, c.state = .sendingServerHello) ∧
      (∀ l', (serverSystem (ascii "host")).Path NothingFails l l' → l'.phase = .stopped →
        ∀ c ∈ l'.server.connections, c.outBuffer = [] ∧
          c.sent = frameCodec.encodeAll c.queued) ∧
      ∃ l', (serverSystem (ascii "host")).Path NothingFails l l' ∧ l'.phase = .stopped := by
  obtain ⟨l, hl, hclosing, hrun, hlegal, hgreeted⟩ : ∃ l,
      runInputs System.any ⟨initialServer (ascii "host") 3 4, .waiting⟩ quitsDuringGreeting =
        some l ∧ l.server.serverClosing = true ∧ l.Running ∧ l.server.Announceable ∧
      ∃ c ∈ l.server.connections, c.state = .sendingServerHello :=
    ⟨_, rfl, rfl, by decide, by decide +kernel, by decide +kernel⟩
  exact ⟨l, hgreeted, shutdown_delivers (runInputs_reach (by decide) hl) hrun hclosing hlegal⟩

end Chatroom
