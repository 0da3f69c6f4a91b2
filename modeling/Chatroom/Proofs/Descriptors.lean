import Chatroom.Library.Handles
import Chatroom.Model.ServerRun
import Chatroom.Proofs.Runs

/-!
# Which descriptors are open

The calls that the server made, read as a log of acts on descriptors, are lawful, and the
descriptors that they leave open are those that the state of the server names. This holds
after every handler, also after one that reports failure.
-/

namespace Chatroom
open Handles Fallible Transition

/-- A call as an act on a descriptor. -/
def SysCall.act : SysCall → Act Fd
  | .create fd | .accept fd => .opens fd
  | .recv fd | .send fd | .ctl _ fd | .shutdown fd => .uses fd
  | .close fd => .closes fd

/-- What was done to descriptors so far. -/
def Kernel.acts (k : Kernel) : List (Act Fd) :=
  k.calls.map SysCall.act

/-- The descriptors that the server names, in the order in which they were opened. -/
def Server.heldFds (s : Server) : List Fd :=
  stdinFileno :: s.listenFd :: s.epollFd :: s.connections.map Connection.fd

/-- The descriptor and the address of a connection object. -/
def Connection.keys (c : Connection) : Fd × ℕ :=
  (c.fd, c.addr)

/-! ### Calls that open and close nothing -/

/-- Only calls on these descriptors were made, none of which opens, closes, registers or
unregisters one. -/
structure Kernel.UsesOnly (fds : List Fd) (k k' : Kernel) : Prop where
  calls : ∃ xs, k'.calls = k.calls ++ xs ∧ ∀ x ∈ xs, ∃ fd ∈ fds, x.act = .uses fd
  registered : ∀ g, k'.mask g = none ↔ k.mask g = none

namespace Kernel.UsesOnly

variable {fds : List Fd}

lemma refl (k : Kernel) : Kernel.UsesOnly fds k k :=
  ⟨⟨[], (List.append_nil _).symm, by simp⟩, fun _ => Iff.rfl⟩

lemma trans {k k' k'' : Kernel} (h : Kernel.UsesOnly fds k k') (h' : Kernel.UsesOnly fds k' k'') :
    Kernel.UsesOnly fds k k'' := by
  obtain ⟨xs, hxs, huses⟩ := h.calls
  obtain ⟨ys, hys, huses'⟩ := h'.calls
  refine ⟨⟨xs ++ ys, ?_, List.forall_mem_append.mpr ⟨huses, huses'⟩⟩,
    fun g => (h'.registered g).trans (h.registered g)⟩
  rw [hys, hxs, List.append_assoc]

lemma mono {fds' : List Fd} {k k' : Kernel} (h : Kernel.UsesOnly fds k k')
    (hsub : ∀ fd ∈ fds, fd ∈ fds') : Kernel.UsesOnly fds' k k' := by
  obtain ⟨xs, hxs, huses⟩ := h.calls
  refine ⟨⟨xs, hxs, ?_⟩, h.registered⟩
  intro x hx
  obtain ⟨fd, hfd, heq⟩ := huses x hx
  exact ⟨fd, hsub fd hfd, heq⟩

lemma call {k : Kernel} {x : SysCall} {fd : Fd} (hx : x.act = .uses fd) (hfd : fd ∈ fds) :
    Kernel.UsesOnly fds k (k.call x) := by
  refine ⟨⟨[x], rfl, ?_⟩, fun _ => Iff.rfl⟩
  intro y hy
  rw [List.mem_singleton.mp hy]
  exact ⟨fd, hfd, hx⟩

lemma mod (k : Kernel) {fd : Fd} (events : EventMask) (hfd : fd ∈ fds) :
    Kernel.UsesOnly fds k (epollFdMod k fd events).2 := by
  refine ⟨⟨[.ctl epollCtlMod fd], epollUpdate_calls k epollCtlMod fd events, ?_⟩,
    epollFdMod_registered k fd events⟩
  intro y hy
  rw [List.mem_singleton.mp hy]
  exact ⟨fd, hfd, rfl⟩

end Kernel.UsesOnly

lemma queueToEach_usesOnly (skip : Connection → Bool) (m : Message) (events : EventMask)
    (cs : List Connection) (k : Kernel) :
    (Server.queueToEach skip m events cs k).2.1.map Connection.keys = cs.map Connection.keys ∧
      Kernel.UsesOnly (cs.map Connection.fd) k (Server.queueToEach skip m events cs k).2.2 := by
  induction cs generalizing k with
  | nil => exact ⟨rfl, Kernel.UsesOnly.refl k⟩
  | cons c cs ih =>
    have htail : ∀ fd ∈ cs.map Connection.fd, fd ∈ (c :: cs).map Connection.fd :=
      fun fd hfd => List.mem_cons_of_mem _ hfd
    have hhead : c.fd ∈ (c :: cs).map Connection.fd := List.mem_cons_self
    have hkeys : (protocolQueueMessage c m).2.keys = c.keys := by
      rw [protocolQueueMessage_eq]
      split_ifs <;> rfl
    rw [Server.queueToEach]
    by_cases hskip : skip c = true
    · rw [if_pos hskip]
      obtain ⟨hmap, huses⟩ := ih k
      exact ⟨congrArg (c.keys :: ·) hmap, huses.mono htail⟩
    · rw [if_neg hskip]
      rcases hq : protocolQueueMessage c m with ⟨ok, c'⟩
      rw [hq] at hkeys
      have hfd : c'.fd = c.fd := congrArg Prod.fst hkeys
      cases ok with
      | false => exact ⟨congrArg (· :: cs.map Connection.keys) hkeys, Kernel.UsesOnly.refl k⟩
      | true =>
        have hmod : Kernel.UsesOnly ((c :: cs).map Connection.fd) k
            (epollFdMod k c'.fd events).2 := Kernel.UsesOnly.mod k events (hfd ▸ hhead)
        rcases hm : epollFdMod k c'.fd events with ⟨ok', k'⟩
        rw [hm] at hmod
        dsimp only
        rw [hm]
        cases ok' with
        | false => exact ⟨congrArg (· :: cs.map Connection.keys) hkeys, hmod⟩
        | true =>
          obtain ⟨hmap, huses⟩ := ih k'
          refine ⟨?_, hmod.trans (huses.mono htail)⟩
          rw [List.map_cons, List.map_cons, hmap]
          exact congrArg (· :: cs.map Connection.keys) hkeys

/-- The same connections are served over the same descriptors. -/
structure Server.SameFds (s t : Server) : Prop where
  listenFd : t.listenFd = s.listenFd
  epollFd : t.epollFd = s.epollFd
  keys : t.connections.map Connection.keys = s.connections.map Connection.keys
  kernel : Kernel.UsesOnly s.heldFds s.kernel t.kernel

lemma map_fd_eq (cs : List Connection) :
    cs.map Connection.fd = (cs.map Connection.keys).map Prod.fst := by
  rw [List.map_map]
  rfl

lemma map_addr_eq (cs : List Connection) :
    cs.map Connection.addr = (cs.map Connection.keys).map Prod.snd := by
  rw [List.map_map]
  rfl

namespace Server.SameFds

variable {s t u : Server}

lemma heldFds (h : s.SameFds t) : t.heldFds = s.heldFds := by
  rw [Server.heldFds, Server.heldFds, h.listenFd, h.epollFd, map_fd_eq, h.keys, ← map_fd_eq]

lemma trans (h : s.SameFds t) (h' : t.SameFds u) : s.SameFds u :=
  ⟨h'.listenFd.trans h.listenFd, h'.epollFd.trans h.epollFd, h'.keys.trans h.keys,
    h.kernel.trans (h.heldFds ▸ h'.kernel)⟩

lemma queueToEach (s : Server) (skip : Connection → Bool) (m : Message) (events : EventMask)
    {t : Server} (hlisten : t.listenFd = s.listenFd) (hepoll : t.epollFd = s.epollFd)
    (hconns : t.connections =
      (Server.queueToEach skip m events s.connections s.kernel).2.1)
    (hkernel : t.kernel = (Server.queueToEach skip m events s.connections s.kernel).2.2) :
    s.SameFds t := by
  obtain ⟨hmap, huses⟩ := queueToEach_usesOnly skip m events s.connections s.kernel
  refine ⟨hlisten, hepoll, ?_, ?_⟩
  · rw [hconns]
    exact hmap
  · rw [hkernel]
    apply huses.mono
    intro fd hfd
    exact List.mem_cons_of_mem _ (List.mem_cons_of_mem _ (List.mem_cons_of_mem _ hfd))

lemma post (s : Server) (e : RoomEntry) (author : Bytes) (notice : Message)
    (sender : Option ℕ) : s.SameFds (s.post e author notice sender).2 :=
  queueToEach s _ _ _ rfl rfl rfl rfl

lemma queueClose (s : Server) : s.SameFds s.queueCloseToAllClients.2 :=
  queueToEach s _ _ _ rfl rfl rfl rfl

lemma tuned (s : Server) (ctl : List (Option Errno)) (cache : Option ℕ) :
    s.SameFds (s.tuned ctl cache) :=
  ⟨rfl, rfl, rfl, ⟨[], (List.append_nil _).symm, by simp⟩, fun _ => Iff.rfl⟩

lemma call (s : Server) {x : SysCall} {fd : Fd} (hx : x.act = .uses fd) (hfd : fd ∈ s.heldFds) :
    s.SameFds (s.call x) :=
  ⟨rfl, rfl, rfl, Kernel.UsesOnly.call hx hfd⟩

lemma fdMod (s : Server) {fd : Fd} (events : EventMask) (hfd : fd ∈ s.heldFds) :
    s.SameFds (s.fdMod fd events).2 :=
  ⟨rfl, rfl, rfl, Kernel.UsesOnly.mod s.kernel events hfd⟩

end Server.SameFds

/-! ### The account -/

lemma Server.mem_heldFds {s : Server} {c : Connection} (hc : c ∈ s.connections) :
    c.fd ∈ s.heldFds := by
  have hmem : c.fd ∈ s.connections.map Connection.fd := List.mem_map.mpr ⟨c, hc, rfl⟩
  exact List.mem_cons_of_mem _ (List.mem_cons_of_mem _ (List.mem_cons_of_mem _ hmem))

/-- The account of the descriptors of a server. -/
structure Server.Descriptors (listenFd : Fd) (s : Server) : Prop where
  listener : s.listenFd = listenFd
  listen : s.listenFd ≠ stdinFileno
  nonneg : ∀ fd ∈ s.heldFds, 0 ≤ fd
  lawful : Lawful [stdinFileno, s.listenFd] s.kernel.acts
  held : heldAfter [stdinFileno, s.listenFd] s.kernel.acts = s.heldFds
  addrs : (s.connections.map Connection.addr).Nodup
  registered : ∀ g, s.kernel.mask g ≠ none ↔
    g = s.listenFd ∨ g = stdinFileno ∨ g ∈ s.connections.map Connection.fd
  opened : ∀ fd, .opens fd ∈ s.kernel.acts → fd ≠ stdinFileno ∧ fd ≠ s.listenFd
  epollOpened : s.kernel.acts.count (.opens s.epollFd) = 1
  created : ∀ fd, .create fd ∈ s.kernel.calls → fd = s.epollFd

namespace Server.Descriptors

variable {listenFd : Fd} {s : Server} (h : s.Descriptors listenFd)

include h

lemma nodup : s.heldFds.Nodup := by
  have hn : [stdinFileno, s.listenFd].Nodup := by
    simpa using h.listen.symm
  rw [← h.held]
  exact h.lawful.nodup hn

lemma fds : (s.connections.map Connection.fd).Nodup :=
  ((h.nodup.of_cons).of_cons).of_cons

lemma client_ne {c : Connection} (hc : c ∈ s.connections) :
    c.fd ≠ stdinFileno ∧ c.fd ≠ s.listenFd ∧ c.fd ≠ s.epollFd := by
  have hmem : c.fd ∈ s.connections.map Connection.fd := List.mem_map.mpr ⟨c, hc, rfl⟩
  have hn := h.nodup
  unfold Server.heldFds at hn
  simp only [List.nodup_cons, List.mem_cons, not_or] at hn
  obtain ⟨⟨-, -, h₁⟩, ⟨-, h₂⟩, h₃, -⟩ := hn
  exact ⟨fun heq => h₁ (heq ▸ hmem), fun heq => h₂ (heq ▸ hmem), fun heq => h₃ (heq ▸ hmem)⟩

lemma sameFds {t : Server} (hs : s.SameFds t) : t.Descriptors listenFd := by
  obtain ⟨xs, hxs, huses⟩ := hs.kernel.calls
  have hafter := h.held
  have hacts : t.kernel.acts = s.kernel.acts ++ xs.map SysCall.act := by
    rw [Kernel.acts, hxs, List.map_append]
    rfl
  have huses' : ∀ a ∈ xs.map SysCall.act, ∃ fd ∈ s.heldFds, a = .uses fd :=
    List.forall_mem_map.mpr huses
  obtain ⟨hlawful, hheld⟩ := lawful_uses huses'
  have hopens : ∀ fd, .opens fd ∉ xs.map SysCall.act := by
    intro fd hmem
    obtain ⟨g, -, heq⟩ := huses' _ hmem
    cases heq
  have haddrs : t.connections.map Connection.addr = s.connections.map Connection.addr := by
    rw [map_addr_eq, hs.keys, ← map_addr_eq]
  have hfds : t.connections.map Connection.fd = s.connections.map Connection.fd := by
    rw [map_fd_eq, hs.keys, ← map_fd_eq]
  constructor
  · exact hs.listenFd.trans h.listener
  · rw [hs.listenFd]
    exact h.listen
  · rw [hs.heldFds]
    exact h.nonneg
  · rw [hs.listenFd, hacts, lawful_append, hafter]
    exact ⟨h.lawful, hlawful⟩
  · rw [hs.listenFd, hacts, heldAfter_append, hafter, hs.heldFds]
    exact hheld
  · rw [haddrs]
    exact h.addrs
  · intro g
    rw [hs.listenFd, hfds, ← h.registered g, ne_eq, ne_eq, hs.kernel.registered g]
  · intro fd hfd
    rw [hacts] at hfd
    rw [hs.listenFd]
    exact h.opened fd ((List.mem_append.mp hfd).resolve_right (hopens fd))
  · rw [hs.epollFd, hacts, List.count_append, h.epollOpened, List.count_eq_zero.mpr (hopens _)]
  · intro fd hfd
    rw [hxs] at hfd
    rw [hs.epollFd]
    rcases List.mem_append.mp hfd with hfd | hfd
    · exact h.created fd hfd
    · exact absurd (List.mem_map_of_mem hfd) (hopens fd)

lemma put {c : Connection} (hc : c.keys ∈ s.connections.map Connection.keys) :
    s.SameFds (s.put c) := by
  obtain ⟨b, hb, hkeys⟩ := List.mem_map.mp hc
  have haddr : c.addr = b.addr := (congrArg Prod.snd hkeys).symm
  exact ⟨rfl, rfl, Keyed.map_replace h.addrs hb haddr _ hkeys.symm, Kernel.UsesOnly.refl _⟩

lemma released {t : Server} {c : Connection} (hc : c ∈ s.connections)
    (hlistenFd : t.listenFd = s.listenFd) (hepollFd : t.epollFd = s.epollFd)
    (hconns : t.connections = Keyed.remove Connection.addr c.addr s.connections)
    (hcalls : t.kernel.calls = s.kernel.calls ++ [.ctl epollCtlDel c.fd, .close c.fd])
    (hmask : ∀ g, t.kernel.mask g = if g = c.fd then none else s.kernel.mask g) :
    t.Descriptors listenFd := by
  have hacts : t.kernel.acts = s.kernel.acts ++ [.uses c.fd, .closes c.fd] := by
    rw [Kernel.acts, hcalls, List.map_append]
    rfl
  have hmem := Server.mem_heldFds hc
  have hfds := Keyed.map_remove_eq_erase h.addrs h.fds hc
  obtain ⟨hstdin, hlisten, hepoll⟩ := h.client_ne hc
  have hheld : t.heldFds = s.heldFds.erase c.fd := by
    rw [Server.heldFds, hlistenFd, hepollFd, hconns, hfds]
    simp [Server.heldFds, hstdin.symm, hlisten.symm, hepoll.symm]
  constructor
  · exact hlistenFd.trans h.listener
  · rw [hlistenFd]
    exact h.listen
  · intro fd hfd
    rw [hheld] at hfd
    exact h.nonneg fd (List.mem_of_mem_erase hfd)
  · rw [hlistenFd, hacts, lawful_append, h.held]
    exact ⟨h.lawful, hmem, hmem, trivial⟩
  · rw [hlistenFd, hacts, heldAfter_append, h.held, hheld]
    rfl
  · rw [hconns]
    exact h.addrs.sublist ((Keyed.remove_sublist c.addr s.connections).map _)
  · intro g
    rw [hlistenFd, hconns, hfds, hmask]
    by_cases hg : g = c.fd
    · rw [if_pos hg, hg]
      simp [hstdin, hlisten, h.fds.not_mem_erase]
    · rw [if_neg hg, h.registered g, List.mem_erase_of_ne hg]
  · intro fd hfd
    rw [hlistenFd]
    rw [hacts] at hfd
    apply h.opened fd
    simpa using hfd
  · rw [hepollFd, hacts, List.count_append, h.epollOpened]
    simp
  · intro fd hfd
    rw [hepollFd]
    rw [hcalls] at hfd
    apply h.created fd
    simpa using hfd

lemma fd_ne {fd : Fd} (hfd : fd ∈ s.heldFds) : fd ≠ -1 := by
  rintro rfl
  exact absurd (h.nonneg (-1) hfd) (by decide)

theorem removeConnection {c : Connection} (hc : c.keys ∈ s.connections.map Connection.keys) :
    (s.removeConnection c).2.Descriptors listenFd := by
  obtain ⟨b, hb, hkeys⟩ := List.mem_map.mp hc
  have hfd : b.fd = c.fd := congrArg Prod.fst hkeys
  have haddr : b.addr = c.addr := congrArg Prod.snd hkeys
  have hne : b.fd ≠ -1 := h.fd_ne (Server.mem_heldFds hb)
  have hremoved : s.removeConnection c = (true, { s with
      connections := Keyed.remove Connection.addr b.addr s.connections
      departed := s.departed ++ [⟨c, s.roomLog.length⟩]
      kernel := (epollFdRemove s.kernel b.fd 0).2.close b.fd }) := by
    unfold Server.removeConnection Server.connectionCleanup
    simp only [hne, ne_eq, not_false_eq_true, if_true, ← hfd, ← haddr]
  rw [hremoved]
  refine h.released hb rfl rfl rfl ?_ ?_
  · rw [Kernel.close, Kernel.call, epollFdRemove, epollUpdate_calls, List.append_assoc]
    rfl
  · intro g
    rw [Kernel.mask_close]
    by_cases hg : g = b.fd
    · rw [if_pos hg, if_pos hg]
    · rw [if_neg hg, if_neg hg, epollFdRemove_mask _ _ _ hg]

end Server.Descriptors

/-! ### Accepting -/

section Accept

variable {listenFd : Fd} {s : Server} (h : s.Descriptors listenFd)

include h

lemma FreshSockets.fd_new {fd : Fd} {addr : ℕ} {replies : List AcceptReply}
    (hfresh : FreshSockets s (.socket fd addr :: replies)) :
    fd ∉ s.heldFds ∧ 0 ≤ fd ∧ s.kernel.mask fd = none := by
  have hmem : (fd, addr) ∈ acceptedSockets (.socket fd addr :: replies) := List.mem_cons_self
  obtain ⟨hstdin, hlisten, hepoll, hothers⟩ := hfresh.notOpen _ hmem
  have hconns : fd ∉ s.connections.map Connection.fd := by
    intro hfd
    obtain ⟨c, hc, heq⟩ := List.mem_map.mp hfd
    exact hothers c hc heq
  refine ⟨?_, hfresh.nonneg _ hmem, ?_⟩
  · simp only [Server.heldFds, List.mem_cons, not_or]
    exact ⟨hstdin, hlisten, hepoll, hconns⟩
  · by_contra hmask
    rcases (h.registered fd).mp hmask with heq | heq | hmem
    · exact hlisten heq
    · exact hstdin heq
    · exact hconns hmem

lemma Server.Descriptors.opened_new {t : Server} {fd : Fd} {acts : List (Act Fd)}
    (hnew : fd ∉ s.heldFds) (hlistenFd : t.listenFd = s.listenFd) (hepollFd : t.epollFd = s.epollFd)
    (hacts : t.kernel.acts = s.kernel.acts ++ acts) (honly : ∀ g, .opens g ∈ acts → g = fd) :
    (∀ g, .opens g ∈ t.kernel.acts → g ≠ stdinFileno ∧ g ≠ t.listenFd) ∧
      t.kernel.acts.count (.opens t.epollFd) = 1 := by
  simp only [Server.heldFds, List.mem_cons, not_or] at hnew
  obtain ⟨hstdin, hlisten, hepoll, -⟩ := hnew
  constructor
  · intro g hg
    rw [hacts] at hg
    rw [hlistenFd]
    rcases List.mem_append.mp hg with hg | hg
    · exact h.opened g hg
    · rw [honly g hg]
      exact ⟨hstdin, hlisten⟩
  · have hnone : acts.count (.opens s.epollFd) = 0 :=
      List.count_eq_zero_of_not_mem (fun hmem => hepoll (honly _ hmem).symm)
    rw [hepollFd, hacts, List.count_append, h.epollOpened, hnone]

lemma Server.Descriptors.accepted {t : Server} {fd : Fd} {addr serial : ℕ}
    (hnew : fd ∉ s.heldFds) (hpos : 0 ≤ fd)
    (haddr : ∀ c ∈ s.connections, c.addr ≠ addr)
    (hlistenFd : t.listenFd = s.listenFd) (hepollFd : t.epollFd = s.epollFd)
    (hconns : t.connections = s.connections ++ [newConnection fd addr serial])
    (hcalls : t.kernel.calls = s.kernel.calls ++ [.accept fd, .ctl epollCtlAdd fd])
    (hmask : ∀ g, t.kernel.mask g = if g = fd then some quietMask else s.kernel.mask g) :
    t.Descriptors listenFd := by
  have hacts : t.kernel.acts = s.kernel.acts ++ [.opens fd, .uses fd] := by
    rw [Kernel.acts, hcalls, List.map_append]
    rfl
  have hheld : t.heldFds = s.heldFds ++ [fd] := by
    rw [Server.heldFds, hlistenFd, hepollFd, hconns, List.map_append]
    rfl
  obtain ⟨hopened, hcount⟩ := h.opened_new hnew hlistenFd hepollFd hacts (by simp)
  constructor
  · exact hlistenFd.trans h.listener
  · rw [hlistenFd]
    exact h.listen
  · rw [hheld]
    exact List.forall_mem_append.mpr ⟨h.nonneg, List.forall_mem_singleton.mpr hpos⟩
  · rw [hlistenFd, hacts, lawful_append, h.held]
    exact ⟨h.lawful, hnew, List.mem_append_right _ List.mem_cons_self, trivial⟩
  · rw [hlistenFd, hacts, heldAfter_append, h.held, hheld]
    rfl
  · rw [hconns]
    exact Keyed.nodup_append_singleton h.addrs haddr
  · intro g
    have hmem : g ∈ t.connections.map Connection.fd ↔
        g ∈ s.connections.map Connection.fd ∨ g = fd := by
      rw [hconns, List.map_append, List.mem_append, List.map_singleton, List.mem_singleton]
      rfl
    rw [hlistenFd, hmem, hmask]
    by_cases hg : g = fd
    · simp [hg]
    · rw [if_neg hg, h.registered g]
      simp [hg]
  · exact hopened
  · exact hcount
  · intro g hg
    rw [hepollFd]
    rw [hcalls] at hg
    apply h.created g
    simpa using hg

lemma Server.Descriptors.rejected {t : Server} {fd : Fd} (hnew : fd ∉ s.heldFds)
    (hlistenFd : t.listenFd = s.listenFd) (hepollFd : t.epollFd = s.epollFd)
    (hconns : t.connections = s.connections)
    (hcalls : t.kernel.calls = s.kernel.calls ++ [.accept fd, .ctl epollCtlAdd fd, .close fd])
    (hmask : ∀ g, t.kernel.mask g = s.kernel.mask g) : t.Descriptors listenFd := by
  have hacts : t.kernel.acts = s.kernel.acts ++ [.opens fd, .uses fd, .closes fd] := by
    rw [Kernel.acts, hcalls, List.map_append]
    rfl
  have hheld : t.heldFds = s.heldFds := by
    rw [Server.heldFds, hlistenFd, hepollFd, hconns, Server.heldFds]
  have hmem : fd ∈ s.heldFds ++ [fd] := List.mem_append_right _ List.mem_cons_self
  obtain ⟨hopened, hcount⟩ := h.opened_new hnew hlistenFd hepollFd hacts (by simp)
  constructor
  · exact hlistenFd.trans h.listener
  · rw [hlistenFd]
    exact h.listen
  · rw [hheld]
    exact h.nonneg
  · rw [hlistenFd, hacts, lawful_append, h.held]
    exact ⟨h.lawful, hnew, hmem, hmem, trivial⟩
  · rw [hlistenFd, hacts, heldAfter_append, h.held, hheld]
    have herase : (s.heldFds ++ [fd]).erase fd = s.heldFds := by
      rw [List.erase_append_right _ hnew, List.erase_cons_head, List.append_nil]
    exact herase
  · rw [hconns]
    exact h.addrs
  · intro g
    rw [hlistenFd, hconns, hmask]
    exact h.registered g
  · exact hopened
  · exact hcount
  · intro g hg
    rw [hepollFd]
    rw [hcalls] at hg
    apply h.created g
    simpa using hg

end Accept

/-! ### The handlers -/

section Handlers

variable {listenFd : Fd} {s : Server} (h : s.Descriptors listenFd)

include h

lemma SameFds.removeConnection {t : Server} (hs : s.SameFds t) {c : Connection}
    (hc : c.keys ∈ s.connections.map Connection.keys) :
    (t.removeConnection c).2.Descriptors listenFd :=
  (h.sameFds hs).removeConnection (hs.keys ▸ hc)

lemma SameFds.put {t : Server} (hs : s.SameFds t) {c : Connection}
    (hc : c.keys ∈ s.connections.map Connection.keys) : s.SameFds (t.put c) :=
  hs.trans ((h.sameFds hs).put (hs.keys ▸ hc))

lemma leave_descriptors {c : Connection} (hc : c.keys ∈ s.connections.map Connection.keys) :
    (andThen ((s.put c).announceClientDisconnected c)
      (fun t => t.removeConnection c)).2.Descriptors listenFd := by
  have hs : s.SameFds ((s.put c).announceClientDisconnected c).2 :=
    (h.put hc).trans (Server.SameFds.post _ _ _ _ _)
  exact andThen_left (h.sameFds hs) (fun _ => SameFds.removeConnection h hs hc)

theorem readMessages_descriptors {c : Connection}
    (hc : c.keys ∈ s.connections.map Connection.keys)
    (hst : c.state = .active ∨ c.state = .closed) : (s.readMessages c).2.Descriptors listenFd := by
  induction hn : c.inBuffer.length using Nat.strong_induction_on generalizing s c with
  | h n ih =>
    cases hp : parseFrame c.inBuffer with
    | illegal =>
      rw [readMessages_illegal s hp]
      exact h.removeConnection hc
    | incomplete =>
      rw [readMessages_incomplete s hp hst]
      split_ifs
      · exact leave_descriptors h hc
      · exact h.sameFds (h.put hc)
    | frame m rest =>
      have hcut : (c.cut m rest).keys ∈ s.connections.map Connection.keys := hc
      rw [readMessages_frame s hp hst]
      split_ifs
      · exact h.removeConnection hc
      · exact leave_descriptors h hcut
      · exact h.removeConnection hc
      · have hs : s.SameFds ((s.put (c.cut m rest)).post (.chat c.serial c.name m.payload) c.name m
            (some c.addr)).2 :=
          (h.put hcut).trans (Server.SameFds.post _ _ _ _ _)
        refine andThen_left (h.sameFds hs) (fun _ => ?_)
        have hlt : (c.cut m rest).inBuffer.length < n := by
          rw [← hn]
          exact frameCodec.rest_length_lt hp
        exact ih _ hlt (h.sameFds hs) (hs.keys ▸ hcut) hst rfl

theorem handleReadStdinEvent_descriptors (line : Option Bytes) :
    (s.handleReadStdinEvent line).2.Descriptors listenFd := by
  cases line with
  | none => exact h
  | some line =>
    rw [handleReadStdinEvent_eq]
    split_ifs
    · exact h
    · have hclosing : s.SameFds { s with serverClosing := true } :=
        ⟨rfl, rfl, rfl, Kernel.UsesOnly.refl _⟩
      have hann : s.SameFds ({ s with serverClosing := true } : Server).announceRoomClosing.2 :=
        hclosing.trans (Server.SameFds.post _ .closing (ascii "server")
          (Message.of .chat (ascii "room is closing.")) none)
      apply andThen_left (h.sameFds hann)
      intro _
      have hclose := hann.trans (Server.SameFds.queueClose _)
      exact andThen_left (h.sameFds hclose) (fun _ => h.sameFds hclose)
    · exact h.sameFds (Server.SameFds.post _ _ _ _ _)
    · exact h.sameFds ⟨rfl, rfl, rfl, Kernel.UsesOnly.refl _⟩

theorem handleAccept_descriptors {replies : List AcceptReply} (hfresh : FreshSockets s replies) :
    (s.handleAcceptClientConnectionEvent replies).2.Descriptors listenFd := by
  induction replies generalizing s with
  | nil => exact h
  | cons reply replies ih =>
    cases reply with
    | error e =>
      rw [Server.handleAcceptClientConnectionEvent]
      split_ifs <;> exact h
    | socket fd addr =>
      obtain ⟨hnew, hpos, hunregistered⟩ := FreshSockets.fd_new h hfresh
      have hlive := hfresh.notLive (fd, addr) List.mem_cons_self
      have hcalls : (epollRegister (s.call (.accept fd)).kernel fd
          (epollIn ||| epollRdhup)).2.calls =
          s.kernel.calls ++ [.accept fd, .ctl epollCtlAdd fd] := by
        rw [epollRegister, epollFdAdd, epollUpdate_calls, Server.call, Kernel.call,
          List.append_assoc]
        rfl
      rcases hreg : epollRegister (s.call (.accept fd)).kernel fd (epollIn ||| epollRdhup)
        with ⟨ok, k⟩
      rw [hreg] at hcalls
      cases ok with
      | true =>
        have hmask := epollFdAdd_true hreg
        rw [handleAccept_accepts hreg]
        exact ih (h.accepted hnew hpos hlive rfl rfl rfl hcalls hmask) (accept_effect hfresh hreg).2
      | false =>
        have hne : fd ≠ -1 := by
          rintro rfl
          exact absurd hpos (by decide)
        rw [handleAccept_refuses hreg, if_pos hne]
        refine h.rejected hnew rfl rfl rfl ?_ ?_
        · rw [Kernel.close, Kernel.call, hcalls, List.append_assoc]
          rfl
        · intro g
          have hkept : k.mask g = s.kernel.mask g := by
            unfold Kernel.mask
            rw [epollUpdate_false hreg]
            rfl
          rw [Kernel.mask_close, hkept]
          split_ifs with hg
          · rw [hg, hunregistered]
          · rfl

variable {c : Connection} (hc : c ∈ s.connections)

include hc

theorem receiveClientHello_descriptors (hst : c.state = .waitingForClientHello)
    (replies : List RecvReply) : (s.receiveClientHello c replies).2.Descriptors listenFd := by
  have hkeys : c.keys ∈ s.connections.map Connection.keys := List.mem_map_of_mem hc
  have hcall : s.SameFds (s.call (.recv c.fd)) :=
    Server.SameFds.call s rfl (Server.mem_heldFds hc)
  have hremove : ∀ d : Connection, d.keys = c.keys →
      ((s.call (.recv c.fd)).removeConnection d).2.Descriptors listenFd :=
    fun d hd => SameFds.removeConnection h hcall (hd ▸ hkeys)
  have hput : ∀ d : Connection, d.keys = c.keys → s.SameFds ((s.call (.recv c.fd)).put d) :=
    fun d hd => SameFds.put h hcall (hd ▸ hkeys)
  rw [receiveClientHello_eq s hst]
  by_cases hfail : recvEnd replies = .failed
  · rw [if_pos hfail]
    exact hremove _ rfl
  · rw [if_neg hfail]
    cases hp : parseFrame (c.inBuffer ++ recvData replies) with
    | illegal => exact hremove _ rfl
    | incomplete =>
      dsimp only
      split_ifs
      · exact hremove _ rfl
      · exact h.sameFds (hput _ rfl)
    | frame m rest =>
      dsimp only
      split_ifs
      · exact hremove _ rfl
      · exact hremove _ rfl
      · have hs := hput ((c.absorb (recvData replies)).greeted s.name m rest) rfl
        refine h.sameFds (hs.trans (Server.SameFds.fdMod _ _ ?_))
        rw [hs.heldFds]
        exact Server.mem_heldFds hc
      · exact h.sameFds (hput _ rfl)

theorem sendNetworkPackage_descriptors (replies : List SendReply) :
    (s.sendNetworkPackage c replies).2.Descriptors listenFd := by
  have hkeys : c.keys ∈ s.connections.map Connection.keys := List.mem_map_of_mem hc
  have hput : ∀ d : Connection, d.keys = c.keys → s.SameFds ((s.call (.send c.fd)).put d) :=
    fun d hd => SameFds.put h (Server.SameFds.call s rfl (Server.mem_heldFds hc)) (hd ▸ hkeys)
  rw [sendNetworkPackage_eq]
  split_ifs
  · exact h.sameFds ((hput c.joined rfl).trans (Server.SameFds.post _ _ _ _ _))
  · have hs := hput c.drained rfl
    refine h.sameFds (hs.trans (Server.SameFds.fdMod _ _ ?_))
    rw [hs.heldFds]
    exact Server.mem_heldFds hc
  · exact h.sameFds (hput _ rfl)
  · exact h.sameFds (hput _ rfl)

theorem readNetworkPackage_descriptors (hst : c.state = .active) (replies : List RecvReply) :
    (s.readNetworkPackage c replies).2.Descriptors listenFd := by
  have hkeys : c.keys ∈ s.connections.map Connection.keys := List.mem_map_of_mem hc
  have hcall : s.SameFds (s.call (.recv c.fd)) :=
    Server.SameFds.call s rfl (Server.mem_heldFds hc)
  rw [readNetworkPackage_eq]
  by_cases hfail : recvEnd replies = .failed
  · rw [if_pos hfail]
    exact SameFds.removeConnection h hcall hkeys
  · rw [if_neg hfail]
    have hs : s.SameFds ((s.call (.recv c.fd)).put (c.ingested replies)) :=
      SameFds.put h hcall hkeys
    refine readMessages_descriptors (h.sameFds hs) (hs.keys ▸ hkeys) ?_
    unfold Connection.ingested
    cases hend : recvEnd replies with
    | wouldBlock => exact Or.inl hst
    | eof => exact Or.inr rfl
    | failed => exact absurd hend hfail

omit hc in
/-- Whatever happens while an event is handled, the account is right afterwards. -/
theorem handleEvent_descriptors (hd : s.Distinct) {e : EpollEvent} {r : Replies}
    (hfresh : FreshSockets s r.accepts) : (s.handleEvent e r).2.Descriptors listenFd := by
  have htuned : ∀ cache, (s.tuned r.ctl cache).Descriptors listenFd :=
    fun cache => h.sameFds (Server.SameFds.tuned s r.ctl cache)
  refine handleEvent_cases (Q := fun result => result.2.Descriptors listenFd) hd e r htuned
    ?_ ?_ ?_ ?_ ?_
  · exact fun cache => handleAccept_descriptors (htuned cache) (hfresh.tuned r.ctl cache)
  · intro c hc _ _ hwants
    exact receiveClientHello_descriptors (htuned _) hc hwants.1 r.recvs
  · intro c hc _ _
    exact sendNetworkPackage_descriptors (htuned _) hc r.sends
  · intro c hc _ _ _ hwants
    exact readNetworkPackage_descriptors (htuned _) hc hwants.1 r.recvs
  · exact fun cache => handleReadStdinEvent_descriptors (htuned cache) r.line

end Handlers

end Chatroom
