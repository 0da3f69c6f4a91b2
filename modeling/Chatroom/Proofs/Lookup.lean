import Chatroom.Proofs.Runs

/-!
# The cached lookup

`get_connection_of` remembers the address of its last hit in a static variable that
`remove_connection` never resets. A history of the table `server->connections` is any
sequence of accepted sockets, removals, writes to live objects and lookups; the address
and the descriptor of a released connection may come back. In every history the cached
lookup answers what a search of the table answers.
-/

namespace Chatroom
open Transition

/-- A call that works on `server->connections`, with the verdicts on its `epoll_ctl`
calls. -/
inductive TableCall
  | accept (fd : Fd) (addr : ℕ) (ctl : List (Option Errno))
  | remove (conn : Connection) (ctl : List (Option Errno))
  | write (conn : Connection)
  | lookup (fd : Fd)

/-- What the callers and the operating system guarantee: an accepted socket shares neither
descriptor nor address with a live connection, and only live objects are removed or
written, under the keys they have. -/
def TableCall.Admissible (s : Server) : TableCall → Prop
  | .accept fd addr _ => ∀ c ∈ s.connections, c.fd ≠ fd ∧ c.addr ≠ addr
  | .remove conn _ => ∃ c ∈ s.connections, SamePeer c conn
  | .write conn => ∃ c ∈ s.connections, SamePeer c conn
  | .lookup _ => True

instance (c d : Connection) : Decidable (SamePeer c d) :=
  decidable_of_iff (d.serial = c.serial ∧ d.addr = c.addr ∧ d.fd = c.fd)
    ⟨fun ⟨h₁, h₂, h₃⟩ => ⟨h₁, h₂, h₃⟩, fun ⟨h₁, h₂, h₃⟩ => ⟨h₁, h₂, h₃⟩⟩

instance TableCall.decidableAdmissible (s : Server) (call : TableCall) :
    Decidable (call.Admissible s) :=
  match call with
  | .accept fd addr _ =>
    inferInstanceAs (Decidable (∀ c ∈ s.connections, c.fd ≠ fd ∧ c.addr ≠ addr))
  | .remove conn _ | .write conn =>
    inferInstanceAs (Decidable (∃ c ∈ s.connections, SamePeer c conn))
  | .lookup _ => inferInstanceAs (Decidable True)

/-- The server after a call. -/
def Server.afterCall (s : Server) : TableCall → Server
  | .accept fd addr ctl =>
    ((s.tuned ctl s.cachedConnection).handleAcceptClientConnectionEvent [.socket fd addr]).2
  | .remove conn ctl => ((s.tuned ctl s.cachedConnection).removeConnection conn).2
  | .write conn => s.put conn
  | .lookup fd => (s.getConnectionOf fd).2

/-- The histories of the table. -/
def tableSystem : System Server TableCall where
  init s := s.connections = [] ∧ s.cachedConnection = none
  step s call s' := call.Admissible s ∧ s' = s.afterCall call

/-- The server after a list of calls, if each is admissible when it is made. -/
def Server.afterCalls : Server → List TableCall → Option Server :=
  System.run (fun s call => if call.Admissible s then some (s.afterCall call) else none)

lemma afterCalls_reach {s t : Server} {calls : List TableCall} (hs : tableSystem.init s)
    (h : s.afterCalls calls = some t) : tableSystem.Reach System.any t := by
  refine ⟨s, hs, System.Path.of_run ?_ h⟩
  intro u call v hstep
  by_cases hadm : call.Admissible u
  · rw [if_pos hadm, Option.some.injEq] at hstep
    exact ⟨trivial, hadm, hstep.symm⟩
  · rw [if_neg hadm] at hstep
    cases hstep

/-- The keys tell the live connections apart, and the next serial number is new. Nothing
is said about the cache. -/
structure Server.KeysApart (s : Server) : Prop where
  distinct : s.Distinct
  serial_lt : ∀ c ∈ s.connections, c.serial < s.accepted

section Calls

variable {s : Server}

lemma Server.KeysApart.accept (h : s.KeysApart) {fd : Fd} {addr : ℕ} (ctl : List (Option Errno))
    (hfresh : ∀ c ∈ s.connections, c.fd ≠ fd ∧ c.addr ≠ addr) :
    (s.afterCall (.accept fd addr ctl)).KeysApart := by
  rw [Server.afterCall]
  rcases hreg : epollRegister ((s.tuned ctl s.cachedConnection).call (.accept fd)).kernel fd
    (epollIn ||| epollRdhup) with ⟨ok, k⟩
  cases ok with
  | false =>
    rw [handleAccept_refuses hreg]
    exact ⟨h.distinct.congr rfl, fun c hc => Nat.lt_succ_of_lt (h.serial_lt c hc)⟩
  | true =>
    rw [handleAccept_accepts hreg]
    have hd := h.distinct
    refine ⟨⟨?_, ?_, ?_⟩, ?_⟩
    · exact Keyed.nodup_append_singleton hd.fds (fun c hc => (hfresh c hc).1)
    · exact Keyed.nodup_append_singleton hd.addrs (fun c hc => (hfresh c hc).2)
    · exact Keyed.nodup_append_singleton hd.serials (fun c hc => Nat.ne_of_lt (h.serial_lt c hc))
    · intro c hc
      rcases List.mem_append.mp hc with hc | hc
      · exact Nat.lt_succ_of_lt (h.serial_lt c hc)
      · rw [List.mem_singleton.mp hc]
        exact Nat.lt_succ_self _

lemma Server.KeysApart.remove (h : s.KeysApart) (conn : Connection) (ctl : List (Option Errno)) :
    (s.afterCall (.remove conn ctl)).KeysApart := by
  rw [Server.afterCall]
  obtain ⟨k, hr, -⟩ := removeConnection_eq (s.tuned ctl s.cachedConnection) conn
  rw [hr]
  refine ⟨h.distinct.remove conn.addr rfl, ?_⟩
  intro c hc
  have hsub : (Keyed.remove Connection.addr conn.addr s.connections).Sublist s.connections :=
    Keyed.remove_sublist conn.addr s.connections
  exact h.serial_lt c (hsub.subset hc)

lemma Server.KeysApart.write (h : s.KeysApart) {c conn : Connection} (hc : c ∈ s.connections)
    (hpeer : SamePeer c conn) : (s.afterCall (.write conn)).KeysApart := by
  rw [Server.afterCall]
  refine ⟨h.distinct.put hc hpeer, ?_⟩
  intro d hd
  rcases Keyed.mem_replace hd with rfl | ⟨hmem, -⟩
  · rw [hpeer.serial]
    exact h.serial_lt c hc
  · exact h.serial_lt d hmem

lemma Server.KeysApart.lookup (h : s.KeysApart) (fd : Fd) :
    (s.afterCall (.lookup fd)).KeysApart := by
  rw [Server.afterCall, Server.getConnectionOf_eq h.distinct]
  exact ⟨h.distinct.congr rfl, h.serial_lt⟩

theorem Server.KeysApart.afterCall (h : s.KeysApart) {call : TableCall} (hadm : call.Admissible s) :
    (s.afterCall call).KeysApart := by
  cases call with
  | accept fd addr ctl => exact h.accept ctl hadm
  | remove conn ctl => exact h.remove conn ctl
  | write conn =>
    obtain ⟨c, hc, hpeer⟩ := hadm
    exact h.write hc hpeer
  | lookup fd => exact h.lookup fd

end Calls

theorem history_keysApart {s : Server} (hr : tableSystem.Reach System.any s) : s.KeysApart := by
  apply hr.invariant
  · intro t ht
    have hnil : t.connections = [] := ht.1
    constructor
    · constructor <;> rw [hnil] <;> exact List.nodup_nil
    · intro c hc
      rw [hnil] at hc
      exact absurd hc List.not_mem_nil
  · intro t call u ht _ hstep
    rw [hstep.2]
    exact ht.afterCall hstep.1

lemma getConnectionOf_iff {s : Server} (hd : s.Distinct) (fd : Fd) (c : Connection) :
    (s.getConnectionOf fd).1 = some c ↔ c ∈ s.connections ∧ c.fd = fd := by
  rw [Server.getConnectionOf_eq hd]
  constructor
  · intro h
    exact Server.find_some h
  · rintro ⟨hc, rfl⟩
    exact Server.find_of_mem hd hc

theorem reach_lookup {host : Bytes} {P : Loop → LoopInput → Prop} {l : Loop}
    (hr : (serverSystem host).Reach P l) (hrun : l.Running) (fd : Fd) (c : Connection) :
    (l.server.getConnectionOf fd).1 = some c ↔ c ∈ l.server.connections ∧ c.fd = fd :=
  getConnectionOf_iff (reach_inv hr hrun).sound.registry.distinct fd c

/-- In every history of accepted sockets, removals, writes and lookups, the cached lookup
returns what a scan of the table returns: the live connection with that descriptor, and
`nullptr` if there is none. -/
theorem cached_lookup_is_a_scan {s : Server} (hr : tableSystem.Reach System.any s) (fd : Fd) :
    (s.getConnectionOf fd).1 = s.connections.find? (fun c => c.fd = fd) ∧
      (∀ c, (s.getConnectionOf fd).1 = some c ↔ c ∈ s.connections ∧ c.fd = fd) ∧
      ((s.getConnectionOf fd).1 = none ↔ ∀ c ∈ s.connections, c.fd ≠ fd) := by
  have hd := (history_keysApart hr).distinct
  refine ⟨?_, getConnectionOf_iff hd fd, ?_⟩
  · rw [Server.getConnectionOf_eq hd]
    rfl
  · rw [Server.getConnectionOf_eq hd]
    exact Keyed.lookup_none

/-- The object at address 100 is cached, released, and replaced by one with another
descriptor; the descriptor goes to an object elsewhere. The cache points at a live object
that is not the one asked for. -/
theorem cached_lookup_is_a_scan_reused : ∃ s c d, tableSystem.Reach System.any s ∧
    s.cachedConnection = some 100 ∧ s.connections = [c, d] ∧
    (c.addr, c.fd, c.serial) = (100, 6, 1) ∧ (d.addr, d.fd, d.serial) = (200, 5, 2) ∧
    (s.getConnectionOf 5).1 = some d ∧ (s.getConnectionOf 6).1 = some c ∧
    (s.getConnectionOf 7).1 = none := by
  obtain ⟨s, c, d, hs, hcache, hcs, hc, hd⟩ : ∃ s c d,
      (initialServer (ascii "host") 3 4).afterCalls
        [.accept 5 100 [], .lookup 5, .remove (newConnection 5 100 0) [], .accept 6 100 [],
          .accept 5 200 []] = some s ∧
      s.cachedConnection = some 100 ∧ s.connections = [c, d] ∧
      (c.addr, c.fd, c.serial) = (100, 6, 1) ∧ (d.addr, d.fd, d.serial) = (200, 5, 2) :=
    ⟨_, _, _, rfl, rfl, rfl, rfl, rfl⟩
  have hr : tableSystem.Reach System.any s := afterCalls_reach ⟨rfl, rfl⟩ hs
  have hcfd : c.fd = 6 := congrArg (fun key => key.2.1) hc
  have hdfd : d.fd = 5 := congrArg (fun key => key.2.1) hd
  refine ⟨s, c, d, hr, hcache, hcs, hc, hd, ?_, ?_, ?_⟩
  · apply ((cached_lookup_is_a_scan hr 5).2.1 d).mpr
    simp [hcs, hdfd]
  · apply ((cached_lookup_is_a_scan hr 6).2.1 c).mpr
    simp [hcs, hcfd]
  · apply (cached_lookup_is_a_scan hr 7).2.2.mpr
    simp [hcs, hcfd, hdfd]

end Chatroom
