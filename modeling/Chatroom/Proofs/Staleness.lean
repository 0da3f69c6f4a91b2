import Chatroom.Proofs.Lifecycle

/-!
# Events of a batch and the connections they were meant for

`epoll_wait` reports descriptors, and a handler looks its connection up by descriptor when
its turn comes. In between other handlers release connections, close descriptors and accept
new ones. Still every event of the batch finds the connection that had its descriptor when
the batch was returned.
-/

namespace Chatroom
open Transition

/-- The steps inside a batch. -/
def WithinBatch (_ : Loop) : LoopInput → Prop
  | .replies _ => True
  | _ => False

instance (l : Loop) (i : LoopInput) : Decidable (WithinBatch l i) :=
  match i with
  | .replies _ => inferInstanceAs (Decidable True)
  | .events _ | .waitFailed _ | .endOfBatch => inferInstanceAs (Decidable False)

/-- A batch as `epoll_wait` returns it: pairwise distinct descriptors, each registered. -/
structure Server.Reports (s : Server) (es : List EpollEvent) : Prop where
  nodup : (es.map EpollEvent.fd).Nodup
  registered : ∀ e ∈ es, s.kernel.mask e.fd ≠ none

/-- Every lookup of a descriptor, whatever is cached, finds `c`, and every handler that is
called for the descriptor operates on `c`. -/
structure Server.Addresses (s : Server) (fd : Fd) (c : Connection) : Prop where
  mem : c ∈ s.connections
  lookup : ∀ ctl cache,
    (s.tuned ctl cache).getConnectionOf fd = (some c, s.tuned ctl (some c.addr))
  hello : ∀ ctl cache replies, (s.tuned ctl cache).handleReceiveClientHelloEvent fd replies =
    (s.tuned ctl (some c.addr)).receiveClientHello c replies
  send : ∀ ctl cache replies, (s.tuned ctl cache).handleSendNetworkPackageEvent fd replies =
    (s.tuned ctl (some c.addr)).sendNetworkPackage c replies
  read : ∀ ctl cache replies, (s.tuned ctl cache).handleReadNetworkPackageEvent fd replies =
    (s.tuned ctl (some c.addr)).readNetworkPackage c replies

/-- No lookup of a descriptor finds a connection, and no handler of a connection is called
for it. -/
structure Server.AddressesNobody (s : Server) (fd : Fd) : Prop where
  lookup : ∀ ctl cache, (s.tuned ctl cache).getConnectionOf fd = (none, s.tuned ctl none)
  hello : ∀ ctl cache flags, ((s.tuned ctl cache).eventIsReceiveClientHello fd flags).1 = false
  send : ∀ ctl cache flags, ((s.tuned ctl cache).eventIsSendNetworkPackage fd flags).1 = false
  read : ∀ ctl cache flags, ((s.tuned ctl cache).eventIsReadNetworkPackage fd flags).1 = false

lemma Server.Addresses.of_mem {s : Server} (hd : s.Distinct) {c : Connection}
    (hc : c ∈ s.connections) : s.Addresses c.fd c := by
  have hlookup : ∀ ctl cache,
      (s.tuned ctl cache).getConnectionOf c.fd = (some c, s.tuned ctl (some c.addr)) := by
    intro ctl cache
    rw [Server.getConnectionOf_tuned hd, Server.find_of_mem hd hc]
    rfl
  refine ⟨hc, hlookup, ?_, ?_, ?_⟩
  · intro ctl cache replies
    rw [Server.handleReceiveClientHelloEvent, hlookup]
  · intro ctl cache replies
    rw [Server.handleSendNetworkPackageEvent, hlookup]
  · intro ctl cache replies
    rw [Server.handleReadNetworkPackageEvent, hlookup]

lemma Server.AddressesNobody.of_forall {s : Server} (hd : s.Distinct) {fd : Fd}
    (hfd : ∀ c ∈ s.connections, c.fd ≠ fd) : s.AddressesNobody fd := by
  have hfind : s.find fd = none := Keyed.lookup_none.mpr hfd
  have hlookup : ∀ ctl cache,
      (s.tuned ctl cache).getConnectionOf fd = (none, s.tuned ctl none) := by
    intro ctl cache
    rw [Server.getConnectionOf_tuned hd, hfind]
    rfl
  refine ⟨hlookup, ?_, ?_, ?_⟩
  · intro ctl cache flags
    rw [Server.eventIsReceiveClientHello, hlookup]
    split_ifs <;> rfl
  · intro ctl cache flags
    rw [Server.eventIsSendNetworkPackage, hlookup]
  · intro ctl cache flags
    rw [Server.eventIsReadNetworkPackage, hlookup]
    split_ifs <;> rfl

lemma Handled.survives {s s' : Server} (hs : s.Registry) {e : EpollEvent} {r : Replies}
    (h : Handled s e r s') {c : Connection} (hc : c ∈ s.connections) (hfd : c.fd ≠ e.fd) :
    ∃ d ∈ s'.connections, SamePeer c d := by
  have hsurvives : ∀ who, Effects who s s' → who ≠ some c.serial →
      ∃ d ∈ s'.connections, SamePeer c d := by
    intro who heff hne
    obtain ⟨d, hd, hl⟩ := heff.survives hs hc hne
    exact ⟨d, hd, EvolvesTo.samePeer (hl.lives : EvolvesTo s.name c d)⟩
  -- the connection that acts has the descriptor of the event
  have hother : ∀ {a : Connection}, a ∈ s.connections → a.fd = e.fd →
      some a.serial ≠ some c.serial := by
    intro a ha hafd heq
    have hac := Keyed.eq_of_key_eq hs.distinct.serials ha hc (Option.some.inj heq)
    exact hfd (hac ▸ hafd)
  cases h with
  | nobody heff => exact hsurvives none heff (by simp)
  | hello _ ha hafd _ heff => exact hsurvives _ heff (hother ha hafd)
  | send ha hafd _ heff => exact hsurvives _ heff (hother ha hafd)
  | read _ ha hafd _ heff => exact hsurvives _ heff (hother ha hafd)

/-- What is kept while a batch that was returned in state `s` is handled: the connections of
`s` with the descriptors of the pending events are still there. -/
structure Pending (s : Server) (es : List EpollEvent) (t : Server) : Prop where
  reports : s.Reports es
  kept : ∀ e ∈ es, ∀ c ∈ s.connections, c.fd = e.fd → ∃ d ∈ t.connections, SamePeer c d

lemma Pending.handle {s t t' : Server} {e : EpollEvent} {es : List EpollEvent}
    (h : Pending s (e :: es) t) (ht : t.Registry) {r : Replies} (hhandled : Handled t e r t') :
    Pending s es t' := by
  have hn := h.reports.nodup
  rw [List.map_cons, List.nodup_cons] at hn
  refine ⟨⟨hn.2, fun e' he' => h.reports.registered e' (List.mem_cons_of_mem e he')⟩, ?_⟩
  intro e' he' c hc hfd
  obtain ⟨d, hd, hpeer⟩ := h.kept e' (List.mem_cons_of_mem e he') c hc hfd
  have hne : d.fd ≠ e.fd := by
    rw [hpeer.fd, hfd]
    intro heq
    exact hn.1 (List.mem_map.mpr ⟨e', he', heq⟩)
  obtain ⟨d', hd', hpeer'⟩ := hhandled.survives ht hd hne
  exact ⟨d', hd', hpeer.trans hpeer'⟩

lemma Pending.path {host : Bytes} {s : Server} {l l' : Loop}
    (hp : (serverSystem host).Path WithinBatch l l')
    (hinv : l.Running → l.server.Inv host)
    (hl : ∀ es, l.phase = .handling es → Pending s es l.server) :
    (l'.Running → l'.server.Inv host) ∧
      ∀ es, l'.phase = .handling es → Pending s es l'.server := by
  refine System.Path.preserves (I := fun l : Loop => (l.Running → l.server.Inv host) ∧
    ∀ es, l.phase = .handling es → Pending s es l.server) ?_ hp ⟨hinv, hl⟩
  rintro l i l' ⟨hinv, hl⟩ hi ⟨hadm, hstep⟩
  cases i with
  | events _ => exact absurd hi id
  | waitFailed _ => exact absurd hi id
  | endOfBatch => exact absurd hi id
  | replies r =>
    obtain ⟨e, es, ok, hphase, hev, hphase'⟩ := serverLoopStep_replies hstep
    have hrun : l.Running := Loop.running_of_handling hphase
    have hreg := (hinv hrun).sound.registry
    cases ok with
    | false =>
      have hstopped : l'.phase = .stopped := hphase'
      refine ⟨fun hrun' => absurd hstopped hrun', ?_⟩
      intro es' hes'
      rw [hstopped] at hes'
      cases hes'
    | true =>
      have hhandled := handleEvent_true hreg.distinct hadm hev
      refine ⟨fun _ => hhandled.inv (hinv hrun), ?_⟩
      intro es' hes'
      have heq : es' = es := by
        rw [if_pos rfl] at hphase'
        rw [hphase'] at hes'
        injection hes' with h
        exact h.symm
      rw [heq]
      exact (hl _ hphase).handle hreg hhandled

/-- Whenever an event of the batch has its turn, it is handled for the connection that was
registered under its descriptor when the batch was returned, or for none if there was none. -/
theorem no_event_is_stale {host : Bytes} {listenFd : Fd} (hpos : 0 ≤ listenFd)
    (hstdin : listenFd ≠ stdinFileno) {l l₁ l' : Loop}
    (hr : (serverRun host listenFd).Reach System.any l) {es : List EpollEvent}
    (hreports : l.server.Reports es) (hbatch : serverLoopStep l (.events es) = some l₁)
    (hp : (serverSystem host).Path WithinBatch l₁ l') {e : EpollEvent} {rest : List EpollEvent}
    (hphase : l'.phase = .handling (e :: rest)) :
    (∀ c ∈ l.server.connections, c.fd = e.fd →
      ∃ d, SamePeer c d ∧ l'.server.Addresses e.fd d) ∧
      ((∀ c ∈ l.server.connections, c.fd ≠ e.fd) → l'.server.AddressesNobody e.fd) := by
  have hrun : l.Running := (serverLoopStep_cases hbatch).1
  have hserver : l₁.server = l.server ∧ l₁.phase = .handling es := by
    rw [serverLoopStep] at hbatch
    split_ifs at hbatch
    cases hbatch
    exact ⟨rfl, rfl⟩
  have hr₁ : (serverRun host listenFd).Reach System.any l₁ :=
    hr.snoc (l := .events es) trivial ⟨trivial, hbatch⟩
  have hr' : (serverRun host listenFd).Reach System.any l' :=
    hr₁.path (System.Path.mono (fun _ _ _ => trivial) hp)
  have hrun' : l'.Running := Loop.running_of_handling hphase
  obtain ⟨hdesc, hinv⟩ := (run_descriptors hpos hstdin hr).resolve_right (fun h => hrun h.1)
  obtain ⟨hdesc', hinv'⟩ := (run_descriptors hpos hstdin hr').resolve_right (fun h => hrun' h.1)
  have hreg := (hinv' hrun').sound.registry
  have hpending : Pending l.server (e :: rest) l'.server := by
    refine (Pending.path hp ?_ ?_).2 (e :: rest) hphase
    · intro _
      rw [hserver.1]
      exact hinv hrun
    · intro es' hes'
      rw [hserver.2] at hes'
      injection hes' with heq
      rw [← heq, hserver.1]
      exact ⟨hreports, fun _ _ c hc _ => ⟨c, hc, SamePeer.refl c⟩⟩
  constructor
  · intro c hc hfd
    obtain ⟨d, hd, hpeer⟩ := hpending.kept e List.mem_cons_self c hc hfd
    have hdfd : d.fd = e.fd := hpeer.fd.trans hfd
    exact ⟨d, hpeer, hdfd ▸ Server.Addresses.of_mem hreg.distinct hd⟩
  · intro hnone
    apply Server.AddressesNobody.of_forall hreg.distinct
    intro d hd hdfd
    obtain ⟨-, hne, hne'⟩ := hreg.client_fd d hd
    -- a registered descriptor that belongs to no connection belongs to the server
    have hregistered := hpending.reports.registered e List.mem_cons_self
    rcases (hdesc.registered e.fd).mp hregistered with heq | heq | hmem
    · rw [hdesc.listener, ← hdesc'.listener] at heq
      exact hne' (hdfd.trans heq)
    · exact hne (hdfd.trans heq)
    · obtain ⟨c, hc, hcfd⟩ := List.mem_map.mp hmem
      exact hnone c hc hcfd

/-- Two clients, and a batch in which the first is removed, a third is accepted with the
descriptor and the address of the first, and then the second has its turn. -/
theorem no_event_is_stale_reused :
    ∃ l l', runInputs System.any ((listeningServer (ascii "host") 3).enterLoop ⟨.created 5, []⟩)
        (batch ⟨3, epollIn⟩ { accepts := [.socket 7 1, .socket 8 2] }) = some l ∧
      runInputs WithinBatch ⟨l.server, .handling [⟨7, epollIn⟩, ⟨3, epollIn⟩, ⟨8, epollIn⟩]⟩
        [.replies { recvs := [.bytes []] }, .replies { accepts := [.socket 7 1] }] = some l' ∧
      l'.server.connections.map (fun c => (c.serial, c.fd)) = [(1, 8), (2, 7)] ∧
      ∃ d, d.serial = 1 ∧ l'.server.Addresses 8 d := by
  obtain ⟨l, l₁, l', c, hl, hreports, hbatch, hl', hphase, hconns, hc, hserial, hfd⟩ :
      ∃ l l₁ l' c,
        runInputs System.any ((listeningServer (ascii "host") 3).enterLoop ⟨.created 5, []⟩)
          (batch ⟨3, epollIn⟩ { accepts := [.socket 7 1, .socket 8 2] }) = some l ∧
        l.server.Reports [⟨7, epollIn⟩, ⟨3, epollIn⟩, ⟨8, epollIn⟩] ∧
        serverLoopStep l (.events [⟨7, epollIn⟩, ⟨3, epollIn⟩, ⟨8, epollIn⟩]) = some l₁ ∧
        runInputs WithinBatch l₁
          [.replies { recvs := [.bytes []] }, .replies { accepts := [.socket 7 1] }] = some l' ∧
        l'.phase = .handling [⟨8, epollIn⟩] ∧
        l'.server.connections.map (fun c => (c.serial, c.fd)) = [(1, 8), (2, 7)] ∧
        c ∈ l.server.connections ∧ c.serial = 1 ∧ c.fd = 8 :=
    ⟨_, _, _, _, rfl, ⟨by decide, by decide⟩, rfl, rfl, rfl, by decide,
      List.mem_cons_of_mem _ List.mem_cons_self, rfl, rfl⟩
  have hreach : (serverRun (ascii "host") 3).Reach System.any l :=
    runInputs_serverRun (by decide) hl
  have hpath : (serverSystem (ascii "host")).Path WithinBatch l₁ l' := runInputs_path hl'
  obtain ⟨d, hpeer, hd⟩ := (no_event_is_stale (by decide) (by decide) hreach hreports hbatch hpath
    hphase).1 c hc hfd
  have hl₁ : l₁ = ⟨l.server, .handling [⟨7, epollIn⟩, ⟨3, epollIn⟩, ⟨8, epollIn⟩]⟩ := by
    cases hl
    cases hbatch
    rfl
  exact ⟨l, l', hl, hl₁ ▸ hl', hconns, d, hpeer.serial.trans hserial, hd⟩

end Chatroom
