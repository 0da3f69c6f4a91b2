import Chatroom.Proofs.Handshake

/-!
# Runs of the event loop

What one handled event does, and from it what holds in every state that the running
loop reaches.
-/

namespace Chatroom
open Fallible Relation Transition

/-! ### Connections across a handler -/

/-- The frames that a listener was queued. -/
def Connection.enqueueAll (c : Connection) (ms : List Message) : Connection :=
  { c with outBuffer := c.outBuffer ++ frameCodec.encodeAll ms, queued := c.queued ++ ms }

lemma Connection.enqueueAll_nil (c : Connection) : c.enqueueAll [] = c := by
  simp [Connection.enqueueAll]

lemma Connection.enqueueAll_enqueue (c : Connection) (ms : List Message) (m : Message) :
    (c.enqueueAll ms).enqueue m = c.enqueueAll (ms ++ [m]) := by
  simp [Connection.enqueueAll, Connection.enqueue, frameCodec]

theorem Listens.eq_enqueueAll {c d : Connection} (h : Listens c d) :
    ∃ ms, d = c.enqueueAll ms ∧ (∀ m ∈ ms, FromRoom m) ∧
      (ms ≠ [] → c.state = .active) := by
  induction h with
  | refl => exact ⟨[], c.enqueueAll_nil.symm, by simp, fun h => absurd rfl h⟩
  | tail _ hlast ih =>
    obtain ⟨ms, rfl, htypes, hactive⟩ := ih
    have hsnoc := c.enqueueAll_enqueue ms
    have htype : ∀ m : Message, FromRoom m → ∀ n ∈ ms ++ [m], FromRoom n := by
      intro m hm
      exact List.forall_mem_append.mpr ⟨htypes, List.forall_mem_singleton.mpr hm⟩
    cases hlast with
    | line e hst hlegal =>
      exact ⟨ms ++ [e.message], hsnoc e.message, htype e.message (Or.inl rfl), fun _ => hst⟩
    | dismiss hst =>
      exact ⟨ms ++ [Message.of .closeCon []], hsnoc _, htype _ (Or.inr rfl), fun _ => hst⟩

/-- What a listener keeps. -/
structure Frame (c d : Connection) : Prop where
  state : d.state = c.state
  inBuffer : d.inBuffer = c.inBuffer
  bytesWritten : d.bytesWritten = c.bytesWritten
  name : d.name = c.name
  received : d.received = c.received
  sent : d.sent = c.sent
  parsed : d.parsed = c.parsed

lemma Listens.frame {c d : Connection} (h : Listens c d) : Frame c d := by
  obtain ⟨ms, rfl, -, -⟩ := h.eq_enqueueAll
  exact ⟨rfl, rfl, rfl, rfl, rfl, rfl, rfl⟩

lemma Listens.eq_of_not_active {c d : Connection} (h : Listens c d) (hst : c.state ≠ .active) :
    d = c := by
  obtain ⟨ms, rfl, -, hactive⟩ := h.eq_enqueueAll
  have hnil : ms = [] := by
    by_contra hne
    exact hst (hactive hne)
  simp [hnil, Connection.enqueueAll]

theorem Effects.origin {who : Option ℕ} {s t : Server} (hs : s.Registry) (h : Effects who s t)
    {d : Connection} (hdm : d ∈ t.connections) :
    (∃ fd addr serial, s.accepted ≤ serial ∧ EvolvesTo s.name (newConnection fd addr serial) d ∧
        (who ≠ some serial → Listens (newConnection fd addr serial) d)) ∨
      ∃ c ∈ s.connections, EvolvesTo s.name c d ∧ (who ≠ some c.serial → Listens c d) := by
  have hboth : (t.Registry ∧ t.name = s.name ∧ s.accepted ≤ t.accepted) ∧ ∀ d ∈ t.connections,
      (∃ fd addr serial, s.accepted ≤ serial ∧ EvolvesTo s.name (newConnection fd addr serial) d ∧
        (who ≠ some serial → Listens (newConnection fd addr serial) d)) ∨
      ∃ c ∈ s.connections, EvolvesTo s.name c d ∧ (who ≠ some c.serial → Listens c d) := by
    clear hdm
    induction h with
    | refl =>
      exact ⟨⟨hs, rfl, Nat.le_refl _⟩,
        fun c hc => Or.inr ⟨c, hc, ReflTransGen.refl, fun _ => ReflTransGen.refl⟩⟩
    | tail _ hlast ih =>
      obtain ⟨⟨ht, hname, hacc⟩, ih⟩ := ih
      refine ⟨⟨hlast.registry ht, hlast.frame.1.trans hname, hacc.trans hlast.accepted_le⟩, ?_⟩
      intro d hdm
      rcases hlast.origin ht.distinct hdm with ⟨fd, addr, -, rfl, -⟩ | ⟨b, hb, hl, hlist⟩
      · exact Or.inl ⟨fd, addr, _, hacc, ReflTransGen.refl, fun _ => ReflTransGen.refl⟩
      · rw [hname] at hl
        rcases ih b hb with ⟨fd, addr, serial, hserial, hlife, hlisten⟩ | ⟨c, hc, hlife, hlisten⟩
        · refine Or.inl ⟨fd, addr, serial, hserial, hlife.trans hl, ?_⟩
          intro hwho
          refine (hlisten hwho).trans (hlist ?_)
          rw [hlife.samePeer.serial]
          exact hwho
        · refine Or.inr ⟨c, hc, hlife.trans hl, ?_⟩
          intro hwho
          refine (hlisten hwho).trans (hlist ?_)
          rw [hlife.samePeer.serial]
          exact hwho
  exact hboth.2 d hdm

lemma Effects.others {who : Option ℕ} {s t : Server} (hs : s.Registry) (h : Effects who s t)
    {d : Connection} (hdm : d ∈ t.connections) (hwho : who ≠ some d.serial) :
    (∃ fd addr serial, d = newConnection fd addr serial) ∨
      ∃ c ∈ s.connections, SamePeer c d ∧ Listens c d := by
  rcases h.origin hs hdm with ⟨fd, addr, serial, -, hl, hlisten⟩ | ⟨c, hc, hl, hlisten⟩
  · have hserial : d.serial = serial := hl.samePeer.serial
    have hlisten := hlisten (hserial ▸ hwho)
    exact Or.inl ⟨fd, addr, serial, hlisten.eq_of_not_active (by simp [newConnection])⟩
  · have hserial : d.serial = c.serial := hl.samePeer.serial
    exact Or.inr ⟨c, hc, hl.samePeer, hlisten (hserial ▸ hwho)⟩

/-! ### One handled event -/

/-- What an event did to a server that goes on: nobody acted, or the connection under
the descriptor of the event did, in the handler for its state. -/
inductive Handled (s : Server) (e : EpollEvent) (r : Replies) (s' : Server) : Prop
  | nobody (heff : Effects none s s')
  | hello {c : Connection} (hopen : s.serverClosing = false) (hc : c ∈ s.connections)
      (hfd : c.fd = e.fd) (hwants : c.WantsHello e.events) (heff : Effects (some c.serial) s s')
      (hleft : ∀ d ∈ s'.connections, d.serial = c.serial →
        d.state = .waitingForClientHello ∨
          d.state = .sendingServerHello ∧ ∃ m, HelloRead c r.recvs m d.inBuffer)
  | send {c : Connection} (hc : c ∈ s.connections) (hfd : c.fd = e.fd)
      (hwants : c.WantsSend e.events)
      (heff : Effects (some c.serial) s s')
      (hleft : ∀ d ∈ s'.connections, d.serial = c.serial →
        d.inBuffer = c.inBuffer ∧ (d.state = c.state ∨ d.state = .active))
  | read {c : Connection} (hopen : s.serverClosing = false) (hc : c ∈ s.connections)
      (hfd : c.fd = e.fd) (hwants : c.WantsRead e.events) (heff : Effects (some c.serial) s s')
      (hleft : ∀ d ∈ s'.connections, d.serial = c.serial →
        d.state = .active ∧ parseFrame d.inBuffer = .incomplete)

lemma Effects.tuned (who : Option ℕ) (s : Server) (ctl : List (Option Errno)) (cache : Option ℕ) :
    Effects who s (s.tuned ctl cache) :=
  Effects.single (Effect.silent _ cache (fun _ => rfl))

lemma freshSockets_nil (s : Server) : FreshSockets s [] :=
  ⟨List.nodup_nil, List.nodup_nil, by simp [acceptedSockets], by simp [acceptedSockets],
    by simp [acceptedSockets]⟩

lemma FreshSockets.tuned {s : Server} {replies : List AcceptReply} (h : FreshSockets s replies)
    (ctl : List (Option Errno)) (cache : Option ℕ) : FreshSockets (s.tuned ctl cache) replies :=
  ⟨h.fds_nodup, h.addrs_nodup, h.nonneg, h.notOpen, h.notLive⟩

theorem handleEvent_true {s s' : Server} (hd : s.Distinct) {e : EpollEvent} {r : Replies}
    (hfresh : FreshSockets s r.accepts) (h : s.handleEvent e r = (true, s')) :
    Handled s e r s' := by
  refine handleEvent_cases (Q := fun result => result = (true, s') → Handled s e r s') hd e r
    ?_ ?_ ?_ ?_ ?_ ?_ h
  · intro cache h
    cases h
    exact Handled.nobody (Effects.tuned none s r.ctl cache)
  · intro cache h
    exact Handled.nobody ((Effects.tuned none s r.ctl cache).trans
      (acceptConnections_true (hfresh.tuned r.ctl cache) h))
  · intro c hc hfd hopen hwants h
    obtain ⟨heff, hleft⟩ := receiveClientHello_true (hd.tuned r.ctl _) hc hwants.1 h
    exact Handled.hello hopen hc hfd hwants ((Effects.tuned _ s r.ctl _).trans heff) hleft
  · intro c hc hfd hwants h
    obtain ⟨heff, hleft⟩ := sendNetworkPackage_true (hd.tuned r.ctl _) hc hwants.1 hwants.2.1 h
    exact Handled.send hc hfd hwants ((Effects.tuned _ s r.ctl _).trans heff) hleft
  · intro c hc hfd hopen _ hwants h
    obtain ⟨heff, hleft⟩ := readNetworkPackage_true (hd.tuned r.ctl _) hc hwants.1 h
    exact Handled.read hopen hc hfd hwants ((Effects.tuned _ s r.ctl _).trans heff) hleft
  · intro cache h
    exact Handled.nobody ((Effects.tuned none s r.ctl cache).trans (readStdin_true h))

section Selected

variable {s : Server} (hreg : s.Registry) {e : EpollEvent} (r : Replies)

include hreg

lemma handleEvent_stdin (hlisten : s.listenFd ≠ stdinFileno) (hopen : s.serverClosing = false)
    (he : e.fd = stdinFileno ∧ e.events.has epollIn) :
    s.handleEvent e r = (s.tuned r.ctl none).handleReadStdinEvent r.line := by
  have hnot : ¬(e.fd = s.listenFd ∧ e.events.has epollIn) := by
    rintro ⟨heq, -⟩
    exact hlisten (heq.symm.trans he.1)
  have hfind : s.find e.fd = none := by
    rw [Server.find, Keyed.lookup_none]
    intro c hc heq
    exact (hreg.client_fd c hc).2.1 (heq.trans he.1)
  rw [handleEvent_open hreg.distinct hopen hnot, hfind, Server.handleOpen, if_pos he]
  rfl

variable {c : Connection} (hc : c ∈ s.connections) (hfd : c.fd = e.fd)

include hc hfd

lemma handleEvent_hello (hopen : s.serverClosing = false) (hwants : c.WantsHello e.events) :
    s.handleEvent e r = (s.tuned r.ctl (some c.addr)).receiveClientHello c r.recvs := by
  have hfind : s.find e.fd = some c := hfd ▸ Server.find_of_mem hreg.distinct hc
  have hnot : ¬(e.fd = s.listenFd ∧ e.events.has epollIn) :=
    fun h => (hreg.client_fd c hc).2.2 (hfd.trans h.1)
  rw [handleEvent_open hreg.distinct hopen hnot, hfind, Server.handleOpen, if_pos hwants]
  rfl

lemma handleEvent_read (hopen : s.serverClosing = false) (hsend : ¬c.WantsSend e.events)
    (hwants : c.WantsRead e.events) :
    s.handleEvent e r = (s.tuned r.ctl (some c.addr)).readNetworkPackage c r.recvs := by
  have hfind : s.find e.fd = some c := hfd ▸ Server.find_of_mem hreg.distinct hc
  have hnot : ¬(e.fd = s.listenFd ∧ e.events.has epollIn) :=
    fun h => (hreg.client_fd c hc).2.2 (hfd.trans h.1)
  have hhello : ¬c.WantsHello e.events := fun h => h.not_wantsRead hwants
  rw [handleEvent_open hreg.distinct hopen hnot, hfind, Server.handleOpen, if_neg hhello,
    if_neg hsend, if_pos hwants]
  rfl

lemma handleEvent_send (hwants : c.WantsSend e.events) :
    s.handleEvent e r = (s.tuned r.ctl (some c.addr)).sendNetworkPackage c r.sends := by
  have hfind : s.find e.fd = some c := hfd ▸ Server.find_of_mem hreg.distinct hc
  by_cases hclosing : s.serverClosing = true
  · rw [handleEvent_closing hreg.distinct hclosing, hfind, Server.handleClosing, if_pos hwants]
    rfl
  · have hopen : s.serverClosing = false := by simpa using hclosing
    have hnot : ¬(e.fd = s.listenFd ∧ e.events.has epollIn) :=
      fun h => (hreg.client_fd c hc).2.2 (hfd.trans h.1)
    have hhello : ¬c.WantsHello e.events := fun h => h.not_wantsSend hwants
    rw [handleEvent_open hreg.distinct hopen hnot, hfind, Server.handleOpen, if_neg hhello,
      if_pos hwants]
    rfl

end Selected

lemma Handled.effects {s s' : Server} {e : EpollEvent} {r : Replies} (h : Handled s e r s') :
    ∃ who, Effects who s s' := by
  cases h with
  | nobody heff => exact ⟨none, heff⟩
  | hello _ _ _ _ heff => exact ⟨_, heff⟩
  | send _ _ _ heff => exact ⟨_, heff⟩
  | read _ _ _ _ heff => exact ⟨_, heff⟩

/-! ### Reachable states -/

/-- Between two events a connection is in one of the three lasting states. -/
def Connection.Settled (c : Connection) : Prop :=
  c.state = .waitingForClientHello ∨ c.state = .sendingServerHello ∨ c.state = .active

theorem Handled.settled {s s' : Server} {e : EpollEvent} {r : Replies} (hs : s.Registry)
    (h : Handled s e r s') (hset : ∀ c ∈ s.connections, c.Settled) :
    ∀ d ∈ s'.connections, d.Settled := by
  -- the connections that do not act
  have hothers : ∀ {who : Option ℕ}, Effects who s s' → ∀ d ∈ s'.connections,
      who ≠ some d.serial → d.Settled := by
    intro who heff d hdm hwho
    rcases heff.others hs hdm hwho with ⟨fd, addr, serial, rfl⟩ | ⟨c, hc, -, hlisten⟩
    · exact Or.inl rfl
    · unfold Connection.Settled
      rw [hlisten.frame.state]
      exact hset c hc
  intro d hdm
  cases h with
  | nobody heff => exact hothers heff d hdm (by simp)
  | @hello c _ _ _ _ heff hleft =>
    by_cases hserial : d.serial = c.serial
    · rcases hleft d hdm hserial with hst | ⟨hst, -⟩
      · exact Or.inl hst
      · exact Or.inr (Or.inl hst)
    · exact hothers heff d hdm (fun h => hserial (Option.some.inj h).symm)
  | @send c _ _ hwants heff hleft =>
    by_cases hserial : d.serial = c.serial
    · rcases (hleft d hdm hserial).2 with hd | hd
      · rw [Connection.Settled, hd]
        exact Or.inr hwants.1
      · exact Or.inr (Or.inr hd)
    · exact hothers heff d hdm (fun h => hserial (Option.some.inj h).symm)
  | @read c _ _ _ _ heff hleft =>
    by_cases hserial : d.serial = c.serial
    · exact Or.inr (Or.inr (hleft d hdm hserial).1)
    · exact hothers heff d hdm (fun h => hserial (Option.some.inj h).symm)

/-- The invariant of the running loop. -/
structure Server.Inv (host : Bytes) (s : Server) : Prop where
  host : s.name = host
  sound : s.Sound
  settled : ∀ c ∈ s.connections, c.Settled

lemma Server.Inv.of_empty {host : Bytes} {s : Server} (hname : s.name = host)
    (hconns : s.connections = []) (hdeparted : s.departed = []) : s.Inv host where
  host := hname
  sound :=
    { registry :=
        { distinct := ⟨by simp [hconns], by simp [hconns], by simp [hconns]⟩
          serial_lt := by simp [hconns]
          departed_lt := by simp [hdeparted]
          departed_nodup := by simp [hdeparted]
          gone := by simp [hconns]
          client_fd := by simp [hconns] }
      served := by simp [hconns]
      recorded := by simp [hdeparted] }
  settled := by simp [hconns]

lemma initialServer_inv (host : Bytes) (listenFd epollFd : Fd) :
    (initialServer host listenFd epollFd).Inv host :=
  Server.Inv.of_empty rfl rfl rfl

lemma Effects.name_eq {who : Option ℕ} {s t : Server} (h : Effects who s t) : t.name = s.name :=
  h.preserves (I := fun u => u.name = s.name) (fun _ _ hs h => h.frame.1.trans hs) rfl

theorem Handled.inv {host : Bytes} {s s' : Server} {e : EpollEvent} {r : Replies}
    (hs : s.Inv host) (h : Handled s e r s') : s'.Inv host := by
  obtain ⟨who, heff⟩ := h.effects
  exact ⟨heff.name_eq.trans hs.host, heff.sound hs.sound,
    h.settled hs.sound.registry hs.settled⟩

lemma Loop.running_of_handling {l : Loop} {es : List EpollEvent} (h : l.phase = .handling es) :
    l.Running := by
  rw [Loop.Running, h]
  exact Phase.noConfusion

lemma serverLoopStep_replies {l l' : Loop} {r : Replies}
    (h : serverLoopStep l (.replies r) = some l') :
    ∃ e es ok, l.phase = .handling (e :: es) ∧ l.server.handleEvent e r = (ok, l'.server) ∧
      l'.phase = if ok then .handling es else .stopped := by
  cases hphase : l.phase with
  | waiting => simp [serverLoopStep, hphase] at h
  | stopped => simp [serverLoopStep, hphase] at h
  | handling es =>
    cases es with
    | nil => simp [serverLoopStep, hphase] at h
    | cons e es =>
      rw [serverLoopStep, hphase] at h
      rcases hev : l.server.handleEvent e r with ⟨ok, s⟩
      cases ok with
      | true =>
        simp only [hev] at h
        cases h
        exact ⟨e, es, true, rfl, hev, rfl⟩
      | false =>
        simp only [hev] at h
        cases h
        exact ⟨e, es, false, rfl, hev, rfl⟩

lemma serverLoopStep_cases {l l' : Loop} {i : LoopInput} (h : serverLoopStep l i = some l') :
    l.Running ∧ (l'.server = l.server ∨ ∃ r e es ok, i = .replies r ∧
      l.phase = .handling (e :: es) ∧ l.server.handleEvent e r = (ok, l'.server) ∧
      l'.phase = if ok then .handling es else .stopped) := by
  unfold Loop.Running
  cases i with
  | events es =>
    rw [serverLoopStep] at h
    split_ifs at h with hw
    cases h
    exact ⟨by simp [hw.1], Or.inl rfl⟩
  | waitFailed err =>
    by_cases hw : l.phase = .waiting
    · rw [serverLoopStep, if_pos hw] at h
      cases h
      exact ⟨by simp [hw], Or.inl rfl⟩
    · rw [serverLoopStep, if_neg hw] at h
      cases h
  | endOfBatch =>
    by_cases hw : l.phase = .handling []
    · rw [serverLoopStep, if_pos hw] at h
      cases h
      exact ⟨by simp [hw], Or.inl rfl⟩
    · rw [serverLoopStep, if_neg hw] at h
      cases h
  | replies r =>
    obtain ⟨e, es, ok, hphase, hev, hphase'⟩ := serverLoopStep_replies h
    exact ⟨by simp [hphase], Or.inr ⟨r, e, es, ok, rfl, hphase, hev, hphase'⟩⟩

lemma serverLoopStep_running {l l' : Loop} {i : LoopInput} (h : serverLoopStep l i = some l')
    (hrun : l'.Running) :
    l.Running ∧ (l'.server = l.server ∨ ∃ r e es, i = .replies r ∧ l.phase = .handling (e :: es) ∧
      l'.phase = .handling es ∧ l.server.handleEvent e r = (true, l'.server)) := by
  obtain ⟨hrunning, heq | ⟨r, e, es, ok, hi, hphase, hev, hphase'⟩⟩ := serverLoopStep_cases h
  · exact ⟨hrunning, Or.inl heq⟩
  · cases ok with
    | true => exact ⟨hrunning, Or.inr ⟨r, e, es, hi, hphase, hphase', hev⟩⟩
    | false => exact absurd hphase' hrun

section Reach

variable {host : Bytes} {P : Loop → LoopInput → Prop}

theorem path_invariant {I : Server → Prop}
    (hstep : ∀ s s' e es r, s.Inv host → I s → P ⟨s, .handling (e :: es)⟩ (.replies r) →
      s.handleEvent e r = (true, s') → Handled s e r s' → I s') {l l' : Loop}
    (hp : (serverSystem host).Path P l l')
    (hl : l.Running → l.server.Inv host ∧ I l.server) (hrun : l'.Running) :
    l'.server.Inv host ∧ I l'.server := by
  have h : l'.Running → l'.server.Inv host ∧ I l'.server := by
    refine System.Path.preserves (I := fun l => l.Running → l.server.Inv host ∧ I l.server)
      ?_ hp hl
    rintro l i l' ih hP ⟨hadm, hl⟩ hrun'
    obtain ⟨hrunning, heq | ⟨r, e, es, rfl, hphase, -, hev⟩⟩ := serverLoopStep_running hl hrun'
    · rw [heq]
      exact ih hrunning
    · obtain ⟨hinv, hI⟩ := ih hrunning
      have hhandled := handleEvent_true hinv.sound.registry.distinct hadm hev
      have hl' : l = ⟨l.server, .handling (e :: es)⟩ := by rw [← hphase]
      rw [hl'] at hP
      exact ⟨hhandled.inv hinv, hstep l.server l'.server e es r hinv hI hP hev hhandled⟩
  exact h hrun

/-- An invariant of the handled events is an invariant of the running loop. -/
theorem reach_invariant {I : Server → Prop}
    (hinit : ∀ listenFd epollFd, listenFd ≠ stdinFileno → I (initialServer host listenFd epollFd))
    (hstep : ∀ s s' e es r, s.Inv host → I s → P ⟨s, .handling (e :: es)⟩ (.replies r) →
      s.handleEvent e r = (true, s') → Handled s e r s' → I s') {l : Loop}
    (hr : (serverSystem host).Reach P l) (hrun : l.Running) : l.server.Inv host ∧ I l.server := by
  obtain ⟨l₀, ⟨listenFd, epollFd, hne, rfl⟩, hp⟩ := hr
  refine path_invariant hstep hp ?_ hrun
  intro _
  exact ⟨initialServer_inv host listenFd epollFd, hinit listenFd epollFd hne⟩

theorem reach_inv {l : Loop} (hr : (serverSystem host).Reach P l) (hrun : l.Running) :
    l.server.Inv host :=
  (reach_invariant (I := fun _ => True) (fun _ _ _ => trivial)
    (fun _ _ _ _ _ _ _ _ _ _ => trivial) hr hrun).1

lemma reach_listenFd {l : Loop} (hr : (serverSystem host).Reach P l) (hrun : l.Running) :
    l.server.listenFd ≠ stdinFileno := by
  refine (reach_invariant (I := fun s => s.listenFd ≠ stdinFileno) ?_ ?_ hr hrun).2
  · exact fun _ _ hne => hne
  · intro s s' e es r hinv hs _ _ hhandled
    obtain ⟨who, heff⟩ := hhandled.effects
    exact heff.preserves (I := fun u => u.listenFd ≠ stdinFileno)
      (fun _ _ hu hstep => by rw [hstep.frame.2]; exact hu) hs

end Reach

/-! ### Runs on given inputs -/

/-- One step on an input that is admissible and meets `P`. -/
def admittedStep (P : Loop → LoopInput → Prop) [∀ l i, Decidable (P l i)] (l : Loop)
    (i : LoopInput) : Option Loop :=
  if i.Admissible l ∧ P l i then serverLoopStep l i else none

lemma admittedStep_some {P : Loop → LoopInput → Prop} [∀ l i, Decidable (P l i)] {l l' : Loop}
    {i : LoopInput} :
    admittedStep P l i = some l' ↔ i.Admissible l ∧ P l i ∧ serverLoopStep l i = some l' := by
  unfold admittedStep
  by_cases hi : i.Admissible l ∧ P l i
  · rw [if_pos hi]
    exact ⟨fun hl => ⟨hi.1, hi.2, hl⟩, fun h => h.2.2⟩
  · rw [if_neg hi]
    constructor
    · intro hl
      cases hl
    · rintro ⟨hadm, hP, -⟩
      exact absurd ⟨hadm, hP⟩ hi

/-- Run the loop on given inputs. -/
def runInputs (P : Loop → LoopInput → Prop) [∀ l i, Decidable (P l i)] :
    Loop → List LoopInput → Option Loop :=
  System.run (admittedStep P)

/-- An event and the answers to the calls of its handler, as a batch of its own. -/
def batch (e : EpollEvent) (r : Replies) : List LoopInput :=
  [.events [e], .replies r, .endOfBatch]

theorem runInputs_path {host : Bytes} {P : Loop → LoopInput → Prop} [∀ l i, Decidable (P l i)]
    {l l' : Loop} {is : List LoopInput} (h : runInputs P l is = some l') :
    (serverSystem host).Path P l l' := by
  refine System.Path.of_run ?_ h
  intro l i l' hstep
  obtain ⟨hadm, hP, hnext⟩ := admittedStep_some.mp hstep
  exact ⟨hP, hadm, hnext⟩

theorem runInputs_reach {host : Bytes} {P : Loop → LoopInput → Prop} [∀ l i, Decidable (P l i)]
    {listenFd epollFd : Fd} (hne : listenFd ≠ stdinFileno) {l' : Loop} {is : List LoopInput}
    (h : runInputs P ⟨initialServer host listenFd epollFd, .waiting⟩ is = some l') :
    (serverSystem host).Reach P l' :=
  ⟨_, ⟨listenFd, epollFd, hne, rfl⟩, runInputs_path h⟩

/-- The read loop for at most `n` frames, which can be evaluated. -/
def Server.readMessagesUpTo : ℕ → Server → Connection → Bool × Server
  | 0, s, _ => (true, s)
  | n + 1, s, c =>
    match parseFrame c.inBuffer with
    | .illegal => s.removeConnection (c.reject (.oversizedPayload (declaredLength c.inBuffer)))
    | .incomplete =>
      if c.state = .closed then
        andThen ((s.put c).announceClientDisconnected c) (fun s => s.removeConnection c)
      else (true, s.put c)
    | .frame m rest =>
      let conn := c.cut m rest
      if m.type = .closeCon then
        if m.payload ≠ [] then s.removeConnection (conn.reject .expectedEmptyCloseCon)
        else
          andThen ((s.put conn).announceClientDisconnected conn)
            (fun s => s.removeConnection conn)
      else if m.type ≠ .chat then s.removeConnection (conn.reject (.expectedChat m.type))
      else andThen ((s.put conn).post (.chat c.serial c.name m.payload) c.name m (some c.addr))
        (fun s => s.readMessagesUpTo n conn)

lemma readMessages_upTo {n : ℕ} (s : Server) {c : Connection} (hn : c.inBuffer.length < n)
    (hst : c.state = .active ∨ c.state = .closed) :
    s.readMessages c = s.readMessagesUpTo n c := by
  induction n generalizing s c with
  | zero => omega
  | succ n ih =>
    rw [Server.readMessagesUpTo]
    cases hp : parseFrame c.inBuffer with
    | illegal => rw [readMessages_illegal s hp]
    | incomplete => rw [readMessages_incomplete s hp hst]
    | frame m rest =>
      have hlt : (c.cut m rest).inBuffer.length < n := by
        have hlen := frameCodec.rest_length_lt hp
        show rest.length < n
        omega
      rw [readMessages_frame s hp hst]
      simp only [ih _ hlt hst]

lemma serverLoopStep_read {l : Loop} (hreg : l.server.Registry) {e : EpollEvent}
    {es : List EpollEvent} (hphase : l.phase = .handling (e :: es))
    (hopen : l.server.serverClosing = false) {c : Connection} (hc : c ∈ l.server.connections)
    (hfd : c.fd = e.fd) (hsend : ¬c.WantsSend e.events) (hwants : c.WantsRead e.events)
    {r : Replies} (hok : recvEnd r.recvs ≠ .failed) {n : ℕ}
    (hn : (c.ingested r.recvs).inBuffer.length < n) {t : Server}
    (ht : (((l.server.tuned r.ctl (some c.addr)).call (.recv c.fd)).put
      (c.ingested r.recvs)).readMessagesUpTo n (c.ingested r.recvs) = (true, t)) :
    serverLoopStep l (.replies r) = some ⟨t, .handling es⟩ := by
  obtain ⟨-, -, -, hstate⟩ := ingest_effect hreg.distinct hc hwants.1 hok
  have hev : l.server.handleEvent e r = (true, t) := by
    rw [handleEvent_read hreg _ hc hfd hopen hsend hwants, readNetworkPackage_eq, if_neg hok]
    rw [readMessages_upTo _ hn hstate]
    exact ht
  rw [serverLoopStep, hphase]
  simp only [hev]

/-- A client connects on descriptor `fd`; its object is placed at address `fd`. -/
def arrives (listenFd : Fd) (fd : ℕ) : List LoopInput :=
  batch ⟨listenFd, epollIn⟩ { accepts := [.socket fd fd] }

/-- Bytes of the client arrive in one piece. -/
def delivers (fd : Fd) (data : Bytes) : List LoopInput :=
  batch ⟨fd, epollIn⟩ { recvs := [.bytes data] }

/-- The socket takes everything that is pending. -/
def drains (fd : Fd) : List LoopInput :=
  batch ⟨fd, epollOut⟩ { sends := [.count 1000] }

/-- The host enters a line. -/
def types (line : Bytes) : List LoopInput :=
  batch ⟨stdinFileno, epollIn⟩ { line := some line }

/-- The bytes of a CLIENT_HELLO. -/
def helloBytes (name : Bytes) : Bytes :=
  encodeFrame (Message.of .clientHello name)

end Chatroom
