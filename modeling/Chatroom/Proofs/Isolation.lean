import Chatroom.Proofs.Aborts
import Chatroom.Proofs.Readiness
import Chatroom.Proofs.Speech

/-!
# Failures of one socket

What a failing `recv`, `send` or `accept` does to the rest of the server. The read paths
remove the connection that failed; the write path and the accept path report the failure
through the boolean that stops the loop.
-/

namespace Chatroom
open Relation Transition

/-! ### The others -/

/-- A connection as it was, with some BROADCAST frames at the end of its output. -/
def GainsBroadcasts (c : Connection) (cs : List Connection) : Prop :=
  ∃ ms, (∀ m ∈ ms, m.type = .broadcast) ∧ c.enqueueAll ms ∈ cs

lemma GainsBroadcasts.of_mem {c : Connection} {cs : List Connection} (h : c ∈ cs) :
    GainsBroadcasts c cs :=
  ⟨[], by simp, by rw [Connection.enqueueAll_nil]; exact h⟩

lemma GainsBroadcasts.of_heard {c : Connection} {cs : List Connection} (h : c ∈ cs)
    (p : Connection → Prop) [DecidablePred p] (e : RoomEntry) :
    GainsBroadcasts c (enqueueTo p e.message cs) := by
  have hmem : (if p c then c.enqueue e.message else c) ∈ enqueueTo p e.message cs :=
    List.mem_map.mpr ⟨c, h, rfl⟩
  by_cases hp : p c
  · rw [if_pos hp] at hmem
    refine ⟨[e.message], ?_, ?_⟩
    · intro m hm
      rw [List.mem_singleton.mp hm]
      rfl
    · have hone := c.enqueueAll_enqueue [] e.message
      rw [Connection.enqueueAll_nil, List.nil_append] at hone
      rw [← hone]
      exact hmem
  · rw [if_neg hp] at hmem
    exact GainsBroadcasts.of_mem hmem

lemma GainsBroadcasts.trans {c : Connection} {cs cs' : List Connection} (h : GainsBroadcasts c cs)
    (hcs : ∀ d ∈ cs, d.serial = c.serial → GainsBroadcasts d cs') : GainsBroadcasts c cs' := by
  obtain ⟨ms, htypes, hmem⟩ := h
  obtain ⟨ns, htypes', hmem'⟩ := hcs _ hmem rfl
  refine ⟨ms ++ ns, ?_, ?_⟩
  · intro m hm
    rcases List.mem_append.mp hm with hm | hm
    · exact htypes m hm
    · exact htypes' m hm
  · have hall : (c.enqueueAll ms).enqueueAll ns = c.enqueueAll (ms ++ ns) := by
      simp [Connection.enqueueAll]
    rw [← hall]
    exact hmem'

theorem Effect.gainsBroadcasts {n : ℕ} {s t : Server} (hd : s.Distinct) (h : Effect (some n) s t)
    {c : Connection} (hc : c ∈ s.connections) (hne : c.serial ≠ n) :
    GainsBroadcasts c t.connections := by
  cases h with
  | silent k cache hk => exact GainsBroadcasts.of_mem hc
  | move k ha hmove hk =>
    exact GainsBroadcasts.of_mem (mem_put_of_ne hd ha hc hmove.samePeer.addr hne)
  | talk k ha htalk hlegal hk =>
    exact GainsBroadcasts.of_heard (mem_put_of_ne hd ha hc htalk.samePeer.addr hne) _ _
  | @leave _ a a' k k' ha hleave hlegal hk hk' =>
    have hpeer := hleave.samePeer
    have hheard := (hd.put ha hpeer).heard (some a.addr) (.disconnected a.serial a.name) k
    obtain ⟨ms, htypes, hmem⟩ := GainsBroadcasts.of_heard (mem_put_of_ne hd ha hc hpeer.addr hne)
      (Hears (some a.addr)) (.disconnected a.serial a.name)
    refine ⟨ms, htypes, (Keyed.mem_remove hheard.addrs).mpr ⟨hmem, ?_⟩⟩
    rw [hpeer.addr]
    exact hd.addr_ne (d := c) ha hc hne
  | drop k ha hdrop hk =>
    refine GainsBroadcasts.of_mem ((Keyed.mem_remove hd.addrs).mpr ⟨hc, ?_⟩)
    rw [hdrop.samePeer.addr]
    exact hd.addr_ne ha hc hne

theorem Effects.gainsBroadcasts {n : ℕ} {s t : Server} (hs : s.Registry) (h : Effects (some n) s t)
    {c : Connection} (hc : c ∈ s.connections) (hne : c.serial ≠ n) :
    GainsBroadcasts c t.connections := by
  have hboth : t.Registry ∧ GainsBroadcasts c t.connections := by
    refine h.preserves (I := fun u => u.Registry ∧ GainsBroadcasts c u.connections) ?_
      ⟨hs, GainsBroadcasts.of_mem hc⟩
    rintro u v ⟨hu, hover⟩ hstep
    refine ⟨hstep.registry hu, hover.trans ?_⟩
    intro d hdm hserial
    exact hstep.gainsBroadcasts hu.distinct hdm (hserial ▸ hne)
  exact hboth.2

/-! ### The connection that failed -/

section Bodies

variable {s : Server} {c : Connection}

/-- A first frame that the hello handler accepts. -/
def Introduces : Framing.Outcome Byte Message → Prop
  | .frame m _ => m.type = .clientHello ∧ m.payload ≠ []
  | _ => False

instance : (outcome : Framing.Outcome Byte Message) → Decidable (Introduces outcome)
  | .frame _ _ => inferInstanceAs (Decidable (_ ∧ _))
  | .incomplete | .illegal => inferInstanceAs (Decidable False)

theorem receiveClientHello_evicts (hs : s.Reliable) (hd : s.Distinct) (hc : c ∈ s.connections)
    (hst : c.state = .waitingForClientHello) {replies : List RecvReply}
    (hend : recvEnd replies ≠ .wouldBlock) :
    (∃ s', s.receiveClientHello c replies = (true, s') ∧ Evicted c s') ↔
      recvEnd replies = .failed ∨ ¬Introduces (parseFrame (c.inBuffer ++ recvData replies)) := by
  have hs' : (s.call (.recv c.fd)).Reliable := hs.call _
  have hd' : (s.call (.recv c.fd)).Distinct := hd.congr rfl
  have hremove : ∀ {c' : Connection}, SamePeer c c' →
      ∃ s', (s.call (.recv c.fd)).removeConnection c' = (true, s') ∧ Evicted c s' :=
    fun hpeer => (remove_succeeds hs' hd' hc hpeer).exists_iff.mpr trivial
  rw [receiveClientHello_eq s hst]
  by_cases hfail : recvEnd replies = .failed
  · rw [if_pos hfail]
    exact iff_of_true (hremove ⟨rfl, rfl, rfl⟩) (Or.inl hfail)
  · have heof : recvEnd replies = .eof := by
      cases h : recvEnd replies with
      | wouldBlock => exact absurd h hend
      | eof => rfl
      | failed => exact absurd h hfail
    rw [if_neg hfail]
    cases hp : parseFrame (c.inBuffer ++ recvData replies) with
    | illegal => exact iff_of_true (hremove ⟨rfl, rfl, rfl⟩) (Or.inr not_false)
    | incomplete =>
      simp only [heof, if_true]
      exact iff_of_true (hremove ⟨rfl, rfl, rfl⟩) (Or.inr not_false)
    | frame m rest =>
      dsimp only
      by_cases htype : m.type = .clientHello
      · by_cases hname : m.payload = []
        · rw [if_neg (not_not.mpr htype), if_pos hname]
          exact iff_of_true (hremove ⟨rfl, rfl, rfl⟩) (Or.inr (fun h => h.2 hname))
        · rw [if_neg (not_not.mpr htype), if_neg hname]
          refine iff_of_false ?_ ?_
          · -- the greeted connection is written back, or the loop stops
            rintro ⟨s', h, hgone⟩
            split_ifs at h with hhost
            · obtain ⟨k, rfl⟩ := fdMod_kernel h
              exact hgone.removed _ (mem_put (s := s.call (.recv c.fd)) hc rfl) rfl
            · cases h
          · rintro (h | h)
            · exact hfail h
            · exact h ⟨htype, hname⟩
      · rw [if_pos htype]
        exact iff_of_true (hremove ⟨rfl, rfl, rfl⟩) (Or.inr (fun h => htype h.1))

lemma sendCount_of_fails {remaining : ℕ} {replies : List SendReply}
    (h : sendFails remaining replies = true) : sendCount remaining replies ≠ remaining := by
  induction replies generalizing remaining with
  | nil => cases h
  | cons reply replies ih =>
    cases reply with
    | error e =>
      rw [sendFails] at h
      split_ifs at h with hzero
      exact fun heq => hzero heq.symm
    | count n =>
      rw [sendFails] at h
      split_ifs at h with hzero hmin
      · have ih := ih h
        rw [sendCount, if_pos hmin]
        omega
      · rw [sendCount, if_neg hmin]
        omega

theorem sendNetworkPackage_fails {replies : List SendReply}
    (h : sendFails c.unsent.length replies = true) :
    (s.sendNetworkPackage c replies).1 = false := by
  rw [sendNetworkPackage_eq, if_neg (sendCount_of_fails h), if_pos h]

theorem acceptConnections_fails {e : Errno} (he : e.retryable = false) {replies : List AcceptReply}
    (rest : List AcceptReply) (hsockets : ∀ x ∈ replies, ∃ fd addr, x = .socket fd addr) :
    (s.handleAcceptClientConnectionEvent (replies ++ .error e :: rest)).1 = false := by
  induction replies generalizing s with
  | nil =>
    rw [List.nil_append, Server.handleAcceptClientConnectionEvent, he]
    rfl
  | cons reply replies ih =>
    obtain ⟨fd, addr, rfl⟩ := hsockets reply List.mem_cons_self
    rw [List.cons_append, Server.handleAcceptClientConnectionEvent]
    dsimp only
    rcases epollRegister (s.call (.accept fd)).kernel fd (epollIn ||| epollRdhup) with ⟨ok, k⟩
    cases ok with
    | false => rfl
    | true => exact ih (fun x hx => hsockets x (List.mem_cons_of_mem _ hx))

end Bodies

/-! ### One failing event -/

/-- The socket that event `e` is about fails while the event is handled; `who` is the
connection behind it, if it is not the listening socket. -/
inductive SocketFailure (s : Server) (e : EpollEvent) (r : Replies) : Option Connection → Prop
  | hello {c : Connection} (hopen : s.serverClosing = false) (hc : c ∈ s.connections)
      (hfd : c.fd = e.fd) (hwants : c.WantsHello e.events) (hend : recvEnd r.recvs ≠ .wouldBlock) :
      SocketFailure s e r (some c)
  | read {c : Connection} (hopen : s.serverClosing = false) (hc : c ∈ s.connections)
      (hfd : c.fd = e.fd) (hsend : ¬c.WantsSend e.events) (hwants : c.WantsRead e.events)
      (hend : recvEnd r.recvs ≠ .wouldBlock) : SocketFailure s e r (some c)
  | send {c : Connection} (hc : c ∈ s.connections) (hfd : c.fd = e.fd)
      (hwants : c.WantsSend e.events) (hend : sendFails c.unsent.length r.sends = true) :
      SocketFailure s e r (some c)
  | accept (hopen : s.serverClosing = false) (hlisten : e.fd = s.listenFd ∧ e.events.has epollIn)
      (sockets rest : List AcceptReply) (hsockets : ∀ x ∈ sockets, ∃ fd addr, x = .socket fd addr)
      (haccepts : r.accepts = sockets ++ .error .econnaborted :: rest) : SocketFailure s e r none

/-- Only the connection that failed is gone. -/
structure Isolated (s : Server) (who : Option Connection) (s' : Server) : Prop where
  evicted : ∀ c ∈ who, Evicted c s'
  others : ∀ d ∈ s.connections, (∀ c ∈ who, d.serial ≠ c.serial) → GainsBroadcasts d s'.connections

/-- The failures that the server survives: a fatal error of `recv`, the end of the stream of
a connection that has not introduced itself, and the end of the stream of an active one that
leaves no line behind which is too long for the others. -/
def Survivable (s : Server) (e : EpollEvent) (r : Replies) : Option Connection → Prop
  | none => False
  | some c => ¬c.WantsSend e.events ∧ (recvEnd r.recvs = .failed ∨
      c.state = .waitingForClientHello ∧ ¬Introduces (parseFrame (c.inBuffer ++ recvData r.recvs)) ∨
      c.state = .active ∧ s.LinesFit (some c.addr)
        (spoken true c.serial c.name (c.inBuffer ++ recvData r.recvs)))

lemma Isolated.of_effects {s s' : Server} (hs : s.Registry) {c : Connection}
    (heff : Effects (some c.serial) s s') (hgone : Evicted c s') : Isolated s (some c) s' where
  evicted := by
    intro d hd
    rw [Option.mem_some_iff] at hd
    exact hd ▸ hgone
  others := fun d hd hne => heff.gainsBroadcasts hs hd (hne c rfl)

/-- In every state of the running loop, while the kernel refuses no `epoll_ctl` call: a
failing socket takes nothing with it but its own connection exactly if the failure is one
that the server survives. -/
theorem failure_is_isolated_iff {host : Bytes} {l : Loop} {e : EpollEvent} {es : List EpollEvent}
    {r : Replies} {who : Option Connection} (hr : (serverSystem host).Reach System.any l)
    (hphase : l.phase = .handling (e :: es)) (hctl : r.ctl = [])
    (hfail : SocketFailure l.server e r who) :
    (∃ s', l.server.handleEvent e r = (true, s') ∧ Isolated l.server who s') ↔
      Survivable l.server e r who := by
  have hrun : l.Running := Loop.running_of_handling hphase
  have hreg := (reach_inv hr hrun).sound.registry
  have hd := hreg.distinct
  have hreliable : ∀ cache, (l.server.tuned r.ctl cache).Reliable :=
    fun _ => ⟨hctl, reach_registered hr hrun⟩
  have htuned : ∀ {c : Connection} {s' : Server},
      Effects (some c.serial) (l.server.tuned r.ctl (some c.addr)) s' →
      Effects (some c.serial) l.server s' := fun heff => (Effects.tuned _ _ _ _).trans heff
  cases hfail with
  | @hello c hopen hc hfd hwants hend =>
    have hiff := receiveClientHello_evicts (hreliable _) (hd.tuned r.ctl (some c.addr)) hc hwants.1
      hend
    have hsend := hwants.not_wantsSend
    rw [handleEvent_hello hreg r hc hfd hopen hwants]
    constructor
    · rintro ⟨s', h, hiso⟩
      have hsurvives := hiff.mp ⟨s', h, hiso.evicted c rfl⟩
      exact ⟨hsend, hsurvives.imp_right (fun h => Or.inl ⟨hwants.1, h⟩)⟩
    · rintro ⟨-, hcases⟩
      have hsurvives : recvEnd r.recvs = .failed ∨
          ¬Introduces (parseFrame (c.inBuffer ++ recvData r.recvs)) := by
        rcases hcases with h | ⟨-, h⟩ | ⟨hst, -⟩
        · exact Or.inl h
        · exact Or.inr h
        · rw [hwants.1] at hst
          cases hst
      obtain ⟨s', h, hgone⟩ := hiff.mpr hsurvives
      have heff := (receiveClientHello_true (hd.tuned r.ctl (some c.addr)) hc hwants.1
        h).1
      exact ⟨s', h, Isolated.of_effects hreg (htuned heff) hgone⟩
  | @read c hopen hc hfd hsend hwants hend =>
    have hiff := (readNetworkPackage_succeedsIff (hreliable (some c.addr))
      (hd.tuned r.ctl (some c.addr)) hc hwants.1 r.recvs).exists_iff
    have hbears : recvEnd r.recvs = .failed ∨ (l.server.tuned r.ctl (some c.addr)).LinesFit
        (some c.addr) (spoken (decide (recvEnd r.recvs = .eof)) c.serial c.name
          (c.inBuffer ++ recvData r.recvs)) ↔
        recvEnd r.recvs = .failed ∨ l.server.LinesFit (some c.addr)
          (spoken true c.serial c.name (c.inBuffer ++ recvData r.recvs)) := by
      cases hcase : recvEnd r.recvs with
      | wouldBlock => exact absurd hcase hend
      | eof => rfl
      | failed => exact iff_of_true (Or.inl rfl) (Or.inl rfl)
    rw [hbears] at hiff
    rw [handleEvent_read hreg r hc hfd hopen hsend hwants]
    constructor
    · rintro ⟨s', h, hiso⟩
      have hsurvives := hiff.mp ⟨s', h, fun _ => hiso.evicted c rfl⟩
      exact ⟨hsend, hsurvives.imp_right (fun h => Or.inr ⟨hwants.1, h⟩)⟩
    · rintro ⟨-, hcases⟩
      have hsurvives : recvEnd r.recvs = .failed ∨ l.server.LinesFit (some c.addr)
          (spoken true c.serial c.name (c.inBuffer ++ recvData r.recvs)) := by
        rcases hcases with h | ⟨hst, -⟩ | ⟨-, h⟩
        · exact Or.inl h
        · rw [hwants.1] at hst
          cases hst
        · exact Or.inr h
      obtain ⟨s', h, hgone⟩ := hiff.mpr hsurvives
      have heff := (readNetworkPackage_true (hd.tuned r.ctl (some c.addr)) hc hwants.1
        h).1
      exact ⟨s', h, Isolated.of_effects hreg (htuned heff) (hgone hend)⟩
  | @send c hc hfd hwants hend =>
    refine iff_of_false ?_ (fun h => h.1 hwants)
    rintro ⟨s', h, -⟩
    rw [handleEvent_send hreg r hc hfd hwants] at h
    have hstop := sendNetworkPackage_fails (s := l.server.tuned r.ctl (some c.addr)) hend
    rw [h] at hstop
    cases hstop
  | accept hopen hlisten sockets rest hsockets haccepts =>
    refine iff_of_false ?_ id
    rintro ⟨s', h, -⟩
    rw [handleEvent_accept hopen hlisten, haccepts] at h
    have hstop := acceptConnections_fails (s := l.server.tuned r.ctl l.server.cachedConnection)
      (e := .econnaborted) rfl rest hsockets
    rw [h] at hstop
    cases hstop

/-- A newcomer whose connection is reset does not disturb the guest that waits with it. -/
theorem failure_is_isolated_iff_reset : ∃ l : Loop, ∃ ann ∈ l.server.connections,
    ∃ bob ∈ l.server.connections, ∃ s', bob.serial ≠ ann.serial ∧
      l.server.handleEvent ⟨6, epollIn⟩ { recvs := [.error .econnreset] } = (true, s') ∧
        Evicted bob s' ∧ GainsBroadcasts ann s'.connections := by
  obtain ⟨l, ann, bob, hl, hphase, hann, hbob, hne, hfd, hwants⟩ : ∃ l ann bob,
      runInputs System.any ⟨initialServer (ascii "host") 3 4, .waiting⟩
        (arrives 3 5 ++ arrives 3 6 ++ [.events [⟨6, epollIn⟩]]) = some l ∧
      l.phase = .handling [⟨6, epollIn⟩] ∧ ann ∈ l.server.connections ∧
      bob ∈ l.server.connections ∧ bob.serial ≠ ann.serial ∧ bob.fd = 6 ∧
      bob.WantsHello epollIn :=
    ⟨_, _, _, rfl, rfl, List.mem_cons_self, List.mem_cons_of_mem _ List.mem_cons_self, by decide,
      rfl, by decide⟩
  have hreach : (serverSystem (ascii "host")).Reach System.any l :=
    runInputs_reach (by decide) hl
  have hopen : l.server.serverClosing = false := by
    cases hl
    rfl
  have hfail : SocketFailure l.server ⟨6, epollIn⟩ { recvs := [.error .econnreset] } (some bob) :=
    SocketFailure.hello hopen hbob hfd hwants (by decide)
  obtain ⟨s', hev, hiso⟩ := (failure_is_isolated_iff hreach hphase rfl hfail).mpr
    ⟨hwants.not_wantsSend, Or.inl rfl⟩
  refine ⟨l, ann, hann, bob, hbob, s', hne, hev, hiso.evicted bob rfl, hiso.others ann hann ?_⟩
  intro c hc
  rw [Option.mem_some_iff] at hc
  rw [← hc]
  exact hne.symm

/-- One broken pipe stops the whole server. -/
theorem broken_pipe_stops_the_loop :
    ¬∀ (host : Bytes) (l : Loop) (e : EpollEvent) (es : List EpollEvent) (r : Replies)
      (who : Option Connection), (serverSystem host).Reach System.any l →
        l.phase = .handling (e :: es) → LoopInput.Admissible l (.replies r) → r.ctl = [] →
          SocketFailure l.server e r who →
            ∃ s', l.server.handleEvent e r = (true, s') ∧ Isolated l.server who s' := by
  intro hclaim
  obtain ⟨l, ann, hl, hphase, hadm, hann, hfd, hwants, hfails, hev⟩ : ∃ l ann,
      runInputs System.any ⟨initialServer (ascii "host") 3 4, .waiting⟩
        (arrives 3 5 ++ delivers 5 (helloBytes (ascii "ann")) ++ [.events [⟨5, epollOut⟩]]) =
          some l ∧
      l.phase = .handling [⟨5, epollOut⟩] ∧
      LoopInput.Admissible l (.replies { sends := [.error .epipe] }) ∧
      ann ∈ l.server.connections ∧ ann.fd = 5 ∧ ann.WantsSend epollOut ∧
      sendFails ann.unsent.length [.error .epipe] = true ∧
      (l.server.handleEvent ⟨5, epollOut⟩ { sends := [.error .epipe] }).1 = false :=
    ⟨_, _, rfl, rfl, by decide, List.mem_cons_self, rfl, by decide, by decide, by decide⟩
  have hreach : (serverSystem (ascii "host")).Reach System.any l :=
    runInputs_reach (by decide) hl
  obtain ⟨s', hok, -⟩ := hclaim _ l _ _ _ _ hreach hphase hadm rfl
    (SocketFailure.send hann hfd hwants hfails)
  rw [hok] at hev
  cases hev

end Chatroom
