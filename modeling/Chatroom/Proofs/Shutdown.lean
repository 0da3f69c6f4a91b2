import Chatroom.Proofs.Gate
import Chatroom.Proofs.Genuine
import Chatroom.Proofs.Readiness
import Chatroom.Proofs.Reliable

/-!
# Closing the room

`/quit` queues a CLOSE_CON to every active connection and lets the loop run until
everything is written. A connection whose greeting is still being written at that moment
is left out, and becomes active later.
-/

namespace Chatroom
open Relation Transition

/-- The host enters `/quit` in an open room, and no `epoll_ctl` call of the handler fails. -/
structure Quits (l : Loop) (r : Replies) : Prop where
  isOpen : l.server.serverClosing = false
  stdin : ∃ e ∈ l.nextEvent, e.fd = stdinFileno ∧ e.events.has epollIn
  line : r.line = some (ascii "/quit")
  ctl : r.ctl = []

/-- The call took some bytes, or is to be repeated. -/
def SendReply.harmless : SendReply → Bool
  | .count n => decide (0 < n)
  | .error e => e.retryable

/-- The steps in which no `send`, `epoll_ctl` or `epoll_wait` fails. -/
def NothingFails (_ : Loop) : LoopInput → Prop
  | .replies r => r.ctl = [] ∧ ∀ reply ∈ r.sends, reply.harmless = true
  | .waitFailed e => e = .eintr
  | .events _ | .endOfBatch => True

instance (l : Loop) (i : LoopInput) : Decidable (NothingFails l i) :=
  match i with
  | .replies r =>
    inferInstanceAs (Decidable (r.ctl = [] ∧ ∀ reply ∈ r.sends, reply.harmless = true))
  | .waitFailed e => inferInstanceAs (Decidable (e = .eintr))
  | .events _ | .endOfBatch => inferInstanceAs (Decidable True)

/-- Connection `n` was active when the room closed in state `s₀`, or became active since. -/
def ActiveSince (s₀ s : Server) (n : ℕ) : Prop :=
  (∃ c ∈ s₀.connections, c.serial = n ∧ c.state = .active) ∨
    ∃ e ∈ s.roomLog.drop s₀.roomLog.length, e.Opens n

/-- What a graceful shutdown promises in a state after `/quit` was entered in `s₀`. -/
structure Graceful (s₀ : Server) (l : Loop) : Prop where
  dismissed : ∀ c, l.server.Knows c → ActiveSince s₀ l.server c.serial →
    (c.queued.filter (fun m => m.type = .closeCon)).length = 1
  last : ∀ c, l.server.Knows c → ∀ before m after, c.queued = before ++ m :: after →
    m.type = .closeCon → after = []
  written : l.phase = .stopped → ∀ c ∈ l.server.connections,
    c.sent = frameCodec.encodeAll c.queued

/-! ### Before the room closes -/

/-- No CLOSE_CON was queued to a connection. -/
def Connection.Undismissed (c : Connection) : Prop :=
  ∀ m ∈ c.queued, m.type ≠ .closeCon

section Undismissed

variable {c c' : Connection}

lemma Connection.Undismissed.enqueue (h : c.Undismissed) {m : Message} (hm : m.type ≠ .closeCon) :
    (c.enqueue m).Undismissed := by
  exact List.forall_mem_append.mpr ⟨h, List.forall_mem_singleton.mpr hm⟩

lemma Connection.Undismissed.congr (h : c.Undismissed) (hq : c'.queued = c.queued) :
    c'.Undismissed := by
  unfold Connection.Undismissed
  rw [hq]
  exact h

lemma Move.undismissed {host : Bytes} {ev : Option EventMask} (h : c.Undismissed)
    (hm : Move host c ev c') : c'.Undismissed := by
  cases hm with
  | listen data hc hp => exact h
  | introduce data m rest hc hp htype hname hhost =>
    exact Connection.Undismissed.enqueue (c := (c.absorb data).cut m rest) h
      (show MessageType.serverHello ≠ MessageType.closeCon by decide)
  | send n hc hn => exact h
  | drain hc hout => exact h
  | ingest data st hc hst => exact h

lemma Talk.queued {e : RoomEntry} {sender : Option ℕ} (h : Talk c c' e sender) :
    c'.queued = c.queued := by
  cases h <;> rfl

lemma undismissed_put {s : Server} (hs : ∀ d ∈ s.connections, d.Undismissed)
    (hc : c'.Undismissed) : ∀ d ∈ (s.put c').connections, d.Undismissed := by
  intro d hd
  rcases Keyed.mem_replace hd with rfl | ⟨hmem, -⟩
  · exact hc
  · exact hs d hmem

lemma undismissed_enqueueTo {cs : List Connection} (hcs : ∀ d ∈ cs, d.Undismissed)
    (p : Connection → Prop) [DecidablePred p] (e : RoomEntry) :
    ∀ d ∈ enqueueTo p e.message cs, d.Undismissed := by
  intro d hd
  obtain ⟨c, hc, rfl⟩ := mem_enqueueTo hd
  split_ifs
  · exact (hcs c hc).enqueue (show MessageType.broadcast ≠ MessageType.closeCon by decide)
  · exact hcs c hc

end Undismissed

/-- In an open room nobody was dismissed. -/
def Server.Undismissed (s : Server) : Prop :=
  s.serverClosing = false → ∀ c, s.Knows c → c.Undismissed

lemma Effect.undismissed {who : Option ℕ} {s t : Server} (hs : s.Undismissed)
    (h : Effect who s t) : t.Undismissed := by
  intro hopen
  -- the connections and the released ones of the state after the effect
  have hboth : ∀ {cs : List Connection} {ds : List Departure}, (∀ d ∈ cs, d.Undismissed) →
      (∀ d ∈ ds, d.conn.Undismissed) → t.connections = cs → t.departed = ds →
      ∀ c, t.Knows c → c.Undismissed := by
    rintro cs ds hcs hds rfl rfl c (hc | ⟨d, hd, rfl⟩)
    · exact hcs c hc
    · exact hds d hd
  have hclosing : t.serverClosing = true ∨ s.serverClosing = false := by
    cases h <;> first | exact Or.inl rfl | exact Or.inr hopen
  have hsopen : s.serverClosing = false := by
    rcases hclosing with hcl | hcl
    · rw [hopen] at hcl
      cases hcl
    · exact hcl
  have hlive : ∀ d ∈ s.connections, d.Undismissed := fun d hd => hs hsopen d (Or.inl hd)
  have hgone : ∀ d ∈ s.departed, d.conn.Undismissed := fun d hd => hs hsopen _ (Or.inr ⟨d, hd, rfl⟩)
  have hreleased : ∀ {c' : Connection} {n : ℕ}, c'.Undismissed →
      ∀ d ∈ s.departed ++ [⟨c', n⟩], d.conn.Undismissed := by
    intro c' n hc'
    exact List.forall_mem_append.mpr ⟨hgone, List.forall_mem_singleton.mpr hc'⟩
  cases h with
  | silent k cache hk => exact hboth hlive hgone rfl rfl
  | accept fd addr k hfd haddr hopen' hk =>
    refine hboth ?_ hgone rfl rfl
    intro d hd
    rcases List.mem_append.mp hd with hd | hd
    · exact hlive d hd
    · rw [List.mem_singleton.mp hd]
      intro m hm
      cases hm
  | move k hc hmove hk =>
    exact hboth (undismissed_put hlive (hmove.undismissed (hlive _ hc))) hgone rfl rfl
  | talk k hc htalk hlegal hk =>
    exact hboth (undismissed_enqueueTo
      (undismissed_put hlive ((hlive _ hc).congr htalk.queued)) _ _) hgone rfl rfl
  | leave k k' hc hleave hlegal hk hk' =>
    have hc' := (hlive _ hc).congr (Released.queued (Or.inl hleave))
    refine hboth ?_ (hreleased hc') rfl rfl
    intro d hd
    exact undismissed_enqueueTo (undismissed_put hlive hc') _ _ d
      ((Keyed.remove_sublist _ _).subset hd)
  | drop k hc hdrop hk =>
    refine hboth (fun d hd => hlive d ((Keyed.remove_sublist _ _).subset hd))
      (hreleased ((hlive _ hc).congr (Released.queued (Or.inr hdrop)))) rfl rfl
  | hostTalk text k hlegal hk => exact hboth (undismissed_enqueueTo hlive _ _) hgone rfl rfl
  | close k k' hk hk' => cases hopen
  | print => exact hboth hlive hgone rfl rfl

theorem reach_undismissed {host : Bytes} {P : Loop → LoopInput → Prop} {l : Loop}
    (hr : (serverSystem host).Reach P l) (hrun : l.Running) : l.server.Undismissed := by
  refine (reach_invariant (I := Server.Undismissed) ?_ ?_ hr hrun).2
  · rintro listenFd epollFd - - c (hc | ⟨d, hd, -⟩)
    · cases hc
    · cases hd
  · intro s s' e es r hinv hs _ _ hhandled
    obtain ⟨who, heff⟩ := hhandled.effects
    exact heff.preserves (fun _ _ hu hstep => Effect.undismissed hu hstep) hs

/-! ### The step that closes the room -/

/-- The connections after `/quit`. -/
def dismissedConnections (cs : List Connection) : List Connection :=
  enqueueTo (Hears none) (Message.of .closeCon [])
    (enqueueTo (Hears none) RoomEntry.closing.message cs)

/-- What `/quit` does to the server, in an open room. -/
structure ClosesRoom (s s' : Server) : Prop where
  closing : s'.serverClosing = true
  connections : s'.connections = dismissedConnections s.connections
  log : s'.roomLog = s.roomLog ++ [.closing]
  departed : s'.departed = s.departed

lemma readStdin_quit {s : Server} (hs : s.Reliable) :
    ∃ s', s.handleReadStdinEvent (some (ascii "/quit")) = (!s'.allConnectionBuffersEmpty, s') ∧
      ClosesRoom s s' := by
  have hs' : ({ s with serverClosing := true } : Server).Reliable := ⟨hs.script, hs.registered⟩
  obtain ⟨t₀, hpost, k, rfl, hheard⟩ := (post_succeedsIff hs' (e := .closing) (ascii "server")
    (Message.of .chat (ascii "room is closing.")) none rfl rfl).exists_iff.mpr
      (fun _ _ _ => closing_legal)
  obtain ⟨t, hclose⟩ := queueClose_succeeds hheard
  refine ⟨t, ?_, ?_⟩
  · rw [Server.handleReadStdinEvent, if_neg (by decide), if_pos rfl]
    dsimp only
    rw [Server.announceRoomClosing, hpost]
    dsimp only
    rw [hclose]
  · obtain ⟨k', rfl, -⟩ := queueClose_true hclose
    exact ⟨rfl, rfl, rfl, rfl⟩

theorem Quits.step {host : Bytes} {l₀ l₁ : Loop} {r : Replies}
    (hr : (serverSystem host).Reach System.any l₀) (hq : Quits l₀ r)
    (hstep : serverLoopStep l₀ (.replies r) = some l₁) :
    ClosesRoom l₀.server l₁.server ∧
      ∃ es, l₁.phase = if l₁.server.allConnectionBuffersEmpty then .stopped else .handling es := by
  obtain ⟨e, es, ok, hphase, hev, hphase'⟩ := serverLoopStep_replies hstep
  have hrun : l₀.Running := Loop.running_of_handling hphase
  have hreg := (reach_inv hr hrun).sound.registry
  obtain ⟨e', he', hfd, hin⟩ := hq.stdin
  have hnext : l₀.nextEvent = some e := by rw [Loop.nextEvent, hphase]
  rw [hnext, Option.mem_some_iff] at he'
  subst he'
  have hreliable : (l₀.server.tuned r.ctl none).Reliable := ⟨hq.ctl, reach_registered hr hrun⟩
  obtain ⟨s', hquit, hcloses⟩ := readStdin_quit hreliable
  rw [handleEvent_stdin hreg r (reach_listenFd hr hrun) hq.isOpen ⟨hfd, hin⟩, hq.line, hquit] at hev
  injection hev with hok hs
  rw [← hs]
  refine ⟨⟨hcloses.closing, hcloses.connections, hcloses.log, hcloses.departed⟩, es, ?_⟩
  rw [hphase', ← hok]
  cases s'.allConnectionBuffersEmpty <;> rfl

/-! ### Steps of a closing room -/

lemma sendFails_harmless {replies : List SendReply}
    (h : ∀ reply ∈ replies, reply.harmless = true) (remaining : ℕ) :
    sendFails remaining replies = false := by
  induction replies generalizing remaining with
  | nil => rfl
  | cons reply replies ih =>
    have hreply := h reply List.mem_cons_self
    have ih := ih (fun x hx => h x (List.mem_cons_of_mem reply hx))
    cases reply with
    | error e =>
      have hretry : e.retryable = true := hreply
      simp [sendFails, hretry]
    | count n =>
      have hn : 0 < n := by simpa [SendReply.harmless] using hreply
      rw [sendFails]
      split_ifs with hzero hmin
      · rfl
      · exact ih _
      · omega

/-- What writing leaves alone. -/
structure Flushed (s s' : Server) : Prop where
  closing : s'.serverClosing = s.serverClosing
  log : s'.roomLog = s.roomLog
  departed : s'.departed = s.departed
  connections : ∀ d ∈ s'.connections, ∃ c ∈ s.connections,
    d.serial = c.serial ∧ d.state = c.state ∧ d.queued = c.queued

lemma Flushed.put {s : Server} {c : Connection} (hc : c ∈ s.connections) (c' : Connection)
    (hserial : c'.serial = c.serial) (hstate : c'.state = c.state) (hqueued : c'.queued = c.queued)
    (k : Kernel) (cache : Option ℕ) :
    Flushed s { s.put c' with kernel := k, cachedConnection := cache } where
  closing := rfl
  log := rfl
  departed := rfl
  connections := by
    intro d hd
    rcases Keyed.mem_replace hd with rfl | ⟨hmem, -⟩
    · exact ⟨c, hc, hserial, hstate, hqueued⟩
    · exact ⟨d, hmem, rfl, rfl, rfl⟩

lemma Flushed.tuned (s : Server) (ctl : List (Option Errno)) (cache : Option ℕ) :
    Flushed s (s.tuned ctl cache) :=
  ⟨rfl, rfl, rfl, fun d hd => ⟨d, hd, rfl, rfl, rfl⟩⟩

theorem handleEvent_flushes {s : Server} (hd : s.Distinct) (hclosing : s.serverClosing = true)
    (hreg : ∀ c ∈ s.connections, s.kernel.mask c.fd ≠ none)
    (hnone : ∀ c ∈ s.connections, c.state ≠ .sendingServerHello) (e : EpollEvent) {r : Replies}
    (hctl : r.ctl = []) (hsends : ∀ reply ∈ r.sends, reply.harmless = true) :
    ∃ s', s.handleEvent e r = (true, s') ∧ Flushed s s' := by
  rw [handleEvent_closing hd hclosing]
  cases hfind : s.find e.fd with
  | none => exact ⟨_, rfl, Flushed.tuned s _ _⟩
  | some c =>
    obtain ⟨hc, -⟩ := Server.find_some hfind
    rw [Server.handleClosing]
    by_cases hw : c.WantsSend e.events
    · have hst : c.state = .active := hw.1.resolve_left (hnone c hc)
      have hfail := sendFails_harmless hsends c.unsent.length
      rw [if_pos hw, sendNetworkPackage_eq, if_neg (hnone c hc), hfail, if_neg Bool.false_ne_true]
      by_cases hall : sendCount c.unsent.length r.sends = c.unsent.length
      · have hreliable : ((s.tuned r.ctl (some c.addr)).call (.send c.fd)).Reliable :=
          ⟨hctl, hreg⟩
        obtain ⟨k, hmod⟩ := fdMod_succeeds (hreliable.put hc c.drained rfl)
          (hreg c hc) quietMask
        refine ⟨_, ?_, Flushed.put hc c.drained rfl rfl rfl k (some c.addr)⟩
        rw [if_pos hall, Option.map_some, hmod]
        rfl
      · refine ⟨_, ?_, Flushed.put hc (c.advance (sendCount c.unsent.length r.sends)) rfl rfl
          rfl ((s.tuned r.ctl (some c.addr)).call (.send c.fd)).kernel (some c.addr)⟩
        rw [if_neg hall]
        rfl
    · rw [if_neg hw]
      exact ⟨_, rfl, Flushed.tuned s _ _⟩

/-- A connection after `/quit`, as long as it is only written to. -/
def Connection.AfterQuit (c d : Connection) : Prop :=
  d.serial = c.serial ∧ d.state = c.state ∧
    d.queued = if c.state = .active then
      c.queued ++ [RoomEntry.closing.message, Message.of .closeCon []] else c.queued

/-- A loop that goes on after `/quit` was entered in state `s₀`. -/
structure ClosingSince (s₀ : Server) (l : Loop) : Prop where
  closing : l.server.serverClosing = true
  log : l.server.roomLog = s₀.roomLog ++ [.closing]
  departed : l.server.departed = s₀.departed
  connections : ∀ d ∈ l.server.connections, ∃ c ∈ s₀.connections, c.AfterQuit d
  stopped : l.phase = .stopped → l.server.allConnectionBuffersEmpty = true

lemma ClosesRoom.closingSince {s₀ : Server} {l : Loop} (h : ClosesRoom s₀ l.server)
    (hphase : ∃ es, l.phase =
      if l.server.allConnectionBuffersEmpty then .stopped else .handling es) :
    ClosingSince s₀ l where
  closing := h.closing
  log := h.log
  departed := h.departed
  connections := by
    intro d hd
    rw [h.connections] at hd
    obtain ⟨b, hb, rfl⟩ := mem_enqueueTo hd
    obtain ⟨c, hc, rfl⟩ := mem_enqueueTo hb
    refine ⟨c, hc, ?_⟩
    by_cases hst : c.state = .active
    · have hh : Hears none c := ⟨by simp, hst⟩
      have hh' : Hears none (c.enqueue RoomEntry.closing.message) := hh
      rw [if_pos hh, if_pos hh']
      refine ⟨rfl, rfl, ?_⟩
      rw [if_pos hst]
      simp [Connection.enqueue]
    · have hh : ¬Hears none c := fun h => hst h.2
      rw [if_neg hh, if_neg hh]
      exact ⟨rfl, rfl, by rw [if_neg hst]⟩
  stopped := by
    obtain ⟨es, hphase⟩ := hphase
    intro hstop
    by_contra hne
    rw [hphase, if_neg hne] at hstop
    cases hstop

lemma Flushed.closingSince {s₀ : Server} {l l' : Loop} (h : Flushed l.server l'.server)
    (hl : ClosingSince s₀ l)
    (hstop : l'.phase = .stopped → l'.server.allConnectionBuffersEmpty = true) :
    ClosingSince s₀ l' where
  closing := h.closing.trans hl.closing
  log := h.log.trans hl.log
  departed := h.departed.trans hl.departed
  connections := by
    intro d hd
    obtain ⟨b, hb, hserial, hstate, hqueued⟩ := h.connections d hd
    obtain ⟨c, hc, hserial', hstate', hqueued'⟩ := hl.connections b hb
    exact ⟨c, hc, hserial.trans hserial', hstate.trans hstate', hqueued.trans hqueued'⟩
  stopped := hstop

theorem ClosingSince.step {host : Bytes} {s₀ : Server}
    (hnone : ∀ c ∈ s₀.connections, c.state ≠ .sendingServerHello) {l l' : Loop} {i : LoopInput}
    (hr : (serverSystem host).Reach System.any l) (hl : ClosingSince s₀ l) (hi : NothingFails l i)
    (hstep : serverLoopStep l i = some l') : ClosingSince s₀ l' := by
  have hsame : ∀ {p : Phase}, l' = ⟨l.server, p⟩ →
      (p = .stopped → l.server.allConnectionBuffersEmpty = true) → ClosingSince s₀ l' := by
    rintro p rfl hstop
    exact Flushed.closingSince (l := l) ⟨rfl, rfl, rfl, fun d hd => ⟨d, hd, rfl, rfl, rfl⟩⟩ hl hstop
  cases i with
  | events es =>
    rw [serverLoopStep] at hstep
    split_ifs at hstep
    cases hstep
    exact hsame rfl (fun h => by cases h)
  | waitFailed e =>
    have he : e = .eintr := hi
    rw [serverLoopStep, if_pos he] at hstep
    split_ifs at hstep
    cases hstep
    exact hsame rfl (fun h => by cases h)
  | endOfBatch =>
    rw [serverLoopStep] at hstep
    split_ifs at hstep with hphase hempty
    · cases hstep
      exact hsame rfl (fun _ => hempty.2)
    · cases hstep
      exact hsame rfl (fun h => by cases h)
  | replies r =>
    obtain ⟨e, es, ok, hphase, hev, hphase'⟩ := serverLoopStep_replies hstep
    have hrun : l.Running := Loop.running_of_handling hphase
    have hgreeting : ∀ c ∈ l.server.connections, c.state ≠ .sendingServerHello := by
      intro c hc
      obtain ⟨b, hb, -, hstate, -⟩ := hl.connections c hc
      rw [hstate]
      exact hnone b hb
    obtain ⟨s', hflush, hflushed⟩ := handleEvent_flushes
      (reach_inv hr hrun).sound.registry.distinct hl.closing (reach_registered hr hrun) hgreeting e
      hi.1 hi.2
    rw [hflush] at hev
    injection hev with hok hs
    rw [hs] at hflushed
    refine hflushed.closingSince hl ?_
    intro hstop
    rw [hphase', ← hok] at hstop
    cases hstop

/-! ### What the guests were told -/

lemma eq_nil_of_append_singleton {init before after : List Message} {x m : Message}
    (hinit : ∀ n ∈ init, n.type ≠ .closeCon) (h : init ++ [x] = before ++ m :: after)
    (hm : m.type = .closeCon) : after = [] := by
  rcases after.eq_nil_or_concat with hnil | ⟨rest, y, rfl⟩
  · exact hnil
  · have hsplit : init ++ [x] = (before ++ m :: rest) ++ [y] := by
      rw [h, List.concat_eq_append]
      simp
    have hmem : m ∈ init := by
      rw [(List.append_inj' hsplit rfl).1]
      simp
    exact absurd hm (hinit m hmem)

theorem ClosingSince.graceful {host : Bytes} {s₀ : Server} {l : Loop}
    (hr : (serverSystem host).Reach System.any l) (h : ClosingSince s₀ l) (hreg : s₀.Registry)
    (hopen : ∀ c, s₀.Knows c → c.Undismissed) : Graceful s₀ l := by
  have hlog : ∀ n, ¬∃ e ∈ l.server.roomLog.drop s₀.roomLog.length, e.Opens n := by
    rintro n ⟨e, he, hopens⟩
    rw [h.log, List.drop_left, List.mem_singleton] at he
    subst he
    exact hopens
  -- a connection was active at `/quit` and ends with its CLOSE_CON, or has none
  have hknown : ∀ c, l.server.Knows c →
      (∃ init, (∀ m ∈ init, m.type ≠ .closeCon) ∧
        c.queued = init ++ [Message.of .closeCon []]) ∨
      c.Undismissed ∧ ¬ActiveSince s₀ l.server c.serial := by
    rintro c (hc | ⟨d, hd, rfl⟩)
    · obtain ⟨b, hb, hserial, hstate, hqueued⟩ := h.connections c hc
      have hquiet := hopen b (Or.inl hb)
      by_cases hst : b.state = .active
      · left
        refine ⟨b.queued ++ [RoomEntry.closing.message], ?_, ?_⟩
        · exact hquiet.enqueue (show MessageType.broadcast ≠ MessageType.closeCon by decide)
        · rw [hqueued, if_pos hst, List.append_assoc]
          rfl
      · right
        rw [if_neg hst] at hqueued
        refine ⟨hquiet.congr hqueued, ?_⟩
        rintro (⟨b', hb', hserial', hst'⟩ | hopens)
        · rw [Keyed.eq_of_key_eq hreg.distinct.serials hb' hb (hserial'.trans hserial)] at hst'
          exact hst hst'
        · exact hlog _ hopens
    · right
      rw [h.departed] at hd
      refine ⟨hopen _ (Or.inr ⟨d, hd, rfl⟩), ?_⟩
      rintro (⟨b, hb, hserial, -⟩ | hopens)
      · exact hreg.gone b hb d hd hserial
      · exact hlog _ hopens
  refine ⟨?_, ?_, ?_⟩
  · intro c hc hactive
    rcases hknown c hc with ⟨init, hinit, hqueued⟩ | ⟨-, hno⟩
    · have hnil : init.filter (fun m => m.type = .closeCon) = [] := by
        rw [List.filter_eq_nil_iff]
        intro m hm
        simpa using hinit m hm
      rw [hqueued, List.filter_append, hnil]
      rfl
    · exact absurd hactive hno
  · intro c hc before m after heq hm
    rcases hknown c hc with ⟨init, hinit, hqueued⟩ | ⟨hquiet, -⟩
    · exact eq_nil_of_append_singleton hinit (hqueued.symm.trans heq) hm
    · have hmem : m ∈ c.queued := by
        rw [heq]
        simp
      exact absurd hm (hquiet m hmem)
  · intro hstop c hc
    have hempty : c.outBuffer = [] := by
      have hall := h.stopped hstop
      rw [Server.allConnectionBuffersEmpty, List.all_eq_true] at hall
      simpa using hall c hc
    have hsent := (reach_recorded hr c (Or.inl hc)).stream.sent
    rw [Connection.unsent, hempty, List.drop_nil, List.append_nil] at hsent
    exact hsent

/-! ### A greeting that is written too late -/

section Late

variable {host : Bytes}

lemma handleEvent_idle {s : Server} (hd : s.Distinct) (hclosing : s.serverClosing = true)
    (hstream : ∀ c ∈ s.connections, c.Stream) (e : EpollEvent) :
    ∃ s', s.handleEvent e {} = (true, s') ∧ s'.connections = s.connections ∧
      s'.roomLog = s.roomLog ∧ s'.serverClosing = true := by
  rw [handleEvent_closing hd hclosing]
  cases hfind : s.find e.fd with
  | none => exact ⟨_, rfl, rfl, rfl, hclosing⟩
  | some c =>
    obtain ⟨hc, -⟩ := Server.find_some hfind
    rw [Server.handleClosing]
    by_cases hw : c.WantsSend e.events
    · have hne : sendCount c.unsent.length [] ≠ c.unsent.length := by
        have hpos := List.length_pos_iff.mpr ((hstream c hc).unsent_ne_nil hw.2.1)
        simp only [sendCount]
        omega
      have hsame : c.advance (sendCount c.unsent.length []) = c := by
        simp [Connection.advance, sendCount]
      rw [if_pos hw, sendNetworkPackage_eq, if_neg hne, hsame]
      refine ⟨_, rfl, ?_, rfl, hclosing⟩
      show Keyed.replace Connection.addr c s.connections = s.connections
      exact Keyed.replace_eq_self hd.addrs hc
    · rw [if_neg hw]
      exact ⟨_, rfl, rfl, rfl, hclosing⟩

lemma idle_path (es : List EpollEvent) {s : Server}
    (hr : (serverSystem host).Reach System.any ⟨s, .handling es⟩)
    (hclosing : s.serverClosing = true) (hne : s.allConnectionBuffersEmpty = false) :
    ∃ s', (serverSystem host).Path NothingFails ⟨s, .handling es⟩ ⟨s', .waiting⟩ ∧
      s'.connections = s.connections ∧ s'.roomLog = s.roomLog ∧ s'.serverClosing = true := by
  induction es generalizing s with
  | nil =>
    have hstep : serverLoopStep ⟨s, .handling []⟩ .endOfBatch = some ⟨s, .waiting⟩ := by
      simp [serverLoopStep, hne]
    exact ⟨s, System.Path.single (l := .endOfBatch) trivial ⟨trivial, hstep⟩, rfl, rfl, hclosing⟩
  | cons e es ih =>
    have hinv := reach_inv hr (by simp [Loop.Running])
    obtain ⟨s₁, hev, hconns, hlog, hcl⟩ := handleEvent_idle hinv.sound.registry.distinct hclosing
      (fun c hc => (hinv.sound.served c hc).stream) e
    have hstep : serverLoopStep ⟨s, .handling (e :: es)⟩ (.replies {}) =
        some ⟨s₁, .handling es⟩ := by
      simp only [serverLoopStep, hev]
    have hadm : LoopInput.Admissible ⟨s, .handling (e :: es)⟩ (.replies {}) := freshSockets_nil s
    have hfirst : (serverSystem host).Path NothingFails ⟨s, .handling (e :: es)⟩
        ⟨s₁, .handling es⟩ :=
      System.Path.single (l := .replies {}) ⟨rfl, by simp⟩ ⟨hadm, hstep⟩
    have hne₁ : s₁.allConnectionBuffersEmpty = false := by
      rw [Server.allConnectionBuffersEmpty, hconns]
      exact hne
    obtain ⟨s', hpath, hconns', hlog', hcl'⟩ :=
      ih (hr.path (hfirst.mono (fun _ _ _ => trivial))) hcl hne₁
    exact ⟨s', hfirst.trans hpath, hconns'.trans hconns, hlog'.trans hlog, hcl'⟩

lemma late_greeting {s : Server} (hr : (serverSystem host).Reach System.any ⟨s, .waiting⟩)
    (hclosing : s.serverClosing = true) {c : Connection} (hc : c ∈ s.connections)
    (hst : c.state = .sendingServerHello) :
    ∃ l, (serverSystem host).Path NothingFails ⟨s, .waiting⟩ l ∧
      l.server.roomLog = s.roomLog ++ [.connected c.serial c.name] ∧
      ∃ d ∈ l.server.connections, d.serial = c.serial ∧ d.Undismissed := by
  have hinv := reach_inv hr (by simp [Loop.Running])
  have hd := hinv.sound.registry.distinct
  have hserved := hinv.sound.served c hc
  obtain ⟨hello, -, -, -, -, hqueued, hout⟩ := hserved.phase.of_greeting hst
  have hne : c.outBuffer ≠ [] := by
    rw [hout]
    simp [encodeFrame]
  have hpos : 0 < c.unsent.length := List.length_pos_iff.mpr (hserved.stream.unsent_ne_nil hne)
  obtain ⟨e, he⟩ : ∃ e : EpollEvent, e = ⟨c.fd, epollOut⟩ := ⟨_, rfl⟩
  obtain ⟨r, hreplies⟩ : ∃ r : Replies, r = { sends := [.count c.unsent.length] } := ⟨_, rfl⟩
  have hfind : s.find e.fd = some c := by
    rw [he]
    exact Server.find_of_mem hd hc
  have hw : c.WantsSend e.events := by
    rw [he]
    exact ⟨Or.inl hst, hne, show epollOut.has epollOut by decide⟩
  have hall : sendCount c.unsent.length r.sends = c.unsent.length := by
    rw [hreplies]
    simp [sendCount, hpos]
  rcases hev : s.handleEvent e r with ⟨ok, s'⟩
  have hevent := hev
  rw [handleEvent_closing hd hclosing, hfind, Server.handleClosing, if_pos hw,
    sendNetworkPackage_eq, if_pos hall, if_pos hst] at hevent
  obtain ⟨cs, k, hs', hcs⟩ := post_told (e := .connected c.serial c.name) rfl rfl hevent
  obtain ⟨d, hdm, htold⟩ := mem_of_told hcs (mem_put hc rfl)
  have hjoined : c.joined.Undismissed := by
    intro m hm
    have hm : m ∈ c.queued := hm
    rw [hqueued, List.mem_singleton] at hm
    rw [hm]
    show MessageType.serverHello ≠ MessageType.closeCon
    decide
  have hd' : d.serial = c.serial ∧ d.Undismissed := by
    cases htold with
    | missed => exact ⟨rfl, hjoined⟩
    | queued hp hm =>
      exact ⟨rfl, hjoined.enqueue (show MessageType.broadcast ≠ MessageType.closeCon by decide)⟩
    | rejected hp hm => exact ⟨rfl, hjoined.congr rfl⟩
  have hwait : serverLoopStep ⟨s, .waiting⟩ (.events [e]) = some ⟨s, .handling [e]⟩ := by
    simp [serverLoopStep, maxEpollEvents]
  obtain ⟨l, hstep, hl⟩ : ∃ l, serverLoopStep ⟨s, .handling [e]⟩ (.replies r) = some l ∧
      l.server = s' := by
    cases ok with
    | true => exact ⟨⟨s', .handling []⟩, by simp only [serverLoopStep, hev], rfl⟩
    | false => exact ⟨⟨s', .stopped⟩, by simp only [serverLoopStep, hev], rfl⟩
  have hadm : LoopInput.Admissible ⟨s, .handling [e]⟩ (.replies r) := by
    rw [hreplies]
    exact freshSockets_nil s
  have hok : NothingFails ⟨s, .handling [e]⟩ (.replies r) := by
    rw [hreplies]
    exact ⟨rfl, by simpa [SendReply.harmless] using hpos⟩
  have hpath : (serverSystem host).Path NothingFails ⟨s, .waiting⟩ ⟨s, .handling [e]⟩ :=
    System.Path.single (l := .events [e]) trivial ⟨trivial, hwait⟩
  refine ⟨l, hpath.snoc hok ⟨hadm, hstep⟩, ?_, d, ?_, hd'⟩
  · rw [hl, hs']
    rfl
  · rw [hl, hs']
    exact hdm

end Late

/-- After `/quit` every run in which nothing fails keeps the promises of a graceful
shutdown, exactly if no greeting was still being written when `/quit` was entered. -/
theorem shutdown_is_graceful_iff {host : Bytes} {l₀ l₁ : Loop} {r : Replies}
    (hr : (serverSystem host).Reach System.any l₀) (hq : Quits l₀ r)
    (hstep : (serverSystem host).step l₀ (.replies r) l₁) :
    (∀ l, (serverSystem host).Path NothingFails l₁ l → Graceful l₀.server l) ↔
      ∀ c ∈ l₀.server.connections, c.state ≠ .sendingServerHello := by
  obtain ⟨e, es, ok, hphase, -, -⟩ := serverLoopStep_replies hstep.2
  have hrun : l₀.Running := Loop.running_of_handling hphase
  have hreg := (reach_inv hr hrun).sound.registry
  obtain ⟨hcloses, es, hphase₁⟩ := hq.step hr hstep.2
  have hr₁ : (serverSystem host).Reach System.any l₁ := hr.snoc trivial hstep
  constructor
  · intro hall c hc hst
    -- the connection is untouched by `/quit`, and its output keeps the loop running
    have hc₁ : c ∈ l₁.server.connections := by
      have hh : ¬Hears none c := by
        intro h
        rw [h.2] at hst
        cases hst
      rw [hcloses.connections]
      refine List.mem_map.mpr ⟨c, List.mem_map.mpr ⟨c, hc, if_neg hh⟩, if_neg hh⟩
    have hout : c.outBuffer ≠ [] := by
      obtain ⟨-, -, -, -, -, -, hout⟩ :=
        ((reach_inv hr hrun).sound.served c hc).phase.of_greeting hst
      rw [hout]
      simp [encodeFrame]
    have hempty : l₁.server.allConnectionBuffersEmpty = false := by
      rw [Server.allConnectionBuffersEmpty, List.all_eq_false]
      exact ⟨c, hc₁, by simpa using hout⟩
    have hl₁ : l₁ = ⟨l₁.server, .handling es⟩ := by
      rw [hempty, if_neg Bool.false_ne_true] at hphase₁
      rw [← hphase₁]
    rw [hl₁] at hr₁
    obtain ⟨s, hidle, hconns, hlog, hclosing⟩ := idle_path es hr₁ hcloses.closing hempty
    have hr₂ := hr₁.path (hidle.mono (fun _ _ _ => trivial))
    obtain ⟨l, hlate, hlog', d, hd, hserial, hquiet⟩ :=
      late_greeting hr₂ hclosing (hconns ▸ hc₁) hst
    have hgraceful := hall l (by
      rw [hl₁]
      exact hidle.trans hlate)
    have hactive : ActiveSince l₀.server l.server d.serial := by
      refine Or.inr ⟨.connected c.serial c.name, ?_, hserial.symm⟩
      rw [hlog', hlog, hcloses.log, List.append_assoc, List.drop_left]
      simp
    have hone := hgraceful.dismissed d (Or.inl hd) hactive
    have hnil : d.queued.filter (fun m => m.type = .closeCon) = [] := by
      rw [List.filter_eq_nil_iff]
      intro m hm
      simpa using hquiet m hm
    rw [hnil] at hone
    cases hone
  · intro hnone l hpath
    have hdown : ClosingSince l₀.server l := by
      refine hr₁.preserves (I := fun l => ClosingSince l₀.server l) (fun _ _ _ => trivial) ?_ hpath
        (hcloses.closingSince ⟨es, hphase₁⟩)
      rintro l i l' hl hdown hi ⟨-, hstep'⟩
      exact hdown.step hnone hl hi hstep'
    have hreach : (serverSystem host).Reach System.any l :=
      hr₁.path (hpath.mono fun _ _ _ => trivial)
    exact hdown.graceful hreach hreg (reach_undismissed hr hrun hq.isOpen)

/-- One guest is in the room, another one has just introduced itself, and the host is
about to be heard. -/
def guestAndNewcomer : List LoopInput :=
  arrives 3 5 ++ delivers 5 (helloBytes (ascii "ann")) ++ drains 5 ++ drains 5 ++ arrives 3 6 ++
    delivers 6 (helloBytes (ascii "bob")) ++ [.events [⟨stdinFileno, epollIn⟩]]

/-- The host enters `/quit`. -/
def quitLine : Replies where
  line := some (ascii "/quit")

theorem shutdown_is_graceful_iff_one_guest : ∃ l₀ l₁ : Loop, ∃ c ∈ l₀.server.connections,
    c.state = .active ∧
      ∀ l, (serverSystem (ascii "host")).Path NothingFails l₁ l → Graceful l₀.server l := by
  obtain ⟨l₀, l₁, hl₀, hq, hstep, ⟨c, hc, hst⟩, hnone⟩ : ∃ l₀ l₁,
      runInputs System.any ⟨initialServer (ascii "host") 3 4, .waiting⟩
        (arrives 3 5 ++ delivers 5 (helloBytes (ascii "ann")) ++ drains 5 ++
          [.events [⟨stdinFileno, epollIn⟩]]) = some l₀ ∧
      Quits l₀ quitLine ∧ (serverSystem (ascii "host")).step l₀ (.replies quitLine) l₁ ∧
      (∃ c ∈ l₀.server.connections, c.state = .active) ∧
      ∀ c ∈ l₀.server.connections, c.state ≠ .sendingServerHello :=
    ⟨_, _, rfl, ⟨by decide, ⟨_, rfl, rfl, by decide⟩, rfl, rfl⟩, ⟨by decide, rfl⟩,
      ⟨_, List.mem_cons_self, rfl⟩, by decide⟩
  have hreach : (serverSystem (ascii "host")).Reach System.any l₀ :=
    runInputs_reach (by decide) hl₀
  exact ⟨l₀, l₁, c, hc, hst, (shutdown_is_graceful_iff hreach hq hstep).mpr hnone⟩

/-- When the host quits while a newcomer is being greeted, the newcomer becomes active and is
never dismissed, and the guest is told of it after its CLOSE_CON. -/
theorem newcomer_is_not_dismissed :
    ¬∀ (host : Bytes) (l₀ l₁ : Loop) (r : Replies), (serverSystem host).Reach System.any l₀ →
      Quits l₀ r → (serverSystem host).step l₀ (.replies r) l₁ →
        ∀ l, (serverSystem host).Path NothingFails l₁ l → Graceful l₀.server l := by
  intro hclaim
  obtain ⟨l₀, l₁, l, hl₀, hq, hstep, hl, -, ⟨bob, hbob, hactive, hqueued⟩, -⟩ : ∃ l₀ l₁ l,
      runInputs System.any ⟨initialServer (ascii "host") 3 4, .waiting⟩ guestAndNewcomer =
        some l₀ ∧
      Quits l₀ quitLine ∧ (serverSystem (ascii "host")).step l₀ (.replies quitLine) l₁ ∧
      runInputs NothingFails l₁ ([.endOfBatch] ++ drains 6 ++ drains 5 ++ drains 6) = some l ∧
      l.phase = .stopped ∧
      (∃ bob ∈ l.server.connections,
        (∃ e ∈ l.server.roomLog.drop l₀.server.roomLog.length, e.Opens bob.serial) ∧
        bob.queued.map Message.type = [.serverHello, .broadcast]) ∧
      ∃ ann ∈ l.server.connections, ann.queued.map Message.type =
        [.serverHello, .broadcast, .broadcast, .closeCon, .broadcast] :=
    ⟨_, _, _, rfl, ⟨by decide, ⟨_, rfl, rfl, by decide⟩, rfl, rfl⟩, ⟨by decide, rfl⟩, rfl,
      by decide, by decide, by decide⟩
  have hreach : (serverSystem (ascii "host")).Reach System.any l₀ :=
    runInputs_reach (by decide) hl₀
  have hgraceful := hclaim _ l₀ l₁ quitLine hreach hq hstep l (runInputs_path hl)
  have hone := hgraceful.dismissed bob (Or.inl hbob) (Or.inr hactive)
  have hnil : bob.queued.filter (fun m => m.type = .closeCon) = [] := by
    rw [List.filter_eq_nil_iff]
    intro m hm
    have hmem : m.type ∈ bob.queued.map Message.type := List.mem_map_of_mem hm
    rw [hqueued] at hmem
    rcases List.mem_cons.mp hmem with htype | hmem
    · rw [htype]
      decide
    · rw [List.mem_singleton.mp hmem]
      decide
  rw [hnil] at hone
  cases hone

end Chatroom
