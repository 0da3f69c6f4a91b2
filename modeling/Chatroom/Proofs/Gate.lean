import Chatroom.Model.Network
import Chatroom.Proofs.Aborts
import Chatroom.Proofs.Delivery

/-!
# The handshake as a gate

What a client sends reaches the room only through entries of the room log, and there is
no entry about a connection before it is active. This holds in every reachable state, also
in those in which a handler has given up half way.
-/

namespace Chatroom
open Relation Transition

/-- A connection that has completed its handshake with a host called `host`. -/
structure Connection.Admitted (host : Bytes) (c : Connection) : Prop where
  hello : ∃ m rest, parseFrame c.received = .frame m rest ∧ m.type = .clientHello ∧
    m.payload ≠ [] ∧ protocolPayloadLengthIsLegal m.payload.length ∧ c.name = m.payload
  greeted : encodeFrame (Message.of .serverHello host) <+: c.sent

/-- Nothing but the greeting was queued to a connection, and nothing in the log is about
it. -/
structure Connection.Outside (log : List RoomEntry) (c : Connection) : Prop where
  queued : ∀ m ∈ c.queued, m.type = .serverHello
  unheard : ∀ e ∈ log, e.serial ≠ some c.serial

/-- What was queued to a connection comes from the log. -/
structure Connection.QueuedFromLog (host : Bytes) (log : List RoomEntry) (c : Connection) :
    Prop where
  heard : ∀ m ∈ c.queued,
    m = serverGreeting host ∨ m = Message.of .closeCon [] ∨ ∃ e ∈ log, m = e.message
  outside : (∀ e ∈ log, ¬e.Opens c.serial) → c.Outside log

/-- A connection of the server in any reachable state. -/
structure Connection.Gated (host : Bytes) (log : List RoomEntry) (c : Connection) : Prop where
  admitted : c.state = .active → c.Admitted host
  opened : c.state = .active → ∃ e ∈ log, e.Opens c.serial
  before : c.state = .waitingForClientHello ∨ c.state = .sendingServerHello →
    ∀ e ∈ log, ¬e.Opens c.serial
  queuedFromLog : c.QueuedFromLog host log

/-- Everything that was printed comes from the log, too, except the remark on long lines. -/
def Server.Printed (s : Server) : Prop :=
  ∀ line ∈ s.stdout,
    line = ascii "[app] message length too long." ∨ ∃ e ∈ s.roomLog, line = e.line

structure Server.Gated (host : Bytes) (s : Server) : Prop where
  live : ∀ c ∈ s.connections, c.Gated host s.roomLog
  gone : ∀ d ∈ s.departed, d.conn.QueuedFromLog host s.roomLog
  printed : s.Printed

/-! ### Connections -/

section Connections

variable {host : Bytes} {log : List RoomEntry} {c c' : Connection} {e : RoomEntry}

lemma Connection.Served.admitted (h : c.Served host) (hst : c.state = .active ∨ c.state = .closed) :
    c.Admitted host := by
  obtain ⟨hello, chats, -, hparsed, htype, hname, hne, -, -, -, hsent⟩ := h.phase.of_joined hst
  have hwf : hello.WellFormed := h.stream.parsed hello (by simp [hparsed])
  refine ⟨⟨hello, frameCodec.encodeAll chats ++ c.inBuffer, ?_, htype, ?_, hwf.1, hname⟩, hsent⟩
  · rw [h.stream.received, hparsed, Framing.Codec.encodeAll_cons, List.append_assoc]
    exact parseFrame_encode hello _ hwf
  · rw [← hname]
    exact hne

lemma Connection.Admitted.congr (h : c.Admitted host) (hrecv : c'.received = c.received)
    (hname : c'.name = c.name) (hsent : c'.sent = c.sent) : c'.Admitted host where
  hello := by rw [hrecv, hname]; exact h.hello
  greeted := by rw [hsent]; exact h.greeted

lemma Connection.QueuedFromLog.congr (h : c.QueuedFromLog host log) (hqueued : c'.queued = c.queued)
    (hserial : c'.serial = c.serial) : c'.QueuedFromLog host log where
  heard := by rw [hqueued]; exact h.heard
  outside := by
    rw [hserial]
    intro hno
    have hout := h.outside hno
    exact ⟨by rw [hqueued]; exact hout.queued, by rw [hserial]; exact hout.unheard⟩

lemma heard_append {m : Message} (e : RoomEntry)
    (h : m = serverGreeting host ∨ m = Message.of .closeCon [] ∨ ∃ x ∈ log, m = x.message) :
    m = serverGreeting host ∨ m = Message.of .closeCon [] ∨ ∃ x ∈ log ++ [e], m = x.message := by
  rcases h with hg | hb | ⟨x, hx, hmx⟩
  · exact Or.inl hg
  · exact Or.inr (Or.inl hb)
  · exact Or.inr (Or.inr ⟨x, List.mem_append_left _ hx, hmx⟩)

lemma opens_append_left {n : ℕ} (e : RoomEntry) (h : ∃ x ∈ log, x.Opens n) :
    ∃ x ∈ log ++ [e], x.Opens n := by
  obtain ⟨x, hx, hopen⟩ := h
  exact ⟨x, List.mem_append_left _ hx, hopen⟩

lemma Connection.QueuedFromLog.extend (h : c.QueuedFromLog host log)
    (he : e.serial ≠ some c.serial) :
    c.QueuedFromLog host (log ++ [e]) where
  heard := fun m hm => heard_append e (h.heard m hm)
  outside := by
    intro hno
    have hout := h.outside (fun x hx => hno x (List.mem_append_left _ hx))
    refine ⟨hout.queued, ?_⟩
    exact List.forall_mem_append.mpr ⟨hout.unheard, List.forall_mem_singleton.mpr he⟩

lemma Connection.Gated.extend (h : c.Gated host log) (he : e.serial ≠ some c.serial) :
    c.Gated host (log ++ [e]) where
  admitted := h.admitted
  opened := fun hst => opens_append_left e (h.opened hst)
  before := by
    intro hst
    refine List.forall_mem_append.mpr ⟨h.before hst, List.forall_mem_singleton.mpr ?_⟩
    exact fun hopen => he (RoomEntry.serial_of_opens hopen)
  queuedFromLog := h.queuedFromLog.extend he

lemma Connection.Gated.of_opened (hst : c.state = .active ∨ c.state = .closed)
    (hadm : c.Admitted host) (hopened : ∃ x ∈ log, x.Opens c.serial)
    (hheard : ∀ m ∈ c.queued,
      m = serverGreeting host ∨ m = Message.of .closeCon [] ∨ ∃ e ∈ log, m = e.message) :
    c.Gated host log where
  admitted := fun _ => hadm
  opened := fun _ => hopened
  before := by
    intro hbefore
    rcases hst with hst | hst <;> simp [hst] at hbefore
  queuedFromLog := by
    refine ⟨hheard, ?_⟩
    intro hno
    obtain ⟨x, hx, hopen⟩ := hopened
    exact absurd hopen (hno x hx)

lemma Told.gated {p : Connection → Prop} {m : Message} (h : c.Gated host log)
    (hp : ∀ c, p c → c.state = .active)
    (hm : m = Message.of .closeCon [] ∨ ∃ e ∈ log, m = e.message) (ht : Told p m c c') :
    c'.Gated host log := by
  cases ht with
  | missed => exact h
  | queued hpc hlegal =>
    have hst := hp c hpc
    have hadm : (c.enqueue m).Admitted host := (h.admitted hst).congr rfl rfl rfl
    refine Connection.Gated.of_opened (Or.inl hst) hadm (h.opened hst) ?_
    exact List.forall_mem_append.mpr
      ⟨h.queuedFromLog.heard, List.forall_mem_singleton.mpr (Or.inr hm)⟩
  | rejected hpc hlegal =>
    have herr : (c.reject (.payloadTooLarge m.payload.length)).state = .connectionError := rfl
    exact ⟨fun hst => by simp [herr] at hst, fun hst => by simp [herr] at hst,
      fun hst => by simp [herr] at hst, h.queuedFromLog.congr rfl rfl⟩

end Connections

/-! ### The running loop -/

section Running

variable {host : Bytes} {s s' : Server} {r : Room} {who : Option ℕ}

lemma broadcast_of_inbox (hri : r.Inv host) {c : Connection}
    (hheard : c.broadcasts = (r.inbox c.serial).map RoomEntry.message) {m : Message}
    (hm : m ∈ c.queued) (htype : m.type = .broadcast) : ∃ e ∈ r.log, m = e.message := by
  have hmem : m ∈ c.broadcasts := List.mem_filter.mpr ⟨hm, by simp [htype]⟩
  rw [hheard] at hmem
  obtain ⟨e, he, rfl⟩ := List.mem_map.mp hmem
  rw [hri.inbox] at he
  have hsince := (List.mem_filter.mp he).1
  exact ⟨e, List.mem_of_mem_take ((List.dropWhile_sublist _).subset hsince), rfl⟩

lemma heard_of_told (hri : r.Inv host) {c : Connection}
    (htold : c.queued = [] ∨ ∃ heard, c.queued = serverGreeting host :: heard ∧
      ∀ m ∈ heard, FromRoom m)
    (hheard : c.broadcasts = (r.inbox c.serial).map RoomEntry.message) :
    ∀ m ∈ c.queued,
      m = serverGreeting host ∨ m = Message.of .closeCon [] ∨ ∃ e ∈ r.log, m = e.message := by
  intro m hm
  rcases htold with hnil | ⟨heard, hqueued, hroom⟩
  · rw [hnil] at hm
    cases hm
  · have hm' := hm
    rw [hqueued] at hm'
    rcases List.mem_cons.mp hm' with hg | hin
    · exact Or.inl hg
    · rcases hroom m hin with htype | hbye
      · exact Or.inr (Or.inr (broadcast_of_inbox hri hheard hm htype))
      · exact Or.inr (Or.inl hbye)

lemma gated_of_shows (hri : r.Inv host) {c : Connection} (hserved : c.Served host)
    (hshows : Shows r c) : c.Gated host r.log := by
  have hheard := heard_of_told hri hserved.phase.told hshows.heard
  by_cases hj : c.Joined
  · have hopened := (hri.entered _ (hshows.present.mpr hj)).2
    exact Connection.Gated.of_opened hj (hserved.admitted hj) hopened hheard
  · have hp : c.serial ∉ r.present := fun hp => hj (hshows.present.mp hp)
    have hno := Room.not_opened_outside hri hp hshows.left
    have hqueued : ∀ m ∈ c.queued, m.type = .serverHello := by
      cases hserved.phase with
      | waiting _ _ _ _ hqueued _ => simp [hqueued]
      | greeting hello _ _ _ _ _ hqueued _ => simp [hqueued, serverGreeting, Message.of]
      | joined hello chats heard hst => exact absurd hst hj
    exact ⟨fun hst => absurd (Or.inl hst) hj, fun hst => absurd (Or.inl hst) hj, fun _ => hno,
      hheard, fun _ => ⟨hqueued, hri.outside _ hp hshows.left⟩⟩

/-- A released connection that never entered the room was queued nothing but the
greeting. -/
def Server.Untold (s : Server) : Prop :=
  ∀ d ∈ s.departed, (∀ e ∈ s.roomLog, ¬e.Opens d.conn.serial) →
    ∀ m ∈ d.conn.queued, m.type = .serverHello

lemma Effect.log_prefix (h : Effect who s s') : s.roomLog <+: s'.roomLog := by
  cases h <;> first | exact List.prefix_refl _ | exact List.prefix_append _ _

lemma Released.queued {c c' : Connection} (h : Released c c') : c'.queued = c.queued := by
  rcases h with h | h <;> cases h <;> rfl

lemma Effect.untold (hname : s.name = host) (hs : s.Sound) (hr : Represents s r) (hri : r.Inv host)
    (hu : s.Untold) (h : Effect who s s') : s'.Untold := by
  have hearlier : ∀ n, (∀ e ∈ s'.roomLog, ¬e.Opens n) → ∀ e ∈ s.roomLog, ¬e.Opens n :=
    fun n hno e he => hno e (h.log_prefix.subset he)
  intro d hd hno
  rcases h.mem_departed hs.registry.distinct hd with hd | ⟨c, hc, hlast, -⟩
  · exact hu d hd (hearlier _ hno)
  · have hserved := hs.served c hc
    rw [hname] at hserved
    have hgated := gated_of_shows hri hserved (hr.live c hc)
    have hno' : ∀ e ∈ r.log, ¬e.Opens c.serial := by
      rw [hr.log, ← hlast.samePeer.serial]
      exact hearlier _ hno
    rw [hlast.queued]
    exact (hgated.queuedFromLog.outside hno').queued

lemma queuedFromLog_of_showsDeparted (hri : r.Inv host) {d : Departure}
    (hrec : d.conn.Recorded host) (hrecalls : ShowsDeparted r d)
    (huntold : (∀ e ∈ r.log, ¬e.Opens d.conn.serial) → ∀ m ∈ d.conn.queued, m.type = .serverHello) :
    d.conn.QueuedFromLog host r.log := by
  refine ⟨heard_of_told hri hrec.told hrecalls.heard, fun hno => ⟨huntold hno, ?_⟩⟩
  intro e he hserial
  obtain ⟨x, hx, hopen⟩ := hri.opened e he _ hserial
  exact hno x hx hopen

lemma Server.Printed.post (h : s.Printed) (e : RoomEntry) {t : Server}
    (hout : t.stdout = s.stdout ++ [e.line]) (hlog : t.roomLog = s.roomLog ++ [e]) : t.Printed := by
  intro line hline
  rw [hout] at hline
  rw [hlog]
  rcases List.mem_append.mp hline with hline | hline
  · rcases h line hline with hremark | ⟨x, hx, heq⟩
    · exact Or.inl hremark
    · exact Or.inr ⟨x, List.mem_append_left _ hx, heq⟩
  · exact Or.inr ⟨e, List.mem_append_right _ List.mem_cons_self, List.mem_singleton.mp hline⟩

lemma Effect.printed (hp : s.Printed) (h : Effect who s s') : s'.Printed := by
  cases h with
  | silent k cache hk => exact hp
  | accept fd addr k hfd haddr hopen hk => exact hp
  | move k hc hmove hk => exact hp
  | @talk _ _ _ e sender k hc htalk hlegal hk => exact hp.post e rfl rfl
  | leave k k' hc hleave hlegal hk hk' => exact hp.post (.disconnected _ _) rfl rfl
  | drop k hc hdrop hk => exact hp
  | hostTalk text k hlegal hk => exact hp.post (.hostChat _ _) rfl rfl
  | close k k' hk hk' => exact hp.post .closing rfl rfl
  | print =>
    intro line hline
    rcases List.mem_append.mp hline with hline | hline
    · exact hp line hline
    · exact Or.inl (List.mem_singleton.mp hline)

/-- What is known of the server in the middle of a handler. -/
structure Server.Midway (host : Bytes) (s : Server) (r : Room) : Prop where
  name : s.name = host
  sound : s.Sound
  room : Represents s r
  inv : r.Inv host
  untold : s.Untold
  printed : s.Printed

lemma Server.Midway.gated (h : s.Midway host r) : s.Gated host where
  live := by
    intro c hc
    have hserved := h.sound.served c hc
    rw [h.name] at hserved
    rw [← h.room.log]
    exact gated_of_shows h.inv hserved (h.room.live c hc)
  gone := by
    intro d hd
    have hrec := h.sound.recorded d hd
    rw [h.name] at hrec
    have huntold := h.untold d hd
    rw [← h.room.log] at huntold ⊢
    exact queuedFromLog_of_showsDeparted h.inv hrec (h.room.gone d hd) huntold
  printed := h.printed

lemma Effects.midway (hcl : ClosedBy who s) (hm : s.Midway host r) (h : Effects who s s') :
    ∃ r', s'.Midway host r' ∧ ClosedBy who s' := by
  induction h with
  | refl => exact ⟨r, hm, hcl⟩
  | tail _ hlast ih =>
    obtain ⟨r₁, hm₁, hcl₁⟩ := ih
    have hreg := hm₁.sound.registry
    have hinv := hm₁.inv
    rw [← hm₁.name] at hinv
    obtain ⟨r₂, hsteps, hr₂⟩ := hlast.simulates hreg hcl₁ hm₁.room hinv
    rw [hm₁.name] at hsteps
    exact ⟨r₂, ⟨hlast.frame.1.trans hm₁.name, hlast.sound hm₁.sound, hr₂, hm₁.inv.steps hsteps,
      hlast.untold hm₁.name hm₁.sound hm₁.room hm₁.inv hm₁.untold, hlast.printed hm₁.printed⟩,
      hlast.closedBy hreg hcl₁⟩

theorem reach_midway {P : Loop → LoopInput → Prop} {l : Loop}
    (hr : (serverSystem host).Reach P l) (hrun : l.Running) : ∃ r, l.server.Midway host r := by
  refine (reach_invariant (I := fun s => ∃ r, s.Midway host r) ?_ ?_ hr hrun).2
  · intro listenFd epollFd _
    exact ⟨Room.empty, rfl, (initialServer_inv host listenFd epollFd).sound,
      initialServer_represents host listenFd epollFd, Room.empty_inv host,
      by simp [Server.Untold, initialServer], by simp [Server.Printed, initialServer]⟩
  · rintro s s' e es r hinv ⟨room, hm⟩ - - hhandled
    obtain ⟨who, heff⟩ := hhandled.effects
    obtain ⟨room', hm', -⟩ := heff.midway (hinv.closedBy who) hm
    exact ⟨room', hm'⟩

end Running

/-! ### After an abort -/

section Aborted

variable {host : Bytes} {s s' : Server} {r : Room} {who : Option ℕ}

lemma Server.Midway.posted (hm : s.Midway host r) {c c' : Connection} {e : RoomEntry}
    {sender : Option ℕ} (hc : c ∈ s.connections) (haddr : c'.addr = c.addr)
    (he : e.serial = some c.serial) (hactor : c'.Gated host (s.roomLog ++ [e]))
    {cs : List Connection}
    (hcs : List.Forall₂ (Told (Hears sender) e.message) (s.put c').connections cs) (k : Kernel) :
    ((s.put c').posted e cs k).Gated host where
  live := by
    intro d hd
    obtain ⟨d₀, hd₀, ht⟩ := told_of_mem hcs hd
    have hmember : ∃ x ∈ s.roomLog ++ [e], e.message = x.message :=
      ⟨e, List.mem_append_right _ List.mem_cons_self, rfl⟩
    refine Told.gated ?_ (fun _ hh => hh.2) (Or.inr hmember) ht
    rcases mem_put_cases hm.sound.registry.distinct hc hd₀ haddr with rfl | ⟨hmem, -, hne⟩
    · exact hactor
    · apply (hm.gated.live d₀ hmem).extend
      rw [he]
      exact fun heq => hne (Option.some.inj heq).symm
  gone := by
    intro d hd
    apply (hm.gated.gone d hd).extend
    rw [he]
    exact fun heq => hm.sound.registry.gone c hc d hd (Option.some.inj heq)
  printed := hm.printed.post e rfl rfl

lemma Server.Midway.announced (hm : s.Midway host r) {e : RoomEntry} (he : e.serial = none)
    {cs : List Connection} (hcs : List.Forall₂ (Told (Hears none) e.message) s.connections cs)
    (k : Kernel) : (s.posted e cs k).Gated host where
  live := by
    intro d hd
    obtain ⟨d₀, hd₀, ht⟩ := told_of_mem hcs hd
    have hmember : ∃ x ∈ s.roomLog ++ [e], e.message = x.message :=
      ⟨e, List.mem_append_right _ List.mem_cons_self, rfl⟩
    exact Told.gated ((hm.gated.live d₀ hd₀).extend (by simp [he])) (fun _ hh => hh.2)
      (Or.inr hmember) ht
  gone := fun d hd => (hm.gated.gone d hd).extend (by simp [he])
  printed := hm.printed.post e rfl rfl

lemma Server.Midway.opened_of_joined (hm : s.Midway host r) {c : Connection}
    (hc : c ∈ s.connections) (hj : c.Joined) : ∃ x ∈ s.roomLog, x.Opens c.serial := by
  rw [← hm.room.log]
  exact (hm.inv.entered _ ((hm.room.live c hc).present.mpr hj)).2

lemma Server.Midway.heard_extend (hm : s.Midway host r) {c : Connection} (hc : c ∈ s.connections)
    (e : RoomEntry) : ∀ m ∈ c.queued, m = serverGreeting host ∨ m = Message.of .closeCon [] ∨
      ∃ x ∈ s.roomLog ++ [e], m = x.message :=
  fun m hmem => heard_append e ((hm.gated.live c hc).queuedFromLog.heard m hmem)

lemma Server.Midway.talk_actor (hm : s.Midway host r) {c c' : Connection} {e : RoomEntry}
    {sender : Option ℕ} (hc : c ∈ s.connections) (htalk : Talk c c' e sender) :
    c'.Gated host (s.roomLog ++ [e]) := by
  have hserved := hm.sound.served c hc
  rw [hm.name] at hserved
  have hserved' := htalk.served hserved
  cases htalk with
  | chat m rest hst hp htype =>
    have hopened := hm.opened_of_joined hc hst
    exact Connection.Gated.of_opened hst (hserved'.admitted hst) (opens_append_left _ hopened)
      (hm.heard_extend hc _)
  | join hst =>
    exact Connection.Gated.of_opened (Or.inl rfl) (hserved'.admitted (Or.inl rfl))
      ⟨_, List.mem_append_right _ List.mem_cons_self, rfl⟩ (hm.heard_extend hc _)

lemma Server.Midway.leave_actor (hm : s.Midway host r) {c c' : Connection}
    (hc : c ∈ s.connections) (hleave : Leave c c') (e : RoomEntry) :
    c'.Gated host (s.roomLog ++ [e]) := by
  have hserved := hm.sound.served c hc
  rw [hm.name] at hserved
  have hadm := hserved.admitted hleave.joined
  have hopened := opens_append_left e (hm.opened_of_joined hc hleave.joined)
  cases hleave with
  | hangup hst hp =>
    exact Connection.Gated.of_opened (Or.inr hst) hadm hopened (hm.heard_extend hc e)
  | bye m rest hst hp htype hempty =>
    exact Connection.Gated.of_opened hst (hadm.congr rfl rfl rfl) hopened (hm.heard_extend hc e)

lemma GivesUp.same {c c' : Connection} (h : GivesUp host c c') :
    SamePeer c c' ∧ c'.queued = c.queued ∧ c'.state = .connectionError := by
  cases h <;> exact ⟨⟨rfl, rfl, rfl⟩, rfl, rfl⟩

theorem Abort.gated (hm : s.Midway host r) (h : Abort who s s') : s'.Gated host := by
  have hgated := hm.gated
  have hput : ∀ {c' : Connection} (k : Kernel), c'.Gated host s.roomLog →
      ({ s.put c' with kernel := k } : Server).Gated host := by
    intro c' k hc'
    refine ⟨?_, hgated.gone, hgated.printed⟩
    intro d hd
    rcases Keyed.mem_replace hd with rfl | ⟨hmem, -⟩
    · exact hc'
    · exact hgated.live d hmem
  cases h with
  | stop k cache => exact ⟨hgated.live, hgated.gone, hgated.printed⟩
  | refuse fd addr k =>
    refine ⟨hgated.live, ?_, hgated.printed⟩
    intro d hd
    rcases List.mem_append.mp hd with hd | hd
    · exact hgated.gone d hd
    · rw [List.mem_singleton.mp hd]
      obtain ⟨habsent, hleft, -, -⟩ := hm.room.fresh s.accepted (Nat.le_refl _)
      have hout := hm.inv.outside _ habsent hleft
      rw [hm.room.log] at hout
      exact ⟨fun m hmem => absurd hmem List.not_mem_nil,
        fun _ => ⟨fun m hmem => absurd hmem List.not_mem_nil, hout⟩⟩
  | @move _ c c' ev k hc hmove =>
    apply hput k
    have hserved := hmove.served (hm.sound.served c hc)
    rw [hm.name] at hserved
    rw [← hm.room.log]
    exact gated_of_shows hm.inv hserved (hmove.shows (hm.room.live c hc))
  | @giveUp _ c c' k hc hgives =>
    apply hput k
    obtain ⟨hpeer, hqueued, herr⟩ := hgives.same
    exact ⟨fun hst => by simp [herr] at hst, fun hst => by simp [herr] at hst,
      fun hst => by simp [herr] at hst,
      (hgated.live c hc).queuedFromLog.congr hqueued hpeer.serial⟩
  | @talk _ c c' e sender cs k hc htalk hcs =>
    have he : e.serial = some c.serial := by
      cases htalk <;> rfl
    exact hm.posted hc htalk.samePeer.addr he (hm.talk_actor hc htalk) hcs k
  | @leave _ c c' cs k hc hleave hcs =>
    exact hm.posted hc hleave.samePeer.addr rfl (hm.leave_actor hc hleave _) hcs k
  | hostTalk text cs k hcs => exact hm.announced rfl hcs k
  | close cs cs' k hcs hcs' =>
    have hfirst := hm.announced rfl hcs k
    refine ⟨?_, hfirst.gone, hfirst.printed⟩
    intro d hd
    obtain ⟨d₀, hd₀, ht⟩ := told_of_mem hcs' hd
    exact Told.gated (hfirst.live d₀ hd₀) (fun _ hh => hh.2) (Or.inl rfl) ht

theorem reach_gated {P : Loop → LoopInput → Prop} {l : Loop}
    (hr : (serverSystem host).Reach P l) : l.server.Gated host := by
  rcases reach_cases hr with ⟨l₀, hr₀, hrun₀, heq⟩ | ⟨l₀, who, hr₀, hrun₀, t, heff, habort⟩
  · obtain ⟨room, hm⟩ := reach_midway hr₀ hrun₀
    rw [heq]
    exact hm.gated
  · obtain ⟨room, hm⟩ := reach_midway hr₀ hrun₀
    obtain ⟨room', hm', -⟩ := heff.midway ((reach_inv hr₀ hrun₀).closedBy who) hm
    exact habort.gated hm'

end Aborted

/-! ### Names -/

section Names

variable {host : Bytes} {s s' t : Server} {who : Option ℕ}

/-- Every connection that `t` knows was accepted after `s`, or had no name in `s`, or has
still the same. -/
structure KeepsNames (s t : Server) : Prop where
  accepted_le : s.accepted ≤ t.accepted
  names : ∀ d, t.Knows d → s.accepted ≤ d.serial ∨
    ∃ c, s.Knows c ∧ c.serial = d.serial ∧ (c.name ≠ [] → d.name = c.name)

lemma KeepsNames.congr (hcs : s'.connections = s.connections) (hdep : s'.departed = s.departed)
    (hacc : s'.accepted = s.accepted) : KeepsNames s s' where
  accepted_le := Nat.le_of_eq hacc.symm
  names := by
    intro d hd
    unfold Server.Knows at hd
    rw [hcs, hdep] at hd
    exact Or.inr ⟨d, hd, rfl, fun _ => rfl⟩

lemma KeepsNames.refl (s : Server) : KeepsNames s s :=
  KeepsNames.congr rfl rfl rfl

lemma KeepsNames.trans (h : KeepsNames s t) (h' : KeepsNames t s') : KeepsNames s s' where
  accepted_le := h.accepted_le.trans h'.accepted_le
  names := by
    intro d hd
    rcases h'.names d hd with hnew | ⟨c, hc, hserial, hname⟩
    · exact Or.inl (h.accepted_le.trans hnew)
    · rcases h.names c hc with hnew | ⟨b, hb, hserial', hname'⟩
      · exact Or.inl (hserial ▸ hnew)
      · refine Or.inr ⟨b, hb, hserial'.trans hserial, ?_⟩
        intro hne
        have hcb := hname' hne
        rw [← hcb] at hne ⊢
        exact hname hne

lemma Evolve.name_eq {c c' : Connection} (hc : c.Served host) (h : Evolve host c c')
    (hne : c.name ≠ []) : c'.name = c.name := by
  cases h with
  | move hm =>
    cases hm with
    | introduce data m rest hst hp htype hname hhost => exact absurd (hc.phase.of_waiting hst).1 hne
    | listen data hst hp => rfl
    | send n hst hn => rfl
    | drain hst hout => rfl
    | ingest data st hst hst' => rfl
  | talk ht => cases ht <;> rfl
  | hear hh => cases hh <;> rfl

lemma EvolvesTo.name_eq {c d : Connection} (hc : c.Served host) (h : EvolvesTo host c d)
    (hne : c.name ≠ []) : d.name = c.name := by
  have hboth : d.Served host ∧ d.name = c.name := by
    refine h.preserves (P := fun x => x.Served host ∧ x.name = c.name) ?_ ⟨hc, rfl⟩
    rintro x y ⟨hx, hxc⟩ hev
    refine ⟨hev.served hx, ?_⟩
    rw [hev.name_eq hx (hxc ▸ hne), hxc]
  exact hboth.2

lemma Effect.keepsNames (hs : s.Sound) (h : Effect who s s') : KeepsNames s s' where
  accepted_le := h.accepted_le
  names := by
    have hlive : ∀ d ∈ s'.connections, s.accepted ≤ d.serial ∨
        ∃ c, s.Knows c ∧ c.serial = d.serial ∧ (c.name ≠ [] → d.name = c.name) := by
      intro d hd
      rcases h.origin hs.registry.distinct hd with ⟨fd, addr, -, rfl, -⟩ | ⟨c, hc, hl, -⟩
      · exact Or.inl (Nat.le_refl _)
      · exact Or.inr ⟨c, Or.inl hc, hl.samePeer.serial.symm, hl.name_eq (hs.served c hc)⟩
    rintro d (hd | ⟨d, hd, rfl⟩)
    · exact hlive d hd
    · rcases h.mem_departed hs.registry.distinct hd with hd | ⟨c, hc, hlast, -⟩
      · exact Or.inr ⟨d.conn, Or.inr ⟨d, hd, rfl⟩, rfl, fun _ => rfl⟩
      · exact Or.inr ⟨c, Or.inl hc, hlast.samePeer.serial.symm, fun _ => hlast.name⟩

lemma Effects.keepsNames (hs : s.Sound) (h : Effects who s s') : KeepsNames s s' := by
  have hboth : s'.Sound ∧ KeepsNames s s' :=
    h.preserves (I := fun u => u.Sound ∧ KeepsNames s u)
      (fun _ _ hu hstep => ⟨hstep.sound hu.1, hu.2.trans (hstep.keepsNames hu.1)⟩)
      ⟨hs, KeepsNames.refl s⟩
  exact hboth.2

lemma GivesUp.name_eq {c c' : Connection} (hc : c.Served host) (h : GivesUp host c c')
    (hne : c.name ≠ []) : c'.name = c.name := by
  cases h with
  | greet data m rest hst hp htype hname => exact absurd (hc.phase.of_waiting hst).1 hne
  | flush n hst hn => rfl

lemma Told.same {p : Connection → Prop} {m : Message} {c c' : Connection} (h : Told p m c c') :
    SamePeer c c' ∧ c'.name = c.name := by
  cases h <;> exact ⟨⟨rfl, rfl, rfl⟩, rfl⟩

/-- A connection that comes from one of `s`, under the name of that one if it had one. -/
def ComesFrom (s : Server) (d : Connection) : Prop :=
  ∃ c ∈ s.connections, SamePeer c d ∧ (c.name ≠ [] → d.name = c.name)

lemma ComesFrom.self {c : Connection} (hc : c ∈ s.connections) : ComesFrom s c :=
  ⟨c, hc, SamePeer.refl c, fun _ => rfl⟩

lemma ComesFrom.put {c c' d : Connection} (hc : c ∈ s.connections) (hpeer : SamePeer c c')
    (hname : c.name ≠ [] → c'.name = c.name) (hd : d ∈ (s.put c').connections) :
    ComesFrom s d := by
  rcases Keyed.mem_replace hd with rfl | ⟨hmem, -⟩
  · exact ⟨c, hc, hpeer, hname⟩
  · exact ComesFrom.self hmem

lemma ComesFrom.told {p : Connection → Prop} {m : Message} {cs cs' : List Connection}
    (hcs : ∀ c ∈ cs, ComesFrom s c) (h : List.Forall₂ (Told p m) cs cs') :
    ∀ d ∈ cs', ComesFrom s d := by
  intro d hd
  obtain ⟨c, hc, ht⟩ := told_of_mem h hd
  obtain ⟨b, hb, hpeer, hname⟩ := hcs c hc
  obtain ⟨hpeer', hname'⟩ := ht.same
  exact ⟨b, hb, hpeer.trans hpeer', fun hne => hname'.trans (hname hne)⟩

lemma Abort.origin (hs : s.Sound) (h : Abort who s s') : ∀ d ∈ s'.connections, ComesFrom s d := by
  have hself : ∀ d ∈ s.connections, ComesFrom s d := fun _ => ComesFrom.self
  cases h with
  | stop k cache => exact hself
  | refuse fd addr k => exact hself
  | move k hc hmove =>
    have hname := (Evolve.move hmove).name_eq (hs.served _ hc)
    exact fun d => ComesFrom.put hc hmove.samePeer hname
  | giveUp k hc hgives =>
    exact fun d => ComesFrom.put hc hgives.same.1 (hgives.name_eq (hs.served _ hc))
  | talk cs k hc htalk hcs =>
    have hev : Evolve s.name _ _ := Evolve.talk htalk
    exact ComesFrom.told (fun x => ComesFrom.put hc htalk.samePeer
      (hev.name_eq (hs.served _ hc))) hcs
  | leave cs k hc hleave hcs =>
    exact ComesFrom.told (fun x => ComesFrom.put hc hleave.samePeer (fun _ => hleave.name_eq)) hcs
  | hostTalk text cs k hcs => exact ComesFrom.told hself hcs
  | close cs cs' k hcs hcs' => exact ComesFrom.told (ComesFrom.told hself hcs) hcs'

lemma Abort.departures (h : Abort who s s') :
    s'.departed = s.departed ∧ s'.accepted = s.accepted ∨
      ∃ d : Departure, s'.departed = s.departed ++ [d] ∧ d.conn.serial = s.accepted ∧
        s'.accepted = s.accepted + 1 ∧ s'.connections = s.connections := by
  cases h with
  | refuse fd addr k =>
    exact Or.inr ⟨⟨newConnection fd addr s.accepted, s.roomLog.length⟩, rfl, rfl, rfl, rfl⟩
  | stop k cache => exact Or.inl ⟨rfl, rfl⟩
  | move k hc hmove => exact Or.inl ⟨rfl, rfl⟩
  | giveUp k hc hgives => exact Or.inl ⟨rfl, rfl⟩
  | talk cs k hc htalk hcs => exact Or.inl ⟨rfl, rfl⟩
  | leave cs k hc hleave hcs => exact Or.inl ⟨rfl, rfl⟩
  | hostTalk text cs k hcs => exact Or.inl ⟨rfl, rfl⟩
  | close cs cs' k hcs hcs' => exact Or.inl ⟨rfl, rfl⟩

lemma Abort.keepsNames (hs : s.Sound) (h : Abort who s s') : KeepsNames s s' := by
  have hlive : ∀ d ∈ s'.connections, s.accepted ≤ d.serial ∨
      ∃ c, s.Knows c ∧ c.serial = d.serial ∧ (c.name ≠ [] → d.name = c.name) := by
    intro d hd
    obtain ⟨c, hc, hpeer, hname⟩ := h.origin hs d hd
    exact Or.inr ⟨c, Or.inl hc, hpeer.serial.symm, hname⟩
  have hgone : ∀ d ∈ s.departed, s.accepted ≤ d.conn.serial ∨
      ∃ c, s.Knows c ∧ c.serial = d.conn.serial ∧ (c.name ≠ [] → d.conn.name = c.name) :=
    fun d hd => Or.inr ⟨d.conn, Or.inr ⟨d, hd, rfl⟩, rfl, fun _ => rfl⟩
  rcases h.departures with ⟨hdep, hacc⟩ | ⟨d₀, hdep, hserial, hacc, -⟩
  · refine ⟨Nat.le_of_eq hacc.symm, ?_⟩
    rintro d (hd | ⟨d, hd, rfl⟩)
    · exact hlive d hd
    · rw [hdep] at hd
      exact hgone d hd
  · refine ⟨by omega, ?_⟩
    rintro d (hd | ⟨d, hd, rfl⟩)
    · exact hlive d hd
    · rw [hdep] at hd
      rcases List.mem_append.mp hd with hd | hd
      · exact hgone d hd
      · rw [List.mem_singleton.mp hd]
        exact Or.inl (Nat.le_of_eq hserial.symm)

/-- The serial numbers tell the connections apart that a server knows. -/
structure Server.Numbered (s : Server) : Prop where
  live : (s.connections.map Connection.serial).Nodup
  gone : (s.departed.map (fun d => d.conn.serial)).Nodup
  apart : ∀ c ∈ s.connections, ∀ d ∈ s.departed, c.serial ≠ d.conn.serial
  below : ∀ c, s.Knows c → c.serial < s.accepted

lemma Server.Registry.numbered (h : s.Registry) : s.Numbered := by
  refine ⟨h.distinct.serials, h.departed_nodup, h.gone, ?_⟩
  rintro c (hc | ⟨d, hd, rfl⟩)
  · exact h.serial_lt c hc
  · exact h.departed_lt d hd

lemma Server.Numbered.eq_of_serial (h : s.Numbered) {c d : Connection} (hc : s.Knows c)
    (hd : s.Knows d) (heq : c.serial = d.serial) : c = d := by
  rcases hc with hc | ⟨x, hx, rfl⟩
  · rcases hd with hd | ⟨y, hy, rfl⟩
    · exact Keyed.eq_of_key_eq h.live hc hd heq
    · exact absurd heq (h.apart c hc y hy)
  · rcases hd with hd | ⟨y, hy, rfl⟩
    · exact absurd heq.symm (h.apart d hd x hx)
    · rw [Keyed.eq_of_key_eq h.gone hx hy heq]

lemma told_map {p : Connection → Prop} {m : Message} {cs cs' : List Connection}
    (h : List.Forall₂ (Told p m) cs cs') {β : Type*} (f : Connection → β)
    (hf : ∀ c d, SamePeer c d → f d = f c) : cs'.map f = cs.map f := by
  induction h with
  | nil => rfl
  | cons hhead _ ih => rw [List.map_cons, List.map_cons, ih, hf _ _ hhead.same.1]

lemma told_serials {p : Connection → Prop} {m : Message} {cs cs' : List Connection}
    (h : List.Forall₂ (Told p m) cs cs') :
    cs'.map Connection.serial = cs.map Connection.serial :=
  told_map h Connection.serial (fun _ _ hpeer => hpeer.serial)

lemma Abort.serials (hs : s.Sound) (h : Abort who s s') :
    s'.connections.map Connection.serial = s.connections.map Connection.serial := by
  have hput : ∀ {c c' : Connection}, c ∈ s.connections → SamePeer c c' →
      (s.put c').connections.map Connection.serial = s.connections.map Connection.serial :=
    fun hc hpeer => Server.map_put hs.registry.distinct hc hpeer.addr _ hpeer.serial
  cases h with
  | stop k cache => rfl
  | refuse fd addr k => rfl
  | move k hc hmove => exact hput hc hmove.samePeer
  | giveUp k hc hgives => exact hput hc hgives.same.1
  | talk cs k hc htalk hcs => exact (told_serials hcs).trans (hput hc htalk.samePeer)
  | leave cs k hc hleave hcs => exact (told_serials hcs).trans (hput hc hleave.samePeer)
  | hostTalk text cs k hcs => exact told_serials hcs
  | close cs cs' k hcs hcs' => exact (told_serials hcs').trans (told_serials hcs)

lemma Abort.numbered (hs : s.Sound) (h : Abort who s s') : s'.Numbered := by
  have hreg := hs.registry
  have hlive := hreg.distinct.serials
  rw [← h.serials hs] at hlive
  have hlt : ∀ c ∈ s'.connections, c.serial < s.accepted := by
    intro c hc
    obtain ⟨b, hb, hpeer, -⟩ := h.origin hs c hc
    rw [hpeer.serial]
    exact hreg.serial_lt b hb
  rcases h.departures with ⟨hdep, hacc⟩ | ⟨d₀, hdep, hserial, hacc, hcs⟩
  · refine ⟨hlive, by rw [hdep]; exact hreg.departed_nodup, ?_, ?_⟩
    · intro c hc d hd
      obtain ⟨b, hb, hpeer, -⟩ := h.origin hs c hc
      rw [hdep] at hd
      rw [hpeer.serial]
      exact hreg.gone b hb d hd
    · rw [hacc]
      rintro c (hc | ⟨d, hd, rfl⟩)
      · exact hlt c hc
      · rw [hdep] at hd
        exact hreg.departed_lt d hd
  · refine ⟨hlive, ?_, ?_, ?_⟩
    · rw [hdep]
      apply Keyed.nodup_append_singleton hreg.departed_nodup
      intro d hd
      show d.conn.serial ≠ d₀.conn.serial
      rw [hserial]
      exact Nat.ne_of_lt (hreg.departed_lt d hd)
    · intro c hc d hd
      rw [hcs] at hc
      rw [hdep] at hd
      rcases List.mem_append.mp hd with hd | hd
      · exact hreg.gone c hc d hd
      · rw [List.mem_singleton.mp hd, hserial]
        exact Nat.ne_of_lt (hreg.serial_lt c hc)
    · rw [hacc]
      rintro c (hc | ⟨d, hd, rfl⟩)
      · exact Nat.lt_succ_of_lt (hlt c hc)
      · rw [hdep] at hd
        rcases List.mem_append.mp hd with hd | hd
        · exact Nat.lt_succ_of_lt (hreg.departed_lt d hd)
        · rw [List.mem_singleton.mp hd, hserial]
          exact Nat.lt_succ_self _

theorem reach_numbered {P : Loop → LoopInput → Prop} {l : Loop}
    (hr : (serverSystem host).Reach P l) : l.server.Numbered := by
  rcases reach_cases hr with ⟨l₀, hr₀, hrun₀, heq⟩ | ⟨l₀, who, hr₀, hrun₀, t, heff, habort⟩
  · rw [heq]
    exact (reach_inv hr₀ hrun₀).sound.registry.numbered
  · exact habort.numbered (heff.sound (reach_inv hr₀ hrun₀).sound)

theorem path_keepsNames {P : Loop → LoopInput → Prop} {l l' : Loop}
    (hr : (serverSystem host).Reach P l) (hp : (serverSystem host).Path P l l') :
    KeepsNames l.server l'.server :=
  path_relates KeepsNames.refl (fun _ _ _ h h' => h.trans h')
    (fun _ _ _ hs heff => heff.keepsNames hs) (fun _ _ _ hs habort => habort.keepsNames hs) hr hp

end Names

/-! ### The gate -/

/-- What the handshake guarantees in one state of the server. -/
structure Server.GatedByHandshake (host : Bytes) (s : Server) : Prop where
  active : ∀ c ∈ s.connections, c.state = .active →
    c.Admitted host ∧ ∃ e ∈ s.roomLog, e.Opens c.serial
  before : ∀ c ∈ s.connections, c.state = .waitingForClientHello ∨ c.state = .sendingServerHello →
    c.Outside s.roomLog
  never : ∀ c, s.Knows c → (∀ e ∈ s.roomLog, ¬e.Opens c.serial) → c.Outside s.roomLog
  printed : s.Printed
  queued : ∀ c, s.Knows c → ∀ m ∈ c.queued, m = Message.of .serverHello host ∨
    m = Message.of .closeCon [] ∨ ∃ e ∈ s.roomLog, m = e.message

lemma Server.Gated.byHandshake {host : Bytes} {s : Server} (h : s.Gated host) :
    s.GatedByHandshake host := by
  have hsheltered : ∀ c, s.Knows c → c.QueuedFromLog host s.roomLog := by
    rintro c (hc | ⟨d, hd, rfl⟩)
    · exact (h.live c hc).queuedFromLog
    · exact h.gone d hd
  refine ⟨?_, ?_, fun c hc => (hsheltered c hc).outside, h.printed,
    fun c hc => (hsheltered c hc).heard⟩
  · intro c hc hst
    exact ⟨(h.live c hc).admitted hst, (h.live c hc).opened hst⟩
  · intro c hc hst
    exact (h.live c hc).queuedFromLog.outside ((h.live c hc).before hst)

/-- In every reachable state a connection is active only after its handshake, nothing
but the greeting is queued to it before, and nothing it sent is in the log, on the screen
or in the queue of another connection. A name that was once set is never changed. -/
theorem handshake_gates_the_room {host : Bytes} {l : Loop}
    (hr : (serverSystem host).Reach System.any l) :
    l.server.GatedByHandshake host ∧
      ∀ l', (serverSystem host).Path System.any l l' →
        ∀ c, l.server.Knows c → c.name ≠ [] →
          ∀ c', l'.server.Knows c' → c'.serial = c.serial → c'.name = c.name := by
  refine ⟨(reach_gated hr).byHandshake, ?_⟩
  intro l' hp c hc hne c' hc' hserial
  have hkeeps := path_keepsNames hr hp
  have hlt := (reach_numbered hr).below c hc
  rcases hkeeps.names c' hc' with hnew | ⟨b, hb, hserial', hname⟩
  · omega
  · have heq : b = c := (reach_numbered hr).eq_of_serial hb hc (hserial'.trans hserial)
    rw [heq] at hname
    exact hname hne

/-- The name of a guest stays the same when another one arrives. -/
theorem handshake_gates_the_room_greeted : ∃ l l' : Loop, ∃ c ∈ l.server.connections,
    c.name = ascii "ann" ∧ l.server.GatedByHandshake (ascii "host") ∧
      ∃ c' ∈ l'.server.connections, c'.serial = c.serial ∧ c'.name = c.name := by
  obtain ⟨l, l', hl, hl', c, hc, hname, c', hc', hserial⟩ : ∃ l l',
      runInputs System.any ⟨initialServer (ascii "host") 3 4, .waiting⟩
        (arrives 3 5 ++ delivers 5 (helloBytes (ascii "ann"))) = some l ∧
      runInputs System.any l (arrives 3 6) = some l' ∧
      ∃ c ∈ l.server.connections, c.name = ascii "ann" ∧
        ∃ c' ∈ l'.server.connections, c'.serial = c.serial :=
    ⟨_, _, rfl, rfl, _, List.mem_cons_self, by decide, _, List.mem_cons_self, by decide⟩
  have hreach : (serverSystem (ascii "host")).Reach System.any l :=
    runInputs_reach (by decide) hl
  obtain ⟨hgated, hstable⟩ := handshake_gates_the_room hreach
  refine ⟨l, l', c, hc, hname, hgated, c', hc', hserial, ?_⟩
  exact hstable l' (runInputs_path hl') c (Or.inl hc) (by rw [hname]; decide) c' (Or.inl hc')
    hserial

end Chatroom
