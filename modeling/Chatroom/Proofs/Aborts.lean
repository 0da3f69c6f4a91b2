import Chatroom.Proofs.Runs

/-!
# Handlers that stop the loop

A handler that returns `false` has done what a sequence of effects does, and then an
abort: a last change that is left half done. No invariant of the running loop survives
an abort, but what a connection was told and what it said can still be read off its
record.
-/

namespace Chatroom
open Fallible Relation Transition

/-- What a broadcast loop that may stop half way does to one connection. -/
inductive Told (p : Connection → Prop) (m : Message) (c : Connection) : Connection → Prop
  | missed : Told p m c c
  | queued (hp : p c) (hm : protocolPayloadLengthIsLegal m.payload.length) :
      Told p m c (c.enqueue m)
  | rejected (hp : p c) (hm : ¬protocolPayloadLengthIsLegal m.payload.length) :
      Told p m c (c.reject (.payloadTooLarge m.payload.length))

lemma queueToEach_told {skip : Connection → Bool} {m : Message} {events : EventMask}
    {cs cs' : List Connection} {k k' : Kernel} {ok : Bool}
    (h : Server.queueToEach skip m events cs k = (ok, cs', k')) :
    List.Forall₂ (Told (fun c => skip c = false) m) cs cs' := by
  have hmissed : ∀ cs : List Connection,
      List.Forall₂ (Told (fun c => skip c = false) m) cs cs := fun cs =>
    List.forall₂_same.mpr (fun c _ => Told.missed)
  induction cs generalizing k ok cs' with
  | nil =>
    cases h
    exact List.Forall₂.nil
  | cons c cs ih =>
    by_cases hskip : skip c = true
    · simp only [Server.queueToEach, hskip, if_true] at h
      rcases hr : Server.queueToEach skip m events cs k with ⟨ok', cs'', k''⟩
      rw [hr] at h
      cases h
      exact List.Forall₂.cons Told.missed (ih hr)
    · have hskip : skip c = false := by simpa using hskip
      simp only [Server.queueToEach, hskip, Bool.false_eq_true, if_false,
        protocolQueueMessage_eq] at h
      by_cases hm : protocolPayloadLengthIsLegal m.payload.length
      · rw [if_pos hm] at h
        dsimp only at h
        rcases hmod : epollFdMod k c.fd events with ⟨ok₁, k₁⟩
        rw [hmod] at h
        cases ok₁ with
        | false =>
          cases h
          exact List.Forall₂.cons (Told.queued hskip hm) (hmissed cs)
        | true =>
          dsimp only at h
          rcases hr : Server.queueToEach skip m events cs k₁ with ⟨ok', cs'', k''⟩
          rw [hr] at h
          cases h
          exact List.Forall₂.cons (Told.queued hskip hm) (ih hr)
      · rw [if_neg hm] at h
        cases h
        exact List.Forall₂.cons (Told.rejected hskip hm) (hmissed cs)

/-- A posted entry that reached only some of the connections that hear it. -/
def Server.posted (s : Server) (e : RoomEntry) (cs : List Connection) (k : Kernel) : Server :=
  { s with
    connections := cs
    stdout := s.stdout ++ [e.line]
    roomLog := s.roomLog ++ [e]
    kernel := k }

lemma Told.congr {p q : Connection → Prop} {m : Message} {cs cs' : List Connection}
    (h : List.Forall₂ (Told p m) cs cs') (hpq : ∀ c, p c ↔ q c) :
    List.Forall₂ (Told q m) cs cs' := by
  have hp : p = q := funext (fun c => propext (hpq c))
  exact hp ▸ h

lemma post_told {s s' : Server} {e : RoomEntry} {author : Bytes} {notice : Message}
    {sender : Option ℕ} {ok : Bool} (hauthor : author = e.author) (htext : notice.payload = e.text)
    (h : s.post e author notice sender = (ok, s')) :
    ∃ cs k, s' = s.posted e cs k ∧
      List.Forall₂ (Told (Hears sender) e.message) s.connections cs := by
  have hm : formatBroadcastMessage author notice = e.message := by
    simp only [formatBroadcastMessage, RoomEntry.message, RoomEntry.line, hauthor, htext]
  have hl : formatPrintMessage s.stdout author notice = s.stdout ++ [e.line] := by
    simp only [formatPrintMessage, RoomEntry.line, hauthor, htext]
  unfold Server.post Server.broadcastMessageToOtherClients at h
  dsimp only at h
  rw [hm, hl] at h
  rcases hr : Server.queueToEach
      (fun conn => decide (some conn.addr = sender ∨ conn.state ≠ .active)) e.message
      (epollIn ||| epollOut ||| epollRdhup) s.connections s.kernel with ⟨ok', cs, k⟩
  rw [hr] at h
  cases h
  exact ⟨cs, k, rfl, Told.congr (queueToEach_told hr) (hears_iff sender)⟩

lemma queueClose_told {s s' : Server} {ok : Bool} (h : s.queueCloseToAllClients = (ok, s')) :
    ∃ cs k, s' = { s with connections := cs, kernel := k } ∧
      List.Forall₂ (Told (Hears none) (Message.of .closeCon [])) s.connections cs := by
  unfold Server.queueCloseToAllClients at h
  dsimp only at h
  rcases hr : Server.queueToEach (fun conn => decide (conn.state ≠ .active))
      (Message.of .closeCon []) (epollOut ||| epollRdhup) s.connections s.kernel with ⟨ok', cs, k⟩
  rw [hr] at h
  cases h
  exact ⟨cs, k, rfl, Told.congr (queueToEach_told hr) hears_none_iff⟩

/-- The record of a connection at which a handler gives up. -/
inductive GivesUp (host : Bytes) : Connection → Connection → Prop
  | greet {c : Connection} (data : Bytes) (m : Message) (rest : Bytes)
      (hc : c.state = .waitingForClientHello)
      (hp : parseFrame (c.inBuffer ++ data) = .frame m rest) (htype : m.type = .clientHello)
      (hname : m.payload ≠ []) :
      GivesUp host c (Connection.reject { (c.absorb data).cut m rest with name := m.payload }
        (.payloadTooLarge host.length))
  | flush {c : Connection} (n : ℕ) (hc : c.state = .sendingServerHello ∨ c.state = .active)
      (hn : n < c.unsent.length) : GivesUp host c { c.advance n with state := .connectionError }

/-- The last change of a handler that returns `false`. -/
inductive Abort : Option ℕ → Server → Server → Prop
  | stop {who : Option ℕ} {s : Server} (k : Kernel) (cache : Option ℕ) :
      Abort who s { s with kernel := k, cachedConnection := cache }
  | refuse {s : Server} (fd : Fd) (addr : ℕ) (k : Kernel) :
      Abort none s { s with
        departed := s.departed ++ [⟨newConnection fd addr s.accepted, s.roomLog.length⟩]
        accepted := s.accepted + 1
        kernel := k }
  | move {s : Server} {c c' : Connection} {ev : Option EventMask} (k : Kernel)
      (hc : c ∈ s.connections) (hmove : Move s.name c ev c') :
      Abort (some c.serial) s { s.put c' with kernel := k }
  | giveUp {s : Server} {c c' : Connection} (k : Kernel) (hc : c ∈ s.connections)
      (hgives : GivesUp s.name c c') : Abort (some c.serial) s { s.put c' with kernel := k }
  | talk {s : Server} {c c' : Connection} {e : RoomEntry} {sender : Option ℕ}
      (cs : List Connection) (k : Kernel) (hc : c ∈ s.connections) (htalk : Talk c c' e sender)
      (hcs : List.Forall₂ (Told (Hears sender) e.message) (s.put c').connections cs) :
      Abort (some c.serial) s ((s.put c').posted e cs k)
  | leave {s : Server} {c c' : Connection} (cs : List Connection) (k : Kernel)
      (hc : c ∈ s.connections) (hleave : Leave c c')
      (hcs : List.Forall₂ (Told (Hears (some c.addr))
        (RoomEntry.disconnected c.serial c.name).message) (s.put c').connections cs) :
      Abort (some c.serial) s ((s.put c').posted (.disconnected c.serial c.name) cs k)
  | hostTalk {s : Server} (text : Bytes) (cs : List Connection) (k : Kernel)
      (hcs : List.Forall₂ (Told (Hears none) (RoomEntry.hostChat s.name text).message)
        s.connections cs) :
      Abort none s (s.posted (.hostChat s.name text) cs k)
  | close {s : Server} (cs cs' : List Connection) (k : Kernel)
      (hcs : List.Forall₂ (Told (Hears none) RoomEntry.closing.message) s.connections cs)
      (hcs' : List.Forall₂ (Told (Hears none) (Message.of .closeCon [])) cs cs') :
      Abort none s (({ s with serverClosing := true } : Server).posted .closing cs' k)

/-- A handler that returns `false`. -/
def Aborts (who : Option ℕ) (s s' : Server) : Prop :=
  ∃ t, Effects who s t ∧ Abort who t s'

lemma Effects.aborts {who : Option ℕ} {s t s' : Server} (h : Effects who s t)
    (h' : Aborts who t s') : Aborts who s s' := by
  obtain ⟨u, hu, habort⟩ := h'
  exact ⟨u, h.trans hu, habort⟩

lemma Abort.aborts {who : Option ℕ} {s s' : Server} (h : Abort who s s') : Aborts who s s' :=
  ⟨s, Effects.refl s, h⟩

lemma removeConnection_not_false {s s' : Server} {c : Connection}
    (h : s.removeConnection c = (false, s')) : False := by
  obtain ⟨k, hr, -⟩ := removeConnection_eq s c
  rw [hr] at h
  cases h

lemma fdMod_kernel {s s' : Server} {fd : Fd} {events : EventMask} {ok : Bool}
    (h : s.fdMod fd events = (ok, s')) : ∃ k, s' = { s with kernel := k } := by
  cases h
  exact ⟨_, rfl⟩

theorem receiveClientHello_false {s s' : Server} {c : Connection} (hc : c ∈ s.connections)
    (hst : c.state = .waitingForClientHello) {replies : List RecvReply}
    (h : s.receiveClientHello c replies = (false, s')) : Aborts (some c.serial) s s' := by
  refine (Effects.call (some c.serial) s (.recv c.fd)).aborts ?_
  rw [receiveClientHello_eq s hst] at h
  by_cases hfail : recvEnd replies = .failed
  · rw [if_pos hfail] at h
    exact (removeConnection_not_false h).elim
  · rw [if_neg hfail] at h
    cases hp : parseFrame (c.inBuffer ++ recvData replies) with
    | illegal =>
      rw [hp] at h
      exact (removeConnection_not_false h).elim
    | incomplete =>
      rw [hp] at h
      by_cases heof : recvEnd replies = .eof
      · simp only [heof, if_true] at h
        exact (removeConnection_not_false h).elim
      · simp only [heof, if_false] at h
        cases h
    | frame m rest =>
      rw [hp] at h
      dsimp only at h
      by_cases htype : m.type ≠ .clientHello
      · rw [if_pos htype] at h
        exact (removeConnection_not_false h).elim
      · rw [if_neg htype] at h
        by_cases hname : m.payload = []
        · rw [if_pos hname] at h
          exact (removeConnection_not_false h).elim
        · rw [if_neg hname] at h
          by_cases hhost : protocolPayloadLengthIsLegal s.name.length
          · rw [if_pos hhost] at h
            obtain ⟨k, rfl⟩ := fdMod_kernel h
            exact (Abort.move (s := s.call (.recv c.fd)) k hc
              (Move.introduce (recvData replies) m rest hst hp (not_not.mp htype) hname
                hhost)).aborts
          · rw [if_neg hhost] at h
            cases h
            exact (Abort.giveUp (s := s.call (.recv c.fd)) _ hc
              (GivesUp.greet (recvData replies) m rest hst hp (not_not.mp htype) hname)).aborts

theorem sendNetworkPackage_false {s s' : Server} {c : Connection} (hc : c ∈ s.connections)
    (hst : c.state = .sendingServerHello ∨ c.state = .active) (hout : c.outBuffer ≠ [])
    {replies : List SendReply} (h : s.sendNetworkPackage c replies = (false, s')) :
    Aborts (some c.serial) s s' := by
  refine (Effects.call (some c.serial) s (.send c.fd)).aborts ?_
  rw [sendNetworkPackage_eq] at h
  by_cases hall : sendCount c.unsent.length replies = c.unsent.length
  · rw [if_pos hall] at h
    by_cases hhello : c.state = .sendingServerHello
    · rw [if_pos hhello] at h
      obtain ⟨cs, k, rfl, hcs⟩ := post_told (e := .connected c.serial c.name) rfl rfl h
      exact (Abort.talk (s := s.call (.send c.fd)) cs k hc (Talk.join hhello) hcs).aborts
    · rw [if_neg hhello] at h
      obtain ⟨k, rfl⟩ := fdMod_kernel h
      exact (Abort.move (s := s.call (.send c.fd)) k hc
        (Move.drain (hst.resolve_left hhello) hout)).aborts
  · rw [if_neg hall] at h
    by_cases hfail : sendFails c.unsent.length replies = true
    · rw [if_pos hfail] at h
      cases h
      have hlt : sendCount c.unsent.length replies < c.unsent.length := by
        have hle := sendCount_le c.unsent.length replies
        omega
      exact (Abort.giveUp (s := s.call (.send c.fd)) _ hc (GivesUp.flush _ hst hlt)).aborts
    · rw [if_neg hfail] at h
      cases h

lemma leave_false {s s' : Server} {c c' : Connection} (hc : c ∈ s.connections)
    (hleave : Leave c c')
    (h : andThen ((s.put c').announceClientDisconnected c')
      (fun s => s.removeConnection c') = (false, s')) : Aborts (some c.serial) s s' := by
  rcases hann : (s.put c').announceClientDisconnected c' with ⟨ok, t⟩
  rw [hann] at h
  cases ok with
  | true => exact (removeConnection_not_false h).elim
  | false =>
    cases h
    obtain ⟨cs, k, rfl, hcs⟩ := post_told (e := .disconnected c'.serial c'.name) rfl rfl hann
    have hpeer := hleave.samePeer
    rw [hpeer.serial, hleave.name_eq, hpeer.addr] at hcs
    rw [hpeer.serial, hleave.name_eq]
    exact (Abort.leave cs k hc hleave hcs).aborts

theorem readMessages_false {s s' : Server} (hd : s.Distinct) {c : Connection}
    (hc : c ∈ s.connections) (hst : c.state = .active ∨ c.state = .closed)
    (h : s.readMessages c = (false, s')) : Aborts (some c.serial) s s' := by
  induction hn : c.inBuffer.length using Nat.strong_induction_on generalizing s c with
  | h n ih =>
    cases hp : parseFrame c.inBuffer with
    | illegal =>
      rw [readMessages_illegal s hp] at h
      exact (removeConnection_not_false h).elim
    | incomplete =>
      rw [readMessages_incomplete s hp hst] at h
      by_cases hclosed : c.state = .closed
      · rw [if_pos hclosed] at h
        exact leave_false hc (Leave.hangup hclosed hp) h
      · rw [if_neg hclosed] at h
        cases h
    | frame m rest =>
      rw [readMessages_frame s hp hst] at h
      by_cases htype : m.type = .closeCon
      · rw [if_pos htype] at h
        by_cases hpay : m.payload ≠ []
        · rw [if_pos hpay] at h
          exact (removeConnection_not_false h).elim
        · rw [if_neg hpay] at h
          exact leave_false hc (Leave.bye m rest hst hp htype (not_not.mp hpay)) h
      · rw [if_neg htype] at h
        by_cases hchat : m.type ≠ .chat
        · rw [if_pos hchat] at h
          exact (removeConnection_not_false h).elim
        · rw [if_neg hchat] at h
          rcases hpost : (s.put (c.cut m rest)).post (.chat c.serial c.name m.payload) c.name m
            (some c.addr) with ⟨ok, t⟩
          rw [hpost] at h
          cases ok with
          | false =>
            cases h
            obtain ⟨cs, k, rfl, hcs⟩ :=
              post_told (e := .chat c.serial c.name m.payload) rfl rfl hpost
            exact (Abort.talk cs k hc (Talk.chat m rest hst hp (not_not.mp hchat)) hcs).aborts
          | true =>
            obtain ⟨hstep, hdt, hct⟩ := chat_true hd hc hst hp (not_not.mp hchat) hpost
            have hlt : (c.cut m rest).inBuffer.length < n := by
              rw [← hn]
              exact frameCodec.rest_length_lt hp
            have hrest : Aborts (some (c.cut m rest).serial) t s' := ih _ hlt hdt hct hst h rfl
            exact (Effects.single hstep).aborts hrest

theorem readNetworkPackage_false {s s' : Server} (hd : s.Distinct) {c : Connection}
    (hc : c ∈ s.connections) (hst : c.state = .active) {replies : List RecvReply}
    (h : s.readNetworkPackage c replies = (false, s')) : Aborts (some c.serial) s s' := by
  refine (Effects.call (some c.serial) s (.recv c.fd)).aborts ?_
  have hd' : (s.call (.recv c.fd)).Distinct := hd.congr rfl
  rw [readNetworkPackage_eq] at h
  by_cases hfail : recvEnd replies = .failed
  · rw [if_pos hfail] at h
    exact (removeConnection_not_false h).elim
  · rw [if_neg hfail] at h
    obtain ⟨hmove, hput, hmem, hstate⟩ := ingest_effect hd' hc hst hfail
    have hrest : Aborts (some (c.ingested replies).serial)
        ((s.call (.recv c.fd)).put (c.ingested replies)) s' :=
      readMessages_false hput hmem hstate h
    exact hmove.aborts hrest

theorem acceptConnections_false {s s' : Server} {replies : List AcceptReply}
    (hfresh : FreshSockets s replies)
    (h : s.handleAcceptClientConnectionEvent replies = (false, s')) : Aborts none s s' := by
  induction replies generalizing s with
  | nil => cases h
  | cons reply replies ih =>
    cases reply with
    | error e =>
      rw [Server.handleAcceptClientConnectionEvent] at h
      split_ifs at h
      · cases h
      · cases h
        exact (Abort.stop s'.kernel s'.cachedConnection).aborts
    | socket fd addr =>
      rcases hreg : epollRegister (s.call (.accept fd)).kernel fd (epollIn ||| epollRdhup)
        with ⟨ok, k⟩
      cases ok with
      | false =>
        rw [handleAccept_refuses hreg] at h
        cases h
        exact (Abort.refuse fd addr _).aborts
      | true =>
        rw [handleAccept_accepts hreg] at h
        obtain ⟨hstep, hfresh'⟩ := accept_effect hfresh hreg
        exact hstep.aborts (ih hfresh' h)

theorem readStdin_false {s s' : Server} {line : Option Bytes}
    (h : s.handleReadStdinEvent line = (false, s')) : Aborts none s s' := by
  cases line with
  | none =>
    cases h
    exact (Abort.stop _ _).aborts
  | some line =>
    rw [Server.handleReadStdinEvent] at h
    by_cases hnil : line = []
    · rw [if_pos hnil] at h
      cases h
    · rw [if_neg hnil] at h
      by_cases hquit : line = ascii "/quit"
      · rw [if_pos hquit] at h
        dsimp only at h
        rcases hann : ({ s with serverClosing := true } : Server).announceRoomClosing with ⟨ok, t⟩
        rw [hann] at h
        obtain ⟨cs, k, rfl, hcs⟩ := post_told (e := .closing) rfl rfl hann
        cases ok with
        | false =>
          cases h
          exact (Abort.close (s := s) cs cs k hcs
            (List.forall₂_same.mpr (fun c _ => Told.missed))).aborts
        | true =>
          dsimp only at h
          rcases hclose : (({ s with serverClosing := true } : Server).posted .closing cs
            k).queueCloseToAllClients with ⟨ok, t⟩
          rw [hclose] at h
          obtain ⟨cs', k', rfl, hcs'⟩ := queueClose_told hclose
          have habort : Abort none s
              (({ s with serverClosing := true } : Server).posted .closing cs' k') :=
            Abort.close cs cs' k' hcs hcs'
          cases ok with
          | false =>
            cases h
            exact habort.aborts
          | true =>
            injection h with _ hs
            subst hs
            exact habort.aborts
      · rw [if_neg hquit] at h
        by_cases hlong : ¬protocolPayloadLengthIsLegal line.length
        · rw [if_pos hlong] at h
          cases h
        · rw [if_neg hlong] at h
          obtain ⟨cs, k, rfl, hcs⟩ := post_told (e := .hostChat s.name line) rfl rfl h
          exact (Abort.hostTalk line cs k hcs).aborts

/-- A handler that stops the loop is an abort of nobody or of the connection under the
descriptor of the event. -/
theorem handleEvent_false {s s' : Server} (hd : s.Distinct) {e : EpollEvent} {r : Replies}
    (hfresh : FreshSockets s r.accepts) (h : s.handleEvent e r = (false, s')) :
    ∃ who, Aborts who s s' := by
  refine handleEvent_cases (Q := fun result => result = (false, s') → ∃ who, Aborts who s s') hd
    e r ?_ ?_ ?_ ?_ ?_ ?_ h
  · intro cache h
    cases h
  · intro cache h
    exact ⟨none, (Effects.tuned none s r.ctl cache).aborts
      (acceptConnections_false (hfresh.tuned r.ctl cache) h)⟩
  · intro c hc _ _ hwants h
    exact ⟨_, (Effects.tuned _ s r.ctl _).aborts (receiveClientHello_false hc hwants.1 h)⟩
  · intro c hc _ hwants h
    exact ⟨_, (Effects.tuned _ s r.ctl _).aborts
      (sendNetworkPackage_false hc hwants.1 hwants.2.1 h)⟩
  · intro c hc _ _ _ hwants h
    exact ⟨_, (Effects.tuned _ s r.ctl _).aborts
      (readNetworkPackage_false (hd.tuned r.ctl _) hc hwants.1 h)⟩
  · intro cache h
    exact ⟨none, (Effects.tuned none s r.ctl cache).aborts (readStdin_false h)⟩

/-! ### Every reachable state -/

/-- A reachable state shows the server of a running loop, or what an abort left of it. -/
theorem reach_cases {host : Bytes} {P : Loop → LoopInput → Prop} {l : Loop}
    (hr : (serverSystem host).Reach P l) :
    (∃ l₀, (serverSystem host).Reach P l₀ ∧ l₀.Running ∧ l.server = l₀.server) ∨
      ∃ l₀ who, (serverSystem host).Reach P l₀ ∧ l₀.Running ∧ Aborts who l₀.server l.server := by
  refine hr.invariant_of_reach (I := fun l =>
    (∃ l₀, (serverSystem host).Reach P l₀ ∧ l₀.Running ∧ l.server = l₀.server) ∨
      ∃ l₀ who, (serverSystem host).Reach P l₀ ∧ l₀.Running ∧ Aborts who l₀.server l.server) ?_ ?_
  · intro l hl
    have hreach := System.Reach.of_init (P := P) hl
    obtain ⟨listenFd, epollFd, -, rfl⟩ := hl
    exact Or.inl ⟨_, hreach, by simp [Loop.Running], rfl⟩
  · intro l i l' hreach _ hP hstep
    have hreach' := hreach.snoc hP hstep
    obtain ⟨hadm, hl⟩ := hstep
    obtain ⟨hrun, heq | ⟨r, e, es, ok, rfl, hphase, hev, hphase'⟩⟩ := serverLoopStep_cases hl
    · exact Or.inl ⟨l, hreach, hrun, heq⟩
    · cases ok with
      | true => exact Or.inl ⟨l', hreach', by simp [Loop.Running, hphase'], rfl⟩
      | false =>
        have hinv := reach_inv hreach hrun
        obtain ⟨who, habort⟩ := handleEvent_false hinv.sound.registry.distinct hadm hev
        exact Or.inr ⟨l, who, hreach, hrun, habort⟩

theorem path_relates {host : Bytes} {P : Loop → LoopInput → Prop} {R : Server → Server → Prop}
    (hrefl : ∀ s, R s s) (htrans : ∀ s t u, R s t → R t u → R s u)
    (heff : ∀ who s t, s.Sound → Effects who s t → R s t)
    (habort : ∀ who s t, s.Sound → Abort who s t → R s t) {l l' : Loop}
    (hr : (serverSystem host).Reach P l) (hp : (serverSystem host).Path P l l') :
    R l.server l'.server := by
  refine System.Path.relates (I := (serverSystem host).Reach P)
    (R := fun l l' => R l.server l'.server) (fun _ _ _ hs hP hstep => hs.snoc hP hstep)
    (fun l _ => hrefl l.server) ?_ hp hr
  intro l t i u ht hrel hP hstep
  obtain ⟨hadm, hl⟩ := hstep
  obtain ⟨hrun, heq | ⟨r, e, es, ok, rfl, -, hev, -⟩⟩ := serverLoopStep_cases hl
  · rw [heq]
    exact hrel
  · have hs := (reach_inv ht hrun).sound
    apply htrans _ _ _ hrel
    cases ok with
    | true =>
      obtain ⟨who, hdone⟩ := (handleEvent_true hs.registry.distinct hadm hev).effects
      exact heff who _ _ hs hdone
    | false =>
      obtain ⟨who, v, hdone, hgone⟩ := handleEvent_false hs.registry.distinct hadm hev
      exact htrans _ _ _ (heff who _ _ hs hdone) (habort who _ _ (hdone.sound hs) hgone)

lemma told_of_mem {p : Connection → Prop} {m : Message} {cs cs' : List Connection}
    (h : List.Forall₂ (Told p m) cs cs') {d : Connection} (hd : d ∈ cs') :
    ∃ c ∈ cs, Told p m c d := by
  induction h with
  | nil => cases hd
  | cons hhead _ ih =>
    rcases List.mem_cons.mp hd with rfl | hd
    · exact ⟨_, List.mem_cons_self, hhead⟩
    · obtain ⟨c, hc, ht⟩ := ih hd
      exact ⟨c, List.mem_cons_of_mem _ hc, ht⟩

lemma mem_of_told {p : Connection → Prop} {m : Message} {cs cs' : List Connection}
    (h : List.Forall₂ (Told p m) cs cs') {c : Connection} (hc : c ∈ cs) :
    ∃ d ∈ cs', Told p m c d := by
  induction h with
  | nil => cases hc
  | cons hhead _ ih =>
    rcases List.mem_cons.mp hc with rfl | hc
    · exact ⟨_, List.mem_cons_self, hhead⟩
    · obtain ⟨d, hd, ht⟩ := ih hc
      exact ⟨d, List.mem_cons_of_mem _ hd, ht⟩

end Chatroom
