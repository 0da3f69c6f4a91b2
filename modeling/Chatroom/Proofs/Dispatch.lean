import Chatroom.Proofs.Handlers

/-!
# Handlers that let the loop go on

A handler that returns `true` is a sequence of effects of the connection it was called
for, and leaves that connection in a known condition. The last section says which
handler an event gets.
-/

namespace Chatroom
open Fallible

/-! ### The hello handler -/

/-- The hello handler read a CLIENT_HELLO that it accepts, with `rest` behind it. -/
structure HelloRead (c : Connection) (replies : List RecvReply) (m : Message) (rest : Bytes) :
    Prop where
  received : recvEnd replies ≠ .failed
  parsed : parseFrame (c.inBuffer ++ recvData replies) = .frame m rest
  type : m.type = .clientHello
  name : m.payload ≠ []

theorem receiveClientHello_true {s s' : Server} (hd : s.Distinct) {c : Connection}
    (hc : c ∈ s.connections) (hst : c.state = .waitingForClientHello) {replies : List RecvReply}
    (h : s.receiveClientHello c replies = (true, s')) :
    Effects (some c.serial) s s' ∧ ∀ d ∈ s'.connections, d.serial = c.serial →
      d.state = .waitingForClientHello ∨
        d.state = .sendingServerHello ∧ ∃ m, HelloRead c replies m d.inBuffer := by
  have hcall := Effects.call (some c.serial) s (.recv c.fd)
  have hd' : (s.call (.recv c.fd)).Distinct := hd.congr rfl
  -- every removal is one silent drop
  have hremove : ∀ {c' : Connection}, Drop c c' →
      (s.call (.recv c.fd)).removeConnection c' = (true, s') →
      Effects (some c.serial) s s' ∧ ∀ d ∈ s'.connections, d.serial = c.serial →
        d.state = .waitingForClientHello ∨
          d.state = .sendingServerHello ∧ ∃ m, HelloRead c replies m d.inBuffer := by
    intro c' hdrop hr
    obtain ⟨k, rfl, hk⟩ := removeConnection_true hr
    rw [hdrop.samePeer.fd] at hk
    refine ⟨hcall.tail (Effect.drop k hc hdrop hk), ?_⟩
    intro d hdm hserial
    exact absurd hserial (mem_released hd' hc hdrop.samePeer hdm).2.1
  rw [receiveClientHello_eq s hst] at h
  by_cases hfail : recvEnd replies = .failed
  · rw [if_pos hfail] at h
    exact hremove (Drop.failed (recvData replies) (Or.inl hst)) h
  · rw [if_neg hfail] at h
    obtain ⟨outcome, hp⟩ : ∃ outcome, parseFrame (c.inBuffer ++ recvData replies) = outcome :=
      ⟨_, rfl⟩
    rw [hp] at h
    cases outcome with
    | illegal =>
      exact hremove (Drop.oversizedHello (recvData replies) hst hp) h
    | incomplete =>
      by_cases heof : recvEnd replies = .eof
      · simp only [heof, if_true] at h
        exact hremove (Drop.hangup (recvData replies) hst hp) h
      · simp only [heof, if_false] at h
        cases h
        refine ⟨hcall.tail (Effect.move (s.call (.recv c.fd)).kernel hc
          (Move.listen (recvData replies) hst hp) ?_), ?_⟩
        · intro g
          split_ifs <;> rfl
        · intro d hdm hserial
          left
          rw [eq_of_mem_put hd' hc hdm rfl hserial]
          exact hst
    | frame m rest =>
      dsimp only at h
      by_cases htype : m.type ≠ .clientHello
      · rw [if_pos htype] at h
        exact hremove (Drop.notHello (recvData replies) m rest hst hp htype) h
      · rw [if_neg htype] at h
        by_cases hname : m.payload = []
        · rw [if_pos hname] at h
          exact hremove (Drop.emptyName (recvData replies) m rest hst hp hname) h
        · rw [if_neg hname] at h
          by_cases hhost : protocolPayloadLengthIsLegal s.name.length
          · rw [if_pos hhost] at h
            obtain ⟨k, rfl, hk⟩ := fdMod_true h
            have hmove := Move.introduce (recvData replies) m rest hst hp (not_not.mp htype) hname
              hhost
            refine ⟨hcall.tail (Effect.move k hc hmove ?_), ?_⟩
            · intro g
              rw [hk g]
              split_ifs <;> rfl
            · intro d hdm hserial
              right
              rw [eq_of_mem_put hd' hc hdm rfl hserial]
              exact ⟨rfl, m, hfail, hp, not_not.mp htype, hname⟩
          · rw [if_neg hhost] at h
            cases h

/-! ### The write handler -/

theorem sendNetworkPackage_true {s s' : Server} (hd : s.Distinct) {c : Connection}
    (hc : c ∈ s.connections) (hst : c.state = .sendingServerHello ∨ c.state = .active)
    (hout : c.outBuffer ≠ []) {replies : List SendReply}
    (h : s.sendNetworkPackage c replies = (true, s')) :
    Effects (some c.serial) s s' ∧ ∀ d ∈ s'.connections, d.serial = c.serial →
      d.inBuffer = c.inBuffer ∧ (d.state = c.state ∨ d.state = .active) := by
  have hcall := Effects.call (some c.serial) s (.send c.fd)
  have hd' : (s.call (.send c.fd)).Distinct := hd.congr rfl
  rw [sendNetworkPackage_eq] at h
  by_cases hall : sendCount c.unsent.length replies = c.unsent.length
  · rw [if_pos hall] at h
    by_cases hhello : c.state = .sendingServerHello
    · rw [if_pos hhello] at h
      obtain ⟨k, rfl, hlegal, hk⟩ := post_true (e := .connected c.serial c.name) rfl rfl h
      refine ⟨hcall.tail (Effect.talk k hc (Talk.join hhello) hlegal hk), ?_⟩
      intro d hdm hserial
      obtain ⟨d₀, hd₀, rfl⟩ := mem_enqueueTo hdm
      have hserial₀ : d₀.serial = c.serial := by
        split_ifs at hserial <;> exact hserial
      have heq := eq_of_mem_put hd' hc hd₀ rfl hserial₀
      rw [heq]
      split_ifs <;> exact ⟨rfl, Or.inr rfl⟩
    · rw [if_neg hhello] at h
      obtain ⟨k, rfl, hk⟩ := fdMod_true h
      have hactive : c.state = .active := hst.resolve_left hhello
      refine ⟨hcall.tail (Effect.move k hc (Move.drain hactive hout) ?_), ?_⟩
      · intro g
        rw [hk g]
        split_ifs <;> rfl
      · intro d hdm hserial
        rw [eq_of_mem_put hd' hc hdm rfl hserial]
        exact ⟨rfl, Or.inl rfl⟩
  · rw [if_neg hall] at h
    by_cases hfail : sendFails c.unsent.length replies = true
    · rw [if_pos hfail] at h
      cases h
    · rw [if_neg hfail] at h
      cases h
      have hlt : sendCount c.unsent.length replies < c.unsent.length := by
        have hle := sendCount_le c.unsent.length replies
        omega
      refine ⟨hcall.tail (Effect.move (s.call (.send c.fd)).kernel hc (Move.send _ hst hlt) ?_), ?_⟩
      · intro g
        split_ifs <;> rfl
      · intro d hdm hserial
        rw [eq_of_mem_put hd' hc hdm rfl hserial]
        exact ⟨rfl, Or.inl rfl⟩

/-! ### The read handler -/

lemma leave_true {s s' : Server} (hd : s.Distinct) {c c' : Connection} (hc : c ∈ s.connections)
    (hleave : Leave c c')
    (h : andThen ((s.put c').announceClientDisconnected c')
      (fun s => s.removeConnection c') = (true, s')) :
    Effects (some c.serial) s s' ∧ ∀ d ∈ s'.connections, d.serial ≠ c.serial := by
  have hpeer := hleave.samePeer
  rcases hann : (s.put c').announceClientDisconnected c' with ⟨ok, t⟩
  rw [hann] at h
  cases ok with
  | false => cases h
  | true =>
    obtain ⟨k, rfl, hlegal, hk⟩ :=
      post_true (e := .disconnected c'.serial c'.name) rfl rfl hann
    obtain ⟨k', rfl, hk'⟩ := removeConnection_true h
    rw [hpeer.serial, hleave.name_eq, hpeer.addr] at hlegal ⊢
    rw [hpeer.addr] at hk
    rw [hpeer.fd] at hk'
    exact ⟨Effects.single (Effect.leave k k' hc hleave hlegal hk hk'),
      fun d hdm => (mem_said_goodbye hd hc hleave hdm).2.1⟩

lemma drop_true {s s' : Server} (hd : s.Distinct) {c c' : Connection} (hc : c ∈ s.connections)
    (hdrop : Drop c c') (h : s.removeConnection c' = (true, s')) :
    Effects (some c.serial) s s' ∧ ∀ d ∈ s'.connections, d.serial ≠ c.serial := by
  obtain ⟨k, rfl, hk⟩ := removeConnection_true h
  rw [hdrop.samePeer.fd] at hk
  exact ⟨Effects.single (Effect.drop k hc hdrop hk),
    fun d hdm => (mem_released hd hc hdrop.samePeer hdm).2.1⟩

lemma chat_true {s t : Server} (hd : s.Distinct) {c : Connection} (hc : c ∈ s.connections)
    (hst : c.state = .active ∨ c.state = .closed) {m : Message} {rest : Bytes}
    (hp : parseFrame c.inBuffer = .frame m rest) (htype : m.type = .chat)
    (h : (s.put (c.cut m rest)).post (.chat c.serial c.name m.payload) c.name m (some c.addr) =
      (true, t)) :
    Effect (some c.serial) s t ∧ t.Distinct ∧ c.cut m rest ∈ t.connections := by
  obtain ⟨k, rfl, hlegal, hk⟩ := post_true (e := .chat c.serial c.name m.payload) rfl rfl h
  have hpeer : SamePeer c (c.cut m rest) := ⟨rfl, rfl, rfl⟩
  exact ⟨Effect.talk k hc (Talk.chat m rest hst hp htype) hlegal hk,
    (hd.put hc hpeer).heard _ _ k, mem_heard_self hc hpeer.addr _ k⟩

theorem readMessages_true {s s' : Server} (hd : s.Distinct) {c : Connection}
    (hc : c ∈ s.connections) (hst : c.state = .active ∨ c.state = .closed)
    (h : s.readMessages c = (true, s')) :
    Effects (some c.serial) s s' ∧ ∀ d ∈ s'.connections, d.serial = c.serial →
      d.state = .active ∧ parseFrame d.inBuffer = .incomplete := by
  induction hn : c.inBuffer.length using Nat.strong_induction_on generalizing s c with
  | h n ih =>
    have hgone : (Effects (some c.serial) s s' ∧ ∀ d ∈ s'.connections, d.serial ≠ c.serial) →
        Effects (some c.serial) s s' ∧ ∀ d ∈ s'.connections, d.serial = c.serial →
          d.state = .active ∧ parseFrame d.inBuffer = .incomplete :=
      fun hr => ⟨hr.1, fun d hdm hserial => absurd hserial (hr.2 d hdm)⟩
    obtain ⟨outcome, hp⟩ : ∃ outcome, parseFrame c.inBuffer = outcome := ⟨_, rfl⟩
    cases outcome with
    | illegal =>
      rw [readMessages_illegal s hp] at h
      exact hgone (drop_true hd hc (Drop.oversized hst hp) h)
    | incomplete =>
      rw [readMessages_incomplete s hp hst] at h
      by_cases hclosed : c.state = .closed
      · rw [if_pos hclosed] at h
        exact hgone (leave_true hd hc (Leave.hangup hclosed hp) h)
      · rw [if_neg hclosed] at h
        cases h
        have hself : s.put c = s := by
          rw [Server.put, Keyed.replace_eq_self hd.addrs hc]
        rw [hself]
        refine ⟨Effects.refl s, ?_⟩
        intro d hdm hserial
        rw [Keyed.eq_of_key_eq hd.serials hdm hc hserial]
        exact ⟨hst.resolve_right hclosed, hp⟩
    | frame m rest =>
      rw [readMessages_frame s hp hst] at h
      by_cases htype : m.type = .closeCon
      · rw [if_pos htype] at h
        by_cases hpay : m.payload ≠ []
        · rw [if_pos hpay] at h
          exact hgone (drop_true hd hc (Drop.closePayload m rest hst hp htype hpay) h)
        · rw [if_neg hpay] at h
          exact hgone (leave_true hd hc (Leave.bye m rest hst hp htype (not_not.mp hpay)) h)
      · rw [if_neg htype] at h
        by_cases hchat : m.type ≠ .chat
        · rw [if_pos hchat] at h
          exact hgone (drop_true hd hc (Drop.notChat m rest hst hp htype hchat) h)
        · rw [if_neg hchat] at h
          rcases hpost : (s.put (c.cut m rest)).post (.chat c.serial c.name m.payload) c.name m
            (some c.addr) with ⟨ok, t⟩
          rw [hpost] at h
          cases ok with
          | false => cases h
          | true =>
            obtain ⟨hstep, hdt, hct⟩ := chat_true hd hc hst hp (not_not.mp hchat) hpost
            have hlt : (c.cut m rest).inBuffer.length < n := by
              rw [← hn]
              exact frameCodec.rest_length_lt hp
            obtain ⟨heff, hleft⟩ := ih _ hlt hdt hct hst h rfl
            exact ⟨(Effects.single hstep).trans heff, hleft⟩

lemma ingest_effect {s : Server} (hd : s.Distinct) {c : Connection} (hc : c ∈ s.connections)
    (hst : c.state = .active) {replies : List RecvReply} (hok : recvEnd replies ≠ .failed) :
    Effects (some c.serial) s (s.put (c.ingested replies)) ∧ (s.put (c.ingested replies)).Distinct ∧
      c.ingested replies ∈ (s.put (c.ingested replies)).connections ∧
      ((c.ingested replies).state = .active ∨ (c.ingested replies).state = .closed) := by
  have hstate : (c.ingested replies).state = .active ∨ (c.ingested replies).state = .closed := by
    unfold Connection.ingested
    cases hend : recvEnd replies with
    | wouldBlock => exact Or.inl hst
    | eof => exact Or.inr rfl
    | failed => exact absurd hend hok
  refine ⟨Effects.single ?_, hd.put hc ⟨rfl, rfl, rfl⟩, mem_put hc rfl, hstate⟩
  refine Effect.move s.kernel hc (Move.ingest (recvData replies) _ hst hstate) ?_
  intro g
  split_ifs <;> rfl

theorem readNetworkPackage_true {s s' : Server} (hd : s.Distinct) {c : Connection}
    (hc : c ∈ s.connections) (hst : c.state = .active) {replies : List RecvReply}
    (h : s.readNetworkPackage c replies = (true, s')) :
    Effects (some c.serial) s s' ∧ ∀ d ∈ s'.connections, d.serial = c.serial →
      d.state = .active ∧ parseFrame d.inBuffer = .incomplete := by
  have hcall := Effects.call (some c.serial) s (.recv c.fd)
  have hd' : (s.call (.recv c.fd)).Distinct := hd.congr rfl
  rw [readNetworkPackage_eq] at h
  by_cases hfail : recvEnd replies = .failed
  · rw [if_pos hfail] at h
    have hdrop : Drop c (c.ingested replies) := by
      rw [Connection.ingested, hfail]
      exact Drop.failed (recvData replies) (Or.inr hst)
    obtain ⟨heff, hleft⟩ := drop_true hd' hc hdrop h
    exact ⟨hcall.trans heff, fun d hdm hserial => absurd hserial (hleft d hdm)⟩
  · rw [if_neg hfail] at h
    obtain ⟨hmove, hput, hmem, hstate⟩ := ingest_effect hd' hc hst hfail
    obtain ⟨heff, hleft⟩ := readMessages_true hput hmem hstate h
    exact ⟨hcall.trans (hmove.trans heff), hleft⟩

/-! ### Accepting -/

section Accepted

variable {s : Server} {fd : Fd} {addr : ℕ} {replies : List AcceptReply} {k : Kernel}

lemma handleAccept_accepts
    (hreg : epollRegister (s.call (.accept fd)).kernel fd (epollIn ||| epollRdhup) = (true, k)) :
    s.handleAcceptClientConnectionEvent (.socket fd addr :: replies) =
      Server.handleAcceptClientConnectionEvent { s.call (.accept fd) with
        connections := s.connections ++ [newConnection fd addr s.accepted]
        accepted := s.accepted + 1
        kernel := k } replies := by
  rw [Server.handleAcceptClientConnectionEvent]
  dsimp only
  rw [hreg]
  rfl

lemma handleAccept_refuses
    (hreg : epollRegister (s.call (.accept fd)).kernel fd (epollIn ||| epollRdhup) = (false, k)) :
    s.handleAcceptClientConnectionEvent (.socket fd addr :: replies) =
      (false, { s with
        departed := s.departed ++ [⟨newConnection fd addr s.accepted, s.roomLog.length⟩]
        accepted := s.accepted + 1
        kernel := if fd ≠ -1 then k.close fd else k }) := by
  rw [Server.handleAcceptClientConnectionEvent]
  dsimp only
  rw [hreg]
  dsimp only
  rw [Server.connectionCleanup]
  by_cases hfd : fd ≠ -1
  · rw [if_pos hfd, if_pos hfd]
    simp only [Server.call, newConnection, List.dropLast_concat]
  · rw [if_neg hfd, if_neg hfd]
    simp only [Server.call, newConnection, List.dropLast_concat]

end Accepted

lemma accept_effect {s : Server} {fd : Fd} {addr : ℕ} {replies : List AcceptReply} {k : Kernel}
    (hfresh : FreshSockets s (.socket fd addr :: replies))
    (hreg : epollRegister (s.call (.accept fd)).kernel fd (epollIn ||| epollRdhup) = (true, k)) :
    Effects none s { s.call (.accept fd) with
        connections := s.connections ++ [newConnection fd addr s.accepted]
        accepted := s.accepted + 1
        kernel := k } ∧
      FreshSockets { s.call (.accept fd) with
        connections := s.connections ++ [newConnection fd addr s.accepted]
        accepted := s.accepted + 1
        kernel := k } replies := by
  have hsockets : acceptedSockets (.socket fd addr :: replies) =
      (fd, addr) :: acceptedSockets replies := rfl
  have hopen := hfresh.notOpen (fd, addr) (by simp [hsockets])
  have hlive := hfresh.notLive (fd, addr) (by simp [hsockets])
  have hnonneg := hfresh.nonneg (fd, addr) (by simp [hsockets])
  have hstep := Effect.accept (s := s.call (.accept fd)) fd addr k hopen.2.2.2 hlive
    ⟨hnonneg, hopen.1, hopen.2.1⟩ (epollFdAdd_true hreg)
  refine ⟨(Effects.call none s (.accept fd)).tail hstep, ?_⟩
  have hfds := hfresh.fds_nodup
  have haddrs := hfresh.addrs_nodup
  rw [hsockets, List.map_cons, List.nodup_cons] at hfds haddrs
  refine ⟨hfds.2, haddrs.2, ?_, ?_, ?_⟩
  · intro p hp
    exact hfresh.nonneg p (by simp [hsockets, hp])
  · intro p hp
    obtain ⟨h₁, h₂, h₃, h₄⟩ := hfresh.notOpen p (by simp [hsockets, hp])
    refine ⟨h₁, h₂, h₃, ?_⟩
    intro c hc
    rcases List.mem_append.mp hc with hc | hc
    · exact h₄ c hc
    · rw [List.mem_singleton.mp hc]
      intro heq
      exact hfds.1 (List.mem_map.mpr ⟨p, hp, heq.symm⟩)
  · intro p hp c hc
    rcases List.mem_append.mp hc with hc | hc
    · exact hfresh.notLive p (by simp [hsockets, hp]) c hc
    · rw [List.mem_singleton.mp hc]
      intro heq
      exact haddrs.1 (List.mem_map.mpr ⟨p, hp, heq.symm⟩)

theorem acceptConnections_true {s s' : Server} {replies : List AcceptReply}
    (hfresh : FreshSockets s replies)
    (h : s.handleAcceptClientConnectionEvent replies = (true, s')) : Effects none s s' := by
  induction replies generalizing s with
  | nil =>
    cases h
    exact Effects.refl _
  | cons reply replies ih =>
    cases reply with
    | error e =>
      rw [Server.handleAcceptClientConnectionEvent] at h
      split_ifs at h
      · cases h
        exact Effects.refl _
      · cases h
    | socket fd addr =>
      rcases hreg : epollRegister (s.call (.accept fd)).kernel fd (epollIn ||| epollRdhup)
        with ⟨ok, k⟩
      cases ok with
      | false =>
        rw [handleAccept_refuses hreg] at h
        cases h
      | true =>
        rw [handleAccept_accepts hreg] at h
        obtain ⟨hstep, hfresh'⟩ := accept_effect hfresh hreg
        exact hstep.trans (ih hfresh' h)

/-! ### Standard input -/

theorem readStdin_true {s s' : Server} {line : Option Bytes}
    (h : s.handleReadStdinEvent line = (true, s')) : Effects none s s' := by
  cases line with
  | none => cases h
  | some line =>
    rw [Server.handleReadStdinEvent] at h
    by_cases hnil : line = []
    · rw [if_pos hnil] at h
      cases h
      exact Effects.refl s
    · rw [if_neg hnil] at h
      by_cases hquit : line = ascii "/quit"
      · rw [if_pos hquit] at h
        dsimp only at h
        rcases hann : ({ s with serverClosing := true } : Server).announceRoomClosing with ⟨ok, t⟩
        rw [hann] at h
        cases ok with
        | false => cases h
        | true =>
          dsimp only at h
          obtain ⟨k, rfl, -, hk⟩ := post_true (e := .closing) rfl rfl hann
          rcases hclose : (({ s with serverClosing := true } : Server).heard none .closing
            k).queueCloseToAllClients with ⟨ok, t⟩
          rw [hclose] at h
          cases ok with
          | false => cases h
          | true =>
            obtain ⟨k', rfl, hk'⟩ := queueClose_true hclose
            injection h with _ hs
            subst hs
            exact Effects.single (Effect.close k k' hk hk')
      · rw [if_neg hquit] at h
        by_cases hlong : ¬protocolPayloadLengthIsLegal line.length
        · rw [if_pos hlong] at h
          cases h
          exact Effects.single Effect.print
        · rw [if_neg hlong] at h
          obtain ⟨k, rfl, hlegal, hk⟩ := post_true (e := .hostChat s.name line) rfl rfl h
          exact Effects.single (Effect.hostTalk line k hlegal hk)

/-! ### Which handler an event gets -/

/-- The state in which a handler starts: the verdicts on its `epoll_ctl` calls are known
and the lookup may have changed the cache. -/
def Server.tuned (s : Server) (ctl : List (Option Errno)) (cache : Option ℕ) : Server :=
  { s with kernel := { s.kernel with ctlScript := ctl }, cachedConnection := cache }

/-- The conditions of the `event_is_*` functions on a connection. -/
def Connection.WantsHello (c : Connection) (flags : EventMask) : Prop :=
  c.state = .waitingForClientHello ∧ flags.has (epollIn ||| epollRdhup ||| epollHup)

def Connection.WantsSend (c : Connection) (flags : EventMask) : Prop :=
  (c.state = .sendingServerHello ∨ c.state = .active) ∧ c.outBuffer ≠ [] ∧ flags.has epollOut

def Connection.WantsRead (c : Connection) (flags : EventMask) : Prop :=
  c.state = .active ∧ flags.has (epollIn ||| epollRdhup ||| epollHup)

instance (c : Connection) (flags : EventMask) : Decidable (c.WantsHello flags) :=
  inferInstanceAs (Decidable (_ ∧ _))

instance (c : Connection) (flags : EventMask) : Decidable (c.WantsSend flags) :=
  inferInstanceAs (Decidable (_ ∧ _))

instance (c : Connection) (flags : EventMask) : Decidable (c.WantsRead flags) :=
  inferInstanceAs (Decidable (_ ∧ _))

lemma Connection.WantsHello.not_wantsSend {c : Connection} {flags : EventMask}
    (h : c.WantsHello flags) : ¬c.WantsSend flags := by
  rintro ⟨hst | hst, -⟩
  · rw [h.1] at hst
    cases hst
  · rw [h.1] at hst
    cases hst

lemma Connection.WantsHello.not_wantsRead {c : Connection} {flags : EventMask}
    (h : c.WantsHello flags) : ¬c.WantsRead flags := by
  rintro ⟨hst, -⟩
  rw [h.1] at hst
  cases hst

/-- The tests in the body of the loop, which pick what is done with an event. -/
def Server.dispatch {β : Type} (s : Server) (e : EpollEvent)
    (skip accept hello send read stdin : Server → β) : β :=
  match (if s.serverClosing then s.eventIsSendNetworkPackage e.fd e.events else (true, s)) with
  | (false, s) => skip s
  | (true, s) =>
    if s.eventIsAcceptClientConnection e.fd e.events then accept s
    else
      match s.eventIsReceiveClientHello e.fd e.events with
      | (true, s) => hello s
      | (false, s) =>
        match s.eventIsSendNetworkPackage e.fd e.events with
        | (true, s) => send s
        | (false, s) =>
          match s.eventIsReadNetworkPackage e.fd e.events with
          | (true, s) => read s
          | (false, s) => if s.eventIsReadStdin e.fd e.events then stdin s else skip s

lemma handleEvent_dispatch (s : Server) (e : EpollEvent) (r : Replies) :
    s.handleEvent e r = (s.tuned r.ctl s.cachedConnection).dispatch e (fun t => (true, t))
      (fun t => t.handleAcceptClientConnectionEvent r.accepts)
      (fun t => t.handleReceiveClientHelloEvent e.fd r.recvs)
      (fun t => t.handleSendNetworkPackageEvent e.fd r.sends)
      (fun t => t.handleReadNetworkPackageEvent e.fd r.recvs)
      (fun t => t.handleReadStdinEvent r.line) :=
  rfl

/-- The handlers of an open room, in the order of the dispatch, for the connection that
was found under the descriptor of the event. -/
def Server.handleOpen (s : Server) (found : Option Connection) (e : EpollEvent) (r : Replies) :
    Bool × Server :=
  match found with
  | some c =>
    if c.WantsHello e.events then s.receiveClientHello c r.recvs
    else if c.WantsSend e.events then s.sendNetworkPackage c r.sends
    else if c.WantsRead e.events then s.readNetworkPackage c r.recvs
    else if e.fd = stdinFileno ∧ e.events.has epollIn then s.handleReadStdinEvent r.line
    else (true, s)
  | none =>
    if e.fd = stdinFileno ∧ e.events.has epollIn then s.handleReadStdinEvent r.line else (true, s)

/-- The only handler of a closing room. -/
def Server.handleClosing (s : Server) (found : Option Connection) (e : EpollEvent) (r : Replies) :
    Bool × Server :=
  match found with
  | some c => if c.WantsSend e.events then s.sendNetworkPackage c r.sends else (true, s)
  | none => (true, s)

lemma Server.Distinct.tuned {s : Server} (hd : s.Distinct) (ctl : List (Option Errno))
    (cache : Option ℕ) : (s.tuned ctl cache).Distinct :=
  hd.congr rfl

lemma Server.getConnectionOf_tuned {s : Server} (hd : s.Distinct) (ctl : List (Option Errno))
    (cache : Option ℕ) (fd : Fd) :
    (s.tuned ctl cache).getConnectionOf fd =
      (s.find fd, s.tuned ctl ((s.find fd).map Connection.addr)) :=
  Server.getConnectionOf_eq (hd.tuned ctl cache) fd

section Lookup

variable {s : Server} (hd : s.Distinct) {fd : Fd} (flags : EventMask) (ctl : List (Option Errno))
  (cache : Option ℕ)

include hd

lemma eventIsReceiveClientHello_some {c : Connection} (hfind : s.find fd = some c)
    (hopen : s.serverClosing = false) :
    (s.tuned ctl cache).eventIsReceiveClientHello fd flags =
      (decide (c.WantsHello flags), s.tuned ctl (some c.addr)) := by
  have hclosing : (s.tuned ctl cache).serverClosing = false := hopen
  rw [Server.eventIsReceiveClientHello, hclosing, Server.getConnectionOf_tuned hd, hfind]
  rfl

lemma eventIsReceiveClientHello_none (hfind : s.find fd = none) (hopen : s.serverClosing = false) :
    (s.tuned ctl cache).eventIsReceiveClientHello fd flags = (false, s.tuned ctl none) := by
  have hclosing : (s.tuned ctl cache).serverClosing = false := hopen
  rw [Server.eventIsReceiveClientHello, hclosing, Server.getConnectionOf_tuned hd, hfind]
  rfl

lemma eventIsSendNetworkPackage_some {c : Connection} (hfind : s.find fd = some c) :
    (s.tuned ctl cache).eventIsSendNetworkPackage fd flags =
      (decide (c.WantsSend flags), s.tuned ctl (some c.addr)) := by
  rw [Server.eventIsSendNetworkPackage, Server.getConnectionOf_tuned hd, hfind]
  rfl

lemma eventIsSendNetworkPackage_none (hfind : s.find fd = none) :
    (s.tuned ctl cache).eventIsSendNetworkPackage fd flags = (false, s.tuned ctl none) := by
  rw [Server.eventIsSendNetworkPackage, Server.getConnectionOf_tuned hd, hfind]
  rfl

lemma eventIsReadNetworkPackage_some {c : Connection} (hfind : s.find fd = some c)
    (hopen : s.serverClosing = false) :
    (s.tuned ctl cache).eventIsReadNetworkPackage fd flags =
      (decide (c.WantsRead flags), s.tuned ctl (some c.addr)) := by
  have hclosing : (s.tuned ctl cache).serverClosing = false := hopen
  rw [Server.eventIsReadNetworkPackage, hclosing, Server.getConnectionOf_tuned hd, hfind]
  rfl

lemma eventIsReadNetworkPackage_none (hfind : s.find fd = none) (hopen : s.serverClosing = false) :
    (s.tuned ctl cache).eventIsReadNetworkPackage fd flags = (false, s.tuned ctl none) := by
  have hclosing : (s.tuned ctl cache).serverClosing = false := hopen
  rw [Server.eventIsReadNetworkPackage, hclosing, Server.getConnectionOf_tuned hd, hfind]
  rfl

end Lookup

lemma eventIsAccept_tuned (s : Server) (fd : Fd) (flags : EventMask) (ctl : List (Option Errno))
    (cache : Option ℕ) :
    (s.tuned ctl cache).eventIsAcceptClientConnection fd flags =
      (!s.serverClosing && decide (fd = s.listenFd ∧ flags.has epollIn)) := rfl

lemma eventIsReadStdin_tuned (s : Server) (fd : Fd) (flags : EventMask) (ctl : List (Option Errno))
    (cache : Option ℕ) :
    (s.tuned ctl cache).eventIsReadStdin fd flags =
      (!s.serverClosing && decide (fd = stdinFileno ∧ flags.has epollIn)) := rfl

section Dispatch

variable {s : Server} {e : EpollEvent} {β : Type} {skip accept hello send read stdin : Server → β}
  {ctl : List (Option Errno)} {cache : Option ℕ}

lemma dispatch_closing (hd : s.Distinct) (hclosing : s.serverClosing = true) :
    (s.tuned ctl cache).dispatch e skip accept hello send read stdin =
      match s.find e.fd with
      | some c =>
        if c.WantsSend e.events then send (s.tuned ctl (some c.addr))
        else skip (s.tuned ctl (some c.addr))
      | none => skip (s.tuned ctl none) := by
  have htuned : ∀ cache, (s.tuned ctl cache).serverClosing = true := fun _ => hclosing
  have hhello : ∀ cache, (s.tuned ctl cache).eventIsReceiveClientHello e.fd e.events =
      (false, s.tuned ctl cache) := by
    intro cache
    rw [Server.eventIsReceiveClientHello, if_pos (htuned cache)]
  rw [Server.dispatch, if_pos (htuned cache)]
  cases hfind : s.find e.fd with
  | none => rw [eventIsSendNetworkPackage_none hd _ _ _ hfind]
  | some c =>
    rw [eventIsSendNetworkPackage_some hd _ _ _ hfind]
    by_cases hsend : c.WantsSend e.events
    · simp only [hsend, decide_true, eventIsAccept_tuned, hclosing, Bool.not_true, Bool.false_and,
        Bool.false_eq_true, if_false, hhello, eventIsSendNetworkPackage_some hd _ _ _ hfind,
        if_true]
    · simp only [hsend, decide_false, if_false]

lemma dispatch_accept (hopen : s.serverClosing = false)
    (he : e.fd = s.listenFd ∧ e.events.has epollIn) :
    (s.tuned ctl cache).dispatch e skip accept hello send read stdin =
      accept (s.tuned ctl cache) := by
  have htuned : (s.tuned ctl cache).serverClosing = false := hopen
  simp only [Server.dispatch, htuned, Bool.false_eq_true, if_false, eventIsAccept_tuned, hopen, he,
    and_self, decide_true, Bool.not_false, Bool.and_true, if_true]

lemma dispatch_open (hd : s.Distinct) (hopen : s.serverClosing = false)
    (he : ¬(e.fd = s.listenFd ∧ e.events.has epollIn)) :
    (s.tuned ctl cache).dispatch e skip accept hello send read stdin =
      match s.find e.fd with
      | some c =>
        if c.WantsHello e.events then hello (s.tuned ctl (some c.addr))
        else if c.WantsSend e.events then send (s.tuned ctl (some c.addr))
        else if c.WantsRead e.events then read (s.tuned ctl (some c.addr))
        else if e.fd = stdinFileno ∧ e.events.has epollIn then stdin (s.tuned ctl (some c.addr))
        else skip (s.tuned ctl (some c.addr))
      | none =>
        if e.fd = stdinFileno ∧ e.events.has epollIn then stdin (s.tuned ctl none)
        else skip (s.tuned ctl none) := by
  have htuned : (s.tuned ctl cache).serverClosing = false := hopen
  simp only [Server.dispatch, htuned, Bool.false_eq_true, if_false, eventIsAccept_tuned, hopen, he,
    decide_false, Bool.and_false]
  cases hfind : s.find e.fd with
  | none =>
    simp only [eventIsReceiveClientHello_none hd _ _ _ hfind hopen,
      eventIsSendNetworkPackage_none hd _ _ _ hfind,
      eventIsReadNetworkPackage_none hd _ _ _ hfind hopen, eventIsReadStdin_tuned, hopen,
      Bool.not_false, Bool.true_and, decide_eq_true_eq]
  | some c =>
    simp only [eventIsReceiveClientHello_some hd _ _ _ hfind hopen]
    by_cases hhello : c.WantsHello e.events
    · simp only [hhello, decide_true, if_true]
    · simp only [hhello, decide_false, eventIsSendNetworkPackage_some hd _ _ _ hfind, if_false]
      by_cases hsend : c.WantsSend e.events
      · simp only [hsend, decide_true, if_true]
      · simp only [hsend, decide_false, eventIsReadNetworkPackage_some hd _ _ _ hfind hopen,
          if_false]
        by_cases hread : c.WantsRead e.events
        · simp only [hread, decide_true, if_true]
        · simp only [hread, decide_false, eventIsReadStdin_tuned, hopen, Bool.not_false,
            Bool.true_and, decide_eq_true_eq, if_false]

end Dispatch

lemma handleEvent_closing {s : Server} (hd : s.Distinct) (hclosing : s.serverClosing = true)
    (e : EpollEvent) (r : Replies) :
    s.handleEvent e r =
      (s.tuned r.ctl ((s.find e.fd).map Connection.addr)).handleClosing (s.find e.fd) e r := by
  rw [handleEvent_dispatch, dispatch_closing hd hclosing]
  cases hfind : s.find e.fd with
  | none => rfl
  | some c =>
    simp only [Server.handleSendNetworkPackageEvent, Server.getConnectionOf_tuned hd, hfind]
    rfl

lemma handleEvent_accept {s : Server} (hopen : s.serverClosing = false) {e : EpollEvent}
    (he : e.fd = s.listenFd ∧ e.events.has epollIn) (r : Replies) :
    s.handleEvent e r =
      (s.tuned r.ctl s.cachedConnection).handleAcceptClientConnectionEvent r.accepts := by
  rw [handleEvent_dispatch, dispatch_accept hopen he]

lemma handleEvent_open {s : Server} (hd : s.Distinct) (hopen : s.serverClosing = false)
    {e : EpollEvent} (he : ¬(e.fd = s.listenFd ∧ e.events.has epollIn)) (r : Replies) :
    s.handleEvent e r =
      (s.tuned r.ctl ((s.find e.fd).map Connection.addr)).handleOpen (s.find e.fd) e r := by
  rw [handleEvent_dispatch, dispatch_open hd hopen he]
  cases hfind : s.find e.fd with
  | none => rfl
  | some c =>
    simp only [Server.handleReceiveClientHelloEvent, Server.handleSendNetworkPackageEvent,
      Server.handleReadNetworkPackageEvent, Server.getConnectionOf_tuned hd, hfind]
    rfl

/-- Whatever the event is, one of the handlers is called or none, and `Q` holds if it holds after
each of them. -/
theorem handleEvent_cases {Q : Bool × Server → Prop} {s : Server} (hd : s.Distinct) (e : EpollEvent)
    (r : Replies) (hquiet : ∀ cache, Q (true, s.tuned r.ctl cache))
    (haccept : ∀ cache, Q ((s.tuned r.ctl cache).handleAcceptClientConnectionEvent r.accepts))
    (hhello : ∀ c ∈ s.connections, c.fd = e.fd → s.serverClosing = false → c.WantsHello e.events →
      Q ((s.tuned r.ctl (some c.addr)).receiveClientHello c r.recvs))
    (hsend : ∀ c ∈ s.connections, c.fd = e.fd → c.WantsSend e.events →
      Q ((s.tuned r.ctl (some c.addr)).sendNetworkPackage c r.sends))
    (hread : ∀ c ∈ s.connections, c.fd = e.fd → s.serverClosing = false →
      ¬c.WantsSend e.events → c.WantsRead e.events →
      Q ((s.tuned r.ctl (some c.addr)).readNetworkPackage c r.recvs))
    (hstdin : ∀ cache, Q ((s.tuned r.ctl cache).handleReadStdinEvent r.line)) :
    Q (s.handleEvent e r) := by
  by_cases hclosing : s.serverClosing = true
  · rw [handleEvent_closing hd hclosing]
    cases hfind : s.find e.fd with
    | none => exact hquiet none
    | some c =>
      obtain ⟨hc, hfd⟩ := Server.find_some hfind
      rw [Server.handleClosing]
      split_ifs with hw
      · exact hsend c hc hfd hw
      · exact hquiet (some c.addr)
  · have hopen : s.serverClosing = false := by simpa using hclosing
    by_cases hacc : e.fd = s.listenFd ∧ e.events.has epollIn
    · rw [handleEvent_accept hopen hacc]
      exact haccept s.cachedConnection
    · rw [handleEvent_open hd hopen hacc]
      cases hfind : s.find e.fd with
      | none =>
        rw [Server.handleOpen]
        split_ifs
        · exact hstdin none
        · exact hquiet none
      | some c =>
        obtain ⟨hc, hfd⟩ := Server.find_some hfind
        rw [Server.handleOpen]
        split_ifs with hwants hw hwr
        · exact hhello c hc hfd hopen hwants
        · exact hsend c hc hfd hw
        · exact hread c hc hfd hopen hw hwr
        · exact hstdin (some c.addr)
        · exact hquiet (some c.addr)

end Chatroom
