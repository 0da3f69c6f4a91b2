import Chatroom.Library.Fallible
import Chatroom.Proofs.Broadcast

/-!
# The handlers as sequences of effects

Each handler body that returns `true` is an `Effects` of the connection it was called
for. The lemmas also say in what condition it leaves that connection.
-/

namespace Chatroom
open Fallible

/-- No two live connections share a descriptor, an address or a serial number. -/
structure Server.Distinct (s : Server) : Prop where
  fds : (s.connections.map Connection.fd).Nodup
  addrs : (s.connections.map Connection.addr).Nodup
  serials : (s.connections.map Connection.serial).Nodup

lemma Server.Distinct.congr {s t : Server} (h : s.Distinct) (ht : t.connections = s.connections) :
    t.Distinct :=
  ⟨by rw [ht]; exact h.fds, by rw [ht]; exact h.addrs, by rw [ht]; exact h.serials⟩

/-- A plain search of `server->connections`. -/
def Server.find (s : Server) (fd : Fd) : Option Connection :=
  Keyed.lookup Connection.fd fd s.connections

lemma Server.find_some {s : Server} {fd : Fd} {c : Connection} (h : s.find fd = some c) :
    c ∈ s.connections ∧ c.fd = fd :=
  Keyed.lookup_some h

lemma Server.find_of_mem {s : Server} (hd : s.Distinct) {c : Connection}
    (hc : c ∈ s.connections) : s.find c.fd = some c :=
  Keyed.lookup_of_mem hd.fds hc

theorem Server.getConnectionOf_eq {s : Server} (hd : s.Distinct) (fd : Fd) :
    s.getConnectionOf fd =
      (s.find fd, { s with cachedConnection := (s.find fd).map Connection.addr }) := by
  have hfind : Keyed.lookup Connection.fd fd s.connections = s.find fd := rfl
  cases hcache : s.cachedConnection with
  | none =>
    simp only [Server.getConnectionOf, hcache, hfind]
    cases s.find fd <;> rfl
  | some addr =>
    cases hl : Keyed.lookup Connection.addr addr s.connections with
    | none =>
      simp only [Server.getConnectionOf, hcache, hl, hfind]
      cases s.find fd <;> rfl
    | some c =>
      obtain ⟨hc, haddr⟩ := Keyed.lookup_some hl
      by_cases hfd : c.fd = fd
      · have hsome : s.find fd = some c := hfd ▸ Server.find_of_mem hd hc
        simp only [Server.getConnectionOf, hcache, hl, hfd, if_true, hsome, Option.map_some, haddr]
        rw [← hcache]
      · simp only [Server.getConnectionOf, hcache, hl, hfd, if_false, hfind]
        cases s.find fd <;> rfl

/-! ### Building blocks -/

lemma Effects.call (who : Option ℕ) (s : Server) (x : SysCall) : Effects who s (s.call x) :=
  Effects.single (Effect.silent (s.kernel.call x) s.cachedConnection (fun _ => rfl))

lemma removeConnection_eq (s : Server) (c : Connection) :
    ∃ k, s.removeConnection c = (true, s.released c k) ∧
      ∀ g, g ≠ c.fd → k.mask g = s.kernel.mask g := by
  unfold Server.removeConnection Server.connectionCleanup
  by_cases h : c.fd ≠ -1
  · refine ⟨((epollFdRemove s.kernel c.fd 0).2).close c.fd, ?_, ?_⟩
    · simp only [h, ne_eq, not_false_eq_true, if_true]
      rfl
    · intro g hg
      rw [Kernel.mask_close, if_neg hg, epollFdRemove_mask s.kernel c.fd 0 hg]
  · refine ⟨(epollFdRemove s.kernel c.fd 0).2, ?_, ?_⟩
    · simp only [h, if_false]
      rfl
    · intro g hg
      exact epollFdRemove_mask s.kernel c.fd 0 hg

lemma removeConnection_true {s s' : Server} {c : Connection}
    (h : s.removeConnection c = (true, s')) :
    ∃ k, s' = s.released c k ∧ ∀ g, g ≠ c.fd → k.mask g = s.kernel.mask g := by
  obtain ⟨k, hr, hk⟩ := removeConnection_eq s c
  rw [hr] at h
  cases h
  exact ⟨k, rfl, hk⟩

lemma fdMod_true {s s' : Server} {fd : Fd} {events : EventMask}
    (h : s.fdMod fd events = (true, s')) :
    ∃ k, s' = { s with kernel := k } ∧
      ∀ g, k.mask g = if g = fd then some events else s.kernel.mask g := by
  unfold Server.fdMod at h
  rcases hm : epollFdMod s.kernel fd events with ⟨ok, k⟩
  rw [hm] at h
  cases h
  exact ⟨k, rfl, epollFdMod_true hm⟩

lemma eq_of_mem_put {s : Server} (hd : s.Distinct) {c c' d : Connection} (hc : c ∈ s.connections)
    (hdm : d ∈ (s.put c').connections) (haddr : c'.addr = c.addr) (hserial : d.serial = c.serial) :
    d = c' := by
  rcases Keyed.mem_replace hdm with h | ⟨hmem, hne⟩
  · exact h
  · have hdc := Keyed.eq_of_key_eq hd.serials hmem hc hserial
    rw [hdc, haddr] at hne
    exact absurd rfl hne

lemma Server.Distinct.addr_ne {s : Server} (hd : s.Distinct) {c d : Connection}
    (hc : c ∈ s.connections) (hdm : d ∈ s.connections) (hne : d.serial ≠ c.serial) :
    d.addr ≠ c.addr :=
  fun heq => hne (congrArg Connection.serial (Keyed.eq_of_key_eq hd.addrs hdm hc heq))

lemma mem_released {s : Server} (hd : s.Distinct) {c c' d : Connection} (hc : c ∈ s.connections)
    (hpeer : SamePeer c c') {k : Kernel} (hdm : d ∈ (s.released c' k).connections) :
    d ∈ s.connections ∧ d.serial ≠ c.serial ∧ d.fd ≠ c.fd := by
  obtain ⟨hmem, hne⟩ := (Keyed.mem_remove hd.addrs).mp hdm
  rw [hpeer.addr] at hne
  refine ⟨hmem, ?_, ?_⟩
  · intro hserial
    exact hne (congrArg Connection.addr (Keyed.eq_of_key_eq hd.serials hmem hc hserial))
  · intro hfd
    exact hne (congrArg Connection.addr (Keyed.eq_of_key_eq hd.fds hmem hc hfd))

lemma Server.map_put {s : Server} (hd : s.Distinct) {c c' : Connection} (hc : c ∈ s.connections)
    (haddr : c'.addr = c.addr) {α : Type} (f : Connection → α) (hf : f c' = f c) :
    (s.put c').connections.map f = s.connections.map f :=
  Keyed.map_replace hd.addrs hc haddr f hf

lemma Server.Distinct.put {s : Server} (hd : s.Distinct) {c c' : Connection}
    (hc : c ∈ s.connections) (hpeer : SamePeer c c') : (s.put c').Distinct :=
  ⟨by rw [Server.map_put hd hc hpeer.addr _ hpeer.fd]; exact hd.fds,
    by rw [Server.map_put hd hc hpeer.addr _ hpeer.addr]; exact hd.addrs,
    by rw [Server.map_put hd hc hpeer.addr _ hpeer.serial]; exact hd.serials⟩

lemma Server.Distinct.enqueueTo {s : Server} (hd : s.Distinct) (p : Connection → Prop)
    [DecidablePred p] (m : Message) {t : Server}
    (ht : t.connections = enqueueTo p m s.connections) : t.Distinct :=
  ⟨by rw [ht, map_enqueueTo Connection.fd (fun _ _ => rfl)]; exact hd.fds,
    by rw [ht, map_enqueueTo Connection.addr (fun _ _ => rfl)]; exact hd.addrs,
    by rw [ht, map_enqueueTo Connection.serial (fun _ _ => rfl)]; exact hd.serials⟩

lemma Server.Distinct.heard {s : Server} (hd : s.Distinct) (sender : Option ℕ) (e : RoomEntry)
    (k : Kernel) : (s.heard sender e k).Distinct :=
  hd.enqueueTo (Hears sender) e.message rfl

lemma Server.Distinct.remove {s : Server} (hd : s.Distinct) (addr : ℕ) {t : Server}
    (ht : t.connections = Keyed.remove Connection.addr addr s.connections) : t.Distinct := by
  have hsub : (Keyed.remove Connection.addr addr s.connections).Sublist s.connections :=
    Keyed.remove_sublist addr s.connections
  exact ⟨by rw [ht]; exact hd.fds.sublist (hsub.map _),
    by rw [ht]; exact hd.addrs.sublist (hsub.map _),
    by rw [ht]; exact hd.serials.sublist (hsub.map _)⟩

lemma mem_put {s : Server} {c c' : Connection} (hc : c ∈ s.connections)
    (haddr : c'.addr = c.addr) : c' ∈ (s.put c').connections :=
  Keyed.mem_replace_self hc haddr.symm

lemma mem_put_of_ne {s : Server} (hd : s.Distinct) {a a' c : Connection} (ha : a ∈ s.connections)
    (hc : c ∈ s.connections) (haddr : a'.addr = a.addr) (hne : c.serial ≠ a.serial) :
    c ∈ (s.put a').connections := by
  refine Keyed.mem_replace_of_ne hc ?_
  rw [haddr]
  exact hd.addr_ne ha hc hne

lemma mem_heard_self {s : Server} {c c' : Connection} (hc : c ∈ s.connections)
    (haddr : c'.addr = c.addr) (e : RoomEntry) (k : Kernel) :
    c' ∈ ((s.put c').heard (some c.addr) e k).connections := by
  refine List.mem_map.mpr ⟨c', mem_put hc haddr, ?_⟩
  rw [if_neg (fun hh => hh.1 (congrArg some haddr))]

lemma mem_said_goodbye {s : Server} (hd : s.Distinct) {c c' d : Connection}
    (hc : c ∈ s.connections) (hleave : Leave c c') {e : RoomEntry} {k k' : Kernel}
    (hdm : d ∈ (((s.put c').heard (some c.addr) e k).released c' k').connections) :
    d ∈ ((s.put c').heard (some c.addr) e k).connections ∧ d.serial ≠ c.serial ∧ d.fd ≠ c.fd := by
  have hpeer := hleave.samePeer
  have h := mem_released ((hd.put hc hpeer).heard (some c.addr) e k)
    (mem_heard_self hc hpeer.addr e k) (SamePeer.refl c') hdm
  rw [hpeer.serial, hpeer.fd] at h
  exact h

/-! ### Parsing -/

section Parse

variable {c : Connection}

lemma parseMessage_incomplete (h : parseFrame c.inBuffer = .incomplete) :
    protocolParseMessage c = (none, c) := by
  rw [protocolParseMessage_eq, h]

lemma parseMessage_illegal (h : parseFrame c.inBuffer = .illegal) :
    protocolParseMessage c = (none, c.reject (.oversizedPayload (declaredLength c.inBuffer))) := by
  rw [protocolParseMessage_eq, h]

lemma parseMessage_frame {m : Message} {rest : Bytes} (h : parseFrame c.inBuffer = .frame m rest) :
    protocolParseMessage c = (some m, c.cut m rest) := by
  rw [protocolParseMessage_eq, h]
  rfl

end Parse

/-! ### The hello handler -/

/-- A connection that introduced itself as `m.payload` and is greeted by `host`. -/
def Connection.greeted (c : Connection) (host : Bytes) (m : Message) (rest : Bytes) : Connection :=
  { (c.cut m rest).enqueue (serverGreeting host) with
    name := m.payload, state := .sendingServerHello }

/-- What the hello handler does, by what `recv` returned and what the parser finds in it. -/
theorem receiveClientHello_eq (s : Server) {c : Connection}
    (hst : c.state = .waitingForClientHello) (replies : List RecvReply) :
    s.receiveClientHello c replies =
      if recvEnd replies = .failed then
        (s.call (.recv c.fd)).removeConnection
          { c.absorb (recvData replies) with state := .connectionError }
      else match parseFrame (c.inBuffer ++ recvData replies) with
        | .illegal => (s.call (.recv c.fd)).removeConnection ((c.absorb (recvData replies)).reject
            (.oversizedPayload (declaredLength (c.inBuffer ++ recvData replies))))
        | .incomplete =>
          if recvEnd replies = .eof then
            (s.call (.recv c.fd)).removeConnection
              { c.absorb (recvData replies) with state := .closed }
          else (true, (s.call (.recv c.fd)).put (c.absorb (recvData replies)))
        | .frame m rest =>
          if m.type ≠ .clientHello then
            (s.call (.recv c.fd)).removeConnection
              (((c.absorb (recvData replies)).cut m rest).reject (.expectedClientHello m.type))
          else if m.payload = [] then
            (s.call (.recv c.fd)).removeConnection
              (((c.absorb (recvData replies)).cut m rest).reject .emptyName)
          else if protocolPayloadLengthIsLegal s.name.length then
            ((s.call (.recv c.fd)).put ((c.absorb (recvData replies)).greeted s.name m rest)).fdMod
              c.fd fullMask
          else (false, (s.call (.recv c.fd)).put
            (Connection.reject { (c.absorb (recvData replies)).cut m rest with name := m.payload }
              (.payloadTooLarge s.name.length))) := by
  have hread := connectionReadIntoInBuffer_eq c replies
  by_cases hfail : recvEnd replies = .failed
  · rw [if_pos hfail]
    rw [hfail] at hread
    simp only [Server.receiveClientHello, hread]
    rfl
  · rw [if_neg hfail]
    have hok : (recvEnd replies != .failed) = true := by simpa using hfail
    obtain ⟨c₁, hc₁⟩ : ∃ c₁, c₁ = { c.absorb (recvData replies) with
      state := (recvEnd replies).state c.state } := ⟨_, rfl⟩
    replace hread : connectionReadIntoInBuffer c replies = (true, c₁) := by
      rw [hread, hok, hc₁]
      rfl
    have hin : c₁.inBuffer = c.inBuffer ++ recvData replies := by rw [hc₁]; rfl
    have hstate : c₁.state ≠ .connectionError := by
      rw [hc₁, hst]
      cases hend : recvEnd replies <;> simp_all [RecvEnd.state]
    have hclosed : c₁.state = .closed ↔ recvEnd replies = .eof := by
      rw [hc₁, hst]
      cases hend : recvEnd replies <;> simp_all [RecvEnd.state]
    rw [← hin]
    cases hp : parseFrame c₁.inBuffer with
    | illegal =>
      have hrejected : (c₁.reject (.oversizedPayload (declaredLength c₁.inBuffer))).state =
        .connectionError := rfl
      simp only [Server.receiveClientHello, hread, parseMessage_illegal hp, hrejected, if_true]
      rw [hc₁]
      rfl
    | incomplete =>
      simp only [Server.receiveClientHello, hread, parseMessage_incomplete hp, hstate, if_false,
        hclosed]
      rw [hc₁]
      by_cases heof : recvEnd replies = .eof
      · simp only [heof, if_true, RecvEnd.state]
      · have hblock : recvEnd replies = .wouldBlock := by
          cases hend : recvEnd replies <;> simp_all
        simp only [hblock, RecvEnd.state]
        rfl
    | frame m rest =>
      have hcut : (c₁.cut m rest).state ≠ .connectionError := hstate
      simp only [Server.receiveClientHello, hread, parseMessage_frame hp, hcut, if_false,
        protocolQueueMessage_eq]
      by_cases htype : m.type ≠ .clientHello
      · rw [if_pos htype, if_pos htype, hc₁]
        rfl
      · rw [if_neg htype, if_neg htype]
        by_cases hname : m.payload = []
        · rw [if_pos hname, if_pos hname, hc₁]
          rfl
        · rw [if_neg hname, if_neg hname]
          have hpay : (Message.of .serverHello s.name).payload = s.name := rfl
          have hname' : (s.call (.recv c.fd)).name = s.name := rfl
          rw [hname', hpay]
          by_cases hhost : protocolPayloadLengthIsLegal s.name.length
          · rw [if_pos hhost, if_pos hhost, hc₁]
            rfl
          · rw [if_neg hhost, if_neg hhost, hc₁]
            rfl

/-! ### The write handler -/

/-- A connection whose greeting was sent. -/
def Connection.joined (c : Connection) : Connection :=
  { c.drained with state := .active }

theorem sendNetworkPackage_eq (s : Server) {c : Connection} (replies : List SendReply) :
    s.sendNetworkPackage c replies =
      if sendCount c.unsent.length replies = c.unsent.length then
        if c.state = .sendingServerHello then
          ((s.call (.send c.fd)).put c.joined).announceClientConnected c.joined
        else ((s.call (.send c.fd)).put c.drained).fdMod c.fd quietMask
      else if sendFails c.unsent.length replies then
        (false, (s.call (.send c.fd)).put
          { c.advance (sendCount c.unsent.length replies) with state := .connectionError })
      else (true, (s.call (.send c.fd)).put (c.advance (sendCount c.unsent.length replies))) := by
  have hflush := connectionFlushOutBuffer_eq c replies
  by_cases hall : sendCount c.unsent.length replies = c.unsent.length
  · rw [if_pos hall] at hflush ⊢
    simp only [Server.sendNetworkPackage, hflush, ne_eq, not_true_eq_false, if_false]
    by_cases hst : c.state = .sendingServerHello
    · rw [if_pos hst, if_pos hst]
      rfl
    · rw [if_neg hst, if_neg hst]
      rfl
  · rw [if_neg hall] at hflush ⊢
    have hne : c.outBuffer ≠ [] := by
      intro hnil
      have hzero : c.unsent.length = 0 := by simp [Connection.unsent, hnil]
      have hle := sendCount_le c.unsent.length replies
      omega
    by_cases hfail : sendFails c.unsent.length replies = true
    · rw [hfail] at hflush
      simp only [Server.sendNetworkPackage, hflush, hfail]
      rfl
    · have hfail : sendFails c.unsent.length replies = false := by simpa using hfail
      rw [hfail] at hflush
      simp only [Server.sendNetworkPackage, hflush, hfail, Bool.not_false, ne_eq, hne,
        not_false_eq_true, if_true]
      rfl

/-! ### The read loop -/

section ReadLoop

variable (s : Server) {c : Connection}

lemma readMessages_illegal (hp : parseFrame c.inBuffer = .illegal) :
    s.readMessages c =
      s.removeConnection (c.reject (.oversizedPayload (declaredLength c.inBuffer))) := by
  rw [Server.readMessages]
  split
  · rename_i conn h
    rw [parseMessage_illegal hp] at h
    cases h
    rfl
  · rename_i message conn h
    rw [parseMessage_illegal hp] at h
    cases h

lemma readMessages_incomplete (hp : parseFrame c.inBuffer = .incomplete)
    (hst : c.state = .active ∨ c.state = .closed) :
    s.readMessages c =
      if c.state = .closed then
        andThen ((s.put c).announceClientDisconnected c) (fun s => s.removeConnection c)
      else (true, s.put c) := by
  rw [Server.readMessages]
  split
  · rename_i conn h
    rw [parseMessage_incomplete hp] at h
    cases h
    have hne : c.state ≠ .connectionError := by
      rcases hst with h | h <;> simp [h]
    rw [if_neg hne]
    rcases (s.put c).announceClientDisconnected c with ⟨ok, t⟩
    cases ok <;> rfl
  · rename_i message conn h
    rw [parseMessage_incomplete hp] at h
    cases h

lemma readMessages_frame {m : Message} {rest : Bytes} (hp : parseFrame c.inBuffer = .frame m rest)
    (hst : c.state = .active ∨ c.state = .closed) :
    s.readMessages c =
      if m.type = .closeCon then
        if m.payload ≠ [] then s.removeConnection ((c.cut m rest).reject .expectedEmptyCloseCon)
        else andThen ((s.put (c.cut m rest)).announceClientDisconnected (c.cut m rest))
          (fun s => s.removeConnection (c.cut m rest))
      else if m.type ≠ .chat then
        s.removeConnection ((c.cut m rest).reject (.expectedChat m.type))
      else andThen ((s.put (c.cut m rest)).post (.chat c.serial c.name m.payload) c.name m
          (some c.addr)) (fun s => s.readMessages (c.cut m rest)) := by
  rw [Server.readMessages]
  split
  · rename_i conn h
    rw [parseMessage_frame hp] at h
    cases h
  · rename_i message conn h
    rw [parseMessage_frame hp] at h
    cases h
    have hne : (c.cut m rest).state ≠ .connectionError := by
      rcases hst with h | h <;> simp [Connection.cut, h]
    have hpost : (s.put (c.cut m rest)).post (.chat (c.cut m rest).serial (c.cut m rest).name
        m.payload) (c.cut m rest).name m (some (c.cut m rest).addr) =
      (s.put (c.cut m rest)).post (.chat c.serial c.name m.payload) c.name m (some c.addr) := rfl
    rw [if_neg hne, hpost]
    rcases (s.put (c.cut m rest)).announceClientDisconnected (c.cut m rest) with ⟨ok, t⟩
    rcases (s.put (c.cut m rest)).post (.chat c.serial c.name m.payload) c.name m
      (some c.addr) with ⟨ok', t'⟩
    cases ok <;> cases ok' <;> rfl

end ReadLoop

/-- A connection after the read loop of the read handler. -/
def Connection.ingested (c : Connection) (replies : List RecvReply) : Connection :=
  { c.absorb (recvData replies) with state := (recvEnd replies).state c.state }

theorem readNetworkPackage_eq (s : Server) (c : Connection) (replies : List RecvReply) :
    s.readNetworkPackage c replies =
      if recvEnd replies = .failed then
        (s.call (.recv c.fd)).removeConnection (c.ingested replies)
      else ((s.call (.recv c.fd)).put (c.ingested replies)).readMessages (c.ingested replies) := by
  have hread : connectionReadIntoInBuffer c replies =
      (recvEnd replies != .failed, c.ingested replies) := connectionReadIntoInBuffer_eq c replies
  by_cases hfail : recvEnd replies = .failed
  · have hok : (recvEnd replies != .failed) = false := by simpa using hfail
    rw [if_pos hfail, Server.readNetworkPackage, hread, hok]
  · have hok : (recvEnd replies != .failed) = true := by simpa using hfail
    rw [if_neg hfail, Server.readNetworkPackage, hread, hok]

theorem handleReadStdinEvent_eq (s : Server) (line : Bytes) :
    s.handleReadStdinEvent (some line) =
      if line = [] then (true, s)
      else if line = ascii "/quit" then
        andThen ({ s with serverClosing := true } : Server).announceRoomClosing (fun t =>
          andThen t.queueCloseToAllClients (fun u => (!u.allConnectionBuffersEmpty, u)))
      else if ¬protocolPayloadLengthIsLegal line.length then
        (true, { s with stdout := s.stdout ++ [ascii "[app] message length too long."] })
      else s.post (.hostChat s.name line) s.name (Message.of .chat line) none := by
  rw [Server.handleReadStdinEvent]
  split_ifs with hnil hquit
  · rfl
  · dsimp only
    rcases ({ s with serverClosing := true } : Server).announceRoomClosing with ⟨ok, t⟩
    cases ok with
    | false => rfl
    | true =>
      rw [andThen]
      dsimp only
      rcases t.queueCloseToAllClients with ⟨ok, u⟩
      cases ok <;> rfl
  · rfl
  · rfl

end Chatroom
