import Mathlib.Logic.Relation
import Chatroom.Model.ServerLoop
import Chatroom.Proofs.InterestList

/-!
# What a handler can do to the server

Every handler that lets the loop go on is a sequence of effects: a silent change of
the kernel or the cache, an accepted socket, a move of one connection, a line of the
room, or the release of a connection. The invariants of the server are proved for
effects, not for handlers.
-/

namespace Chatroom

/-! ### Moves of one connection -/

namespace Connection

/-- The bytes that one read loop returned. -/
def absorb (c : Connection) (data : Bytes) : Connection :=
  { c with inBuffer := c.inBuffer ++ data, received := c.received ++ data }

/-- One frame was cut off the front of the receive buffer. -/
def cut (c : Connection) (m : Message) (rest : Bytes) : Connection :=
  { c with inBuffer := rest, parsed := c.parsed ++ [m] }

/-- One message was queued. -/
def enqueue (c : Connection) (m : Message) : Connection :=
  { c with outBuffer := c.outBuffer ++ encodeFrame m, queued := c.queued ++ [m] }

/-- `send` took `n` bytes, and not all. -/
def advance (c : Connection) (n : ℕ) : Connection :=
  { c with bytesWritten := c.bytesWritten + n, sent := c.sent ++ c.unsent.take n }

/-- `send` took everything. -/
def drained (c : Connection) : Connection :=
  { c with outBuffer := [], bytesWritten := 0, sent := c.sent ++ c.unsent }

end Connection

/-- The greeting that a host called `host` sends to a new client. -/
def serverGreeting (host : Bytes) : Message :=
  Message.of .serverHello host

/-- The messages of the room as the room log tells them. -/
def RoomEntry.author : RoomEntry → Bytes
  | .connected _ _ => ascii "server"
  | .chat _ name _ => name
  | .hostChat name _ => name
  | .disconnected _ _ => ascii "server"
  | .closing => ascii "server"

def RoomEntry.text : RoomEntry → Bytes
  | .connected _ name => ascii "`" ++ name ++ ascii "` connected."
  | .chat _ _ text => text
  | .hostChat _ text => text
  | .disconnected _ name => ascii "`" ++ name ++ ascii "` disconnected."
  | .closing => ascii "room is closing."

/-- The line `[author] text` of an entry. -/
def RoomEntry.line (e : RoomEntry) : Bytes :=
  formatLine e.author e.text

/-- The BROADCAST of an entry. -/
def RoomEntry.message (e : RoomEntry) : Message :=
  Message.of .broadcast e.line

/-- The moves of a connection that no other connection notices, with the mask that is
registered afterwards when the move registers one. -/
inductive Move (host : Bytes) : Connection → Option EventMask → Connection → Prop
  | listen {c : Connection} (data : Bytes) (hc : c.state = .waitingForClientHello)
      (hp : parseFrame (c.inBuffer ++ data) = .incomplete) : Move host c none (c.absorb data)
  | introduce {c : Connection} (data : Bytes) (m : Message) (rest : Bytes)
      (hc : c.state = .waitingForClientHello)
      (hp : parseFrame (c.inBuffer ++ data) = .frame m rest) (htype : m.type = .clientHello)
      (hname : m.payload ≠ []) (hhost : protocolPayloadLengthIsLegal host.length) :
      Move host c (some fullMask)
        { ((c.absorb data).cut m rest).enqueue (serverGreeting host) with
          name := m.payload, state := .sendingServerHello }
  | send {c : Connection} (n : ℕ) (hc : c.state = .sendingServerHello ∨ c.state = .active)
      (hn : n < c.unsent.length) : Move host c none (c.advance n)
  | drain {c : Connection} (hc : c.state = .active) (hout : c.outBuffer ≠ []) :
      Move host c (some quietMask) c.drained
  | ingest {c : Connection} (data : Bytes) (st : ConnectionState) (hc : c.state = .active)
      (hst : st = .active ∨ st = .closed) : Move host c none { c.absorb data with state := st }

/-- The moves of a connection that are announced to the room, with the entry and the
connection that does not hear it. -/
inductive Talk : Connection → Connection → RoomEntry → Option ℕ → Prop
  | chat {c : Connection} (m : Message) (rest : Bytes)
      (hc : c.state = .active ∨ c.state = .closed) (hp : parseFrame c.inBuffer = .frame m rest)
      (htype : m.type = .chat) :
      Talk c (c.cut m rest) (.chat c.serial c.name m.payload) (some c.addr)
  | join {c : Connection} (hc : c.state = .sendingServerHello) :
      Talk c { c.drained with state := .active } (.connected c.serial c.name) none

/-- The last record of a connection whose departure is announced. -/
inductive Leave : Connection → Connection → Prop
  | hangup {c : Connection} (hc : c.state = .closed)
      (hp : parseFrame c.inBuffer = .incomplete) : Leave c c
  | bye {c : Connection} (m : Message) (rest : Bytes)
      (hc : c.state = .active ∨ c.state = .closed) (hp : parseFrame c.inBuffer = .frame m rest)
      (htype : m.type = .closeCon) (hempty : m.payload = []) : Leave c (c.cut m rest)

/-- The last record of a connection that is released without a word. -/
inductive Drop : Connection → Connection → Prop
  | failed {c : Connection} (data : Bytes)
      (hc : c.state = .waitingForClientHello ∨ c.state = .active) :
      Drop c { c.absorb data with state := .connectionError }
  | hangup {c : Connection} (data : Bytes) (hc : c.state = .waitingForClientHello)
      (hp : parseFrame (c.inBuffer ++ data) = .incomplete) :
      Drop c { c.absorb data with state := .closed }
  | oversizedHello {c : Connection} (data : Bytes) (hc : c.state = .waitingForClientHello)
      (hp : parseFrame (c.inBuffer ++ data) = .illegal) :
      Drop c ((c.absorb data).reject (.oversizedPayload (declaredLength (c.inBuffer ++ data))))
  | notHello {c : Connection} (data : Bytes) (m : Message) (rest : Bytes)
      (hc : c.state = .waitingForClientHello)
      (hp : parseFrame (c.inBuffer ++ data) = .frame m rest) (htype : m.type ≠ .clientHello) :
      Drop c (((c.absorb data).cut m rest).reject (.expectedClientHello m.type))
  | emptyName {c : Connection} (data : Bytes) (m : Message) (rest : Bytes)
      (hc : c.state = .waitingForClientHello)
      (hp : parseFrame (c.inBuffer ++ data) = .frame m rest) (hname : m.payload = []) :
      Drop c (((c.absorb data).cut m rest).reject .emptyName)
  | oversized {c : Connection} (hc : c.state = .active ∨ c.state = .closed)
      (hp : parseFrame c.inBuffer = .illegal) :
      Drop c (c.reject (.oversizedPayload (declaredLength c.inBuffer)))
  | closePayload {c : Connection} (m : Message) (rest : Bytes)
      (hc : c.state = .active ∨ c.state = .closed) (hp : parseFrame c.inBuffer = .frame m rest)
      (htype : m.type = .closeCon) (hpayload : m.payload ≠ []) :
      Drop c ((c.cut m rest).reject .expectedEmptyCloseCon)
  | notChat {c : Connection} (m : Message) (rest : Bytes)
      (hc : c.state = .active ∨ c.state = .closed) (hp : parseFrame c.inBuffer = .frame m rest)
      (htype : m.type ≠ .closeCon) (hchat : m.type ≠ .chat) :
      Drop c ((c.cut m rest).reject (.expectedChat m.type))

/-- The last record of a connection that is released. -/
def Released (c d : Connection) : Prop :=
  Leave c d ∨ Drop c d

/-! ### What no move changes -/

/-- The fields that identify a connection. -/
structure SamePeer (c d : Connection) : Prop where
  serial : d.serial = c.serial
  addr : d.addr = c.addr
  fd : d.fd = c.fd

lemma SamePeer.refl (c : Connection) : SamePeer c c :=
  ⟨rfl, rfl, rfl⟩

lemma SamePeer.trans {b c d : Connection} (h : SamePeer b c) (h' : SamePeer c d) : SamePeer b d :=
  ⟨h'.serial.trans h.serial, h'.addr.trans h.addr, h'.fd.trans h.fd⟩

section SamePeer

variable {c d : Connection}

lemma Move.samePeer {host : Bytes} {ev : Option EventMask} (h : Move host c ev d) :
    SamePeer c d := by
  cases h <;> exact ⟨rfl, rfl, rfl⟩

lemma Talk.samePeer {e : RoomEntry} {sender : Option ℕ} (h : Talk c d e sender) :
    SamePeer c d := by
  cases h <;> exact ⟨rfl, rfl, rfl⟩

lemma Leave.samePeer (h : Leave c d) : SamePeer c d := by
  cases h <;> exact ⟨rfl, rfl, rfl⟩

lemma Drop.samePeer (h : Drop c d) : SamePeer c d := by
  cases h <;> exact ⟨rfl, rfl, rfl⟩

lemma Released.samePeer (h : Released c d) : SamePeer c d := by
  rcases h with h | h
  · exact h.samePeer
  · exact h.samePeer

lemma Leave.name_eq (h : Leave c d) : d.name = c.name := by
  cases h <;> rfl

end SamePeer

/-! ### Effects on the server -/

/-- A connection hears an entry unless it is the one excluded or is not active. -/
def Hears (sender : Option ℕ) (c : Connection) : Prop :=
  some c.addr ≠ sender ∧ c.state = .active

instance (sender : Option ℕ) (c : Connection) : Decidable (Hears sender c) :=
  inferInstanceAs (Decidable (_ ∧ _))

/-- Queue a message to the connections that satisfy `p`. -/
def enqueueTo (p : Connection → Prop) [DecidablePred p] (m : Message) (cs : List Connection) :
    List Connection :=
  cs.map (fun c => if p c then c.enqueue m else c)

/-- The masks after `events` was registered for the connections that satisfy `p`. -/
def MasksAfter (k k' : Kernel) (cs : List Connection) (p : Connection → Prop)
    (events : EventMask) : Prop :=
  ∀ fd, (∃ c ∈ cs, p c ∧ c.fd = fd) ∧ k'.mask fd = some events ∨
    (¬∃ c ∈ cs, p c ∧ c.fd = fd) ∧ k'.mask fd = k.mask fd

/-- An entry is printed, logged and queued to the connections that hear it. -/
def Server.heard (s : Server) (sender : Option ℕ) (e : RoomEntry) (k : Kernel) : Server :=
  { s with
    connections := enqueueTo (Hears sender) e.message s.connections
    stdout := s.stdout ++ [e.line]
    roomLog := s.roomLog ++ [e]
    kernel := k }

/-- A new connection. -/
def newConnection (fd : Fd) (addr serial : ℕ) : Connection where
  fd := fd
  state := .waitingForClientHello
  addr := addr
  serial := serial

/-- Take a connection out and keep its last record. -/
def Server.released (s : Server) (c : Connection) (k : Kernel) : Server :=
  { s with
    connections := Keyed.remove Connection.addr c.addr s.connections
    departed := s.departed ++ [⟨c, s.roomLog.length⟩]
    kernel := k }

/-- The effects of a handler; the index is the serial number of the connection that
acts, if it is the doing of a connection. -/
inductive Effect : Option ℕ → Server → Server → Prop
  | silent {who : Option ℕ} {s : Server} (k : Kernel) (cache : Option ℕ)
      (hk : ∀ fd, k.mask fd = s.kernel.mask fd) :
      Effect who s { s with kernel := k, cachedConnection := cache }
  | accept {s : Server} (fd : Fd) (addr : ℕ) (k : Kernel)
      (hfd : ∀ c ∈ s.connections, c.fd ≠ fd) (haddr : ∀ c ∈ s.connections, c.addr ≠ addr)
      (hopen : 0 ≤ fd ∧ fd ≠ stdinFileno ∧ fd ≠ s.listenFd)
      (hk : ∀ g, k.mask g = if g = fd then some quietMask else s.kernel.mask g) :
      Effect none s { s with
        connections := s.connections ++ [newConnection fd addr s.accepted]
        accepted := s.accepted + 1
        kernel := k }
  | move {s : Server} {c c' : Connection} {ev : Option EventMask} (k : Kernel)
      (hc : c ∈ s.connections) (hmove : Move s.name c ev c')
      (hk : ∀ g, k.mask g = if g = c.fd then ev.or (s.kernel.mask g) else s.kernel.mask g) :
      Effect (some c.serial) s { s.put c' with kernel := k }
  | talk {s : Server} {c c' : Connection} {e : RoomEntry} {sender : Option ℕ} (k : Kernel)
      (hc : c ∈ s.connections) (htalk : Talk c c' e sender)
      (hlegal : ∀ d ∈ (s.put c').connections, Hears sender d →
        protocolPayloadLengthIsLegal e.line.length)
      (hk : MasksAfter s.kernel k (s.put c').connections (Hears sender) fullMask) :
      Effect (some c.serial) s ((s.put c').heard sender e k)
  | leave {s : Server} {c c' : Connection} (k k' : Kernel)
      (hc : c ∈ s.connections) (hleave : Leave c c')
      (hlegal : ∀ d ∈ (s.put c').connections, Hears (some c.addr) d →
        protocolPayloadLengthIsLegal (RoomEntry.disconnected c.serial c.name).line.length)
      (hk : MasksAfter s.kernel k (s.put c').connections (Hears (some c.addr)) fullMask)
      (hk' : ∀ g, g ≠ c.fd → k'.mask g = k.mask g) :
      Effect (some c.serial) s
        (((s.put c').heard (some c.addr) (.disconnected c.serial c.name) k).released c' k')
  | drop {s : Server} {c c' : Connection} (k : Kernel)
      (hc : c ∈ s.connections) (hdrop : Drop c c')
      (hk : ∀ g, g ≠ c.fd → k.mask g = s.kernel.mask g) :
      Effect (some c.serial) s (s.released c' k)
  | hostTalk {s : Server} (text : Bytes) (k : Kernel)
      (hlegal : ∀ d ∈ s.connections, Hears none d →
        protocolPayloadLengthIsLegal (RoomEntry.hostChat s.name text).line.length)
      (hk : MasksAfter s.kernel k s.connections (Hears none) fullMask) :
      Effect none s (s.heard none (.hostChat s.name text) k)
  | close {s : Server} (k k' : Kernel)
      (hk : MasksAfter s.kernel k s.connections (Hears none) fullMask)
      (hk' : MasksAfter k k' (enqueueTo (Hears none) RoomEntry.closing.message s.connections)
        (Hears none) closingMask) :
      Effect none s
        { ({ s with serverClosing := true } : Server).heard none .closing k with
          connections := enqueueTo (Hears none) (Message.of .closeCon [])
            (enqueueTo (Hears none) RoomEntry.closing.message s.connections)
          kernel := k' }
  | print {s : Server} : Effect none s
      { s with stdout := s.stdout ++ [ascii "[app] message length too long."] }

/-- A handler that lets the loop go on. -/
def Effects (who : Option ℕ) : Server → Server → Prop :=
  Relation.ReflTransGen (Effect who)

lemma Effects.refl {who : Option ℕ} (s : Server) : Effects who s s :=
  Relation.ReflTransGen.refl

lemma Effects.single {who : Option ℕ} {s t : Server} (h : Effect who s t) : Effects who s t :=
  Relation.ReflTransGen.single h

lemma Effects.trans {who : Option ℕ} {s t u : Server} (h : Effects who s t)
    (h' : Effects who t u) : Effects who s u :=
  Relation.ReflTransGen.trans h h'

lemma Effects.tail {who : Option ℕ} {s t u : Server} (h : Effects who s t) (h' : Effect who t u) :
    Effects who s u :=
  Relation.ReflTransGen.tail h h'

end Chatroom
