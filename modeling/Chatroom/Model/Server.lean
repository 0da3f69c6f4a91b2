import Chatroom.Model.Epoll
import Chatroom.Model.FormatPrint

/-!
# The server

The event handlers of `server.cpp` as functions on the state of the server process.
Every handler returns the boolean that the source returns, which decides whether the
event loop goes on, together with the new state. A `Connection *` is the value of
the record in `server->connections`, found again by its address when it is written
back.
-/

namespace Chatroom

/-- What happens in the room, in the order it is handled. -/
inductive RoomEntry
  | connected (serial : ℕ) (name : Bytes)
  | chat (serial : ℕ) (name text : Bytes)
  | hostChat (name text : Bytes)
  | disconnected (serial : ℕ) (name : Bytes)
  | closing
  deriving DecidableEq

/-- A connection as it was when it was released, with the length of the room log at
that moment. -/
structure Departure where
  conn : Connection
  logLength : ℕ
  deriving DecidableEq

/-- The state of the server process: the fields of `Server`, the static
`server_closing` and `cached_connection`, the kernel, and what was printed. The last
three fields are history variables: how many connections were accepted, the released
connections, and the room log. -/
structure Server where
  name : Bytes
  listenFd : Fd
  epollFd : Fd
  connections : List Connection := []
  serverClosing : Bool := false
  cachedConnection : Option ℕ := none
  kernel : Kernel
  stdout : List Bytes := []
  accepted : ℕ := 0
  departed : List Departure := []
  roomLog : List RoomEntry := []
  deriving DecidableEq

/-- One answer of `accept`: a new socket, with the address at which `new Connection()`
places its object, or a failure. -/
inductive AcceptReply
  | socket (fd : Fd) (addr : ℕ)
  | error (e : Errno)
  deriving DecidableEq

/-- What the calls made while one event is handled return; `line` is the result of
`std::getline`. -/
structure Replies where
  accepts : List AcceptReply := []
  recvs : List RecvReply := []
  sends : List SendReply := []
  line : Option Bytes := none
  ctl : List (Option Errno) := []

/-- `std::tolower` in the C locale -/
def toLower (ch : Byte) : Byte :=
  if 65 ≤ ch ∧ ch ≤ 90 then ch + 32 else ch

/-- `name_is_reserved` -/
def nameIsReserved (name : Bytes) : Bool :=
  let lowercaseName := name.map toLower
  decide (lowercaseName = ascii "client" ∨ lowercaseName = ascii "server" ∨
    lowercaseName = ascii "app")

/-- The bytes at which `std::cin >> username` stops. -/
def isSpace (ch : Byte) : Bool :=
  decide (ch = 32 ∨ 9 ≤ ch ∧ ch ≤ 13)

namespace Server

/-- Write a connection object back. -/
def put (s : Server) (conn : Connection) : Server :=
  { s with connections := Keyed.replace Connection.addr conn s.connections }

def call (s : Server) (c : SysCall) : Server :=
  { s with kernel := s.kernel.call c }

/-- `epoll_fd_mod(server->epoll_fd, fd, events)` -/
def fdMod (s : Server) (fd : Fd) (events : EventMask) : Bool × Server :=
  let r := epollFdMod s.kernel fd events
  (r.1, { s with kernel := r.2 })

/-! ### Lookup and removal -/

/-- `get_connection_of` -/
def getConnectionOf (s : Server) (fd : Fd) : Option Connection × Server :=
  let cached :=
    match s.cachedConnection with
    | some addr => Keyed.lookup Connection.addr addr s.connections
    | none => none
  let scan : Option Connection × Server :=
    match Keyed.lookup Connection.fd fd s.connections with
    | some conn => (some conn, { s with cachedConnection := some conn.addr })
    | none => (none, { s with cachedConnection := none })
  match cached with
  | some conn => if conn.fd = fd then (some conn, s) else scan
  | none => scan

/-- `connection_cleanup` -/
def connectionCleanup (s : Server) (conn : Connection) : Server :=
  let s := { s with departed := s.departed ++ [⟨conn, s.roomLog.length⟩] }
  if conn.fd ≠ -1 then { s with kernel := s.kernel.close conn.fd } else s

/-- `remove_connection` -/
def removeConnection (s : Server) (conn : Connection) : Bool × Server :=
  let s := { s with kernel := (epollFdRemove s.kernel conn.fd 0).2 }
  let s := { s with connections := Keyed.remove Connection.addr conn.addr s.connections }
  (true, s.connectionCleanup conn)

/-! ### Broadcasting -/

/-- The loops that queue one message to the connections that are not skipped and
register `events` for each of them, until the first failure. -/
def queueToEach (skip : Connection → Bool) (message : Message) (events : EventMask) :
    List Connection → Kernel → Bool × List Connection × Kernel
  | [], k => (true, [], k)
  | conn :: conns, k =>
    if skip conn then
      let r := queueToEach skip message events conns k
      (r.1, conn :: r.2.1, r.2.2)
    else
      match protocolQueueMessage conn message with
      | (false, conn) => (false, conn :: conns, k)
      | (true, conn) =>
        match epollFdMod k conn.fd events with
        | (false, k) => (false, conn :: conns, k)
        | (true, k) =>
          let r := queueToEach skip message events conns k
          (r.1, conn :: r.2.1, r.2.2)

/-- `broadcast_message_to_other_clients`; the sender is given by its address. -/
def broadcastMessageToOtherClients (s : Server) (sender : Option ℕ) (message : Message) :
    Bool × Server :=
  let r := queueToEach (fun conn => decide (some conn.addr = sender ∨ conn.state ≠ .active))
    message (epollIn ||| epollOut ||| epollRdhup) s.connections s.kernel
  (r.1, { s with connections := r.2.1, kernel := r.2.2 })

/-- Print a line of the room and broadcast it. -/
def post (s : Server) (entry : RoomEntry) (author : Bytes) (notice : Message)
    (sender : Option ℕ) : Bool × Server :=
  let s := { s with
    stdout := formatPrintMessage s.stdout author notice
    roomLog := s.roomLog ++ [entry] }
  s.broadcastMessageToOtherClients sender (formatBroadcastMessage author notice)

/-- `announce_client_connected` -/
def announceClientConnected (s : Server) (conn : Connection) : Bool × Server :=
  s.post (.connected conn.serial conn.name) (ascii "server")
    (Message.of .chat (ascii "`" ++ conn.name ++ ascii "` connected.")) none

/-- `announce_client_disconnected` -/
def announceClientDisconnected (s : Server) (conn : Connection) : Bool × Server :=
  s.post (.disconnected conn.serial conn.name) (ascii "server")
    (Message.of .chat (ascii "`" ++ conn.name ++ ascii "` disconnected.")) (some conn.addr)

/-- `announce_room_closing` -/
def announceRoomClosing (s : Server) : Bool × Server :=
  s.post .closing (ascii "server") (Message.of .chat (ascii "room is closing.")) none

/-- `queue_close_to_all_clients` -/
def queueCloseToAllClients (s : Server) : Bool × Server :=
  let r := queueToEach (fun conn => decide (conn.state ≠ .active)) (Message.of .closeCon [])
    (epollOut ||| epollRdhup) s.connections s.kernel
  (r.1, { s with connections := r.2.1, kernel := r.2.2 })

/-- `all_connection_buffers_empty` -/
def allConnectionBuffersEmpty (s : Server) : Bool :=
  s.connections.all (fun conn => conn.outBuffer.isEmpty)

/-! ### Accepting -/

/-- `event_is_accept_client_connection` -/
def eventIsAcceptClientConnection (s : Server) (fd : Fd) (flags : EventMask) : Bool :=
  !s.serverClosing && decide (fd = s.listenFd ∧ flags.has epollIn)

/-- `handle_accept_client_connection_event` -/
def handleAcceptClientConnectionEvent (s : Server) : List AcceptReply → Bool × Server
  | [] => (true, s)
  | .error e :: _ => if e.retryable then (true, s) else (false, s)
  | .socket fd addr :: replies =>
    let s := s.call (.accept fd)
    let conn : Connection :=
      { fd := fd, state := .waitingForClientHello, addr := addr, serial := s.accepted }
    let s := { s with connections := s.connections ++ [conn], accepted := s.accepted + 1 }
    match epollRegister s.kernel fd (epollIn ||| epollRdhup) with
    | (false, kernel) =>
      let s := { s with kernel := kernel, connections := s.connections.dropLast }
      (false, s.connectionCleanup conn)
    | (true, kernel) =>
      handleAcceptClientConnectionEvent { s with kernel := kernel } replies

/-! ### CLIENT_HELLO -/

/-- `event_is_receive_client_hello` -/
def eventIsReceiveClientHello (s : Server) (fd : Fd) (flags : EventMask) : Bool × Server :=
  if s.serverClosing then (false, s)
  else
    match s.getConnectionOf fd with
    | (none, s) => (false, s)
    | (some conn, s) =>
      (decide (conn.state = .waitingForClientHello ∧
        flags.has (epollIn ||| epollRdhup ||| epollHup)), s)

/-- The body of `handle_receive_client_hello_event` once the connection is found. -/
def receiveClientHello (s : Server) (conn : Connection) (replies : List RecvReply) :
    Bool × Server :=
  let s := s.call (.recv conn.fd)
  match connectionReadIntoInBuffer conn replies with
  | (false, conn) => s.removeConnection conn
  | (true, conn) =>
    match protocolParseMessage conn with
    | (message, conn) =>
      if conn.state = .connectionError then s.removeConnection conn
      else
        match message with
        | none => if conn.state = .closed then s.removeConnection conn else (true, s.put conn)
        | some message =>
          if message.type ≠ .clientHello then
            s.removeConnection (conn.reject (.expectedClientHello message.type))
          else if message.payload = [] then s.removeConnection (conn.reject .emptyName)
          else
            let conn := { conn with name := message.payload }
            match protocolQueueMessage conn (Message.of .serverHello s.name) with
            | (false, conn) => (false, s.put conn)
            | (true, conn) =>
              let conn := { conn with state := .sendingServerHello }
              (s.put conn).fdMod conn.fd (epollIn ||| epollOut ||| epollRdhup)

/-- `handle_receive_client_hello_event` -/
def handleReceiveClientHelloEvent (s : Server) (fd : Fd) (replies : List RecvReply) :
    Bool × Server :=
  match s.getConnectionOf fd with
  | (none, s) => (false, s)
  | (some conn, s) => s.receiveClientHello conn replies

/-! ### Writing -/

/-- `event_is_send_network_package` -/
def eventIsSendNetworkPackage (s : Server) (fd : Fd) (flags : EventMask) : Bool × Server :=
  match s.getConnectionOf fd with
  | (none, s) => (false, s)
  | (some conn, s) =>
    (decide ((conn.state = .sendingServerHello ∨ conn.state = .active) ∧ conn.outBuffer ≠ [] ∧
      flags.has epollOut), s)

/-- The body of `handle_send_network_package_event` once the connection is found. -/
def sendNetworkPackage (s : Server) (conn : Connection) (replies : List SendReply) :
    Bool × Server :=
  let s := s.call (.send conn.fd)
  match connectionFlushOutBuffer conn replies with
  | (false, conn) => (false, s.put conn)
  | (true, conn) =>
    if conn.outBuffer ≠ [] then (true, s.put conn)
    else if conn.state = .sendingServerHello then
      let conn := { conn with state := .active }
      (s.put conn).announceClientConnected conn
    else (s.put conn).fdMod conn.fd (epollIn ||| epollRdhup)

/-- `handle_send_network_package_event` -/
def handleSendNetworkPackageEvent (s : Server) (fd : Fd) (replies : List SendReply) :
    Bool × Server :=
  match s.getConnectionOf fd with
  | (none, s) => (false, s)
  | (some conn, s) => s.sendNetworkPackage conn replies

/-! ### Reading -/

/-- `event_is_read_network_package` -/
def eventIsReadNetworkPackage (s : Server) (fd : Fd) (flags : EventMask) : Bool × Server :=
  if s.serverClosing then (false, s)
  else
    match s.getConnectionOf fd with
    | (none, s) => (false, s)
    | (some conn, s) =>
      (decide (conn.state = .active ∧ flags.has (epollIn ||| epollRdhup ||| epollHup)), s)

/-- The `while` loop of `handle_read_network_package_event`. -/
def readMessages (s : Server) (conn : Connection) : Bool × Server :=
  match _h : protocolParseMessage conn with
  | (none, conn) =>
    if conn.state = .connectionError then s.removeConnection conn
    else if conn.state = .closed then
      match (s.put conn).announceClientDisconnected conn with
      | (false, s) => (false, s)
      | (true, s) => s.removeConnection conn
    else (true, s.put conn)
  | (some message, conn') =>
    if conn'.state = .connectionError then s.removeConnection conn'
    else if message.type = .closeCon then
      if message.payload ≠ [] then s.removeConnection (conn'.reject .expectedEmptyCloseCon)
      else
        match (s.put conn').announceClientDisconnected conn' with
        | (false, s) => (false, s)
        | (true, s) => s.removeConnection conn'
    else if message.type ≠ .chat then
      s.removeConnection (conn'.reject (.expectedChat message.type))
    else
      match (s.put conn').post (.chat conn'.serial conn'.name message.payload) conn'.name message
        (some conn'.addr) with
      | (false, s) => (false, s)
      | (true, s) => readMessages s conn'
termination_by conn.inBuffer.length
decreasing_by
  rw [protocolParseMessage_eq] at _h
  split at _h <;> cases _h
  exact frameCodec.rest_length_lt ‹_›

/-- The body of `handle_read_network_package_event` once the connection is found. -/
def readNetworkPackage (s : Server) (conn : Connection) (replies : List RecvReply) :
    Bool × Server :=
  let s := s.call (.recv conn.fd)
  match connectionReadIntoInBuffer conn replies with
  | (false, conn) => s.removeConnection conn
  | (true, conn) => (s.put conn).readMessages conn

/-- `handle_read_network_package_event` -/
def handleReadNetworkPackageEvent (s : Server) (fd : Fd) (replies : List RecvReply) :
    Bool × Server :=
  match s.getConnectionOf fd with
  | (none, s) => (false, s)
  | (some conn, s) => s.readNetworkPackage conn replies

/-! ### Standard input -/

/-- `event_is_read_stdin` -/
def eventIsReadStdin (s : Server) (fd : Fd) (flags : EventMask) : Bool :=
  !s.serverClosing && decide (fd = stdinFileno ∧ flags.has epollIn)

/-- `handle_read_stdin_event` on the result of `std::getline` -/
def handleReadStdinEvent (s : Server) : Option Bytes → Bool × Server
  | none => (false, s)
  | some line =>
    if line = [] then (true, s)
    else if line = ascii "/quit" then
      let s := { s with serverClosing := true }
      match s.announceRoomClosing with
      | (false, s) => (false, s)
      | (true, s) =>
        match s.queueCloseToAllClients with
        | (false, s) => (false, s)
        | (true, s) => (!s.allConnectionBuffersEmpty, s)
    else if ¬protocolPayloadLengthIsLegal line.length then
      (true, { s with stdout := s.stdout ++ [ascii "[app] message length too long."] })
    else
      s.post (.hostChat s.name line) s.name (Message.of .chat line) none

/-! ### Dispatch -/

/-- The body of the `for` loop of `server_event_loop`: which handler an event gets. -/
def handleEvent (s : Server) (event : EpollEvent) (r : Replies) : Bool × Server :=
  let fd := event.fd
  let flags := event.events
  let s := { s with kernel := { s.kernel with ctlScript := r.ctl } }
  match (if s.serverClosing then s.eventIsSendNetworkPackage fd flags else (true, s)) with
  | (false, s) => (true, s)
  | (true, s) =>
    if s.eventIsAcceptClientConnection fd flags then s.handleAcceptClientConnectionEvent r.accepts
    else
      match s.eventIsReceiveClientHello fd flags with
      | (true, s) => s.handleReceiveClientHelloEvent fd r.recvs
      | (false, s) =>
        match s.eventIsSendNetworkPackage fd flags with
        | (true, s) => s.handleSendNetworkPackageEvent fd r.sends
        | (false, s) =>
          match s.eventIsReadNetworkPackage fd flags with
          | (true, s) => s.handleReadNetworkPackageEvent fd r.recvs
          | (false, s) =>
            if s.eventIsReadStdin fd flags then s.handleReadStdinEvent r.line else (true, s)

end Server

end Chatroom
