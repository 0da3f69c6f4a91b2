import Chatroom.Model.Epoll
import Chatroom.Model.FormatPrint

/-!
# The client

The event handlers of `client.cpp` as functions on the state of the client process, in
the manner of the server: the boolean decides whether the event loop goes on.
-/

namespace Chatroom

/-- The state of the client process: the fields of `Client`, whose connection exists as
long as the event loop runs, the static `client_quitting`, the kernel, and the lines that
were printed. -/
structure Client where
  name : Bytes
  conn : Connection
  epollFd : Fd
  clientQuitting : Bool := false
  kernel : Kernel
  stdout : List Bytes := []
  deriving DecidableEq

/-- What `getsockopt(SO_ERROR)` reports about a pending `connect`. -/
inductive ConnectReply
  | established
  | failed
  deriving DecidableEq

/-- What the calls made while one event is handled return. -/
structure ClientReplies where
  connect : ConnectReply := .established
  recvs : List RecvReply := []
  sends : List SendReply := []
  line : Option Bytes := none
  ctl : List (Option Errno) := []

/-- `client_check_connect` -/
def clientCheckConnect (conn : Connection) : ConnectReply → Bool × Connection
  | .failed => (false, { conn with state := .connectionError })
  | .established => (true, { conn with state := .sendingClientHello })

namespace Client

def call (client : Client) (c : SysCall) : Client :=
  { client with kernel := client.kernel.call c }

/-- `epoll_fd_mod(client->epoll_fd, client->conn->fd, events)` -/
def fdMod (client : Client) (events : EventMask) : Bool × Client :=
  let r := epollFdMod client.kernel client.conn.fd events
  (r.1, { client with kernel := r.2 })

/-- `std::cout << line << std::endl` -/
def print (client : Client) (line : Bytes) : Client :=
  { client with stdout := client.stdout ++ [line] }

/-! ### Reading -/

/-- `event_is_read_network_message` -/
def eventIsReadNetworkMessage (client : Client) (fd : Fd) (flags : EventMask) : Bool :=
  !client.clientQuitting && decide (fd = client.conn.fd ∧
    (client.conn.state = .waitingForServerHello ∨ client.conn.state = .active) ∧
    flags.has (epollIn ||| epollRdhup ||| epollHup))

/-- `handle_network_message` -/
def handleNetworkMessage (client : Client) (message : Message) : Bool × Client :=
  let conn := client.conn
  if conn.state = .waitingForServerHello then
    if message.type ≠ .serverHello then
      (false, { client with conn := conn.reject (.expectedServerHello message.type) })
    else
      let client := { client with conn := { conn with name := message.payload, state := .active } }
      let client := client.print (ascii "Connected to server.\nName: " ++ client.conn.name)
      (true, client.print (ascii "[client] connected to server. Start chatting."))
  else if conn.state = .active then
    if message.type = .closeCon then
      if message.payload ≠ [] then
        (false, { client with conn := conn.reject .expectedEmptyCloseCon })
      else
        let client := client.print (ascii "[client] server closed the room.")
        (false, { client with conn := { conn with state := .closed } })
    else if message.type ≠ .broadcast then
      (false, { client with conn := conn.reject (.expectedBroadcast message.type) })
    else (true, client.print message.payload)
  else (false, { client with conn := conn.reject .unexpectedMessage })

@[simp] lemma handleNetworkMessage_inBuffer (client : Client) (message : Message) :
    (client.handleNetworkMessage message).2.conn.inBuffer = client.conn.inBuffer := by
  unfold handleNetworkMessage
  dsimp only
  split_ifs <;> rfl

/-- The `while` loop of `handle_read_network_message_event`. -/
def readMessages (client : Client) : Bool × Client :=
  match _h : protocolParseMessage client.conn with
  | (none, conn) =>
    if conn.state = .connectionError then (false, { client with conn := conn })
    else if conn.state = .closed then (false, { client with conn := conn })
    else (true, { client with conn := conn })
  | (some message, conn) =>
    if conn.state = .connectionError then (false, { client with conn := conn })
    else
      match _hm : ({ client with conn := conn } : Client).handleNetworkMessage message with
      | (false, client') => (false, client')
      | (true, client') => readMessages client'
termination_by client.conn.inBuffer.length
decreasing_by
  have hbuf : client'.conn.inBuffer = conn.inBuffer := by
    have h := handleNetworkMessage_inBuffer { client with conn := conn } message
    rw [_hm] at h
    exact h
  rw [hbuf]
  rw [protocolParseMessage_eq] at _h
  split at _h <;> cases _h
  exact frameCodec.rest_length_lt ‹_›

/-- `handle_read_network_message_event` -/
def handleReadNetworkMessageEvent (client : Client) (replies : List RecvReply) : Bool × Client :=
  let client := client.call (.recv client.conn.fd)
  match connectionReadIntoInBuffer client.conn replies with
  | (false, conn) => (false, { client with conn := conn })
  | (true, conn) => ({ client with conn := conn } : Client).readMessages

/-! ### Writing -/

/-- `event_is_send_network_message` -/
def eventIsSendNetworkMessage (client : Client) (fd : Fd) (flags : EventMask) : Bool :=
  decide (fd = client.conn.fd ∧
    (client.clientQuitting = true ∨ client.conn.state = .sendingClientHello ∨
      client.conn.state = .active) ∧
    client.conn.outBuffer ≠ [] ∧ flags.has epollOut)

/-- `handle_send_network_message_event` -/
def handleSendNetworkMessageEvent (client : Client) (replies : List SendReply) : Bool × Client :=
  let client := client.call (.send client.conn.fd)
  match connectionFlushOutBuffer client.conn replies with
  | (false, conn) => (false, { client with conn := conn })
  | (true, conn) =>
    let client := { client with conn := conn }
    if conn.outBuffer ≠ [] then (true, client)
    else if client.clientQuitting then (false, client.call (.shutdown conn.fd))
    else
      let client :=
        if conn.state = .sendingClientHello then
          { client with conn := { conn with state := .waitingForServerHello } }
        else client
      client.fdMod (epollIn ||| epollRdhup)

/-! ### Connecting -/

/-- `event_is_check_connection_success` -/
def eventIsCheckConnectionSuccess (client : Client) (fd : Fd) (flags : EventMask) : Bool :=
  decide (fd = client.conn.fd ∧ client.conn.state = .connecting ∧
    flags.has (epollIn ||| epollOut ||| epollErr ||| epollHup))

/-- `queue_client_hello` -/
def queueClientHello (client : Client) : Bool × Client :=
  let r := protocolQueueMessage client.conn (Message.of .clientHello client.name)
  (r.1, { client with conn := r.2 })

/-- `handle_connection_success_event` -/
def handleConnectionSuccessEvent (client : Client) (reply : ConnectReply) : Bool × Client :=
  match clientCheckConnect client.conn reply with
  | (false, conn) => (false, { client with conn := conn })
  | (true, conn) =>
    match ({ client with conn := conn } : Client).queueClientHello with
    | (false, client) => (false, client)
    | (true, client) => client.fdMod (epollOut ||| epollRdhup)

/-! ### Standard input -/

/-- `event_is_read_stdin` -/
def eventIsReadStdin (client : Client) (fd : Fd) (flags : EventMask) : Bool :=
  !client.clientQuitting && decide (fd = stdinFileno ∧ flags.has epollIn)

/-- `tcp_connection_is_established` -/
def tcpConnectionIsEstablished (client : Client) : Prop :=
  client.conn.state ≠ .closed ∧ client.conn.state ≠ .connectionError ∧
    client.conn.state ≠ .connecting

instance (client : Client) : Decidable client.tcpConnectionIsEstablished :=
  inferInstanceAs (Decidable (_ ∧ _ ∧ _))

/-- `handle_quit_command` -/
def handleQuitCommand (client : Client) : Bool × Client :=
  let client := client.print (ascii "[client] exiting.")
  match protocolQueueMessage client.conn (Message.of .closeCon []) with
  | (false, conn) => (false, { client with conn := conn })
  | (true, conn) =>
    ({ client with conn := conn, clientQuitting := true } : Client).fdMod (epollOut ||| epollRdhup)

/-- `handle_read_stdin_event` on the result of `std::getline` -/
def handleReadStdinEvent (client : Client) : Option Bytes → Bool × Client
  | none => (false, client)
  | some line =>
    if line = [] then (true, client)
    else if line = ascii "/quit" then
      if ¬client.tcpConnectionIsEstablished then (false, client.print (ascii "[client] exiting."))
      else client.handleQuitCommand
    else if client.conn.state ≠ .active then (true, client)
    else if ¬protocolPayloadLengthIsLegal line.length then
      (true, client.print (ascii "[app] message length too long."))
    else
      let chat := Message.of .chat line
      match protocolQueueMessage client.conn chat with
      | (false, conn) => (false, { client with conn := conn })
      | (true, conn) =>
        ({ client with
          conn := conn
          stdout := formatPrintMessage client.stdout client.name chat } : Client).fdMod
          (epollIn ||| epollOut ||| epollRdhup)

/-! ### Dispatch -/

/-- The body of the `for` loop of `client_event_loop`. -/
def handleEvent (client : Client) (event : EpollEvent) (r : ClientReplies) : Bool × Client :=
  let fd := event.fd
  let flags := event.events
  let client := { client with kernel := { client.kernel with ctlScript := r.ctl } }
  if client.clientQuitting && !client.eventIsSendNetworkMessage fd flags then
    (true, client)
  else if client.eventIsCheckConnectionSuccess fd flags then
    client.handleConnectionSuccessEvent r.connect
  else if client.eventIsSendNetworkMessage fd flags then
    client.handleSendNetworkMessageEvent r.sends
  else if client.eventIsReadNetworkMessage fd flags then
    client.handleReadNetworkMessageEvent r.recvs
  else if client.eventIsReadStdin fd flags then client.handleReadStdinEvent r.line
  else (true, client)

end Client

end Chatroom
