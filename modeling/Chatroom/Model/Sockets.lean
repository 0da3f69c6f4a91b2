import Chatroom.Model.ClientLoop
import Chatroom.Model.ServerRun

/-!
# Setting a socket up

`server_create_listening_socket` and `client_connect_to_server`, which make the first
descriptor of a process, and what the two processes do with it: `server_init` and
`client_init` after their dialogs, and `client_event_loop` up to its loop. Each call is
logged with what it is given.
-/

namespace Chatroom
open Transition

/-- The address in a `sockaddr_in`. -/
structure SockAddr where
  ip : UInt32
  port : UInt16
  deriving DecidableEq

/-- The calls on a socket before a loop knows it. -/
inductive SocketCall
  | socket (fd : Fd)
  | reuseAddr (fd : Fd)
  | getFlags (fd : Fd)
  | setFlags (fd : Fd) (flags : UInt32)
  | bind (fd : Fd) (port : UInt16)
  | listen (fd : Fd)
  | connect (fd : Fd) (addr : SockAddr)
  | close (fd : Fd)
  deriving DecidableEq

/-- What `connect` reports. -/
inductive ConnectResult
  | connected
  | inProgress
  | failed (e : Errno)
  deriving DecidableEq

/-- What the calls return; `none` is success. -/
structure SocketReplies where
  socket : CreateReply
  reuseAddr : Option Errno := none
  getFlags : Except Errno UInt32 := .ok 2
  setFlags : Option Errno := none
  bind : Option Errno := none
  listen : Option Errno := none
  connect : ConnectResult := .connected

/-- `O_NONBLOCK` -/
def oNonblock : UInt32 := 0x800

/-- `static_cast<uint16_t>(port)` -/
def portNumber (port : ℤ) : UInt16 :=
  UInt16.ofNat (port % 65536).toNat

/-- `set_nonblocking` -/
def setNonblocking (fd : Fd) (r : SocketReplies) : Bool × List SocketCall :=
  match r.getFlags with
  | .error _ => (false, [.getFlags fd])
  | .ok flags => (r.setFlags.isNone, [.getFlags fd, .setFlags fd (flags ||| oNonblock)])

/-- `server_create_listening_socket`; the result is -1 after a failure. -/
def serverCreateListeningSocket (port : ℤ) (r : SocketReplies) : Fd × List SocketCall :=
  match r.socket with
  | .failed _ => (-1, [])
  | .created fd =>
    let calls := [.socket fd, .reuseAddr fd]
    if r.reuseAddr.isSome then (-1, calls ++ [.close fd])
    else
      let nonblocking := setNonblocking fd r
      let calls := calls ++ nonblocking.2
      if nonblocking.1 = false then (-1, calls ++ [.close fd])
      else
        let calls := calls ++ [.bind fd (portNumber port)]
        if r.bind.isSome then (-1, calls ++ [.close fd])
        else
          let calls := calls ++ [.listen fd]
          if r.listen.isSome then (-1, calls ++ [.close fd]) else (fd, calls)

/-- `client_connect_to_server`; `nullptr` after a failure. -/
def clientConnectToServer (addr : SockAddr) (r : SocketReplies) :
    Option Connection × List SocketCall :=
  match r.socket with
  | .failed _ => (none, [])
  | .created fd =>
    let nonblocking := setNonblocking fd r
    let calls := .socket fd :: nonblocking.2
    if nonblocking.1 = false then (none, calls ++ [.close fd])
    else
      let calls := calls ++ [.connect fd addr]
      match r.connect with
      | .connected => (some (clientConnection fd true), calls)
      | .inProgress => (some (clientConnection fd false), calls)
      | .failed _ => (none, calls ++ [.close fd])

/-! ### The processes -/

/-- `client_event_loop` up to its loop: `create_epoll`, and the introduction if the
connection stands already. -/
def Client.eventLoop (client : Client) (r : CreateReplies) : ClientLoop :=
  let created := createEpollWithSocketEvents { client.kernel with ctlScript := r.ctl }
    client.conn.fd (initialSocketEvents client.conn) r.create
  if created.1 = -1 then ⟨{ client with kernel := created.2 }, .stopped⟩
  else startedClient { client with epollFd := created.1, kernel := created.2 }

/-- `client_cleanup` -/
def Client.cleanup (client : Client) : Client :=
  let client :=
    if client.conn.fd ≠ -1 then { client with kernel := client.kernel.close client.conn.fd }
    else client
  if client.epollFd ≠ -1 then { client with kernel := client.kernel.close client.epollFd }
  else client

/-- A process whose loop is of type `L`: the calls that set its socket up, and its loop, if it
gets that far. -/
structure Process (L : Type) where
  setup : List SocketCall
  loop : Option L

/-- The runs of a process: from then on its loop takes steps. -/
def processSystem {L ℓ : Type} (init : Process L → Prop) (step : L → ℓ → L → Prop) :
    System (Process L) ℓ where
  init := init
  step p i p' := ∃ l l', p.loop = some l ∧ step l i l' ∧ p' = { p with loop := some l' }

/-- `server_init` once the name and the port are known. -/
def serverInit (name : Bytes) (port : ℤ) (r : SocketReplies) (created : CreateReplies) :
    Process Loop :=
  let listening := serverCreateListeningSocket port r
  if listening.1 = -1 then ⟨listening.2, none⟩
  else ⟨listening.2, some ((listeningServer name listening.1).enterLoop created)⟩

/-- `client_init` once the name and the address are known. -/
def clientInit (name : Bytes) (addr : SockAddr) (r : SocketReplies) (created : CreateReplies) :
    Process ClientLoop :=
  match clientConnectToServer addr r with
  | (none, calls) => ⟨calls, none⟩
  | (some conn, calls) =>
    let client : Client :=
      { name := name, conn := conn, epollFd := -1, kernel := { interest := .watching [] } }
    ⟨calls, some (client.eventLoop created)⟩

/-- What the operating system guarantees: a descriptor that it hands out was not open. -/
structure FreshDescriptors (r : SocketReplies) (created : CreateReplies) : Prop where
  socket : ∀ fd, r.socket = .created fd → 0 ≤ fd ∧ fd ≠ stdinFileno
  epoll : ∀ fd, r.socket = .created fd → created.create.Admissible fd

/-- The process of a host. -/
def serverProcess (name : Bytes) (port : ℤ) : System (Process Loop) LoopInput :=
  processSystem (fun p => ∃ r created, FreshDescriptors r created ∧
    p = serverInit name port r created) (serverSystem name).step

/-- The process of a client. -/
def clientProcess (name : Bytes) (addr : SockAddr) : System (Process ClientLoop) ClientInput :=
  processSystem (fun p => ∃ r created, FreshDescriptors r created ∧
    p = clientInit name addr r created) (clientSystem name).step

end Chatroom
