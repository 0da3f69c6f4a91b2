import Chatroom.Model.Client
import Chatroom.Model.ServerLoop

/-!
# The event loop of the client

`client_event_loop` as a labelled transition system, with the same phases as the loop of
the server.
-/

namespace Chatroom
open Transition

structure ClientLoop where
  client : Client
  phase : Phase
  deriving DecidableEq

/-- What a step of the loop is given. -/
inductive ClientInput
  | events (events : List EpollEvent)
  | waitFailed (e : Errno)
  | replies (r : ClientReplies)
  | endOfBatch

/-- One step of `client_event_loop`. -/
def clientLoopStep (l : ClientLoop) : ClientInput → Option ClientLoop
  | .events es =>
    if l.phase = .waiting ∧ es.length ≤ maxEpollEvents then some ⟨l.client, .handling es⟩ else none
  | .waitFailed e =>
    if l.phase = .waiting then some ⟨l.client, if e = .eintr then .waiting else .stopped⟩ else none
  | .replies r =>
    match l.phase with
    | .handling (e :: es) =>
      match l.client.handleEvent e r with
      | (true, client) => some ⟨client, .handling es⟩
      | (false, client) => some ⟨client, .stopped⟩
    | _ => none
  | .endOfBatch => if l.phase = .handling [] then some ⟨l.client, .waiting⟩ else none

/-- The connection that `client_connect_to_server` makes; `connect` succeeds at once or is
under way. -/
def clientConnection (fd : Fd) (immediately : Bool) : Connection where
  fd := fd
  state := if immediately then .sendingClientHello else .connecting

/-- `initial_socket_events` -/
def initialSocketEvents (conn : Connection) : EventMask :=
  let events := epollIn ||| epollRdhup
  if conn.state = .connecting ∨ conn.state = .sendingClientHello ∨ conn.outBuffer ≠ [] then
    events ||| epollOut
  else if conn.state = .connecting ∨ conn.state = .waitingForClientHello then events ||| epollIn
  else events

/-- The client after `create_epoll` in `client_event_loop`; `ctl` has the verdicts on the
next `epoll_ctl` calls. -/
def createdClient (name : Bytes) (fd epollFd : Fd) (immediately : Bool)
    (ctl : List (Option Errno)) : Client :=
  let conn := clientConnection fd immediately
  { name := name
    conn := conn
    epollFd := epollFd
    kernel :=
      { interest := .watching [⟨fd, initialSocketEvents conn⟩, ⟨stdinFileno, epollIn⟩]
        ctlScript := ctl } }

/-- The rest of `client_event_loop` before its loop. -/
def Client.enterLoop (client : Client) : Bool × Client :=
  if client.conn.state = .sendingClientHello ∧ client.conn.outBuffer = [] then
    match client.queueClientHello with
    | (false, client) => (false, client)
    | (true, client) => client.fdMod (epollOut ||| epollRdhup)
  else (true, client)

/-- The loop is entered, or it is not and the client cleans up. -/
def startedClient (client : Client) : ClientLoop :=
  let r := client.enterLoop
  ⟨r.2, if r.1 then .waiting else .stopped⟩

/-- The runs of `client_event_loop` for a client called `name`. -/
def clientSystem (name : Bytes) : System ClientLoop ClientInput where
  init l := ∃ fd epollFd immediately ctl,
    l = startedClient (createdClient name fd epollFd immediately ctl)
  step l i l' := clientLoopStep l i = some l'

/-- The loop has not been left. -/
def ClientLoop.Running (l : ClientLoop) : Prop :=
  l.phase ≠ .stopped

end Chatroom
