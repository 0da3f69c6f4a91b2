import Chatroom.Model.ServerLoop

/-!
# A run of the server from its start to its end

`server_event_loop` from `create_epoll` on, and `server_cleanup`. In between the server
takes the steps of its loop.
-/

namespace Chatroom
open Transition

/-- What the calls of `create_epoll` return. -/
structure CreateReplies where
  create : CreateReply
  ctl : List (Option Errno) := []

/-- The server that `server_init` hands over: a listening socket and no epoll instance. -/
def listeningServer (name : Bytes) (listenFd : Fd) : Server where
  name := name
  listenFd := listenFd
  epollFd := -1
  kernel := { interest := .watching [] }

/-- `server_event_loop` up to its loop. Without an epoll instance the listening socket is
closed and the loop is skipped. -/
def Server.enterLoop (s : Server) (r : CreateReplies) : Loop :=
  let created := createEpollWithSocketEvents { s.kernel with ctlScript := r.ctl } s.listenFd epollIn
    r.create
  let s := { s with epollFd := created.1, kernel := created.2 }
  if s.epollFd = -1 then
    ⟨{ s with kernel := s.kernel.close s.listenFd, listenFd := -1 }, .stopped⟩
  else ⟨s, .waiting⟩

/-- `server_cleanup` -/
def Server.cleanup (s : Server) : Server :=
  let s :=
    if s.listenFd ≠ -1 then { s with kernel := s.kernel.close s.listenFd, listenFd := -1 } else s
  let s :=
    if s.epollFd ≠ -1 then { s with kernel := s.kernel.close s.epollFd, epollFd := -1 } else s
  { s.connections.foldl Server.connectionCleanup s with connections := [] }

/-- `epoll_create1` returns a descriptor that is not open. -/
def CreateReply.Admissible (listenFd : Fd) : CreateReply → Prop
  | .created fd => 0 ≤ fd ∧ fd ≠ stdinFileno ∧ fd ≠ listenFd
  | .failed _ => True

instance (listenFd : Fd) (reply : CreateReply) : Decidable (reply.Admissible listenFd) :=
  match reply with
  | .created fd => inferInstanceAs (Decidable (0 ≤ fd ∧ fd ≠ stdinFileno ∧ fd ≠ listenFd))
  | .failed _ => inferInstanceAs (Decidable True)

/-- The runs of a server called `name` that listens on `listenFd`, from
`server_event_loop` on. -/
def serverRun (name : Bytes) (listenFd : Fd) : System Loop LoopInput where
  init l := ∃ r : CreateReplies, r.create.Admissible listenFd ∧
    l = (listeningServer name listenFd).enterLoop r
  step := (serverSystem name).step

end Chatroom
