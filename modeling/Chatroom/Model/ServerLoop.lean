import Chatroom.Library.Transition
import Chatroom.Model.Server

/-!
# The event loop of the server

`server_event_loop` as a labelled transition system. A state is between two handled
events: before `epoll_wait`, inside a batch with the events that are still to be
handled, or after the loop. A label is what the environment supplies to a step.
-/

namespace Chatroom
open Transition

inductive Phase
  | waiting
  | handling (events : List EpollEvent)
  | stopped
  deriving DecidableEq

structure Loop where
  server : Server
  phase : Phase
  deriving DecidableEq

/-- What a step of the loop is given: the result of `epoll_wait`, or the answers to
the calls made while the next event of the batch is handled. -/
inductive LoopInput
  | events (events : List EpollEvent)
  | waitFailed (e : Errno)
  | replies (r : Replies)
  | endOfBatch

/-- `MAX_EPOLL_EVENTS` -/
def maxEpollEvents : ℕ := 16

/-- One step of `server_event_loop`. -/
def serverLoopStep (l : Loop) : LoopInput → Option Loop
  | .events es =>
    if l.phase = .waiting ∧ es.length ≤ maxEpollEvents then some ⟨l.server, .handling es⟩ else none
  | .waitFailed e =>
    if l.phase = .waiting then some ⟨l.server, if e = .eintr then .waiting else .stopped⟩ else none
  | .replies r =>
    match l.phase with
    | .handling (e :: es) =>
      match l.server.handleEvent e r with
      | (true, s) => some ⟨s, .handling es⟩
      | (false, s) => some ⟨s, .stopped⟩
    | _ => none
  | .endOfBatch =>
    if l.phase = .handling [] then
      some ⟨l.server, if l.server.serverClosing ∧ l.server.allConnectionBuffersEmpty then .stopped
        else .waiting⟩
    else none

/-- The sockets that `accept` hands out, with the addresses of their objects. -/
def acceptedSockets (replies : List AcceptReply) : List (Fd × ℕ) :=
  replies.filterMap (fun reply =>
    match reply with
    | .socket fd addr => some (fd, addr)
    | .error _ => none)

/-- `accept` returns descriptors that are not open, and `new` returns addresses at
which no object lives. Both may be reused once they are released. -/
structure FreshSockets (s : Server) (replies : List AcceptReply) : Prop where
  fds_nodup : ((acceptedSockets replies).map Prod.fst).Nodup
  addrs_nodup : ((acceptedSockets replies).map Prod.snd).Nodup
  nonneg : ∀ p ∈ acceptedSockets replies, 0 ≤ p.1
  notOpen : ∀ p ∈ acceptedSockets replies,
    p.1 ≠ stdinFileno ∧ p.1 ≠ s.listenFd ∧ p.1 ≠ s.epollFd ∧ ∀ c ∈ s.connections, c.fd ≠ p.1
  notLive : ∀ p ∈ acceptedSockets replies, ∀ c ∈ s.connections, c.addr ≠ p.2

instance (s : Server) (replies : List AcceptReply) : Decidable (FreshSockets s replies) :=
  decidable_of_iff
    (((acceptedSockets replies).map Prod.fst).Nodup ∧
      ((acceptedSockets replies).map Prod.snd).Nodup ∧
      (∀ p ∈ acceptedSockets replies, 0 ≤ p.1) ∧
      (∀ p ∈ acceptedSockets replies, p.1 ≠ stdinFileno ∧ p.1 ≠ s.listenFd ∧ p.1 ≠ s.epollFd ∧
        ∀ c ∈ s.connections, c.fd ≠ p.1) ∧
      ∀ p ∈ acceptedSockets replies, ∀ c ∈ s.connections, c.addr ≠ p.2)
    ⟨fun ⟨h₁, h₂, h₃, h₄, h₅⟩ => ⟨h₁, h₂, h₃, h₄, h₅⟩,
      fun ⟨h₁, h₂, h₃, h₄, h₅⟩ => ⟨h₁, h₂, h₃, h₄, h₅⟩⟩

/-- What the operating system guarantees about the inputs of a step. -/
def LoopInput.Admissible (l : Loop) : LoopInput → Prop
  | .replies r => FreshSockets l.server r.accepts
  | _ => True

instance (l : Loop) (i : LoopInput) : Decidable (i.Admissible l) :=
  match i with
  | .replies r => inferInstanceAs (Decidable (FreshSockets l.server r.accepts))
  | .events _ | .waitFailed _ | .endOfBatch => inferInstanceAs (Decidable True)

/-- The server when `server_event_loop` enters its loop: `create_epoll` has registered
the listening socket and standard input. -/
def initialServer (name : Bytes) (listenFd epollFd : Fd) : Server where
  name := name
  listenFd := listenFd
  epollFd := epollFd
  kernel := { interest := .watching [⟨listenFd, epollIn⟩, ⟨stdinFileno, epollIn⟩] }

/-- The runs of `server_event_loop` for a host called `name`. -/
def serverSystem (name : Bytes) : System Loop LoopInput where
  init l := ∃ listenFd epollFd, listenFd ≠ stdinFileno ∧
    l = ⟨initialServer name listenFd epollFd, .waiting⟩
  step l i l' := i.Admissible l ∧ serverLoopStep l i = some l'

/-- The event that is handled next. -/
def Loop.nextEvent (l : Loop) : Option EpollEvent :=
  match l.phase with
  | .handling (e :: _) => some e
  | _ => none

/-- The loop has not been left. -/
def Loop.Running (l : Loop) : Prop :=
  l.phase ≠ .stopped

instance (l : Loop) : Decidable l.Running :=
  inferInstanceAs (Decidable (_ ≠ _))

end Chatroom
