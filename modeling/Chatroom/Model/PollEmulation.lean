import Mathlib.Logic.Function.Basic
import Chatroom.Library.Transition
import Chatroom.Model.Epoll

/-!
# The emulation of epoll over poll

The functions that `epoll.cpp` defines where there is no native epoll: instances are
vectors of watched descriptors in a `std::map`, and `epoll_wait` translates the answers of
`poll`.
-/

namespace Chatroom

namespace PollEmulation
open Transition

/-- The `short` flag sets of `poll`. -/
abbrev PollFlags := UInt16

def pollIn : PollFlags := 0x001
def pollPri : PollFlags := 0x002
def pollOut : PollFlags := 0x004
def pollErr : PollFlags := 0x008
def pollHup : PollFlags := 0x010

/-- `events & flags` as a condition. -/
def PollFlags.has (events flags : PollFlags) : Prop :=
  events &&& flags ≠ 0

instance (events flags : PollFlags) : Decidable (PollFlags.has events flags) :=
  inferInstanceAs (Decidable (_ ≠ _))

/-- `epoll_events_to_poll` -/
def epollEventsToPoll (events : EventMask) : PollFlags :=
  (if events.has epollIn then pollIn else 0) ||| (if events.has epollOut then pollOut else 0)

/-- `poll_events_to_epoll` -/
def pollEventsToEpoll (events : PollFlags) : EventMask :=
  (if PollFlags.has events (pollIn ||| pollPri) then epollIn else 0) |||
    (if PollFlags.has events pollOut then epollOut else 0) |||
    (if PollFlags.has events pollErr then epollErr else 0) |||
    (if PollFlags.has events pollHup then epollHup ||| epollRdhup else 0)

/-- The static variables `poll_instances` and `next_poll_instance`. -/
structure PollState where
  pollInstances : ℤ → Option (List PollEntry) := fun _ => none
  nextPollInstance : ℤ := -2

/-- `INT_MIN` -/
def intMin : ℤ := -0x80000000

/-- `epoll_create1`. Counting down from the least `int` is undefined. -/
def epollCreate1 (s : PollState) : Option (ℤ × PollState) :=
  if s.nextPollInstance = intMin then none
  else some (s.nextPollInstance,
    { pollInstances := Function.update s.pollInstances s.nextPollInstance (some [])
      nextPollInstance := s.nextPollInstance - 1 })

/-- The position at which the linear search for a descriptor stops. -/
def position (entries : List PollEntry) (fd : Fd) : ℕ :=
  entries.findIdx (fun entry => entry.fd = fd)

/-- Overwrite the vector of one instance. -/
def PollState.store (s : PollState) (epollFd : ℤ) (entries : List PollEntry) : PollState :=
  { s with pollInstances := Function.update s.pollInstances epollFd (some entries) }

/-- `epoll_ctl`; `event` is absent where the caller passes a null pointer. -/
def epollCtl (s : PollState) (epollFd op : ℤ) (fd : Fd) (event : Option EventMask) :
    Except Errno Unit × PollState :=
  match s.pollInstances epollFd with
  | none => (.error .ebadf, s)
  | some entries =>
    let entry := position entries fd
    if op = epollCtlAdd then
      if entry ≠ entries.length then (.error .eexist, s)
      else (.ok (), s.store epollFd (entries ++ [⟨fd, event.getD 0⟩]))
    else if op = epollCtlMod then
      if entry = entries.length then (.error .enoent, s)
      else (.ok (), s.store epollFd
        (entries.modify entry (fun e => { e with events := event.getD 0 })))
    else if op = epollCtlDel then
      if entry = entries.length then (.error .enoent, s)
      else (.ok (), s.store epollFd (entries.eraseIdx entry))
    else (.error .einval, s)

structure PollFd where
  fd : Fd
  events : PollFlags
  revents : PollFlags

/-- What a call of `poll` returns, and the `revents` it sets, by position. -/
structure PollReply where
  readyCount : ℤ
  revents : ℕ → PollFlags

/-- The vector that `epoll_wait` passes to `poll`. -/
def watched (entries : List PollEntry) : List PollFd :=
  entries.map (fun entry => ⟨entry.fd, epollEventsToPoll entry.events, 0⟩)

/-- The `for` loop of `epoll_wait` on the descriptors that are left, with `eventCount` events
written already. -/
def collectEvents (maxevents : ℤ) : List PollFd → ℕ → List EpollEvent
  | [], _ => []
  | pollFd :: pollFds, eventCount =>
    if (eventCount : ℤ) < maxevents then
      if pollEventsToEpoll pollFd.revents = 0 then collectEvents maxevents pollFds eventCount
      else ⟨pollFd.fd, pollEventsToEpoll pollFd.revents⟩ ::
        collectEvents maxevents pollFds (eventCount + 1)
    else []

/-- `epoll_wait`: what it returns, and the events it writes. -/
def epollWait (s : PollState) (epollFd maxevents : ℤ) (poll : List PollFd → PollReply) :
    ℤ × List EpollEvent :=
  match s.pollInstances epollFd with
  | none => (-1, [])
  | some entries =>
    let reply := poll (watched entries)
    if reply.readyCount ≤ 0 then (reply.readyCount, [])
    else
      let pollFds := (watched entries).mapIdx (fun i p => { p with revents := reply.revents i })
      let events := collectEvents maxevents pollFds 0
      (events.length, events)

end PollEmulation

end Chatroom
