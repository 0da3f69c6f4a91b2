import Chatroom.Library.Keyed
import Chatroom.Model.Connection

/-!
# The interest list

`epoll_ctl` as `epoll.cpp` implements it over a vector of entries, and the wrappers
`epoll_fd_add`, `epoll_fd_mod` and `epoll_fd_remove`. The native call may also fail
for reasons of its own; such failures are scripted.
-/

namespace Chatroom

abbrev EventMask := UInt32

def epollIn : EventMask := 0x001
def epollOut : EventMask := 0x004
def epollErr : EventMask := 0x008
def epollHup : EventMask := 0x010
def epollRdhup : EventMask := 0x2000

/-- `flags & mask` as a condition. -/
def EventMask.has (flags mask : EventMask) : Prop :=
  flags &&& mask ≠ 0

instance (flags mask : EventMask) : Decidable (flags.has mask) :=
  inferInstanceAs (Decidable (_ ≠ _))

def epollCtlAdd : ℤ := 1
def epollCtlDel : ℤ := 2
def epollCtlMod : ℤ := 3

/-- `STDIN_FILENO` -/
def stdinFileno : Fd := 0

structure PollEntry where
  fd : Fd
  events : EventMask
  deriving DecidableEq

/-- One event as `epoll_wait` returns it. -/
structure EpollEvent where
  fd : Fd
  events : EventMask
  deriving DecidableEq

/-- The entries of one instance: at most one for each descriptor. -/
structure InterestList where
  entries : List PollEntry
  nodup : (entries.map PollEntry.fd).Nodup
  deriving DecidableEq

namespace InterestList

/-- The entry of a descriptor. -/
def find (l : InterestList) (fd : Fd) : Option PollEntry :=
  Keyed.lookup PollEntry.fd fd l.entries

/-- Add an entry, unless its descriptor has one. -/
def add (l : InterestList) (entry : PollEntry) : InterestList :=
  if h : l.find entry.fd = none then
    ⟨l.entries ++ [entry], Keyed.nodup_append_singleton l.nodup (Keyed.lookup_none.mp h)⟩
  else l

def modify (l : InterestList) (entry : PollEntry) : InterestList :=
  ⟨Keyed.replace PollEntry.fd entry l.entries, by rw [Keyed.map_key_replace]; exact l.nodup⟩

def delete (l : InterestList) (fd : Fd) : InterestList :=
  ⟨Keyed.remove PollEntry.fd fd l.entries,
    l.nodup.sublist ((Keyed.remove_sublist fd l.entries).map PollEntry.fd)⟩

/-- A new instance to which these entries were added. -/
def watching (entries : List PollEntry) : InterestList :=
  entries.foldl add ⟨[], List.nodup_nil⟩

end InterestList

/-- `epoll_ctl` on the entries of one instance -/
def epollCtl (interest : InterestList) (op : ℤ) (fd : Fd) (events : EventMask) :
    Except Errno InterestList :=
  let entry := interest.find fd
  if op = epollCtlAdd then
    if entry.isSome then .error .eexist else .ok (interest.add ⟨fd, events⟩)
  else if op = epollCtlMod then
    if entry.isNone then .error .enoent else .ok (interest.modify ⟨fd, events⟩)
  else if op = epollCtlDel then
    if entry.isNone then .error .enoent else .ok (interest.delete fd)
  else .error .einval

/-- The calls on descriptors, in the order they are made. -/
inductive SysCall
  | create (fd : Fd)
  | accept (fd : Fd)
  | recv (fd : Fd)
  | send (fd : Fd)
  | ctl (op : ℤ) (fd : Fd)
  | shutdown (fd : Fd)
  | close (fd : Fd)
  deriving DecidableEq

/-- The kernel as the process sees it: the interest list of its epoll instance, the
verdicts on the next `epoll_ctl` calls (`some e` refuses a call that the list itself
would admit), and the calls made so far, a history variable. -/
structure Kernel where
  interest : InterestList
  ctlScript : List (Option Errno) := []
  calls : List SysCall := []
  deriving DecidableEq

def Kernel.call (k : Kernel) (c : SysCall) : Kernel :=
  { k with calls := k.calls ++ [c] }

/-- `close`; the native epoll forgets a descriptor that is closed. -/
def Kernel.close (k : Kernel) (fd : Fd) : Kernel :=
  { k.call (.close fd) with interest := k.interest.delete fd }

/-- `epoll_update`; the result is whether `epoll_ctl` returned 0. -/
def epollUpdate (k : Kernel) (op : ℤ) (fd : Fd) (events : EventMask) : Bool × Kernel :=
  let k' := { k.call (.ctl op fd) with ctlScript := k.ctlScript.tail }
  match k.ctlScript with
  | some _ :: _ => (false, k')
  | _ =>
    match epollCtl k.interest op fd events with
    | .error _ => (false, k')
    | .ok interest => (true, { k' with interest := interest })

/-- `epoll_fd_add` -/
def epollFdAdd (k : Kernel) (fd : Fd) (events : EventMask) : Bool × Kernel :=
  epollUpdate k epollCtlAdd fd events

/-- `epoll_register` -/
def epollRegister (k : Kernel) (fd : Fd) (events : EventMask) : Bool × Kernel :=
  epollFdAdd k fd events

/-- `epoll_fd_mod` -/
def epollFdMod (k : Kernel) (fd : Fd) (events : EventMask) : Bool × Kernel :=
  epollUpdate k epollCtlMod fd events

/-- `epoll_fd_remove` -/
def epollFdRemove (k : Kernel) (fd : Fd) (events : EventMask) : Bool × Kernel :=
  epollUpdate k epollCtlDel fd events

/-- What `epoll_create1` returns. -/
inductive CreateReply
  | created (fd : Fd)
  | failed (e : Errno)
  deriving DecidableEq

/-- `create_epoll_with_socket_events`; the result is -1 after a failure. -/
def createEpollWithSocketEvents (k : Kernel) (socketFd : Fd) (socketEvents : EventMask) :
    CreateReply → Fd × Kernel
  | .failed _ => (-1, k)
  | .created epollFd =>
    let k := { k.call (.create epollFd) with interest := .watching [] }
    match epollRegister k socketFd socketEvents with
    | (false, k) => (-1, k.close epollFd)
    | (true, k) =>
      match epollRegister k stdinFileno epollIn with
      | (false, k) => (-1, k.close epollFd)
      | (true, k) => (epollFd, k)

/-- The mask last registered for a descriptor. -/
def Kernel.mask (k : Kernel) (fd : Fd) : Option EventMask :=
  (k.interest.find fd).map PollEntry.events

end Chatroom
