import Chatroom.Library.Transition
import Chatroom.Model.Protocol

/-!
# Two connections joined by a byte stream

A sending and a receiving connection on the two ends of a reliable stream. The sender
queues and flushes, the receiver reads and parses until nothing complete is left, in
any interleaving and with any boundaries of `send` and `recv`.
-/

namespace Chatroom
open Transition

/-- The two ends. `idle` says that the parser has asked for more since the last read; the
lists are what the calls of `protocol_queue_message` were given and those of
`protocol_parse_message` returned. -/
structure Link where
  sender : Connection
  receiver : Connection
  idle : Bool := true
  queued : List Message := []
  parsed : List Message := []

inductive LinkAct
  | queue (message : Message)
  | flush (replies : List SendReply)
  | read (replies : List RecvReply)
  | parse

def Link.act (l : Link) : LinkAct → Link
  | .queue message =>
    match protocolQueueMessage l.sender message with
    | (false, conn) => { l with sender := conn }
    | (true, conn) => { l with sender := conn, queued := l.queued ++ [message] }
  | .flush replies => { l with sender := (connectionFlushOutBuffer l.sender replies).2 }
  | .read replies =>
    { l with receiver := (connectionReadIntoInBuffer l.receiver replies).2, idle := false }
  | .parse =>
    match protocolParseMessage l.receiver with
    | (none, conn) => { l with receiver := conn, idle := true }
    | (some message, conn) => { l with receiver := conn, parsed := l.parsed ++ [message] }

/-- `send` takes a positive number of bytes or says that the call has to be repeated. -/
def SendReply.Progresses : SendReply → Prop
  | .count n => 0 < n
  | .error e => e.retryable

/-- `recv` returns bytes or says that the call has to be repeated. -/
def RecvReply.Delivers : RecvReply → Prop
  | .bytes bs => bs ≠ []
  | .error e => e.retryable

instance : (reply : SendReply) → Decidable reply.Progresses
  | .count _ => inferInstanceAs (Decidable (_ < _))
  | .error _ => inferInstanceAs (Decidable (_ = true))

instance : (reply : RecvReply) → Decidable reply.Delivers
  | .bytes _ => inferInstanceAs (Decidable (_ ≠ _))
  | .error _ => inferInstanceAs (Decidable (_ = true))

/-- The stream delivers in order and without loss: what was received is at any time a
prefix of what was sent. After a read the parser is called until it asks for more. -/
def Link.Allows (l : Link) : LinkAct → Prop
  | .queue message => protocolPayloadLengthIsLegal message.payload.length
  | .flush replies => ∀ reply ∈ replies, reply.Progresses
  | .read replies => l.idle = true ∧ (∀ reply ∈ replies, reply.Delivers) ∧
      l.receiver.received ++ recvData replies <+: l.sender.sent
  | .parse => l.idle = false

instance (l : Link) : (a : LinkAct) → Decidable (l.Allows a)
  | .queue _ => inferInstanceAs (Decidable (protocolPayloadLengthIsLegal _))
  | .flush _ => inferInstanceAs (Decidable (∀ _ ∈ _, _))
  | .read _ => inferInstanceAs (Decidable (_ ∧ _ ∧ _))
  | .parse => inferInstanceAs (Decidable (_ = _))

def linkStep (l : Link) (a : LinkAct) : Option Link :=
  if l.Allows a then some (l.act a) else none

/-- A connection on which nothing has happened. -/
structure Connection.Blank (c : Connection) : Prop where
  inBuffer : c.inBuffer = []
  outBuffer : c.outBuffer = []
  bytesWritten : c.bytesWritten = 0
  received : c.received = []
  sent : c.sent = []
  queued : c.queued = []
  parsed : c.parsed = []
  state : c.state ≠ .connectionError

def linkSystem : System Link LinkAct where
  init l := l.sender.Blank ∧ l.receiver.Blank ∧ l = ⟨l.sender, l.receiver, true, [], []⟩
  step l a l' := linkStep l a = some l'

end Chatroom
