import Mathlib.Data.Int.Notation
import Mathlib.Data.List.Basic

/-!
# Connections

The connection record of `connection.hpp` with its two I/O loops. A byte of a
`std::string` or of a buffer is a `UInt8`, whatever the sign of `char`. What the
operating system answers to the calls of one loop is a list of replies, one for
each call; a loop that asks for more replies than the list holds is told
`EAGAIN`.
-/

namespace Chatroom

abbrev Byte := UInt8

abbrev Bytes := List Byte

/-- File descriptors are C `int`s. -/
abbrev Fd := ℤ

/-- The bytes of a string literal of the source. -/
def ascii (s : String) : Bytes :=
  s.toList.map (fun c => UInt8.ofNat c.toNat)

/-- The byte that ends a line. -/
def newline : Byte := 10

/-- The values of `errno` that the program or its callers tell apart. -/
inductive Errno
  | eintr
  | eagain
  | ewouldblock
  | epipe
  | econnreset
  | econnaborted
  | ebadf
  | eexist
  | enoent
  | einval
  | other (code : ℕ)
  deriving DecidableEq

/-- The values after which the I/O loops return and wait for the next event. -/
def Errno.retryable : Errno → Bool
  | .eintr | .eagain | .ewouldblock => true
  | _ => false

/-- `enum MessageType : uint8_t`. The parser casts any byte to it. -/
abbrev MessageType := UInt8

namespace MessageType

def clientHello : MessageType := 1
def serverHello : MessageType := 2
def chat : MessageType := 3
def broadcast : MessageType := 4
def closeCon : MessageType := 6

end MessageType

structure Message where
  type : MessageType
  payloadLength : UInt32
  payload : Bytes
  deriving DecidableEq

/-- A message as every caller builds it: the length field is the payload size cast
to `uint32_t`. -/
def Message.of (type : MessageType) (payload : Bytes) : Message :=
  ⟨type, UInt32.ofNat payload.length, payload⟩

inductive ConnectionState
  | connecting
  | sendingClientHello
  | waitingForServerHello
  | sendingServerHello
  | waitingForClientHello
  | active
  | closed
  | connectionError
  deriving DecidableEq

/-- The checks that reject a message, each of which writes a line to `stderr`. -/
inductive Complaint
  /-- `Received oversized payload: %u bytes` -/
  | oversizedPayload (length : UInt32)
  /-- `Payload too large: %zu bytes` and `[app] message length too long.` -/
  | payloadTooLarge (length : ℕ)
  /-- `Expected CLIENT_HELLO, received type %d.` -/
  | expectedClientHello (type : MessageType)
  /-- `Client sent empty name.` -/
  | emptyName
  /-- `Expected CLOSE_CON with empty payload.` -/
  | expectedEmptyCloseCon
  /-- `Expected CHAT, received type %d.` -/
  | expectedChat (type : MessageType)
  /-- `Expected SERVER_HELLO, received type %d.` -/
  | expectedServerHello (type : MessageType)
  /-- `Expected BROADCAST, received type %d.` -/
  | expectedBroadcast (type : MessageType)
  /-- `Unexpected message in current connection state.` -/
  | unexpectedMessage
  deriving DecidableEq

/-- A connection object. The first six fields are those of the source and `addr` is
the address of the object. The fields from `serial` on are history variables: the
number of the `accept` call that made the connection, the bytes `recv` has
returned, the bytes `send` has accepted, the messages queued and parsed, and the
checks that rejected a message of this connection. No branch reads them. -/
structure Connection where
  fd : Fd
  state : ConnectionState
  inBuffer : Bytes := []
  outBuffer : Bytes := []
  bytesWritten : ℕ := 0
  name : Bytes := []
  addr : ℕ := 0
  serial : ℕ := 0
  received : Bytes := []
  sent : Bytes := []
  queued : List Message := []
  parsed : List Message := []
  complaints : List Complaint := []
  deriving DecidableEq

/-- The connection state after a check rejected a message. -/
def Connection.reject (conn : Connection) (complaint : Complaint) : Connection :=
  { conn with state := .connectionError, complaints := conn.complaints ++ [complaint] }

/-- The bytes of `outBuffer` that `send` has not accepted yet. -/
def Connection.unsent (conn : Connection) : Bytes :=
  conn.outBuffer.drop conn.bytesWritten

/-- One answer of `send`: it takes up to `n` of the bytes it is offered, or fails. -/
inductive SendReply
  | count (n : ℕ)
  | error (e : Errno)
  deriving DecidableEq

/-- `connection_flush_out_buffer` -/
def connectionFlushOutBuffer (conn : Connection) : List SendReply → Bool × Connection
  | [] =>
    if conn.bytesWritten < conn.outBuffer.length then (true, conn)
    else (true, { conn with outBuffer := [], bytesWritten := 0 })
  | reply :: replies =>
    if conn.bytesWritten < conn.outBuffer.length then
      let data := conn.outBuffer.drop conn.bytesWritten
      match reply with
      | .count n =>
        let sent := min n data.length
        if 0 < sent then
          connectionFlushOutBuffer { conn with
            bytesWritten := conn.bytesWritten + sent
            sent := conn.sent ++ data.take sent } replies
        else (false, { conn with state := .connectionError })
      | .error e =>
        if e = .eintr then (true, conn)
        else if e = .eagain ∨ e = .ewouldblock then (true, conn)
        else (false, { conn with state := .connectionError })
    else (true, { conn with outBuffer := [], bytesWritten := 0 })

/-- One answer of `recv`: the bytes it returns, none of them at the end of the
stream, or a failure. -/
inductive RecvReply
  | bytes (bs : Bytes)
  | error (e : Errno)
  deriving DecidableEq

/-- `connection_read_into_in_buffer` -/
def connectionReadIntoInBuffer (conn : Connection) : List RecvReply → Bool × Connection
  | [] => (true, conn)
  | .bytes bs :: replies =>
    if 0 < bs.length then
      connectionReadIntoInBuffer
        { conn with inBuffer := conn.inBuffer ++ bs, received := conn.received ++ bs } replies
    else (true, { conn with state := .closed })
  | .error e :: _ =>
    if e = .eintr then (true, conn)
    else if e = .eagain ∨ e = .ewouldblock then (true, conn)
    else (false, { conn with state := .connectionError })

/-! ### What the two loops do -/

/-- How a sequence of `recv` calls ends. -/
inductive RecvEnd
  | wouldBlock
  | eof
  | failed
  deriving DecidableEq

/-- The bytes that the calls of one read loop return. -/
def recvData : List RecvReply → Bytes
  | .bytes bs :: replies => if 0 < bs.length then bs ++ recvData replies else []
  | _ => []

/-- How the calls of one read loop end. -/
def recvEnd : List RecvReply → RecvEnd
  | [] => .wouldBlock
  | .bytes bs :: replies => if 0 < bs.length then recvEnd replies else .eof
  | .error e :: _ => if e.retryable then .wouldBlock else .failed

/-- The connection state that the end of a read loop leaves. -/
def RecvEnd.state : RecvEnd → ConnectionState → ConnectionState
  | .wouldBlock, st => st
  | .eof, _ => .closed
  | .failed, _ => .connectionError

/-- A read loop appends what `recv` returned and marks the connection when the
stream ended or failed. It reports failure only for a fatal error. -/
theorem connectionReadIntoInBuffer_eq (conn : Connection) (replies : List RecvReply) :
    connectionReadIntoInBuffer conn replies =
      (recvEnd replies != .failed,
        { conn with
          inBuffer := conn.inBuffer ++ recvData replies
          received := conn.received ++ recvData replies
          state := (recvEnd replies).state conn.state }) := by
  induction replies generalizing conn with
  | nil => simp [connectionReadIntoInBuffer, recvData, recvEnd, RecvEnd.state]
  | cons reply replies ih =>
    cases reply with
    | bytes bs =>
      by_cases h : 0 < bs.length
      · simp [connectionReadIntoInBuffer, recvData, recvEnd, h, ih]
      · simp [connectionReadIntoInBuffer, recvData, recvEnd, h, RecvEnd.state]
    | error e =>
      cases e <;> simp [connectionReadIntoInBuffer, recvData, recvEnd, RecvEnd.state,
        Errno.retryable]

/-- How many of `remaining` bytes the calls of one flush hand over. -/
def sendCount : ℕ → List SendReply → ℕ
  | remaining, .count n :: replies =>
    if 0 < min n remaining then min n remaining + sendCount (remaining - min n remaining) replies
    else 0
  | _, _ => 0

/-- A call of the flush of `remaining` bytes returns zero or a fatal error. -/
def sendFails : ℕ → List SendReply → Bool
  | _, [] => false
  | remaining, .count n :: replies =>
    if remaining = 0 then false
    else if 0 < min n remaining then sendFails (remaining - min n remaining) replies
    else true
  | remaining, .error e :: _ => if remaining = 0 then false else !e.retryable

lemma sendCount_le (remaining : ℕ) (replies : List SendReply) :
    sendCount remaining replies ≤ remaining := by
  induction replies generalizing remaining with
  | nil => simp [sendCount]
  | cons reply replies ih =>
    cases reply with
    | error e => simp [sendCount]
    | count n =>
      have h := ih (remaining - min n remaining)
      simp only [sendCount]
      split_ifs <;> omega

lemma sendCount_pos {remaining n : ℕ} (hn : 0 < n) (hpos : 0 < remaining)
    (replies : List SendReply) : 0 < sendCount remaining (.count n :: replies) := by
  have hmin : 0 < min n remaining := Nat.lt_min.mpr ⟨hn, hpos⟩
  rw [sendCount, if_pos hmin]
  omega

/-- A flush hands over the bytes that `send` accepts, in order and starting at
`bytesWritten`. It drops the buffer exactly when all of them were accepted, and
reports failure only for a zero or fatal result before that. -/
theorem connectionFlushOutBuffer_eq (conn : Connection) (replies : List SendReply) :
    connectionFlushOutBuffer conn replies =
      if sendCount conn.unsent.length replies = conn.unsent.length then
        (true, { conn with outBuffer := [], bytesWritten := 0, sent := conn.sent ++ conn.unsent })
      else
        (!sendFails conn.unsent.length replies,
          { conn with
            bytesWritten := conn.bytesWritten + sendCount conn.unsent.length replies
            sent := conn.sent ++ conn.unsent.take (sendCount conn.unsent.length replies)
            state := if sendFails conn.unsent.length replies then .connectionError
              else conn.state }) := by
  induction replies generalizing conn with
  | nil =>
    by_cases h : conn.bytesWritten < conn.outBuffer.length
    · have hne : (0 : ℕ) ≠ conn.unsent.length := by simp [Connection.unsent]; omega
      simp [connectionFlushOutBuffer, sendCount, sendFails, h, hne]
    · have hnil : conn.unsent = [] := by simp [Connection.unsent]; omega
      simp [connectionFlushOutBuffer, sendCount, h, hnil]
  | cons reply replies ih =>
    by_cases h : conn.bytesWritten < conn.outBuffer.length
    · have hlen : (conn.outBuffer.drop conn.bytesWritten).length = conn.unsent.length := rfl
      have hne : conn.unsent.length ≠ 0 := by simp [Connection.unsent]; omega
      have hnil : conn.unsent ≠ [] := by simpa using hne
      cases reply with
      | error e =>
        cases e <;> simp [connectionFlushOutBuffer, sendCount, sendFails, h, hne.symm, hnil,
          Errno.retryable]
      | count n =>
        by_cases hn : 0 < min n conn.unsent.length
        · simp only [connectionFlushOutBuffer, h, if_true, hlen, hn, sendCount, sendFails, hne,
            if_false]
          have hk : min n conn.unsent.length ≤ conn.unsent.length := Nat.min_le_right _ _
          generalize min n conn.unsent.length = k at hn hk ⊢
          have hunsent : Connection.unsent { conn with
              bytesWritten := conn.bytesWritten + k
              sent := conn.sent ++ (conn.outBuffer.drop conn.bytesWritten).take k } =
              conn.unsent.drop k := by
            simp [Connection.unsent, List.drop_drop]
          have hj := sendCount_le (conn.unsent.length - k) replies
          rw [ih, hunsent, List.length_drop]
          generalize sendCount (conn.unsent.length - k) replies = j at hj ⊢
          have hdata : conn.outBuffer.drop conn.bytesWritten = conn.unsent := rfl
          by_cases hall : j = conn.unsent.length - k
          · have hall' : k + j = conn.unsent.length := by omega
            rw [if_pos hall, if_pos hall']
            simp only [hdata, List.append_assoc, List.take_append_drop]
          · have hall' : k + j ≠ conn.unsent.length := by omega
            rw [if_neg hall, if_neg hall']
            simp only [hdata, List.append_assoc, Nat.add_assoc, List.take_add]
        · have hz : min n conn.unsent.length = 0 := by omega
          simp [connectionFlushOutBuffer, sendCount, sendFails, h, hlen, hz, hne.symm, hnil]
    · have hnil : conn.unsent = [] := by simp [Connection.unsent]; omega
      cases reply <;> simp [connectionFlushOutBuffer, sendCount, h, hnil]

end Chatroom
