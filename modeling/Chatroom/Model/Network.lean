import Chatroom.Model.ClientLoop

/-!
# A server and its clients

One server and any number of clients, each with its own loop, joined by byte streams
that lose, invent and reorder nothing. The loops take their steps in any order; what the
calls of one side return is bound to the other side only through the streams.
-/

namespace Chatroom
open Transition

/-- The server has, or has had, this connection. -/
def Server.Knows (s : Server) (c : Connection) : Prop :=
  c ∈ s.connections ∨ ∃ d ∈ s.departed, d.conn = c

structure Network where
  server : Loop
  clients : ℕ → ClientLoop

/-- A step of the server or of one client. -/
inductive NetworkInput
  | server (i : LoopInput)
  | client (n : ℕ) (i : ClientInput)

/-- What each side has received is the beginning of what the other side has sent; `peer`
says which client is at the other end of the connection with a given serial number. -/
structure Network.Fifo (peer : ℕ → ℕ) (net : Network) : Prop where
  upstream : ∀ c, net.server.server.Knows c →
    c.received <+: (net.clients (peer c.serial)).client.conn.sent
  downstream : ∀ n, (net.clients n).client.conn.received = [] ∨
    ∃ c, net.server.server.Knows c ∧ peer c.serial = n ∧
      (net.clients n).client.conn.received <+: c.sent

/-- The runs of a server called `host` with clients called `names n`. -/
def networkSystem (host : Bytes) (names : ℕ → Bytes) (peer : ℕ → ℕ) :
    System Network NetworkInput where
  init net :=
    (serverSystem host).init net.server ∧ ∀ n, (clientSystem (names n)).init (net.clients n)
  step net i net' :=
    (match i with
      | .server i => (serverSystem host).step net.server i net'.server ∧ net'.clients = net.clients
      | .client n i =>
        (clientSystem (names n)).step (net.clients n) i (net'.clients n) ∧
          net'.server = net.server ∧ ∀ k, k ≠ n → net'.clients k = net.clients k) ∧
    net'.Fifo peer

end Chatroom
