import Chatroom.Proofs.Chronicle
import Chatroom.Proofs.Terminal

/-!
# What only grows

The streams of a connection, and the messages that were queued to it, are never taken back:
from one state of a run to a later one they become longer. So what was queued in one state is
sent in each later state that has sent enough.
-/

namespace Chatroom
open Relation Transition

/-- The record of the same connection at a later time. -/
structure Connection.Grows (c d : Connection) : Prop where
  received : c.received <+: d.received
  sent : c.sent <+: d.sent
  queued : c.queued <+: d.queued

section Connections

variable {host : Bytes} {b c d : Connection}

lemma Connection.Grows.refl (c : Connection) : c.Grows c :=
  ⟨List.prefix_refl _, List.prefix_refl _, List.prefix_refl _⟩

lemma Connection.Grows.trans (h : b.Grows c) (h' : c.Grows d) : b.Grows d :=
  ⟨h.received.trans h'.received, h.sent.trans h'.sent, h.queued.trans h'.queued⟩

lemma Connection.Grows.of_eq (hreceived : d.received = c.received) (hsent : d.sent = c.sent)
    (hqueued : d.queued = c.queued) : c.Grows d := by
  refine ⟨?_, ?_, ?_⟩
  · rw [hreceived]
  · rw [hsent]
  · rw [hqueued]

lemma Connection.grows_absorb (c : Connection) (data : Bytes) : c.Grows (c.absorb data) :=
  ⟨List.prefix_append _ _, List.prefix_refl _, List.prefix_refl _⟩

lemma Connection.grows_enqueue (c : Connection) (m : Message) : c.Grows (c.enqueue m) :=
  ⟨List.prefix_refl _, List.prefix_refl _, List.prefix_append _ _⟩

lemma Move.grows {ev : Option EventMask} (h : Move host c ev d) : c.Grows d := by
  cases h with
  | listen data hc hp => exact c.grows_absorb data
  | introduce data m rest hc hp htype hname hhost =>
    exact ⟨List.prefix_append _ _, List.prefix_refl _, List.prefix_append _ _⟩
  | send n hc hn => exact ⟨List.prefix_refl _, List.prefix_append _ _, List.prefix_refl _⟩
  | drain hc hout => exact ⟨List.prefix_refl _, List.prefix_append _ _, List.prefix_refl _⟩
  | ingest data st hc hst =>
    exact ⟨List.prefix_append _ _, List.prefix_refl _, List.prefix_refl _⟩

lemma Talk.grows {e : RoomEntry} {sender : Option ℕ} (h : Talk c d e sender) : c.Grows d := by
  cases h with
  | chat m rest hc hp htype => exact Connection.Grows.of_eq rfl rfl rfl
  | join hc => exact ⟨List.prefix_refl _, List.prefix_append _ _, List.prefix_refl _⟩

lemma Hear.grows (h : Hear c d) : c.Grows d := by
  cases h with
  | line e hst hlegal => exact c.grows_enqueue _
  | dismiss hst => exact c.grows_enqueue _

lemma EvolvesTo.grows (h : EvolvesTo host c d) : c.Grows d := by
  induction h with
  | refl => exact Connection.Grows.refl c
  | tail _ hlast ih =>
    apply ih.trans
    cases hlast with
    | move h => exact h.grows
    | talk h => exact h.grows
    | hear h => exact h.grows

lemma Connection.Grows.queued_ne_nil (h : c.Grows d) (hne : c.queued ≠ []) : d.queued ≠ [] := by
  intro hnil
  have hprefix := h.queued
  rw [hnil, List.prefix_nil] at hprefix
  exact hne hprefix

lemma Connection.Grows.arrived (h : c.Grows d) (hd : d.Stream) {received : Bytes}
    (hreceived : received <+: d.sent)
    (hlen : (frameCodec.encodeAll c.queued).length ≤ received.length) :
    frameCodec.encodeAll c.queued <+: received := by
  obtain ⟨later, hlater⟩ := h.queued
  have hall : frameCodec.encodeAll c.queued <+: frameCodec.encodeAll d.queued := by
    rw [← hlater, frameCodec.encodeAll_append]
    exact List.prefix_append _ _
  have hsent : d.sent <+: frameCodec.encodeAll d.queued := by
    rw [← hd.sent]
    exact List.prefix_append _ _
  exact List.prefix_of_prefix_length_le hall (hreceived.trans hsent) hlen

lemma Connection.Grows.pending (h : c.Grows d) (hd : d.Stream)
    (hlen : d.sent.length < (frameCodec.encodeAll c.queued).length) : d.outBuffer ≠ [] := by
  intro hout
  obtain ⟨later, hlater⟩ := h.queued
  have hsent := congrArg List.length hd.sent
  rw [Connection.unsent, hout, List.drop_nil, List.append_nil, ← hlater,
    frameCodec.encodeAll_append, List.length_append] at hsent
  omega

end Connections

/-! ### Servers -/

/-- The connections of a later state are new, or they have grown. -/
structure Server.GrowsTo (s t : Server) : Prop where
  accepted : s.accepted ≤ t.accepted
  grown : ∀ d ∈ t.connections, s.accepted ≤ d.serial ∨
    ∃ c ∈ s.connections, SamePeer c d ∧ c.Grows d

section Servers

variable {host : Bytes} {s t u : Server} {who : Option ℕ} {l l' : Loop}

lemma Server.GrowsTo.refl (s : Server) : s.GrowsTo s :=
  ⟨le_rfl, fun c hc => Or.inr ⟨c, hc, SamePeer.refl c, Connection.Grows.refl c⟩⟩

lemma Server.GrowsTo.trans (h : s.GrowsTo t) (h' : t.GrowsTo u) : s.GrowsTo u where
  accepted := h.accepted.trans h'.accepted
  grown := by
    intro d hd
    rcases h'.grown d hd with hnew | ⟨c, hc, hpeer, hgrows⟩
    · exact Or.inl (h.accepted.trans hnew)
    · rcases h.grown c hc with hnew | ⟨b, hb, hpeer₀, hgrows₀⟩
      · left
        rw [hpeer.serial]
        exact hnew
      · exact Or.inr ⟨b, hb, hpeer₀.trans hpeer, hgrows₀.trans hgrows⟩

lemma Effects.growsTo (hs : s.Registry) (h : Effects who s t) : s.GrowsTo t where
  accepted := h.preserves (I := fun u => s.accepted ≤ u.accepted)
    (fun _ _ hu hstep => hu.trans hstep.accepted_le) le_rfl
  grown := by
    intro d hd
    rcases h.origin hs hd with ⟨fd, addr, serial, hserial, hlives, -⟩ | ⟨c, hc, hlives, -⟩
    · left
      rw [hlives.samePeer.serial]
      exact hserial
    · exact Or.inr ⟨c, hc, hlives.samePeer, hlives.grows⟩

lemma Server.GrowsTo.grows (h : s.GrowsTo t) (hreg : s.Registry) {c d : Connection}
    (hc : c ∈ s.connections) (hd : d ∈ t.connections) (hserial : d.serial = c.serial) :
    c.Grows d := by
  rcases h.grown d hd with hnew | ⟨b, hb, hpeer, hgrows⟩
  · have hlt := hreg.serial_lt c hc
    omega
  · have hbc : b = c := Keyed.eq_of_key_eq hreg.distinct.serials hb hc
      (hpeer.serial.symm.trans hserial)
    rw [← hbc]
    exact hgrows

theorem path_growsTo (hr : (serverSystem host).Reach System.any l)
    (hp : (serverSystem host).Path System.any l l') (hrun : l'.Running) :
    l.server.GrowsTo l'.server := by
  refine (path_invariant (I := fun u => l.server.GrowsTo u) ?_ hp ?_ hrun).2
  · intro s s' e es r hinv hs _ _ hhandled
    obtain ⟨who, heff⟩ := hhandled.effects
    exact hs.trans (heff.growsTo hinv.sound.registry)
  · exact fun hrunning => ⟨reach_inv hr hrunning, Server.GrowsTo.refl _⟩

lemma path_running {P : Loop → LoopInput → Prop} (hp : (serverSystem host).Path P l l')
    (hrun : l'.Running) : l.Running := by
  induction hp with
  | refl => exact hrun
  | tail _ hlast ih =>
    obtain ⟨i, -, -, hlast⟩ := hlast
    exact ih (serverLoopStep_cases hlast).1

lemma path_grows (hr : (serverSystem host).Reach System.any l)
    (hp : (serverSystem host).Path System.any l l') (hrun : l'.Running) {c d : Connection}
    (hc : c ∈ l.server.connections) (hd : d ∈ l'.server.connections)
    (hserial : d.serial = c.serial) : c.Grows d :=
  (path_growsTo hr hp hrun).grows (reach_inv hr (path_running hp hrun)).sound.registry hc hd
    hserial

end Servers

/-! ### Clients -/

section Clients

variable {name : Bytes} {client : Client} {l l' : ClientLoop} {i : ClientInput}

lemma connectionFlushOutBuffer_grows (c : Connection) (replies : List SendReply) :
    c.Grows (connectionFlushOutBuffer c replies).2 := by
  rw [connectionFlushOutBuffer_eq]
  split_ifs <;> exact ⟨List.prefix_refl _, List.prefix_append _ _, List.prefix_refl _⟩

lemma clientIntroduction_grows {c : Connection} (h : c.Grows client.conn) (events : EventMask) :
    c.Grows (match client.queueClientHello with
      | (false, client) => (false, client)
      | (true, client) => client.fdMod events).2.conn := by
  rw [Client.queueClientHello, protocolQueueMessage_eq]
  split_ifs with hlegal
  · exact h.trans (client.conn.grows_enqueue _)
  · exact h.trans (Connection.Grows.of_eq rfl rfl rfl)

lemma clientHandleSend_grows (client : Client) (replies : List SendReply) :
    client.conn.Grows (client.handleSendNetworkMessageEvent replies).2.conn := by
  have hgrows := connectionFlushOutBuffer_grows client.conn replies
  have hconn : (client.call (.send client.conn.fd)).conn = client.conn := rfl
  rw [Client.handleSendNetworkMessageEvent, hconn]
  rcases hr : connectionFlushOutBuffer client.conn replies with ⟨ok, conn⟩
  rw [hr] at hgrows
  replace hgrows : client.conn.Grows conn := hgrows
  cases ok with
  | false => exact hgrows
  | true =>
    dsimp only
    split_ifs
    · exact hgrows
    · exact hgrows
    · exact hgrows.trans (Connection.Grows.of_eq rfl rfl rfl)
    · exact hgrows

lemma clientHandleRead_received
    (hst : client.conn.state = .waitingForServerHello ∨ client.conn.state = .active)
    (replies : List RecvReply) :
    (client.handleReadNetworkMessageEvent replies).2.conn.received =
        client.conn.received ++ recvData replies ∧
      client.conn.Grows (client.handleReadNetworkMessageEvent replies).2.conn := by
  have hread : client.conn.Grows (client.conn.ingested replies) :=
    ⟨List.prefix_append _ _, List.prefix_refl _, List.prefix_refl _⟩
  rw [Client.handleRead_eq]
  split_ifs with hfail
  · exact ⟨rfl, hread⟩
  · have hst' : (client.conn.ingested replies).state ≠ .connectionError := by
      show (recvEnd replies).state client.conn.state ≠ .connectionError
      cases hend : recvEnd replies with
      | wouldBlock => rcases hst with hst | hst <;> simp [RecvEnd.state, hst]
      | eof => simp [RecvEnd.state]
      | failed => exact absurd hend hfail
    have hreader : ((client.call (.recv client.conn.fd)).withConn
        (client.conn.ingested replies)).conn.state ≠ .connectionError := hst'
    have hframe := (clientReadMessages_frame hreader).2
    have hqueued := (clientReadMessages_readLoopKeeps hreader).1.queued
    exact ⟨hframe.1, hread.trans (Connection.Grows.of_eq hframe.1 hframe.2 hqueued)⟩

lemma clientHandleStdin_grows (client : Client) (line : Option Bytes) :
    client.conn.Grows (client.handleReadStdinEvent line).2.conn := by
  cases line with
  | none => exact Connection.Grows.refl _
  | some line =>
    rw [Client.handleReadStdinEvent]
    split_ifs with hnil hcommand htcp hactive hlong
    · exact Connection.Grows.refl _
    · have hlegal : protocolPayloadLengthIsLegal (Message.of .closeCon []).payload.length := by
        decide
      rw [Client.handleQuitCommand, protocolQueueMessage_eq, if_pos hlegal]
      exact client.conn.grows_enqueue _
    · exact Connection.Grows.refl _
    · exact Connection.Grows.refl _
    · have hlegal : protocolPayloadLengthIsLegal (Message.of .chat line).payload.length := hlong
      dsimp only
      rw [protocolQueueMessage_eq, if_pos hlegal]
      exact client.conn.grows_enqueue _
    · exact Connection.Grows.refl _

theorem clientHandleEvent_grows (client : Client) (e : EpollEvent) (r : ClientReplies) :
    client.conn.Grows (client.handleEvent e r).2.conn := by
  rw [clientHandleEvent_eq]
  split_ifs with hskip hconnect hsend hread hstdin
  · exact Connection.Grows.refl _
  · cases r.connect with
    | failed => exact Connection.Grows.of_eq rfl rfl rfl
    | established =>
      have hconnected : client.conn.Grows ((client.tuned r.ctl).withConn
          { client.conn with state := .sendingClientHello }).conn :=
        Connection.Grows.of_eq rfl rfl rfl
      exact clientIntroduction_grows hconnected _
  · exact clientHandleSend_grows (client.tuned r.ctl) r.sends
  · rw [Client.eventIsReadNetworkMessage, Bool.and_eq_true] at hread
    have hst : (client.tuned r.ctl).conn.state = .waitingForServerHello ∨
        (client.tuned r.ctl).conn.state = .active := (of_decide_eq_true hread.2).2.1
    exact (clientHandleRead_received hst r.recvs).2
  · exact clientHandleStdin_grows (client.tuned r.ctl) r.line
  · exact Connection.Grows.refl _

lemma clientLoopStep_grows (h : clientLoopStep l i = some l') :
    l.client.conn.Grows l'.client.conn := by
  obtain ⟨-, heq | ⟨r, e, es, ok, -, -, hev, -⟩⟩ := clientLoopStep_cases h
  · rw [heq]
    exact Connection.Grows.refl _
  · have hgrows := clientHandleEvent_grows l.client e r
    rwa [hev] at hgrows

end Clients

end Chatroom
