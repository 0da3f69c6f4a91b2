import Chatroom.Proofs.Closing
import Chatroom.Proofs.EndToEnd
import Chatroom.Proofs.Growth
import Chatroom.Proofs.Quitting

/-!
# What is said is heard

As long as a guest is in the room and its streams are served, what its user says is logged
sooner or later, and what the log has for it is shown on its terminal. The streams are served
when pending output is taken by the socket, and bytes under way are read, at last.
-/

namespace Chatroom
open Interleaving Relation Transition

/-! ### One client for each connection -/

section Pairs

variable {host : Bytes} {names : ℕ → Bytes} {peer : ℕ → ℕ} {net : Network} {s : Server}
  {c d : Connection}

lemma Server.Registry.known_once (hreg : s.Registry) (hc : c ∈ s.connections) (hd : s.Knows d)
    (hserial : d.serial = c.serial) : d = c := by
  rcases hd with hd | ⟨g, hg, rfl⟩
  · exact Keyed.eq_of_key_eq hreg.distinct.serials hd hc hserial
  · exact absurd hserial.symm (hreg.gone c hc g hg)

lemma Network.Fifo.downstream_of (h : net.Fifo peer) (hpeer : Function.Injective peer)
    (hreg : net.server.server.Registry) (hc : c ∈ net.server.server.connections) :
    (net.clients (peer c.serial)).client.conn.received <+: c.sent := by
  rcases h.downstream (peer c.serial) with hnil | ⟨d, hd, heq, hprefix⟩
  · rw [hnil]
    exact List.nil_prefix
  · rwa [hreg.known_once hc hd (hpeer heq)] at hprefix

lemma queued_of_silent {name : Bytes} {chats : List Bytes} {client : Client}
    (hrec : client.Recorded name) (hspoken : client.Spoken name chats)
    (hreceived : client.conn.received = []) (hstaying : client.clientQuitting = false) :
    client.conn.queued = [] ∨ client.conn.queued = [clientGreeting name] := by
  have hparsed : client.conn.parsed = [] := by
    have hframes := hrec.stream.frames_received
    rw [hreceived, frames_nil] at hframes
    exact (List.append_eq_nil_iff.mp hframes.symm).1
  have hnone : chats = [] := by
    by_contra hne
    obtain ⟨m, hm, -⟩ := hspoken.greeted hne
    rw [hparsed] at hm
    cases hm
  rcases hspoken.queued with ⟨hnil, -, -⟩ | hscript
  · exact Or.inl hnil
  · right
    rw [hscript, hnone, hstaying]
    rfl

lemma clientLoopStep_staying {l l' : ClientLoop} {i : ClientInput}
    (h : clientLoopStep l i = some l') (hstaying : l'.client.clientQuitting = false) :
    l.client.clientQuitting = false := by
  obtain ⟨-, heq | ⟨r, e, es, ok, -, -, hev, -⟩⟩ := clientLoopStep_cases h
  · rwa [← heq]
  · have hutters := clientHandleEvent_terminalStep l.client e r
    rw [hev] at hutters
    cases hutters with
    | silent hsilent => exact hsilent.quitting.symm.trans hstaying
    | remark remark hopen => exact hopen
    | read data ms hopen => exact hopen

lemma greeting_alone (hr : (networkSystem host names peer).Reach System.any net)
    (hpeer : Function.Injective peer) (hrun : net.server.Running)
    (hc : c ∈ net.server.server.connections) (hst : c.state = .waitingForClientHello)
    (hstaying : (net.clients (peer c.serial)).client.clientQuitting = false)
    (hd : d.Served host) (hgreeted : d.state = .sendingServerHello)
    (hreceived : d.received <+: (net.clients (peer c.serial)).client.conn.sent) :
    d.inBuffer = [] := by
  obtain ⟨hserver, hclients, hfifo⟩ := network_components hr
  have hinv := reach_inv hserver hrun
  have hserved := hinv.sound.served c hc
  obtain ⟨-, -, -, hqueued, -⟩ := hserved.phase.of_waiting hst
  have hsent : c.sent = [] := by
    have hall := hserved.stream.sent
    rw [hqueued] at hall
    exact (List.append_eq_nil_iff.mp hall).1
  have hsilent := hfifo.downstream_of hpeer hinv.sound.registry hc
  rw [hsent, List.prefix_nil] at hsilent
  have hrec := (client_reach_keeps (hclients (peer c.serial))).2
  obtain ⟨chats, hhonours⟩ := clientReach_honours (hclients (peer c.serial))
  obtain ⟨hello, hparsed, -⟩ := hd.phase.of_greeting hgreeted
  obtain ⟨rest, hrest, -, hbuf⟩ := parsed_prefix_of_received hrec.stream hd.stream hreceived
  rw [hparsed] at hrest
  rcases queued_of_silent hrec hhonours.spoken hsilent hstaying with hnil | hone
  · rw [hnil] at hrest
    cases hrest
  · rw [hone] at hrest
    injection hrest with _ hnone
    have hnil : rest = [] := hnone.symm
    rw [hnil] at hbuf
    exact List.prefix_nil.mp hbuf

/-- The receive buffers of a network: none holds a complete frame of a client that stays. -/
def Network.Parsed (peer : ℕ → ℕ) (net : Network) : Prop :=
  ∀ c ∈ net.server.server.connections,
    (net.clients (peer c.serial)).client.clientQuitting = false →
      parseFrame c.inBuffer = .incomplete

lemma Handled.parsed {host : Bytes} {names : ℕ → Bytes} {peer : ℕ → ℕ} {net : Network}
    {s' : Server} {e : EpollEvent} {r : Replies}
    (hr : (networkSystem host names peer).Reach System.any net)
    (hpeer : Function.Injective peer) (hrun : net.server.Running) (hparsed : net.Parsed peer)
    (hinv' : s'.Inv host)
    (hup : ∀ d ∈ s'.connections, d.received <+: (net.clients (peer d.serial)).client.conn.sent)
    (h : Handled net.server.server e r s') :
    ∀ d ∈ s'.connections, (net.clients (peer d.serial)).client.clientQuitting = false →
      parseFrame d.inBuffer = .incomplete := by
  have hreg := (reach_inv (network_components hr).1 hrun).sound.registry
  intro d hd hstaying
  -- who does not act keeps its buffer
  have hothers : ∀ {who : Option ℕ}, Effects who net.server.server s' → who ≠ some d.serial →
      parseFrame d.inBuffer = .incomplete := by
    intro who heff hwho
    rcases heff.others hreg hd hwho with ⟨fd, addr, serial, rfl⟩ | ⟨c, hc, hsame, hlisten⟩
    · rfl
    · rw [hlisten.frame.inBuffer]
      rw [hsame.serial] at hstaying
      exact hparsed c hc hstaying
  cases h with
  | nobody heff => exact hothers heff (by simp)
  | @hello c _ hc _ hwants heff hleft =>
    by_cases hserial : d.serial = c.serial
    · rcases hleft d hd hserial with hst | ⟨hst, -⟩
      · have hserved := hinv'.sound.served d hd
        exact (hserved.phase.of_waiting hst).2.2.2.2
      · have hserved := hinv'.sound.served d hd
        rw [hinv'.host] at hserved
        have hreceived := hup d hd
        rw [hserial] at hstaying hreceived
        rw [greeting_alone hr hpeer hrun hc hwants.1 hstaying hserved hst hreceived]
        rfl
    · exact hothers heff (fun h => hserial (Option.some.inj h).symm)
  | @send c hc _ _ heff hleft =>
    by_cases hserial : d.serial = c.serial
    · rw [(hleft d hd hserial).1]
      rw [hserial] at hstaying
      exact hparsed c hc hstaying
    · exact hothers heff (fun h => hserial (Option.some.inj h).symm)
  | @read c _ hc _ _ heff hleft =>
    by_cases hserial : d.serial = c.serial
    · exact (hleft d hd hserial).2
    · exact hothers heff (fun h => hserial (Option.some.inj h).symm)

lemma reach_parsed (hpeer : Function.Injective peer)
    (hr : (networkSystem host names peer).Reach System.any net) (hrun : net.server.Running) :
    net.Parsed peer := by
  suffices h : net.server.Running → net.Parsed peer from h hrun
  refine hr.invariant_of_reach (I := fun net => net.server.Running → net.Parsed peer) ?_ ?_
  · rintro net₀ ⟨⟨listenFd, epollFd, -, hl⟩, -⟩ -
    intro c hc
    rw [hl] at hc
    cases hc
  · intro t i u ht hparsed _ hstep hrunning
    have hu := ht.snoc (l := i) trivial hstep
    obtain ⟨hserver, -, hfifo⟩ := network_components hu
    obtain ⟨hi, -⟩ := hstep
    cases i with
    | server i =>
      obtain ⟨⟨hadm, hl⟩, hclients⟩ := hi
      obtain ⟨hbefore, heq | ⟨r, e, es, rfl, hphase, -, hev⟩⟩ :=
        serverLoopStep_running hl hrunning
      · intro c hc hstaying
        rw [heq] at hc
        rw [hclients] at hstaying
        exact hparsed hbefore c hc hstaying
      · have hinv := reach_inv (network_components ht).1 hbefore
        have hhandled := handleEvent_true hinv.sound.registry.distinct hadm hev
        intro d hd hstaying
        rw [hclients] at hstaying
        refine hhandled.parsed ht hpeer hbefore (hparsed hbefore) (reach_inv hserver hrunning)
          ?_ d hd hstaying
        intro d hd
        have hreceived := hfifo.upstream d (Or.inl hd)
        rwa [hclients] at hreceived
    | client n i =>
      obtain ⟨hclient, hsame, hothers⟩ := hi
      intro c hc hstaying
      rw [hsame] at hc hrunning
      refine hparsed hrunning c hc ?_
      by_cases hn : peer c.serial = n
      · rw [hn] at hstaying ⊢
        exact clientLoopStep_staying hclient hstaying
      · rwa [hothers _ hn] at hstaying

end Pairs

/-! ### Steps that serve a stream -/

/-- `recv` returns some bytes. -/
def Brings (replies : List RecvReply) : Prop :=
  ∃ data rest, replies = .bytes data :: rest ∧ data ≠ []

/-- The socket of guest `n` takes some bytes. -/
def HostWrites (n : ℕ) (l : Loop) (i : LoopInput) : Prop :=
  ∃ c ∈ l.server.connections, c.serial = n ∧ Serves c.fd l i

/-- The host reads from guest `n`; a write would have gone first. -/
def HostReads (n : ℕ) (l : Loop) : LoopInput → Prop
  | .replies r => (∃ c ∈ l.server.connections, c.serial = n ∧ ∃ e ∈ l.nextEvent,
      c.fd = e.fd ∧ ¬c.WantsSend e.events ∧ c.WantsRead e.events) ∧ Brings r.recvs
  | _ => False

/-- The client reads from the host; a write would have gone first. -/
def ClientReads (k : ClientLoop) : ClientInput → Prop
  | .replies r => (∃ e ∈ k.nextEvent, k.client.eventIsSendNetworkMessage e.fd e.events = false ∧
      k.client.eventIsReadNetworkMessage e.fd e.events = true) ∧ Brings r.recvs
  | _ => False

section Steps

variable {host name : Bytes} {n : ℕ} {l l' : Loop} {i : LoopInput} {k k' : ClientLoop}
  {j : ClientInput} {c d : Connection}

lemma Brings.length_pos {replies : List RecvReply} (h : Brings replies) :
    0 < (recvData replies).length := by
  obtain ⟨data, rest, rfl, hdata⟩ := h
  have hpos := List.length_pos_iff.mpr hdata
  rw [recvData, if_pos hpos, List.length_append]
  omega

lemma serverLoopStep_goesOn {r : Replies} (hstep : serverLoopStep l (.replies r) = some l')
    (hrun : l'.Running) : ∃ e es, l.phase = .handling (e :: es) ∧ l.nextEvent = some e ∧
      l.server.handleEvent e r = (true, l'.server) := by
  obtain ⟨e, es, ok, hphase, hev, hphase'⟩ := serverLoopStep_replies hstep
  cases ok with
  | true => exact ⟨e, es, hphase, by rw [Loop.nextEvent, hphase], hev⟩
  | false => exact absurd hphase' hrun

lemma HostReads.received (hr : (serverSystem host).Reach System.any l)
    (hopen : l.server.serverClosing = false) (h : HostReads n l i)
    (hstep : serverLoopStep l i = some l') (hrun : l'.Running)
    (hc : c ∈ l.server.connections) (hserial : c.serial = n) (hd : d ∈ l'.server.connections)
    (hsame : d.serial = n) : c.received.length < d.received.length := by
  cases i with
  | events es => exact h.elim
  | waitFailed e => exact h.elim
  | endOfBatch => exact h.elim
  | replies r =>
    obtain ⟨⟨c', hc', hserial', e', he', hfd, hsend, hwants⟩, hbrings⟩ := h
    obtain ⟨e, es, hphase, hnext, hev⟩ := serverLoopStep_goesOn hstep hrun
    rw [hnext, Option.mem_some_iff] at he'
    subst he'
    have hinv := reach_inv hr (Loop.running_of_handling hphase)
    have hreg := hinv.sound.registry
    have hcc : c' = c :=
      Keyed.eq_of_key_eq hreg.distinct.serials hc' hc (hserial'.trans hserial.symm)
    subst hcc
    rw [handleEvent_read hreg r hc hfd hopen hsend hwants] at hev
    have hd' : ((l.server.tuned r.ctl (some c'.addr)).call (.recv c'.fd)).Distinct :=
      (hreg.distinct.tuned r.ctl (some c'.addr)).congr rfl
    have hsame' : d.serial = c'.serial := hsame.trans hserial.symm
    rw [readNetworkPackage_eq] at hev
    by_cases hfail : recvEnd r.recvs = .failed
    · rw [if_pos hfail] at hev
      have hdrop : Drop c' (c'.ingested r.recvs) := by
        rw [Connection.ingested, hfail]
        exact Drop.failed (recvData r.recvs) (Or.inr hwants.1)
      exact absurd hsame' ((drop_true hd' hc hdrop hev).2 d hd)
    · rw [if_neg hfail] at hev
      obtain ⟨hmove, hput, hmem, hstate⟩ := ingest_effect hd' hc hwants.1 hfail
      obtain ⟨heff, -⟩ := readMessages_true hput hmem hstate hev
      have hsound := ((Effects.tuned (some c'.serial) l.server r.ctl (some c'.addr)).trans
        ((Effects.call (some c'.serial) _ (.recv c'.fd)).trans hmove)).sound hinv.sound
      have hgrows := (heff.growsTo hsound.registry).grows hsound.registry hmem hd hsame'
      have hle := hgrows.received.length_le
      have hread : (c'.ingested r.recvs).received = c'.received ++ recvData r.recvs := rfl
      have hpos := hbrings.length_pos
      rw [hread, List.length_append] at hle
      omega

lemma sendNetworkPackage_sent {s s' : Server} (hd : s.Distinct) (hc : c ∈ s.connections)
    {replies : List SendReply} (h : s.sendNetworkPackage c replies = (true, s'))
    (hdm : d ∈ s'.connections) (hserial : d.serial = c.serial) :
    d.sent.length = c.sent.length + sendCount c.unsent.length replies := by
  have hd' : (s.call (.send c.fd)).Distinct := hd.congr rfl
  have hle := sendCount_le c.unsent.length replies
  rw [sendNetworkPackage_eq] at h
  by_cases hall : sendCount c.unsent.length replies = c.unsent.length
  · rw [if_pos hall] at h
    rw [hall]
    by_cases hhello : c.state = .sendingServerHello
    · rw [if_pos hhello] at h
      obtain ⟨k, rfl, -, -⟩ := post_true (e := .connected c.serial c.name) rfl rfl h
      obtain ⟨d₀, hd₀, rfl⟩ := mem_enqueueTo hdm
      have hserial₀ : d₀.serial = c.serial := by
        split_ifs at hserial <;> exact hserial
      have hsent : d₀.sent.length = c.sent.length + c.unsent.length := by
        rw [eq_of_mem_put hd' hc hd₀ rfl hserial₀]
        exact c.sent_drained
      split_ifs <;> exact hsent
    · rw [if_neg hhello] at h
      obtain ⟨k, rfl, -⟩ := fdMod_true h
      rw [eq_of_mem_put hd' hc hdm rfl hserial]
      exact c.sent_drained
  · rw [if_neg hall] at h
    split_ifs at h with hfail
    · cases h
    · cases h
      rw [eq_of_mem_put hd' hc hdm rfl hserial]
      simp [Connection.advance, List.length_take, hle]

lemma clientHandleSend_sent (client : Client) (replies : List SendReply) :
    (client.handleSendNetworkMessageEvent replies).2.conn.sent.length =
      client.conn.sent.length + sendCount client.conn.unsent.length replies := by
  have hle := sendCount_le client.conn.unsent.length replies
  have hflush := connectionFlushOutBuffer_eq client.conn replies
  have hconn : (client.call (.send client.conn.fd)).conn = client.conn := rfl
  have hsent : (connectionFlushOutBuffer client.conn replies).2.sent.length =
      client.conn.sent.length + sendCount client.conn.unsent.length replies := by
    rw [hflush]
    split_ifs with hall
    · rw [hall]
      exact client.conn.sent_drained
    · simp [List.length_take, hle]
    · simp [List.length_take, hle]
  rw [Client.handleSendNetworkMessageEvent, hconn]
  rcases hr : connectionFlushOutBuffer client.conn replies with ⟨ok, conn⟩
  rw [hr] at hsent
  cases ok with
  | false => exact hsent
  | true =>
    dsimp only
    split_ifs <;> exact hsent

lemma HostWrites.sent (hr : (serverSystem host).Reach System.any l) (h : HostWrites n l i)
    (hstep : serverLoopStep l i = some l') (hrun : l'.Running)
    (hc : c ∈ l.server.connections) (hserial : c.serial = n) (hout : c.outBuffer ≠ [])
    (hd : d ∈ l'.server.connections) (hsame : d.serial = n) :
    c.sent.length < d.sent.length := by
  obtain ⟨c', hc', hserial', hserves⟩ := h
  cases i with
  | events es => exact hserves.elim
  | waitFailed e => exact hserves.elim
  | endOfBatch => exact hserves.elim
  | replies r =>
    obtain ⟨⟨e', he', hfd, hflags⟩, m, rest, hsends, hm⟩ := hserves
    obtain ⟨e, es, hphase, hnext, hev⟩ := serverLoopStep_goesOn hstep hrun
    rw [hnext, Option.mem_some_iff] at he'
    subst he'
    have hinv := reach_inv hr (Loop.running_of_handling hphase)
    have hreg := hinv.sound.registry
    have hcc : c' = c :=
      Keyed.eq_of_key_eq hreg.distinct.serials hc' hc (hserial'.trans hserial.symm)
    subst hcc
    have hserved := hinv.sound.served c' hc
    have hwants : c'.WantsSend e.events := by
      refine ⟨?_, hout, hflags⟩
      rcases hinv.settled c' hc with hst | hst | hst
      · exact absurd (hserved.phase.of_waiting hst).2.1 hout
      · exact Or.inl hst
      · exact Or.inr hst
    rw [handleEvent_send hreg r hc hfd.symm hwants] at hev
    have hsent := sendNetworkPackage_sent (hreg.distinct.tuned r.ctl (some c'.addr)) hc hev hd
      (hsame.trans hserial.symm)
    have hpos := sendCount_pos hm
      (List.length_pos_iff.mpr (hserved.stream.unsent_ne_nil hout)) rest
    rw [← hsends] at hpos
    omega

lemma ClientServes.sent (hr : (clientSystem name).Reach System.any k) (h : ClientServes k j)
    (hstep : clientLoopStep k j = some k') (hout : k.client.conn.outBuffer ≠ []) :
    k.client.conn.sent.length < k'.client.conn.sent.length := by
  cases j with
  | events es => exact h.elim
  | waitFailed e => exact h.elim
  | endOfBatch => exact h.elim
  | replies r =>
    obtain ⟨⟨e', he', hfd, hflags⟩, m, rest, hsends, hm⟩ := h
    obtain ⟨e, es, ok, hphase, hev, -⟩ := clientLoopStep_replies hstep
    have hnext : k.nextEvent = some e := by rw [ClientLoop.nextEvent, hphase]
    rw [hnext, Option.mem_some_iff] at he'
    subst he'
    have hrun := (clientLoopStep_cases hstep).1
    have ho := (client_reach_keeps hr).1 hrun
    obtain ⟨chats, hhonours⟩ := clientReach_honours hr
    have haccepts := (hhonours.working hrun).writable hout
    have hsend : k.client.eventIsSendNetworkMessage e.fd e.events = true :=
      decide_eq_true ⟨hfd, (k.client.acceptsSend_iff.mp haccepts.2).1, hout, hflags⟩
    have hskip : (k.client.clientQuitting &&
        !k.client.eventIsSendNetworkMessage e.fd e.events) = false := by
      rw [hsend]
      exact Bool.and_false _
    have hconnect := eventIsSend_connected ho hsend
    rw [clientHandleEvent_eq, hskip, if_neg Bool.false_ne_true, if_neg hconnect,
      if_pos hsend] at hev
    have hsent := clientHandleSend_sent (k.client.tuned r.ctl) r.sends
    have hconn : (k.client.tuned r.ctl).conn = k.client.conn := rfl
    rw [hev, hconn] at hsent
    have hpos := sendCount_pos hm
      (List.length_pos_iff.mpr (ho.stream.unsent_ne_nil hout)) rest
    rw [← hsends] at hpos
    dsimp only at hsent
    omega

lemma ClientReads.received (h : ClientReads k j) (hstep : clientLoopStep k j = some k') :
    k.client.conn.received.length < k'.client.conn.received.length := by
  cases j with
  | events es => exact h.elim
  | waitFailed e => exact h.elim
  | endOfBatch => exact h.elim
  | replies r =>
    obtain ⟨⟨e', he', hsend, hread⟩, hbrings⟩ := h
    obtain ⟨e, es, ok, hphase, hev, -⟩ := clientLoopStep_replies hstep
    have hnext : k.nextEvent = some e := by rw [ClientLoop.nextEvent, hphase]
    rw [hnext, Option.mem_some_iff] at he'
    subst he'
    have hreads := hread
    rw [Client.eventIsReadNetworkMessage, Bool.and_eq_true] at hreads
    obtain ⟨hopen, hconds⟩ := hreads
    have hquit : k.client.clientQuitting = false := by simpa using hopen
    have hst := (of_decide_eq_true hconds).2.1
    have hconnect : ¬k.client.eventIsCheckConnectionSuccess e.fd e.events = true := by
      intro hconnect
      have hconnecting := (of_decide_eq_true hconnect).2.1
      rw [hconnecting] at hst
      simp at hst
    rw [clientHandleEvent_eq, hquit, Bool.false_and, if_neg Bool.false_ne_true, if_neg hconnect,
      hsend, if_neg Bool.false_ne_true, if_pos hread] at hev
    have hst' : (k.client.tuned r.ctl).conn.state = .waitingForServerHello ∨
        (k.client.tuned r.ctl).conn.state = .active := hst
    have hreceived := (clientHandleRead_received hst' r.recvs).1
    rw [hev] at hreceived
    have hpos := hbrings.length_pos
    have hlen := congrArg List.length hreceived
    rw [List.length_append] at hlen
    have hsame : (k.client.tuned r.ctl).conn.received = k.client.conn.received := rfl
    rw [hsame] at hlen
    dsimp only at hlen
    omega

end Steps

/-! ### Runs that go on -/

/-- A connection of a running host whose room is open, with a client whose loop goes on. -/
structure Network.Connected (peer : ℕ → ℕ) (net : Network) (c : Connection) : Prop where
  running : net.server.Running
  room : net.server.server.serverClosing = false
  member : c ∈ net.server.server.connections
  listening : (net.clients (peer c.serial)).Running

/-- It is in the room, and its client does not quit. -/
structure Network.ConnectedMember (peer : ℕ → ℕ) (net : Network) (c : Connection) : Prop extends
    net.Connected peer c where
  active : c.state = .active
  staying : (net.clients (peer c.serial)).client.clientQuitting = false

instance (peer : ℕ → ℕ) (net : Network) (c : Connection) : Decidable (net.Connected peer c) :=
  decidable_of_iff
    (net.server.Running ∧ net.server.server.serverClosing = false ∧
      c ∈ net.server.server.connections ∧ (net.clients (peer c.serial)).phase ≠ .stopped)
    ⟨fun ⟨h₁, h₂, h₃, h₄⟩ => ⟨h₁, h₂, h₃, h₄⟩, fun ⟨h₁, h₂, h₃, h₄⟩ => ⟨h₁, h₂, h₃, h₄⟩⟩

instance (peer : ℕ → ℕ) (net : Network) (c : Connection) : Decidable (net.ConnectedMember peer c) :=
  decidable_of_iff
    (net.Connected peer c ∧ c.state = .active ∧
      (net.clients (peer c.serial)).client.clientQuitting = false)
    ⟨fun ⟨h₁, h₂, h₃⟩ => ⟨h₁, h₂, h₃⟩, fun ⟨h₁, h₂, h₃⟩ => ⟨h₁, h₂, h₃⟩⟩

/-- What `count` gives for guest `n`. -/
def Server.countOf (count : Connection → ℕ) (n : ℕ) (s : Server) : ℕ :=
  ((Keyed.lookup Connection.serial n s.connections).map count).getD 0

section Network

variable {host : Bytes} {names : ℕ → Bytes} {peer : ℕ → ℕ} {net net' : Network} {n : ℕ}
  {c d : Connection}

lemma Server.Registry.countOf_eq {s : Server} (hreg : s.Registry) (count : Connection → ℕ)
    (hc : c ∈ s.connections) (hserial : c.serial = n) : s.countOf count n = count c := by
  rw [Server.countOf, ← hserial, Keyed.lookup_of_mem hreg.distinct.serials hc]
  rfl

lemma network_path_client {P : Network → NetworkInput → Prop}
    (hp : (networkSystem host names peer).Path P net net') (n : ℕ) :
    (net.clients n).client.conn.Grows (net'.clients n).client.conn ∧
      ((net'.clients n).Running → (net.clients n).Running) := by
  refine hp.preserves (I := fun t => (net.clients n).client.conn.Grows (t.clients n).client.conn ∧
    ((t.clients n).Running → (net.clients n).Running)) ?_ ⟨Connection.Grows.refl _, id⟩
  rintro t i u ⟨hgrows, hrunning⟩ - ⟨hstep, -⟩
  cases i with
  | server i =>
    rw [hstep.2]
    exact ⟨hgrows, hrunning⟩
  | client k i =>
    obtain ⟨hclient, -, hothers⟩ := hstep
    by_cases hn : n = k
    · subst hn
      exact ⟨hgrows.trans (clientLoopStep_grows hclient),
        fun _ => hrunning (clientLoopStep_cases hclient).1⟩
    · rw [hothers n hn]
      exact ⟨hgrows, hrunning⟩

lemma Connection.Grows.frames_arrived (h : c.Grows d) (hc : c.Stream) (hd : d.Stream)
    {received : Bytes} (hreceived : received <+: d.sent)
    (hlen : (frameCodec.encodeAll c.queued).length ≤ received.length) :
    c.queued.map Message.framed <+: frameCodec.frames received := by
  obtain ⟨more, hmore⟩ := h.arrived hd hreceived hlen
  rw [← hc.frames_queued, ← hmore]
  exact frameCodec.frames_prefix _ more

end Network

section Fair

variable {host : Bytes} {names : ℕ → Bytes} {peer : ℕ → ℕ}
  (x : (networkSystem host names peer).Execution System.any) (n : ℕ)

/-- As long as the loop of a client goes on its pending output is taken at last. -/
def ClientWritten : Prop :=
  x.WeaklyFair
    (fun net => (net.clients (peer n)).Running ∧
      (net.clients (peer n)).client.conn.outBuffer ≠ [])
    (fun net i => ∃ j, i = .client (peer n) j ∧ ClientServes (net.clients (peer n)) j)

/-- As long as a connection is there its pending output is taken at last. -/
def HostWritten : Prop :=
  x.WeaklyFair
    (fun net => net.server.Running ∧
      ∃ c ∈ net.server.server.connections, c.serial = n ∧ c.outBuffer ≠ [])
    (fun net i => ∃ j, i = .server j ∧ HostWrites n net.server j)

/-- The stream from a client to the host is served: it is written, and as long as the guest
attends the bytes that are under way are read at last. -/
structure UpstreamServed : Prop where
  written : ClientWritten x n
  read : x.WeaklyFair
    (fun net => ∃ c, c.serial = n ∧ net.ConnectedMember peer c ∧
      c.received.length < (net.clients (peer n)).client.conn.sent.length)
    (fun net i => ∃ j, i = .server j ∧ HostReads n net.server j)

/-- The same for the stream from the host to a client. -/
structure DownstreamServed : Prop where
  written : HostWritten x n
  read : x.WeaklyFair
    (fun net => ∃ c, c.serial = n ∧ net.ConnectedMember peer c ∧
      (net.clients (peer n)).client.conn.received.length < c.sent.length)
    (fun net i => ∃ j, i = .client (peer n) j ∧ ClientReads (net.clients (peer n)) j)

variable {x n} {c d : Connection}
  (hr : (networkSystem host names peer).Reach System.any (x.state 0))

include hr

lemma execution_reach (m : ℕ) : (networkSystem host names peer).Reach System.any (x.state m) :=
  hr.path (x.path (Nat.zero_le m))

lemma execution_registry {m : ℕ} (hrun : (x.state m).server.Running) :
    (x.state m).server.server.Registry :=
  (reach_inv (network_components (execution_reach hr m)).1 hrun).sound.registry

lemma execution_countOf {m : ℕ} (count : Connection → ℕ) (hrun : (x.state m).server.Running)
    (hc : c ∈ (x.state m).server.server.connections) (hserial : c.serial = n) :
    (x.state m).server.server.countOf count n = count c :=
  (execution_registry hr hrun).countOf_eq count hc hserial

lemma execution_grows {i m : ℕ} (him : i ≤ m) (hc : c ∈ (x.state i).server.server.connections)
    (hrun : (x.state m).server.Running) (hd : d ∈ (x.state m).server.server.connections)
    (hserial : d.serial = c.serial) : c.Grows d :=
  path_grows (network_components (execution_reach hr i)).1 (network_path_server (x.path him)) hrun
    hc hd hserial

lemma ClientWritten.sent (hfair : ClientWritten x n) (i : ℕ) : ∃ j, i ≤ j ∧
    (((x.state j).clients (peer n)).Running →
      (frameCodec.encodeAll ((x.state i).clients (peer n)).client.conn.queued).length ≤
        ((x.state j).clients (peer n)).client.conn.sent.length) := by
  refine x.attains hfair (fun net => (net.clients (peer n)).Running)
    (fun net => (net.clients (peer n)).client.conn.sent.length) ?_ ?_ ?_
  · intro m _ _ _
    exact (network_path_client (x.path (Nat.le_succ m)) (peer n)).1.sent.length_le
  · rintro m - - - ⟨-, hout⟩ ⟨j, hj, hserves⟩
    obtain ⟨hstep, -⟩ := x.step m
    rw [hj] at hstep
    exact hserves.sent ((network_components (execution_reach hr m)).2.1 (peer n)) hstep.1 hout
  · intro m hm hrun hlt
    have hclient := (network_components (execution_reach hr m)).2.1 (peer n)
    exact ⟨hrun, (network_path_client (x.path hm) (peer n)).1.pending
      ((client_reach_keeps hclient).1 hrun).stream hlt⟩

lemma UpstreamServed.arrives (hfair : UpstreamServed x n) (i : ℕ) : ∃ j, i ≤ j ∧
    ∀ c, c.serial = n → (x.state j).ConnectedMember peer c →
      (frameCodec.encodeAll ((x.state i).clients (peer n)).client.conn.queued).length ≤
        c.received.length := by
  obtain ⟨j, hij, hsent⟩ := hfair.written.sent hr i
  suffices h : ∃ m, j ≤ m ∧ ((∃ c, c.serial = n ∧ (x.state m).ConnectedMember peer c) →
      (frameCodec.encodeAll ((x.state i).clients (peer n)).client.conn.queued).length ≤
        (x.state m).server.server.countOf (fun c => c.received.length) n) by
    obtain ⟨m, hjm, hreceived⟩ := h
    refine ⟨m, hij.trans hjm, ?_⟩
    intro c hserial hc
    rw [← execution_countOf hr (fun c => c.received.length) hc.running hc.member hserial]
    exact hreceived ⟨c, hserial, hc⟩
  refine x.attains hfair.read (fun net => ∃ c, c.serial = n ∧ net.ConnectedMember peer c)
    (fun net => net.server.server.countOf (fun c => c.received.length) n) ?_ ?_ ?_
  · rintro m - ⟨c, rfl, hc⟩ ⟨d, hserial, hd⟩
    rw [execution_countOf hr _ hc.running hc.member rfl,
      execution_countOf hr _ hd.running hd.member hserial]
    exact (execution_grows hr (Nat.le_succ m) hc.member hd.running hd.member
      hserial).received.length_le
  · rintro m - ⟨c, rfl, hc⟩ ⟨d, hserial, hd⟩ - ⟨j, hj, hreads⟩
    obtain ⟨hstep, -⟩ := x.step m
    rw [hj] at hstep
    rw [execution_countOf hr _ hc.running hc.member rfl,
      execution_countOf hr _ hd.running hd.member hserial]
    exact hreads.received (network_components (execution_reach hr m)).1 hc.room hstep.1.2
      hd.running hc.member rfl hd.member hserial
  · rintro m hm ⟨c, rfl, hc⟩ hlt
    rw [execution_countOf hr _ hc.running hc.member rfl] at hlt
    obtain ⟨hgrows, hrunning⟩ := network_path_client (x.path hm) (peer c.serial)
    have hall := hsent (hrunning hc.listening)
    have hle := hgrows.sent.length_le
    exact ⟨c, rfl, hc, by omega⟩

lemma UpstreamServed.logged (hpeer : Function.Injective peer) (hfair : UpstreamServed x n) (i : ℕ) :
    ∃ j, i ≤ j ∧ ∀ c, c.serial = n → (x.state j).ConnectedMember peer c →
      ((x.state i).clients (peer n)).client.conn.spoken <+:
        (x.state j).server.server.roomLog.filterMap (RoomEntry.said n) := by
  obtain ⟨j, hij, harrives⟩ := hfair.arrives hr i
  refine ⟨j, hij, ?_⟩
  rintro c rfl hc
  have hreach := execution_reach hr j
  obtain ⟨hserver, hclients, hfifo⟩ := network_components hreach
  obtain ⟨room, hm⟩ := reach_midway hserver hc.running
  obtain ⟨hgrows, hrunning⟩ := network_path_client (x.path hij) (peer c.serial)
  have hbefore := (network_components (execution_reach hr i)).2.1 (peer c.serial)
  have hframes := hgrows.frames_arrived
    ((client_reach_keeps hbefore).1 (hrunning hc.listening)).stream
    ((client_reach_keeps (hclients (peer c.serial))).1 hc.listening).stream
    (hfifo.upstream c (Or.inl hc.member)) (harrives c rfl hc)
  rw [← (hm.served hc.member).stream.parsed_all
    (reach_parsed hpeer hreach hc.running c hc.member hc.staying)] at hframes
  have hchats := (hframes.filter (fun m => m.type = .chat)).map Message.payload
  rw [List.filter_map, List.map_map] at hchats
  rw [← hm.said hc.member]
  exact hchats

/-! ### What is logged is shown -/

lemma execution_member {i m k : ℕ} (him : i ≤ m) (hmk : m ≤ k)
    (hc : c ∈ (x.state i).server.server.connections) (hrun : (x.state k).server.Running)
    (hd : d ∈ (x.state k).server.server.connections) (hserial : d.serial = c.serial) :
    (x.state m).server.Running ∧
      ∃ e ∈ (x.state m).server.server.connections, e.serial = c.serial := by
  have hlate := network_path_server (x.path hmk)
  have hrunm := path_running hlate hrun
  have hearly := network_path_server (x.path him)
  refine ⟨hrunm, ?_⟩
  have hlt := (execution_registry hr (path_running hearly hrunm)).serial_lt c hc
  have haccepted := (path_growsTo (network_components (execution_reach hr i)).1 hearly
    hrunm).accepted
  rcases (path_growsTo (network_components (execution_reach hr m)).1 hlate hrun).grown d hd
    with hnew | ⟨e, he, hpeer, -⟩
  · omega
  · exact ⟨e, he, hpeer.serial.symm.trans hserial⟩

lemma HostWritten.sent (hfair : HostWritten x n) {i : ℕ}
    (hc : c ∈ (x.state i).server.server.connections) (hserial : c.serial = n) :
    ∃ j, i ≤ j ∧ ∀ d ∈ (x.state j).server.server.connections, (x.state j).server.Running →
      d.serial = n → (frameCodec.encodeAll c.queued).length ≤ d.sent.length := by
  suffices h : ∃ m, i ≤ m ∧ (((x.state m).server.Running ∧
      ∃ d ∈ (x.state m).server.server.connections, d.serial = n) →
      (frameCodec.encodeAll c.queued).length ≤
        (x.state m).server.server.countOf (fun c => c.sent.length) n) by
    obtain ⟨m, him, hsent⟩ := h
    refine ⟨m, him, ?_⟩
    intro d hd hrun hserial'
    rw [← execution_countOf hr (fun c => c.sent.length) hrun hd hserial']
    exact hsent ⟨hrun, d, hd, hserial'⟩
  refine x.attains hfair
    (fun net => net.server.Running ∧ ∃ d ∈ net.server.server.connections, d.serial = n)
    (fun net => net.server.server.countOf (fun c => c.sent.length) n) ?_ ?_ ?_
  · rintro m - ⟨hrun, b, hb, rfl⟩ ⟨hrun', d, hd, hserial'⟩
    rw [execution_countOf hr _ hrun hb rfl, execution_countOf hr _ hrun' hd hserial']
    exact (execution_grows hr (Nat.le_succ m) hb hrun' hd hserial').sent.length_le
  · rintro m - - ⟨hrun', d, hd, hserial'⟩ ⟨hrun, b, hb, rfl, hout⟩ ⟨j, hj, hwrites⟩
    obtain ⟨hstep, -⟩ := x.step m
    rw [hj] at hstep
    rw [execution_countOf hr _ hrun hb rfl, execution_countOf hr _ hrun' hd hserial']
    exact hwrites.sent (network_components (execution_reach hr m)).1 hstep.1.2 hrun' hb rfl hout
      hd hserial'
  · rintro m him ⟨hrun, d, hd, rfl⟩ hlt
    rw [execution_countOf hr _ hrun hd rfl] at hlt
    have hgrows := execution_grows hr him hc hrun hd hserial.symm
    have hstream := ((reach_inv (network_components (execution_reach hr m)).1 hrun).sound.served
      d hd).stream
    exact ⟨hrun, d, hd, rfl, hgrows.pending hstream hlt⟩

lemma DownstreamServed.arrives (hfair : DownstreamServed x n) {i : ℕ}
    (hc : c ∈ (x.state i).server.server.connections) (hserial : c.serial = n) :
    ∃ j, i ≤ j ∧ ∀ d, d.serial = n → (x.state j).ConnectedMember peer d →
      (frameCodec.encodeAll c.queued).length ≤
        ((x.state j).clients (peer n)).client.conn.received.length := by
  obtain ⟨j, hij, hsent⟩ := hfair.written.sent hr hc hserial
  suffices h : ∃ m, j ≤ m ∧ ((∃ d, d.serial = n ∧ (x.state m).ConnectedMember peer d) →
      (frameCodec.encodeAll c.queued).length ≤
        ((x.state m).clients (peer n)).client.conn.received.length) by
    obtain ⟨m, hjm, hreceived⟩ := h
    exact ⟨m, hij.trans hjm, fun d hd hattends => hreceived ⟨d, hd, hattends⟩⟩
  refine x.attains hfair.read (fun net => ∃ d, d.serial = n ∧ net.ConnectedMember peer d)
    (fun net => (net.clients (peer n)).client.conn.received.length) ?_ ?_ ?_
  · intro m _ _ _
    exact (network_path_client (x.path (Nat.le_succ m)) (peer n)).1.received.length_le
  · rintro m - - - - ⟨j, hj, hreads⟩
    obtain ⟨hstep, -⟩ := x.step m
    rw [hj] at hstep
    exact hreads.received hstep.1
  · rintro m hjm ⟨d, hd, hattends⟩ hlt
    have hsame := hd.trans hserial.symm
    obtain ⟨hrun, e, he, hserial'⟩ :=
      execution_member hr hij hjm hc hattends.running hattends.member hsame
    have hall := hsent e he hrun (hserial'.trans hserial)
    have hgrows := execution_grows hr hjm he hattends.running hattends.member
      (hsame.trans hserial'.symm)
    have hle := hgrows.sent.length_le
    exact ⟨d, hd, hattends, by omega⟩

lemma DownstreamServed.shown (hpeer : Function.Injective peer) (hfair : DownstreamServed x n)
    {i : ℕ} (hc : (x.state i).ConnectedMember peer c) (hserial : c.serial = n) :
    ∃ j, i ≤ j ∧ ∀ d, d.serial = n → (x.state j).ConnectedMember peer d →
      ∃ (remarks : List Remark) (seen : List Bytes),
        Interleaves (remarks.map (Remark.line (names (peer n)))) (welcome host ++ seen)
            ((x.state j).clients (peer n)).client.stdout ∧
          remarks.filterMap Remark.text = ((x.state j).clients (peer n)).client.conn.spoken ∧
          roomLines n (x.state i).server.server.roomLog <+: seen ∧
          seen <+: roomLines n (x.state j).server.server.roomLog := by
  obtain ⟨j, hij, harrives⟩ := hfair.arrives hr hc.member hserial
  refine ⟨j, hij, ?_⟩
  rintro d rfl hd
  obtain ⟨hearly, -, -⟩ := network_components (execution_reach hr i)
  obtain ⟨hlate, hclients, hfifo⟩ := network_components (execution_reach hr j)
  obtain ⟨room, hm⟩ := reach_midway hearly hc.running
  obtain ⟨room', hm'⟩ := reach_midway hlate hd.running
  have hserved := hm.served hc.member
  have hserved' := hm'.served hd.member
  have horder := (client_reach_keeps (hclients (peer d.serial))).1 hd.listening
  obtain ⟨remarks, shown, hterm, hlisten⟩ := clientReach_terminalIs (hclients (peer d.serial))
  have hlisten := hlisten hd.listening
  have hshown : shown =
      frameCodec.frames ((x.state j).clients (peer d.serial)).client.conn.received := by
    rw [← hlisten.all, horder.stream.parsed_all hlisten.drained]
  have hdown := hfifo.downstream_of hpeer (execution_registry hr hd.running) hd.member
  -- everything that was queued at first is shown, and all that is shown was queued
  have hgrows := execution_grows hr hij hc.member hd.running hd.member hserial.symm
  have hframes := hgrows.frames_arrived hserved.stream hserved'.stream hdown (harrives d rfl hd)
  rw [← hshown] at hframes
  have hqueued : shown <+: d.queued.map Message.framed := by
    obtain ⟨more, hmore⟩ := hdown
    rw [hshown]
    refine List.IsPrefix.trans ?_ hserved'.stream.frames_sent
    rw [← hmore]
    exact frameCodec.frames_prefix _ more
  have hheard := hm.heard hc.member
  have hheard' := hm'.heard hd.member
  have hcourse : ShownFrames .active shown := by
    refine hlisten.course.resolve_left ?_
    rintro rfl
    obtain ⟨-, -, heard, -, -, -, -, -, hfirst, -⟩ := hserved.phase.of_joined (Or.inl hc.active)
    rw [hfirst, List.map_cons, List.prefix_nil] at hframes
    cases hframes
  cases hcourse with
  | greeted hello lines hhello hall =>
    obtain ⟨-, rfl, hold⟩ := hserved.broadcasts_of_shown hc.active hframes hall
    have hnew : lines <+: d.broadcasts.map Message.framed := by
      rcases shown_of_queued hserved'.phase.told hqueued (ShownFrames.greeted _ lines hhello hall)
        with hnil | ⟨heard, hpre, heq | ⟨bye, hbye, heq⟩⟩
      · cases hnil
      · injection heq with _ hrest
        rwa [hrest]
      · injection heq with _ hrest
        have htype : bye.type = .broadcast := hall bye (by
          rw [hrest]
          exact List.mem_append_right _ List.mem_cons_self)
        rw [htype] at hbye
        cases hbye
    rw [broadcasts_framed (by rw [hheard]), hheard] at hold
    rw [broadcasts_framed (by rw [hheard']), hheard'] at hnew
    obtain ⟨hseen, hprinted, -⟩ := lines_of_shown host hnew
    have hterminal := hterm.terminal
    rw [hprinted] at hterminal
    have hfirst := hold.map Message.payload
    rw [dueBroadcasts, List.map_map, hserial] at hfirst
    exact ⟨remarks, _, hterminal, hterm.said, hfirst, hseen⟩

end Fair

/-! ### Two guests -/

section Rest

variable {host : Bytes} {names : ℕ → Bytes} {peer : ℕ → ℕ}
  {x : (networkSystem host names peer).Execution System.any} {n : ℕ} {c : Connection}
  {net : Network} {m : ℕ}

lemma eq_of_rest (hr : (networkSystem host names peer).Reach System.any (x.state 0))
    (hlast : ∀ k, m ≤ k → x.state k = net) (hc : c ∈ net.server.server.connections)
    (hserial : c.serial = n) (hrun : net.server.Running) {d : Connection}
    (hd : d ∈ net.server.server.connections) (hdn : d.serial = n) : d = c := by
  have hm := hlast m le_rfl
  rw [← hm] at hrun
  have hreg := execution_registry hr hrun
  rw [hm] at hreg
  exact Keyed.eq_of_key_eq hreg.distinct.serials hd hc (hdn.trans hserial.symm)

lemma ClientWritten.of_rest (hlast : ∀ k, m ≤ k → x.state k = net)
    (h : AtRest c (net.clients (peer n))) : ClientWritten x n :=
  x.weaklyFair_of_rest hlast (fun hen => hen.2 h.written)

variable (hr : (networkSystem host names peer).Reach System.any (x.state 0))
  (hlast : ∀ k, m ≤ k → x.state k = net) (hc : c ∈ net.server.server.connections)
  (hserial : c.serial = n) (h : AtRest c (net.clients (peer n)))

include hr hlast hc hserial h

lemma HostWritten.of_rest : HostWritten x n := by
  refine x.weaklyFair_of_rest hlast ?_
  rintro ⟨hrun, d, hd, hdn, hout⟩
  rw [eq_of_rest hr hlast hc hserial hrun hd hdn] at hout
  exact hout h.flushed

lemma UpstreamServed.of_rest : UpstreamServed x n where
  written := ClientWritten.of_rest hlast h
  read := by
    refine x.weaklyFair_of_rest hlast ?_
    rintro ⟨d, hd, hattends, hlt⟩
    rw [eq_of_rest hr hlast hc hserial hattends.running hattends.member hd, h.delivered] at hlt
    exact lt_irrefl _ hlt

lemma DownstreamServed.of_rest : DownstreamServed x n where
  written := HostWritten.of_rest hr hlast hc hserial h
  read := by
    refine x.weaklyFair_of_rest hlast ?_
    rintro ⟨d, hd, hattends, hlt⟩
    rw [eq_of_rest hr hlast hc hserial hattends.running hattends.member hd, h.arrived] at hlt
    exact lt_irrefl _ hlt

omit hr hlast hc hserial h

lemma network_idles (hr : (networkSystem host names peer).Reach System.any net)
    (hwait : net.server.phase = .waiting) :
    (networkSystem host names peer).step net (.server (.waitFailed .eintr)) net := by
  have hstep : serverLoopStep net.server (.waitFailed .eintr) = some net.server := by
    rw [serverLoopStep, if_pos hwait, if_pos rfl, ← hwait]
  exact ⟨⟨⟨trivial, hstep⟩, rfl⟩, (network_components hr).2.2⟩

end Rest

/-- The first guest is called `ann`, everybody else `bob`. -/
def firstIsAnn (n : ℕ) : Bytes :=
  if n = 0 then ascii "ann" else ascii "bob"

def freshClient (n : ℕ) : ClientLoop :=
  startedClient (createdClient (firstIsAnn n) 5 6 true [])

/-- The socket of client `n` takes everything that is pending. -/
def writes (n : ℕ) : List NetworkInput :=
  ([.events [⟨5, epollOut⟩], .replies { sends := [.count 1000] }, .endOfBatch] :
    List ClientInput).map (.client n)

/-- Client `n` is told something by its host. -/
def hears (n : ℕ) (ms : List Message) : List NetworkInput :=
  ([.events [⟨5, epollIn⟩], .replies { recvs := [.bytes (frameCodec.encodeAll ms)] },
    .endOfBatch] : List ClientInput).map (.client n)

/-- Two guests come in, and the first one enters a line. -/
def twoClientsEnter : List NetworkInput :=
  writes 0 ++ (arrives 3 7 ++ delivers 7 (helloBytes (ascii "ann")) ++ drains 7 ++ drains 7).map
      .server ++
    hears 0 [serverGreeting (ascii "host"), (RoomEntry.connected 0 (ascii "ann")).message] ++
    writes 1 ++ (arrives 3 8 ++ delivers 8 (helloBytes (ascii "bob")) ++ drains 8 ++ drains 8 ++
      drains 7).map .server ++
    hears 1 [serverGreeting (ascii "host"), (RoomEntry.connected 1 (ascii "bob")).message] ++
    hears 0 [(RoomEntry.connected 1 (ascii "bob")).message] ++
    ([.events [⟨stdinFileno, epollIn⟩], .replies { line := some (ascii "hi") }, .endOfBatch] :
      List ClientInput).map (.client 0)

/-- The line is brought to the second one. -/
def lineIsPassedOn : List NetworkInput :=
  writes 0 ++ (delivers 7 (encodeFrame (Message.of .chat (ascii "hi"))) ++ drains 8).map .server ++
    hears 1 [(RoomEntry.chat 0 (ascii "ann") (ascii "hi")).message]

lemma atTheDoor_silent (n : ℕ) : (freshClient n).client.conn.received = [] := by
  rw [freshClient, firstIsAnn]
  split_ifs <;> decide +kernel

lemma two_guests_init (P : Network → NetworkInput → Prop) :
    (networkSystem (ascii "host") firstIsAnn id).Reach P
      ⟨⟨initialServer (ascii "host") 3 4, .waiting⟩,
        crowd freshClient [freshClient 0, freshClient 1]⟩ := by
  refine System.Reach.of_init ⟨⟨3, 4, by decide, rfl⟩, fun n => ⟨5, 6, true, [], ?_⟩⟩
  match n with
  | 0 => rfl
  | 1 => rfl
  | n + 2 => rfl

lemma two_guests_talk :
    ∃ x : (networkSystem (ascii "host") firstIsAnn id).Execution System.any, ∃ i m : ℕ,
    ∃ net : Network, ∃ c d e : Connection,
      (networkSystem (ascii "host") firstIsAnn id).Reach System.any (x.state 0) ∧
      (x.state 0).server.server.connections = [] ∧
      ((x.state 0).clients 0).client.conn.queued ≠ [] ∧
      ((x.state i).clients 0).client.conn.spoken = [ascii "hi"] ∧
      (x.state i).server.server.roomLog.filterMap (RoomEntry.said 0) = [] ∧
      (x.state i).ConnectedMember id e ∧ e.serial = 1 ∧ (∀ k, m ≤ k → x.state k = net) ∧
      (net.clients 0).client.conn.spoken = [ascii "hi"] ∧
      net.ConnectedMember id c ∧ c.serial = 0 ∧ AtRest c (net.clients 0) ∧
      net.ConnectedMember id d ∧ d.serial = 1 ∧ AtRest d (net.clients 1) := by
  obtain ⟨⟨l₁, ks₁⟩, hrun₁, hspoken₁, hsaid, ⟨e, -, he, he₁⟩, ⟨l₂, ks₂⟩, hrun₂, hwait, hspoken₂,
      ⟨c, -, hc, hc₂, hrest⟩, d, -, hd, hd₂, hrest'⟩ :
      ∃ p ∈ System.run crowdStep
        (⟨initialServer (ascii "host") 3 4, .waiting⟩, [freshClient 0, freshClient 1])
          twoClientsEnter,
      (crowd freshClient p.2 0).client.conn.spoken = [ascii "hi"] ∧
      p.1.server.roomLog.filterMap (RoomEntry.said 0) = [] ∧
      (∃ e ∈ p.1.server.connections, e.serial = 1 ∧
        Network.ConnectedMember id ⟨p.1, crowd freshClient p.2⟩ e) ∧
      ∃ q ∈ System.run crowdStep p lineIsPassedOn, q.1.phase = .waiting ∧
      (crowd freshClient q.2 0).client.conn.spoken = [ascii "hi"] ∧
      (∃ c ∈ q.1.server.connections, c.serial = 0 ∧
        Network.ConnectedMember id ⟨q.1, crowd freshClient q.2⟩ c ∧
        AtRest c (crowd freshClient q.2 0)) ∧
      ∃ d ∈ q.1.server.connections, d.serial = 1 ∧
        Network.ConnectedMember id ⟨q.1, crowd freshClient q.2⟩ d ∧
        AtRest d (crowd freshClient q.2 1) := by
    decide +kernel
  have hinit := two_guests_init System.any
  have hpath₁ := crowdRun_path (P := System.any) atTheDoor_silent hinit (fun _ _ _ => trivial) hrun₁
  have hpath₂ := crowdRun_path (P := System.any) atTheDoor_silent (hinit.path hpath₁)
    (fun _ _ _ => trivial) hrun₂
  have hidle := network_idles ((hinit.path hpath₁).path hpath₂) hwait
  -- the run from its end to its beginning
  obtain ⟨y, hy, k₂, hlater⟩ :=
    (System.Execution.idle (P := System.any) trivial hidle).exists_prepend hpath₂
  rw [← hy] at hpath₁
  obtain ⟨x, hx, k₁, hpassed⟩ := y.exists_prepend hpath₁
  have hi : x.state k₁ = ⟨l₁, crowd freshClient ks₁⟩ := (hpassed 0).trans hy
  refine ⟨x, k₁, k₁ + k₂, ⟨l₂, crowd freshClient ks₂⟩, c, d, e, ?_, ?_, ?_, ?_, ?_, ?_, he, ?_,
    hspoken₂, hc₂, hc, hrest, hd₂, hd, hrest'⟩
  · rw [hx]
    exact hinit
  · rw [hx]
    rfl
  · rw [hx]
    show (freshClient 0).client.conn.queued ≠ []
    decide +kernel
  · rw [hi]
    exact hspoken₁
  · rw [hi]
    exact hsaid
  · rw [hi]
    exact he₁
  · intro k hk
    obtain ⟨m, rfl⟩ := Nat.exists_eq_add_of_le hk
    rw [Nat.add_assoc, hpassed, hlater]
    rfl

section Delivered

variable {host : Bytes} {names : ℕ → Bytes} {peer : ℕ → ℕ}
  {x : (networkSystem host names peer).Execution System.any} {n : ℕ} {c : Connection}

/-- What a user has said is logged in the end, in the order in which it was said, if the guest
stays and its stream to the host is served. -/
theorem what_is_said_is_logged
    (hr : (networkSystem host names peer).Reach System.any (x.state 0))
    (hpeer : Function.Injective peer) (hfair : UpstreamServed x n) (i : ℕ) :
    ∃ j, i ≤ j ∧ ∀ c, c.serial = n → (x.state j).ConnectedMember peer c →
      ((x.state i).clients (peer n)).client.conn.spoken <+:
        (x.state j).server.server.roomLog.filterMap (RoomEntry.said n) :=
  hfair.logged hr hpeer i

theorem what_is_said_is_logged_hi : ∃ net : Network,
    (net.clients 0).client.conn.spoken = [ascii "hi"] ∧
      (net.clients 0).client.conn.spoken <+:
        net.server.server.roomLog.filterMap (RoomEntry.said 0) := by
  obtain ⟨x, i, m, net, c, d, e, hr, -, -, -, -, -, -, hlast, hspoken, hc, hserial, hrest, -⟩ :=
    two_guests_talk
  have hup : UpstreamServed x 0 := UpstreamServed.of_rest hr hlast hc.member hserial hrest
  obtain ⟨j, hj, hlogged⟩ := what_is_said_is_logged hr Function.injective_id hup m
  rw [hlast j hj, hlast m le_rfl] at hlogged
  exact ⟨net, hspoken, hlogged c hserial hc⟩

/-- What the log has for a guest is on its terminal in the end, after the welcome and with
nothing but the remarks of its client in between, if the guest stays and its stream from the
host is served. -/
theorem what_is_logged_is_shown
    (hr : (networkSystem host names peer).Reach System.any (x.state 0))
    (hpeer : Function.Injective peer) (hfair : DownstreamServed x n) {i : ℕ}
    (hc : (x.state i).ConnectedMember peer c) (hserial : c.serial = n) :
    ∃ j, i ≤ j ∧ ∀ d, d.serial = n → (x.state j).ConnectedMember peer d →
      ∃ (remarks : List Remark) (seen : List Bytes),
        Interleaves (remarks.map (Remark.line (names (peer n)))) (welcome host ++ seen)
            ((x.state j).clients (peer n)).client.stdout ∧
          remarks.filterMap Remark.text = ((x.state j).clients (peer n)).client.conn.spoken ∧
          roomLines n (x.state i).server.server.roomLog <+: seen ∧
          seen <+: roomLines n (x.state j).server.server.roomLog :=
  hfair.shown hr hpeer hc hserial

theorem what_is_logged_is_shown_hi : ∃ net : Network, ∃ d : Connection,
    net.ConnectedMember id d ∧ d.serial = 1 ∧ ∃ (remarks : List Remark) (seen : List Bytes),
      Interleaves (remarks.map (Remark.line (ascii "bob"))) (welcome (ascii "host") ++ seen)
          (net.clients 1).client.stdout ∧
        roomLines 1 net.server.server.roomLog <+: seen := by
  obtain ⟨x, i, m, net, c, d, e, hr, -, -, -, -, -, -, hlast, -, -, -, -, hd, hserial, hrest⟩ :=
    two_guests_talk
  have hdown : DownstreamServed x 1 := DownstreamServed.of_rest hr hlast hd.member hserial hrest
  have hd' : (x.state m).ConnectedMember id d := by rwa [hlast m le_rfl]
  obtain ⟨j, hj, hshown⟩ := what_is_logged_is_shown hr Function.injective_id hdown hd' hserial
  rw [hlast j hj, hlast m le_rfl] at hshown
  obtain ⟨remarks, seen, hterminal, -, hseen, -⟩ := hshown d hserial hd
  exact ⟨net, d, hd, hserial, remarks, seen, hterminal, hseen⟩

/-- What one user says while another one is in the room is on the terminal of the other one in
the end, under the name of its client, if both stay and the streams between them are served. -/
theorem what_is_said_is_heard
    (hr : (networkSystem host names peer).Reach System.any (x.state 0))
    (hpeer : Function.Injective peer) {a b : ℕ} (hab : a ≠ b)
    (hup : UpstreamServed x a) (hdown : DownstreamServed x b) {i : ℕ} {d : Connection}
    (hd : (x.state i).ConnectedMember peer d) (hb : d.serial = b) :
    ∃ j, i ≤ j ∧ ∀ c' d', c'.serial = a → d'.serial = b → (x.state j).ConnectedMember peer c' →
      (x.state j).ConnectedMember peer d' → ∃ (remarks : List Remark) (seen : List Bytes),
        Interleaves (remarks.map (Remark.line (names (peer b)))) (welcome host ++ seen)
            ((x.state j).clients (peer b)).client.stdout ∧
          ((((x.state i).clients (peer a)).client.conn.spoken.drop
            ((x.state i).server.server.roomLog.filterMap (RoomEntry.said a)).length).map
              (formatLine (names (peer a)))).Sublist seen := by
  obtain ⟨j₁, hij₁, hlogged⟩ := hup.logged hr hpeer i
  by_cases hboth : ∃ c₁ d₁, c₁.serial = a ∧ d₁.serial = b ∧ (x.state j₁).ConnectedMember peer c₁ ∧
      (x.state j₁).ConnectedMember peer d₁
  · obtain ⟨c₁, d₁, hserial, hserial', hc₁, hd₁⟩ := hboth
    obtain ⟨j, hj, hshown⟩ := hdown.shown hr hpeer hd₁ hserial'
    refine ⟨j, hij₁.trans hj, ?_⟩
    rintro c' d' - hb' - hd'
    obtain ⟨remarks, seen, hterminal, -, hseen, -⟩ := hshown d' hb' hd'
    refine ⟨remarks, seen, hterminal, ?_⟩
    obtain ⟨hearly, -, -⟩ := network_components (execution_reach hr i)
    obtain ⟨room, hm⟩ := reach_midway hearly hd.running
    have hopened := hm.opened_of_joined hd.member (Or.inl hd.active)
    rw [hb] at hopened
    have hspeaker := (log_of_client (execution_reach hr j₁) (Or.inl hc₁.member)).2
    rw [hserial] at hspeaker
    have hspoken := hlogged c₁ hserial hc₁
    obtain ⟨later, hlater⟩ := path_log_prefix hearly (network_path_server (x.path hij₁))
    rw [← hlater, List.filterMap_append] at hspoken
    have hdrop := hspoken.drop
      ((x.state i).server.server.roomLog.filterMap (RoomEntry.said a)).length
    rw [List.drop_left] at hdrop
    rw [← hlater] at hseen
    have hspeaker' : ∀ e ∈ later, e.serial = some a → e.speaker = some (names (peer a)) := by
      intro e he
      apply hspeaker
      rw [← hlater]
      exact List.mem_append_right _ he
    exact ((hdrop.sublist.map _).trans (said_sublist_roomLines hab hopened hspeaker')).trans
      hseen.sublist
  · exact ⟨j₁, hij₁, fun c' d' ha' hb' hc' hd' => absurd ⟨c', d', ha', hb', hc', hd'⟩ hboth⟩

theorem what_is_said_is_heard_hi :
    ∃ x : (networkSystem (ascii "host") firstIsAnn id).Execution System.any, ∃ i : ℕ,
      ((x.state i).clients 0).client.conn.spoken = [ascii "hi"] ∧
      (x.state i).server.server.roomLog.filterMap (RoomEntry.said 0) = [] ∧
      ∃ j, i ≤ j ∧ ∀ c' d', c'.serial = 0 → d'.serial = 1 → (x.state j).ConnectedMember id c' →
        (x.state j).ConnectedMember id d' → ∃ (remarks : List Remark) (seen : List Bytes),
          Interleaves (remarks.map (Remark.line (ascii "bob"))) (welcome (ascii "host") ++ seen)
              ((x.state j).clients 1).client.stdout ∧
            [ascii "[ann] hi"].Sublist seen := by
  obtain ⟨x, i, m, net, c, d, e, hr, -, -, hspoken, hsaid, he, hserial, hlast, -, hc, hc₀, hrest,
    hd, hd₁, hrest'⟩ := two_guests_talk
  have hup : UpstreamServed x 0 := UpstreamServed.of_rest hr hlast hc.member hc₀ hrest
  have hdown : DownstreamServed x 1 := DownstreamServed.of_rest hr hlast hd.member hd₁ hrest'
  obtain ⟨j, hij, hheard⟩ :=
    what_is_said_is_heard hr Function.injective_id Nat.zero_ne_one hup hdown he hserial
  have htold : ((x.state i).clients (id 0)).client.conn.spoken = [ascii "hi"] := hspoken
  rw [htold, hsaid] at hheard
  exact ⟨x, i, hspoken, hsaid, j, hij, hheard⟩

end Delivered

end Chatroom
