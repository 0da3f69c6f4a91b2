import Chatroom.Proofs.ClientHandlers
import Chatroom.Proofs.Gate

/-!
# Genuine peers

In a network of a server and its clients each side only receives what the other one has
queued. What a client queues begins with CLIENT_HELLO and goes on as the server expects, and
what the server queues begins with SERVER_HELLO and goes on as the client expects; so
neither side has a reason to reject a frame.
-/

namespace Chatroom
open Relation Transition

/-! ### The records of the server in any state -/

/-- A connection of the server in any reachable state: it is served, or some handler has
given up on it. -/
def Connection.Kept (host : Bytes) (c : Connection) : Prop :=
  c.Served host ∨ c.Recorded host ∧ c.state ≠ .active

section Kept

variable {host : Bytes} {c c' : Connection}

lemma Connection.Kept.recorded (h : c.Kept host) : c.Recorded host := by
  rcases h with h | h
  · exact h.recorded
  · exact h.1

lemma Told.kept {p : Connection → Prop} {m : Message} (h : c.Kept host)
    (hp : ∀ c, p c → c.state = .active) (hm : FromRoom m) (ht : Told p m c c') :
    c'.Kept host := by
  have hserved : ∀ {c : Connection}, c.Kept host → c.state = .active → c.Served host := by
    intro c h hst
    rcases h with h | h
    · exact h
    · exact absurd hst h.2
  cases ht with
  | missed => exact h
  | queued hpc hlegal => exact Or.inl ((hserved h (hp c hpc)).enqueue (hp c hpc) hm hlegal)
  | rejected hpc hlegal =>
    have hs := hserved h (hp c hpc)
    exact Or.inr ⟨hs.recorded.rejected hs.complaints trivial, by simp [Connection.reject]⟩

lemma GivesUp.kept (h : c.Served host) (hf : GivesUp host c c') : c'.Kept host := by
  cases hf with
  | greet data m rest hc hp htype hname =>
    have hcut := h.absorbed_cut data hp
    have hnamed : Connection.Recorded host { (c.absorb data).cut m rest with name := m.payload } :=
      hcut.of_fields rfl rfl rfl rfl rfl rfl rfl hcut.complaints
    exact Or.inr ⟨hnamed.rejected h.complaints trivial, by simp [Connection.reject]⟩
  | flush n hc hn =>
    have hrec : (c.advance n).Recorded host :=
      { stream := h.stream.advance hn
        complaints := by
          show ∀ x ∈ c.complaints, _
          simp [h.complaints]
        told := h.phase.told }
    exact Or.inr ⟨hrec.of_fields rfl rfl rfl rfl rfl rfl rfl hrec.complaints, by simp⟩

end Kept

section Server

variable {host : Bytes} {s s' : Server} {who : Option ℕ}

lemma RoomEntry.message_fromRoom (e : RoomEntry) : FromRoom e.message :=
  Or.inl rfl

theorem Abort.recorded (hname : s.name = host) (hs : s.Sound) (h : Abort who s s') :
    ∀ c, s'.Knows c → c.Recorded host := by
  have hserved : ∀ c ∈ s.connections, c.Served host := by
    rw [← hname]
    exact hs.served
  have hgone : ∀ d ∈ s.departed, d.conn.Recorded host := by
    rw [← hname]
    exact hs.recorded
  have hlive : ∀ {cs : List Connection}, (∀ c ∈ cs, c.Recorded host) →
      ∀ c, (c ∈ cs ∨ ∃ d ∈ s.departed, d.conn = c) → c.Recorded host := by
    rintro cs hcs c (hc | ⟨d, hd, rfl⟩)
    · exact hcs c hc
    · exact hgone d hd
  have hput : ∀ {c' : Connection}, c'.Kept host → ∀ d ∈ (s.put c').connections, d.Kept host := by
    intro c' hc' d hd
    rcases Keyed.mem_replace hd with rfl | ⟨hmem, -⟩
    · exact hc'
    · exact Or.inl (hserved d hmem)
  have htold : ∀ {cs cs' : List Connection} {sender : Option ℕ} {m : Message}, FromRoom m →
      (∀ c ∈ cs, c.Kept host) → List.Forall₂ (Told (Hears sender) m) cs cs' →
      ∀ c ∈ cs', c.Kept host := by
    intro cs cs' sender m hm hcs hforall c hc
    obtain ⟨b, hb, ht⟩ := told_of_mem hforall hc
    exact ht.kept (hcs b hb) (fun _ hh => hh.2) hm
  cases h with
  | stop k cache => exact hlive (fun c hc => (hserved c hc).recorded)
  | refuse fd addr k =>
    rintro c (hc | ⟨d, hd, rfl⟩)
    · exact (hserved c hc).recorded
    · rcases List.mem_append.mp hd with hd | hd
      · exact hgone d hd
      · rw [List.mem_singleton.mp hd]
        exact (newConnection_served fd addr s.accepted).recorded
  | move k hc hmove =>
    rw [hname] at hmove
    exact hlive (fun d hd => (hput (Or.inl (hmove.served (hserved _ hc))) d hd).recorded)
  | giveUp k hc hgives =>
    rw [hname] at hgives
    exact hlive (fun d hd => (hput (hgives.kept (hserved _ hc)) d hd).recorded)
  | talk cs k hc htalk hcs =>
    have hactor := hput (Or.inl (htalk.served (hserved _ hc)))
    exact hlive (fun d hd => (htold (RoomEntry.message_fromRoom _) hactor hcs d hd).recorded)
  | @leave _ c c' cs k hc hleave hcs =>
    refine hlive ?_
    intro d hd
    obtain ⟨d₀, hd₀, ht⟩ := told_of_mem hcs hd
    rcases mem_put_cases hs.registry.distinct hc hd₀ hleave.samePeer.addr with rfl | ⟨hmem, -, -⟩
    · -- the connection that leaves does not hear of it
      have hreleased : d₀.Recorded host := Released.recorded (hserved c hc) (Or.inl hleave)
      have hdeaf : ¬Hears (some c.addr) d₀ := fun hh => hh.1 (by rw [hleave.samePeer.addr])
      cases ht with
      | missed => exact hreleased
      | queued hp hlegal => exact absurd hp hdeaf
      | rejected hp hlegal => exact absurd hp hdeaf
    · exact (ht.kept (Or.inl (hserved d₀ hmem)) (fun _ hh => hh.2)
        (RoomEntry.message_fromRoom _)).recorded
  | hostTalk text cs k hcs =>
    exact hlive (fun d hd => (htold (RoomEntry.message_fromRoom _)
      (fun c hc => Or.inl (hserved c hc)) hcs d hd).recorded)
  | close cs cs' k hcs hcs' =>
    exact hlive (fun d hd => (htold (Or.inr rfl) (htold (RoomEntry.message_fromRoom _)
      (fun c hc => Or.inl (hserved c hc)) hcs) hcs' d hd).recorded)

theorem reach_recorded {P : Loop → LoopInput → Prop} {l : Loop}
    (hr : (serverSystem host).Reach P l) : ∀ c, l.server.Knows c → c.Recorded host := by
  rcases reach_cases hr with ⟨l₀, hr₀, hrun₀, heq⟩ | ⟨l₀, who, hr₀, hrun₀, t, heff, habort⟩
  · have hinv := reach_inv hr₀ hrun₀
    rw [heq, ← hinv.host]
    rintro c (hc | ⟨d, hd, rfl⟩)
    · exact (hinv.sound.served c hc).recorded
    · exact hinv.sound.recorded d hd
  · have hinv := reach_inv hr₀ hrun₀
    exact habort.recorded (heff.name_eq.trans hinv.host) (heff.sound hinv.sound)

end Server

/-! ### Two records at the ends of a stream -/

section Ends

variable {first : Message} {next : Message → Prop} {sender receiver : Connection}

lemma parsed_of_begins (htold : Begins first next sender.queued) {rest : List Message}
    (h : sender.queued.map Message.framed = receiver.parsed ++ rest) :
    (∀ m, receiver.parsed = [m] → m = first.framed) ∧
      ∀ hello said m, receiver.parsed = hello :: said ++ [m] → ∃ n, next n ∧ m = n.framed := by
  rcases htold with hnil | ⟨later, hqueued, hnext⟩
  · have hparsed : receiver.parsed = [] := by
      rw [hnil, List.map_nil] at h
      exact (List.append_eq_nil_iff.mp h.symm).1
    rw [hparsed]
    exact ⟨fun m hm => by simp at hm, fun hello said m hm => by simp at hm⟩
  · rw [hqueued, List.map_cons] at h
    refine ⟨?_, ?_⟩
    · intro m hm
      rw [hm] at h
      injection h with hfirst _
      exact hfirst.symm
    · intro hello said m hm
      rw [hm] at h
      injection h with _ hlater
      have hmem : m ∈ later.map Message.framed := by
        rw [hlater]
        simp
      obtain ⟨n, hn, rfl⟩ := List.mem_map.mp hmem
      exact ⟨n, hnext n hn, rfl⟩

lemma not_illegal_of_received (hs : sender.Stream) (hr : receiver.Stream)
    (h : receiver.received <+: sender.sent) : parseFrame receiver.inBuffer ≠ .illegal := by
  obtain ⟨rest, -, hlegal, hbuf⟩ := parsed_prefix_of_received hs hr h
  intro hill
  rcases frameCodec.parse_of_prefix hlegal hbuf with hi | ⟨m, r, ms, -, hf, -⟩
  · have hp : parseFrame receiver.inBuffer = .incomplete := hi
    rw [hill] at hp
    cases hp
  · have hp : parseFrame receiver.inBuffer = .frame m r := hf
    rw [hill] at hp
    cases hp

end Ends

/-- The checks with which the server rejects a frame of a client. -/
def Complaint.AgainstClient : Complaint → Prop
  | .oversizedPayload _ | .expectedClientHello _ | .emptyName | .expectedEmptyCloseCon
  | .expectedChat _ => True
  | _ => False

/-- The checks with which a client rejects a frame of the server. -/
def Complaint.AgainstServer : Complaint → Prop
  | .oversizedPayload _ | .expectedServerHello _ | .expectedBroadcast _
  | .expectedEmptyCloseCon => True
  | _ => False

lemma no_complaint_against_client {host name : Bytes} (hname : name ≠ []) {c : Connection}
    {client : Client} (hc : c.Recorded host) (hclient : client.Recorded name)
    (h : c.received <+: client.conn.sent) : ∀ x ∈ c.complaints, ¬x.AgainstClient := by
  intro x hx hagainst
  have hjust := hc.complaints x hx
  obtain ⟨rest, hqueued, -, -⟩ := parsed_prefix_of_received hclient.stream hc.stream h
  obtain ⟨hfirst, hlater⟩ := parsed_of_begins hclient.told hqueued
  cases x with
  | oversizedPayload n => exact not_illegal_of_received hclient.stream hc.stream h hjust
  | expectedClientHello t =>
    obtain ⟨m, hparsed, htype⟩ := hjust
    rw [hfirst m hparsed] at htype
    exact htype rfl
  | emptyName =>
    obtain ⟨m, hparsed, hempty⟩ := hjust
    rw [hfirst m hparsed] at hempty
    exact hname hempty
  | expectedEmptyCloseCon =>
    obtain ⟨hello, said, m, hparsed, htype, hpayload⟩ := hjust
    obtain ⟨n, hn, rfl⟩ := hlater hello said m hparsed
    rcases hn with hchat | hbye
    · have htype : n.type = .closeCon := htype
      rw [hchat] at htype
      exact absurd htype (by decide)
    · rw [hbye] at hpayload
      exact hpayload rfl
  | expectedChat t =>
    obtain ⟨hello, said, m, hparsed, hclose, hchat⟩ := hjust
    obtain ⟨n, hn, rfl⟩ := hlater hello said m hparsed
    rcases hn with htype | hbye
    · exact hchat htype
    · rw [hbye] at hclose
      exact hclose rfl
  | payloadTooLarge n => exact hagainst
  | expectedServerHello t => exact hagainst
  | expectedBroadcast t => exact hagainst
  | unexpectedMessage => exact hagainst

lemma no_complaint_against_server {host name : Bytes} {c : Connection} {client : Client}
    (hc : c.Recorded host) (hclient : client.Recorded name)
    (h : client.conn.received <+: c.sent) : ∀ x ∈ client.conn.complaints, ¬x.AgainstServer := by
  intro x hx hagainst
  have hjust := hclient.complaints x hx
  obtain ⟨rest, hqueued, -, -⟩ := parsed_prefix_of_received hc.stream hclient.stream h
  obtain ⟨hfirst, hlater⟩ := parsed_of_begins hc.told hqueued
  cases x with
  | oversizedPayload n => exact not_illegal_of_received hc.stream hclient.stream h hjust
  | expectedServerHello t =>
    obtain ⟨m, hparsed, htype⟩ := hjust
    rw [hfirst m hparsed] at htype
    exact htype rfl
  | expectedEmptyCloseCon =>
    obtain ⟨hello, heard, m, hparsed, htype, hpayload⟩ := hjust
    obtain ⟨n, hn, rfl⟩ := hlater hello heard m hparsed
    rcases hn with hline | hbye
    · have htype : n.type = .closeCon := htype
      rw [hline] at htype
      exact absurd htype (by decide)
    · rw [hbye] at hpayload
      exact hpayload rfl
  | expectedBroadcast t =>
    obtain ⟨hello, heard, m, hparsed, hclose, hbroadcast⟩ := hjust
    obtain ⟨n, hn, rfl⟩ := hlater hello heard m hparsed
    rcases hn with htype | hbye
    · exact hbroadcast htype
    · rw [hbye] at hclose
      exact hclose rfl
  | payloadTooLarge n => exact hagainst
  | expectedClientHello t => exact hagainst
  | emptyName => exact hagainst
  | expectedChat t => exact hagainst
  | unexpectedMessage => exact hagainst

/-! ### The network -/

section Net

variable {host : Bytes} {names : ℕ → Bytes} {peer : ℕ → ℕ} {net : Network}

theorem network_components {P : Network → NetworkInput → Prop}
    (hr : (networkSystem host names peer).Reach P net) :
    (serverSystem host).Reach System.any net.server ∧
      (∀ n, (clientSystem (names n)).Reach System.any (net.clients n)) ∧ net.Fifo peer := by
  refine System.Reach.invariant (I := fun net => (serverSystem host).Reach System.any net.server ∧
    (∀ n, (clientSystem (names n)).Reach System.any (net.clients n)) ∧ net.Fifo peer) ?_ ?_ hr
  · rintro net ⟨hserver, hclients⟩
    refine ⟨System.Reach.of_init hserver, fun n => System.Reach.of_init (hclients n), ?_, ?_⟩
    · obtain ⟨listenFd, epollFd, -, hs⟩ := hserver
      rw [hs]
      rintro c (hc | ⟨d, hd, rfl⟩)
      · simp [initialServer] at hc
      · simp [initialServer] at hd
    · intro n
      left
      obtain ⟨fd, epollFd, immediately, ctl, hc⟩ := hclients n
      rw [hc]
      exact startedClient_received (names n) fd epollFd immediately ctl
  · rintro net i net' ⟨hserver, hclients, -⟩ - ⟨hstep, hfifo⟩
    cases i with
    | server i =>
      obtain ⟨hs, heq⟩ := hstep
      refine ⟨hserver.snoc trivial hs, ?_, hfifo⟩
      rw [heq]
      exact hclients
    | client n i =>
      obtain ⟨hc, heq, hothers⟩ := hstep
      refine ⟨?_, ?_, hfifo⟩
      · rw [heq]
        exact hserver
      · intro k
        by_cases hk : k = n
        · rw [hk]
          exact (hclients n).snoc trivial hc
        · rw [hothers k hk]
          exact hclients k

/-- When the server and all clients run this code, none of the checks on received frames
ever fires, on either side. -/
theorem genuine_peers_are_not_rejected (hnames : ∀ n, names n ≠ [])
    (hr : (networkSystem host names peer).Reach System.any net) :
    (∀ c, net.server.server.Knows c → ∀ x ∈ c.complaints, ¬x.AgainstClient) ∧
      ∀ n, ∀ x ∈ (net.clients n).client.conn.complaints, ¬x.AgainstServer := by
  obtain ⟨hserver, hclients, hfifo⟩ := network_components hr
  have hrec := reach_recorded hserver
  have hclient := fun n => (client_reach_keeps (hclients n)).2
  refine ⟨?_, ?_⟩
  · intro c hc
    exact no_complaint_against_client (hnames _) (hrec c hc) (hclient _) (hfifo.upstream c hc)
  · intro n
    rcases hfifo.downstream n with hnil | ⟨c, hc, -, hprefix⟩
    · have hstream :
          Connection.Record (serverGreeting host) FromRoom { fd := 0, state := .closed } :=
        ⟨Connection.Stream.fresh rfl rfl rfl rfl rfl rfl rfl, by simp, Or.inl rfl⟩
      exact no_complaint_against_server hstream (hclient n) (by rw [hnil])
    · exact no_complaint_against_server (hrec c hc) (hclient n) hprefix

end Net

/-! ### A small network -/

section Small

variable {host name : Bytes} {k₀ k k' : ClientLoop} {l l' : Loop}

/-- The first client is in state `k`, all others in state `k₀`. -/
def firstClient (k₀ k : ClientLoop) (n : ℕ) : ClientLoop :=
  if n = 0 then k else k₀

lemma fifo_of_silent (hdep : l.server.departed = [])
    (hup : ∀ c ∈ l.server.connections, c.serial = 0 ∧ c.received <+: k.client.conn.sent)
    (hk₀ : k₀.client.conn.received = []) (hk : k.client.conn.received = []) :
    Network.Fifo id ⟨l, firstClient k₀ k⟩ where
  upstream := by
    rintro c (hc | ⟨d, hd, -⟩)
    · obtain ⟨hserial, hprefix⟩ := hup c hc
      rw [hserial]
      exact hprefix
    · have hd : d ∈ l.server.departed := hd
      rw [hdep] at hd
      cases hd
  downstream := by
    intro n
    left
    show (firstClient k₀ k n).client.conn.received = []
    rw [firstClient]
    split_ifs
    · exact hk
    · exact hk₀

lemma network_server_step {i : LoopInput}
    (hr : (networkSystem host (fun _ => name) id).Reach System.any ⟨l, firstClient k₀ k⟩)
    (hstep : serverLoopStep l i = some l') (hadm : i.Admissible l)
    (hfifo : Network.Fifo id ⟨l', firstClient k₀ k⟩) :
    (networkSystem host (fun _ => name) id).Reach System.any ⟨l', firstClient k₀ k⟩ :=
  hr.snoc (l := .server i) trivial ⟨⟨⟨hadm, hstep⟩, rfl⟩, hfifo⟩

lemma network_client_step {i : ClientInput}
    (hr : (networkSystem host (fun _ => name) id).Reach System.any ⟨l, firstClient k₀ k⟩)
    (hstep : clientLoopStep k i = some k') (hfifo : Network.Fifo id ⟨l, firstClient k₀ k'⟩) :
    (networkSystem host (fun _ => name) id).Reach System.any ⟨l, firstClient k₀ k'⟩ := by
  refine hr.snoc (l := .client 0 i) trivial ⟨⟨hstep, rfl, ?_⟩, hfifo⟩
  intro n hn
  show firstClient k₀ k' n = firstClient k₀ k n
  rw [firstClient, firstClient, if_neg hn, if_neg hn]

end Small

/-- A network in which the first client has introduced itself to the server. -/
theorem genuine_peers_are_not_rejected_greeted : ∃ net : Network,
    ∃ c ∈ net.server.server.connections, c.state = .sendingServerHello ∧
      (∀ x ∈ c.complaints, ¬x.AgainstClient) ∧
      ∀ x ∈ (net.clients 0).client.conn.complaints, ¬x.AgainstServer := by
  -- the client flushes its CLIENT_HELLO
  obtain ⟨k₀, k₁, k₂, hk₀, hk₁, hk₂, hr₀, hr₁, hr₂, hsent⟩ : ∃ k₀ k₁ k₂,
      k₀ = startedClient (createdClient (ascii "ann") 5 4 true []) ∧
      clientLoopStep k₀ (.events [⟨5, epollOut⟩]) = some k₁ ∧
      clientLoopStep k₁ (.replies { sends := [.count 1000] }) = some k₂ ∧
      k₀.client.conn.received = [] ∧ k₁.client.conn.received = [] ∧
      k₂.client.conn.received = [] ∧ k₂.client.conn.sent = helloBytes (ascii "ann") :=
    ⟨_, _, _, rfl, rfl, rfl, rfl, rfl, rfl, by decide⟩
  -- the server accepts the connection and reads the CLIENT_HELLO
  obtain ⟨l₀, l₁, l₂, l₃, hl₀, hl₁, hl₂, hl₃, hadm₂, hadm₃, hfacts⟩ : ∃ l₀ l₁ l₂ l₃,
      l₀ = ⟨initialServer (ascii "host") 3 4, .waiting⟩ ∧
      serverLoopStep l₀ (.events [⟨3, epollIn⟩, ⟨7, epollIn⟩]) = some l₁ ∧
      serverLoopStep l₁ (.replies { accepts := [.socket 7 1] }) = some l₂ ∧
      serverLoopStep l₂ (.replies { recvs := [.bytes (helloBytes (ascii "ann"))] }) = some l₃ ∧
      LoopInput.Admissible l₁ (.replies { accepts := [.socket 7 1] }) ∧
      LoopInput.Admissible l₂ (.replies { recvs := [.bytes (helloBytes (ascii "ann"))] }) ∧
      (l₁.server.connections = [] ∧ l₁.server.departed = []) ∧
      (l₂.server.departed = [] ∧ ∀ c ∈ l₂.server.connections, c.serial = 0 ∧ c.received = []) ∧
      l₃.server.departed = [] ∧ (∀ c ∈ l₃.server.connections, c.serial = 0 ∧
        c.received = helloBytes (ascii "ann")) ∧
      ∃ c ∈ l₃.server.connections, c.state = .sendingServerHello :=
    ⟨_, _, _, _, rfl, rfl, rfl, rfl, by decide, by decide, by decide, by decide, by decide,
      by decide, _, List.mem_cons_self, by decide⟩
  obtain ⟨⟨hcs₁, hdep₁⟩, ⟨hdep₂, hcs₂⟩, hdep₃, hcs₃, c, hc, hst⟩ := hfacts
  have hinit : (networkSystem (ascii "host") (fun _ => ascii "ann") id).Reach System.any
      ⟨l₀, firstClient k₀ k₀⟩ := by
    refine System.Reach.of_init ⟨⟨3, 4, by decide, hl₀⟩, fun n => ⟨5, 4, true, [], ?_⟩⟩
    rw [← hk₀]
    exact ite_self k₀
  have hnone : ∀ c ∈ l₀.server.connections, c.serial = 0 ∧ c.received <+: k₁.client.conn.sent := by
    simp [hl₀, initialServer]
  have hnone' : ∀ c ∈ l₀.server.connections, c.serial = 0 ∧ c.received <+: k₂.client.conn.sent := by
    simp [hl₀, initialServer]
  have hdep₀ : l₀.server.departed = [] := by rw [hl₀]; rfl
  have hreach := network_client_step hinit hk₁ (fifo_of_silent hdep₀ hnone hr₀ hr₁)
  have hreach := network_client_step hreach hk₂ (fifo_of_silent hdep₀ hnone' hr₀ hr₂)
  have hreach := network_server_step hreach hl₁ trivial
    (fifo_of_silent hdep₁ (by simp [hcs₁]) hr₀ hr₂)
  have hreach := network_server_step hreach hl₂ hadm₂
    (fifo_of_silent hdep₂ (fun c hc => ⟨(hcs₂ c hc).1, by simp [(hcs₂ c hc).2]⟩) hr₀ hr₂)
  have hreach := network_server_step hreach hl₃ hadm₃
    (fifo_of_silent hdep₃ (fun c hc => ⟨(hcs₃ c hc).1, by simp [(hcs₃ c hc).2, hsent]⟩) hr₀ hr₂)
  obtain ⟨hserver, hclient⟩ := genuine_peers_are_not_rejected (fun _ => by decide) hreach
  exact ⟨_, c, hc, hst, hserver c (Or.inl hc), hclient 0⟩

end Chatroom
