import Chatroom.Proofs.Attribution
import Chatroom.Proofs.Farewells
import Chatroom.Proofs.Liveness

/-!
# Who stays in the room

A connection is released because its stream has ended or is broken, because it said goodbye, or
because it broke the rules. A client that runs this code does none of it as long as its user
stays, so its connection is not removed.
-/

namespace Chatroom
open Fallible Relation Transition

/-! ### Why a connection is released -/

/-- It has said goodbye, or it has sent what the server rejects. -/
def Connection.SaidByeOrRejected (c : Connection) : Prop :=
  (∃ m ∈ c.parsed, m.type = .closeCon) ∨ ∃ x ∈ c.complaints, x.AgainstClient

/-- The connections that were released between two states have `Q`. -/
def Releases (Q : Connection → Prop) (s t : Server) : Prop :=
  ∀ d ∈ t.departed, d ∈ s.departed ∨ Q d.conn

section Handlers

variable {Q Q' : Connection → Prop} {s t : Server} {c c' : Connection}

lemma Releases.of_eq (h : t.departed = s.departed) : Releases Q s t := by
  intro d hd
  left
  rwa [← h]

lemma Releases.mono (h : Releases Q s t) (hQ : ∀ c, Q c → Q' c) : Releases Q' s t :=
  fun d hd => (h d hd).imp_right (hQ _)

lemma Releases.congr {s' : Server} (h : Releases Q s t) (hs : s'.departed = s.departed) :
    Releases Q s' t := by
  unfold Releases
  rw [hs]
  exact h

lemma removeConnection_releases (hc : Q c) : Releases Q s (s.removeConnection c).2 := by
  obtain ⟨k, hr, -⟩ := removeConnection_eq s c
  rw [hr]
  exact List.forall_mem_append.mpr
    ⟨fun d hd => Or.inl hd, List.forall_mem_singleton.mpr (Or.inr hc)⟩

lemma leave_releases (hc : Q c) : Releases Q s (andThen ((s.put c).announceClientDisconnected c)
    (fun s => s.removeConnection c)).2 := by
  have hann : ((s.put c).announceClientDisconnected c).2.departed = s.departed := rfl
  refine andThen_left (Releases.of_eq hann) ?_
  intro _
  exact (removeConnection_releases hc).congr hann.symm

lemma rejected_releases (x : Complaint) (hx : x.AgainstClient) :
    Releases Connection.SaidByeOrRejected s (s.removeConnection (c.reject x)).2 :=
  removeConnection_releases (Or.inr ⟨x, List.mem_append_right _ List.mem_cons_self, hx⟩)

theorem readMessages_releases (s : Server) (hst : c.state = .active ∨ c.state = .closed) :
    Releases (fun d => d.SaidByeOrRejected ∨ c.state = .closed ∧ d.serial = c.serial) s
      (s.readMessages c).2 := by
  induction hn : c.inBuffer.length using Nat.strong_induction_on generalizing s c with
  | h n ih =>
    have hrejected : ∀ {d : Connection} {x : Complaint}, x.AgainstClient →
        Releases (fun d => d.SaidByeOrRejected ∨ c.state = .closed ∧ d.serial = c.serial) s
          (s.removeConnection (d.reject x)).2 :=
      fun hx => (rejected_releases _ hx).mono (fun _ => Or.inl)
    cases hp : parseFrame c.inBuffer with
    | illegal =>
      rw [readMessages_illegal s hp]
      exact hrejected trivial
    | incomplete =>
      rw [readMessages_incomplete s hp hst]
      split_ifs with hclosed
      · exact leave_releases (Or.inr ⟨hclosed, rfl⟩)
      · exact Releases.of_eq rfl
    | frame m rest =>
      rw [readMessages_frame s hp hst]
      split_ifs with htype hpay hchat
      · exact hrejected trivial
      · exact leave_releases
          (Or.inl (Or.inl ⟨m, List.mem_append_right _ List.mem_cons_self, htype⟩))
      · exact hrejected trivial
      · have hpost : ((s.put (c.cut m rest)).post (.chat c.serial c.name m.payload) c.name m
            (some c.addr)).2.departed = s.departed := rfl
        refine andThen_left (Releases.of_eq hpost) ?_
        intro _
        have hlt : (c.cut m rest).inBuffer.length < n := by
          rw [← hn]
          exact frameCodec.rest_length_lt hp
        exact (ih _ hlt _ (c := c.cut m rest) hst rfl).congr hpost.symm

/-- The guest whose stream has ended or is broken, and nobody else. -/
def StreamOver (s : Server) (fd : Fd) (replies : List RecvReply) (c : Connection) : Prop :=
  recvEnd replies ≠ .wouldBlock ∧ ∃ b ∈ s.connections, b.fd = fd ∧ c.serial = b.serial

lemma removeConnection_streamOver (hc : c ∈ s.connections) (hpeer : SamePeer c c')
    {replies : List RecvReply} (hend : recvEnd replies ≠ .wouldBlock) :
    Releases (fun d => d.SaidByeOrRejected ∨ StreamOver s c.fd replies d) s
      ((s.call (.recv c.fd)).removeConnection c').2 := by
  have hcut : StreamOver s c.fd replies c' := ⟨hend, c, hc, rfl, hpeer.serial⟩
  exact (removeConnection_releases (Or.inr hcut)).congr rfl

theorem receiveClientHello_releases (hc : c ∈ s.connections)
    (hst : c.state = .waitingForClientHello) (replies : List RecvReply) :
    Releases (fun d => d.SaidByeOrRejected ∨ StreamOver s c.fd replies d) s
      (s.receiveClientHello c replies).2 := by
  have hrejected : ∀ {d : Connection} {x : Complaint}, x.AgainstClient →
      Releases (fun d => d.SaidByeOrRejected ∨ StreamOver s c.fd replies d) s
        ((s.call (.recv c.fd)).removeConnection (d.reject x)).2 := by
    intro d x hx
    have hrel := rejected_releases (s := s.call (.recv c.fd)) (c := d) x hx
    exact (hrel.mono (fun _ => Or.inl)).congr rfl
  rw [receiveClientHello_eq s hst]
  by_cases hfail : recvEnd replies = .failed
  · rw [if_pos hfail]
    refine removeConnection_streamOver hc ?_ (by rw [hfail]; decide)
    exact ⟨rfl, rfl, rfl⟩
  · rw [if_neg hfail]
    cases hp : parseFrame (c.inBuffer ++ recvData replies) with
    | illegal => exact hrejected trivial
    | incomplete =>
      dsimp only
      split_ifs with heof
      · refine removeConnection_streamOver hc ?_ (by rw [heof]; decide)
        exact ⟨rfl, rfl, rfl⟩
      · exact Releases.of_eq rfl
    | frame m rest =>
      dsimp only
      split_ifs
      · exact hrejected trivial
      · exact hrejected trivial
      · exact Releases.of_eq rfl
      · exact Releases.of_eq rfl

theorem readNetworkPackage_releases (hc : c ∈ s.connections) (hst : c.state = .active)
    (replies : List RecvReply) :
    Releases (fun d => d.SaidByeOrRejected ∨ StreamOver s c.fd replies d) s
      (s.readNetworkPackage c replies).2 := by
  rw [readNetworkPackage_eq]
  by_cases hfail : recvEnd replies = .failed
  · rw [if_pos hfail]
    refine removeConnection_streamOver hc ?_ (by rw [hfail]; decide)
    exact ⟨rfl, rfl, rfl⟩
  · rw [if_neg hfail]
    have hstate : (c.ingested replies).state = .active ∨ (c.ingested replies).state = .closed := by
      unfold Connection.ingested
      cases hend : recvEnd replies with
      | wouldBlock => exact Or.inl hst
      | eof => exact Or.inr rfl
      | failed => exact absurd hend hfail
    have hreads := readMessages_releases ((s.call (.recv c.fd)).put (c.ingested replies)) hstate
    refine (hreads.mono ?_).congr rfl
    rintro d (hrejected | ⟨hclosed, hserial⟩)
    · exact Or.inl hrejected
    · refine Or.inr ⟨?_, c, hc, rfl, hserial⟩
      intro hblock
      rw [Connection.ingested, hblock] at hclosed
      have hopen : c.state = .closed := hclosed
      rw [hst] at hopen
      cases hopen

lemma handleAccept_releases (s : Server) (replies : List AcceptReply)
    (hok : (s.handleAcceptClientConnectionEvent replies).1 = true) :
    (s.handleAcceptClientConnectionEvent replies).2.departed = s.departed := by
  induction replies generalizing s with
  | nil => rfl
  | cons reply replies ih =>
    cases reply with
    | error e =>
      rw [Server.handleAcceptClientConnectionEvent]
      split_ifs <;> rfl
    | socket fd addr =>
      rcases hreg : epollRegister (s.call (.accept fd)).kernel fd (epollIn ||| epollRdhup)
        with ⟨registered, k⟩
      cases registered with
      | true =>
        rw [handleAccept_accepts hreg] at hok ⊢
        exact ih _ hok
      | false =>
        rw [handleAccept_refuses hreg] at hok
        cases hok

end Handlers

theorem handleEvent_releases {s s' : Server} (hd : s.Distinct) {e : EpollEvent} {r : Replies}
    (h : s.handleEvent e r = (true, s')) :
    Releases (fun d => d.SaidByeOrRejected ∨ StreamOver s e.fd r.recvs d) s s' := by
  revert h
  refine handleEvent_cases (Q := fun result => result = (true, s') →
    Releases (fun d => d.SaidByeOrRejected ∨ StreamOver s e.fd r.recvs d) s s') hd e r ?_ ?_ ?_ ?_
      ?_ ?_
  · intro cache h
    cases h
    exact Releases.of_eq rfl
  · intro cache h
    have hsame := handleAccept_releases (s.tuned r.ctl cache) r.accepts (by rw [h])
    rw [h] at hsame
    exact Releases.of_eq hsame
  · intro c hc hfd _ hwants h
    have hrel := receiveClientHello_releases (s := s.tuned r.ctl (some c.addr)) hc hwants.1 r.recvs
    rw [h, hfd] at hrel
    exact hrel.congr rfl
  · intro c hc _ _ h
    have hstays := sendNetworkPackage_stays (hd.tuned r.ctl (some c.addr)) hc r.sends
    rw [h] at hstays
    exact Releases.of_eq hstays.departed
  · intro c hc hfd _ _ hwants h
    have hrel := readNetworkPackage_releases (s := s.tuned r.ctl (some c.addr)) hc hwants.1 r.recvs
    rw [h, hfd] at hrel
    exact hrel.congr rfl
  · intro cache h
    have hstays := handleReadStdinEvent_stays (s.tuned r.ctl cache) r.line
    rw [h] at hstays
    exact Releases.of_eq hstays.departed

/-! ### The host keeps those it accepted -/

/-- The host is told that a stream has ended or is broken only when the client at its other end
has left its loop. -/
def EndsOnlyWhenLeft (peer : ℕ → ℕ) (net : Network) : NetworkInput → Prop
  | .server (.replies r) => recvEnd r.recvs ≠ .wouldBlock → ∀ e ∈ net.server.nextEvent,
      ∀ c ∈ net.server.server.connections, c.fd = e.fd → ¬(net.clients (peer c.serial)).Running
  | _ => True

/-- Who is gone has left its loop, or is about to. -/
def Network.GoneHaveQuit (peer : ℕ → ℕ) (net : Network) : Prop :=
  ∀ d ∈ net.server.server.departed, (net.clients (peer d.conn.serial)).Running →
    (net.clients (peer d.conn.serial)).client.clientQuitting = true

section GoneHaveQuit

variable {host : Bytes} {names : ℕ → Bytes} {peer : ℕ → ℕ} {net net' : Network}

lemma Client.Spoken.quitting {name : Bytes} {chats : List Bytes} {client : Client}
    (h : client.Spoken name chats) {m : Message} (hm : m ∈ client.conn.queued)
    (htype : m.type = .closeCon) : client.clientQuitting = true := by
  rcases h.queued with ⟨hnil, -, -⟩ | hscript
  · rw [hnil] at hm
    cases hm
  · by_contra hstays
    rw [hscript, eq_false_of_ne_true hstays, clientScript] at hm
    rcases List.mem_cons.mp hm with rfl | hm
    · cases htype
    · rw [if_neg Bool.false_ne_true, List.append_nil] at hm
      obtain ⟨text, -, rfl⟩ := List.mem_map.mp hm
      cases htype

lemma Connection.SaidByeOrRejected.quitting {P : Network → NetworkInput → Prop}
    (hnames : ∀ n, names n ≠ []) (hr : (networkSystem host names peer).Reach P net) {c : Connection}
    (hc : net.server.server.Knows c) (h : c.SaidByeOrRejected) :
    (net.clients (peer c.serial)).client.clientQuitting = true := by
  obtain ⟨hserver, hclients, hfifo⟩ := network_components hr
  have hrec := reach_recorded hserver c hc
  have hclient := (client_reach_keeps (hclients (peer c.serial))).2
  have hup := hfifo.upstream c hc
  rcases h with ⟨m, hm, htype⟩ | ⟨x, hx, hagainst⟩
  · obtain ⟨chats, hhonours⟩ := clientReach_honours (hclients (peer c.serial))
    obtain ⟨rest, hqueued, -, -⟩ := parsed_prefix_of_received hclient.stream hrec.stream hup
    have hmem : m ∈ (net.clients (peer c.serial)).client.conn.queued.map Message.framed := by
      rw [hqueued]
      exact List.mem_append_left _ hm
    obtain ⟨n, hn, rfl⟩ := List.mem_map.mp hmem
    exact hhonours.spoken.quitting hn htype
  · exact absurd hagainst (no_complaint_against_client (hnames _) hrec hclient hup x hx)

lemma network_goneHaveQuit (hnames : ∀ n, names n ≠ [])
    (hr : (networkSystem host names peer).Reach (EndsOnlyWhenLeft peer) net)
    (hrun : net.server.Running) : net.GoneHaveQuit peer := by
  suffices h : net.server.Running → net.GoneHaveQuit peer from h hrun
  refine hr.invariant_of_reach (I := fun net => net.server.Running → net.GoneHaveQuit peer) ?_ ?_
  · rintro net ⟨⟨listenFd, epollFd, -, hs⟩, -⟩ - d hd
    rw [hs] at hd
    cases hd
  · intro net i net' hr hgone hP hstep hrun' d hd hlistens
    have hr' := hr.snoc hP hstep
    obtain ⟨hstep, -⟩ := hstep
    cases i with
    | client n i =>
      obtain ⟨hclient, heq, hothers⟩ := hstep
      rw [heq] at hrun' hd
      by_cases hn : peer d.conn.serial = n
      · rw [← hn] at hclient
        have hwas := hgone hrun' d hd (clientLoopStep_cases hclient).1
        by_contra hstays
        have hstays := clientLoopStep_staying hclient (eq_false_of_ne_true hstays)
        rw [hwas] at hstays
        cases hstays
      · rw [hothers _ hn] at hlistens ⊢
        exact hgone hrun' d hd hlistens
    | server i =>
      obtain ⟨⟨-, hserver⟩, heq⟩ := hstep
      obtain ⟨hrun, hsame | ⟨r, e, es, rfl, hphase, -, hev⟩⟩ :=
        serverLoopStep_running hserver hrun'
      · rw [hsame] at hd
        rw [heq] at hlistens ⊢
        exact hgone hrun d hd hlistens
      · have hinv := reach_inv (network_components hr).1 hrun
        rcases handleEvent_releases hinv.sound.registry.distinct hev d hd with
          hold | hrejected | ⟨hend, c, hc, hfd, hserial⟩
        · rw [heq] at hlistens ⊢
          exact hgone hrun d hold hlistens
        · exact hrejected.quitting hnames hr' (Or.inr ⟨d, hd, rfl⟩)
        · have hnext : e ∈ net.server.nextEvent := by
            rw [Loop.nextEvent, hphase]
            rfl
          have hleft := hP hend e hnext c hc hfd
          rw [heq, hserial] at hlistens
          exact absurd hlistens hleft

end GoneHaveQuit

/-! ### A network in which two guests stay -/

/-- Nothing fails in this step, and the user of client `n` does not leave in it. -/
def NetworkInput.NoFailureNoQuit (n : ℕ) : NetworkInput → Prop
  | .server (.replies r) => recvEnd r.recvs = .wouldBlock
  | .client m (.replies r) => m = n → r.ctl = [] ∧ r.connect = .established ∧
    (∀ reply ∈ r.sends, reply.harmless = true) ∧ r.line.any (· ≠ ascii "/quit") = true ∧
    recvEnd r.recvs = .wouldBlock
  | .client m (.waitFailed e) => m = n → e = .eintr
  | _ => True

instance (n : ℕ) : DecidablePred (NetworkInput.NoFailureNoQuit n)
  | .server (.replies _) => inferInstanceAs (Decidable (_ = _))
  | .client _ (.replies _) => inferInstanceAs (Decidable (_ → _))
  | .client _ (.waitFailed _) => inferInstanceAs (Decidable (_ → _))
  | .server (.events _) | .server (.waitFailed _) | .server .endOfBatch | .client _ (.events _)
  | .client _ .endOfBatch => inferInstanceAs (Decidable True)

/-- The second guest is told what the first one has said, while it enters an empty line. -/
def listensOn : List NetworkInput :=
  writes 0 ++ (delivers 7 (encodeFrame (Message.of .chat (ascii "hi"))) ++ drains 8).map .server ++
    ([.events [⟨5, epollIn⟩], .replies { recvs := [.bytes (frameCodec.encodeAll
        [(RoomEntry.chat 0 (ascii "ann") (ascii "hi")).message])], line := some [] }, .endOfBatch] :
      List ClientInput).map (.client 1)

lemma firstIsAnn_ne_nil (n : ℕ) : firstIsAnn n ≠ [] := by
  rw [firstIsAnn]
  split_ifs <;> decide

lemma NetworkInput.NoFailureNoQuit.endsOnlyWhenLeft {n : ℕ} {i : NetworkInput}
    (h : i.NoFailureNoQuit n) (peer : ℕ → ℕ) (net : Network) : EndsOnlyWhenLeft peer net i := by
  match i with
  | .server (.replies r) => exact fun hend => absurd h hend
  | .server (.events _) | .server (.waitFailed _) | .server .endOfBatch | .client _ _ => trivial

lemma two_guests_stay : ∃ net net' : Network,
    (networkSystem (ascii "host") firstIsAnn id).Reach (EndsOnlyWhenLeft id) net ∧
    (networkSystem (ascii "host") firstIsAnn id).Path (fun _ i => i.NoFailureNoQuit 1) net net' ∧
    (net.clients 1).Running ∧ (net.clients 1).client.clientQuitting = false ∧
    net'.server.Running ∧ net'.server.server.serverClosing = false ∧
    net'.server.server.accepted = 2 ∧ (net'.clients 1).Running ∧
    (net'.clients 1).client.clientQuitting = false ∧
    ascii "[ann] hi" ∈ (net'.clients 1).client.stdout := by
  obtain ⟨⟨l, ks⟩, hrun, hlistens, hstays, ⟨l', ks'⟩, hrun', hfacts⟩ :
      ∃ p ∈ System.run crowdStep
        (⟨initialServer (ascii "host") 3 4, .waiting⟩, [freshClient 0, freshClient 1])
          twoClientsEnter,
      (crowd freshClient p.2 1).phase ≠ .stopped ∧
      (crowd freshClient p.2 1).client.clientQuitting = false ∧
      ∃ q ∈ System.run crowdStep p listensOn, q.1.Running ∧
      q.1.server.serverClosing = false ∧ q.1.server.accepted = 2 ∧
      (crowd freshClient q.2 1).phase ≠ .stopped ∧
      (crowd freshClient q.2 1).client.clientQuitting = false ∧
      ascii "[ann] hi" ∈ (crowd freshClient q.2 1).client.stdout := by
    decide +kernel
  have hreach : ∀ P, (∀ i ∈ twoClientsEnter, ∀ net, P net i) →
      (networkSystem (ascii "host") firstIsAnn id).Reach P ⟨l, crowd freshClient ks⟩ :=
    fun P hP => (two_guests_init P).path
      (crowdRun_path atTheDoor_silent (two_guests_init System.any) hP hrun)
  have hquiet : ∀ i ∈ twoClientsEnter, i.NoFailureNoQuit 2 := by decide
  have hnofail : ∀ i ∈ listensOn, i.NoFailureNoQuit 1 := by decide
  exact ⟨⟨l, crowd freshClient ks⟩, ⟨l', crowd freshClient ks'⟩,
    hreach _ (fun i hi net => (hquiet i hi).endsOnlyWhenLeft id net),
    crowdRun_path atTheDoor_silent (hreach System.any (fun _ _ _ => trivial))
      (fun i hi _ => hnofail i hi) hrun', hlistens, hstays, hfacts⟩

/-- As long as the host runs, every guest that was ever accepted is still
there, unless its client quits or has left its loop; whatever else fails. -/
theorem accepted_connections_are_kept {host : Bytes} {names : ℕ → Bytes} {peer : ℕ → ℕ}
    {net : Network} (hnames : ∀ n, names n ≠ [])
    (hr : (networkSystem host names peer).Reach (EndsOnlyWhenLeft peer) net)
    (hrun : net.server.Running) {n : ℕ} (hn : n < net.server.server.accepted)
    (hlistens : (net.clients (peer n)).Running)
    (hstays : (net.clients (peer n)).client.clientQuitting = false) :
    ∃ c ∈ net.server.server.connections, c.serial = n := by
  have hserver := (network_components hr).1
  have hroll : n ∈ net.server.server.roll :=
    (reach_complete hserver).mem_iff.mpr (List.mem_range.mpr hn)
  rcases List.mem_append.mp hroll with hlive | hgone
  · obtain ⟨c, hc, rfl⟩ := List.mem_map.mp hlive
    exact ⟨c, hc, rfl⟩
  · obtain ⟨d, hd, rfl⟩ := List.mem_map.mp hgone
    rw [network_goneHaveQuit hnames hr hrun d hd hlistens] at hstays
    cases hstays

theorem accepted_connections_are_kept_bob : ∃ net : Network, net.server.server.accepted = 2 ∧
    (net.clients 1).client.clientQuitting = false ∧
    ∃ c ∈ net.server.server.connections, c.serial = 1 := by
  obtain ⟨net, net', hr, hp, -, -, hrun, -, haccepted, hlistens, hstays, -⟩ := two_guests_stay
  have hr' := hr.path (hp.mono (fun t i hi => hi.endsOnlyWhenLeft id t))
  have hn : 1 < net'.server.server.accepted := by
    rw [haccepted]
    decide
  exact ⟨net', haccepted, hstays,
    accepted_connections_are_kept firstIsAnn_ne_nil hr' hrun hn hlistens hstays⟩

end Chatroom
