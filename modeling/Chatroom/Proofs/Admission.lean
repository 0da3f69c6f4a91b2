import Chatroom.Proofs.Liveness

/-!
# A client that introduces itself is admitted

A client that has introduced itself is in the room in the end, under its name, as long as its
introduction is brought to the host and the greeting of the host is written.
-/

namespace Chatroom
open Interleaving Relation Transition

/-- The host reads from guest `n`, which has not introduced itself yet. -/
def HostListens (n : ℕ) (l : Loop) : LoopInput → Prop
  | .replies r => (∃ c ∈ l.server.connections, c.serial = n ∧ ∃ e ∈ l.nextEvent,
      c.fd = e.fd ∧ c.WantsHello e.events) ∧ Brings r.recvs
  | _ => False

section Steps

variable {host : Bytes} {s s' : Server} {n : ℕ} {l l' : Loop} {i : LoopInput} {c d : Connection}

lemma receiveClientHello_received (hd : s.Distinct) (hc : c ∈ s.connections)
    (hst : c.state = .waitingForClientHello) {replies : List RecvReply}
    (h : s.receiveClientHello c replies = (true, s')) (hdm : d ∈ s'.connections)
    (hserial : d.serial = c.serial) : d.received = c.received ++ recvData replies := by
  have hd' : (s.call (.recv c.fd)).Distinct := hd.congr rfl
  have hremove : ∀ {c' : Connection}, (s.call (.recv c.fd)).removeConnection c' = (true, s') →
      SamePeer c c' → d.received = c.received ++ recvData replies := by
    intro c' hr hpeer
    obtain ⟨k, rfl, -⟩ := removeConnection_true hr
    exact absurd hserial (mem_released hd' hc hpeer hdm).2.1
  rw [receiveClientHello_eq s hst] at h
  by_cases hfail : recvEnd replies = .failed
  · rw [if_pos hfail] at h
    exact hremove h ⟨rfl, rfl, rfl⟩
  · rw [if_neg hfail] at h
    obtain ⟨outcome, hp⟩ : ∃ outcome, parseFrame (c.inBuffer ++ recvData replies) = outcome :=
      ⟨_, rfl⟩
    rw [hp] at h
    cases outcome with
    | illegal => exact hremove h ⟨rfl, rfl, rfl⟩
    | incomplete =>
      dsimp only at h
      split_ifs at h with heof
      · exact hremove h ⟨rfl, rfl, rfl⟩
      · cases h
        rw [eq_of_mem_put hd' hc hdm rfl hserial]
        rfl
    | frame m rest =>
      dsimp only at h
      split_ifs at h with htype hname hhost
      · exact hremove h ⟨rfl, rfl, rfl⟩
      · exact hremove h ⟨rfl, rfl, rfl⟩
      · obtain ⟨k, rfl, -⟩ := fdMod_true h
        rw [eq_of_mem_put hd' hc hdm rfl hserial]
        rfl
      · cases h

lemma HostListens.received (hr : (serverSystem host).Reach System.any l)
    (hopen : l.server.serverClosing = false) (h : HostListens n l i)
    (hstep : serverLoopStep l i = some l') (hrun : l'.Running)
    (hc : c ∈ l.server.connections) (hserial : c.serial = n) (hd : d ∈ l'.server.connections)
    (hsame : d.serial = n) : c.received.length < d.received.length := by
  cases i with
  | events es => exact h.elim
  | waitFailed e => exact h.elim
  | endOfBatch => exact h.elim
  | replies r =>
    obtain ⟨⟨c', hc', hserial', e', he', hfd, hwants⟩, hbrings⟩ := h
    obtain ⟨e, es, hphase, hnext, hev⟩ := serverLoopStep_goesOn hstep hrun
    rw [hnext, Option.mem_some_iff] at he'
    subst he'
    have hreg := (reach_inv hr (Loop.running_of_handling hphase)).sound.registry
    have hcc : c' = c :=
      Keyed.eq_of_key_eq hreg.distinct.serials hc' hc (hserial'.trans hserial.symm)
    subst hcc
    rw [handleEvent_hello hreg r hc hfd hopen hwants] at hev
    have hreceived := receiveClientHello_received (hreg.distinct.tuned r.ctl (some c'.addr)) hc
      hwants.1 hev hd (hsame.trans hserial.symm)
    have hpos := hbrings.length_pos
    rw [hreceived, List.length_append]
    omega

end Steps

/-! ### What an introduction leads to -/

section Greetings

variable {host name : Bytes} {c d : Connection} {client : Client}

lemma waiting_of_short (hc : c.Served host) (hset : c.Settled) (hclient : client.Recorded name)
    (h : c.received <+: client.conn.sent)
    (hlen : c.received.length < (encodeFrame (clientGreeting name)).length) :
    c.state = .waitingForClientHello := by
  obtain ⟨rest, hqueued, -, -⟩ := parsed_prefix_of_received hclient.stream hc.stream h
  -- a parsed frame is the whole introduction
  have hnone : c.parsed = [] := by
    cases hparsed : c.parsed with
    | nil => rfl
    | cons m ms =>
      have hfirst : m = (clientGreeting name).framed := by
        rw [hparsed] at hqueued
        rcases hclient.told with hnil | ⟨said, hcons, -⟩
        · rw [hnil] at hqueued
          cases hqueued
        · rw [hcons] at hqueued
          injection hqueued with hm _
          exact hm.symm
      have hreceived := congrArg List.length hc.stream.received
      have hsame : frameCodec.encode m = encodeFrame (clientGreeting name) := by
        rw [hfirst]
        rfl
      rw [hparsed, frameCodec.encodeAll_cons, hsame, List.length_append,
        List.length_append] at hreceived
      omega
  rcases hset with hst | hst | hst
  · exact hst
  · obtain ⟨hello, hparsed, -⟩ := hc.phase.of_greeting hst
    rw [hnone] at hparsed
    cases hparsed
  · obtain ⟨hello, chats, heard, hparsed, -⟩ := hc.phase.of_joined (Or.inl hst)
    rw [hnone] at hparsed
    cases hparsed

lemma not_waiting_of_long (hc : c.Served host) (hclient : client.Recorded name)
    (hintro : client.conn.queued ≠ []) (h : c.received <+: client.conn.sent)
    (hlen : (encodeFrame (clientGreeting name)).length ≤ c.received.length) :
    c.state ≠ .waitingForClientHello := by
  intro hst
  obtain ⟨-, -, hparsed, -, hin⟩ := hc.phase.of_waiting hst
  have hall := hc.stream.parsed_all hin
  obtain ⟨said, hcons, -⟩ := hclient.told.resolve_left hintro
  have hfirst : encodeFrame (clientGreeting name) <+: frameCodec.encodeAll client.conn.queued := by
    rw [hcons]
    exact List.prefix_append _ _
  have hsent : client.conn.sent <+: frameCodec.encodeAll client.conn.queued := by
    rw [← hclient.stream.sent]
    exact List.prefix_append _ _
  obtain ⟨more, hmore⟩ := List.prefix_of_prefix_length_le hfirst (h.trans hsent) hlen
  have hlegal := framed_legal hclient.stream.queued
  rw [hcons, List.map_cons] at hlegal
  have hframes := frameCodec.frames_encodeAll
    (List.forall_mem_singleton.mpr (hlegal _ List.mem_cons_self)) more
  have hsame : frameCodec.encodeAll [(clientGreeting name).framed] =
      encodeFrame (clientGreeting name) := List.append_nil _
  rw [hsame, hmore, ← hall, hparsed] at hframes
  cases hframes

lemma Connection.Served.answered (hc : c.Served host) (hset : c.Settled)
    (hst : c.state ≠ .waitingForClientHello) :
    ∃ later, c.queued = serverGreeting host :: later := by
  rcases hset with hwaiting | hgreeting | hactive
  · exact absurd hwaiting hst
  · obtain ⟨hello, -, -, -, -, hqueued, -⟩ := hc.phase.of_greeting hgreeting
    exact ⟨[], hqueued⟩
  · obtain ⟨hello, chats, heard, -, -, -, -, -, hqueued, -⟩ := hc.phase.of_joined (Or.inl hactive)
    exact ⟨heard, hqueued⟩

lemma active_of_answered (hc : c.Served host) (hset : c.Settled) (hne : c.queued ≠ [])
    (hlen : (encodeFrame (serverGreeting host)).length ≤ c.sent.length) : c.state = .active := by
  rcases hset with hst | hst | hst
  · exact absurd (hc.phase.of_waiting hst).2.2.2.1 hne
  · obtain ⟨hello, -, -, -, -, hqueued, hout⟩ := hc.phase.of_greeting hst
    have hpending : c.outBuffer ≠ [] := by
      rw [hout]
      simp [encodeFrame]
    have hpos := List.length_pos_iff.mpr (hc.stream.unsent_ne_nil hpending)
    have hsent := congrArg List.length hc.stream.sent
    have hsame : frameCodec.encodeAll [serverGreeting host] = encodeFrame (serverGreeting host) :=
      List.append_nil _
    rw [hqueued, hsame, List.length_append] at hsent
    omega
  · exact hst

end Greetings

/-! ### Runs -/

section Runs

variable {host : Bytes} {names : ℕ → Bytes} {peer : ℕ → ℕ}
  (x : (networkSystem host names peer).Execution System.any) (n : ℕ)

/-- The introduction of a client is written and read, and the answer of the host is written. -/
structure AdmissionServed : Prop where
  written : ClientWritten x n
  read : x.WeaklyFair
    (fun net => ∃ c, c.serial = n ∧ net.Connected peer c ∧ c.state = .waitingForClientHello ∧
      c.received.length < (net.clients (peer n)).client.conn.sent.length)
    (fun net i => ∃ j, i = .server j ∧ HostListens n net.server j)
  answered : HostWritten x n

variable {x n} {c : Connection} (hr : (networkSystem host names peer).Reach System.any (x.state 0))

include hr

lemma AdmissionServed.arrives (hfair : AdmissionServed x n) {i : ℕ}
    (hintro : ((x.state i).clients (peer n)).client.conn.queued ≠ []) : ∃ j, i ≤ j ∧
    ∀ c, c.serial = n → (x.state j).Connected peer c →
      (encodeFrame (clientGreeting (names (peer n)))).length ≤ c.received.length := by
  obtain ⟨j, hij, hsent⟩ := hfair.written.sent hr i
  -- the introduction is the first message of the client
  have hfirst : (encodeFrame (clientGreeting (names (peer n)))).length ≤
      (frameCodec.encodeAll ((x.state i).clients (peer n)).client.conn.queued).length := by
    have hclient := (network_components (execution_reach hr i)).2.1 (peer n)
    obtain ⟨said, hcons, -⟩ := (client_reach_keeps hclient).2.told.resolve_left hintro
    rw [hcons, frameCodec.encodeAll_cons, List.length_append]
    exact Nat.le_add_right _ _
  suffices h : ∃ m, j ≤ m ∧ ((∃ c, c.serial = n ∧ (x.state m).Connected peer c) →
      (encodeFrame (clientGreeting (names (peer n)))).length ≤
        (x.state m).server.server.countOf (fun c => c.received.length) n) by
    obtain ⟨m, hjm, hreceived⟩ := h
    refine ⟨m, hij.trans hjm, ?_⟩
    intro c hserial hc
    rw [← execution_countOf hr (fun c => c.received.length) hc.running hc.member hserial]
    exact hreceived ⟨c, hserial, hc⟩
  refine x.attains hfair.read (fun net => ∃ c, c.serial = n ∧ net.Connected peer c)
    (fun net => net.server.server.countOf (fun c => c.received.length) n) ?_ ?_ ?_
  · rintro m - ⟨c, rfl, hc⟩ ⟨d, hserial, hd⟩
    rw [execution_countOf hr _ hc.running hc.member rfl,
      execution_countOf hr _ hd.running hd.member hserial]
    exact (execution_grows hr (Nat.le_succ m) hc.member hd.running hd.member
      hserial).received.length_le
  · rintro m - ⟨c, rfl, hc⟩ ⟨d, hserial, hd⟩ - ⟨j, hj, hlistens⟩
    obtain ⟨hstep, -⟩ := x.step m
    rw [hj] at hstep
    rw [execution_countOf hr _ hc.running hc.member rfl,
      execution_countOf hr _ hd.running hd.member hserial]
    exact hlistens.received (network_components (execution_reach hr m)).1 hc.room hstep.1.2
      hd.running hc.member rfl hd.member hserial
  · rintro m hm ⟨c, rfl, hc⟩ hlt
    rw [execution_countOf hr _ hc.running hc.member rfl] at hlt
    obtain ⟨hgrows, hrunning⟩ := network_path_client (x.path hm) (peer c.serial)
    have hall := hsent (hrunning hc.listening)
    have hle := hgrows.sent.length_le
    obtain ⟨hserver, hclients, hfifo⟩ := network_components (execution_reach hr m)
    have hinv := reach_inv hserver hc.running
    have hwaiting := waiting_of_short (hinv.sound.served c hc.member) (hinv.settled c hc.member)
      (client_reach_keeps (hclients (peer c.serial))).2 (hfifo.upstream c (Or.inl hc.member)) hlt
    exact ⟨c, rfl, hc, hwaiting, by omega⟩

end Runs

/-- A client that has introduced itself is in the room in the end, under its name, if it stays and
the streams are served. -/
theorem introduced_client_is_admitted {host : Bytes} {names : ℕ → Bytes} {peer : ℕ → ℕ}
    {x : (networkSystem host names peer).Execution System.any} {n : ℕ}
    (hr : (networkSystem host names peer).Reach System.any (x.state 0))
    (hfair : AdmissionServed x n) {i : ℕ}
    (hintro : ((x.state i).clients (peer n)).client.conn.queued ≠ []) :
    ∃ j, i ≤ j ∧ ∀ c, c.serial = n → (x.state j).Connected peer c →
      c.state = .active ∧ c.name = names (peer n) := by
  obtain ⟨m, him, harrives⟩ := hfair.arrives hr hintro
  by_cases hthere : ∃ c, c.serial = n ∧ (x.state m).Connected peer c
  · obtain ⟨c, rfl, hc⟩ := hthere
    obtain ⟨hserver, hclients, hfifo⟩ := network_components (execution_reach hr m)
    have hinv := reach_inv hserver hc.running
    have hserved := hinv.sound.served c hc.member
    rw [hinv.host] at hserved
    have hnot := not_waiting_of_long hserved (client_reach_keeps (hclients (peer c.serial))).2
      ((network_path_client (x.path him) (peer c.serial)).1.queued_ne_nil hintro)
      (hfifo.upstream c (Or.inl hc.member)) (harrives c rfl hc)
    obtain ⟨later, hqueued⟩ := hserved.answered (hinv.settled c hc.member) hnot
    obtain ⟨j, hmj, hsent⟩ := hfair.answered.sent hr hc.member rfl
    refine ⟨j, him.trans hmj, ?_⟩
    intro d hserial hd
    -- what was queued to it at that time begins with the greeting, and it is sent now
    have hall := hsent d hd.member hd.running hserial
    have hgrows := execution_grows hr hmj hc.member hd.running hd.member hserial
    have hne := hgrows.queued_ne_nil (by rw [hqueued]; exact List.cons_ne_nil _ _)
    rw [hqueued, frameCodec.encodeAll_cons, List.length_append] at hall
    obtain ⟨hserver', hclients', hfifo'⟩ := network_components (execution_reach hr j)
    have hinv' := reach_inv hserver' hd.running
    have hserved' := hinv'.sound.served d hd.member
    rw [hinv'.host] at hserved'
    have hactive := active_of_answered hserved' (hinv'.settled d hd.member) hne
      (le_trans (Nat.le_add_right _ _) hall)
    obtain ⟨hello, chats, heard, hparsed, -, hname, -⟩ := hserved'.phase.of_joined (Or.inl hactive)
    have hmine := (parsed_of_client hserved'.stream
      (client_reach_keeps (hclients' (peer d.serial))).2
      (hfifo'.upstream d (Or.inl hd.member))).2 hello chats hparsed
    rw [hserial] at hmine
    exact ⟨hactive, hname.trans hmine⟩
  · exact ⟨m, him, fun c hserial hc => absurd ⟨c, hserial, hc⟩ hthere⟩

/-- Client 0 of a run in which two clients enter. -/
theorem introduced_client_is_admitted_ann :
    ∃ x : (networkSystem (ascii "host") firstIsAnn id).Execution System.any,
      (x.state 0).server.server.connections = [] ∧
      (∃ m c, (x.state m).Connected id c ∧ c.serial = 0) ∧
      ∃ j, ∀ c, c.serial = 0 → (x.state j).Connected id c →
        c.state = .active ∧ c.name = ascii "ann" := by
  obtain ⟨x, i, m, net, c, d, e, hr, hempty, hintro, -, -, -, -, hlast, -, hc, hserial, hrest, -⟩ :=
    two_guests_talk
  have hfair : AdmissionServed x 0 := by
    refine ⟨ClientWritten.of_rest hlast hrest, ?_,
      HostWritten.of_rest hr hlast hc.member hserial hrest⟩
    refine x.weaklyFair_of_rest hlast ?_
    rintro ⟨d, hd, hconnected, hwaiting, -⟩
    rw [eq_of_rest hr hlast hc.member hserial hconnected.running hconnected.member hd,
      hrest.active] at hwaiting
    cases hwaiting
  have hconnected : (x.state m).Connected id c := by
    rw [hlast m le_rfl]
    exact hc.toConnected
  obtain ⟨j, -, hjoined⟩ := introduced_client_is_admitted hr hfair hintro
  exact ⟨x, hempty, ⟨m, c, hconnected, hserial⟩, j, hjoined⟩

end Chatroom
