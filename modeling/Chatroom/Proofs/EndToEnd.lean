import Chatroom.Proofs.Chronicle
import Chatroom.Proofs.Terminal

/-!
# From terminal to terminal

A server and its clients, in any interleaving of their steps and with any boundaries of
`send` and `recv`. What a client shows of others is the beginning of what the room log has for
it, and what the log has of a client is the beginning of what its user typed.
-/

namespace Chatroom
open Interleaving Relation Subscription Transition

/-- The lines of the room that person `n` can see. -/
def roomLines (n : ℕ) (log : List RoomEntry) : List Bytes :=
  (view (RoomEntry.Opens n) (RoomEntry.Tells n) log).map RoomEntry.line

/-- The lines with which a client enters the room of a host. -/
def welcome (host : Bytes) : List Bytes :=
  [ascii "Connected to server.\nName: " ++ host,
    ascii "[client] connected to server. Start chatting."]

/-- The line with which a client takes its dismissal. -/
def dismissal : Bytes :=
  ascii "[client] server closed the room."

section Frames

variable {hello bye m : Message} {lines : List Message} {c : Connection} {s : Screen}

lemma display_line (h : m.type = .broadcast) : (s.display m).lines = s.lines ++ [m.payload] := by
  rw [Screen.display, if_neg (by rw [h]; decide), if_neg (by rw [h]; decide)]

lemma display_bye (h : bye.type = .closeCon) : (s.display bye).lines = s.lines ++ [dismissal] := by
  rw [Screen.display, if_neg (by rw [h]; decide), if_pos h]
  rfl

lemma display_hello (h : hello.type = .serverHello) :
    (s.display hello).lines = s.lines ++ welcome hello.payload ∧
      (s.display hello).name = hello.payload := by
  rw [Screen.display, if_pos h]
  exact ⟨rfl, rfl⟩

lemma lines_displayAll (hhello : hello.type = .serverHello)
    (hlines : ∀ m ∈ lines, m.type = .broadcast) :
    (Screen.blank.displayAll (hello :: lines)).lines =
        welcome hello.payload ++ lines.map Message.payload ∧
      (Screen.blank.displayAll (hello :: lines)).name = hello.payload := by
  induction lines using List.reverseRecOn with
  | nil =>
    obtain ⟨hprinted, hname⟩ := display_hello (s := Screen.blank) hhello
    exact ⟨by rw [List.map_nil, List.append_nil]; exact hprinted, hname⟩
  | append_singleton lines m ih =>
    obtain ⟨hold, hm⟩ := List.forall_mem_append.mp hlines
    have hm : m.type = .broadcast := hm m List.mem_cons_self
    obtain ⟨hprinted, hname⟩ := ih hold
    rw [← List.cons_append, Screen.displayAll_append]
    refine ⟨?_, ?_⟩
    · show ((Screen.blank.displayAll (hello :: lines)).display m).lines = _
      rw [display_line hm, hprinted, List.map_append, List.append_assoc]
      rfl
    · show ((Screen.blank.displayAll (hello :: lines)).display m).name = _
      rw [Screen.display, if_neg (by rw [hm]; decide), if_neg (by rw [hm]; decide)]
      exact hname

end Frames

/-! ### One connection -/

section Channel

variable {host : Bytes} {c : Connection} {shown : List Message} {st : ConnectionState}

lemma frames_nil : frameCodec.frames ([] : Bytes) = [] :=
  frameCodec.frames_of_not_frame (fun m rest h => by cases h)

lemma Connection.Stream.frames_queued (h : c.Stream) :
    frameCodec.frames (frameCodec.encodeAll c.queued) = c.queued.map Message.framed := by
  have hall := frameCodec.frames_encodeAll (framed_legal h.queued) []
  rwa [List.append_nil, frames_nil, List.append_nil, encodeAll_framed] at hall

lemma Connection.Stream.frames_sent (h : c.Stream) :
    frameCodec.frames c.sent <+: c.queued.map Message.framed := by
  obtain ⟨rest, hrest⟩ := h.sent_prefix
  rw [encodeAll_framed] at hrest
  rw [← h.frames_queued, ← hrest]
  exact frameCodec.frames_prefix c.sent rest

lemma Connection.Stream.frames_flushed (h : c.Stream) (hout : c.outBuffer = []) :
    frameCodec.frames c.sent = c.queued.map Message.framed := by
  have hsent := h.sent
  have hunsent : c.unsent = [] := by rw [Connection.unsent, hout, List.drop_nil]
  rw [hunsent, List.append_nil] at hsent
  rw [hsent, h.frames_queued]

lemma broadcasts_framed {log : List RoomEntry} (h : c.broadcasts <+: dueBroadcasts c.serial log) :
    c.broadcasts.map Message.framed = c.broadcasts := by
  have hall : ∀ m ∈ c.broadcasts, m.framed = m := by
    intro m hm
    obtain ⟨e, -, rfl⟩ := List.mem_map.mp (h.subset hm)
    rfl
  rw [List.map_congr_left hall, List.map_id']

lemma shown_of_queued (htold : Begins (serverGreeting host) FromRoom c.queued)
    (hshown : shown <+: c.queued.map Message.framed) (hcourse : ShownFrames st shown) :
    shown = [] ∨ ∃ heard, heard <+: c.broadcasts.map Message.framed ∧
      (shown = serverGreeting host :: heard ∨
        ∃ bye : Message, bye.type = .closeCon ∧ shown = serverGreeting host :: heard ++ [bye]) := by
  rcases htold with hnil | ⟨later, hqueued, -⟩
  · rw [hnil, List.map_nil, List.prefix_nil] at hshown
    exact Or.inl hshown
  · -- a list of broadcasts at the front of the later frames
    have hheard : ∀ {hello : Message} {lines : List Message}, (∀ m ∈ lines, m.type = .broadcast) →
        hello :: lines <+: c.queued.map Message.framed →
        hello = serverGreeting host ∧ lines <+: c.broadcasts.map Message.framed := by
      intro hello lines hlines hpre
      rw [hqueued, List.map_cons, List.cons_prefix_cons] at hpre
      obtain ⟨hhello, hrest⟩ := hpre
      have hkept := hrest.filter (fun m => m.type = .broadcast)
      rw [List.filter_eq_self.mpr (fun m hm => by simp [hlines m hm]), List.filter_map] at hkept
      refine ⟨hhello, ?_⟩
      have hgreet : (serverGreeting host).type ≠ .broadcast :=
        show MessageType.serverHello ≠ MessageType.broadcast by decide
      rw [Connection.broadcasts, hqueued, List.filter_cons_of_neg (by simpa using hgreet)]
      exact hkept
    cases hcourse with
    | silent => exact Or.inl rfl
    | greeted hello lines hhello hlines =>
      obtain ⟨rfl, hpre⟩ := hheard hlines hshown
      exact Or.inr ⟨lines, hpre, Or.inl rfl⟩
    | dismissed hello bye lines hhello hlines hbye hempty =>
      obtain ⟨rfl, hpre⟩ := hheard hlines ((List.prefix_append _ _).trans hshown)
      exact Or.inr ⟨lines, hpre, Or.inr ⟨bye, hbye, rfl⟩⟩

lemma Connection.Served.broadcasts_of_shown (h : c.Served host) (hst : c.state = .active)
    {hello : Message} {lines : List Message}
    (hshown : c.queued.map Message.framed <+: hello :: lines)
    (hlines : ∀ m ∈ lines, m.type = .broadcast) :
    c.queued = serverGreeting host :: c.broadcasts ∧
      hello = serverGreeting host ∧ c.broadcasts.map Message.framed <+: lines := by
  obtain ⟨-, -, heard, -, -, -, -, -, hqueued, -, -⟩ := h.phase.of_joined (Or.inl hst)
  rw [hqueued, List.map_cons, List.cons_prefix_cons] at hshown
  obtain ⟨hhello, hrest⟩ := hshown
  have hkept : heard.filter (fun m => m.type = .broadcast) = heard := by
    rw [List.filter_eq_self]
    intro m hmem
    have htype : m.type = .broadcast := hlines m.framed (hrest.subset (List.mem_map_of_mem hmem))
    simp [htype]
  have hgreet : (serverGreeting host).type ≠ .broadcast :=
    show MessageType.serverHello ≠ MessageType.broadcast by decide
  have hbroadcasts : c.broadcasts = heard := by
    rw [Connection.broadcasts, hqueued, List.filter_cons_of_neg (by simpa using hgreet), hkept]
  rw [hbroadcasts]
  exact ⟨hqueued, hhello.symm, hrest⟩

lemma lines_of_shown (host : Bytes) {log : List RoomEntry} {heard : List Message}
    (h : heard <+: dueBroadcasts c.serial log) :
    heard.map Message.payload <+: roomLines c.serial log ∧
      (Screen.blank.displayAll (serverGreeting host :: heard)).lines =
        welcome host ++ heard.map Message.payload ∧
      (Screen.blank.displayAll (serverGreeting host :: heard)).name = host := by
  have hlines : ∀ m ∈ heard, m.type = .broadcast := by
    intro m hm
    obtain ⟨e, -, rfl⟩ := List.mem_map.mp (h.subset hm)
    rfl
  refine ⟨?_, lines_displayAll rfl hlines⟩
  have hpre := h.map Message.payload
  rw [dueBroadcasts, List.map_map] at hpre
  exact hpre

lemma said_sublist_roomLines {a b : ℕ} (hab : a ≠ b) {log later : List RoomEntry} {name : Bytes}
    (hopened : ∃ e ∈ log, e.Opens b)
    (hspeaker : ∀ e ∈ later, e.serial = some a → e.speaker = some name) :
    ((later.filterMap (RoomEntry.said a)).map (formatLine name)).Sublist
      (roomLines b (log ++ later)) := by
  rw [roomLines, Subscription.view_append hopened, List.map_append]
  refine List.Sublist.trans ?_ (List.sublist_append_right _ _)
  clear hopened
  induction later with
  | nil => exact List.nil_sublist _
  | cons e later ih =>
    obtain ⟨hfirst, hlater⟩ := List.forall_mem_cons.mp hspeaker
    have hrest := ih hlater
    by_cases hsaid : e.said a = none
    · rw [List.filterMap_cons_none hsaid]
      refine hrest.trans (List.Sublist.map _ ?_)
      exact (List.sublist_cons_self e later).filter _
    · cases e with
      | chat m who text =>
        have hm : m = a := by
          by_contra hne
          exact hsaid (if_neg hne)
        subst hm
        have hwho : who = name := Option.some.inj (hfirst rfl)
        have htells : (RoomEntry.chat m who text).Tells b := hab
        have hsome : (RoomEntry.chat m who text).said m = some text := if_pos rfl
        have hkept : (RoomEntry.chat m who text :: later).filter (fun e => e.Tells b) =
            RoomEntry.chat m who text :: later.filter (fun e => e.Tells b) :=
          List.filter_cons_of_pos (by simpa using htells)
        rw [List.filterMap_cons_some hsome, hkept, List.map_cons, List.map_cons, ← hwho]
        rw [← hwho] at hrest
        exact hrest.cons_cons _
      | connected m who => exact absurd rfl hsaid
      | hostChat who text => exact absurd rfl hsaid
      | disconnected m who => exact absurd rfl hsaid
      | closing => exact absurd rfl hsaid

end Channel

/-! ### A small network that can be evaluated -/

/-- A step of a client in which reading is cut off after a thousand frames. -/
def guestStep (k : ClientLoop) (i : ClientInput) : Option ClientLoop :=
  match k.phase, i with
  | .handling (e :: es), .replies r =>
    if k.client.clientQuitting = false ∧ k.client.eventIsSendNetworkMessage e.fd e.events = false ∧
        k.client.eventIsReadNetworkMessage e.fd e.events = true ∧ recvEnd r.recvs = .wouldBlock ∧
        (k.client.conn.ingested r.recvs).inBuffer.length < 1000 then
      match (((k.client.tuned r.ctl).call (.recv k.client.conn.fd)).withConn
        (k.client.conn.ingested r.recvs)).readMessagesUpTo 1000 with
      | (true, t) => some ⟨t, .handling es⟩
      | (false, _) => none
    else clientLoopStep k i
  | _, _ => clientLoopStep k i

/-- The same for the server. -/
def hostStep (l : Loop) (i : LoopInput) : Option Loop :=
  match l.phase, i with
  | .handling (e :: es), .replies r =>
    match l.server.find e.fd with
    | none => serverLoopStep l i
    | some c =>
      if l.server.serverClosing = false ∧ ¬c.WantsSend e.events ∧ c.WantsRead e.events ∧
          recvEnd r.recvs ≠ .failed ∧ (c.ingested r.recvs).inBuffer.length < 1000 then
        match (((l.server.tuned r.ctl (some c.addr)).call (.recv c.fd)).put
          (c.ingested r.recvs)).readMessagesUpTo 1000 (c.ingested r.recvs) with
        | (true, t) => some ⟨t, .handling es⟩
        | (false, _) => none
      else serverLoopStep l i
  | _, _ => serverLoopStep l i

/-- The first clients are in states `ks`, all others in states `base`. -/
def crowd (base : ℕ → ClientLoop) (ks : List ClientLoop) (n : ℕ) : ClientLoop :=
  ks.getD n (base n)

/-- What a server and its first guests have received of each other. -/
def ReceivedPrefixes (l : Loop) (ks : List ClientLoop) : Prop :=
  l.server.departed = [] ∧
    (∀ c ∈ l.server.connections, ∃ k ∈ ks[c.serial]?, c.received <+: k.client.conn.sent) ∧
    ∀ n ∈ List.range ks.length, ∀ k ∈ ks[n]?, k.client.conn.received = [] ∨
      ∃ c ∈ l.server.connections, c.serial = n ∧ k.client.conn.received <+: c.sent

instance (l : Loop) (ks : List ClientLoop) : Decidable (ReceivedPrefixes l ks) :=
  inferInstanceAs (Decidable (_ ∧ _ ∧ _))

/-- A step of the server or of a guest after which the streams are in order. -/
def crowdStep : Loop × List ClientLoop → NetworkInput → Option (Loop × List ClientLoop)
  | (l, ks), .server i =>
    if i.Admissible l then
      (hostStep l i).bind (fun l' => if ReceivedPrefixes l' ks then some (l', ks) else none)
    else none
  | (l, ks), .client n i =>
    ks[n]?.bind (fun k => (guestStep k i).bind (fun k' =>
      if ReceivedPrefixes l (ks.set n k') then some (l, ks.set n k') else none))

section Crowd

variable {host : Bytes} {names : ℕ → Bytes} {base : ℕ → ClientLoop} {ks ks' : List ClientLoop}
  {k k' : ClientLoop} {l l' : Loop} {n : ℕ}

lemma crowd_of_getElem? (h : ks[n]? = some k) : crowd base ks n = k := by
  rw [crowd, List.getD_eq_getElem?_getD, h]
  rfl

lemma crowd_set (base : ℕ → ClientLoop) (h : ks[n]? = some k) (k' : ClientLoop) :
    crowd base (ks.set n k') n = k' ∧
      ∀ m, m ≠ n → crowd base (ks.set n k') m = crowd base ks m := by
  obtain ⟨hlt, -⟩ := List.getElem?_eq_some_iff.mp h
  refine ⟨crowd_of_getElem? (List.getElem?_set_self hlt), ?_⟩
  intro m hm
  rw [crowd, crowd, List.getD_eq_getElem?_getD, List.getD_eq_getElem?_getD,
    List.getElem?_set_ne hm.symm]

lemma guestStep_some {i : ClientInput} (h : guestStep k i = some k') :
    clientLoopStep k i = some k' := by
  unfold guestStep at h
  split at h
  · rename_i e es r hphase
    split_ifs at h with hreads
    · obtain ⟨hopen, hsend, hread, hend, hlen⟩ := hreads
      split at h
      · rename_i t ht
        cases h
        exact clientLoopStep_read hphase hopen hsend hread hend hlen ht
      · cases h
    · exact h
  · exact h

lemma hostStep_some (hreg : l.server.Registry) {i : LoopInput} (h : hostStep l i = some l') :
    serverLoopStep l i = some l' := by
  unfold hostStep at h
  split at h
  · rename_i e es r hphase
    split at h
    · exact h
    · rename_i c hfind
      obtain ⟨hc, hfd⟩ := Server.find_some hfind
      split_ifs at h with hreads
      · obtain ⟨hopen, hsend, hwants, hok, hlen⟩ := hreads
        split at h
        · rename_i t ht
          cases h
          exact serverLoopStep_read hreg hphase hopen hc hfd hsend hwants hok hlen ht
        · cases h
      · exact h
  · exact h

lemma ReceivedPrefixes.fifo (h : ReceivedPrefixes l ks)
    (hbase : ∀ n, (base n).client.conn.received = []) :
    Network.Fifo id ⟨l, crowd base ks⟩ where
  upstream := by
    rintro c (hc | ⟨d, hd, -⟩)
    · obtain ⟨k, hk, hprefix⟩ := h.2.1 c hc
      show c.received <+: (crowd base ks c.serial).client.conn.sent
      rwa [crowd_of_getElem? hk]
    · have hd : d ∈ l.server.departed := hd
      rw [h.1] at hd
      cases hd
  downstream := by
    intro n
    show (crowd base ks n).client.conn.received = [] ∨ ∃ c, l.server.Knows c ∧ c.serial = n ∧
      (crowd base ks n).client.conn.received <+: c.sent
    cases hk : ks[n]? with
    | none =>
      left
      rw [crowd, List.getD_eq_getElem?_getD, hk]
      exact hbase n
    | some k =>
      obtain ⟨hlt, -⟩ := List.getElem?_eq_some_iff.mp hk
      rw [crowd_of_getElem? hk]
      rcases h.2.2 n (List.mem_range.mpr hlt) k hk with hnil | ⟨c, hc, hserial, hprefix⟩
      · exact Or.inl hnil
      · exact Or.inr ⟨c, Or.inl hc, hserial, hprefix⟩

lemma crowdStep_step (hbase : ∀ n, (base n).client.conn.received = [])
    (hr : (networkSystem host names id).Reach System.any ⟨l, crowd base ks⟩) {i : NetworkInput}
    (h : crowdStep (l, ks) i = some (l', ks')) :
    (networkSystem host names id).step ⟨l, crowd base ks⟩ i ⟨l', crowd base ks'⟩ := by
  cases i with
  | server i =>
    rw [crowdStep] at h
    split_ifs at h with hadm
    obtain ⟨l₁, hstep, hl₁⟩ := Option.bind_eq_some_iff.mp h
    split_ifs at hl₁ with htouch
    cases hl₁
    have hnext : serverLoopStep l i = some l' := by
      by_cases hrun : l.Running
      · exact hostStep_some (reach_inv (network_components hr).1 hrun).sound.registry hstep
      · have hstop : l.phase = .stopped := not_not.mp hrun
        unfold hostStep at hstep
        rw [hstop] at hstep
        exact hstep
    exact ⟨⟨⟨hadm, hnext⟩, rfl⟩, htouch.fifo hbase⟩
  | client n i =>
    rw [crowdStep] at h
    obtain ⟨k, hk, h⟩ := Option.bind_eq_some_iff.mp h
    obtain ⟨k', hstep, hk'⟩ := Option.bind_eq_some_iff.mp h
    split_ifs at hk' with htouch
    cases hk'
    obtain ⟨hself, hothers⟩ := crowd_set base hk k'
    refine ⟨⟨?_, rfl, hothers⟩, htouch.fifo hbase⟩
    show clientLoopStep (crowd base ks n) i = some (crowd base (ks.set n k') n)
    rw [crowd_of_getElem? hk, hself]
    exact guestStep_some hstep

lemma crowdRun_path {P : Network → NetworkInput → Prop}
    (hbase : ∀ n, (base n).client.conn.received = [])
    (hr : (networkSystem host names id).Reach System.any ⟨l, crowd base ks⟩)
    {is : List NetworkInput} (hP : ∀ i ∈ is, ∀ net, P net i)
    (h : System.run crowdStep (l, ks) is = some (l', ks')) :
    (networkSystem host names id).Path P ⟨l, crowd base ks⟩ ⟨l', crowd base ks'⟩ := by
  induction is generalizing l ks with
  | nil =>
    cases h
    exact ReflTransGen.refl
  | cons i is ih =>
    obtain ⟨hPi, hPis⟩ := List.forall_mem_cons.mp hP
    obtain ⟨⟨l₁, ks₁⟩, hstep, hrest⟩ := Option.bind_eq_some_iff.mp h
    have hfirst := crowdStep_step hbase hr hstep
    exact (System.Path.single (hPi _) hfirst).trans (ih (hr.snoc trivial hfirst) hPis hrest)

end Crowd

/-- A guest is welcomed and shown the room. -/
def welcomed : List NetworkInput :=
  ([.events [⟨5, epollOut⟩], .replies { sends := [.count 1000] }, .endOfBatch] :
      List ClientInput).map (.client 0) ++
    (arrives 3 7 ++ delivers 7 (helloBytes (ascii "ann")) ++ drains 7 ++ drains 7).map .server ++
    ([.events [⟨5, epollIn⟩], .replies { recvs := [.bytes (encodeFrame (serverGreeting
        (ascii "host")) ++ encodeFrame (RoomEntry.connected 0 (ascii "ann")).message)] },
      .endOfBatch] : List ClientInput).map (.client 0)

/-- The guest says something, and the server reads it. -/
def saysHi : List NetworkInput :=
  ([.events [⟨stdinFileno, epollIn⟩], .replies { line := some (ascii "hi") }, .endOfBatch,
      .events [⟨5, epollOut⟩], .replies { sends := [.count 1000] }, .endOfBatch] :
      List ClientInput).map (.client 0) ++
    (delivers 7 (encodeFrame (Message.of .chat (ascii "hi")))).map .server

/-- The client `ann` before its loop. -/
def ann : ClientLoop :=
  startedClient (createdClient (ascii "ann") 5 6 true [])

/-- A guest and its client are done with each other. -/
structure AtRest (c : Connection) (k : ClientLoop) : Prop where
  active : c.state = .active
  listening : k.phase = .waiting
  flushed : c.outBuffer = []
  arrived : k.client.conn.received = c.sent
  written : k.client.conn.outBuffer = []
  delivered : c.received = k.client.conn.sent
  parsed : c.inBuffer = []

instance (c : Connection) (k : ClientLoop) : Decidable (AtRest c k) :=
  decidable_of_iff
    (c.state = .active ∧ k.phase = .waiting ∧ c.outBuffer = [] ∧
      k.client.conn.received = c.sent ∧ k.client.conn.outBuffer = [] ∧
      c.received = k.client.conn.sent ∧ c.inBuffer = [])
    ⟨fun ⟨h₁, h₂, h₃, h₄, h₅, h₆, h₇⟩ => ⟨h₁, h₂, h₃, h₄, h₅, h₆, h₇⟩,
      fun ⟨h₁, h₂, h₃, h₄, h₅, h₆, h₇⟩ => ⟨h₁, h₂, h₃, h₄, h₅, h₆, h₇⟩⟩

lemma small_network_says_hi : ∃ net net' : Network, ∃ c : Connection,
    (networkSystem (ascii "host") (fun _ => ascii "ann") id).Reach System.any net ∧
      (networkSystem (ascii "host") (fun _ => ascii "ann") id).Path System.any net net' ∧
      (net.clients 0).client.conn.spoken = [] ∧
      net'.server.server.roomLog =
        [.connected 0 (ascii "ann"), .chat 0 (ascii "ann") (ascii "hi")] ∧
      c.serial = 0 ∧ net'.server.phase = .waiting ∧ c ∈ net'.server.server.connections ∧
      AtRest c (net'.clients 0) ∧
      (net'.clients 0).client.stdout = welcome (ascii "host") ++
        [ascii "[server] `ann` connected.", ascii "[ann] hi"] := by
  let l₀ : Loop := ⟨initialServer (ascii "host") 3 4, .waiting⟩
  obtain ⟨⟨l₁, ks₁⟩, hrun₁, hspoken, ⟨l₂, ks₂⟩, hrun₂, hlog, hl₂, hshown, c, hc, hserial, hrest⟩ :
      ∃ p ∈ System.run crowdStep (l₀, [ann]) welcomed,
      (crowd (fun _ => ann) p.2 0).client.conn.spoken = [] ∧
      ∃ q ∈ System.run crowdStep p saysHi,
      q.1.server.roomLog = [.connected 0 (ascii "ann"), .chat 0 (ascii "ann") (ascii "hi")] ∧
      q.1.phase = .waiting ∧
      (crowd (fun _ => ann) q.2 0).client.stdout = welcome (ascii "host") ++
        [ascii "[server] `ann` connected.", ascii "[ann] hi"] ∧
      ∃ c ∈ q.1.server.connections, c.serial = 0 ∧ AtRest c (crowd (fun _ => ann) q.2 0) := by
    decide +kernel
  have hann : ∀ n : ℕ, ann.client.conn.received = [] := fun _ => by decide +kernel
  have hinit : (networkSystem (ascii "host") (fun _ => ascii "ann") id).Reach System.any
      ⟨l₀, crowd (fun _ => ann) [ann]⟩ := by
    refine System.Reach.of_init ⟨⟨3, 4, by decide, rfl⟩, fun n => ⟨5, 6, true, [], ?_⟩⟩
    cases n <;> rfl
  have hpath₁ := crowdRun_path hann hinit (fun _ _ _ => trivial) hrun₁
  have hpath₂ := crowdRun_path hann (hinit.path hpath₁) (fun _ _ _ => trivial) hrun₂
  exact ⟨_, _, c, hinit.path hpath₁, hpath₂, hspoken, hlog, hserial, hl₂, hc, hrest, hshown⟩

/-! ### The terminal of the host -/

/-- The terminal of a host: the lines of the room log, and now and then the note that a line
was too long. -/
def Server.ShowsLog (s : Server) : Prop :=
  ∃ notes, Interleaves notes (s.roomLog.map RoomEntry.line) s.stdout ∧
    ∀ note ∈ notes, note = ascii "[app] message length too long."

section Host

variable {host : Bytes} {s s' : Server} {who : Option ℕ}

lemma Server.ShowsLog.congr (h : s.ShowsLog) (hlog : s'.roomLog = s.roomLog)
    (hstdout : s'.stdout = s.stdout) : s'.ShowsLog := by
  unfold ShowsLog
  rw [hlog, hstdout]
  exact h

lemma Server.ShowsLog.post (h : s.ShowsLog) {e : RoomEntry} (hlog : s'.roomLog = s.roomLog ++ [e])
    (hstdout : s'.stdout = s.stdout ++ [e.line]) : s'.ShowsLog := by
  obtain ⟨notes, hlines, hnotes⟩ := h
  refine ⟨notes, ?_, hnotes⟩
  rw [hlog, hstdout, List.map_append]
  exact hlines.right e.line

lemma Effect.showsLog (hs : s.ShowsLog) (h : Effect who s s') : s'.ShowsLog := by
  cases h with
  | silent k cache hk => exact hs.congr rfl rfl
  | accept fd addr k hfd haddr hopen hk => exact hs.congr rfl rfl
  | move k hc hmove hk => exact hs.congr rfl rfl
  | talk k hc htalk hlegal hk => exact hs.post rfl rfl
  | leave k k' hc hleave hlegal hk hk' => exact hs.post rfl rfl
  | drop k hc hdrop hk => exact hs.congr rfl rfl
  | hostTalk text k hlegal hk => exact hs.post rfl rfl
  | close k k' hk hk' => exact hs.post rfl rfl
  | print =>
    obtain ⟨notes, hlines, hnotes⟩ := hs
    exact ⟨_, hlines.left _, List.forall_mem_append.mpr ⟨hnotes, by simp⟩⟩

lemma Abort.showsLog (hs : s.ShowsLog) (h : Abort who s s') : s'.ShowsLog := by
  cases h with
  | stop k cache => exact hs.congr rfl rfl
  | refuse fd addr k => exact hs.congr rfl rfl
  | move k hc hmove => exact hs.congr rfl rfl
  | giveUp k hc hgives => exact hs.congr rfl rfl
  | talk cs k hc htalk hcs => exact hs.post rfl rfl
  | leave cs k hc hleave hcs => exact hs.post rfl rfl
  | hostTalk text cs k hcs => exact hs.post rfl rfl
  | close cs cs' k hcs hcs' => exact hs.post rfl rfl

/-- Whatever its guests do and whichever calls fail, the terminal of a host shows the room
log, all of it and in order. -/
theorem host_shows_the_room_log {l : Loop} (hr : (serverSystem host).Reach System.any l) :
    l.server.ShowsLog := by
  obtain ⟨l₀, hinit, hp⟩ := hr
  refine path_relates (R := fun s t => s.ShowsLog → t.ShowsLog) (fun _ => id)
    (fun _ _ _ h h' => h' ∘ h) ?_ (fun _ _ _ _ habort hs => habort.showsLog hs)
    (System.Reach.of_init hinit) hp ?_
  · exact fun _ _ _ _ heff hs => heff.preserves (fun _ _ hu hstep => hstep.showsLog hu) hs
  · obtain ⟨listenFd, epollFd, -, rfl⟩ := hinit
    exact ⟨[], Interleaves.nil, by simp⟩

theorem host_shows_the_room_log_hi : ∃ l : Loop,
    l.server.roomLog = [.connected 0 (ascii "ann"), .chat 0 (ascii "ann") (ascii "hi")] ∧
      l.server.ShowsLog := by
  obtain ⟨net, net', c, hr, hp, -, hlog, -⟩ := small_network_says_hi
  exact ⟨_, hlog, host_shows_the_room_log (network_components (hr.path hp)).1⟩

end Host

/-! ### The network -/

section Net

variable {host : Bytes} {names : ℕ → Bytes} {peer : ℕ → ℕ} {net net' : Network}

/-- What a client has on its terminal from others: nothing, or the beginning of what the log has
for its connection, and at the end perhaps its dismissal. -/
def Network.ShowsRoom (host : Bytes) (peer : ℕ → ℕ) (net : Network) (n : ℕ)
    (incoming : List Bytes) : Prop :=
  incoming = [] ∨ ∃ c, net.server.server.Knows c ∧ peer c.serial = n ∧
    (net.clients n).client.conn.name = host ∧
    ∃ seen, seen <+: roomLines c.serial net.server.server.roomLog ∧
      (incoming = welcome host ++ seen ∨ incoming = welcome host ++ seen ++ [dismissal])

lemma Client.TerminalIs.showsRoom (hr : (networkSystem host names peer).Reach System.any net)
    {n : ℕ} {remarks : List Remark} {shown : List Message}
    (hterm : (net.clients n).client.TerminalIs (names n) remarks shown) :
    net.ShowsRoom host peer n (Screen.blank.displayAll shown).lines := by
  obtain ⟨hserver, hclients, hfifo⟩ := network_components hr
  rcases hfifo.downstream n with hnil | ⟨c, hc, hpeer, hprefix⟩
  · left
    have hshown := hterm.heard
    rw [hnil, frames_nil, List.prefix_nil] at hshown
    rw [hshown]
    rfl
  · have hrec := reach_recorded hserver c hc
    have hheard := (reach_chronicled hserver c hc).heard
    obtain ⟨st, hcourse⟩ := hterm.course
    obtain ⟨more, hmore⟩ := hprefix
    have hshown : shown <+: c.queued.map Message.framed := by
      refine (hterm.heard.trans ?_).trans hrec.stream.frames_sent
      rw [← hmore]
      exact frameCodec.frames_prefix _ more
    rcases shown_of_queued hrec.told hshown hcourse with rfl | ⟨heard, hpre, hcases⟩
    · exact Or.inl rfl
    · rw [broadcasts_framed hheard] at hpre
      obtain ⟨hseen, hlines, hname⟩ := lines_of_shown host (hpre.trans hheard)
      right
      refine ⟨c, hc, hpeer, ?_, heard.map Message.payload, hseen, ?_⟩
      · rw [hterm.host]
        rcases hcases with rfl | ⟨bye, hbye, rfl⟩
        · exact hname
        · rw [Screen.displayAll_append]
          show ((Screen.blank.displayAll (serverGreeting host :: heard)).display bye).name = host
          rw [Screen.display, if_neg (by rw [hbye]; decide), if_pos hbye]
          exact hname
      · rcases hcases with rfl | ⟨bye, hbye, rfl⟩
        · exact Or.inl hlines
        · right
          rw [Screen.displayAll_append]
          show ((Screen.blank.displayAll (serverGreeting host :: heard)).display bye).lines = _
          rw [display_bye hbye, hlines]

/-- In every state of a network, also after its loops have stopped, the terminal of a client
shows its own remarks interleaved with a prefix of what the room log has for it. -/
theorem clients_show_the_room_log (hr : (networkSystem host names peer).Reach System.any net)
    (n : ℕ) : ∃ (remarks : List Remark) (incoming : List Bytes),
      Interleaves (remarks.map (Remark.line (names n))) incoming (net.clients n).client.stdout ∧
        remarks.filterMap Remark.text = (net.clients n).client.conn.spoken ∧
        net.ShowsRoom host peer n incoming := by
  obtain ⟨-, hclients, -⟩ := network_components hr
  obtain ⟨remarks, shown, hterm, -⟩ := clientReach_terminalIs (hclients n)
  exact ⟨remarks, _, hterm.terminal, hterm.said, hterm.showsRoom hr⟩

theorem clients_show_the_room_log_hi : ∃ net : Network,
    net.server.server.roomLog =
        [.connected 0 (ascii "ann"), .chat 0 (ascii "ann") (ascii "hi")] ∧
      ∃ (remarks : List Remark) (incoming : List Bytes),
        Interleaves (remarks.map (Remark.line (ascii "ann"))) incoming
            (net.clients 0).client.stdout ∧
          remarks.filterMap Remark.text = (net.clients 0).client.conn.spoken ∧
          net.ShowsRoom (ascii "host") id 0 incoming := by
  obtain ⟨net, net', c, hr, hp, -, hlog, -⟩ := small_network_says_hi
  exact ⟨net', hlog, clients_show_the_room_log (hr.path hp) 0⟩

lemma parsed_of_client {c : Connection} {client : Client} {name : Bytes} (hc : c.Stream)
    (hclient : client.Recorded name) (h : c.received <+: client.conn.sent) :
    c.chats <+: client.conn.spoken ∧
      ∀ hello later, c.parsed = hello :: later → hello.payload = name := by
  obtain ⟨rest, hqueued, -, -⟩ := parsed_prefix_of_received hclient.stream hc h
  have hpre : c.parsed <+: client.conn.queued.map Message.framed := ⟨rest, hqueued.symm⟩
  refine ⟨?_, ?_⟩
  · have hchats := (hpre.filter (fun m => m.type = .chat)).map Message.payload
    rw [List.filter_map, List.map_map] at hchats
    exact hchats
  · intro hello later hparsed
    rw [hparsed] at hpre
    rcases hclient.told with hnil | ⟨said, hcons, -⟩
    · rw [hnil, List.map_nil] at hpre
      exact absurd (List.prefix_nil.mp hpre) (List.cons_ne_nil _ _)
    · rw [hcons, List.map_cons, List.cons_prefix_cons] at hpre
      rw [hpre.1]
      rfl

lemma log_of_client (hr : (networkSystem host names peer).Reach System.any net) {c : Connection}
    (hc : net.server.server.Knows c) :
    net.server.server.roomLog.filterMap (RoomEntry.said c.serial) <+:
        (net.clients (peer c.serial)).client.conn.spoken ∧
      ∀ e ∈ net.server.server.roomLog, e.serial = some c.serial →
        e.speaker = some (names (peer c.serial)) := by
  obtain ⟨hserver, hclients, hfifo⟩ := network_components hr
  have hchron := reach_chronicled hserver c hc
  obtain ⟨hchats, hname⟩ := parsed_of_client (reach_recorded hserver c hc).stream
    (client_reach_keeps (hclients (peer c.serial))).2 (hfifo.upstream c hc)
  refine ⟨hchron.said.trans hchats, ?_⟩
  intro e he hserial
  obtain ⟨hello, later, hparsed, hspeaker⟩ := hchron.author e he hserial
  rw [hspeaker, hname hello later hparsed]

/-- What the log has of a client, it has under the name of that client, and it is the beginning
of what its user said, in the same order and nothing twice. -/
theorem room_log_is_what_clients_said
    (hr : (networkSystem host names peer).Reach System.any net) :
    ∀ c, net.server.server.Knows c →
      net.server.server.roomLog.filterMap (RoomEntry.said c.serial) <+:
          (net.clients (peer c.serial)).client.conn.spoken ∧
        ∀ e ∈ net.server.server.roomLog, e.serial = some c.serial →
          e.speaker = some (names (peer c.serial)) :=
  fun _ hc => log_of_client hr hc

theorem room_log_is_what_clients_said_hi : ∃ net : Network,
    net.server.server.roomLog =
        [.connected 0 (ascii "ann"), .chat 0 (ascii "ann") (ascii "hi")] ∧
      ∃ c, net.server.server.Knows c ∧ c.serial = 0 ∧
        net.server.server.roomLog.filterMap (RoomEntry.said c.serial) <+:
          (net.clients (id c.serial)).client.conn.spoken := by
  obtain ⟨net, net', c, hr, hp, -, hlog, hserial, -, hc, -⟩ := small_network_says_hi
  exact ⟨net', hlog, c, Or.inl hc, hserial,
    (room_log_is_what_clients_said (hr.path hp) c (Or.inl hc)).1⟩

/-! ### When nothing is under way -/

/-- A guest of a running server and its client are done with each other: both ends have
flushed what they queued, received what the other one sent, and parsed it. -/
structure Network.Quiet (peer : ℕ → ℕ) (net : Network) (c : Connection) : Prop where
  running : net.server.Running
  member : c ∈ net.server.server.connections
  active : c.state = .active
  listening : (net.clients (peer c.serial)).Running
  flushed : c.outBuffer = []
  arrived : (net.clients (peer c.serial)).client.conn.received = c.sent
  written : (net.clients (peer c.serial)).client.conn.outBuffer = []
  delivered : c.received = (net.clients (peer c.serial)).client.conn.sent
  parsed : parseFrame c.inBuffer = .incomplete

lemma Connection.Stream.parsed_all {c : Connection} (h : c.Stream)
    (hinc : parseFrame c.inBuffer = .incomplete) : c.parsed = frameCodec.frames c.received := by
  have hnone : frameCodec.frames c.inBuffer = [] := by
    refine frameCodec.frames_of_not_frame (fun m rest h => ?_)
    have hinc : frameCodec.parse c.inBuffer = .incomplete := hinc
    rw [hinc] at h
    cases h
  rw [h.frames_received, hnone, List.append_nil]

/-- The log has all that the user has said, and the terminal shows all that the log has for the
client. -/
theorem quiet_terminals_show_the_room (hr : (networkSystem host names peer).Reach System.any net)
    {c : Connection} (h : net.Quiet peer c) : ∃ remarks : List Remark,
      Interleaves (remarks.map (Remark.line (names (peer c.serial))))
          (welcome host ++ roomLines c.serial net.server.server.roomLog)
          (net.clients (peer c.serial)).client.stdout ∧
        remarks.filterMap Remark.text =
          net.server.server.roomLog.filterMap (RoomEntry.said c.serial) := by
  obtain ⟨hserver, hclients, -⟩ := network_components hr
  obtain ⟨room, hm⟩ := reach_midway hserver h.running
  have hserved := hm.served h.member
  have horder := (client_reach_keeps (hclients (peer c.serial))).1 h.listening
  obtain ⟨remarks, shown, hterm, hlisten⟩ := clientReach_terminalIs (hclients (peer c.serial))
  have hlisten := hlisten h.listening
  -- downstream: everything that was queued is shown
  have hshown : shown = c.queued.map Message.framed := by
    rw [← hlisten.all, horder.stream.parsed_all hlisten.drained, h.arrived,
      hserved.stream.frames_flushed h.flushed]
  have hheard := hm.heard h.member
  have hpre : c.broadcasts <+: dueBroadcasts c.serial net.server.server.roomLog := by rw [hheard]
  have hcourse : ShownFrames .active shown := by
    refine hlisten.course.resolve_left ?_
    obtain ⟨-, -, heard, -, -, -, -, -, hqueued, -⟩ := hserved.phase.of_joined (Or.inl h.active)
    rw [hshown, hqueued]
    exact List.cons_ne_nil _ _
  have hlines : shown =
      serverGreeting host :: dueBroadcasts c.serial net.server.server.roomLog := by
    cases hcourse with
    | greeted hello lines hhello hall =>
      obtain ⟨hqueued, -, -⟩ :=
        hserved.broadcasts_of_shown h.active (by rw [hshown]) hall
      rw [hshown, hqueued, List.map_cons, broadcasts_framed hpre, hheard]
      rfl
  obtain ⟨hseen, hprinted, -⟩ := lines_of_shown host (List.prefix_refl
    (dueBroadcasts c.serial net.server.server.roomLog))
  refine ⟨remarks, ?_, ?_⟩
  · have hterminal := hterm.terminal
    rw [hlines, hprinted, dueBroadcasts, List.map_map] at hterminal
    exact hterminal
  · -- upstream: everything that was said is parsed
    have hsaid := hm.said h.member
    have hparsed : c.parsed =
        (net.clients (peer c.serial)).client.conn.queued.map Message.framed := by
      rw [hserved.stream.parsed_all h.parsed, h.delivered,
        horder.stream.frames_flushed h.written]
    rw [hterm.said, ← hsaid, Connection.chats, hparsed, List.filter_map, List.map_map]
    rfl

theorem quiet_terminals_show_the_room_hi : ∃ net : Network, ∃ c : Connection,
    net.Quiet id c ∧ ∃ remarks : List Remark,
      Interleaves (remarks.map (Remark.line (ascii "ann")))
          (welcome (ascii "host") ++ roomLines c.serial net.server.server.roomLog)
          (net.clients (id c.serial)).client.stdout ∧
        remarks.filterMap Remark.text =
          net.server.server.roomLog.filterMap (RoomEntry.said c.serial) := by
  obtain ⟨net, net', c, hr, hp, -, -, hserial, hl, hc, hrest, -⟩ := small_network_says_hi
  have hquiet : net'.Quiet id c := by
    have hpeer : net'.clients 0 = net'.clients (id c.serial) := by rw [hserial]; rfl
    rw [hpeer] at hrest
    refine ⟨by simp [Loop.Running, hl], hc, hrest.active, ?_, hrest.flushed, hrest.arrived,
      hrest.written, hrest.delivered, by rw [hrest.parsed]; rfl⟩
    rw [ClientLoop.Running, hrest.listening]
    exact Phase.noConfusion
  exact ⟨net', c, hquiet, quiet_terminals_show_the_room (hr.path hp) hquiet⟩

/-! ### What is said in answer -/

lemma network_path_server {P : Network → NetworkInput → Prop}
    (hp : (networkSystem host names peer).Path P net net') :
    (serverSystem host).Path System.any net.server net'.server := by
  induction hp with
  | refl => exact ReflTransGen.refl
  | tail _ hstep ih =>
    obtain ⟨i, -, hstep, -⟩ := hstep
    cases i with
    | server i => exact ih.snoc trivial hstep.1
    | client n i =>
      rw [hstep.2.1]
      exact ih

/-- Everything that the log of an earlier state held comes before a chat that its user had not
said in that state: whoever answers is logged behind what it has seen. -/
theorem answers_follow_what_was_seen
    (hr : (networkSystem host names peer).Reach System.any net)
    (hp : (networkSystem host names peer).Path System.any net net') {c : Connection}
    (hc : net'.server.server.Knows c) {i : ℕ} {name text : Bytes}
    (hi : net'.server.server.roomLog[i]? = some (.chat c.serial name text))
    (hnew : (net.clients (peer c.serial)).client.conn.spoken.length ≤
      ((net'.server.server.roomLog.take i).filterMap (RoomEntry.said c.serial)).length) :
    net.server.server.roomLog <+: net'.server.server.roomLog.take i := by
  obtain ⟨hserver, -, -⟩ := network_components hr
  have hpath := network_path_server hp
  have hlog := path_log_prefix hserver hpath
  have hsaid : (net.server.server.roomLog.filterMap (RoomEntry.said c.serial)).length ≤
      (net.clients (peer c.serial)).client.conn.spoken.length := by
    rcases (path_keepsNames hserver hpath).names c hc with hborn | ⟨b, hb, hserial, -⟩
    · have hnone : net.server.server.roomLog.filterMap (RoomEntry.said c.serial) = [] :=
        List.filterMap_eq_nil_iff.mpr
          (fun e he => RoomEntry.said_of_serial_ne (reach_unborn hserver hborn e he))
      rw [hnone]
      exact Nat.zero_le _
    · have hold := (log_of_client hr hb).1
      rw [hserial] at hold
      exact hold.length_le
  obtain ⟨later, hlater⟩ := hlog
  have hlen : net.server.server.roomLog.length ≤ i := by
    by_contra hlt
    have hlt : i < net.server.server.roomLog.length := by omega
    -- the chat would be one of those that the earlier log holds
    have hold : net.server.server.roomLog[i]? = some (.chat c.serial name text) := by
      rw [← hi, ← hlater, List.getElem?_append_left hlt]
    have hbefore : net'.server.server.roomLog.take i = net.server.server.roomLog.take i := by
      rw [← hlater, List.take_append_of_le_length (by omega)]
    obtain ⟨hbound, hget⟩ := List.getElem?_eq_some_iff.mp hold
    have hsplit := congrArg (List.filterMap (RoomEntry.said c.serial))
      (List.take_append_drop i net.server.server.roomLog)
    rw [List.drop_eq_getElem_cons hbound, hget, List.filterMap_append,
      List.filterMap_cons_some (b := text) (by simp [RoomEntry.said])] at hsplit
    have hcount := congrArg List.length hsplit
    rw [List.length_append, List.length_cons] at hcount
    rw [hbefore] at hnew
    omega
  rw [← hlater, List.take_append, List.take_of_length_le hlen]
  exact List.prefix_append _ _

theorem answers_follow_what_was_seen_hi : ∃ net net' : Network,
    (networkSystem (ascii "host") (fun _ => ascii "ann") id).Path System.any net net' ∧
      net.server.server.roomLog <+: net'.server.server.roomLog.take 1 ∧
      net'.server.server.roomLog[1]? = some (.chat 0 (ascii "ann") (ascii "hi")) := by
  obtain ⟨net, net', c, hr, hp, hspoken, hlog, hserial, -, hc, -⟩ := small_network_says_hi
  have hi : net'.server.server.roomLog[1]? =
      some (.chat c.serial (ascii "ann") (ascii "hi")) := by
    rw [hlog, hserial]
    rfl
  have hnew : (net.clients (id c.serial)).client.conn.spoken.length ≤
      ((net'.server.server.roomLog.take 1).filterMap (RoomEntry.said c.serial)).length := by
    rw [hserial]
    have hnil : (net.clients (id 0)).client.conn.spoken = [] := hspoken
    rw [hnil]
    exact Nat.zero_le _
  refine ⟨net, net', hp, answers_follow_what_was_seen hr hp (Or.inl hc) hi hnew, ?_⟩
  rw [hlog]
  rfl

end Net

end Chatroom
