import Chatroom.Proofs.ClientHandlers
import Chatroom.Spec.Screen

/-!
# Read boundaries at the client

However the bytes of the server are split into read events, the client shows the frames that
it accepts among them; except that the read call that sees the end of the stream marks the
connection closed before its bytes are parsed, and what they complete is rejected.
-/

namespace Chatroom

/-- What the user of a client sees. -/
def Client.screen (client : Client) : Screen :=
  ⟨client.conn.name, client.stdout⟩

/-- The frames that a client in a given state accepts from a byte stream. -/
def acceptedFrom (st : ConnectionState) (bs : Bytes) : List Message :=
  accepted st (frameCodec.frames bs)

/-- The read handler is called for one read event after the other, as long as it lets the
loop go on. -/
def Client.readEvents (client : Client) : List (List RecvReply) → Bool × Client
  | [] => (true, client)
  | replies :: events =>
    match client.handleReadNetworkMessageEvent replies with
    | (false, client) => (false, client)
    | (true, client) => client.readEvents events

/-- One or more read events that deliver `bs`; the last one sees the end of the stream if
`eof`. -/
def Delivers (bs : Bytes) (eof : Bool) (events : List (List RecvReply)) : Prop :=
  events ≠ [] ∧ events.flatMap recvData = bs ∧
    if eof then ∃ early last, events = early ++ [last] ∧
      (∀ replies ∈ early, recvEnd replies = .wouldBlock) ∧ recvEnd last = .eof
    else ∀ replies ∈ events, recvEnd replies = .wouldBlock

/-- The frames that are accepted from a buffer and the read events that do not see the end
of the stream. -/
def acceptedEarly (st : ConnectionState) (buffer : Bytes) (events : List (List RecvReply)) :
    List Message :=
  match events.filter (fun replies => recvEnd replies = .wouldBlock) with
  | [] => []
  | replies :: early =>
    acceptedFrom st (buffer ++ (replies :: early).flatMap recvData)

/-! ### Accepted frames of a growing stream -/

section Accepted

variable {st : ConnectionState} {bs rest : Bytes} {m : Message}

lemma acceptedFrom_frame (hp : parseFrame bs = .frame m rest) (more : Bytes) :
    acceptedFrom st (bs ++ more) =
      if Accepts st m then m :: acceptedFrom (stateAfter m) (rest ++ more) else [] := by
  rw [acceptedFrom, frameCodec.frames_of_frame (frameCodec.frame_append more hp), accepted]
  rfl

lemma acceptedFrom_illegal (hp : parseFrame bs = .illegal) (more : Bytes) :
    acceptedFrom st (bs ++ more) = [] := by
  have hill : frameCodec.parse (bs ++ more) = .illegal := frameCodec.illegal_append bs more hp
  rw [acceptedFrom, frameCodec.frames_of_not_frame (fun m rest h => by rw [hill] at h; cases h)]
  rfl

lemma acceptedFrom_incomplete (hp : parseFrame bs = .incomplete) : acceptedFrom st bs = [] := by
  have hinc : frameCodec.parse bs = .incomplete := hp
  rw [acceptedFrom, frameCodec.frames_of_not_frame (fun m rest h => by rw [hinc] at h; cases h)]
  rfl

lemma acceptedFrom_prefix (st : ConnectionState) (bs more : Bytes) :
    acceptedFrom st bs <+: acceptedFrom st (bs ++ more) :=
  accepted_prefix st (frameCodec.frames_prefix bs more)

end Accepted

/-! ### The read loop -/

/-- What the read loop makes of a receive buffer `bs` in state `st`: it shows what is
accepted; if it stops, nothing that arrives later would have been accepted, and otherwise
it goes on where a reader of the longer stream would. -/
structure Client.Reads (client : Client) (st : ConnectionState) (bs : Bytes) (r : Bool × Client) :
    Prop where
  screen : r.2.screen = client.screen.displayAll (acceptedFrom st bs)
  stops : r.1 = false → ∀ more, acceptedFrom st (bs ++ more) = acceptedFrom st bs
  goesOn : r.1 = true →
    (r.2.conn.state = .waitingForServerHello ∨ r.2.conn.state = .active) ∧
      acceptedFrom r.2.conn.state r.2.conn.inBuffer = [] ∧
      ∀ more, acceptedFrom st (bs ++ more) =
        acceptedFrom st bs ++ acceptedFrom r.2.conn.state (r.2.conn.inBuffer ++ more)

section ReadLoop

variable {client client' : Client} {st : ConnectionState} {bs rest : Bytes} {m : Message}
  {r : Bool × Client}

lemma Client.Reads.rejected (hp : parseFrame bs = .frame m rest) (hm : ¬Accepts st m)
    (hscreen : client'.screen = client.screen) : client.Reads st bs (false, client') := by
  have hnil : ∀ more, acceptedFrom st (bs ++ more) = [] := by
    intro more
    rw [acceptedFrom_frame hp, if_neg hm]
  have hbs : acceptedFrom st bs = [] := by
    have h := hnil []
    rwa [List.append_nil] at h
  refine ⟨?_, fun _ more => by rw [hnil, hbs], fun hok => absurd hok Bool.false_ne_true⟩
  rw [hbs]
  exact hscreen

lemma Client.Reads.accepted (hp : parseFrame bs = .frame m rest) (hm : Accepts st m)
    (hscreen : client'.screen = client.screen.display m)
    (h : client'.Reads (stateAfter m) rest r) : client.Reads st bs r := by
  have hcons : ∀ more, acceptedFrom st (bs ++ more) =
      m :: acceptedFrom (stateAfter m) (rest ++ more) := by
    intro more
    rw [acceptedFrom_frame hp, if_pos hm]
  have hbs : acceptedFrom st bs = m :: acceptedFrom (stateAfter m) rest := by
    have h := hcons []
    rwa [List.append_nil, List.append_nil] at h
  refine ⟨?_, ?_, ?_⟩
  · rw [hbs, h.screen, hscreen]
    rfl
  · intro hok more
    rw [hcons, hbs, h.stops hok more]
  · intro hok
    obtain ⟨hstate, hnil, hmore⟩ := h.goesOn hok
    refine ⟨hstate, hnil, ?_⟩
    intro more
    rw [hcons, hbs, hmore more]
    rfl

lemma Reaction.goesOn (h : Reaction client m true client') :
    Accepts client.conn.state m ∧ client'.conn.state = .active ∧ stateAfter m = .active ∧
      client'.conn.inBuffer = client.conn.inBuffer ∧
      client'.screen = client.screen.display m := by
  cases h with
  | greet hwait htype =>
    rw [hwait, Screen.display, if_pos htype]
    exact ⟨htype, rfl, if_neg (by rw [htype]; decide), rfl, rfl⟩
  | line hact htype =>
    refine ⟨by rw [hact]; exact Or.inl htype, hact, if_neg (by rw [htype]; decide), rfl, ?_⟩
    rw [Screen.display, if_neg (by rw [htype]; decide), if_neg (by rw [htype]; decide)]
    rfl

lemma Reaction.stops (h : Reaction client m false client') :
    Accepts client.conn.state m ∧ stateAfter m = .closed ∧
        client'.screen = client.screen.display m ∨
      ¬Accepts client.conn.state m ∧ client'.screen = client.screen := by
  cases h with
  | dismissed hact htype hempty =>
    left
    rw [hact, Screen.display, if_neg (by rw [htype]; decide), if_pos htype]
    exact ⟨Or.inr ⟨htype, hempty⟩, if_pos htype, rfl⟩
  | notHello hwait htype =>
    right
    rw [hwait]
    exact ⟨htype, rfl⟩
  | closePayload hact htype hpayload =>
    right
    rw [hact]
    refine ⟨?_, rfl⟩
    rintro (hline | ⟨-, hempty⟩)
    · rw [htype] at hline
      exact absurd hline (by decide)
    · exact hpayload hempty
  | notBroadcast hact htype hbroadcast =>
    right
    rw [hact]
    refine ⟨?_, rfl⟩
    rintro (hline | ⟨hclose, -⟩)
    · exact hbroadcast hline
    · exact htype hclose
  | unexpected hwait hact =>
    right
    refine ⟨?_, rfl⟩
    cases hst : client.conn.state with
    | waitingForServerHello => exact absurd hst hwait
    | active => exact absurd hst hact
    | connecting => exact id
    | sendingClientHello => exact id
    | sendingServerHello => exact id
    | waitingForClientHello => exact id
    | closed => exact id
    | connectionError => exact id

lemma Client.Reads.closed (hscreen : client'.screen = client.screen) :
    client.Reads .closed rest (false, client') := by
  have hnil : ∀ more : Bytes, acceptedFrom .closed more = [] := fun more => accepted_closed _
  refine ⟨?_, fun _ more => by rw [hnil, hnil], fun hok => absurd hok Bool.false_ne_true⟩
  rw [hnil]
  exact hscreen

theorem readMessages_reads
    (hst : client.conn.state = .waitingForServerHello ∨ client.conn.state = .active) :
    client.Reads client.conn.state client.conn.inBuffer client.readMessages := by
  induction hn : client.conn.inBuffer.length using Nat.strong_induction_on generalizing client with
  | h n ih =>
    have hne : client.conn.state ≠ .connectionError := by
      rcases hst with h | h <;> simp [h]
    cases hp : parseFrame client.conn.inBuffer with
    | incomplete =>
      have hopen : decide (client.conn.state ≠ .closed) = true := by
        rcases hst with h | h <;> simp [h]
      rw [Client.readMessages_incomplete hp hne, hopen]
      have hnil : acceptedFrom client.conn.state client.conn.inBuffer = [] :=
        acceptedFrom_incomplete hp
      refine ⟨?_, fun hok => absurd hok.symm Bool.false_ne_true, fun _ => ⟨hst, hnil, ?_⟩⟩
      · rw [hnil]
        rfl
      · intro more
        rw [hnil, List.nil_append]
    | illegal =>
      rw [Client.readMessages_illegal hp]
      have hnil : ∀ more, acceptedFrom client.conn.state (client.conn.inBuffer ++ more) = [] :=
        acceptedFrom_illegal hp
      have hbs : acceptedFrom client.conn.state client.conn.inBuffer = [] := by
        have h := hnil []
        rwa [List.append_nil] at h
      refine ⟨?_, fun _ more => by rw [hnil, hbs], fun hok => absurd hok Bool.false_ne_true⟩
      rw [hbs]
      rfl
    | frame m rest =>
      have hlt : rest.length < n := by
        rw [← hn]
        exact frameCodec.rest_length_lt hp
      rw [Client.readMessages_frame hp hne]
      have hreaction := handleNetworkMessage_reaction (client.withConn (client.conn.cut m rest)) m
      rcases hr : (client.withConn (client.conn.cut m rest)).handleNetworkMessage m
        with ⟨ok, client'⟩
      rw [hr] at hreaction
      cases ok with
      | false =>
        rcases hreaction.stops with ⟨hm, hafter, hscreen⟩ | ⟨hm, hscreen⟩
        · have hclosed : client'.Reads (stateAfter m) rest (false, client') :=
            hafter ▸ Client.Reads.closed rfl
          exact Client.Reads.accepted hp hm hscreen hclosed
        · exact Client.Reads.rejected hp hm hscreen
      | true =>
        obtain ⟨hm, hact, hafter, hbuf, hscreen⟩ := hreaction.goesOn
        have hbuf : client'.conn.inBuffer = rest := hbuf
        have hrest := ih rest.length hlt (Or.inr hact) (by rw [hbuf])
        rw [hact, hbuf, ← hafter] at hrest
        exact Client.Reads.accepted hp hm hscreen hrest

lemma readMessages_closed (hst : client.conn.state = .closed) :
    client.readMessages.1 = false ∧ client.readMessages.2.screen = client.screen := by
  have hne : client.conn.state ≠ .connectionError := by simp [hst]
  cases hp : parseFrame client.conn.inBuffer with
  | incomplete =>
    have hstop : decide (client.conn.state ≠ .closed) = false := by simp [hst]
    rw [Client.readMessages_incomplete hp hne, hstop]
    exact ⟨rfl, rfl⟩
  | illegal =>
    rw [Client.readMessages_illegal hp]
    exact ⟨rfl, rfl⟩
  | frame m rest =>
    rw [Client.readMessages_frame hp hne]
    have hreaction := handleNetworkMessage_reaction (client.withConn (client.conn.cut m rest)) m
    rcases hr : (client.withConn (client.conn.cut m rest)).handleNetworkMessage m
      with ⟨ok, client'⟩
    rw [hr] at hreaction
    have hcut : (client.withConn (client.conn.cut m rest)).conn.state = .closed := hst
    cases ok with
    | false =>
      rcases hreaction.stops with ⟨hm, -, -⟩ | ⟨-, hscreen⟩
      · rw [hcut] at hm
        exact hm.elim
      · exact ⟨rfl, hscreen⟩
    | true =>
      have hm := hreaction.goesOn.1
      rw [hcut] at hm
      exact hm.elim

end ReadLoop

/-! ### Read events -/

section Events

variable {client : Client} {st : ConnectionState} {bs : Bytes}

lemma handleRead_reads
    (hst : client.conn.state = .waitingForServerHello ∨ client.conn.state = .active)
    {replies : List RecvReply} (hend : recvEnd replies = .wouldBlock) :
    client.Reads client.conn.state (client.conn.inBuffer ++ recvData replies)
      (client.handleReadNetworkMessageEvent replies) := by
  obtain ⟨client₁, hclient₁⟩ : ∃ client₁, client₁ =
    (client.call (.recv client.conn.fd)).withConn (client.conn.ingested replies) := ⟨_, rfl⟩
  have hstate : client₁.conn.state = client.conn.state := by
    rw [hclient₁]
    show (recvEnd replies).state client.conn.state = client.conn.state
    rw [hend]
    rfl
  have hbuf : client₁.conn.inBuffer = client.conn.inBuffer ++ recvData replies := by
    rw [hclient₁]
    rfl
  have hscreen : client₁.screen = client.screen := by
    rw [hclient₁]
    rfl
  have hreads : client₁.Reads client₁.conn.state client₁.conn.inBuffer client₁.readMessages :=
    readMessages_reads (by rw [hstate]; exact hst)
  rw [hstate, hbuf] at hreads
  rw [Client.handleRead_eq, if_neg (by simp [hend]), ← hclient₁]
  exact ⟨by rw [hreads.screen, hscreen], hreads.stops, hreads.goesOn⟩

lemma handleRead_eof {replies : List RecvReply} (hend : recvEnd replies = .eof) :
    (client.handleReadNetworkMessageEvent replies).1 = false ∧
      (client.handleReadNetworkMessageEvent replies).2.screen = client.screen := by
  have hclosed : ((client.call (.recv client.conn.fd)).withConn
      (client.conn.ingested replies)).conn.state = .closed := by
    show (recvEnd replies).state client.conn.state = .closed
    rw [hend]
    rfl
  have hfail : recvEnd replies ≠ .failed := by simp [hend]
  rw [Client.handleRead_eq, if_neg hfail]
  exact readMessages_closed hclosed

lemma readEvents_append {early late : List (List RecvReply)}
    (hearly : ∀ replies ∈ early, recvEnd replies = .wouldBlock)
    (hst : client.conn.state = .waitingForServerHello ∨ client.conn.state = .active)
    (hnil : early = [] → acceptedFrom client.conn.state client.conn.inBuffer = [])
    (hlate : ∀ c : Client, (c.readEvents late).2.screen = c.screen) :
    (client.readEvents (early ++ late)).2.screen = client.screen.displayAll
      (acceptedFrom client.conn.state (client.conn.inBuffer ++ early.flatMap recvData)) := by
  induction early generalizing client with
  | nil =>
    rw [List.flatMap_nil, List.append_nil, hnil rfl]
    exact hlate client
  | cons replies early ih =>
    have hreads := handleRead_reads hst (hearly replies List.mem_cons_self)
    rw [List.cons_append, Client.readEvents, List.flatMap_cons, ← List.append_assoc]
    rcases hr : client.handleReadNetworkMessageEvent replies with ⟨ok, client'⟩
    rw [hr] at hreads
    cases ok with
    | false =>
      rw [hreads.stops rfl]
      exact hreads.screen
    | true =>
      obtain ⟨hst', hnil', hmore⟩ := hreads.goesOn rfl
      have hrest := ih (fun r hr => hearly r (List.mem_cons_of_mem replies hr)) hst'
        (fun _ => hnil')
      rw [hmore, Screen.displayAll, List.foldl_append]
      show (client'.readEvents (early ++ late)).2.screen = _
      rw [hrest, hreads.screen]
      rfl

lemma readEvents_eof {last : List RecvReply} (hend : recvEnd last = .eof) (c : Client) :
    (c.readEvents [last]).2.screen = c.screen := by
  obtain ⟨hstop, hscreen⟩ : (c.handleReadNetworkMessageEvent last).1 = false ∧
    (c.handleReadNetworkMessageEvent last).2.screen = c.screen := handleRead_eof hend
  rw [Client.readEvents]
  rcases hr : c.handleReadNetworkMessageEvent last with ⟨ok, client'⟩
  rw [hr] at hstop hscreen
  have hstop : ok = false := hstop
  rw [hstop]
  exact hscreen

theorem readEvents_screen
    (hst : client.conn.state = .waitingForServerHello ∨ client.conn.state = .active) {eof : Bool}
    {events : List (List RecvReply)} (h : Delivers bs eof events) :
    (client.readEvents events).2.screen =
      client.screen.displayAll (acceptedEarly client.conn.state client.conn.inBuffer events) := by
  obtain ⟨hne, -, hend⟩ := h
  cases eof with
  | false =>
    have hend : ∀ replies ∈ events, recvEnd replies = .wouldBlock := hend
    have hfilter : events.filter (fun replies => recvEnd replies = .wouldBlock) = events :=
      List.filter_eq_self.mpr (fun replies hr => decide_eq_true (hend replies hr))
    have hscreen : (client.readEvents (events ++ [])).2.screen = _ :=
      readEvents_append hend hst (fun hnil => absurd hnil hne) (fun _ => rfl)
    rw [List.append_nil] at hscreen
    rw [hscreen, acceptedEarly, hfilter]
    cases events with
    | nil => exact absurd rfl hne
    | cons replies events => rfl
  | true =>
    obtain ⟨early, last, rfl, hearly, hlast⟩ := hend
    have hfilter : (early ++ [last]).filter (fun replies => recvEnd replies = .wouldBlock) =
        early := by
      rw [List.filter_append, List.filter_eq_self.mpr
        (fun replies hr => decide_eq_true (hearly replies hr)), List.filter_singleton]
      simp [hlast]
    rw [acceptedEarly, hfilter]
    cases early with
    | nil => exact readEvents_eof hlast client
    | cons replies early =>
      exact readEvents_append hearly hst (fun hnil => absurd hnil (List.cons_ne_nil _ _))
        (readEvents_eof hlast)

lemma acceptedEarly_isPrefix {eof : Bool} {events : List (List RecvReply)}
    (h : Delivers bs eof events) (st : ConnectionState) (buffer : Bytes) :
    acceptedEarly st buffer events <+: acceptedFrom st (buffer ++ bs) := by
  obtain ⟨hne, rfl, hend⟩ := h
  have hearly : (events.filter (fun replies => recvEnd replies = .wouldBlock)).flatMap recvData <+:
      events.flatMap recvData := by
    cases eof with
    | false =>
      have hend : ∀ replies ∈ events, recvEnd replies = .wouldBlock := hend
      rw [List.filter_eq_self.mpr (fun replies hr => decide_eq_true (hend replies hr))]
    | true =>
      obtain ⟨early, last, rfl, hearly, hlast⟩ := hend
      rw [List.filter_append, List.filter_eq_self.mpr
        (fun replies hr => decide_eq_true (hearly replies hr)), List.filter_singleton,
        List.flatMap_append]
      simp [hlast]
  rw [acceptedEarly]
  obtain ⟨more, hmore⟩ := hearly
  split
  · exact List.nil_prefix
  · rename_i replies early hfilter
    rw [← hmore, hfilter, ← List.append_assoc]
    exact acceptedFrom_prefix _ _ _

end Events

/-- Every frame that the client accepts among its buffer and the delivered bytes is shown. -/
def Client.ShowsAll (client : Client) (bs : Bytes) (events : List (List RecvReply)) : Prop :=
  (client.readEvents events).2.screen =
    client.screen.displayAll (acceptedFrom client.conn.state (client.conn.inBuffer ++ bs))

/-- Every frame that the client accepts among its buffer and the delivered bytes is complete
before the read event that sees the end of the stream. -/
def Client.CompleteEarly (client : Client) (bs : Bytes) (events : List (List RecvReply)) : Prop :=
  acceptedFrom client.conn.state (client.conn.inBuffer ++ bs) =
    acceptedEarly client.conn.state client.conn.inBuffer events

/-- Two ways to split a delivery into read events make the client show the same, and all
that it accepts, exactly if no frame that it accepts is left to the read call that sees the
end of the stream. -/
theorem read_boundaries_do_not_matter_iff {client : Client} {bs : Bytes} {eof : Bool}
    {events events' : List (List RecvReply)}
    (hst : client.conn.state = .waitingForServerHello ∨ client.conn.state = .active)
    (h : Delivers bs eof events) (h' : Delivers bs eof events') :
    ((client.readEvents events).2.screen = (client.readEvents events').2.screen ∧
        client.ShowsAll bs events ∧ client.ShowsAll bs events') ↔
      client.CompleteEarly bs events ∧ client.CompleteEarly bs events' := by
  have hiff : ∀ {events : List (List RecvReply)}, Delivers bs eof events →
      (client.ShowsAll bs events ↔ client.CompleteEarly bs events) := by
    intro events h
    rw [Client.ShowsAll, Client.CompleteEarly, readEvents_screen hst h]
    constructor
    · intro heq
      exact (Screen.eq_of_displayAll_eq (acceptedEarly_isPrefix h _ _) heq).symm
    · intro heq
      rw [heq]
  rw [hiff h, hiff h']
  constructor
  · exact fun hboth => hboth.2
  · rintro ⟨hearly, hearly'⟩
    refine ⟨?_, hearly, hearly'⟩
    rw [readEvents_screen hst h, readEvents_screen hst h', ← hearly, ← hearly']

/-- A client that is in the room. -/
def chattingClient : Client where
  name := ascii "ann"
  conn := { fd := 5, state := .active }
  epollFd := 4
  kernel := { interest := .watching [⟨5, epollIn ||| epollRdhup⟩, ⟨stdinFileno, epollIn⟩] }

/-- The bytes of a CLOSE_CON. -/
def closeBytes : Bytes :=
  encodeFrame (Message.of .closeCon [])

lemma accepted_closeBytes :
    acceptedFrom .active closeBytes = [Message.of .closeCon []] := by
  have hp : parseFrame closeBytes = .frame (Message.of .closeCon []) [] := by decide
  have hframe : acceptedFrom .active (closeBytes ++ []) = _ := acceptedFrom_frame hp []
  rw [List.append_nil, if_pos (by decide)] at hframe
  rw [hframe, acceptedFrom_incomplete rfl]

/-- The dismissal is cut inside its header, and the end of the stream comes by itself. -/
theorem read_boundaries_do_not_matter_iff_dismissed :
    (chattingClient.readEvents
        [[.bytes closeBytes, .error .eagain], [.bytes []]]).2.screen =
      (chattingClient.readEvents
        [[.bytes (closeBytes.take 3)], [.bytes (closeBytes.drop 3)], [.bytes []]]).2.screen := by
  have h : Delivers closeBytes true [[.bytes closeBytes, .error .eagain], [.bytes []]] :=
    ⟨by decide, by decide, [[.bytes closeBytes, .error .eagain]], [.bytes []], rfl, by decide,
      by decide⟩
  have h' : Delivers closeBytes true
      [[.bytes (closeBytes.take 3)], [.bytes (closeBytes.drop 3)], [.bytes []]] :=
    ⟨by decide, by decide, [[.bytes (closeBytes.take 3)], [.bytes (closeBytes.drop 3)]],
      [.bytes []], rfl, by decide, by decide⟩
  have hst : chattingClient.conn.state = .waitingForServerHello ∨
      chattingClient.conn.state = .active := Or.inr rfl
  exact ((read_boundaries_do_not_matter_iff hst h h').mpr ⟨rfl, rfl⟩).1

/-- A client that reads the dismissal and the end of the stream in one call does not tell its
user that the server closed the room. -/
theorem dismissal_with_eof_is_rejected :
    ¬∀ (client : Client) (bs : Bytes) (eof : Bool) (events events' : List (List RecvReply)),
      client.conn.state = .waitingForServerHello ∨ client.conn.state = .active →
        client.clientQuitting = false → Delivers bs eof events → Delivers bs eof events' →
          (client.readEvents events).2.screen = (client.readEvents events').2.screen := by
  intro hclaim
  have hlate : Delivers closeBytes true [[.bytes closeBytes], [.bytes []]] :=
    ⟨by decide, by decide, [[.bytes closeBytes]], [.bytes []], rfl, by decide, by decide⟩
  have htogether : Delivers closeBytes true [[.bytes closeBytes, .bytes []]] :=
    ⟨by decide, by decide, [], [.bytes closeBytes, .bytes []], rfl, by simp, by decide⟩
  have heq := hclaim chattingClient closeBytes true _ _ (Or.inr rfl) rfl htogether hlate
  rw [readEvents_screen (Or.inr rfl) htogether, readEvents_screen (Or.inr rfl) hlate] at heq
  have hnone := Screen.eq_of_displayAll_eq List.nil_prefix heq
  have hframe : acceptedEarly .active [] [[.bytes closeBytes], [.bytes []]] =
    acceptedFrom .active closeBytes := rfl
  have hframe := hnone.trans hframe
  rw [accepted_closeBytes] at hframe
  cases hframe

end Chatroom
