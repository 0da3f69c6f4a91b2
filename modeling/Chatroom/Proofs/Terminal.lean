import Chatroom.Library.Interleaving
import Chatroom.Proofs.Contract
import Chatroom.Proofs.ReadBoundaries

/-!
# The terminal of a client

Two authors write on the terminal of a client: the user, whose lines are echoed, and the
server, whose frames are shown. Whatever the server sends, and in whatever order the events
come, each of the two finds its own lines there in their order; what the user said is what
was queued for the server, and what is shown is what was received.
-/

namespace Chatroom
open Interleaving Transition

/-! ### Remarks and frames -/

/-- What a client writes on its terminal on its own account. -/
inductive Remark
  | said (text : Bytes)
  | tooLong
  | exiting
  deriving DecidableEq

/-- The line of a remark of a client called `name`. -/
def Remark.line (name : Bytes) : Remark → Bytes
  | .said text => formatLine name text
  | .tooLong => ascii "[app] message length too long."
  | .exiting => ascii "[client] exiting."

/-- The text that a remark sends to the room. -/
def Remark.text : Remark → Option Bytes
  | .said text => some text
  | .tooLong => none
  | .exiting => none

/-- A terminal on which nothing is shown yet. -/
def Screen.blank : Screen :=
  ⟨[], []⟩

/-- The frames that a client shows: the greeting, lines of the room, and the dismissal. -/
inductive ShownFrames : ConnectionState → List Message → Prop
  | silent : ShownFrames .waitingForServerHello []
  | greeted (hello : Message) (lines : List Message) (hhello : hello.type = .serverHello)
      (hlines : ∀ m ∈ lines, m.type = .broadcast) : ShownFrames .active (hello :: lines)
  | dismissed (hello bye : Message) (lines : List Message) (hhello : hello.type = .serverHello)
      (hlines : ∀ m ∈ lines, m.type = .broadcast) (hbye : bye.type = .closeCon)
      (hempty : bye.payload = []) : ShownFrames .closed (hello :: lines ++ [bye])

/-- The texts of the CHAT frames that a connection was queued. -/
def Connection.spoken (c : Connection) : List Bytes :=
  (c.queued.filter (fun m => m.type = .chat)).map Message.payload

/-- What is on the terminal of a client called `name` after its own remarks and the frames
that it has shown. -/
structure Client.TerminalIs (name : Bytes) (remarks : List Remark) (shown : List Message)
    (client : Client) : Prop where
  terminal : Interleaves (remarks.map (Remark.line name)) (Screen.blank.displayAll shown).lines
    client.stdout
  host : client.conn.name = (Screen.blank.displayAll shown).name
  course : ∃ st, ShownFrames st shown
  heard : shown <+: frameCodec.frames client.conn.received
  said : remarks.filterMap Remark.text = client.conn.spoken
  last : .exiting ∈ remarks → ∃ before earlier, remarks = before ++ [.exiting] ∧
    .exiting ∉ before ∧ client.stdout = earlier ++ [ascii "[client] exiting."]

/-- A client whose loop goes on: nothing that was received waits. -/
structure Client.Listening (remarks : List Remark) (shown : List Message) (client : Client) :
    Prop where
  all : client.conn.parsed = shown
  drained : parseFrame client.conn.inBuffer = .incomplete
  course : shown = [] ∨ ShownFrames .active shown
  staying : client.clientQuitting = false → .exiting ∉ remarks

section Screens

variable {s t : Screen} {ms : List Message} {m : Message} {st : ConnectionState}

lemma Screen.displayAll_append (s : Screen) (ms ns : List Message) :
    s.displayAll (ms ++ ns) = (s.displayAll ms).displayAll ns :=
  List.foldl_append

lemma Screen.lines_displayAll (s : Screen) (ms : List Message) :
    (s.displayAll ms).lines = s.lines ++ (Screen.blank.displayAll ms).lines := by
  have hone : ∀ (s : Screen) (m : Message),
      (s.display m).lines = s.lines ++ (Screen.blank.display m).lines := by
    intro s m
    unfold display
    split_ifs <;> simp [Screen.blank]
  have hany : ∀ (ms : List Message) (s t : Screen), s.lines = t.lines →
      (s.displayAll ms).lines = (t.displayAll ms).lines := by
    intro ms
    induction ms with
    | nil => exact fun _ _ h => h
    | cons m ms ih =>
      intro s t h
      apply ih
      rw [hone, hone t, h]
  induction ms using List.reverseRecOn with
  | nil => exact (List.append_nil _).symm
  | append_singleton ms m ih =>
    rw [Screen.displayAll_append, Screen.displayAll_append]
    show ((s.displayAll ms).display m).lines = s.lines ++ ((blank.displayAll ms).display m).lines
    rw [hone, hone (blank.displayAll ms), ih, List.append_assoc]

lemma Screen.name_displayAll (h : s.name = t.name) (ms : List Message) :
    (s.displayAll ms).name = (t.displayAll ms).name := by
  induction ms generalizing s t with
  | nil => exact h
  | cons m ms ih =>
    apply ih
    unfold display
    split_ifs
    · rfl
    · exact h
    · exact h

lemma ShownFrames.snoc (h : ShownFrames st ms) (hm : Accepts st m) :
    ShownFrames (stateAfter m) (ms ++ [m]) := by
  cases h with
  | silent =>
    have htype : m.type = .serverHello := hm
    have hafter : stateAfter m = .active := if_neg (by rw [htype]; decide)
    rw [hafter]
    exact .greeted m [] htype (by simp)
  | greeted hello lines hhello hlines =>
    rcases hm with htype | ⟨htype, hempty⟩
    · have hafter : stateAfter m = .active := if_neg (by rw [htype]; decide)
      rw [hafter]
      exact .greeted hello (lines ++ [m]) hhello
        (List.forall_mem_append.mpr ⟨hlines, List.forall_mem_singleton.mpr htype⟩)
    · have hafter : stateAfter m = .closed := if_pos htype
      rw [hafter]
      exact .dismissed hello m lines hhello hlines htype hempty
  | dismissed hello bye lines hhello hlines hbye hempty => exact hm.elim

end Screens

/-! ### Reading -/

/-- What the read loop shows of a receive buffer: the frames at its front, and all of them if
it goes on. -/
structure Client.ShowsFrames (client : Client) (ms : List Message) (r : Bool × Client) : Prop where
  screen : r.2.screen = client.screen.displayAll ms
  inOrder : ms <+: frameCodec.frames client.conn.inBuffer
  course : ∀ shown, ShownFrames client.conn.state shown → ∃ st, ShownFrames st (shown ++ ms)
  goesOn : r.1 = true → r.2.conn.parsed = client.conn.parsed ++ ms ∧
    parseFrame r.2.conn.inBuffer = .incomplete ∧
    ∀ shown, ShownFrames client.conn.state shown →
      shown ++ ms = [] ∨ ShownFrames .active (shown ++ ms)

section Reading

variable {client client' : Client} {m : Message} {rest : Bytes} {ms : List Message} {ok : Bool}

lemma Reaction.streams (h : Reaction client m ok client') :
    client'.conn.received = client.conn.received ∧ client'.conn.parsed = client.conn.parsed ∧
      client'.conn.sent = client.conn.sent ∧ client'.name = client.name := by
  cases h <;> exact ⟨rfl, rfl, rfl, rfl⟩

lemma Client.ShowsFrames.silent (hscreen : client'.screen = client.screen) :
    client.ShowsFrames [] (false, client') where
  screen := hscreen
  inOrder := List.nil_prefix
  course := fun shown h => ⟨_, by rw [List.append_nil]; exact h⟩
  goesOn := fun hok => absurd hok Bool.false_ne_true

lemma Client.ShowsFrames.cons {r : Bool × Client}
    (hp : parseFrame client.conn.inBuffer = .frame m rest)
    (hm : Accepts client.conn.state m) (hscreen : client'.screen = client.screen.display m)
    (hparsed : client'.conn.parsed = client.conn.parsed ++ [m])
    (hbuf : client'.conn.inBuffer = rest) (hst : client'.conn.state = stateAfter m)
    (h : client'.ShowsFrames ms r) : client.ShowsFrames (m :: ms) r where
  screen := by
    rw [h.screen, hscreen]
    rfl
  inOrder := by
    have hframes : frameCodec.frames client.conn.inBuffer = m :: frameCodec.frames rest :=
      frameCodec.frames_of_frame hp
    rw [hframes, ← hbuf]
    exact (List.prefix_cons_inj m).mpr h.inOrder
  course := by
    intro shown hcourse
    have hnext := hcourse.snoc hm
    rw [← hst] at hnext
    obtain ⟨st, hall⟩ := h.course _ hnext
    rw [List.append_assoc] at hall
    exact ⟨st, hall⟩
  goesOn := by
    intro hok
    obtain ⟨hall, hinc, hactive⟩ := h.goesOn hok
    refine ⟨?_, hinc, ?_⟩
    · rw [hall, hparsed, List.append_assoc]
      rfl
    · intro shown hcourse
      have hnext := hcourse.snoc hm
      rw [← hst] at hnext
      have hboth := hactive _ hnext
      rw [List.append_assoc] at hboth
      exact hboth

theorem clientReadMessages_showsFrames
    (hst : client.conn.state = .waitingForServerHello ∨ client.conn.state = .active) :
    ∃ ms, client.ShowsFrames ms client.readMessages := by
  induction hn : client.conn.inBuffer.length using Nat.strong_induction_on generalizing client with
  | h n ih =>
    have hne : client.conn.state ≠ .connectionError := by
      rcases hst with h | h <;> simp [h]
    cases hp : parseFrame client.conn.inBuffer with
    | incomplete =>
      rw [Client.readMessages_incomplete hp hne]
      refine ⟨[], rfl, List.nil_prefix, ?_, ?_⟩
      · intro shown hcourse
        exact ⟨_, by rw [List.append_nil]; exact hcourse⟩
      · intro _
        refine ⟨(List.append_nil _).symm, hp, ?_⟩
        intro shown hcourse
        rw [List.append_nil]
        rcases hst with h | h
        · rw [h] at hcourse
          cases hcourse
          exact Or.inl rfl
        · rw [h] at hcourse
          exact Or.inr hcourse
    | illegal =>
      rw [Client.readMessages_illegal hp]
      exact ⟨[], Client.ShowsFrames.silent rfl⟩
    | frame m rest =>
      have hlt : rest.length < n := by
        rw [← hn]
        exact frameCodec.rest_length_lt hp
      rw [Client.readMessages_frame hp hne]
      have hreaction := handleNetworkMessage_reaction (client.withConn (client.conn.cut m rest)) m
      rcases hr : (client.withConn (client.conn.cut m rest)).handleNetworkMessage m
        with ⟨ok, client'⟩
      rw [hr] at hreaction
      obtain ⟨-, hparsed, -⟩ := hreaction.streams
      have hparsed : client'.conn.parsed = client.conn.parsed ++ [m] := hparsed
      cases ok with
      | true =>
        obtain ⟨hm, hact, hafter, hbuf, hscreen⟩ := hreaction.goesOn
        have hbuf : client'.conn.inBuffer = rest := hbuf
        obtain ⟨ms, hms⟩ := ih rest.length hlt (Or.inr hact) (by rw [hbuf])
        exact ⟨m :: ms, Client.ShowsFrames.cons hp hm hscreen hparsed hbuf
          (hact.trans hafter.symm) hms⟩
      | false =>
        rcases hreaction.stops with ⟨hm, hafter, hscreen⟩ | ⟨-, hscreen⟩
        · refine ⟨[m], ⟨hscreen, ?_, ?_, fun hok => absurd hok Bool.false_ne_true⟩⟩
          · have hframes : frameCodec.frames client.conn.inBuffer = m :: frameCodec.frames rest :=
              frameCodec.frames_of_frame hp
            rw [hframes]
            exact (List.prefix_cons_inj m).mpr List.nil_prefix
          · exact fun shown hcourse => ⟨_, hcourse.snoc hm⟩
        · exact ⟨[], Client.ShowsFrames.silent hscreen⟩

lemma clientReadMessages_frame (hst : client.conn.state ≠ .connectionError) :
    client.readMessages.2.name = client.name ∧
      client.readMessages.2.conn.received = client.conn.received ∧
      client.readMessages.2.conn.sent = client.conn.sent := by
  induction hn : client.conn.inBuffer.length using Nat.strong_induction_on generalizing client with
  | h n ih =>
    cases hp : parseFrame client.conn.inBuffer with
    | incomplete =>
      rw [Client.readMessages_incomplete hp hst]
      exact ⟨rfl, rfl, rfl⟩
    | illegal =>
      rw [Client.readMessages_illegal hp]
      exact ⟨rfl, rfl, rfl⟩
    | frame m rest =>
      have hlt : rest.length < n := by
        rw [← hn]
        exact frameCodec.rest_length_lt hp
      rw [Client.readMessages_frame hp hst]
      have hreaction := handleNetworkMessage_reaction (client.withConn (client.conn.cut m rest)) m
      rcases hr : (client.withConn (client.conn.cut m rest)).handleNetworkMessage m
        with ⟨ok, client'⟩
      rw [hr] at hreaction
      obtain ⟨hrecv, -, hsent, hname⟩ := hreaction.streams
      have hrecv : client'.conn.received = client.conn.received := hrecv
      have hsent : client'.conn.sent = client.conn.sent := hsent
      have hname : client'.name = client.name := hname
      cases ok with
      | true =>
        obtain ⟨-, hact, -, hbuf, -⟩ := hreaction.goesOn
        have hbuf : client'.conn.inBuffer = rest := hbuf
        have hopen : client'.conn.state ≠ .connectionError := by
          rw [show client'.conn.state = .active from hact]
          decide
        obtain ⟨hname', hrecv', hsent'⟩ := ih rest.length hlt hopen (by rw [hbuf])
        exact ⟨hname'.trans hname, hrecv'.trans hrecv, hsent'.trans hsent⟩
      | false => exact ⟨hname, hrecv, hsent⟩

end Reading

/-! ### Events -/

/-- The names and the incoming stream stay as they are. -/
structure Client.SameTalk (client client' : Client) : Prop where
  name : client'.name = client.name
  host : client'.conn.name = client.conn.name
  received : client'.conn.received = client.conn.received
  parsed : client'.conn.parsed = client.conn.parsed
  inBuffer : client'.conn.inBuffer = client.conn.inBuffer

/-- Nothing is written or said. -/
structure Client.Silent (client client' : Client) : Prop extends client.SameTalk client' where
  stdout : client'.stdout = client.stdout
  spoken : client'.conn.spoken = client.conn.spoken
  quitting : client'.clientQuitting = client.clientQuitting

/-- What an event adds to the terminal of a client. -/
inductive TerminalStep (client : Client) : Bool → Client → Prop
  | silent {ok : Bool} {client' : Client} (hsilent : client.Silent client') :
      TerminalStep client ok client'
  | remark {ok : Bool} {client' : Client} (remark : Remark) (hopen : client.clientQuitting = false)
      (hsame : client.SameTalk client')
      (hstdout : client'.stdout = client.stdout ++ [remark.line client.name])
      (hspoken : client'.conn.spoken = client.conn.spoken ++ remark.text.toList)
      (hquit : remark = .exiting → ok = true → client'.clientQuitting = true) :
      TerminalStep client ok client'
  | read {ok : Bool} {client' reader : Client} (data : Bytes) (ms : List Message)
      (hopen : client.clientQuitting = false)
      (hst : client.conn.state = .waitingForServerHello ∨ client.conn.state = .active)
      (hreader : reader.conn.inBuffer = client.conn.inBuffer ++ data ∧
        reader.conn.parsed = client.conn.parsed ∧ reader.screen = client.screen)
      (hstate : ms = [] ∧ ok = false ∨ reader.conn.state = client.conn.state)
      (hrecites : reader.ShowsFrames ms (ok, client')) (hname : client'.name = client.name)
      (hrecv : client'.conn.received = client.conn.received ++ data)
      (hspoken : client'.conn.spoken = client.conn.spoken)
      (hquit : client'.clientQuitting = client.clientQuitting) : TerminalStep client ok client'

section Events

variable {client client' : Client} {name : Bytes} {ok : Bool}

lemma spoken_enqueue (c : Connection) (m : Message) :
    (c.enqueue m).spoken = c.spoken ++ if m.type = .chat then [m.payload] else [] := by
  by_cases hm : m.type = .chat
  · simp [Connection.spoken, Connection.enqueue, hm]
  · simp [Connection.spoken, Connection.enqueue, hm]

lemma spoken_of_queued {c c' : Connection} (h : c'.queued = c.queued) : c'.spoken = c.spoken := by
  rw [Connection.spoken, h]
  rfl

lemma Client.Silent.fdMod {events : EventMask} (h : client.Silent client') :
    client.Silent (client'.fdMod events).2 :=
  ⟨⟨h.name, h.host, h.received, h.parsed, h.inBuffer⟩, h.stdout, h.spoken, h.quitting⟩

lemma TerminalStep.fdMod (events : EventMask)
    (h : TerminalStep client (client'.fdMod events).1 client') :
    TerminalStep client (client'.fdMod events).1 (client'.fdMod events).2 := by
  cases h with
  | silent h => exact .silent h.fdMod
  | remark remark hopen hsame hstdout hspoken hquit =>
    exact .remark remark hopen
      ⟨hsame.name, hsame.host, hsame.received, hsame.parsed, hsame.inBuffer⟩ hstdout hspoken hquit
  | read data ms hopen hst hreader hstate hrecites hname hrecv hspoken hquit =>
    exact .read data ms hopen hst hreader hstate ⟨hrecites.screen, hrecites.inOrder,
      hrecites.course, hrecites.goesOn⟩ hname hrecv hspoken hquit

theorem clientHandleRead_terminalStep (hopen : client.clientQuitting = false)
    (hst : client.conn.state = .waitingForServerHello ∨ client.conn.state = .active)
    (replies : List RecvReply) :
    TerminalStep client (client.handleReadNetworkMessageEvent replies).1
      (client.handleReadNetworkMessageEvent replies).2 := by
  obtain ⟨reader, hreader⟩ : ∃ reader, reader =
    (client.call (.recv client.conn.fd)).withConn (client.conn.ingested replies) := ⟨_, rfl⟩
  have hfields : reader.conn.inBuffer = client.conn.inBuffer ++ recvData replies ∧
      reader.conn.parsed = client.conn.parsed ∧ reader.screen = client.screen := by
    rw [hreader]
    exact ⟨rfl, rfl, rfl⟩
  obtain ⟨hname, hrecv, hqueued, hquit, hstate⟩ : reader.name = client.name ∧
      reader.conn.received = client.conn.received ++ recvData replies ∧
      reader.conn.queued = client.conn.queued ∧ reader.clientQuitting = client.clientQuitting ∧
      reader.conn.state = (recvEnd replies).state client.conn.state := by
    rw [hreader]
    exact ⟨rfl, rfl, rfl, rfl, rfl⟩
  rw [Client.handleRead_eq, ← hreader]
  by_cases hfail : recvEnd replies = .failed
  · rw [if_pos hfail]
    exact .read (recvData replies) [] hopen hst hfields (Or.inl ⟨rfl, rfl⟩)
      (Client.ShowsFrames.silent rfl) hname hrecv (spoken_of_queued hqueued) hquit
  · rw [if_neg hfail]
    have hne : reader.conn.state ≠ .connectionError := by
      rw [hstate]
      cases hend : recvEnd replies with
      | failed => exact absurd hend hfail
      | eof => exact ConnectionState.noConfusion
      | wouldBlock => rcases hst with h | h <;> simp [RecvEnd.state, h]
    obtain ⟨hover, -⟩ := clientReadMessages_readLoopKeeps hne
    obtain ⟨hname', hrecv', -⟩ := clientReadMessages_frame hne
    have hsaid := spoken_of_queued (hover.queued.trans hqueued)
    have hquit' := hover.quitting.trans hquit
    by_cases heof : recvEnd replies = .eof
    · -- the read call that sees the end of the stream shows nothing
      have hclosed : reader.conn.state = .closed := by
        rw [hstate, heof]
        rfl
      obtain ⟨hstop, hscreen⟩ := readMessages_closed hclosed
      rw [hstop]
      exact .read (recvData replies) [] hopen hst hfields (Or.inl ⟨rfl, rfl⟩)
        (Client.ShowsFrames.silent hscreen) (hname'.trans hname) (hrecv'.trans hrecv) hsaid hquit'
    · have hsame : reader.conn.state = client.conn.state := by
        rw [hstate]
        cases hend : recvEnd replies with
        | failed => exact absurd hend hfail
        | eof => exact absurd hend heof
        | wouldBlock => rfl
      obtain ⟨ms, hms⟩ := clientReadMessages_showsFrames (hsame ▸ hst)
      exact .read (recvData replies) ms hopen hst hfields (Or.inr hsame) hms (hname'.trans hname)
        (hrecv'.trans hrecv) hsaid hquit'

lemma connectionFlushOutBuffer_incoming (c : Connection) (replies : List SendReply) :
    (connectionFlushOutBuffer c replies).2.name = c.name ∧
      (connectionFlushOutBuffer c replies).2.received = c.received ∧
      (connectionFlushOutBuffer c replies).2.queued = c.queued := by
  rw [connectionFlushOutBuffer_eq]
  split_ifs <;> exact ⟨rfl, rfl, rfl⟩

theorem clientHandleSend_terminalStep (replies : List SendReply) :
    TerminalStep client (client.handleSendNetworkMessageEvent replies).1
      (client.handleSendNetworkMessageEvent replies).2 := by
  obtain ⟨hname, hrecv, hqueued⟩ := connectionFlushOutBuffer_incoming client.conn replies
  obtain ⟨-, hparsed, -, hbuf⟩ := connectionFlushOutBuffer_frame client.conn replies
  have hconn : (client.call (.send client.conn.fd)).conn = client.conn := rfl
  rw [Client.handleSendNetworkMessageEvent, hconn]
  rcases hr : connectionFlushOutBuffer client.conn replies with ⟨ok, conn⟩
  simp only [hr] at hname hrecv hqueued hparsed hbuf ⊢
  have hsilent : ∀ client' : Client, client'.name = client.name →
      client'.conn.name = conn.name → client'.conn.received = conn.received →
      client'.conn.parsed = conn.parsed → client'.conn.inBuffer = conn.inBuffer →
      client'.conn.queued = conn.queued → client'.stdout = client.stdout →
      client'.clientQuitting = client.clientQuitting → client.Silent client' := by
    intro client' h₁ h₂ h₃ h₄ h₅ h₆ h₇ h₈
    exact ⟨⟨h₁, h₂.trans hname, h₃.trans hrecv, h₄.trans hparsed, h₅.trans hbuf⟩, h₇,
      spoken_of_queued (h₆.trans hqueued), h₈⟩
  cases ok with
  | false => exact .silent (hsilent _ rfl rfl rfl rfl rfl rfl rfl rfl)
  | true =>
    dsimp only
    split_ifs with hout hquit hhello
    · exact .silent (hsilent _ rfl rfl rfl rfl rfl rfl rfl rfl)
    · exact .silent (hsilent _ rfl rfl rfl rfl rfl rfl rfl rfl)
    · refine .silent (Client.Silent.fdMod ?_)
      exact hsilent _ rfl rfl rfl rfl rfl rfl rfl rfl
    · refine .silent (Client.Silent.fdMod ?_)
      exact hsilent _ rfl rfl rfl rfl rfl rfl rfl rfl

lemma clientIntroduction_silent {before : Client} (h : before.Silent client) (events : EventMask) :
    before.Silent (match client.queueClientHello with
      | (false, client) => (false, client)
      | (true, client) => client.fdMod events).2 := by
  rw [Client.queueClientHello, protocolQueueMessage_eq]
  split_ifs with hlegal
  · have hhello : (Message.of .clientHello client.name).type ≠ .chat :=
      show MessageType.clientHello ≠ MessageType.chat by decide
    have hspoken : (client.conn.enqueue (Message.of .clientHello client.name)).spoken =
        before.conn.spoken := by
      rw [spoken_enqueue, if_neg hhello, List.append_nil, h.spoken]
    exact ⟨⟨h.name, h.host, h.received, h.parsed, h.inBuffer⟩, h.stdout, hspoken, h.quitting⟩
  · exact ⟨⟨h.name, h.host, h.received, h.parsed, h.inBuffer⟩, h.stdout, h.spoken, h.quitting⟩

theorem clientConnectionSuccess_silent (reply : ConnectReply) :
    client.Silent (client.handleConnectionSuccessEvent reply).2 := by
  cases reply with
  | failed => exact ⟨⟨rfl, rfl, rfl, rfl, rfl⟩, rfl, rfl, rfl⟩
  | established =>
    have hconnected : client.Silent
        (client.withConn { client.conn with state := .sendingClientHello }) :=
      ⟨⟨rfl, rfl, rfl, rfl, rfl⟩, rfl, rfl, rfl⟩
    exact clientIntroduction_silent hconnected _

theorem clientHandleStdin_terminalStep (hopen : client.clientQuitting = false)
    (line : Option Bytes) :
    TerminalStep client (client.handleReadStdinEvent line).1
      (client.handleReadStdinEvent line).2 := by
  have hsilent : ∀ ok : Bool, TerminalStep client ok client := fun ok =>
    .silent ⟨⟨rfl, rfl, rfl, rfl, rfl⟩, rfl, rfl, rfl⟩
  cases line with
  | none => exact hsilent false
  | some line =>
    rw [Client.handleReadStdinEvent]
    split_ifs with hnil hcommand htcp hactive hlong
    · exact hsilent true
    · have hlegal : protocolPayloadLengthIsLegal (Message.of .closeCon []).payload.length := by
        decide
      rw [Client.handleQuitCommand, protocolQueueMessage_eq, if_pos hlegal]
      apply TerminalStep.fdMod
      refine .remark .exiting hopen ⟨rfl, rfl, rfl, rfl, rfl⟩ rfl ?_ (fun _ _ => rfl)
      exact spoken_enqueue client.conn (Message.of .closeCon [])
    · exact .remark .exiting hopen ⟨rfl, rfl, rfl, rfl, rfl⟩ rfl (List.append_nil _).symm
        (fun _ hok => absurd hok Bool.false_ne_true)
    · exact hsilent true
    · dsimp only
      have hlegal : protocolPayloadLengthIsLegal (Message.of .chat line).payload.length := hlong
      rw [protocolQueueMessage_eq, if_pos hlegal]
      apply TerminalStep.fdMod
      exact .remark (.said line) hopen ⟨rfl, rfl, rfl, rfl, rfl⟩ rfl
        (spoken_enqueue client.conn (Message.of .chat line)) (fun h => by cases h)
    · exact .remark .tooLong hopen ⟨rfl, rfl, rfl, rfl, rfl⟩ rfl (List.append_nil _).symm
        (fun h => by cases h)

theorem clientHandleEvent_terminalStep (client : Client) (e : EpollEvent) (r : ClientReplies) :
    TerminalStep (client.tuned r.ctl) (client.handleEvent e r).1 (client.handleEvent e r).2 := by
  have hsilent : TerminalStep (client.tuned r.ctl) true (client.tuned r.ctl) :=
    .silent ⟨⟨rfl, rfl, rfl, rfl, rfl⟩, rfl, rfl, rfl⟩
  rw [clientHandleEvent_eq]
  split_ifs with hskip hconnect hsend hread hstdin
  · exact hsilent
  · exact .silent (clientConnectionSuccess_silent r.connect)
  · exact clientHandleSend_terminalStep r.sends
  · rw [Client.eventIsReadNetworkMessage, Bool.and_eq_true] at hread
    have hopen : (client.tuned r.ctl).clientQuitting = false := by
      show client.clientQuitting = false
      simpa using hread.1
    exact clientHandleRead_terminalStep hopen (of_decide_eq_true hread.2).2.1 r.recvs
  · rw [Client.eventIsReadStdin, Bool.and_eq_true] at hstdin
    have hopen : (client.tuned r.ctl).clientQuitting = false := by
      show client.clientQuitting = false
      simpa using hstdin.1
    exact clientHandleStdin_terminalStep hopen r.line
  · exact hsilent

end Events

/-! ### Runs -/

section Runs

variable {name : Bytes} {client client' : Client} {remarks : List Remark} {shown : List Message}
  {ok : Bool}

lemma frames_of_received {c : Connection} (h : c.Stream) (data : Bytes) :
    frameCodec.frames (c.received ++ data) =
      c.parsed ++ frameCodec.frames (c.inBuffer ++ data) := by
  rw [h.received, List.append_assoc]
  exact frameCodec.frames_encodeAll h.parsed (c.inBuffer ++ data)

lemma Client.TerminalIs.silent (h : client.TerminalIs name remarks shown)
    (hsilent : client.Silent client') : client'.TerminalIs name remarks shown where
  terminal := hsilent.stdout ▸ h.terminal
  host := hsilent.host.trans h.host
  course := h.course
  heard := hsilent.received ▸ h.heard
  said := h.said.trans hsilent.spoken.symm
  last := hsilent.stdout ▸ h.last

lemma Client.Listening.silent (h : client.Listening remarks shown)
    (hsilent : client.Silent client') : client'.Listening remarks shown where
  all := hsilent.parsed.trans h.all
  drained := hsilent.inBuffer ▸ h.drained
  course := h.course
  staying := hsilent.quitting ▸ h.staying

lemma Client.TerminalIs.remark (h : client.TerminalIs name remarks shown)
    (hname : client.name = name)
    (hstaying : .exiting ∉ remarks) (hsame : client.SameTalk client') {remark : Remark}
    (hstdout : client'.stdout = client.stdout ++ [remark.line client.name])
    (hspoken : client'.conn.spoken = client.conn.spoken ++ remark.text.toList) :
    client'.TerminalIs name (remarks ++ [remark]) shown where
  terminal := by
    rw [hstdout, List.map_append, hname]
    exact h.terminal.left (remark.line name)
  host := hsame.host.trans h.host
  course := h.course
  heard := hsame.received ▸ h.heard
  said := by
    rw [List.filterMap_append, h.said, hspoken]
    cases remark <;> rfl
  last := by
    intro hexit
    have hlast : Remark.exiting = remark :=
      List.mem_singleton.mp ((List.mem_append.mp hexit).resolve_left hstaying)
    subst hlast
    exact ⟨remarks, client.stdout, rfl, hstaying, hstdout⟩

lemma Client.TerminalIs.read (h : client.TerminalIs name remarks shown)
    (hstream : client.conn.Stream)
    (hall : client.conn.parsed = shown) (hstaying : .exiting ∉ remarks) {data : Bytes}
    {ms : List Message} (hscreen : client'.screen = client.screen.displayAll ms)
    (hms : ms <+: frameCodec.frames (client.conn.inBuffer ++ data))
    (hcourse : ∃ st, ShownFrames st (shown ++ ms))
    (hrecv : client'.conn.received = client.conn.received ++ data)
    (hspoken : client'.conn.spoken = client.conn.spoken) :
    client'.TerminalIs name remarks (shown ++ ms) where
  terminal := by
    have hlines : client'.stdout = (client.screen.displayAll ms).lines :=
      congrArg Screen.lines hscreen
    have hmore := h.terminal.append_right (Screen.blank.displayAll ms).lines
    rw [hlines, Screen.displayAll_append, Screen.lines_displayAll (Screen.blank.displayAll shown),
      Screen.lines_displayAll client.screen]
    exact hmore
  host := by
    have hname : client'.conn.name = (client.screen.displayAll ms).name :=
      congrArg Screen.name hscreen
    rw [hname, Screen.displayAll_append]
    exact Screen.name_displayAll h.host ms
  course := hcourse
  heard := by
    rw [hrecv, frames_of_received hstream, hall]
    exact (List.prefix_append_right_inj shown).mpr hms
  said := h.said.trans hspoken.symm
  last := fun hexit => absurd hexit hstaying

theorem TerminalStep.terminalIs (h : client.TerminalIs name remarks shown)
    (hlisten : client.Listening remarks shown) (horder : client.InOrder name)
    (hu : TerminalStep client ok client') :
    ∃ remarks' shown', client'.TerminalIs name remarks' shown' ∧
      (ok = true → client'.Listening remarks' shown') := by
  cases hu with
  | silent hsilent =>
    exact ⟨remarks, shown, h.silent hsilent, fun _ => hlisten.silent hsilent⟩
  | remark remark hopen hsame hstdout hspoken hquit =>
    have hstaying := hlisten.staying hopen
    refine ⟨remarks ++ [remark], shown,
      h.remark horder.named hstaying hsame hstdout hspoken, fun hok => ?_⟩
    refine ⟨hsame.parsed.trans hlisten.all, hsame.inBuffer ▸ hlisten.drained, hlisten.course, ?_⟩
    intro hopen' hexit
    have hlast : Remark.exiting = remark :=
      List.mem_singleton.mp ((List.mem_append.mp hexit).resolve_left hstaying)
    rw [hquit hlast.symm hok] at hopen'
    cases hopen'
  | @read reader data ms hopen hst hreader hstate hrecites hname hrecv hspoken hquit =>
    obtain ⟨hbuf, hparsed, hscreen⟩ := hreader
    have hstaying := hlisten.staying hopen
    -- the connection state says which part of its course the client has shown
    have hcourse : ShownFrames client.conn.state shown := by
      rcases hst with hwait | hactive
      · obtain ⟨hnil, -⟩ := horder.phase.of_introduced (Or.inr hwait)
        rw [hwait, ← hlisten.all, hnil]
        exact .silent
      · obtain ⟨⟨hello, lines, hcons⟩, -⟩ := horder.phase.of_active hactive
        rw [hactive]
        refine hlisten.course.resolve_left ?_
        rw [← hlisten.all, hcons]
        exact List.cons_ne_nil _ _
    have hnext : ∃ st, ShownFrames st (shown ++ ms) := by
      rcases hstate with ⟨hnil, -⟩ | hsame
      · exact ⟨_, by rw [hnil, List.append_nil]; exact hcourse⟩
      · exact hrecites.course shown (by rw [hsame]; exact hcourse)
    have hms := hrecites.inOrder
    rw [hbuf] at hms
    have hscreen' := hrecites.screen
    rw [hscreen] at hscreen'
    refine ⟨remarks, shown ++ ms, h.read horder.stream hlisten.all hstaying hscreen' hms hnext
      hrecv hspoken, fun hok => ?_⟩
    obtain ⟨hall, hinc, hactive⟩ := hrecites.goesOn hok
    have hsame : reader.conn.state = client.conn.state := by
      refine hstate.resolve_left ?_
      rintro ⟨-, hstop⟩
      rw [hok] at hstop
      cases hstop
    exact ⟨by rw [hall, hparsed, hlisten.all], hinc, hactive shown (by rw [hsame]; exact hcourse),
      fun _ => hstaying⟩

lemma startedClient_terminalIs (name : Bytes) (fd epollFd : Fd) (immediately : Bool)
    (ctl : List (Option Errno)) :
    (startedClient (createdClient name fd epollFd immediately ctl)).client.TerminalIs name [] [] ∧
      (startedClient (createdClient name fd epollFd immediately ctl)).client.Listening [] [] := by
  have hcreated : (createdClient name fd epollFd immediately ctl).TerminalIs name [] [] :=
    ⟨.nil, rfl, ⟨_, .silent⟩, List.nil_prefix, rfl, fun h => absurd h List.not_mem_nil⟩
  have hlisten : (createdClient name fd epollFd immediately ctl).Listening [] [] :=
    ⟨rfl, rfl, Or.inl rfl, fun _ => List.not_mem_nil⟩
  have hsame : (createdClient name fd epollFd immediately ctl).Silent
      (createdClient name fd epollFd immediately ctl) :=
    ⟨⟨rfl, rfl, rfl, rfl, rfl⟩, rfl, rfl, rfl⟩
  have hsilent : (createdClient name fd epollFd immediately ctl).Silent
      (createdClient name fd epollFd immediately ctl).enterLoop.2 := by
    rw [Client.enterLoop]
    by_cases hhello : (createdClient name fd epollFd immediately ctl).conn.state =
        .sendingClientHello ∧ (createdClient name fd epollFd immediately ctl).conn.outBuffer = []
    · rw [if_pos hhello]
      exact clientIntroduction_silent hsame _
    · rw [if_neg hhello]
      exact hsame
  exact ⟨hcreated.silent hsilent, hlisten.silent hsilent⟩

lemma clientReach_terminalIs {l : ClientLoop} (hr : (clientSystem name).Reach System.any l) :
    ∃ remarks shown, l.client.TerminalIs name remarks shown ∧
      (l.Running → l.client.Listening remarks shown) := by
  refine hr.invariant_of_reach (I := fun l => ∃ remarks shown,
    l.client.TerminalIs name remarks shown ∧
      (l.Running → l.client.Listening remarks shown)) ?_ ?_
  · rintro l ⟨fd, epollFd, immediately, ctl, rfl⟩
    obtain ⟨hterm, hlisten⟩ := startedClient_terminalIs name fd epollFd immediately ctl
    exact ⟨[], [], hterm, fun _ => hlisten⟩
  · rintro l i l' hreach ⟨remarks, shown, hterm, hlisten⟩ - hstep
    obtain ⟨hrun, heq | ⟨r, e, es, ok, -, -, hev, hphase⟩⟩ := clientLoopStep_cases hstep
    · rw [heq]
      exact ⟨remarks, shown, hterm, fun _ => hlisten hrun⟩
    · have hu := clientHandleEvent_terminalStep l.client e r
      have horder := (client_reach_keeps hreach).1 hrun
      rw [hev] at hu
      have htuned : l.client.Silent (l.client.tuned r.ctl) :=
        ⟨⟨rfl, rfl, rfl, rfl, rfl⟩, rfl, rfl, rfl⟩
      obtain ⟨remarks', shown', hterm', hlisten'⟩ := hu.terminalIs (hterm.silent htuned)
        ((hlisten hrun).silent htuned)
        ⟨horder.named, horder.stream, horder.complaints, horder.phase⟩
      refine ⟨remarks', shown', hterm', fun hrun' => hlisten' ?_⟩
      cases ok with
      | true => rfl
      | false => exact absurd hphase hrun'

/-- Whatever the server sends, the terminal of a client is an interleaving of the user's own
remarks and of what the accepted frames print. The texts that the user said are the CHAT
frames that were queued; the frames are the first ones that were received, and all of them as
long as the loop goes on. -/
theorem terminal_is_an_interleaving {l : ClientLoop}
    (hr : (clientSystem name).Reach System.any l) :
    ∃ remarks shown, l.client.TerminalIs name remarks shown ∧
      (l.Running → shown = frameCodec.frames l.client.conn.received ∧
        parseFrame l.client.conn.inBuffer = .incomplete) := by
  obtain ⟨remarks, shown, hterm, hlisten⟩ := clientReach_terminalIs hr
  refine ⟨remarks, shown, hterm, ?_⟩
  intro hrun
  have hl := hlisten hrun
  have hstream := ((client_reach_keeps hr).1 hrun).stream
  have hinc : frameCodec.parse l.client.conn.inBuffer = .incomplete := hl.drained
  have hnone : frameCodec.frames l.client.conn.inBuffer = [] :=
    frameCodec.frames_of_not_frame (fun m rest h => by rw [hinc] at h; cases h)
  refine ⟨?_, hl.drained⟩
  rw [hstream.frames_received, hnone, List.append_nil, hl.all]

end Runs

/-! ### Runs that can be evaluated -/

/-- The read loop for at most `n` frames, which can be evaluated. -/
def Client.readMessagesUpTo : ℕ → Client → Bool × Client
  | 0, client => (true, client)
  | n + 1, client =>
    match parseFrame client.conn.inBuffer with
    | .incomplete => (decide (client.conn.state ≠ .closed), client)
    | .illegal => (false, client.withConn
        (client.conn.reject (.oversizedPayload (declaredLength client.conn.inBuffer))))
    | .frame m rest =>
      match (client.withConn (client.conn.cut m rest)).handleNetworkMessage m with
      | (false, client) => (false, client)
      | (true, client) => client.readMessagesUpTo n

lemma clientReadMessages_upTo {n : ℕ} {client : Client} (hn : client.conn.inBuffer.length < n)
    (hst : client.conn.state ≠ .connectionError) :
    client.readMessages = client.readMessagesUpTo n := by
  induction n generalizing client with
  | zero => omega
  | succ n ih =>
    rw [Client.readMessagesUpTo]
    cases hp : parseFrame client.conn.inBuffer with
    | illegal => rw [Client.readMessages_illegal hp]
    | incomplete => rw [Client.readMessages_incomplete hp hst]
    | frame m rest =>
      rw [Client.readMessages_frame hp hst]
      have hreaction := handleNetworkMessage_reaction (client.withConn (client.conn.cut m rest)) m
      rcases hr : (client.withConn (client.conn.cut m rest)).handleNetworkMessage m
        with ⟨ok, client'⟩
      rw [hr] at hreaction
      simp only [hr]
      cases ok with
      | false => rfl
      | true =>
        obtain ⟨-, hact, -, hbuf, -⟩ := hreaction.goesOn
        have hact : client'.conn.state = .active := hact
        have hbuf : client'.conn.inBuffer = rest := hbuf
        have hlen := frameCodec.rest_length_lt hp
        exact ih (by rw [hbuf]; omega) (by rw [hact]; decide)

lemma clientLoopStep_read {l : ClientLoop} {e : EpollEvent} {es : List EpollEvent}
    (hphase : l.phase = .handling (e :: es)) (hopen : l.client.clientQuitting = false)
    (hsend : l.client.eventIsSendNetworkMessage e.fd e.events = false)
    (hread : l.client.eventIsReadNetworkMessage e.fd e.events = true) {r : ClientReplies}
    (hend : recvEnd r.recvs = .wouldBlock) {n : ℕ}
    (hn : (l.client.conn.ingested r.recvs).inBuffer.length < n) {t : Client}
    (ht : (((l.client.tuned r.ctl).call (.recv l.client.conn.fd)).withConn
      (l.client.conn.ingested r.recvs)).readMessagesUpTo n = (true, t)) :
    clientLoopStep l (.replies r) = some ⟨t, .handling es⟩ := by
  have hst : l.client.conn.state = .waitingForServerHello ∨ l.client.conn.state = .active := by
    rw [Client.eventIsReadNetworkMessage, Bool.and_eq_true] at hread
    exact (of_decide_eq_true hread.2).2.1
  have hconnect : l.client.eventIsCheckConnectionSuccess e.fd e.events = false := by
    rw [Client.eventIsCheckConnectionSuccess, decide_eq_false_iff_not]
    rintro ⟨-, hconnecting, -⟩
    rcases hst with h | h <;> simp [h] at hconnecting
  have hstate : (l.client.conn.ingested r.recvs).state ≠ .connectionError := by
    show (recvEnd r.recvs).state l.client.conn.state ≠ .connectionError
    rw [hend]
    rcases hst with h | h <;> simp [RecvEnd.state, h]
  have hok : recvEnd r.recvs ≠ .failed := by
    rw [hend]
    decide
  have hev : l.client.handleEvent e r = (true, t) := by
    rw [clientHandleEvent_eq, hopen, hconnect, hsend, hread]
    simp only [Bool.false_and, Bool.false_eq_true, if_false, if_true]
    rw [Client.handleRead_eq, if_neg hok, ← ht]
    exact clientReadMessages_upTo hn hstate
  rw [clientLoopStep, hphase]
  simp only [hev]

lemma clientRun_reach {name : Bytes} {l l' : ClientLoop} {is : List ClientInput}
    (hr : (clientSystem name).Reach System.any l)
    (hrun : System.run clientLoopStep l is = some l') : (clientSystem name).Reach System.any l' :=
  hr.path (System.Path.of_run (fun _ _ _ h => ⟨trivial, h⟩) hrun)

lemma clientStep_reach {name : Bytes} {l l' : ClientLoop} {i : ClientInput}
    (hr : (clientSystem name).Reach System.any l) (hstep : clientLoopStep l i = some l') :
    (clientSystem name).Reach System.any l' :=
  hr.snoc (l := i) trivial hstep

/-- A client connects, and the answer of the server is about to be read. -/
def introduces (fd : Fd) : List ClientInput :=
  [.events [⟨fd, epollOut⟩], .replies { sends := [.count 1000] }, .endOfBatch,
    .events [⟨fd, epollIn⟩, ⟨stdinFileno, epollIn⟩]]

/-- The frames with which a host greets a guest and says something. -/
def greetingBytes (host text : Bytes) : Bytes :=
  encodeFrame (serverGreeting host) ++ encodeFrame (RoomEntry.hostChat host text).message

theorem terminal_is_an_interleaving_greeted : ∃ l : ClientLoop,
    l.client.stdout = [ascii "Connected to server.\nName: host",
      ascii "[client] connected to server. Start chatting.", ascii "[host] hello",
      ascii "[ann] hi"] ∧
    ∃ remarks shown, l.client.TerminalIs (ascii "ann") remarks shown := by
  let heard : List RecvReply := [.bytes (greetingBytes (ascii "host") (ascii "hello"))]
  obtain ⟨k₀, k, hk₀, hk, hphase, hopen, hsend, hread, hend, hlen, t, ht, l, hl, hout⟩ : ∃ k₀ k,
      k₀ = startedClient (createdClient (ascii "ann") 5 6 true []) ∧
      System.run clientLoopStep k₀ (introduces 5) = some k ∧
      k.phase = .handling [⟨5, epollIn⟩, ⟨stdinFileno, epollIn⟩] ∧
      k.client.clientQuitting = false ∧
      k.client.eventIsSendNetworkMessage 5 epollIn = false ∧
      k.client.eventIsReadNetworkMessage 5 epollIn = true ∧ recvEnd heard = .wouldBlock ∧
      (k.client.conn.ingested heard).inBuffer.length < 100 ∧
      ∃ t, (((k.client.tuned []).call (.recv k.client.conn.fd)).withConn
        (k.client.conn.ingested heard)).readMessagesUpTo 100 = (true, t) ∧
      ∃ l, clientLoopStep ⟨t, .handling [⟨stdinFileno, epollIn⟩]⟩
        (.replies { line := some (ascii "hi") }) = some l ∧
      l.client.stdout = [ascii "Connected to server.\nName: host",
        ascii "[client] connected to server. Start chatting.", ascii "[host] hello",
        ascii "[ann] hi"] :=
    ⟨_, _, rfl, rfl, rfl, rfl, by decide, by decide, by decide, by decide, _, rfl, _, rfl,
      by decide⟩
  have hinit : (clientSystem (ascii "ann")).Reach System.any k₀ :=
    System.Reach.of_init ⟨5, 6, true, [], hk₀⟩
  have hstep : clientLoopStep k (.replies { recvs := heard }) =
      some ⟨t, .handling [⟨stdinFileno, epollIn⟩]⟩ :=
    clientLoopStep_read hphase hopen hsend hread hend hlen ht
  have hreach := clientStep_reach (clientStep_reach (clientRun_reach hinit hk) hstep) hl
  obtain ⟨remarks, shown, hterm, -⟩ := terminal_is_an_interleaving hreach
  exact ⟨l, hout, remarks, shown, hterm⟩

end Chatroom
