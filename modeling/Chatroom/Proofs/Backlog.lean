import Chatroom.Proofs.Runs

/-!
# Frames that wait in a receive buffer

The read handler empties the buffer of complete frames, but the hello handler takes only
one. What came behind a CLIENT_HELLO in the same read stays in the buffer when the
connection becomes active, until the client happens to send more.
-/

namespace Chatroom
open Transition

/-- Nothing in the buffer can be handled yet. -/
def Connection.Waits (c : Connection) : Prop :=
  parseFrame c.inBuffer = .incomplete

lemma length_lt_of_incomplete {bs : Bytes} (h : parseFrame bs = .incomplete) :
    bs.length < frameHeaderSize + maxPayloadSize := by
  by_cases hshort : bs.length < frameHeaderSize
  · omega
  · obtain ⟨type, b₀, b₁, b₂, b₃, body, rfl⟩ := header_of_long hshort
    rw [parseFrame, parseBody] at h
    by_cases hlegal : protocolPayloadLengthIsLegal (ntohl b₀ b₁ b₂ b₃).toNat
    · rw [if_pos hlegal] at h
      have hbody : body.length < (ntohl b₀ b₁ b₂ b₃).toNat := by
        by_contra hlong
        rw [if_neg hlong] at h
        cases h
      unfold protocolPayloadLengthIsLegal at hlegal
      simp only [List.length_cons, frameHeaderSize]
      omega
    · rw [if_neg hlegal] at h
      cases h

/-- If the parser finds a CLIENT_HELLO that is accepted, nothing behind it can be handled
yet. -/
def HelloAlone : Framing.Outcome Byte Message → Prop
  | .frame m rest => m.type = .clientHello → m.payload ≠ [] → parseFrame rest = .incomplete
  | _ => True

instance : (outcome : Framing.Outcome Byte Message) → Decidable (HelloAlone outcome)
  | .frame _ _ => inferInstanceAs (Decidable (_ → _ → _))
  | .incomplete | .illegal => inferInstanceAs (Decidable True)

/-- In this step the hello handler reads no CLIENT_HELLO that it accepts together with
something that could be handled right behind it. -/
def HelloArrivesAlone (l : Loop) : LoopInput → Prop
  | .replies r => l.server.serverClosing = false → ∀ e ∈ l.nextEvent, ∀ c ∈ l.server.connections,
      c.fd = e.fd → c.WantsHello e.events → recvEnd r.recvs ≠ .failed →
        HelloAlone (parseFrame (c.inBuffer ++ recvData r.recvs))
  | _ => True

instance (l : Loop) : (i : LoopInput) → Decidable (HelloArrivesAlone l i)
  | .replies _ => inferInstanceAs (Decidable (_ → ∀ _ ∈ _, ∀ _ ∈ _, _))
  | .events _ | .waitFailed _ | .endOfBatch => inferInstanceAs (Decidable True)

theorem Handled.waits {host : Bytes} {s s' : Server} {e : EpollEvent} {es : List EpollEvent}
    {r : Replies} (hs : s.Inv host) (h : Handled s e r s')
    (halone : HelloArrivesAlone ⟨s, .handling (e :: es)⟩ (.replies r))
    (hwaits : ∀ c ∈ s.connections, c.Waits) : ∀ d ∈ s'.connections, d.Waits := by
  have hreg := hs.sound.registry
  have hothers : ∀ {who : Option ℕ}, Effects who s s' → ∀ d ∈ s'.connections,
      who ≠ some d.serial → d.Waits := by
    intro who heff d hdm hwho
    rcases heff.others hreg hdm hwho with ⟨fd, addr, serial, rfl⟩ | ⟨c, hc, -, hlisten⟩
    · rfl
    · unfold Connection.Waits
      rw [hlisten.frame.inBuffer]
      exact hwaits c hc
  have hinv := h.inv hs
  intro d hdm
  cases h with
  | nobody heff => exact hothers heff d hdm (by simp)
  | @hello c hopen hc hfd hwants heff hleft =>
    by_cases hserial : d.serial = c.serial
    · rcases hleft d hdm hserial with hst | ⟨-, m, hread⟩
      · exact ((hinv.sound.served d hdm).phase.of_waiting hst).2.2.2.2
      · have hrest := halone hopen e rfl c hc hfd hwants hread.received
        rw [hread.parsed] at hrest
        exact hrest hread.type hread.name
    · exact hothers heff d hdm (fun h => hserial (Option.some.inj h).symm)
  | @send c hc _ _ heff hleft =>
    by_cases hserial : d.serial = c.serial
    · unfold Connection.Waits
      rw [(hleft d hdm hserial).1]
      exact hwaits c hc
    · exact hothers heff d hdm (fun h => hserial (Option.some.inj h).symm)
  | @read c _ _ _ _ heff hleft =>
    by_cases hserial : d.serial = c.serial
    · exact (hleft d hdm hserial).2
    · exact hothers heff d hdm (fun h => hserial (Option.some.inj h).symm)

/-- As long as every accepted CLIENT_HELLO is read without something complete behind it,
no complete frame and no illegal header waits in the buffer of a connection, active or
not. -/
theorem receive_buffer_is_parsed {host : Bytes} {l : Loop}
    (hr : (serverSystem host).Reach HelloArrivesAlone l) (hrun : l.Running) {c : Connection}
    (hc : c ∈ l.server.connections) :
    protocolParseMessage c = (none, c) ∧ c.inBuffer.length < 5 + 65536 := by
  have hwaits : ∀ c ∈ l.server.connections, c.Waits := by
    refine (reach_invariant (I := fun s => ∀ c ∈ s.connections, c.Waits) ?_ ?_ hr hrun).2
    · intro listenFd epollFd _ c hc
      simp [initialServer] at hc
    · intro s s' e es r hinv hs halone _ hhandled
      exact hhandled.waits hinv halone hs
  exact ⟨parseMessage_incomplete (hwaits c hc), length_lt_of_incomplete (hwaits c hc)⟩

theorem receive_buffer_is_parsed_after_hello : ∃ l : Loop, ∃ c ∈ l.server.connections,
    c.state = .active ∧ protocolParseMessage c = (none, c) ∧ c.inBuffer.length < 5 + 65536 := by
  obtain ⟨l, hl, hrun, c, hc, hst⟩ : ∃ l,
      runInputs HelloArrivesAlone ⟨initialServer (ascii "host") 3 4, .waiting⟩
        (arrives 3 5 ++ delivers 5 (helloBytes (ascii "ann")) ++ drains 5) = some l ∧ l.Running ∧
      ∃ c ∈ l.server.connections, c.state = .active :=
    ⟨_, rfl, by decide, _, List.mem_cons_self, rfl⟩
  exact ⟨l, c, hc, hst, receive_buffer_is_parsed (runInputs_reach (by decide) hl) hrun hc⟩

/-- A client whose CHAT arrives in one piece with its CLIENT_HELLO becomes active, and the
CHAT is still in the buffer. -/
theorem coalesced_chat_is_left_unparsed :
    ¬∀ (host : Bytes) (l : Loop), (serverSystem host).Reach System.any l → l.Running →
      l.server.serverClosing = false → ∀ c ∈ l.server.connections, c.state = .active →
        protocolParseMessage c = (none, c) ∧ c.inBuffer.length < 5 + 65536 := by
  intro hclaim
  obtain ⟨l, hl, hrun, hopen, c, hc, hst, hparse⟩ : ∃ l,
      runInputs System.any ⟨initialServer (ascii "host") 3 4, .waiting⟩
        (arrives 3 5 ++ delivers 5 (helloBytes (ascii "ann") ++
          encodeFrame (Message.of .chat (ascii "hi"))) ++ drains 5) = some l ∧ l.Running ∧
      l.server.serverClosing = false ∧
      ∃ c ∈ l.server.connections, c.state = .active ∧ (protocolParseMessage c).1 ≠ none :=
    ⟨_, rfl, by decide, rfl, _, List.mem_cons_self, rfl, by decide⟩
  have hclean := (hclaim (ascii "host") l (runInputs_reach (by decide) hl) hrun hopen c hc hst).1
  rw [hclean] at hparse
  exact hparse rfl

end Chatroom
