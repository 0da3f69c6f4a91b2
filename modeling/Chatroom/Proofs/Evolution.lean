import Chatroom.Proofs.Dispatch
import Chatroom.Proofs.Streams

/-!
# How one connection evolves

An effect on the server changes each connection by a sequence of elementary steps: a
move or an announced move of the connection itself, a line of the room that it hears,
or the dismissal at the end. Only the connection that acts moves; the others listen.
-/

namespace Chatroom
open Relation

/-- A frame that the server queues to an active connection on its own account. -/
inductive Hear : Connection → Connection → Prop
  | line {c : Connection} (e : RoomEntry) (hst : c.state = .active)
      (hlegal : protocolPayloadLengthIsLegal e.line.length) : Hear c (c.enqueue e.message)
  | dismiss {c : Connection} (hst : c.state = .active) :
      Hear c (c.enqueue (Message.of .closeCon []))

/-- An elementary step of one connection. -/
inductive Evolve (host : Bytes) : Connection → Connection → Prop
  | move {c c' : Connection} {ev : Option EventMask} (h : Move host c ev c') : Evolve host c c'
  | talk {c c' : Connection} {e : RoomEntry} {sender : Option ℕ} (h : Talk c c' e sender) :
      Evolve host c c'
  | hear {c c' : Connection} (h : Hear c c') : Evolve host c c'

/-- What happens to a connection that does not act. -/
def Listens : Connection → Connection → Prop :=
  ReflTransGen Hear

/-- What happens to a connection. -/
def EvolvesTo (host : Bytes) : Connection → Connection → Prop :=
  ReflTransGen (Evolve host)

lemma Listens.lives {host : Bytes} {c d : Connection} (h : Listens c d) : EvolvesTo host c d :=
  ReflTransGen.mono (fun _ _ => Evolve.hear) c d h

lemma Hear.samePeer {c d : Connection} (h : Hear c d) : SamePeer c d := by
  cases h <;> exact ⟨rfl, rfl, rfl⟩

lemma Evolve.samePeer {host : Bytes} {c d : Connection} (h : Evolve host c d) : SamePeer c d := by
  cases h with
  | move h => exact h.samePeer
  | talk h => exact h.samePeer
  | hear h => exact h.samePeer

lemma EvolvesTo.samePeer {host : Bytes} {c d : Connection} (h : EvolvesTo host c d) :
    SamePeer c d := by
  induction h with
  | refl => exact SamePeer.refl c
  | tail _ hstep ih => exact ih.trans hstep.samePeer

lemma EvolvesTo.preserves {host : Bytes} {P : Connection → Prop}
    (hstep : ∀ c d, P c → Evolve host c d → P d) {c d : Connection} (h : EvolvesTo host c d)
    (hc : P c) : P d := by
  induction h with
  | refl => exact hc
  | tail _ hlast ih => exact hstep _ _ ih hlast

/-! ### Where the connections of a state come from -/

lemma listens_of_mem_enqueueTo {cs : List Connection} {sender : Option ℕ} {e : RoomEntry}
    (hlegal : ∀ c ∈ cs, Hears sender c → protocolPayloadLengthIsLegal e.line.length)
    {d : Connection} (hd : d ∈ enqueueTo (Hears sender) e.message cs) :
    ∃ c ∈ cs, Listens c d := by
  obtain ⟨c, hc, rfl⟩ := mem_enqueueTo hd
  refine ⟨c, hc, ?_⟩
  by_cases hh : Hears sender c
  · rw [if_pos hh]
    exact ReflTransGen.single (Hear.line e hh.2 (hlegal c hc hh))
  · rw [if_neg hh]
    exact ReflTransGen.refl

lemma exists_listens_enqueueTo {cs : List Connection} {sender : Option ℕ} {e : RoomEntry}
    (hlegal : ∀ c ∈ cs, Hears sender c → protocolPayloadLengthIsLegal e.line.length)
    {c : Connection} (hc : c ∈ cs) :
    ∃ d ∈ enqueueTo (Hears sender) e.message cs, Listens c d := by
  refine ⟨_, List.mem_map_of_mem hc, ?_⟩
  by_cases hh : Hears sender c
  · rw [if_pos hh]
    exact ReflTransGen.single (Hear.line e hh.2 (hlegal c hc hh))
  · rw [if_neg hh]
    exact ReflTransGen.refl

lemma closing_legal : protocolPayloadLengthIsLegal RoomEntry.closing.line.length := by
  rw [RoomEntry.line, formatLine_length]
  decide

/-- A connection after an effect is new, or it is one that was there: the one that acts
went through elementary steps, any other only listened. -/
theorem Effect.origin {who : Option ℕ} {s t : Server} (hd : s.Distinct) (h : Effect who s t)
    {d : Connection} (hdm : d ∈ t.connections) :
    (∃ fd addr, (0 ≤ fd ∧ fd ≠ stdinFileno ∧ fd ≠ s.listenFd) ∧
        d = newConnection fd addr s.accepted ∧ t.accepted = s.accepted + 1) ∨
      ∃ c ∈ s.connections, EvolvesTo s.name c d ∧ (who ≠ some c.serial → Listens c d) := by
  -- a connection of the list in which the record of the actor was overwritten
  have hput : ∀ {c c' d₀ : Connection}, c ∈ s.connections → Evolve s.name c c' →
      d₀ ∈ (s.put c').connections → Listens d₀ d →
      ∃ b ∈ s.connections, EvolvesTo s.name b d ∧
        (some c.serial ≠ some b.serial → Listens b d) := by
    intro c c' d₀ hc hev hd₀ hl
    rcases Keyed.mem_replace hd₀ with rfl | ⟨hmem, -⟩
    · refine ⟨c, hc, (ReflTransGen.single hev).trans hl.lives, ?_⟩
      intro hne
      exact absurd rfl hne
    · exact ⟨d₀, hmem, hl.lives, fun _ => hl⟩
  cases h with
  | silent k cache hk => exact Or.inr ⟨d, hdm, ReflTransGen.refl, fun _ => ReflTransGen.refl⟩
  | accept fd addr k hfd haddr hopen hk =>
    rcases List.mem_append.mp hdm with hdm | hdm
    · exact Or.inr ⟨d, hdm, ReflTransGen.refl, fun _ => ReflTransGen.refl⟩
    · exact Or.inl ⟨fd, addr, hopen, List.mem_singleton.mp hdm, rfl⟩
  | move k hc hmove hk =>
    exact Or.inr (hput hc (Evolve.move hmove) hdm ReflTransGen.refl)
  | talk k hc htalk hlegal hk =>
    obtain ⟨d₀, hd₀, hl⟩ := listens_of_mem_enqueueTo hlegal hdm
    exact Or.inr (hput hc (Evolve.talk htalk) hd₀ hl)
  | leave k k' hc hleave hlegal hk hk' =>
    right
    obtain ⟨hmem, hne, -⟩ := mem_said_goodbye hd hc hleave hdm
    obtain ⟨d₀, hd₀, hl⟩ := listens_of_mem_enqueueTo hlegal hmem
    have hpeer : SamePeer d₀ d := EvolvesTo.samePeer (hl.lives : EvolvesTo s.name d₀ d)
    rcases Keyed.mem_replace hd₀ with rfl | ⟨hmem₀, -⟩
    · exact absurd (hpeer.serial.trans hleave.samePeer.serial) hne
    · exact ⟨d₀, hmem₀, hl.lives, fun _ => hl⟩
  | drop k hc hdrop hk =>
    obtain ⟨hmem, -⟩ := mem_released hd hc hdrop.samePeer hdm
    exact Or.inr ⟨d, hmem, ReflTransGen.refl, fun _ => ReflTransGen.refl⟩
  | hostTalk text k hlegal hk =>
    obtain ⟨c, hc, hl⟩ := listens_of_mem_enqueueTo hlegal hdm
    exact Or.inr ⟨c, hc, hl.lives, fun _ => hl⟩
  | close k k' hk hk' =>
    obtain ⟨d₀, hd₀, rfl⟩ := mem_enqueueTo hdm
    obtain ⟨c, hc, hl⟩ := listens_of_mem_enqueueTo (fun _ _ _ => closing_legal) hd₀
    have hl' : Listens d₀ (if Hears none d₀ then d₀.enqueue (Message.of .closeCon []) else d₀) := by
      by_cases hh : Hears none d₀
      · rw [if_pos hh]
        exact ReflTransGen.single (Hear.dismiss hh.2)
      · rw [if_neg hh]
        exact ReflTransGen.refl
    have hboth : Listens c _ := ReflTransGen.trans hl hl'
    exact Or.inr ⟨c, hc, hboth.lives, fun _ => hboth⟩
  | print => exact Or.inr ⟨d, hdm, ReflTransGen.refl, fun _ => ReflTransGen.refl⟩

theorem Effect.departures {who : Option ℕ} {s t : Server} (hd : s.Distinct)
    (h : Effect who s t) :
    t.departed = s.departed ∨
      ∃ c ∈ s.connections, ∃ c', Released c c' ∧ who = some c.serial ∧
        t.departed = s.departed ++ [⟨c', t.roomLog.length⟩] ∧
        ∀ d ∈ t.connections, d.serial ≠ c.serial := by
  cases h with
  | silent k cache hk => exact Or.inl rfl
  | accept fd addr k hfd haddr hopen hk => exact Or.inl rfl
  | move k hc hmove hk => exact Or.inl rfl
  | talk k hc htalk hlegal hk => exact Or.inl rfl
  | leave k k' hc hleave hlegal hk hk' =>
    exact Or.inr ⟨_, hc, _, Or.inl hleave, rfl, rfl,
      fun d hdm => (mem_said_goodbye hd hc hleave hdm).2.1⟩
  | drop k hc hdrop hk =>
    exact Or.inr ⟨_, hc, _, Or.inr hdrop, rfl, rfl,
      fun d hdm => (mem_released hd hc hdrop.samePeer hdm).2.1⟩
  | hostTalk text k hlegal hk => exact Or.inl rfl
  | close k k' hk hk' => exact Or.inl rfl
  | print => exact Or.inl rfl

theorem Effect.survives {who : Option ℕ} {s t : Server} (hd : s.Distinct) (h : Effect who s t)
    {c : Connection} (hc : c ∈ s.connections) (hne : who ≠ some c.serial) :
    ∃ d ∈ t.connections, Listens c d := by
  have hself : ∀ {cs : List Connection}, c ∈ cs → ∃ d ∈ cs, Listens c d :=
    fun hmem => ⟨c, hmem, ReflTransGen.refl⟩
  cases h with
  | silent k cache hk => exact hself hc
  | accept fd addr k hfd haddr hopen hk => exact hself (List.mem_append_left _ hc)
  | @move _ a a' ev k ha hmove hk =>
    have hserial : c.serial ≠ a.serial := fun heq => hne (congrArg some heq.symm)
    exact hself (mem_put_of_ne hd ha hc hmove.samePeer.addr hserial)
  | @talk _ a a' e sender k ha htalk hlegal hk =>
    have hserial : c.serial ≠ a.serial := fun heq => hne (congrArg some heq.symm)
    exact exists_listens_enqueueTo hlegal (mem_put_of_ne hd ha hc htalk.samePeer.addr hserial)
  | @leave _ a a' k k' ha hleave hlegal hk hk' =>
    have hserial : c.serial ≠ a.serial := fun heq => hne (congrArg some heq.symm)
    have hpeer := hleave.samePeer
    have hheard := (hd.put ha hpeer).heard (some a.addr) (.disconnected a.serial a.name) k
    obtain ⟨d, hdm, hl⟩ := exists_listens_enqueueTo hlegal
      (mem_put_of_ne hd ha hc hpeer.addr hserial)
    refine ⟨d, (Keyed.mem_remove hheard.addrs).mpr ⟨hdm, ?_⟩, hl⟩
    rw [(EvolvesTo.samePeer (hl.lives : EvolvesTo s.name c d)).addr, hpeer.addr]
    exact hd.addr_ne ha hc hserial
  | @drop _ a a' k ha hdrop hk =>
    have hserial : c.serial ≠ a.serial := fun heq => hne (congrArg some heq.symm)
    refine hself ((Keyed.mem_remove hd.addrs).mpr ⟨hc, ?_⟩)
    rw [hdrop.samePeer.addr]
    exact hd.addr_ne ha hc hserial
  | hostTalk text k hlegal hk => exact exists_listens_enqueueTo hlegal hc
  | close k k' hk hk' =>
    have hclosing : ∃ b ∈ enqueueTo (Hears none) RoomEntry.closing.message s.connections,
        Listens c b := exists_listens_enqueueTo (fun _ _ _ => closing_legal) hc
    obtain ⟨b, hb, hl⟩ := hclosing
    by_cases hh : Hears none b
    · refine ⟨_, List.mem_map_of_mem hb, hl.trans ?_⟩
      rw [if_pos hh]
      exact ReflTransGen.single (Hear.dismiss hh.2)
    · exact ⟨b, List.mem_map.mpr ⟨b, hb, if_neg hh⟩, hl⟩
  | print => exact hself hc

lemma Effect.mem_departed {who : Option ℕ} {s t : Server} (hd : s.Distinct) (h : Effect who s t)
    {d : Departure} (hdm : d ∈ t.departed) :
    d ∈ s.departed ∨ ∃ c ∈ s.connections, Released c d.conn ∧
      ∀ x ∈ t.connections, x.serial ≠ c.serial := by
  rcases h.departures hd with heq | ⟨c, hc, c', hlast, -, heq, hgone⟩
  · exact Or.inl (heq ▸ hdm)
  · rw [heq] at hdm
    rcases List.mem_append.mp hdm with hdm | hdm
    · exact Or.inl hdm
    · rw [List.mem_singleton.mp hdm]
      exact Or.inr ⟨c, hc, hlast, hgone⟩

lemma Effect.frame {who : Option ℕ} {s t : Server} (h : Effect who s t) :
    t.name = s.name ∧ t.listenFd = s.listenFd := by
  cases h <;> exact ⟨rfl, rfl⟩

lemma Effects.preserves {who : Option ℕ} {I : Server → Prop}
    (hstep : ∀ s t, I s → Effect who s t → I t) {s t : Server} (h : Effects who s t) (hs : I s) :
    I t := by
  induction h with
  | refl => exact hs
  | tail _ hlast ih => exact hstep _ _ ih hlast

/-! ### The registry -/

/-- What the server keeps about the identities of its connections. -/
structure Server.Registry (s : Server) : Prop where
  distinct : s.Distinct
  serial_lt : ∀ c ∈ s.connections, c.serial < s.accepted
  departed_lt : ∀ d ∈ s.departed, d.conn.serial < s.accepted
  departed_nodup : (s.departed.map (fun d => d.conn.serial)).Nodup
  gone : ∀ c ∈ s.connections, ∀ d ∈ s.departed, c.serial ≠ d.conn.serial
  client_fd : ∀ c ∈ s.connections, 0 ≤ c.fd ∧ c.fd ≠ stdinFileno ∧ c.fd ≠ s.listenFd

lemma Effect.accepted_le {who : Option ℕ} {s t : Server} (h : Effect who s t) :
    s.accepted ≤ t.accepted := by
  cases h <;> first | exact Nat.le_refl _ | exact Nat.le_succ _

lemma Effect.distinct {who : Option ℕ} {s t : Server} (hs : s.Registry) (h : Effect who s t) :
    t.Distinct := by
  have hd := hs.distinct
  cases h with
  | silent k cache hk => exact hd.congr rfl
  | accept fd addr k hfd haddr hopen hk =>
    exact ⟨Keyed.nodup_append_singleton hd.fds hfd, Keyed.nodup_append_singleton hd.addrs haddr,
      Keyed.nodup_append_singleton hd.serials (fun c hc => Nat.ne_of_lt (hs.serial_lt c hc))⟩
  | move k hc hmove hk => exact (hd.put hc hmove.samePeer).congr rfl
  | talk k hc htalk hlegal hk => exact (hd.put hc htalk.samePeer).heard _ _ k
  | leave k k' hc hleave hlegal hk hk' =>
    exact ((hd.put hc hleave.samePeer).heard _ _ k).remove _ rfl
  | drop k hc hdrop hk => exact hd.remove _ rfl
  | hostTalk text k hlegal hk => exact hd.heard _ _ k
  | close k k' hk hk' => exact (hd.heard none .closing k).enqueueTo (Hears none) _ rfl
  | print => exact hd.congr rfl

theorem Effect.registry {who : Option ℕ} {s t : Server} (hs : s.Registry) (h : Effect who s t) :
    t.Registry where
  distinct := h.distinct hs
  serial_lt := by
    intro d hdm
    rcases h.origin hs.distinct hdm with ⟨fd, addr, -, rfl, hacc⟩ | ⟨c, hc, hl, -⟩
    · rw [hacc]
      exact Nat.lt_succ_self _
    · rw [hl.samePeer.serial]
      exact Nat.lt_of_lt_of_le (hs.serial_lt c hc) h.accepted_le
  departed_lt := by
    intro d hdm
    rcases h.mem_departed hs.distinct hdm with hdm | ⟨c, hc, hlast, -⟩
    · exact Nat.lt_of_lt_of_le (hs.departed_lt d hdm) h.accepted_le
    · rw [hlast.samePeer.serial]
      exact Nat.lt_of_lt_of_le (hs.serial_lt c hc) h.accepted_le
  departed_nodup := by
    rcases h.departures hs.distinct with heq | ⟨c, hc, c', hlast, -, heq, -⟩
    · rw [heq]
      exact hs.departed_nodup
    · rw [heq]
      apply Keyed.nodup_append_singleton hs.departed_nodup
      intro d hdm
      show d.conn.serial ≠ c'.serial
      rw [hlast.samePeer.serial]
      exact (hs.gone c hc d hdm).symm
  gone := by
    intro d hdm g hg
    rcases h.mem_departed hs.distinct hg with hg | ⟨c, hc, hlast, hgone⟩
    · rcases h.origin hs.distinct hdm with ⟨fd, addr, -, rfl, -⟩ | ⟨b, hb, hl, -⟩
      · exact (Nat.ne_of_lt (hs.departed_lt g hg)).symm
      · rw [hl.samePeer.serial]
        exact hs.gone b hb g hg
    · rw [hlast.samePeer.serial]
      exact hgone d hdm
  client_fd := by
    intro d hdm
    rw [h.frame.2]
    rcases h.origin hs.distinct hdm with ⟨fd, addr, hopen, rfl, -⟩ | ⟨b, hb, hl, -⟩
    · exact hopen
    · rw [hl.samePeer.fd]
      exact hs.client_fd b hb

theorem Effects.survives {who : Option ℕ} {s t : Server} (hs : s.Registry) (h : Effects who s t)
    {c : Connection} (hc : c ∈ s.connections) (hne : who ≠ some c.serial) :
    ∃ d ∈ t.connections, Listens c d := by
  have hboth : t.Registry ∧ ∃ d ∈ t.connections, Listens c d := by
    refine h.preserves (I := fun u => u.Registry ∧ ∃ d ∈ u.connections, Listens c d) ?_
      ⟨hs, c, hc, ReflTransGen.refl⟩
    rintro u v ⟨hu, d, hdm, hl⟩ hstep
    have hserial : who ≠ some d.serial := by
      rw [(EvolvesTo.samePeer (hl.lives : EvolvesTo u.name c d)).serial]
      exact hne
    obtain ⟨d', hdm', hl'⟩ := hstep.survives hu.distinct hdm hserial
    exact ⟨hstep.registry hu, d', hdm', hl.trans hl'⟩
  exact hboth.2

end Chatroom
