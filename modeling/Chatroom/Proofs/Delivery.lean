import Chatroom.Proofs.Runs
import Chatroom.Spec.Room

/-!
# The server is a room

Every effect of a handler is a step of the abstract room, or none. A connection that is
active is a person in the room; what was queued to it as BROADCAST is its inbox, and the
CHAT frames that were parsed from it are what it said.
-/

namespace Chatroom
open Relation Transition

/-- The BROADCAST frames that were ever queued to a connection. -/
def Connection.broadcasts (c : Connection) : List Message :=
  c.queued.filter (fun m => m.type = .broadcast)

/-- The payloads of the CHAT frames that were parsed from a connection. -/
def Connection.chats (c : Connection) : List Bytes :=
  (c.parsed.filter (fun m => m.type = .chat)).map Message.payload

/-- A person is in the room while its connection is active, or closed but not yet released. -/
def Connection.Joined (c : Connection) : Prop :=
  c.state = .active ∨ c.state = .closed

/-- A connection in the room that it belongs to. -/
structure Shows (r : Room) (c : Connection) : Prop where
  left : r.left c.serial = none
  present : c.serial ∈ r.present ↔ c.Joined
  name : c.Joined → c.name = r.name c.serial
  heard : c.broadcasts = (r.inbox c.serial).map RoomEntry.message
  said : c.chats = r.said c.serial

/-- A released connection in the room that it has left. -/
structure ShowsDeparted (r : Room) (d : Departure) : Prop where
  left : r.left d.conn.serial = some d.logLength
  absent : d.conn.serial ∉ r.present
  name : (∃ e ∈ r.log, e.Opens d.conn.serial) → d.conn.name = r.name d.conn.serial
  heard : d.conn.broadcasts = (r.inbox d.conn.serial).map RoomEntry.message
  said : r.said d.conn.serial <+: d.conn.chats

/-- The abstraction relation. -/
structure Represents (s : Server) (r : Room) : Prop where
  log : r.log = s.roomLog
  live : ∀ c ∈ s.connections, Shows r c
  gone : ∀ d ∈ s.departed, ShowsDeparted r d
  fresh : ∀ n, s.accepted ≤ n → n ∉ r.present ∧ r.left n = none ∧ r.inbox n = [] ∧ r.said n = []

/-- Only the connection that acts can be closed. -/
def ClosedBy (who : Option ℕ) (s : Server) : Prop :=
  ∀ c ∈ s.connections, c.state = .closed → who = some c.serial

/-! ### Connections -/

section Connections

variable {r r' : Room} {c c' : Connection}

lemma Shows.congr (h : Shows r c) (hserial : c'.serial = c.serial) (hjoined : c'.Joined ↔ c.Joined)
    (hname : c.Joined → c'.name = c.name) (hheard : c'.broadcasts = c.broadcasts)
    (hsaid : c'.chats = c.chats) : Shows r c' where
  left := by rw [hserial]; exact h.left
  present := by rw [hserial, hjoined]; exact h.present
  name := fun hj => by rw [hserial, hname (hjoined.mp hj)]; exact h.name (hjoined.mp hj)
  heard := by rw [hserial, hheard]; exact h.heard
  said := by rw [hserial, hsaid]; exact h.said

lemma broadcasts_enqueue (c : Connection) {m : Message} (hm : m.type = .broadcast) :
    (c.enqueue m).broadcasts = c.broadcasts ++ [m] := by
  simp [Connection.broadcasts, Connection.enqueue, hm]

lemma broadcasts_enqueue_other (c : Connection) {m : Message} (hm : m.type ≠ .broadcast) :
    (c.enqueue m).broadcasts = c.broadcasts := by
  simp [Connection.broadcasts, Connection.enqueue, hm]

lemma chats_cut (c : Connection) {m : Message} (rest : Bytes) (hm : m.type = .chat) :
    (c.cut m rest).chats = c.chats ++ [m.payload] := by
  simp [Connection.chats, Connection.cut, hm]

lemma chats_cut_other (c : Connection) {m : Message} (rest : Bytes) (hm : m.type ≠ .chat) :
    (c.cut m rest).chats = c.chats := by
  simp [Connection.chats, Connection.cut, hm]

lemma Move.shows {host : Bytes} {ev : Option EventMask} (h : Shows r c)
    (hm : Move host c ev c') : Shows r c' := by
  cases hm with
  | listen data hc hp => exact h.congr rfl Iff.rfl (fun _ => rfl) rfl rfl
  | introduce data m rest hc hp htype hname hhost =>
    refine h.congr rfl ?_ ?_ ?_ ?_
    · simp [Connection.Joined, hc]
    · intro hj
      simp [Connection.Joined, hc] at hj
    · exact broadcasts_enqueue_other _
        (show MessageType.serverHello ≠ MessageType.broadcast by decide)
    · exact chats_cut_other (c.absorb data) rest (by rw [htype]; decide)
  | send n hc hn => exact h.congr rfl Iff.rfl (fun _ => rfl) rfl rfl
  | drain hc hout => exact h.congr rfl Iff.rfl (fun _ => rfl) rfl rfl
  | ingest data st hc hst =>
    refine h.congr rfl ?_ (fun _ => rfl) rfl rfl
    simp only [Connection.Joined, hc, true_or, iff_true]
    exact hst

lemma Leave.chats (h : Leave c c') : c'.chats = c.chats := by
  cases h with
  | hangup hc hp => rfl
  | bye m rest hc hp htype hempty => exact chats_cut_other c rest (by rw [htype]; decide)

lemma Leave.joined (h : Leave c c') : c.Joined := by
  cases h with
  | hangup hc hp => exact Or.inr hc
  | bye m rest hc hp htype hempty => exact hc

lemma Released.broadcasts (h : Released c c') : c'.broadcasts = c.broadcasts := by
  rcases h with h | h <;> cases h <;> rfl

lemma Released.name (h : Released c c') : c'.name = c.name := by
  rcases h with h | h <;> cases h <;> rfl

lemma chats_prefix_cut (c : Connection) (m : Message) (rest : Bytes) :
    c.chats <+: (c.cut m rest).chats := by
  by_cases hm : m.type = .chat
  · rw [chats_cut c rest hm]
    exact List.prefix_append _ _
  · rw [chats_cut_other c rest hm]

lemma Released.chats (h : Released c c') : c.chats <+: c'.chats := by
  rcases h with h | h
  · rw [h.chats]
  · cases h with
    | failed data hc => exact List.prefix_refl _
    | hangup data hc hp => exact List.prefix_refl _
    | oversizedHello data hc hp => exact List.prefix_refl _
    | notHello data m rest hc hp htype => exact chats_prefix_cut (c.absorb data) m rest
    | emptyName data m rest hc hp hname => exact chats_prefix_cut (c.absorb data) m rest
    | oversized hc hp => exact List.prefix_refl _
    | closePayload m rest hc hp htype hpayload => exact chats_prefix_cut c m rest
    | notChat m rest hc hp htype hchat => exact chats_prefix_cut c m rest

end Connections

/-! ### Rooms -/

/-- Two rooms agree on what concerns one person, the inbox apart. -/
structure SameFor (r r' : Room) (n : ℕ) : Prop where
  left : r'.left n = r.left n
  present : n ∈ r'.present ↔ n ∈ r.present
  name : r'.name n = r.name n
  said : r'.said n = r.said n

section Rooms

variable {r r' : Room} {e : RoomEntry}

lemma inbox_post_told {audience : Set ℕ} {n : ℕ} (hn : n ∈ audience) (ht : e.Tells n) :
    (r.post audience e).inbox n = r.inbox n ++ [e] :=
  if_pos ⟨hn, ht⟩

lemma inbox_post_untold {audience : Set ℕ} {n : ℕ} (h : ¬(n ∈ audience ∧ e.Tells n)) :
    (r.post audience e).inbox n = r.inbox n :=
  if_neg h

lemma Shows.listen {d : Connection} {sender : Option ℕ} (h : Shows r d)
    (hsame : SameFor r r' d.serial) (hopen : d.state ≠ .closed)
    (hin : r'.inbox d.serial = (r.post r.present e).inbox d.serial) (ht : e.Tells d.serial)
    (hsend : some d.addr ≠ sender) :
    Shows r' (if Hears sender d then d.enqueue e.message else d) := by
  have hjoined : d.Joined ↔ d.state = .active := ⟨fun hj => hj.resolve_right hopen, Or.inl⟩
  by_cases hst : d.state = .active
  · have hh : Hears sender d := ⟨hsend, hst⟩
    rw [if_pos hh]
    have hbox : r'.inbox d.serial = r.inbox d.serial ++ [e] := by
      rw [hin, inbox_post_told (h.present.mpr (Or.inl hst)) ht]
    refine ⟨hsame.left.trans h.left, hsame.present.trans h.present,
      fun hj => (h.name hj).trans hsame.name.symm, ?_, h.said.trans hsame.said.symm⟩
    show (d.enqueue e.message).broadcasts = (r'.inbox d.serial).map RoomEntry.message
    rw [broadcasts_enqueue d rfl, hbox, h.heard, List.map_append]
    rfl
  · have hh : ¬Hears sender d := fun hh => hst hh.2
    rw [if_neg hh]
    have hbox : r'.inbox d.serial = r.inbox d.serial := by
      rw [hin]
      apply inbox_post_untold
      rintro ⟨hp, -⟩
      exact hst (hjoined.mp (h.present.mp hp))
    exact ⟨hsame.left.trans h.left, hsame.present.trans h.present,
      fun hj => (h.name hj).trans hsame.name.symm, by rw [hbox]; exact h.heard,
      h.said.trans hsame.said.symm⟩

lemma ShowsDeparted.keep {d : Departure} (h : ShowsDeparted r d)
    (hsame : SameFor r r' d.conn.serial) (hin : r'.inbox d.conn.serial = r.inbox d.conn.serial)
    (hlog : (∃ e ∈ r'.log, e.Opens d.conn.serial) → ∃ e ∈ r.log, e.Opens d.conn.serial) :
    ShowsDeparted r' d where
  left := hsame.left.trans h.left
  absent := fun hp => h.absent (hsame.present.mp hp)
  name := fun ho => (h.name (hlog ho)).trans hsame.name.symm
  heard := by rw [hin]; exact h.heard
  said := by rw [hsame.said]; exact h.said

lemma opens_of_append {n : ℕ} {log : List RoomEntry} (he : ¬e.Opens n)
    (h : ∃ x ∈ log ++ [e], x.Opens n) : ∃ x ∈ log, x.Opens n := by
  obtain ⟨x, hx, hopen⟩ := h
  rcases List.mem_append.mp hx with hx | hx
  · exact ⟨x, hx, hopen⟩
  · rw [List.mem_singleton.mp hx] at hopen
    exact absurd hopen he

end Rooms

lemma mem_put_cases {s : Server} (hd : s.Distinct) {c c' d : Connection} (hc : c ∈ s.connections)
    (hdm : d ∈ (s.put c').connections) (haddr : c'.addr = c.addr) :
    d = c' ∨ d ∈ s.connections ∧ d.addr ≠ c.addr ∧ d.serial ≠ c.serial := by
  rcases Keyed.mem_replace hdm with h | ⟨hmem, hne⟩
  · exact Or.inl h
  · rw [haddr] at hne
    refine Or.inr ⟨hmem, hne, ?_⟩
    intro hserial
    rw [Keyed.eq_of_key_eq hd.serials hmem hc hserial] at hne
    exact hne rfl

/-! ### The simulation -/

section Simulation

variable {s : Server} {r : Room}

lemma Represents.congr {t : Server} (h : Represents s r) (hcs : t.connections = s.connections)
    (hdep : t.departed = s.departed) (hlog : t.roomLog = s.roomLog)
    (hacc : t.accepted = s.accepted) : Represents t r :=
  ⟨by rw [hlog]; exact h.log, by rw [hcs]; exact h.live, by rw [hdep]; exact h.gone,
    by rw [hacc]; exact h.fresh⟩

lemma Represents.accept (h : Represents s r) (fd : Fd) (addr : ℕ) (k : Kernel) :
    Represents { s with
      connections := s.connections ++ [newConnection fd addr s.accepted]
      accepted := s.accepted + 1
      kernel := k } r where
  log := h.log
  live := by
    intro d hdm
    rcases List.mem_append.mp hdm with hdm | hdm
    · exact h.live d hdm
    · obtain ⟨habsent, hleft, hinbox, hsaid⟩ := h.fresh s.accepted (Nat.le_refl _)
      rw [List.mem_singleton.mp hdm]
      refine ⟨hleft, ?_, ?_, ?_, ?_⟩
      · exact iff_of_false habsent (by simp [Connection.Joined, newConnection])
      · intro hj
        simp [Connection.Joined, newConnection] at hj
      · show [] = (r.inbox s.accepted).map RoomEntry.message
        rw [hinbox]
        rfl
      · exact hsaid.symm
  gone := h.gone
  fresh := fun n hn => h.fresh n (Nat.le_of_succ_le hn)

lemma Represents.move (h : Represents s r) {c c' : Connection} {ev : Option EventMask}
    (hc : c ∈ s.connections) (hmove : Move s.name c ev c') (k : Kernel) :
    Represents { s.put c' with kernel := k } r where
  log := h.log
  live := by
    intro d hdm
    rcases Keyed.mem_replace hdm with rfl | ⟨hmem, -⟩
    · exact hmove.shows (h.live c hc)
    · exact h.live d hmem
  gone := h.gone
  fresh := h.fresh

lemma Represents.post (hreg : s.Registry) (h : Represents s r) {c c' : Connection}
    (hc : c ∈ s.connections) (hpeer : SamePeer c c') (hclosed : ClosedBy (some c.serial) s)
    {e : RoomEntry} {sender : Option ℕ} {r' : Room} (he : e.serial = some c.serial)
    (hsender : ∀ addr, sender = some addr → addr = c.addr) (hlog : r'.log = r.log ++ [e])
    (hsame : ∀ n, n ≠ c.serial → SameFor r r' n)
    (hbox : ∀ n, n ≠ c.serial → r'.inbox n = (r.post r.present e).inbox n)
    (hactor : Shows r' (if Hears sender c' then c'.enqueue e.message else c')) (k : Kernel) :
    Represents ((s.put c').heard sender e k) r' := by
  have hother : ∀ n, n ≠ c.serial → e.serial ≠ some n := by
    intro n hn heq
    rw [he] at heq
    exact hn (Option.some.inj heq).symm
  refine ⟨?_, ?_, ?_, ?_⟩
  · show r'.log = s.roomLog ++ [e]
    rw [hlog, h.log]
  · intro d hdm
    obtain ⟨d₀, hd₀, rfl⟩ := mem_enqueueTo hdm
    rcases mem_put_cases hreg.distinct hc hd₀ hpeer.addr with rfl | ⟨hmem, haddr, hne⟩
    · exact hactor
    · refine (h.live d₀ hmem).listen (hsame _ hne) ?_ (hbox _ hne)
        (RoomEntry.tells_of_serial_ne (hother _ hne)) ?_
      · intro hst
        exact hne (Option.some.inj (hclosed d₀ hmem hst)).symm
      · intro heq
        exact haddr (hsender _ heq.symm)
  · intro d hdm
    have hrec := h.gone d hdm
    have hne : d.conn.serial ≠ c.serial := (hreg.gone c hc d hdm).symm
    refine hrec.keep (hsame _ hne) ?_ ?_
    · rw [hbox _ hne]
      exact inbox_post_untold (fun ht => hrec.absent ht.1)
    · rw [hlog]
      exact opens_of_append (fun ho => hother _ hne (RoomEntry.serial_of_opens ho))
  · intro n hn
    obtain ⟨habsent, hleft, hinbox, hsaid⟩ := h.fresh n hn
    have hne : n ≠ c.serial := Nat.ne_of_gt (Nat.lt_of_lt_of_le (hreg.serial_lt c hc) hn)
    have hs := hsame n hne
    refine ⟨fun hp => habsent (hs.present.mp hp), hs.left.trans hleft, ?_, hs.said.trans hsaid⟩
    rw [hbox n hne, ← hinbox]
    exact inbox_post_untold (fun ht => habsent ht.1)

/-- The room after person `n` said something. -/
noncomputable def Room.afterChat (r : Room) (n : ℕ) (text : Bytes) : Room :=
  { r.post r.present (.chat n (r.name n) text) with
    said := Function.update r.said n (r.said n ++ [text]) }

lemma Represents.chat (hreg : s.Registry) (h : Represents s r) {c : Connection}
    (hc : c ∈ s.connections) {m : Message} {rest : Bytes} (hj : c.Joined) (htype : m.type = .chat)
    (hclosed : ClosedBy (some c.serial) s) (k : Kernel) :
    Represents ((s.put (c.cut m rest)).heard (some c.addr) (.chat c.serial c.name m.payload) k)
      (r.afterChat c.serial m.payload) := by
  have hshows := h.live c hc
  have hname := hshows.name hj
  have hpeer : SamePeer c (c.cut m rest) := ⟨rfl, rfl, rfl⟩
  rw [hname]
  apply h.post hreg hc hpeer hclosed rfl (fun _ heq => (Option.some.inj heq).symm) rfl
  · intro n hn
    exact ⟨rfl, Iff.rfl, rfl, Function.update_of_ne hn _ _⟩
  · intro n _
    rfl
  · rw [if_neg (fun hh => hh.1 rfl)]
    have hbox : (r.afterChat c.serial m.payload).inbox c.serial = r.inbox c.serial :=
      inbox_post_untold (fun ht => ht.2 rfl)
    refine ⟨hshows.left, hshows.present, fun _ => hname, ?_, ?_⟩
    · show c.broadcasts = ((r.afterChat c.serial m.payload).inbox c.serial).map RoomEntry.message
      rw [hbox]
      exact hshows.heard
    · show (c.cut m rest).chats = Function.update r.said c.serial _ c.serial
      rw [chats_cut c rest htype, Function.update_self, hshows.said]
      rfl

/-- The room after person `n` entered. -/
noncomputable def Room.afterEnter (r : Room) (n : ℕ) (name : Bytes) : Room :=
  { r.post (insert n r.present) (.connected n name) with
    present := insert n r.present
    name := Function.update r.name n name }

lemma Represents.join (hreg : s.Registry) (h : Represents s r) {c : Connection}
    (hc : c ∈ s.connections) (hclosed : ClosedBy (some c.serial) s) (k : Kernel) :
    Represents ((s.put { c.drained with state := .active }).heard none
      (.connected c.serial c.name) k) (r.afterEnter c.serial c.name) := by
  have hshows := h.live c hc
  have htells : ∀ n, (RoomEntry.connected c.serial c.name).Tells n := fun _ => trivial
  have hpeer : SamePeer c { c.drained with state := .active } := ⟨rfl, rfl, rfl⟩
  apply h.post hreg hc hpeer hclosed rfl (by simp) rfl
  · intro n hn
    refine ⟨rfl, ?_, Function.update_of_ne hn _ _, rfl⟩
    exact ⟨fun hp => hp.resolve_left hn, Or.inr⟩
  · intro n hn
    by_cases hp : n ∈ r.present
    · exact (inbox_post_told (Or.inr hp) (htells n)).trans (inbox_post_told hp (htells n)).symm
    · exact (inbox_post_untold (fun ht => hp (ht.1.resolve_left hn))).trans
        (inbox_post_untold (fun ht => hp ht.1)).symm
  · rw [if_pos ⟨by simp, rfl⟩]
    have hbox : (r.afterEnter c.serial c.name).inbox c.serial =
        r.inbox c.serial ++ [.connected c.serial c.name] :=
      inbox_post_told (Or.inl rfl) (htells _)
    refine ⟨hshows.left, ?_, ?_, ?_, hshows.said⟩
    · exact iff_of_true (Or.inl rfl) (Or.inl rfl)
    · intro _
      exact (Function.update_self c.serial c.name r.name).symm
    · rw [broadcasts_enqueue _ rfl]
      show c.broadcasts ++ [_] = ((r.afterEnter c.serial c.name).inbox c.serial).map _
      rw [hbox, hshows.heard, List.map_append]
      rfl

lemma Represents.goodbye (hreg : s.Registry) (h : Represents s r) {c c' : Connection}
    (hc : c ∈ s.connections) (hleave : Leave c c') (hclosed : ClosedBy (some c.serial) s)
    (k : Kernel) :
    Represents ((s.put c').heard (some c.addr) (.disconnected c.serial c.name) k)
      (r.post r.present (.disconnected c.serial (r.name c.serial))) := by
  have hshows := h.live c hc
  have hpeer := hleave.samePeer
  rw [hshows.name hleave.joined]
  apply h.post hreg hc hpeer hclosed rfl (fun _ heq => (Option.some.inj heq).symm) rfl
  · intro n _
    exact ⟨rfl, Iff.rfl, rfl, rfl⟩
  · intro n _
    rfl
  · rw [if_neg (fun hh => hh.1 (by rw [hpeer.addr]))]
    have hreleased : Released c c' := Or.inl hleave
    have hstate : c'.Joined ↔ c.Joined := by
      cases hleave <;> exact Iff.rfl
    have hbefore : Shows r c' := hshows.congr hpeer.serial hstate (fun _ => hreleased.name)
      hreleased.broadcasts hleave.chats
    have huntold : ¬(RoomEntry.disconnected c.serial (r.name c.serial)).Tells c.serial :=
      fun ht => ht rfl
    refine ⟨hbefore.left, hbefore.present, hbefore.name, ?_, hbefore.said⟩
    rw [hpeer.serial, inbox_post_untold (fun ht => huntold ht.2), ← hpeer.serial]
    exact hbefore.heard

lemma Represents.released (h : Represents s r) (hd : s.Distinct) {c c' : Connection}
    (hc : c ∈ s.connections) (hlt : c.serial < s.accepted)
    (hdep : ∀ d ∈ s.departed, d.conn.serial ≠ c.serial) (hpeer : SamePeer c c')
    (hname : (∃ e ∈ r.log, e.Opens c.serial) → c'.name = r.name c.serial)
    (hheard : c'.broadcasts = c.broadcasts) (hsaid : c.chats <+: c'.chats) (k : Kernel) :
    Represents (s.released c' k) (r.gone c.serial) := by
  have hshows := h.live c hc
  have hsame : ∀ n, n ≠ c.serial → SameFor r (r.gone c.serial) n := fun n hn =>
    ⟨Function.update_of_ne hn _ _, ⟨fun hp => hp.1, fun hp => ⟨hp, hn⟩⟩, rfl, rfl⟩
  refine ⟨h.log, ?_, ?_, ?_⟩
  · intro d hdm
    obtain ⟨hmem, hserial, -⟩ := mem_released hd hc hpeer hdm
    have hs := hsame _ hserial
    have hlive := h.live d hmem
    exact ⟨hs.left.trans hlive.left, hs.present.trans hlive.present, hlive.name, hlive.heard,
      hlive.said⟩
  · intro d hdm
    rcases List.mem_append.mp hdm with hdm | hdm
    · exact (h.gone d hdm).keep (hsame _ (hdep d hdm)) rfl id
    · rw [List.mem_singleton.mp hdm]
      refine ⟨?_, ?_, ?_, ?_, ?_⟩
      · show Function.update r.left c.serial (some r.log.length) c'.serial = some s.roomLog.length
        rw [hpeer.serial, Function.update_self, h.log]
      · show c'.serial ∉ r.present \ {c.serial}
        rw [hpeer.serial]
        exact fun hp => hp.2 rfl
      · show (∃ e ∈ r.log, e.Opens c'.serial) → c'.name = r.name c'.serial
        rw [hpeer.serial]
        exact hname
      · show c'.broadcasts = (r.inbox c'.serial).map RoomEntry.message
        rw [hpeer.serial, hheard]
        exact hshows.heard
      · show r.said c'.serial <+: c'.chats
        rw [hpeer.serial, ← hshows.said]
        exact hsaid
  · intro n hn
    obtain ⟨habsent, hleft, hinbox, hsaid'⟩ := h.fresh n hn
    have hne : n ≠ c.serial := Nat.ne_of_gt (Nat.lt_of_lt_of_le hlt hn)
    exact ⟨fun hp => habsent hp.1, (hsame n hne).left.trans hleft, hinbox, hsaid'⟩

lemma Represents.announce (h : Represents s r) (hclosed : ClosedBy none s) {e : RoomEntry}
    (he : e.serial = none) {t : Server}
    (hcs : t.connections = enqueueTo (Hears none) e.message s.connections)
    (hdep : t.departed = s.departed) (hlog : t.roomLog = s.roomLog ++ [e])
    (hacc : t.accepted = s.accepted) : Represents t (r.post r.present e) := by
  have hno : ∀ n, e.serial ≠ some n := by
    intro n hn
    rw [he] at hn
    cases hn
  refine ⟨?_, ?_, ?_, ?_⟩
  · show r.log ++ [e] = t.roomLog
    rw [hlog, h.log]
  · intro d hdm
    rw [hcs] at hdm
    obtain ⟨d₀, hd₀, rfl⟩ := mem_enqueueTo hdm
    refine (h.live d₀ hd₀).listen ⟨rfl, Iff.rfl, rfl, rfl⟩ ?_ rfl
      (RoomEntry.tells_of_serial_ne (hno _)) (by simp)
    intro hst
    have hwho := hclosed d₀ hd₀ hst
    cases hwho
  · intro d hdm
    rw [hdep] at hdm
    have hrec := h.gone d hdm
    exact hrec.keep ⟨rfl, Iff.rfl, rfl, rfl⟩ (inbox_post_untold (fun ht => hrec.absent ht.1))
      (opens_of_append (fun ho => hno _ (RoomEntry.serial_of_opens ho)))
  · intro n hn
    rw [hacc] at hn
    obtain ⟨habsent, hleft, hinbox, hsaid⟩ := h.fresh n hn
    exact ⟨habsent, hleft, (inbox_post_untold (fun ht => habsent ht.1)).trans hinbox, hsaid⟩

lemma Represents.dismiss (h : Represents s r) {t : Server}
    (hcs : t.connections = enqueueTo (Hears none) (Message.of .closeCon []) s.connections)
    (hdep : t.departed = s.departed) (hlog : t.roomLog = s.roomLog)
    (hacc : t.accepted = s.accepted) : Represents t r := by
  refine ⟨by rw [hlog]; exact h.log, ?_, by rw [hdep]; exact h.gone, by rw [hacc]; exact h.fresh⟩
  intro d hdm
  rw [hcs] at hdm
  obtain ⟨d₀, hd₀, rfl⟩ := mem_enqueueTo hdm
  split_ifs
  · have hbye : MessageType.closeCon ≠ MessageType.broadcast := by decide
    exact (h.live d₀ hd₀).congr rfl Iff.rfl (fun _ => rfl) (broadcasts_enqueue_other d₀ hbye) rfl
  · exact h.live d₀ hd₀

end Simulation

lemma Server.Inv.closedBy {host : Bytes} {s : Server} (h : s.Inv host) (who : Option ℕ) :
    ClosedBy who s := by
  intro c hc hst
  rcases h.settled c hc with hs | hs | hs <;> simp [hst] at hs

lemma Effect.closedBy {who : Option ℕ} {s t : Server} (hs : s.Registry) (hcl : ClosedBy who s)
    (h : Effect who s t) : ClosedBy who t := by
  intro d hdm hst
  rcases h.origin hs.distinct hdm with ⟨fd, addr, -, rfl, -⟩ | ⟨c, hc, hl, hlisten⟩
  · simp [newConnection] at hst
  · rw [hl.samePeer.serial]
    by_contra hwho
    rw [(hlisten hwho).frame.state] at hst
    exact hwho (hcl c hc hst)

/-- An effect of the server is a step of the room it represents, or none. -/
theorem Effect.simulates {who : Option ℕ} {s t : Server} {r : Room} (hs : s.Registry)
    (hcl : ClosedBy who s) (hr : Represents s r) (hri : r.Inv s.name) (h : Effect who s t) :
    ∃ r', ReflTransGen (Room.Step s.name) r r' ∧ Represents t r' := by
  cases h with
  | silent k cache hk => exact ⟨r, ReflTransGen.refl, hr.congr rfl rfl rfl rfl⟩
  | accept fd addr k hfd haddr hopen hk => exact ⟨r, ReflTransGen.refl, hr.accept fd addr k⟩
  | move k hc hmove hk => exact ⟨r, ReflTransGen.refl, hr.move hc hmove k⟩
  | @talk _ c c' e sender k hc htalk hlegal hk =>
    cases htalk with
    | chat m rest hst hp htype =>
      have hn := (hr.live c hc).present.mpr hst
      exact ⟨_, ReflTransGen.single (Room.Step.say c.serial m.payload hn),
        hr.chat hs hc hst htype hcl k⟩
    | join hst =>
      have hshows := hr.live c hc
      have hn : c.serial ∉ r.present := by
        intro hp
        have hj := hshows.present.mp hp
        simp [Connection.Joined, hst] at hj
      exact ⟨_, ReflTransGen.single (Room.Step.enter c.serial c.name hn hshows.left),
        hr.join hs hc hcl k⟩
  | @leave _ c c' k k' hc hleave hlegal hk hk' =>
    have hn := (hr.live c hc).present.mpr hleave.joined
    have hpeer := hleave.samePeer
    have hu := hr.goodbye hs hc hleave hcl k
    have hheard := (hs.distinct.put hc hpeer).heard (some c.addr) (.disconnected c.serial c.name) k
    have hself := mem_heard_self hc hpeer.addr (.disconnected c.serial c.name) k
    have hjoined : c'.Joined := by
      cases hleave with
      | hangup hst hp => exact Or.inr hst
      | bye m rest hst hp htype hempty => exact hst
    have hgone := hu.released hheard hself (by rw [hpeer.serial]; exact hs.serial_lt c hc)
      (fun d hdm => by rw [hpeer.serial]; exact (hs.gone c hc d hdm).symm) (SamePeer.refl c')
      (fun _ => (hu.live c' hself).name hjoined) rfl (List.prefix_refl _) k'
    rw [hpeer.serial] at hgone
    exact ⟨_, ReflTransGen.single (Room.Step.exit c.serial hn), hgone⟩
  | @drop _ c c' k hc hdrop hk =>
    have hshows := hr.live c hc
    have hreleased : Released c c' := Or.inr hdrop
    have hname : (∃ e ∈ r.log, e.Opens c.serial) → c'.name = r.name c.serial := by
      intro hopened
      rw [hreleased.name]
      apply hshows.name
      by_contra hj
      obtain ⟨e, he, hopen⟩ := hopened
      exact Room.not_opened_outside hri (fun hp => hj (hshows.present.mp hp)) hshows.left e he hopen
    exact ⟨_, ReflTransGen.single (Room.Step.vanish c.serial hshows.left),
      hr.released hs.distinct hc (hs.serial_lt c hc) (fun d hdm => (hs.gone c hc d hdm).symm)
        hreleased.samePeer hname hreleased.broadcasts hreleased.chats k⟩
  | hostTalk text k hlegal hk =>
    exact ⟨_, ReflTransGen.single (Room.Step.hostSays text), hr.announce hcl rfl rfl rfl rfl rfl⟩
  | close k k' hk hk' =>
    have hheard : Represents (({ s with serverClosing := true } : Server).heard none .closing k)
        (r.post r.present .closing) := hr.announce hcl rfl rfl rfl rfl rfl
    exact ⟨_, ReflTransGen.single Room.Step.close, hheard.dismiss rfl rfl rfl rfl⟩
  | print => exact ⟨r, ReflTransGen.refl, hr.congr rfl rfl rfl rfl⟩

theorem Effects.simulates {who : Option ℕ} {s t : Server} {r : Room} (hs : s.Registry)
    (hcl : ClosedBy who s) (hr : Represents s r) (hri : r.Inv s.name) (h : Effects who s t) :
    ∃ r', ReflTransGen (Room.Step s.name) r r' ∧ Represents t r' := by
  have hall : t.Registry ∧ ClosedBy who t ∧ t.name = s.name ∧
      ∃ r', ReflTransGen (Room.Step s.name) r r' ∧ Represents t r' := by
    induction h with
    | refl => exact ⟨hs, hcl, rfl, r, ReflTransGen.refl, hr⟩
    | tail _ hlast ih =>
      obtain ⟨hreg, hcl', hname, r₁, hsteps, hr₁⟩ := ih
      have hinv := hri.steps hsteps
      rw [← hname] at hinv
      obtain ⟨r₂, hsteps', hr₂⟩ := hlast.simulates hreg hcl' hr₁ hinv
      rw [hname] at hsteps'
      exact ⟨hlast.registry hreg, hlast.closedBy hreg hcl', hlast.frame.1.trans hname, r₂,
        hsteps.trans hsteps', hr₂⟩
  exact hall.2.2.2

lemma initialServer_represents (host : Bytes) (listenFd epollFd : Fd) :
    Represents (initialServer host listenFd epollFd) Room.empty where
  log := rfl
  live := by simp [initialServer]
  gone := by simp [initialServer]
  fresh := fun _ _ => ⟨fun hp => hp.elim, rfl, rfl, rfl⟩

theorem reach_represents {host : Bytes} {P : Loop → LoopInput → Prop} {l : Loop}
    (hr : (serverSystem host).Reach P l) (hrun : l.Running) :
    ∃ r, ReflTransGen (Room.Step host) Room.empty r ∧ Represents l.server r := by
  refine (reach_invariant (I := fun s => ∃ r, ReflTransGen (Room.Step host) Room.empty r ∧
    Represents s r) ?_ ?_ hr hrun).2
  · intro listenFd epollFd _
    exact ⟨Room.empty, ReflTransGen.refl, initialServer_represents host listenFd epollFd⟩
  · rintro s s' e es r hinv ⟨room, hsteps, hrep⟩ - - hhandled
    obtain ⟨who, heff⟩ := hhandled.effects
    have hroom := (Room.empty_inv host).steps hsteps
    rw [← hinv.host] at hroom
    obtain ⟨room', hsteps', hrep'⟩ := heff.simulates hinv.sound.registry (hinv.closedBy who) hrep
      hroom
    rw [hinv.host] at hsteps'
    exact ⟨room', hsteps.trans hsteps', hrep'⟩

/-- What connection `n` has to be told according to a log: every entry from its own
`connected` on, except its own chats and its own departure. -/
def dueBroadcasts (n : ℕ) (log : List RoomEntry) : List Message :=
  (Subscription.view (RoomEntry.Opens n) (RoomEntry.Tells n) log).map RoomEntry.message

/-- The payloads of the CHAT frames among the frames that are complete in a byte stream. -/
def chatPayloads (received : Bytes) : List Bytes :=
  ((frameCodec.frames received).filter (fun m => m.type = .chat)).map Message.payload

/-- Exact delivery, in one state of the server. -/
structure Server.Delivered (host : Bytes) (s : Server) : Prop where
  live : ∀ c ∈ s.connections, c.broadcasts = dueBroadcasts c.serial s.roomLog
  gone : ∀ d ∈ s.departed,
    d.conn.broadcasts = dueBroadcasts d.conn.serial (s.roomLog.take d.logLength)
  active : ∀ c ∈ s.connections, c.state = .active ↔ ∃ e ∈ s.roomLog, e.Opens c.serial
  outside : ∀ c ∈ s.connections, c.state ≠ .active → c.broadcasts = []
  once : ∀ n, (s.roomLog.filter (fun e => e.Opens n)).length ≤ 1
  author : ∀ c ∈ s.connections, ∀ e ∈ s.roomLog, e.serial = some c.serial →
    e.speaker = some c.name
  author_gone : ∀ d ∈ s.departed, ∀ e ∈ s.roomLog, e.serial = some d.conn.serial →
    e.speaker = some d.conn.name
  hosted : ∀ name text, .hostChat name text ∈ s.roomLog → name = host
  said : ∀ c ∈ s.connections,
    s.roomLog.filterMap (RoomEntry.said c.serial) <+: chatPayloads c.received
  said_gone : ∀ d ∈ s.departed,
    s.roomLog.filterMap (RoomEntry.said d.conn.serial) <+: chatPayloads d.conn.received

lemma Connection.Stream.chats_prefix {c : Connection} (h : c.Stream) :
    c.chats <+: chatPayloads c.received := by
  rw [chatPayloads, h.frames_received, List.filter_append, List.map_append]
  exact List.prefix_append _ _

theorem Represents.delivered {host : Bytes} {s : Server} {r : Room} (h : Represents s r)
    (hinv : s.Inv host) (hroom : r.Inv host) : s.Delivered host where
  live := by
    intro c hc
    have hshows := h.live c hc
    have hhor : r.horizon c.serial = r.log.length := by
      rw [Room.horizon, hshows.left]
      rfl
    rw [hshows.heard, hroom.inbox, hhor, List.take_length, h.log]
    rfl
  gone := by
    intro d hd
    have hrec := h.gone d hd
    have hhor : r.horizon d.conn.serial = d.logLength := by
      rw [Room.horizon, hrec.left]
      rfl
    rw [hrec.heard, hroom.inbox, hhor, h.log]
    rfl
  active := by
    intro c hc
    have hshows := h.live c hc
    have hjoined : c.Joined ↔ c.state = .active := by
      refine ⟨fun hj => hj.resolve_right ?_, Or.inl⟩
      intro hst
      rcases hinv.settled c hc with hs | hs | hs <;> simp [hst] at hs
    rw [← hjoined, ← hshows.present, ← h.log]
    constructor
    · intro hp
      exact (hroom.entered _ hp).2
    · rintro ⟨e, he, hopen⟩
      by_contra hp
      exact Room.not_opened_outside hroom hp hshows.left e he hopen
  outside := by
    intro c hc hst
    have hshows := h.live c hc
    have hp : c.serial ∉ r.present := by
      intro hp
      rcases hshows.present.mp hp with hj | hj
      · exact hst hj
      · rcases hinv.settled c hc with hs | hs | hs <;> simp [hj] at hs
    have hno := Room.not_opened_outside hroom hp hshows.left
    rw [hshows.heard, hroom.inbox, Subscription.view_of_not_opened
      (fun e he => hno e (List.mem_of_mem_take he))]
    rfl
  once := by
    rw [← h.log]
    exact hroom.once
  author := by
    intro c hc e he hserial
    have hshows := h.live c hc
    rw [← h.log] at he
    have hp : c.serial ∈ r.present := by
      by_contra hp
      exact hroom.outside _ hp hshows.left e he hserial
    rw [hshows.name (hshows.present.mp hp)]
    exact hroom.names e he _ hserial
  author_gone := by
    intro d hd e he hserial
    rw [← h.log] at he
    rw [(h.gone d hd).name (hroom.opened e he _ hserial)]
    exact hroom.names e he _ hserial
  hosted := by
    rw [← h.log]
    exact hroom.hosted
  said := by
    intro c hc
    rw [← h.log, hroom.said, ← (h.live c hc).said]
    exact (hinv.sound.served c hc).stream.chats_prefix
  said_gone := by
    intro d hd
    rw [← h.log, hroom.said]
    exact (h.gone d hd).said.trans (hinv.sound.recorded d hd).stream.chats_prefix

/-- In every state of the running loop every connection was queued exactly the entries of
the log that concern it, in the order of the log and once each. -/
theorem broadcasts_are_the_room_log {host : Bytes} {l : Loop}
    (hr : (serverSystem host).Reach System.any l) (hrun : l.Running) :
    l.server.Delivered host := by
  obtain ⟨r, hsteps, hrep⟩ := reach_represents hr hrun
  exact hrep.delivered (reach_inv hr hrun) ((Room.empty_inv host).steps hsteps)

/-- Two guests enter, and the host speaks in between. -/
def twoGuests : List LoopInput :=
  arrives 3 5 ++ delivers 5 (helloBytes (ascii "ann")) ++ drains 5 ++ types (ascii "hi") ++
    arrives 3 6 ++ delivers 6 (helloBytes (ascii "bob")) ++ drains 6

theorem broadcasts_are_the_room_log_two_guests : ∃ l : Loop,
    l.server.roomLog = [.connected 0 (ascii "ann"), .hostChat (ascii "host") (ascii "hi"),
      .connected 1 (ascii "bob")] ∧ l.server.Delivered (ascii "host") := by
  obtain ⟨l, hl, hrun, hlog⟩ : ∃ l,
      runInputs System.any ⟨initialServer (ascii "host") 3 4, .waiting⟩ twoGuests = some l ∧
      l.Running ∧ l.server.roomLog = [.connected 0 (ascii "ann"),
        .hostChat (ascii "host") (ascii "hi"), .connected 1 (ascii "bob")] :=
    ⟨_, rfl, by decide, by decide⟩
  exact ⟨l, hlog, broadcasts_are_the_room_log (runInputs_reach (by decide) hl) hrun⟩

end Chatroom
