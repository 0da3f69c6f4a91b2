import Chatroom.Proofs.Genuine

/-!
# The room log and the records of the connections

In any reachable state, also when a handler has given up half way, the log accounts for the
record of every connection: what was queued to it is the beginning of what it has to be told,
what the log lets it say is the beginning of what it said, and the log calls it by the name in
its first frame.
-/

namespace Chatroom
open Relation Transition

/-- The record of a connection against the room log. -/
structure Connection.Chronicled (log : List RoomEntry) (c : Connection) : Prop where
  heard : c.broadcasts <+: dueBroadcasts c.serial log
  said : log.filterMap (RoomEntry.said c.serial) <+: c.chats
  author : ∀ e ∈ log, e.serial = some c.serial →
    ∃ hello later, c.parsed = hello :: later ∧ e.speaker = some hello.payload

/-- Everyone who is gone bears the name of its first frame in the log. -/
def Server.DepartedNamed (s : Server) : Prop :=
  ∀ d ∈ s.departed, ∀ e ∈ s.roomLog, e.serial = some d.conn.serial →
    ∃ hello later, d.conn.parsed = hello :: later ∧ e.speaker = some hello.payload

section Records

variable {host : Bytes} {log : List RoomEntry} {c c' : Connection} {e : RoomEntry} {n : ℕ}

lemma dueBroadcasts_mono {log' : List RoomEntry} (h : log <+: log') :
    dueBroadcasts n log <+: dueBroadcasts n log' :=
  (Subscription.view_prefix h).map RoomEntry.message

lemma dueBroadcasts_append (hopened : ∃ x ∈ log, x.Opens n) (e : RoomEntry) :
    dueBroadcasts n (log ++ [e]) =
      dueBroadcasts n log ++ if e.Tells n then [e.message] else [] := by
  rw [dueBroadcasts, Subscription.view_append hopened, List.map_append, List.filter_singleton]
  by_cases ht : e.Tells n
  · simp [ht, dueBroadcasts]
  · simp [ht, dueBroadcasts]

lemma dueBroadcasts_opening (hno : ∀ x ∈ log, ¬x.Opens n) (he : e.Opens n) :
    dueBroadcasts n (log ++ [e]) = [e.message] := by
  rw [dueBroadcasts, Subscription.view_opening hno he (RoomEntry.tells_of_opens he)]
  rfl

lemma Connection.Served.introduced (h : c.Served host) (hst : c.state ≠ .waitingForClientHello) :
    ∃ hello later, c.parsed = hello :: later ∧ c.name = hello.payload := by
  cases h.phase with
  | waiting hst' => exact absurd hst' hst
  | greeting hello _ hparsed _ hname => exact ⟨hello, [], hparsed, hname⟩
  | joined hello chats _ _ hparsed _ hname => exact ⟨hello, chats, hparsed, hname⟩

lemma chats_mono (h : c.parsed <+: c'.parsed) : c.chats <+: c'.chats :=
  (h.filter _).map Message.payload

lemma Connection.Chronicled.extend (h : c.Chronicled log) (he : e.serial ≠ some c.serial) :
    c.Chronicled (log ++ [e]) where
  heard := h.heard.trans (dueBroadcasts_mono (List.prefix_append _ _))
  said := by
    rw [List.filterMap_append, List.filterMap_cons_none (RoomEntry.said_of_serial_ne he),
      List.filterMap_nil, List.append_nil]
    exact h.said
  author := List.forall_mem_append.mpr
    ⟨h.author, List.forall_mem_singleton.mpr (fun hserial => absurd hserial he)⟩

lemma Connection.Chronicled.congr (h : c.Chronicled log) (hserial : c'.serial = c.serial)
    (hheard : c'.broadcasts = c.broadcasts) (hparsed : c.parsed <+: c'.parsed) :
    c'.Chronicled log where
  heard := by rw [hheard, hserial]; exact h.heard
  said := by rw [hserial]; exact h.said.trans (chats_mono hparsed)
  author := by
    intro e he hmine
    rw [hserial] at hmine
    obtain ⟨hello, later, hcons, hspeaker⟩ := h.author e he hmine
    obtain ⟨more, hmore⟩ := hparsed
    exact ⟨hello, later ++ more, by rw [← hmore, hcons]; rfl, hspeaker⟩

lemma Told.chronicled {p : Connection → Prop} {m : Message} (h : c.Chronicled log)
    (hm : m.type = .broadcast → p c → c.broadcasts ++ [m] <+: dueBroadcasts c.serial log)
    (ht : Told p m c c') : c'.Chronicled log := by
  cases ht with
  | missed => exact h
  | queued hp hlegal =>
    refine ⟨?_, h.said, h.author⟩
    by_cases htype : m.type = .broadcast
    · rw [broadcasts_enqueue c htype]
      exact hm htype hp
    · rw [broadcasts_enqueue_other c htype]
      exact h.heard
  | rejected hp hlegal => exact ⟨h.heard, h.said, h.author⟩

end Records

/-! ### The running loop -/

section Running

variable {host : Bytes} {s s' : Server} {r : Room} {who : Option ℕ} {c c' d : Connection}
  {e : RoomEntry}

lemma Server.Midway.served (hm : s.Midway host r) (hc : c ∈ s.connections) : c.Served host := by
  have hserved := hm.sound.served c hc
  rwa [hm.name] at hserved

lemma Server.Midway.heard (hm : s.Midway host r) (hc : c ∈ s.connections) :
    c.broadcasts = dueBroadcasts c.serial s.roomLog := by
  have hshows := hm.room.live c hc
  have hhor : r.horizon c.serial = r.log.length := by
    rw [Room.horizon, hshows.left]
    rfl
  rw [hshows.heard, hm.inv.inbox, hhor, List.take_length, hm.room.log]
  rfl

lemma Server.Midway.said (hm : s.Midway host r) (hc : c ∈ s.connections) :
    c.chats = s.roomLog.filterMap (RoomEntry.said c.serial) := by
  rw [← hm.room.log, hm.inv.said, (hm.room.live c hc).said]

lemma Server.Midway.outside (hm : s.Midway host r) (hc : c ∈ s.connections) (hj : ¬c.Joined) :
    ∀ e ∈ s.roomLog, e.serial ≠ some c.serial := by
  have hshows := hm.room.live c hc
  rw [← hm.room.log]
  exact hm.inv.outside _ (fun hp => hj (hshows.present.mp hp)) hshows.left

lemma Server.Midway.author (hm : s.Midway host r) (hc : c ∈ s.connections) :
    ∀ e ∈ s.roomLog, e.serial = some c.serial →
      ∃ hello later, c.parsed = hello :: later ∧ e.speaker = some hello.payload := by
  intro e he hserial
  have hj : c.Joined := by
    by_contra hj
    exact hm.outside hc hj e he hserial
  have hst : c.state ≠ .waitingForClientHello := by
    rcases hj with h | h <;> simp [h]
  obtain ⟨hello, later, hparsed, hname⟩ := (hm.served hc).introduced hst
  refine ⟨hello, later, hparsed, ?_⟩
  rw [← hname, (hm.room.live c hc).name hj]
  rw [← hm.room.log] at he
  exact hm.inv.names e he _ hserial

lemma Server.Midway.chronicled (hm : s.Midway host r) (hgoneNamed : s.DepartedNamed) :
    ∀ c, s.Knows c → c.Chronicled s.roomLog := by
  rintro c (hc | ⟨d, hd, rfl⟩)
  · exact ⟨by rw [hm.heard hc], by rw [hm.said hc], hm.author hc⟩
  · have hrec := hm.room.gone d hd
    have hhor : r.horizon d.conn.serial = d.logLength := by
      rw [Room.horizon, hrec.left]
      rfl
    refine ⟨?_, ?_, hgoneNamed d hd⟩
    · rw [hrec.heard, hm.inv.inbox, hhor, hm.room.log]
      exact dueBroadcasts_mono (List.take_prefix _ _)
    · rw [← hm.room.log, hm.inv.said]
      exact hrec.said

lemma Effect.entries (h : Effect who s s') (he : e ∈ s'.roomLog) :
    e ∈ s.roomLog ∨ e.serial = none ∨ ∃ c ∈ s.connections, c.state ≠ .waitingForClientHello ∧
      e.serial = some c.serial ∧ e.speaker = some c.name := by
  have hlast : ∀ {x : RoomEntry}, e ∈ s.roomLog ++ [x] → e ∈ s.roomLog ∨ e = x := by
    intro x hx
    rcases List.mem_append.mp hx with hx | hx
    · exact Or.inl hx
    · exact Or.inr (List.mem_singleton.mp hx)
  cases h with
  | silent k cache hk => exact Or.inl he
  | accept fd addr k hfd haddr hopen hk => exact Or.inl he
  | move k hc hmove hk => exact Or.inl he
  | talk k hc htalk hlegal hk =>
    rcases hlast he with he | rfl
    · exact Or.inl he
    · right; right
      cases htalk with
      | chat m rest hst hp htype =>
        exact ⟨_, hc, by rcases hst with h | h <;> simp [h], rfl, rfl⟩
      | join hst => exact ⟨_, hc, by simp [hst], rfl, rfl⟩
  | leave k k' hc hleave hlegal hk hk' =>
    rcases hlast he with he | rfl
    · exact Or.inl he
    · right; right
      refine ⟨_, hc, ?_, rfl, rfl⟩
      rcases hleave.joined with h | h <;> simp [h]
  | drop k hc hdrop hk => exact Or.inl he
  | hostTalk text k hlegal hk =>
    rcases hlast he with he | rfl
    · exact Or.inl he
    · exact Or.inr (Or.inl rfl)
  | close k k' hk hk' =>
    rcases hlast he with he | rfl
    · exact Or.inl he
    · exact Or.inr (Or.inl rfl)
  | print => exact Or.inl he

lemma Released.parsed (h : Released c c') : c.parsed <+: c'.parsed := by
  rcases h with h | h <;> cases h <;>
    first | exact List.prefix_refl _ | exact List.prefix_append _ _

theorem Effect.departedNamed (hm : s.Midway host r) (hgoneNamed : s.DepartedNamed)
    (h : Effect who s s') :
    s'.DepartedNamed := by
  have hreg := hm.sound.registry
  intro d hd e he hserial
  rcases h.mem_departed hreg.distinct hd with hold | ⟨c, hc, hreleased, -⟩
  · rcases h.entries he with he | hnone | ⟨b, hb, -, hb', -⟩
    · exact hgoneNamed d hold e he hserial
    · rw [hnone] at hserial
      cases hserial
    · rw [hb'] at hserial
      exact absurd (Option.some.inj hserial) (hreg.gone b hb d hold)
  · -- the last record of a connection begins with what it had parsed before
    rw [hreleased.samePeer.serial] at hserial
    obtain ⟨more, hmore⟩ := hreleased.parsed
    rcases h.entries he with he | hnone | ⟨b, hb, hst, hb', hspeaker⟩
    · obtain ⟨hello, later, hcons, hspeaker⟩ := hm.author hc e he hserial
      exact ⟨hello, later ++ more, by rw [← hmore, hcons]; rfl, hspeaker⟩
    · rw [hnone] at hserial
      cases hserial
    · rw [hb'] at hserial
      have hsame : b = c :=
        Keyed.eq_of_key_eq hreg.distinct.serials hb hc (Option.some.inj hserial)
      subst hsame
      obtain ⟨hello, later, hcons, hname⟩ := (hm.served hb).introduced hst
      exact ⟨hello, later ++ more, by rw [← hmore, hcons]; rfl, by rw [hspeaker, hname]⟩

lemma Effects.departedNamed (hcl : ClosedBy who s) (hm : s.Midway host r)
    (hgoneNamed : s.DepartedNamed)
    (h : Effects who s s') : ∃ r', s'.Midway host r' ∧ s'.DepartedNamed := by
  have hall : ∃ r', s'.Midway host r' ∧ ClosedBy who s' ∧ s'.DepartedNamed := by
    induction h with
    | refl => exact ⟨r, hm, hcl, hgoneNamed⟩
    | tail _ hlast ih =>
      obtain ⟨r₁, hm₁, hcl₁, hgoneNamed₁⟩ := ih
      obtain ⟨r₂, hm₂, hcl₂⟩ := (Effects.single hlast).midway hcl₁ hm₁
      exact ⟨r₂, hm₂, hcl₂, hlast.departedNamed hm₁ hgoneNamed₁⟩
  obtain ⟨r', hm', -, hgoneNamed'⟩ := hall
  exact ⟨r', hm', hgoneNamed'⟩

theorem reach_departedNamed {P : Loop → LoopInput → Prop} {l : Loop}
    (hr : (serverSystem host).Reach P l) (hrun : l.Running) :
    ∃ r, l.server.Midway host r ∧ l.server.DepartedNamed := by
  refine (reach_invariant (I := fun s => ∃ r, s.Midway host r ∧ s.DepartedNamed) ?_ ?_ hr hrun).2
  · intro listenFd epollFd hne
    obtain ⟨r, hm⟩ := reach_midway (P := System.any) (System.Reach.of_init
      (⟨listenFd, epollFd, hne, rfl⟩ : (serverSystem host).init _)) (by simp [Loop.Running])
    exact ⟨r, hm, by simp [Server.DepartedNamed, initialServer]⟩
  · rintro s s' e es rep hinv ⟨room, hm, hgoneNamed⟩ - - hhandled
    obtain ⟨who, heff⟩ := hhandled.effects
    exact heff.departedNamed (hinv.closedBy who) hm hgoneNamed

end Running

/-! ### After an abort -/

section Aborted

variable {host : Bytes} {s s' : Server} {r : Room} {who : Option ℕ} {c c' d : Connection}
  {e : RoomEntry}

lemma Server.Midway.due (hm : s.Midway host r) (hc : c ∈ s.connections)
    (he : e.serial ≠ some c.serial) (hst : c.state = .active) :
    c.broadcasts ++ [e.message] <+: dueBroadcasts c.serial (s.roomLog ++ [e]) := by
  rw [dueBroadcasts_append (hm.opened_of_joined hc (Or.inl hst)),
    if_pos (RoomEntry.tells_of_serial_ne he), hm.heard hc]

lemma Server.Midway.posted_chronicled (hm : s.Midway host r) (hgoneNamed : s.DepartedNamed)
    (hc : c ∈ s.connections) (hpeer : SamePeer c c') (he : e.serial = some c.serial)
    {sender : Option ℕ} (hactor : c'.Chronicled (s.roomLog ++ [e]))
    (hhears : Hears sender c' →
      c'.broadcasts ++ [e.message] <+: dueBroadcasts c'.serial (s.roomLog ++ [e]))
    {cs : List Connection}
    (hcs : List.Forall₂ (Told (Hears sender) e.message) (s.put c').connections cs) (k : Kernel) :
    ∀ d, ((s.put c').posted e cs k).Knows d → d.Chronicled (s.roomLog ++ [e]) := by
  have hreg := hm.sound.registry
  rintro d (hd | ⟨g, hg, rfl⟩)
  · obtain ⟨d₀, hd₀, ht⟩ := told_of_mem hcs hd
    rcases mem_put_cases hreg.distinct hc hd₀ hpeer.addr with rfl | ⟨hmem, -, hne⟩
    · exact ht.chronicled hactor (fun _ => hhears)
    · have hother : e.serial ≠ some d₀.serial := by
        rw [he]
        exact fun heq => hne (Option.some.inj heq).symm
      exact ht.chronicled ((hm.chronicled hgoneNamed d₀ (Or.inl hmem)).extend hother)
        (fun _ hh => hm.due hmem hother hh.2)
  · apply (hm.chronicled hgoneNamed g.conn (Or.inr ⟨g, hg, rfl⟩)).extend
    rw [he]
    exact fun heq => hreg.gone c hc g hg (Option.some.inj heq)

lemma Server.Midway.announced_chronicled (hm : s.Midway host r) (hgoneNamed : s.DepartedNamed)
    (he : e.serial = none) {cs : List Connection}
    (hcs : List.Forall₂ (Told (Hears none) e.message) s.connections cs) (k : Kernel) :
    ∀ d, (s.posted e cs k).Knows d → d.Chronicled (s.roomLog ++ [e]) := by
  have hnobody : ∀ n, e.serial ≠ some n := by
    intro n hn
    rw [he] at hn
    cases hn
  rintro d (hd | ⟨g, hg, rfl⟩)
  · obtain ⟨d₀, hd₀, ht⟩ := told_of_mem hcs hd
    exact ht.chronicled ((hm.chronicled hgoneNamed d₀ (Or.inl hd₀)).extend (hnobody _))
      (fun _ hh => hm.due hd₀ (hnobody _) hh.2)
  · exact (hm.chronicled hgoneNamed g.conn (Or.inr ⟨g, hg, rfl⟩)).extend (hnobody _)

lemma Server.Midway.actor_chronicled (hm : s.Midway host r) (hgoneNamed : s.DepartedNamed)
    (hc : c ∈ s.connections) (hst : c.state ≠ .waitingForClientHello)
    (hspeaker : e.speaker = some c.name) (hserial : c'.serial = c.serial)
    (hheard : c'.broadcasts = c.broadcasts)
    (hparsed : c.parsed <+: c'.parsed)
    (hsaid : (s.roomLog ++ [e]).filterMap (RoomEntry.said c.serial) <+: c'.chats) :
    c'.Chronicled (s.roomLog ++ [e]) := by
  have hold := (hm.chronicled hgoneNamed c (Or.inl hc)).congr hserial hheard hparsed
  refine ⟨hold.heard.trans (dueBroadcasts_mono (List.prefix_append _ _)), ?_, ?_⟩
  · rw [hserial]
    exact hsaid
  · refine List.forall_mem_append.mpr ⟨hold.author, List.forall_mem_singleton.mpr fun _ => ?_⟩
    obtain ⟨hello, later, hcons, hname⟩ := (hm.served hc).introduced hst
    obtain ⟨more, hmore⟩ := hparsed
    exact ⟨hello, later ++ more, by rw [← hmore, hcons]; rfl, by rw [hspeaker, hname]⟩

theorem Abort.chronicled (hm : s.Midway host r) (hgoneNamed : s.DepartedNamed)
    (h : Abort who s s') :
    ∀ d, s'.Knows d → d.Chronicled s'.roomLog := by
  have hall := hm.chronicled hgoneNamed
  have hput : ∀ {c c' : Connection}, c ∈ s.connections → c'.Chronicled s.roomLog →
      ∀ d, (d ∈ (s.put c').connections ∨ ∃ g ∈ s.departed, g.conn = d) →
        d.Chronicled s.roomLog := by
    rintro c c' hc hc' d (hd | hd)
    · rcases Keyed.mem_replace hd with rfl | ⟨hmem, -⟩
      · exact hc'
      · exact hall d (Or.inl hmem)
    · exact hall d (Or.inr hd)
  -- nobody but the actor itself says anything
  have hmute : ∀ {c : Connection} {e : RoomEntry}, c ∈ s.connections → e.said c.serial = none →
      (s.roomLog ++ [e]).filterMap (RoomEntry.said c.serial) <+: c.chats := by
    intro c e hc he
    rw [List.filterMap_append, List.filterMap_cons_none he, List.filterMap_nil, List.append_nil]
    exact (hall c (Or.inl hc)).said
  cases h with
  | stop k cache => exact hall
  | refuse fd addr k =>
    rintro d (hd | ⟨g, hg, rfl⟩)
    · exact hall d (Or.inl hd)
    · rcases List.mem_append.mp hg with hg | hg
      · exact hall _ (Or.inr ⟨g, hg, rfl⟩)
      · rw [List.mem_singleton.mp hg]
        obtain ⟨habsent, hleft, -, hsaid⟩ := hm.room.fresh s.accepted (Nat.le_refl _)
        refine ⟨List.nil_prefix, ?_, ?_⟩
        · show s.roomLog.filterMap (RoomEntry.said s.accepted) <+: []
          rw [← hm.room.log, hm.inv.said, hsaid]
        · intro e he hserial
          rw [← hm.room.log] at he
          exact absurd hserial (hm.inv.outside _ habsent hleft e he)
  | @move _ c c' ev k hc hmove =>
    have hshows := hmove.shows (hm.room.live c hc)
    refine hput hc ((hall c (Or.inl hc)).congr hmove.samePeer.serial ?_ ?_)
    · rw [hshows.heard, (hm.room.live c hc).heard, hmove.samePeer.serial]
    · cases hmove <;> first | exact List.prefix_refl _ | exact List.prefix_append _ _
  | @giveUp _ c c' k hc hgives =>
    refine hput hc ((hall c (Or.inl hc)).congr hgives.same.1.serial ?_ ?_)
    · rw [Connection.broadcasts, hgives.same.2.1]
      rfl
    · cases hgives <;> first | exact List.prefix_refl _ | exact List.prefix_append _ _
  | @talk _ c c' e sender cs k hc htalk hcs =>
    cases htalk with
    | chat m rest hst hp htype =>
      have hne : c.state ≠ .waitingForClientHello := by
        rcases hst with h | h <;> simp [h]
      have hactor : (c.cut m rest).Chronicled
          (s.roomLog ++ [.chat c.serial c.name m.payload]) := by
        refine hm.actor_chronicled hgoneNamed hc hne rfl rfl rfl (List.prefix_append _ _) ?_
        rw [chats_cut c rest htype, List.filterMap_append, ← hm.room.log, hm.inv.said,
          ← (hm.room.live c hc).said]
        simp [RoomEntry.said]
      have hpeer : SamePeer c (c.cut m rest) := ⟨rfl, rfl, rfl⟩
      exact hm.posted_chronicled hgoneNamed hc hpeer rfl hactor (fun hh => absurd rfl hh.1) hcs k
    | join hst =>
      have hj : ¬c.Joined := by
        rintro (h | h) <;> simp [hst] at h
      have hno : ∀ e ∈ s.roomLog, ¬e.Opens c.serial := fun e he hopen =>
        hm.outside hc hj e he (RoomEntry.serial_of_opens hopen)
      have hactor : Connection.Chronicled (s.roomLog ++ [.connected c.serial c.name])
          { c.drained with state := .active } :=
        hm.actor_chronicled hgoneNamed hc (by simp [hst]) rfl rfl rfl (List.prefix_refl _)
          (hmute hc rfl)
      have hpeer : SamePeer c { c.drained with state := .active } := ⟨rfl, rfl, rfl⟩
      refine hm.posted_chronicled hgoneNamed hc hpeer rfl hactor (fun _ => ?_) hcs k
      have hnil : c.broadcasts = [] := by
        rw [hm.heard hc, dueBroadcasts, Subscription.view_of_not_opened hno]
        rfl
      have hopens : (RoomEntry.connected c.serial c.name).Opens c.serial := rfl
      show c.broadcasts ++ _ <+: dueBroadcasts c.serial _
      rw [hnil, dueBroadcasts_opening hno hopens]
      exact List.prefix_refl _
  | @leave _ c c' cs k hc hleave hcs =>
    have hpeer := hleave.samePeer
    have hne : c.state ≠ .waitingForClientHello := by
      rcases hleave.joined with h | h <;> simp [h]
    have hreleased : Released c c' := Or.inl hleave
    have hactor : c'.Chronicled (s.roomLog ++ [.disconnected c.serial c.name]) :=
      hm.actor_chronicled hgoneNamed hc hne rfl hpeer.serial hreleased.broadcasts
        hreleased.parsed (by rw [hleave.chats]; exact hmute hc rfl)
    refine hm.posted_chronicled hgoneNamed hc hpeer rfl hactor (fun hh => ?_) hcs k
    exact absurd (by rw [hpeer.addr]) hh.1
  | hostTalk text cs k hcs => exact hm.announced_chronicled hgoneNamed rfl hcs k
  | close cs cs' k hcs hcs' =>
    have hfirst := hm.announced_chronicled hgoneNamed (e := .closing) rfl hcs k
    have hbye : (Message.of .closeCon []).type ≠ .broadcast :=
      show MessageType.closeCon ≠ MessageType.broadcast by decide
    rintro d (hd | hd)
    · obtain ⟨d₀, hd₀, ht⟩ := told_of_mem hcs' hd
      exact ht.chronicled (hfirst d₀ (Or.inl hd₀)) (fun htype => absurd htype hbye)
    · exact hfirst d (Or.inr hd)

/-- The log accounts for every record, in every reachable state. -/
theorem reach_chronicled {P : Loop → LoopInput → Prop} {l : Loop}
    (hr : (serverSystem host).Reach P l) :
    ∀ c, l.server.Knows c → c.Chronicled l.server.roomLog := by
  rcases reach_cases hr with ⟨l₀, hr₀, hrun₀, heq⟩ | ⟨l₀, who, hr₀, hrun₀, t, heff, habort⟩
  · obtain ⟨room, hm, hgoneNamed⟩ := reach_departedNamed hr₀ hrun₀
    rw [heq]
    exact hm.chronicled hgoneNamed
  · obtain ⟨room, hm, hgoneNamed⟩ := reach_departedNamed hr₀ hrun₀
    obtain ⟨room', hm', hgoneNamed'⟩ :=
      heff.departedNamed ((reach_inv hr₀ hrun₀).closedBy who) hm hgoneNamed
    exact habort.chronicled hm' hgoneNamed'

lemma Abort.log_prefix (h : Abort who s s') : s.roomLog <+: s'.roomLog := by
  cases h <;> first | exact List.prefix_refl _ | exact List.prefix_append _ _

theorem path_log_prefix {P : Loop → LoopInput → Prop} {l l' : Loop}
    (hr : (serverSystem host).Reach P l) (hp : (serverSystem host).Path P l l') :
    l.server.roomLog <+: l'.server.roomLog := by
  refine path_relates (R := fun s t => s.roomLog <+: t.roomLog) (fun s => List.prefix_refl _)
    (fun _ _ _ h h' => h.trans h') ?_ (fun _ _ _ _ habort => habort.log_prefix) hr hp
  intro who s t _ heff
  exact heff.preserves (I := fun u => s.roomLog <+: u.roomLog)
    (fun u v hu hstep => hu.trans hstep.log_prefix) (List.prefix_refl _)

theorem reach_unborn {P : Loop → LoopInput → Prop} {l : Loop}
    (hr : (serverSystem host).Reach P l) {n : ℕ} (hn : l.server.accepted ≤ n) :
    ∀ e ∈ l.server.roomLog, e.serial ≠ some n := by
  have hfresh : ∀ {s : Server} {r : Room}, s.Midway host r → s.accepted ≤ n →
      ∀ e ∈ s.roomLog, e.serial ≠ some n := by
    intro s r hm hn
    obtain ⟨habsent, hleft, -, -⟩ := hm.room.fresh n hn
    rw [← hm.room.log]
    exact hm.inv.outside n habsent hleft
  rcases reach_cases hr with ⟨l₀, hr₀, hrun₀, heq⟩ | ⟨l₀, who, hr₀, hrun₀, t, heff, habort⟩
  · obtain ⟨room, hm⟩ := reach_midway hr₀ hrun₀
    rw [heq] at hn ⊢
    exact hfresh hm hn
  · obtain ⟨room, hm⟩ := reach_midway hr₀ hrun₀
    obtain ⟨room', hm', -⟩ := heff.midway ((reach_inv hr₀ hrun₀).closedBy who) hm
    have hle : t.accepted ≤ l.server.accepted := by
      rcases habort.departures with ⟨-, hacc⟩ | ⟨d, -, -, hacc, -⟩ <;> omega
    have hold := hfresh hm' (hle.trans hn)
    have hactor : ∀ {c : Connection} {e : RoomEntry}, c ∈ t.connections →
        e.serial = some c.serial → e.serial ≠ some n := by
      intro c e hc he heq
      have hlt := hm'.sound.registry.serial_lt c hc
      have hserial : c.serial = n := Option.some.inj (he.symm.trans heq)
      omega
    generalize l.server = s at habort
    cases habort with
    | stop k cache => exact hold
    | refuse fd addr k => exact hold
    | move k hc hmove => exact hold
    | giveUp k hc hgives => exact hold
    | talk cs k hc htalk hcs =>
      refine List.forall_mem_append.mpr ⟨hold, List.forall_mem_singleton.mpr (hactor hc ?_)⟩
      cases htalk <;> rfl
    | leave cs k hc hleave hcs =>
      exact List.forall_mem_append.mpr ⟨hold, List.forall_mem_singleton.mpr (hactor hc rfl)⟩
    | hostTalk text cs k hcs =>
      exact List.forall_mem_append.mpr ⟨hold, List.forall_mem_singleton.mpr (fun h => by cases h)⟩
    | close cs cs' k hcs hcs' =>
      exact List.forall_mem_append.mpr ⟨hold, List.forall_mem_singleton.mpr (fun h => by cases h)⟩

end Aborted

end Chatroom
