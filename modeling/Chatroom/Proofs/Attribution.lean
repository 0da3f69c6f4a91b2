import Chatroom.Proofs.Dialog
import Chatroom.Proofs.EndToEnd
import Chatroom.Proofs.Forgery

/-!
# Who said what is on a terminal

A line reads `[who] text` in one way only when no name has a blank. So when the host and the
clients got their names from the dialogs, what a terminal shows under a name was said by someone
of that name, and what it shows under `server` is a notice.
-/

namespace Chatroom
open Interleaving Transition

/-! ### The roll -/

/-- The serial numbers of the connections that a server has or has had. -/
def Server.roll (s : Server) : List ℕ :=
  s.connections.map Connection.serial ++ s.departed.map (fun d => d.conn.serial)

section Roll

variable {host : Bytes} {s t : Server} {who : Option ℕ} {c c' : Connection}

lemma serials_enqueueTo (p : Connection → Prop) [DecidablePred p] (m : Message)
    (cs : List Connection) :
    (enqueueTo p m cs).map Connection.serial = cs.map Connection.serial :=
  map_enqueueTo Connection.serial (fun _ _ => rfl) p m cs

lemma serials_put (hd : s.Distinct) (hc : c ∈ s.connections) (hpeer : SamePeer c c') :
    (s.put c').connections.map Connection.serial = s.connections.map Connection.serial :=
  Server.map_put hd hc hpeer.addr _ hpeer.serial

lemma roll_released (hd : s.Distinct) (hc : c ∈ s.connections) (hpeer : SamePeer c c')
    (k : Kernel) : (s.released c' k).roll.Perm s.roll := by
  have hcs : (s.released c' k).connections.map Connection.serial =
      (s.connections.map Connection.serial).erase c.serial := by
    rw [Server.released, hpeer.addr]
    exact Keyed.map_remove_eq_erase hd.addrs hd.serials hc
  have hdep : (s.released c' k).departed.map (fun d => d.conn.serial) =
      s.departed.map (fun d => d.conn.serial) ++ [c.serial] := by
    rw [← hpeer.serial]
    simp [Server.released]
  have hmem : c.serial ∈ s.connections.map Connection.serial := List.mem_map_of_mem hc
  rw [Server.roll, hcs, hdep, ← List.append_assoc]
  refine (List.perm_append_singleton _ _).trans ?_
  rw [← List.cons_append]
  exact (List.perm_cons_erase hmem).symm.append_right _

lemma roll_accepted (hcs : t.connections.map Connection.serial =
      s.connections.map Connection.serial ++ [s.accepted])
    (hdep : t.departed = s.departed) (hroll : s.roll.Perm (List.range s.accepted)) :
    t.roll.Perm (List.range (s.accepted + 1)) := by
  rw [Server.roll, hcs, hdep, List.range_succ, List.append_assoc]
  refine (List.perm_append_comm_assoc _ _ _).trans ?_
  exact (List.perm_append_comm).trans (hroll.append_right _)

/-- Every number is on the roll once that was given to a connection. -/
def Server.Complete (s : Server) : Prop :=
  s.roll.Perm (List.range s.accepted)

lemma Server.Complete.congr (h : s.Complete)
    (hcs : t.connections.map Connection.serial = s.connections.map Connection.serial)
    (hdep : t.departed = s.departed) (hacc : t.accepted = s.accepted) : t.Complete := by
  rw [Server.Complete, Server.roll, hcs, hdep, hacc]
  exact h

lemma Effect.complete (hs : s.Sound) (hroll : s.Complete) (h : Effect who s t) : t.Complete := by
  have hd := hs.registry.distinct
  cases h with
  | silent k cache hk => exact hroll
  | accept fd addr k hfd haddr hopen hk => exact roll_accepted (by simp [newConnection]) rfl hroll
  | move k hc hmove hk => exact hroll.congr (serials_put hd hc hmove.samePeer) rfl rfl
  | talk k hc htalk hlegal hk =>
    refine hroll.congr ?_ rfl rfl
    exact (serials_enqueueTo _ _ _).trans (serials_put hd hc htalk.samePeer)
  | @leave _ c c' k k' hc hleave hlegal hk hk' =>
    have hpeer := hleave.samePeer
    have hheard := (hd.put hc hpeer).heard (some c.addr) (.disconnected c.serial c.name) k
    have hmem : c' ∈ (s.put c').connections := mem_put hc hpeer.addr
    have hsaid : ((s.put c').heard (some c.addr) (.disconnected c.serial c.name) k).Complete :=
      hroll.congr ((serials_enqueueTo _ _ _).trans (serials_put hd hc hpeer)) rfl rfl
    obtain ⟨d, hdm, hsame⟩ : ∃ d ∈ ((s.put c').heard (some c.addr)
        (.disconnected c.serial c.name) k).connections, SamePeer d c' := by
      refine ⟨_, List.mem_map_of_mem hmem, ?_⟩
      split_ifs <;> exact ⟨rfl, rfl, rfl⟩
    exact (roll_released hheard hdm hsame k').trans hsaid
  | drop k hc hdrop hk => exact (roll_released hd hc hdrop.samePeer k).trans hroll
  | hostTalk text k hlegal hk => exact hroll.congr (serials_enqueueTo _ _ _) rfl rfl
  | close k k' hk hk' =>
    refine hroll.congr ?_ rfl rfl
    exact (serials_enqueueTo _ _ _).trans (serials_enqueueTo _ _ _)
  | print => exact hroll

lemma Abort.complete (hs : s.Sound) (hroll : s.Complete) (h : Abort who s t) : t.Complete := by
  have hd := hs.registry.distinct
  cases h with
  | stop k cache => exact hroll
  | refuse fd addr k =>
    show (s.connections.map Connection.serial ++ (s.departed ++ _).map _).Perm _
    rw [List.map_append, ← List.append_assoc, List.range_succ]
    exact hroll.append_right [s.accepted]
  | move k hc hmove => exact hroll.congr (serials_put hd hc hmove.samePeer) rfl rfl
  | giveUp k hc hgives => exact hroll.congr (serials_put hd hc hgives.same.1) rfl rfl
  | talk cs k hc htalk hcs =>
    exact hroll.congr ((told_serials hcs).trans (serials_put hd hc htalk.samePeer)) rfl rfl
  | leave cs k hc hleave hcs =>
    exact hroll.congr ((told_serials hcs).trans (serials_put hd hc hleave.samePeer)) rfl rfl
  | hostTalk text cs k hcs => exact hroll.congr (told_serials hcs) rfl rfl
  | close cs cs' k hcs hcs' =>
    exact hroll.congr ((told_serials hcs').trans (told_serials hcs)) rfl rfl

theorem reach_complete {P : Loop → LoopInput → Prop} {l : Loop}
    (hr : (serverSystem host).Reach P l) : l.server.Complete := by
  obtain ⟨l₀, hinit, hpath⟩ := hr
  have hkeeps : l₀.server.Complete → l.server.Complete := by
    refine path_relates (R := fun s t => s.Complete → t.Complete) (fun _ h => h)
      (fun _ _ _ h h' hs => h' (h hs)) ?_ (fun _ _ _ hs h hroll => h.complete hs hroll)
      (System.Reach.of_init hinit) hpath
    intro who s t hs heff hroll
    have hboth : t.Sound ∧ t.Complete :=
      heff.preserves (I := fun u => u.Sound ∧ u.Complete)
        (fun _ _ hu hstep => ⟨hstep.sound hu.1, hstep.complete hu.1 hu.2⟩) ⟨hs, hroll⟩
    exact hboth.2
  apply hkeeps
  obtain ⟨listenFd, epollFd, -, rfl⟩ := hinit
  exact List.Perm.refl _

lemma reach_recorded_serial {P : Loop → LoopInput → Prop} {l : Loop}
    (hr : (serverSystem host).Reach P l) {e : RoomEntry} (he : e ∈ l.server.roomLog) {n : ℕ}
    (hn : e.serial = some n) : ∃ c, l.server.Knows c ∧ c.serial = n := by
  have hlt : n < l.server.accepted := by
    by_contra hle
    exact reach_unborn hr (Nat.le_of_not_lt hle) e he hn
  have hmem : n ∈ l.server.roll := (reach_complete hr).mem_iff.mpr (List.mem_range.mpr hlt)
  rcases List.mem_append.mp hmem with hlive | hgone
  · obtain ⟨c, hc, rfl⟩ := List.mem_map.mp hlive
    exact ⟨c, Or.inl hc, rfl⟩
  · obtain ⟨d, hd, rfl⟩ := List.mem_map.mp hgone
    exact ⟨d.conn, Or.inr ⟨d, hd, rfl⟩, rfl⟩

end Roll

lemma reach_hosted {host : Bytes} {P : Loop → LoopInput → Prop} {l : Loop}
    (hr : (serverSystem host).Reach P l) {name text : Bytes}
    (he : .hostChat name text ∈ l.server.roomLog) : name = host := by
  rcases reach_cases hr with ⟨l₀, hr₀, hrun₀, heq⟩ | ⟨l₀, who, hr₀, hrun₀, t, heff, habort⟩
  · obtain ⟨room, hm⟩ := reach_midway hr₀ hrun₀
    rw [heq, ← hm.room.log] at he
    exact hm.inv.hosted name text he
  · obtain ⟨room, hm⟩ := reach_midway hr₀ hrun₀
    obtain ⟨room', hm', -⟩ := heff.midway ((reach_inv hr₀ hrun₀).closedBy who) hm
    have hold : .hostChat name text ∈ t.roomLog → name = host := by
      rw [← hm'.room.log]
      exact hm'.inv.hosted name text
    have hnew : ∀ {e : RoomEntry}, .hostChat name text ∈ t.roomLog ++ [e] →
        (e = .hostChat name text → name = host) → name = host := by
      intro e hmem hlast
      rcases List.mem_append.mp hmem with hmem | hmem
      · exact hold hmem
      · exact hlast (List.mem_singleton.mp hmem).symm
    generalize l.server = s at he habort
    cases habort with
    | stop k cache => exact hold he
    | refuse fd addr k => exact hold he
    | move k hc hmove => exact hold he
    | giveUp k hc hgives => exact hold he
    | talk cs k hc htalk hcs => exact hnew he (fun heq => by cases htalk <;> cases heq)
    | leave cs k hc hleave hcs => exact hnew he (fun heq => by cases heq)
    | hostTalk text' cs k hcs =>
      refine hnew he (fun heq => ?_)
      cases heq
      exact hm'.name
    | close cs cs' k hcs hcs' => exact hnew he (fun heq => by cases heq)

/-! ### Reading a line -/

/-- A name without blanks is read off a line in one way. -/
lemma formatLine_inj {who who' text text' : Bytes} (hwho : ∀ ch ∈ who, isSpace ch = false)
    (hwho' : ∀ ch ∈ who', isSpace ch = false)
    (h : formatLine who text = formatLine who' text') : who = who' ∧ text = text' := by
  have hcut : ∀ {name payload : Bytes}, (∀ ch ∈ name, isSpace ch = false) →
      (formatLine name payload).takeWhile (fun ch => !isSpace ch) = 91 :: (name ++ [93]) := by
    intro name payload hname
    have hline : formatLine name payload = (91 :: (name ++ [93])) ++ 32 :: payload := by
      simp [formatLine, ascii]
    have hstop : ∀ ch ∈ 91 :: (name ++ [93]), (!isSpace ch) = true := by
      intro ch hch
      rcases List.mem_cons.mp hch with rfl | hch
      · decide
      · rcases List.mem_append.mp hch with hch | hch
        · rw [hname ch hch]
          rfl
        · rw [List.mem_singleton.mp hch]
          decide
    rw [hline, List.takeWhile_append_of_pos hstop]
    simp [isSpace]
  have hnames := congrArg (List.takeWhile (fun ch => !isSpace ch)) h
  rw [hcut hwho, hcut hwho', List.cons.injEq, List.append_left_inj] at hnames
  obtain ⟨-, rfl⟩ := hnames
  refine ⟨rfl, ?_⟩
  rwa [formatLine, formatLine, List.append_right_inj] at h

/-- The lines that a program prints of its own accord. -/
def ownNotes : List (Bytes × Bytes) :=
  [(ascii "client", ascii "connected to server. Start chatting."),
    (ascii "client", ascii "server closed the room."), (ascii "client", ascii "exiting."),
    (ascii "app", ascii "message length too long.")]

/-- What the line `[who] text` stands for: a note of the program itself, a notice of the server, a
remark of the host, or one of a client of that name. -/
def Network.Attributes (host : Bytes) (names : ℕ → Bytes) (net : Network) (who text : Bytes) :
    Prop :=
  (who, text) ∈ ownNotes ∨
    (who = ascii "server" ∧ ∃ e ∈ net.server.server.roomLog, e.IsNotice ∧ e.text = text) ∨
    (who = host ∧ .hostChat host text ∈ net.server.server.roomLog) ∨
    ∃ k, names k = who ∧ text ∈ (net.clients k).client.conn.spoken

/-- However a line is read as `[who] text` with no blank in the name, it is what it says. -/
def Network.Attributed (host : Bytes) (names : ℕ → Bytes) (net : Network) (line : Bytes) : Prop :=
  ∀ who text, (∀ ch ∈ who, isSpace ch = false) → line = formatLine who text →
    net.Attributes host names who text

section Net

variable {host : Bytes} {names : ℕ → Bytes} {peer : ℕ → ℕ} {net : Network} {who text : Bytes}

lemma attributes_note (note : Bytes × Bytes) (hnote : note ∈ ownNotes)
    (hword : ∀ ch ∈ who, isSpace ch = false)
    (hread : formatLine note.1 note.2 = formatLine who text) :
    net.Attributes host names who text := by
  have hall : ownNotes.all (fun note => note.1.all (fun ch => !isSpace ch)) = true := by decide
  have hnotes : ∀ note ∈ ownNotes, ∀ ch ∈ note.1, isSpace ch = false :=
    fun note hnote => word_of_all (List.all_eq_true.mp hall note hnote)
  obtain ⟨rfl, rfl⟩ := formatLine_inj (hnotes note hnote) hword hread
  exact Or.inl hnote

lemma attributes_entry (hr : (networkSystem host names peer).Reach System.any net)
    (hhost : LegalName host) (hnames : ∀ n, LegalName (names n)) {e : RoomEntry}
    (he : e ∈ net.server.server.roomLog) (hword : ∀ ch ∈ who, isSpace ch = false)
    (hread : e.line = formatLine who text) : net.Attributes host names who text := by
  obtain ⟨hserver, -, -⟩ := network_components hr
  have hnotice : e.author = ascii "server" → e.IsNotice → net.Attributes host names who text := by
    intro hauthor hkind
    rw [RoomEntry.line, hauthor] at hread
    have hserverWord : ∀ ch ∈ ascii "server", isSpace ch = false := word_of_all (by decide)
    obtain ⟨rfl, htext⟩ := formatLine_inj hserverWord hword hread
    exact Or.inr (Or.inl ⟨rfl, e, he, hkind, htext⟩)
  cases e with
  | connected serial name => exact hnotice rfl trivial
  | disconnected serial name => exact hnotice rfl trivial
  | closing => exact hnotice rfl trivial
  | hostChat name said =>
    obtain rfl := reach_hosted hserver he
    obtain ⟨rfl, rfl⟩ := formatLine_inj hhost.word hword hread
    exact Or.inr (Or.inr (Or.inl ⟨rfl, he⟩))
  | chat serial name said =>
    obtain ⟨c, hc, rfl⟩ := reach_recorded_serial hserver he rfl
    obtain ⟨hsaid, hspeaker⟩ := log_of_client hr hc
    have hname : name = names (peer c.serial) := Option.some.inj (hspeaker _ he rfl)
    obtain ⟨rfl, rfl⟩ := formatLine_inj (by rw [hname]; exact (hnames _).word) hword hread
    refine Or.inr (Or.inr (Or.inr ⟨peer c.serial, hname.symm, ?_⟩))
    apply hsaid.subset
    exact List.mem_filterMap.mpr ⟨_, he, if_pos rfl⟩

lemma attributes_remark {n : ℕ} {remarks : List Remark} (hname : LegalName (names n))
    (hsaid : remarks.filterMap Remark.text = (net.clients n).client.conn.spoken) {remark : Remark}
    (hmem : remark ∈ remarks) (hword : ∀ ch ∈ who, isSpace ch = false)
    (hread : remark.line (names n) = formatLine who text) :
    net.Attributes host names who text := by
  cases remark with
  | said said =>
    obtain ⟨rfl, rfl⟩ := formatLine_inj hname.word hword hread
    refine Or.inr (Or.inr (Or.inr ⟨n, rfl, ?_⟩))
    rw [← hsaid]
    exact List.mem_filterMap.mpr ⟨_, hmem, rfl⟩
  | tooLong =>
    exact attributes_note (ascii "app", ascii "message length too long.") (by decide) hword hread
  | exiting =>
    exact attributes_note (ascii "client", ascii "exiting.") (by decide) hword hread

lemma attributed_by_client (hhost : LegalName host) (hnames : ∀ n, LegalName (names n))
    (hr : (networkSystem host names peer).Reach System.any net) (n : ℕ) :
    ∀ line ∈ (net.clients n).client.stdout, net.Attributed host names line := by
  intro line hline who text hword hread
  obtain ⟨-, hclients, -⟩ := network_components hr
  obtain ⟨remarks, shown, hterm, -⟩ := clientReach_terminalIs (hclients n)
  rcases hterm.terminal.mem_iff.mp hline with hown | hincoming
  · obtain ⟨remark, hmem, rfl⟩ := List.mem_map.mp hown
    exact attributes_remark (hnames n) hterm.said hmem hword hread
  · have hwelcome : line ∈ welcome host → net.Attributes host names who text := by
      intro hmem
      rcases List.mem_cons.mp hmem with rfl | hmem
      · have hhead := congrArg List.head? hread
        simp [formatLine, ascii] at hhead
      · rw [List.mem_singleton.mp hmem] at hread
        exact attributes_note (ascii "client", ascii "connected to server. Start chatting.")
          (by decide) hword hread
    have hdismissal : line = dismissal → net.Attributes host names who text := by
      rintro rfl
      exact attributes_note (ascii "client", ascii "server closed the room.") (by decide) hword
        hread
    rcases hterm.showsRoom hr with hnil | ⟨c, -, -, -, seen, hseen, hcases⟩
    · rw [hnil] at hincoming
      cases hincoming
    · have hroom : line ∈ seen → net.Attributes host names who text := by
        intro hmem
        obtain ⟨e, he, rfl⟩ := List.mem_map.mp (hseen.subset hmem)
        exact attributes_entry hr hhost hnames (Subscription.view_subset he) hword hread
      rcases hcases with heq | heq
      · rw [heq] at hincoming
        exact (List.mem_append.mp hincoming).elim hwelcome hroom
      · rw [heq] at hincoming
        rcases List.mem_append.mp hincoming with hmem | hmem
        · exact (List.mem_append.mp hmem).elim hwelcome hroom
        · exact hdismissal (List.mem_singleton.mp hmem)

lemma attributed_by_host (hhost : LegalName host) (hnames : ∀ n, LegalName (names n))
    (hr : (networkSystem host names peer).Reach System.any net) :
    ∀ line ∈ net.server.server.stdout, net.Attributed host names line := by
  intro line hline who text hword hread
  obtain ⟨hserver, -, -⟩ := network_components hr
  rcases (reach_gated hserver).printed line hline with rfl | ⟨e, he, rfl⟩
  · exact attributes_note (ascii "app", ascii "message length too long.") (by decide) hword hread
  · exact attributes_entry hr hhost hnames he hword hread

/-- When the names come from the dialogs nobody can speak for someone else, or for the server:
whatever the terminal of a client or of the host shows as `[who] text`, in every state of a
network, is what it says. -/
theorem nobody_is_impersonated (hhost : LegalName host) (hnames : ∀ n, LegalName (names n))
    (hr : (networkSystem host names peer).Reach System.any net) :
    (∀ n, ∀ line ∈ (net.clients n).client.stdout, net.Attributed host names line) ∧
      ∀ line ∈ net.server.server.stdout, net.Attributed host names line :=
  ⟨attributed_by_client hhost hnames hr, attributed_by_host hhost hnames hr⟩

end Net

theorem nobody_is_impersonated_hi : ∃ net : Network,
    (net.clients 0).client.stdout = welcome (ascii "host") ++
        [ascii "[server] `ann` connected.", ascii "[ann] hi"] ∧
      (∀ n, ∀ line ∈ (net.clients n).client.stdout,
        net.Attributed (ascii "host") (fun _ => ascii "ann") line) ∧
      ∀ line ∈ net.server.server.stdout,
        net.Attributed (ascii "host") (fun _ => ascii "ann") line := by
  obtain ⟨net, net', c, hr, hp, -, -, -, -, -, -, hshown⟩ := small_network_says_hi
  have hhost : LegalName (ascii "host") := ⟨by decide, word_of_all (by decide), by decide⟩
  have hann : LegalName (ascii "ann") := ⟨by decide, word_of_all (by decide), by decide⟩
  exact ⟨net', hshown, nobody_is_impersonated hhost (fun _ => hann) (hr.path hp)⟩

end Chatroom
