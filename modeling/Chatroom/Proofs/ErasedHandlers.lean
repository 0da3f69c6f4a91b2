import Chatroom.Proofs.Gate
import Chatroom.Proofs.Reliable
import Chatroom.Proofs.Runs

/-!
# A room without some of its connections

Two servers, one of which serves the connections that count and the other one these and
more. As long as the connections that do not count are not active, every handler keeps the
two alike, and what the others send changes nothing that the first server has.
-/

namespace Chatroom
open Fallible

/-- The same connection under another serial number. -/
inductive Renumbered (c : Connection) : Connection → Prop
  | renumber (n : ℕ) : Renumbered c { c with serial := n }

/-- The connections that count. -/
def guestsOf (seen : ℕ → Bool) (cs : List Connection) : List Connection :=
  cs.filter (fun c => seen c.serial)

/-- The server `t` has the connections of `s` that count, up to their numbers, and printed the
same lines. -/
structure SameRoom (seen : ℕ → Bool) (s t : Server) : Prop where
  guests : List.Forall₂ Renumbered (guestsOf seen s.connections) t.connections
  printed : t.stdout = s.stdout

/-- The kernel watches nothing but what the server knows. -/
def Server.Registers (s : Server) : Prop :=
  ∀ fd, s.kernel.mask fd ≠ none →
    fd = s.listenFd ∨ fd = stdinFileno ∨ fd ∈ s.connections.map Connection.fd

/-- The server `t` is `s` without the connections that do not count. -/
structure Erased (seen : ℕ → Bool) (s t : Server) : Prop extends SameRoom seen s t where
  name : t.name = s.name
  listenFd : t.listenFd = s.listenFd
  epollFd : t.epollFd = s.epollFd
  closing : t.serverClosing = s.serverClosing
  registers : s.Registers
  registers' : t.Registers

/-- What the two servers and the connections that do not count satisfy while a handler runs. -/
structure Close (seen : ℕ → Bool) (s t : Server) : Prop extends Erased seen s t where
  distinct : s.Distinct
  distinct' : t.Distinct
  reliable : s.Reliable
  reliable' : t.Reliable
  quiet : ∀ c ∈ s.connections, seen c.serial = false → c.state ≠ .active

/-- Two calls that report the same and leave the same room. -/
structure ErasedResult (seen : ℕ → Bool) (r r' : Bool × Server) : Prop where
  reported : r'.1 = r.1
  room : SameRoom seen r.2 r'.2
  goesOn : r.1 = true → Erased seen r.2 r'.2

lemma Erased.returns {seen : ℕ → Bool} {s t : Server} (h : Erased seen s t) :
    ErasedResult seen (true, s) (true, t) :=
  ⟨rfl, h.toSameRoom, fun _ => h⟩

lemma SameRoom.givesUp {seen : ℕ → Bool} {s t : Server} (h : SameRoom seen s t) :
    ErasedResult seen (false, s) (false, t) :=
  ⟨rfl, h, fun hok => absurd hok Bool.false_ne_true⟩

/-! ### One connection under two numbers -/

section Renumbering

variable {c d : Connection}

lemma Renumbered.same {α : Type*} (h : Renumbered c d) (f : Connection → α)
    (hf : ∀ n, f { c with serial := n } = f c) : f d = f c := by
  cases h with
  | renumber n => exact hf n

lemma Renumbered.addr (h : Renumbered c d) : d.addr = c.addr :=
  h.same Connection.addr (fun _ => rfl)

lemma Renumbered.fd (h : Renumbered c d) : d.fd = c.fd :=
  h.same Connection.fd (fun _ => rfl)

lemma Renumbered.state (h : Renumbered c d) : d.state = c.state :=
  h.same Connection.state (fun _ => rfl)

lemma Renumbered.inBuffer (h : Renumbered c d) : d.inBuffer = c.inBuffer :=
  h.same Connection.inBuffer (fun _ => rfl)

lemma Renumbered.outBuffer (h : Renumbered c d) : d.outBuffer = c.outBuffer :=
  h.same Connection.outBuffer (fun _ => rfl)

lemma Renumbered.name (h : Renumbered c d) : d.name = c.name :=
  h.same Connection.name (fun _ => rfl)

lemma Renumbered.unsent (h : Renumbered c d) : d.unsent = c.unsent :=
  h.same Connection.unsent (fun _ => rfl)

lemma Renumbered.map (h : Renumbered c d) (f : Connection → Connection)
    (hf : ∀ n, f { c with serial := n } = { f c with serial := n }) : Renumbered (f c) (f d) := by
  cases h with
  | renumber n =>
    rw [hf n]
    exact Renumbered.renumber n

lemma Renumbered.cut (h : Renumbered c d) (m : Message) (rest : Bytes) :
    Renumbered (c.cut m rest) (d.cut m rest) :=
  h.map (fun c => c.cut m rest) (fun _ => rfl)

lemma Renumbered.enqueue (h : Renumbered c d) (m : Message) :
    Renumbered (c.enqueue m) (d.enqueue m) :=
  h.map (fun c => c.enqueue m) (fun _ => rfl)

lemma Renumbered.reject (h : Renumbered c d) (x : Complaint) :
    Renumbered (c.reject x) (d.reject x) :=
  h.map (fun c => c.reject x) (fun _ => rfl)

end Renumbering

section Guests

variable {seen : ℕ → Bool} {s t : Server} {c d : Connection}

lemma mem_guestsOf {cs : List Connection} :
    c ∈ guestsOf seen cs ↔ c ∈ cs ∧ seen c.serial = true :=
  List.mem_filter

lemma guestsOf_cons_seen (hseen : seen c.serial = true) (cs : List Connection) :
    guestsOf seen (c :: cs) = c :: guestsOf seen cs :=
  List.filter_cons_of_pos hseen

lemma guestsOf_cons_unseen (hunseen : seen c.serial = false) (cs : List Connection) :
    guestsOf seen (c :: cs) = guestsOf seen cs :=
  List.filter_cons_of_neg (by simp [hunseen])

lemma SameRoom.renumbered (h : SameRoom seen s t) (hc : c ∈ s.connections)
    (hseen : seen c.serial = true) :
    ∃ d ∈ t.connections, Renumbered c d := by
  have hmem : c ∈ guestsOf seen s.connections := mem_guestsOf.mpr ⟨hc, hseen⟩
  have hall : ∀ {l l' : List Connection}, List.Forall₂ Renumbered l l' →
      ∀ c ∈ l, ∃ d ∈ l', Renumbered c d := by
    intro l l' hl
    induction hl with
    | nil => simp
    | cons hhead _ ih =>
      intro c hc
      rcases List.mem_cons.mp hc with rfl | hc
      · exact ⟨_, List.mem_cons_self, hhead⟩
      · obtain ⟨d, hd, hnum⟩ := ih c hc
        exact ⟨d, List.mem_cons_of_mem _ hd, hnum⟩
  exact hall h.guests c hmem

lemma SameRoom.origin (h : SameRoom seen s t) (hd : d ∈ t.connections) :
    ∃ c ∈ s.connections, seen c.serial = true ∧ Renumbered c d := by
  have hall : ∀ {l l' : List Connection}, List.Forall₂ Renumbered l l' →
      ∀ d ∈ l', ∃ c ∈ l, Renumbered c d := by
    intro l l' hl
    induction hl with
    | nil => simp
    | cons hhead _ ih =>
      intro d hd
      rcases List.mem_cons.mp hd with rfl | hd
      · exact ⟨_, List.mem_cons_self, hhead⟩
      · obtain ⟨c, hc, hnum⟩ := ih d hd
        exact ⟨c, List.mem_cons_of_mem _ hc, hnum⟩
  obtain ⟨c, hc, hnum⟩ := hall h.guests d hd
  obtain ⟨hmem, hseen⟩ := mem_guestsOf.mp hc
  exact ⟨c, hmem, hseen, hnum⟩

lemma SameRoom.find_none (h : SameRoom seen s t) {fd : Fd}
    (hnone : ∀ c ∈ s.connections, seen c.serial = true → c.fd ≠ fd) : t.find fd = none := by
  apply Keyed.lookup_none.mpr
  intro d hd
  obtain ⟨c, hc, hseen, hnum⟩ := h.origin hd
  rw [hnum.fd]
  exact hnone c hc hseen

end Guests

/-! ### The pieces of the handlers -/

lemma epollFdMod_keeps {k : Kernel} (hk : k.ctlScript = []) {fd : Fd} (hfd : k.mask fd ≠ none)
    (events : EventMask) :
    ∃ k', epollFdMod k fd events = (true, k') ∧ k'.ctlScript = [] ∧
      ∀ g, k'.mask g = none ↔ k.mask g = none := by
  obtain ⟨k', hmod, hk'⟩ := epollFdMod_succeeds hk hfd events
  refine ⟨k', hmod, hk', ?_⟩
  intro g
  have hregistered := epollFdMod_registered k fd events g
  rwa [hmod] at hregistered

lemma queueToEach_renumbered {skip : Connection → Bool}
    (hnum : ∀ c d, Renumbered c d → skip d = skip c)
    {seen : ℕ → Bool} (m : Message) (events : EventMask) {cs ds : List Connection} {k k' : Kernel}
    (hcs : List.Forall₂ Renumbered (guestsOf seen cs) ds)
    (hskip : ∀ c ∈ cs, seen c.serial = false → skip c = true)
    (hk : k.ctlScript = []) (hk' : k'.ctlScript = []) (hreg : ∀ c ∈ cs, k.mask c.fd ≠ none)
    (hreg' : ∀ d ∈ ds, k'.mask d.fd ≠ none) :
    (Server.queueToEach skip m events ds k').1 = (Server.queueToEach skip m events cs k).1 ∧
      List.Forall₂ Renumbered (guestsOf seen (Server.queueToEach skip m events cs k).2.1)
        (Server.queueToEach skip m events ds k').2.1 := by
  have hcons : ∀ (b : Connection) {e : Connection} {bs es : List Connection},
      seen b.serial = true → Renumbered b e → List.Forall₂ Renumbered (guestsOf seen bs) es →
        List.Forall₂ Renumbered (guestsOf seen (b :: bs)) (e :: es) := by
    intro b e bs es hseen hhead htail
    rw [guestsOf_cons_seen hseen]
    exact List.Forall₂.cons hhead htail
  induction cs generalizing ds k k' with
  | nil =>
    cases hcs
    exact ⟨rfl, List.Forall₂.nil⟩
  | cons c cs ih =>
    have hskip' : ∀ b ∈ cs, seen b.serial = false → skip b = true :=
      fun b hb => hskip b (List.mem_cons_of_mem c hb)
    have hregcs : ∀ b ∈ cs, k.mask b.fd ≠ none := fun b hb => hreg b (List.mem_cons_of_mem c hb)
    by_cases hseen : seen c.serial = true
    · rw [guestsOf_cons_seen hseen] at hcs
      cases hcs with
      | @cons _ d _ ds hhead htail =>
        have hregds : ∀ b ∈ ds, k'.mask b.fd ≠ none :=
          fun b hb => hreg' b (List.mem_cons_of_mem d hb)
        have hd := hnum c d hhead
        by_cases hc : skip c = true
        · rw [hc] at hd
          obtain ⟨hok, hrest⟩ := ih htail hskip' hk hk' hregcs hregds
          simp only [Server.queueToEach, hc, hd, if_true, guestsOf_cons_seen hseen]
          exact ⟨hok, List.Forall₂.cons hhead hrest⟩
        · have hc : skip c = false := by simpa using hc
          rw [hc] at hd
          simp only [Server.queueToEach, hc, hd, Bool.false_eq_true, if_false,
            protocolQueueMessage_eq]
          by_cases hlegal : protocolPayloadLengthIsLegal m.payload.length
          · obtain ⟨k₁, hmod, hk₁, hsame⟩ := epollFdMod_keeps hk (hreg c List.mem_cons_self) events
            obtain ⟨k₁', hmod', hk₁', hsame'⟩ :=
              epollFdMod_keeps hk' (hreg' d List.mem_cons_self) events
            obtain ⟨hok, hrest⟩ := ih htail hskip' hk₁ hk₁'
              (fun b hb => fun hnone => hregcs b hb ((hsame b.fd).mp hnone))
              (fun b hb => fun hnone => hregds b hb ((hsame' b.fd).mp hnone))
            simp only [if_pos hlegal, hmod, hmod']
            exact ⟨hok, hcons _ hseen (hhead.enqueue m) hrest⟩
          · simp only [if_neg hlegal]
            exact ⟨trivial, hcons (c.reject _) hseen (hhead.reject _) htail⟩
    · have hseen' : seen c.serial = false := by simpa using hseen
      have hc := hskip c List.mem_cons_self hseen'
      rw [guestsOf_cons_unseen hseen'] at hcs
      obtain ⟨hok, hrest⟩ := ih hcs hskip' hk hk' hregcs hreg'
      simp only [Server.queueToEach, hc, if_true, guestsOf_cons_unseen hseen']
      exact ⟨hok, hrest⟩

lemma MasksAfter.none_iff {k k' : Kernel} {cs : List Connection} {p : Connection → Prop}
    {events : EventMask} (h : MasksAfter k k' cs p events) (hreg : ∀ c ∈ cs, k.mask c.fd ≠ none)
    (fd : Fd) : k'.mask fd = none ↔ k.mask fd = none := by
  rcases h fd with ⟨⟨c, hc, -, rfl⟩, hmask⟩ | ⟨-, hmask⟩
  · rw [hmask]
    exact iff_of_false (Option.some_ne_none events) (hreg c hc)
  · rw [hmask]

section Pieces

variable {seen : ℕ → Bool} {s t : Server} {c d c' d' : Connection}

namespace Server.Registers

lemma congr (h : s.Registers) {s' : Server} (hlisten : s'.listenFd = s.listenFd)
    (hfds : s'.connections.map Connection.fd = s.connections.map Connection.fd)
    (hmask : ∀ fd, s'.kernel.mask fd = none ↔ s.kernel.mask fd = none) : s'.Registers := by
  intro fd hfd
  rw [hlisten, hfds]
  exact h fd (fun hnone => hfd ((hmask fd).mpr hnone))

lemma put (h : s.Registers) (hd : s.Distinct) (hc : c ∈ s.connections) (hpeer : SamePeer c c') :
    (s.put c').Registers :=
  h.congr rfl (Server.map_put hd hc hpeer.addr _ hpeer.fd) (fun _ => Iff.rfl)

lemma released (h : s.Registers) (hd : s.Distinct) (hc : c ∈ s.connections) (hpeer : SamePeer c c')
    {k : Kernel} (hgone : k.mask c'.fd = none)
    (hmask : ∀ fd, fd ≠ c'.fd → k.mask fd = s.kernel.mask fd) : (s.released c' k).Registers := by
  intro fd hfd
  have hne : fd ≠ c'.fd := by
    rintro rfl
    exact hfd hgone
  have hfd : s.kernel.mask fd ≠ none := by
    rw [← hmask fd hne]
    exact hfd
  rcases h fd hfd with hlisten | hstdin | hmem
  · exact Or.inl hlisten
  · exact Or.inr (Or.inl hstdin)
  · obtain ⟨b, hb, rfl⟩ := List.mem_map.mp hmem
    refine Or.inr (Or.inr (List.mem_map.mpr ⟨b, ?_, rfl⟩))
    apply (Keyed.mem_remove hd.addrs).mpr
    refine ⟨hb, ?_⟩
    intro haddr
    rw [hpeer.addr] at haddr
    rw [Keyed.eq_of_key_eq hd.addrs hb hc haddr, hpeer.fd] at hne
    exact hne rfl

end Server.Registers

namespace Erased

lemma congr (h : Erased seen s t) {s' t' : Server} (hs : s'.connections = s.connections)
    (ht : t'.connections = t.connections) (hsout : s'.stdout = s.stdout)
    (htout : t'.stdout = t.stdout) (hname : t'.name = s'.name) (hlisten : s'.listenFd = s.listenFd)
    (hlisten' : t'.listenFd = t.listenFd) (hepoll : t'.epollFd = s'.epollFd)
    (hclosing : t'.serverClosing = s'.serverClosing)
    (hmask : ∀ fd, s'.kernel.mask fd = none ↔ s.kernel.mask fd = none)
    (hmask' : ∀ fd, t'.kernel.mask fd = none ↔ t.kernel.mask fd = none) : Erased seen s' t' where
  guests := by
    rw [hs, ht]
    exact h.guests
  printed := by rw [hsout, htout, h.printed]
  name := hname
  listenFd := by rw [hlisten, hlisten', h.listenFd]
  epollFd := hepoll
  closing := hclosing
  registers := h.registers.congr hlisten (by rw [hs]) hmask
  registers' := h.registers'.congr hlisten' (by rw [ht]) hmask'

lemma put (h : Erased seen s t) (hds : s.Distinct) (hdt : t.Distinct) (hc : c ∈ s.connections)
    (hd : d ∈ t.connections) (hpeer : SamePeer c c') (hpeer' : SamePeer d d')
    (hnum : Renumbered c' d') : Erased seen (s.put c') (t.put d') where
  guests := by
    have hfilter : guestsOf seen (s.put c').connections =
        Keyed.replace Connection.addr c' (guestsOf seen s.connections) :=
      Keyed.filter_replace hds.addrs hc hpeer.addr (congrArg seen hpeer.serial)
    rw [hfilter]
    exact Keyed.forall₂_replace (fun _ _ hab => hab.addr) h.guests hnum
  printed := h.printed
  name := h.name
  listenFd := h.listenFd
  epollFd := h.epollFd
  closing := h.closing
  registers := h.registers.put hds hc hpeer
  registers' := h.registers'.put hdt hd hpeer'

lemma put_unseen (h : Erased seen s t) (hd : s.Distinct) (hc : c ∈ s.connections)
    (hunseen : seen c.serial = false) (hpeer : SamePeer c c') : Erased seen (s.put c') t where
  guests := by
    have hfilter : guestsOf seen (s.put c').connections = guestsOf seen s.connections :=
      Keyed.filter_replace_outside hd.addrs hc hpeer.addr (congrArg seen hpeer.serial) hunseen
    rw [hfilter]
    exact h.guests
  printed := h.printed
  name := h.name
  listenFd := h.listenFd
  epollFd := h.epollFd
  closing := h.closing
  registers := h.registers.put hd hc hpeer
  registers' := h.registers'

end Erased

lemma Close.call (h : Close seen s t) (x y : SysCall) : Close seen (s.call x) (t.call y) where
  toErased := h.toErased.congr rfl rfl rfl rfl h.name rfl rfl h.epollFd h.closing (fun _ => Iff.rfl)
    (fun _ => Iff.rfl)
  distinct := h.distinct.congr rfl
  distinct' := h.distinct'.congr rfl
  reliable := h.reliable.call x
  reliable' := h.reliable'.call y
  quiet := h.quiet

lemma Close.put (h : Close seen s t) (hc : c ∈ s.connections) (hseen : seen c.serial = true)
    (hd : d ∈ t.connections) (hpeer : SamePeer c c') (hpeer' : SamePeer d d')
    (hnum : Renumbered c' d') : Close seen (s.put c') (t.put d') where
  toErased := h.toErased.put h.distinct h.distinct' hc hd hpeer hpeer' hnum
  distinct := h.distinct.put hc hpeer
  distinct' := h.distinct'.put hd hpeer'
  reliable := h.reliable.put hc c' hpeer.fd
  reliable' := h.reliable'.put hd d' hpeer'.fd
  quiet := by
    intro b hb hbseen
    rcases Keyed.mem_replace hb with rfl | ⟨hb, -⟩
    · rw [hpeer.serial, hseen] at hbseen
      cases hbseen
    · exact h.quiet b hb hbseen

lemma Close.put_map (h : Close seen s t) (hc : c ∈ s.connections) (hseen : seen c.serial = true)
    (hd : d ∈ t.connections) (hnum : Renumbered c d) (f : Connection → Connection)
    (hf : ∀ b n, f { b with serial := n } = { f b with serial := n })
    (hpeer : ∀ b, SamePeer b (f b)) : Close seen (s.put (f c)) (t.put (f d)) :=
  h.put hc hseen hd (hpeer c) (hpeer d) (hnum.map f (hf c))

lemma post_erased (h : Close seen s t) (e e' : RoomEntry) (author : Bytes) (notice : Message)
    (sender : Option ℕ) (hauthor : author = e.author) (htext : notice.payload = e.text)
    (hauthor' : author = e'.author) (htext' : notice.payload = e'.text) :
    (t.post e' author notice sender).1 = (s.post e author notice sender).1 ∧
      SameRoom seen (s.post e author notice sender).2 (t.post e' author notice sender).2 ∧
      ((s.post e author notice sender).1 = true →
        Close seen (s.post e author notice sender).2 (t.post e' author notice sender).2) := by
  obtain ⟨skip, hskip⟩ : ∃ skip : Connection → Bool, skip =
    fun conn => decide (some conn.addr = sender ∨ conn.state ≠ .active) := ⟨_, rfl⟩
  have hnum : ∀ c d, Renumbered c d → skip d = skip c := by
    intro c d hcd
    rw [hskip]
    dsimp only
    rw [hcd.addr, hcd.state]
  have hquiet : ∀ c ∈ s.connections, seen c.serial = false → skip c = true := by
    intro c hc hunseen
    simp [hskip, h.quiet c hc hunseen]
  obtain ⟨hok, hguests⟩ := queueToEach_renumbered hnum (formatBroadcastMessage author notice)
    (epollIn ||| epollOut ||| epollRdhup) h.guests hquiet h.reliable.script h.reliable'.script
    h.reliable.registered h.reliable'.registered
  have hroom : (t.post e' author notice sender).1 = (s.post e author notice sender).1 ∧
      SameRoom seen (s.post e author notice sender).2 (t.post e' author notice sender).2 := by
    unfold Server.post Server.broadcastMessageToOtherClients
    simp only [← hskip]
    refine ⟨hok, hguests, ?_⟩
    exact congrArg (fun lines => formatPrintMessage lines author notice) h.printed
  refine ⟨hroom.1, hroom.2, ?_⟩
  intro htrue
  have hpost := post_succeedsIff h.reliable author notice sender hauthor htext
  have hpost' := post_succeedsIff h.reliable' author notice sender hauthor' htext'
  have hs : s.post e author notice sender = (true, (s.post e author notice sender).2) := by
    rw [← htrue]
  have ht : t.post e' author notice sender = (true, (t.post e' author notice sender).2) := by
    rw [← htrue, ← hroom.1]
  obtain ⟨k, heq, -, hmask⟩ := post_true hauthor htext hs
  obtain ⟨k', heq', -, hmask'⟩ := post_true hauthor' htext' ht
  obtain ⟨-, -, hreliable⟩ := hpost.left (hpost.ok.mp htrue)
  obtain ⟨-, -, hreliable'⟩ := hpost'.left (hpost'.ok.mp (hroom.1.trans htrue))
  have hnone := hmask.none_iff h.reliable.registered
  have hnone' := hmask'.none_iff h.reliable'.registered
  rw [heq, heq'] at hroom
  rw [heq] at hreliable
  rw [heq'] at hreliable'
  rw [heq, heq']
  have hlisteners : ∀ b ∈ (s.heard sender e k).connections, ∃ a ∈ s.connections,
      SamePeer a b ∧ b.state = a.state := by
    intro b hb
    obtain ⟨a, ha, rfl⟩ := mem_enqueueTo hb
    refine ⟨a, ha, ?_⟩
    split_ifs
    · exact ⟨⟨rfl, rfl, rfl⟩, rfl⟩
    · exact ⟨SamePeer.refl a, rfl⟩
  have hfds := map_enqueueTo Connection.fd (fun _ _ => rfl) (Hears sender) e.message s.connections
  have hfds' :=
    map_enqueueTo Connection.fd (fun _ _ => rfl) (Hears sender) e'.message t.connections
  refine ⟨⟨hroom.2, h.name, h.listenFd, h.epollFd, h.closing, h.registers.congr rfl hfds hnone,
    h.registers'.congr rfl hfds' hnone'⟩, h.distinct.heard sender e k,
    h.distinct'.heard sender e' k', hreliable, hreliable', ?_⟩
  intro b hb hbseen
  obtain ⟨a, ha, hpeer, hstate⟩ := hlisteners b hb
  rw [hstate]
  exact h.quiet a ha (by rw [← hpeer.serial, hbseen])

lemma fdMod_mask_none (s : Server) (fd : Fd) (events : EventMask) (g : Fd) :
    (s.fdMod fd events).2.kernel.mask g = none ↔ s.kernel.mask g = none :=
  epollFdMod_registered s.kernel fd events g

lemma fdMod_erased (h : Close seen s t) (hc : c ∈ s.connections) (hd : d ∈ t.connections)
    (events : EventMask) : ErasedResult seen (s.fdMod c.fd events) (t.fdMod d.fd events) := by
  obtain ⟨k, hr⟩ := fdMod_succeeds h.reliable (h.reliable.registered c hc) events
  obtain ⟨k', hr'⟩ := fdMod_succeeds h.reliable' (h.reliable'.registered d hd) events
  have hnone := fdMod_mask_none s c.fd events
  have hnone' := fdMod_mask_none t d.fd events
  rw [hr] at hnone ⊢
  rw [hr'] at hnone' ⊢
  have herased : Erased seen { s with kernel := k } { t with kernel := k' } :=
    h.toErased.congr rfl rfl rfl rfl h.name rfl rfl h.epollFd h.closing hnone hnone'
  exact herased.returns

lemma fdMod_unseen (h : Erased seen s t) (hs : s.Reliable) (hc : c ∈ s.connections)
    (events : EventMask) :
    (s.fdMod c.fd events).1 = true ∧ Erased seen (s.fdMod c.fd events).2 t := by
  obtain ⟨k, hr⟩ := fdMod_succeeds hs (hs.registered c hc) events
  have hnone := fdMod_mask_none s c.fd events
  rw [hr] at hnone ⊢
  exact ⟨rfl, h.congr rfl rfl rfl rfl h.name rfl rfl h.epollFd h.closing hnone (fun _ => Iff.rfl)⟩

lemma removeConnection_registers (h : s.Registers) (hs : s.Reliable) (hd : s.Distinct)
    (hc : c ∈ s.connections) (hpeer : SamePeer c c') :
    ∃ k, s.removeConnection c' = (true, s.released c' k) ∧ (s.released c' k).Registers := by
  obtain ⟨k, hr, hmask⟩ := removeConnection_eq s c'
  obtain ⟨k', hr', hgone⟩ := removeConnection_succeeds hs c'
  have hk : k = k' := by
    rw [hr] at hr'
    exact congrArg (fun r : Bool × Server => r.2.kernel) hr'
  rw [← hk] at hgone
  exact ⟨k, hr, h.released hd hc hpeer hgone hmask⟩

lemma removeConnection_erased (h : Close seen s t) (hc : c ∈ s.connections)
    (hd : d ∈ t.connections) (hpeer : SamePeer c c') (hpeer' : SamePeer d d')
    (hnum : Renumbered c d) :
    ErasedResult seen (s.removeConnection c') (t.removeConnection d') := by
  obtain ⟨k, hr, hreg⟩ := removeConnection_registers h.registers h.reliable h.distinct hc hpeer
  obtain ⟨k', hr', hreg'⟩ :=
    removeConnection_registers h.registers' h.reliable' h.distinct' hd hpeer'
  have haddr : d'.addr = c'.addr := by rw [hpeer.addr, hpeer'.addr, hnum.addr]
  rw [hr, hr']
  have herased : Erased seen (s.released c' k) (t.released d' k') := by
    refine ⟨⟨?_, h.printed⟩, h.name, h.listenFd, h.epollFd, h.closing, hreg, hreg'⟩
    have hfilter : guestsOf seen (s.released c' k).connections =
        Keyed.remove Connection.addr c'.addr (guestsOf seen s.connections) :=
      Keyed.filter_remove h.distinct.addrs c'.addr
    have hconns : (t.released d' k').connections =
        Keyed.remove Connection.addr c'.addr t.connections := by
      rw [← haddr]
      rfl
    rw [hfilter, hconns]
    exact Keyed.forall₂_remove (fun _ _ hab => hab.addr) h.guests c'.addr
  exact herased.returns

lemma removeConnection_unseen (h : Erased seen s t) (hd : s.Distinct) (hs : s.Reliable)
    (hc : c ∈ s.connections) (hunseen : seen c.serial = false) (hpeer : SamePeer c c') :
    (s.removeConnection c').1 = true ∧ Erased seen (s.removeConnection c').2 t := by
  obtain ⟨k, hr, hreg⟩ := removeConnection_registers h.registers hs hd hc hpeer
  rw [hr]
  refine ⟨rfl, ⟨?_, h.printed⟩, h.name, h.listenFd, h.epollFd, h.closing, hreg, h.registers'⟩
  have hconns : (s.released c' k).connections =
      Keyed.remove Connection.addr c.addr s.connections := by
    rw [← hpeer.addr]
    rfl
  have hfilter : guestsOf seen (s.released c' k).connections = guestsOf seen s.connections := by
    rw [hconns]
    exact Keyed.filter_remove_outside hd.addrs hc hunseen
  rw [hfilter]
  exact h.guests

lemma ErasedResult.andThen {r r' : Bool × Server} (hok : r'.1 = r.1)
    (hroom : SameRoom seen r.2 r'.2)
    {f g : Server → Bool × Server} (hf : r.1 = true → ErasedResult seen (f r.2) (g r'.2)) :
    ErasedResult seen (andThen r f) (andThen r' g) := by
  rcases r with ⟨ok, s⟩
  rcases r' with ⟨ok', t⟩
  have hok : ok' = ok := hok
  rw [hok]
  cases ok with
  | false => exact hroom.givesUp
  | true => exact hf rfl

end Pieces

/-! ### The handlers -/

section Handlers

variable {seen : ℕ → Bool} {s t : Server} {c d : Connection}

lemma leave_erased (h : Close seen s t) (hc : c ∈ s.connections) (hseen : seen c.serial = true)
    (hd : d ∈ t.connections) {c' d' : Connection} (hpeer : SamePeer c c') (hpeer' : SamePeer d d')
    (hnum : Renumbered c' d') :
    ErasedResult seen
      (andThen ((s.put c').announceClientDisconnected c') (fun s => s.removeConnection c'))
      (andThen ((t.put d').announceClientDisconnected d') (fun t => t.removeConnection d')) := by
  have hput := h.put hc hseen hd hpeer hpeer' hnum
  have hpost := post_erased hput (.disconnected c'.serial c'.name)
    (.disconnected d'.serial d'.name) (ascii "server")
    (Message.of .chat (ascii "`" ++ c'.name ++ ascii "` disconnected.")) (some c'.addr) rfl rfl rfl
    (by rw [hnum.name]; rfl)
  have hannounce : (t.put d').announceClientDisconnected d' = (t.put d').post
      (.disconnected d'.serial d'.name) (ascii "server")
      (Message.of .chat (ascii "`" ++ c'.name ++ ascii "` disconnected.")) (some c'.addr) := by
    rw [Server.announceClientDisconnected, hnum.addr, hnum.name]
  rw [hannounce]
  apply ErasedResult.andThen hpost.1 hpost.2.1
  intro htrue
  have hs : (s.put c').announceClientDisconnected c' =
      (true, ((s.put c').announceClientDisconnected c').2) := by
    rw [← htrue]
    rfl
  obtain ⟨k, heq, -, -⟩ := post_true (e := .disconnected c'.serial c'.name) rfl rfl hs
  have hself := mem_heard_self hc hpeer.addr (.disconnected c'.serial c'.name) k
  rw [← hpeer.addr, ← heq] at hself
  have ht : (t.put d').post (.disconnected d'.serial d'.name) (ascii "server")
      (Message.of .chat (ascii "`" ++ c'.name ++ ascii "` disconnected.")) (some c'.addr) =
      (true, ((t.put d').post (.disconnected d'.serial d'.name) (ascii "server")
        (Message.of .chat (ascii "`" ++ c'.name ++ ascii "` disconnected.")) (some c'.addr)).2) :=
    Prod.ext (hpost.1.trans htrue) rfl
  obtain ⟨k', heq', -, -⟩ := post_true (e := .disconnected d'.serial d'.name) rfl
    (by rw [hnum.name]; rfl) ht
  have hself' := mem_heard_self hd hpeer'.addr (.disconnected d'.serial d'.name) k'
  rw [← hpeer'.addr, hnum.addr, ← heq'] at hself'
  exact removeConnection_erased (hpost.2.2 htrue) hself hself' (SamePeer.refl c')
    (SamePeer.refl d') hnum

theorem readMessages_erased (h : Close seen s t) (hc : c ∈ s.connections)
    (hseen : seen c.serial = true) (hd : d ∈ t.connections) (hnum : Renumbered c d)
    (hst : c.state = .active ∨ c.state = .closed) :
    ErasedResult seen (s.readMessages c) (t.readMessages d) := by
  induction hn : c.inBuffer.length using Nat.strong_induction_on generalizing s t c d with
  | h n ih =>
    have hst' : d.state = .active ∨ d.state = .closed := by
      rw [hnum.state]
      exact hst
    have hbuffer := hnum.inBuffer
    cases hp : parseFrame c.inBuffer with
    | illegal =>
      rw [readMessages_illegal s hp, readMessages_illegal t (hbuffer ▸ hp)]
      exact removeConnection_erased h hc hd ⟨rfl, rfl, rfl⟩ ⟨rfl, rfl, rfl⟩ hnum
    | incomplete =>
      rw [readMessages_incomplete s hp hst, readMessages_incomplete t (hbuffer ▸ hp) hst',
        hnum.state]
      by_cases hclosed : c.state = .closed
      · rw [if_pos hclosed, if_pos hclosed]
        exact leave_erased h hc hseen hd (SamePeer.refl c) (SamePeer.refl d) hnum
      · rw [if_neg hclosed, if_neg hclosed]
        have hput := h.put hc hseen hd (SamePeer.refl c) (SamePeer.refl d) hnum
        exact hput.toErased.returns
    | frame m rest =>
      have hp' : parseFrame d.inBuffer = .frame m rest := hbuffer ▸ hp
      have hcut := hnum.cut m rest
      have hpeer : SamePeer c (c.cut m rest) := ⟨rfl, rfl, rfl⟩
      have hpeer' : SamePeer d (d.cut m rest) := ⟨rfl, rfl, rfl⟩
      rw [readMessages_frame s hp hst, readMessages_frame t hp' hst']
      by_cases htype : m.type = .closeCon
      · rw [if_pos htype, if_pos htype]
        by_cases hpay : m.payload ≠ []
        · rw [if_pos hpay, if_pos hpay]
          exact removeConnection_erased h hc hd ⟨rfl, rfl, rfl⟩ ⟨rfl, rfl, rfl⟩ hnum
        · rw [if_neg hpay, if_neg hpay]
          exact leave_erased h hc hseen hd hpeer hpeer' hcut
      · rw [if_neg htype, if_neg htype]
        by_cases hchat : m.type ≠ .chat
        · rw [if_pos hchat, if_pos hchat]
          exact removeConnection_erased h hc hd ⟨rfl, rfl, rfl⟩ ⟨rfl, rfl, rfl⟩ hnum
        · rw [if_neg hchat, if_neg hchat]
          have hput := h.put hc hseen hd hpeer hpeer' hcut
          have hpost := post_erased hput (.chat c.serial c.name m.payload)
            (.chat d.serial d.name m.payload) c.name m (some c.addr) rfl rfl hnum.name.symm
              rfl
          have hposts : (t.put (d.cut m rest)).post (.chat d.serial d.name m.payload) d.name m
              (some d.addr) = (t.put (d.cut m rest)).post (.chat d.serial d.name m.payload) c.name m
                (some c.addr) := by
            rw [hnum.addr, hnum.name]
          rw [hposts]
          apply ErasedResult.andThen hpost.1 hpost.2.1
          intro htrue
          -- both servers go on with the rest of the buffer
          obtain ⟨-, -, hct⟩ := chat_true h.distinct hc hst hp (not_not.mp hchat)
            (Prod.ext htrue rfl)
          obtain ⟨-, -, hdt⟩ := chat_true h.distinct' hd hst' hp' (not_not.mp hchat)
            (Prod.ext (by rw [hposts]; exact hpost.1.trans htrue) rfl)
          rw [hposts] at hdt
          have hlt : (c.cut m rest).inBuffer.length < n := by
            rw [← hn]
            exact frameCodec.rest_length_lt hp
          exact ih _ hlt (hpost.2.2 htrue) hct hseen hdt hcut hst rfl

lemma readNetworkPackage_erased (h : Close seen s t) (hc : c ∈ s.connections)
    (hseen : seen c.serial = true) (hd : d ∈ t.connections) (hnum : Renumbered c d)
    (hst : c.state = .active) (replies : List RecvReply) :
    ErasedResult seen (s.readNetworkPackage c replies) (t.readNetworkPackage d replies) := by
  have hcall := h.call (.recv c.fd) (.recv d.fd)
  rw [readNetworkPackage_eq, readNetworkPackage_eq]
  by_cases hfail : recvEnd replies = .failed
  · rw [if_pos hfail, if_pos hfail]
    exact removeConnection_erased hcall hc hd ⟨rfl, rfl, rfl⟩ ⟨rfl, rfl, rfl⟩ hnum
  · rw [if_neg hfail, if_neg hfail]
    have hput := hcall.put_map hc hseen hd hnum (fun b => b.ingested replies)
      (fun _ _ => rfl)
      (fun _ => ⟨rfl, rfl, rfl⟩)
    obtain ⟨-, -, -, hstate⟩ := ingest_effect h.distinct hc hst hfail
    exact readMessages_erased hput (mem_put hc rfl) hseen (mem_put hd rfl)
      (hnum.map (fun b => b.ingested replies) (fun _ => rfl)) hstate

lemma receiveClientHello_erased (h : Close seen s t) (hc : c ∈ s.connections)
    (hseen : seen c.serial = true) (hd : d ∈ t.connections) (hnum : Renumbered c d)
    (hst : c.state = .waitingForClientHello) (replies : List RecvReply) :
    ErasedResult seen (s.receiveClientHello c replies) (t.receiveClientHello d replies) := by
  have hst' : d.state = .waitingForClientHello := hnum.state.trans hst
  have hcall := h.call (.recv c.fd) (.recv d.fd)
  have hremove : ∀ {c' d' : Connection}, SamePeer c c' → SamePeer d d' →
      ErasedResult seen ((s.call (.recv c.fd)).removeConnection c')
        ((t.call (.recv d.fd)).removeConnection d') :=
    fun hpeer hpeer' => removeConnection_erased hcall hc hd hpeer hpeer' hnum
  rw [receiveClientHello_eq s hst, receiveClientHello_eq t hst', hnum.inBuffer, h.name]
  by_cases hfail : recvEnd replies = .failed
  · rw [if_pos hfail, if_pos hfail]
    exact hremove ⟨rfl, rfl, rfl⟩ ⟨rfl, rfl, rfl⟩
  · rw [if_neg hfail, if_neg hfail]
    cases hp : parseFrame (c.inBuffer ++ recvData replies) with
    | illegal => exact hremove ⟨rfl, rfl, rfl⟩ ⟨rfl, rfl, rfl⟩
    | incomplete =>
      dsimp only
      by_cases heof : recvEnd replies = .eof
      · rw [if_pos heof, if_pos heof]
        exact hremove ⟨rfl, rfl, rfl⟩ ⟨rfl, rfl, rfl⟩
      · rw [if_neg heof, if_neg heof]
        have hput := hcall.put_map hc hseen hd hnum (fun b => b.absorb (recvData replies))
          (fun _ _ => rfl) (fun _ => ⟨rfl, rfl, rfl⟩)
        exact hput.toErased.returns
    | frame m rest =>
      dsimp only
      by_cases htype : m.type ≠ .clientHello
      · rw [if_pos htype, if_pos htype]
        exact hremove ⟨rfl, rfl, rfl⟩ ⟨rfl, rfl, rfl⟩
      · rw [if_neg htype, if_neg htype]
        by_cases hname : m.payload = []
        · rw [if_pos hname, if_pos hname]
          exact hremove ⟨rfl, rfl, rfl⟩ ⟨rfl, rfl, rfl⟩
        · rw [if_neg hname, if_neg hname]
          by_cases hhost : protocolPayloadLengthIsLegal s.name.length
          · rw [if_pos hhost, if_pos hhost]
            have hput := hcall.put_map hc hseen hd hnum
              (fun b => (b.absorb (recvData replies)).greeted s.name m rest) (fun _ _ => rfl)
              (fun _ => ⟨rfl, rfl, rfl⟩)
            exact fdMod_erased hput (mem_put hc rfl) (mem_put hd rfl) fullMask
          · rw [if_neg hhost, if_neg hhost]
            have hput := hcall.put_map hc hseen hd hnum (fun b => Connection.reject
              { (b.absorb (recvData replies)).cut m rest with name := m.payload }
                (.payloadTooLarge s.name.length)) (fun _ _ => rfl) (fun _ => ⟨rfl, rfl, rfl⟩)
            exact hput.toSameRoom.givesUp

lemma receiveClientHello_unseen (h : Erased seen s t) (hd : s.Distinct) (hs : s.Reliable)
    (hc : c ∈ s.connections) (hunseen : seen c.serial = false)
    (hst : c.state = .waitingForClientHello) (hhost : protocolPayloadLengthIsLegal s.name.length)
    (replies : List RecvReply) :
    (s.receiveClientHello c replies).1 = true ∧
      Erased seen (s.receiveClientHello c replies).2 t := by
  have hcall : Erased seen (s.call (.recv c.fd)) t :=
    h.congr rfl rfl rfl rfl h.name rfl rfl h.epollFd h.closing (fun _ => Iff.rfl) (fun _ => Iff.rfl)
  have hd' : (s.call (.recv c.fd)).Distinct := hd.congr rfl
  have hremove : ∀ {c' : Connection}, SamePeer c c' →
      ((s.call (.recv c.fd)).removeConnection c').1 = true ∧
        Erased seen ((s.call (.recv c.fd)).removeConnection c').2 t :=
    fun hpeer => removeConnection_unseen hcall hd' (hs.call _) hc hunseen hpeer
  rw [receiveClientHello_eq s hst]
  by_cases hfail : recvEnd replies = .failed
  · rw [if_pos hfail]
    exact hremove ⟨rfl, rfl, rfl⟩
  · rw [if_neg hfail]
    cases hp : parseFrame (c.inBuffer ++ recvData replies) with
    | illegal => exact hremove ⟨rfl, rfl, rfl⟩
    | incomplete =>
      dsimp only
      by_cases heof : recvEnd replies = .eof
      · rw [if_pos heof]
        exact hremove ⟨rfl, rfl, rfl⟩
      · rw [if_neg heof]
        exact ⟨rfl, hcall.put_unseen hd' hc hunseen ⟨rfl, rfl, rfl⟩⟩
    | frame m rest =>
      dsimp only
      by_cases htype : m.type ≠ .clientHello
      · rw [if_pos htype]
        exact hremove ⟨rfl, rfl, rfl⟩
      · rw [if_neg htype]
        by_cases hname : m.payload = []
        · rw [if_pos hname]
          exact hremove ⟨rfl, rfl, rfl⟩
        · rw [if_neg hname, if_pos hhost]
          have hpeer : SamePeer c ((c.absorb (recvData replies)).greeted s.name m rest) :=
            ⟨rfl, rfl, rfl⟩
          exact fdMod_unseen (hcall.put_unseen hd' hc hunseen hpeer)
            ((hs.call _).put hc _ hpeer.fd) (mem_put hc hpeer.addr) fullMask

lemma sendNetworkPackage_erased (h : Close seen s t) (hc : c ∈ s.connections)
    (hseen : seen c.serial = true) (hd : d ∈ t.connections) (hnum : Renumbered c d)
    (replies : List SendReply) :
    ErasedResult seen (s.sendNetworkPackage c replies) (t.sendNetworkPackage d replies) := by
  have hcall := h.call (.send c.fd) (.send d.fd)
  have hput := hcall.put_map hc hseen hd hnum
  rw [sendNetworkPackage_eq, sendNetworkPackage_eq, hnum.unsent, hnum.state]
  by_cases hall : sendCount c.unsent.length replies = c.unsent.length
  · rw [if_pos hall, if_pos hall]
    by_cases hst : c.state = .sendingServerHello
    · rw [if_pos hst, if_pos hst]
      have hclose := hput Connection.joined (fun _ _ => rfl) (fun _ => ⟨rfl, rfl, rfl⟩)
      have hpost := post_erased hclose (.connected c.serial c.name) (.connected d.serial d.name)
        (ascii "server") (Message.of .chat (ascii "`" ++ c.name ++ ascii "` connected.")) none rfl
        rfl rfl (by rw [hnum.name]; rfl)
      have hannounce : ((t.call (.send d.fd)).put d.joined).announceClientConnected d.joined =
          ((t.call (.send d.fd)).put d.joined).post (.connected d.serial d.name) (ascii "server")
            (Message.of .chat (ascii "`" ++ c.name ++ ascii "` connected.")) none := by
        rw [← hnum.name]
        rfl
      rw [hannounce]
      exact ⟨hpost.1, hpost.2.1, fun htrue => (hpost.2.2 htrue).toErased⟩
    · rw [if_neg hst, if_neg hst]
      have hclose := hput Connection.drained (fun _ _ => rfl) (fun _ => ⟨rfl, rfl, rfl⟩)
      exact fdMod_erased hclose (mem_put hc rfl) (mem_put hd rfl) quietMask
  · rw [if_neg hall, if_neg hall]
    by_cases hfail : sendFails c.unsent.length replies = true
    · rw [if_pos hfail, if_pos hfail]
      have hclose := hput
        (fun b => { b.advance (sendCount c.unsent.length replies) with state := .connectionError })
        (fun _ _ => rfl) (fun _ => ⟨rfl, rfl, rfl⟩)
      exact hclose.toSameRoom.givesUp
    · rw [if_neg hfail, if_neg hfail]
      have hclose := hput (fun b => b.advance (sendCount c.unsent.length replies))
        (fun _ _ => rfl) (fun _ => ⟨rfl, rfl, rfl⟩)
      exact hclose.toErased.returns

lemma sendNetworkPackage_unseen (h : Erased seen s t) (hd : s.Distinct) (hc : c ∈ s.connections)
    (hunseen : seen c.serial = false) (hst : c.state = .sendingServerHello)
    {replies : List SendReply} (hok : sendFails c.unsent.length replies = false)
    (hlog : ∀ e ∈ (s.sendNetworkPackage c replies).2.roomLog, ¬e.Opens c.serial) :
    (s.sendNetworkPackage c replies).1 = true ∧
      Erased seen (s.sendNetworkPackage c replies).2 t := by
  have hcall : Erased seen (s.call (.send c.fd)) t :=
    h.congr rfl rfl rfl rfl h.name rfl rfl h.epollFd h.closing (fun _ => Iff.rfl)
      (fun _ => Iff.rfl)
  have hd' : (s.call (.send c.fd)).Distinct := hd.congr rfl
  rw [sendNetworkPackage_eq, hok] at hlog ⊢
  by_cases hall : sendCount c.unsent.length replies = c.unsent.length
  · rw [if_pos hall, if_pos hst] at hlog
    rcases hann : ((s.call (.send c.fd)).put c.joined).announceClientConnected c.joined
      with ⟨ok, u⟩
    rw [hann] at hlog
    obtain ⟨cs, k, rfl, -⟩ := post_told (e := .connected c.serial c.name) rfl rfl hann
    exact absurd rfl (hlog (.connected c.serial c.name)
      (List.mem_append_right _ (List.mem_singleton.mpr rfl)))
  · rw [if_neg hall, if_neg Bool.false_ne_true]
    exact ⟨rfl, hcall.put_unseen hd' hc hunseen ⟨rfl, rfl, rfl⟩⟩

end Handlers

/-! ### Accepting -/

/-- The answers of `accept` without the sockets that do not count; the first socket gets the
number `n`. -/
def seenAccepts (seen : ℕ → Bool) : ℕ → List AcceptReply → List AcceptReply
  | _, [] => []
  | n, .error e :: replies => .error e :: seenAccepts seen n replies
  | n, .socket fd addr :: replies =>
    if seen n then .socket fd addr :: seenAccepts seen (n + 1) replies
    else seenAccepts seen (n + 1) replies

section Accepting

variable {seen : ℕ → Bool} {s t : Server}

lemma acceptedSockets_seen (seen : ℕ → Bool) (n : ℕ) (replies : List AcceptReply) :
    (acceptedSockets (seenAccepts seen n replies)).Sublist (acceptedSockets replies) := by
  induction replies generalizing n with
  | nil => exact List.Sublist.refl _
  | cons reply replies ih =>
    cases reply with
    | error e => exact ih n
    | socket fd addr =>
      rw [seenAccepts]
      split_ifs
      · exact (ih (n + 1)).cons_cons (fd, addr)
      · exact (ih (n + 1)).cons (fd, addr)

lemma FreshSockets.erased {replies : List AcceptReply} (hfresh : FreshSockets s replies)
    (h : Erased seen s t) (n : ℕ) : FreshSockets t (seenAccepts seen n replies) := by
  have hsub := acceptedSockets_seen seen n replies
  have hlive : ∀ d ∈ t.connections, ∃ c ∈ s.connections, d.fd = c.fd ∧ d.addr = c.addr := by
    intro d hd
    obtain ⟨c, hc, -, hnum⟩ := h.origin hd
    exact ⟨c, hc, hnum.fd, hnum.addr⟩
  refine ⟨hfresh.fds_nodup.sublist (hsub.map _), hfresh.addrs_nodup.sublist (hsub.map _),
    fun p hp => hfresh.nonneg p (hsub.subset hp), ?_, ?_⟩
  · intro p hp
    obtain ⟨hstdin, hlisten, hepoll, hothers⟩ := hfresh.notOpen p (hsub.subset hp)
    rw [h.listenFd, h.epollFd]
    refine ⟨hstdin, hlisten, hepoll, ?_⟩
    intro d hd
    obtain ⟨c, hc, hfd, -⟩ := hlive d hd
    rw [hfd]
    exact hothers c hc
  · intro p hp d hd
    obtain ⟨c, hc, -, haddr⟩ := hlive d hd
    rw [haddr]
    exact hfresh.notLive p (hsub.subset hp) c hc

lemma Server.Registers.fresh (h : s.Registers) {fd : Fd} {addr : ℕ} {replies : List AcceptReply}
    (hfresh : FreshSockets s (.socket fd addr :: replies)) : s.kernel.mask fd = none := by
  obtain ⟨hstdin, hlisten, -, hothers⟩ := hfresh.notOpen (fd, addr) List.mem_cons_self
  by_contra hmask
  rcases h fd hmask with heq | heq | hmem
  · exact hlisten heq
  · exact hstdin heq
  · obtain ⟨c, hc, heq⟩ := List.mem_map.mp hmem
    exact hothers c hc heq

lemma accept_registers (h : s.Registers) (hk : s.kernel.ctlScript = []) {fd : Fd} {addr : ℕ}
    {replies : List AcceptReply} (hfresh : FreshSockets s (.socket fd addr :: replies)) :
    ∃ k, epollRegister (s.call (.accept fd)).kernel fd (epollIn ||| epollRdhup) = (true, k) ∧
      k.ctlScript = [] ∧ Server.Registers { s.call (.accept fd) with
        connections := s.connections ++ [newConnection fd addr s.accepted]
        accepted := s.accepted + 1
        kernel := k } := by
  have hscript : (s.call (.accept fd)).kernel.ctlScript = [] := hk
  obtain ⟨k, hadd, hk'⟩ :=
    epollFdAdd_succeeds hscript (h.fresh hfresh) (epollIn ||| epollRdhup)
  refine ⟨k, hadd, hk', ?_⟩
  intro g hg
  have hmask := epollFdAdd_true hadd g
  have hfds : (s.connections ++ [newConnection fd addr s.accepted]).map Connection.fd =
      s.connections.map Connection.fd ++ [fd] := by
    rw [List.map_append]
    rfl
  show g = s.listenFd ∨ g = stdinFileno ∨
    g ∈ (s.connections ++ [newConnection fd addr s.accepted]).map Connection.fd
  rw [hfds]
  by_cases heq : g = fd
  · rw [heq]
    exact Or.inr (Or.inr (List.mem_append_right _ (List.mem_singleton.mpr rfl)))
  · rw [if_neg heq] at hmask
    have hold : s.kernel.mask g ≠ none := by
      intro hnone
      exact hg (hmask.trans hnone)
    rcases h g hold with hlisten | hstdin | hmem
    · exact Or.inl hlisten
    · exact Or.inr (Or.inl hstdin)
    · exact Or.inr (Or.inr (List.mem_append_left _ hmem))

theorem handleAccept_erased (h : Erased seen s t) (hs : s.kernel.ctlScript = [])
    (ht : t.kernel.ctlScript = []) {replies : List AcceptReply}
    (hfresh : FreshSockets s replies) :
    ErasedResult seen (s.handleAcceptClientConnectionEvent replies)
      (t.handleAcceptClientConnectionEvent (seenAccepts seen s.accepted replies)) := by
  induction replies generalizing s t with
  | nil => exact h.returns
  | cons reply replies ih =>
    cases reply with
    | error e =>
      rw [seenAccepts, Server.handleAcceptClientConnectionEvent,
        Server.handleAcceptClientConnectionEvent]
      split_ifs
      · exact h.returns
      · exact h.toSameRoom.givesUp
    | socket fd addr =>
      obtain ⟨k, hadd, hk, hreg⟩ := accept_registers h.registers hs hfresh
      obtain ⟨-, hfresh'⟩ := accept_effect hfresh hadd
      have hfilter : guestsOf seen (s.connections ++ [newConnection fd addr s.accepted]) =
          guestsOf seen s.connections ++ guestsOf seen [newConnection fd addr s.accepted] :=
        List.filter_append _ _
      rw [handleAccept_accepts hadd, seenAccepts]
      by_cases hseen : seen s.accepted = true
      · have hfresht := hfresh.erased h s.accepted
        rw [seenAccepts, if_pos hseen] at hfresht
        obtain ⟨k', hadd', hk', hreg'⟩ := accept_registers h.registers' ht hfresht
        rw [if_pos hseen, handleAccept_accepts hadd']
        refine ih ⟨⟨?_, h.printed⟩, h.name, h.listenFd, h.epollFd, h.closing, hreg, hreg'⟩ hk hk'
          hfresh'
        show List.Forall₂ Renumbered (guestsOf seen (s.connections ++ _)) (t.connections ++ _)
        rw [hfilter, guestsOf_cons_seen hseen]
        exact List.rel_append h.guests
          (List.Forall₂.cons (Renumbered.renumber t.accepted) List.Forall₂.nil)
      · have hunseen : seen s.accepted = false := by simpa using hseen
        rw [if_neg hseen]
        refine ih ⟨⟨?_, h.printed⟩, h.name, h.listenFd, h.epollFd, h.closing, hreg,
          h.registers'⟩ hk ht hfresh'
        show List.Forall₂ Renumbered (guestsOf seen (s.connections ++ _)) t.connections
        rw [hfilter, guestsOf_cons_unseen hunseen]
        show List.Forall₂ Renumbered (guestsOf seen s.connections ++ []) t.connections
        rw [List.append_nil]
        exact h.guests

end Accepting

/-! ### Standard input -/

/-- A call of the smaller server that reports the same or leaves an empty room. -/
structure Follows (seen : ℕ → Bool) (r r' : Bool × Server) : Prop where
  room : SameRoom seen r.2 r'.2
  erased : r.1 = true → Erased seen r.2 r'.2
  goesOn : r'.1 = true → r.1 = true
  ends : r.1 = true → r'.1 = false →
    r'.2.serverClosing = true ∧ r'.2.allConnectionBuffersEmpty = true

section Standard

variable {seen : ℕ → Bool} {s t : Server}

lemma ErasedResult.follows {r r' : Bool × Server} (h : ErasedResult seen r r') :
    Follows seen r r' where
  room := h.room
  erased := h.goesOn
  goesOn := fun htrue => h.reported.symm.trans htrue
  ends := by
    intro htrue hfalse
    rw [h.reported, htrue] at hfalse
    cases hfalse

lemma SameRoom.buffersEmpty (h : SameRoom seen s t) (hs : s.allConnectionBuffersEmpty = true) :
    t.allConnectionBuffersEmpty = true := by
  unfold Server.allConnectionBuffersEmpty at hs ⊢
  rw [List.all_eq_true] at hs ⊢
  intro d hd
  obtain ⟨c, hc, -, hnum⟩ := h.origin hd
  rw [hnum.outBuffer]
  exact hs c hc

lemma Close.closed (h : Close seen s t) :
    Close seen { s with serverClosing := true } { t with serverClosing := true } where
  toErased := h.toErased.congr rfl rfl rfl rfl h.name rfl rfl h.epollFd rfl (fun _ => Iff.rfl)
    (fun _ => Iff.rfl)
  distinct := h.distinct.congr rfl
  distinct' := h.distinct'.congr rfl
  reliable := ⟨h.reliable.script, h.reliable.registered⟩
  reliable' := ⟨h.reliable'.script, h.reliable'.registered⟩
  quiet := h.quiet

lemma queueClose_registers (h : s.Registers) (hs : s.Reliable) :
    ∃ u, s.queueCloseToAllClients = (true, u) ∧ u.Registers ∧ u.stdout = s.stdout ∧
      u.name = s.name ∧ u.listenFd = s.listenFd ∧ u.epollFd = s.epollFd ∧
      u.serverClosing = s.serverClosing := by
  obtain ⟨u, hclose⟩ := queueClose_succeeds hs
  obtain ⟨k, rfl, hmask⟩ := queueClose_true hclose
  have hfds := map_enqueueTo Connection.fd (fun _ _ => rfl) (Hears none) (Message.of .closeCon [])
    s.connections
  exact ⟨_, hclose, h.congr rfl hfds (hmask.none_iff hs.registered), rfl, rfl, rfl, rfl, rfl⟩

lemma queueClose_erased (h : Close seen s t) :
    ∃ u u', s.queueCloseToAllClients = (true, u) ∧ t.queueCloseToAllClients = (true, u') ∧
      Erased seen u u' ∧ u'.serverClosing = t.serverClosing := by
  obtain ⟨u, hclose, hreg, hsout, hname, hlisten, hepoll, hclosing⟩ :=
    queueClose_registers h.registers h.reliable
  obtain ⟨u', hclose', hreg', hsout', hname', hlisten', hepoll', hclosing'⟩ :=
    queueClose_registers h.registers' h.reliable'
  have hnum : ∀ c d, Renumbered c d →
      (fun conn : Connection => decide (conn.state ≠ .active)) d =
        (fun conn : Connection => decide (conn.state ≠ .active)) c := by
    intro c d hcd
    dsimp only
    rw [hcd.state]
  obtain ⟨-, hguests⟩ := queueToEach_renumbered hnum (Message.of .closeCon [])
    (epollOut ||| epollRdhup) h.guests
    (fun c hc hunseen => decide_eq_true (h.quiet c hc hunseen)) h.reliable.script
    h.reliable'.script h.reliable.registered h.reliable'.registered
  have hconns : ∀ {v w : Server}, v.queueCloseToAllClients = (true, w) → w.connections =
      (Server.queueToEach (fun conn => decide (conn.state ≠ .active)) (Message.of .closeCon [])
        (epollOut ||| epollRdhup) v.connections v.kernel).2.1 := by
    intro v w hv
    unfold Server.queueCloseToAllClients at hv
    exact congrArg (fun r : Bool × Server => r.2.connections) hv.symm
  rw [← hconns hclose, ← hconns hclose'] at hguests
  refine ⟨u, u', hclose, hclose', ⟨⟨hguests, ?_⟩, ?_, ?_, ?_, ?_, hreg, hreg'⟩, hclosing'⟩
  · rw [hsout, hsout', h.printed]
  · rw [hname, hname', h.name]
  · rw [hlisten, hlisten', h.listenFd]
  · rw [hepoll, hepoll', h.epollFd]
  · rw [hclosing, hclosing', h.closing]

lemma quit_follows (h : Close seen s t) :
    Follows seen (s.handleReadStdinEvent (some (ascii "/quit")))
      (t.handleReadStdinEvent (some (ascii "/quit"))) := by
  have hclosed := h.closed
  have hpost := post_erased hclosed .closing .closing (ascii "server")
    (Message.of .chat (ascii "room is closing.")) none rfl rfl rfl rfl
  have hne : ascii "/quit" ≠ [] := by decide
  rw [Server.handleReadStdinEvent, Server.handleReadStdinEvent, if_neg hne, if_neg hne,
    if_pos rfl, if_pos rfl]
  dsimp only
  unfold Server.announceRoomClosing
  obtain ⟨hok, hroom, hnext⟩ := hpost
  rcases hs : ({ s with serverClosing := true } : Server).post .closing (ascii "server")
    (Message.of .chat (ascii "room is closing.")) none with ⟨ok, u⟩
  rcases ht : ({ t with serverClosing := true } : Server).post .closing (ascii "server")
    (Message.of .chat (ascii "room is closing.")) none with ⟨ok', u'⟩
  rw [hs, ht] at hok hroom hnext
  obtain rfl : ok' = ok := hok
  cases ok' with
  | false =>
    exact hroom.givesUp.follows
  | true =>
    obtain ⟨v, v', hclose, hclose', herased, hclosing⟩ := queueClose_erased (hnext rfl)
    obtain ⟨k, rfl, -, -⟩ := post_true (e := .closing) rfl rfl ht
    dsimp only
    rw [hclose, hclose']
    refine ⟨herased.toSameRoom, fun _ => herased, ?_, ?_⟩
    · intro htrue
      by_contra hfalse
      have hempty : v.allConnectionBuffersEmpty = true := by simpa using hfalse
      have hempty' := herased.buffersEmpty hempty
      simp [hempty'] at htrue
    · intro _ hfalse
      exact ⟨hclosing, by simpa using hfalse⟩

theorem readStdin_follows (h : Close seen s t) (line : Option Bytes) :
    Follows seen (s.handleReadStdinEvent line) (t.handleReadStdinEvent line) := by
  cases line with
  | none =>
    exact h.toSameRoom.givesUp.follows
  | some line =>
    by_cases hquit : line = ascii "/quit"
    · rw [hquit]
      exact quit_follows h
    · apply ErasedResult.follows
      rw [Server.handleReadStdinEvent, Server.handleReadStdinEvent, if_neg hquit, if_neg hquit]
      by_cases hnil : line = []
      · rw [if_pos hnil, if_pos hnil]
        exact h.toErased.returns
      · rw [if_neg hnil, if_neg hnil]
        by_cases hlong : ¬protocolPayloadLengthIsLegal line.length
        · rw [if_pos hlong, if_pos hlong]
          have hprinted : t.stdout ++ [ascii "[app] message length too long."] =
              s.stdout ++ [ascii "[app] message length too long."] := by rw [h.printed]
          exact ⟨rfl, ⟨h.guests, hprinted⟩, fun _ => ⟨⟨h.guests, hprinted⟩, h.name, h.listenFd,
            h.epollFd, h.closing, h.registers, h.registers'⟩⟩
        · rw [if_neg hlong, if_neg hlong, h.name]
          obtain ⟨hok, hroom, hnext⟩ := post_erased h (.hostChat s.name line)
            (.hostChat s.name line) s.name (Message.of .chat line) none rfl rfl rfl rfl
          exact ⟨hok, hroom, fun htrue => (hnext htrue).toErased⟩

end Standard

end Chatroom
