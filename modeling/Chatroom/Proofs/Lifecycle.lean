import Chatroom.Proofs.Descriptors

/-!
# The descriptors over a whole run

From `server_event_loop` to the end of `server_cleanup`: between two events exactly the
descriptors of the server are registered and open, and in the end each of them was closed
exactly once.
-/

namespace Chatroom
open Handles Transition

/-! ### The start -/

/-- The server and its log when no epoll instance could be set up. -/
structure Server.NotStarted (listenFd : Fd) (s : Server) : Prop where
  connections : s.connections = []
  noListener : s.listenFd = -1
  noEpoll : s.epollFd = -1
  calls : s.kernel.calls = [.close listenFd] ∨ ∃ fd, fd ≠ stdinFileno ∧ fd ≠ listenFd ∧
    (s.kernel.calls = [.create fd, .ctl epollCtlAdd listenFd, .close fd, .close listenFd] ∨
      s.kernel.calls = [.create fd, .ctl epollCtlAdd listenFd, .ctl epollCtlAdd stdinFileno,
        .close fd, .close listenFd])

/-- A server with an epoll instance that watches the listening socket and standard input. -/
structure Server.Started (name : Bytes) (listenFd : Fd) (s : Server) : Prop where
  inv : s.Inv name
  descriptors : s.Descriptors listenFd

lemma createEpoll_cases (k : Kernel) (socketFd fd : Fd) (events : EventMask) :
    ((createEpollWithSocketEvents k socketFd events (.created fd)).1 = fd ∧
      (createEpollWithSocketEvents k socketFd events (.created fd)).2.calls = k.calls ++
        [.create fd, .ctl epollCtlAdd socketFd, .ctl epollCtlAdd stdinFileno] ∧
      ∀ g, (createEpollWithSocketEvents k socketFd events (.created fd)).2.mask g =
        if g = stdinFileno then some epollIn else if g = socketFd then some events else none) ∨
    ((createEpollWithSocketEvents k socketFd events (.created fd)).1 = -1 ∧
      ((createEpollWithSocketEvents k socketFd events (.created fd)).2.calls = k.calls ++
          [.create fd, .ctl epollCtlAdd socketFd, .close fd] ∨
        (createEpollWithSocketEvents k socketFd events (.created fd)).2.calls = k.calls ++
          [.create fd, .ctl epollCtlAdd socketFd, .ctl epollCtlAdd stdinFileno, .close fd])) := by
  rw [createEpollWithSocketEvents]
  dsimp only
  rcases h₁ : epollRegister { k.call (.create fd) with interest := .watching [] } socketFd events
    with ⟨ok₁, k₁⟩
  have hcalls₁ : k₁.calls = k.calls ++ [.create fd, .ctl epollCtlAdd socketFd] := by
    have h := epollUpdate_calls { k.call (.create fd) with interest := .watching [] } epollCtlAdd
      socketFd events
    rw [← epollFdAdd, ← epollRegister, h₁] at h
    rw [h, Kernel.call, List.append_assoc]
    rfl
  cases ok₁ with
  | false =>
    refine Or.inr ⟨rfl, Or.inl ?_⟩
    rw [Kernel.calls_close, hcalls₁, List.append_assoc]
    rfl
  | true =>
    rcases h₂ : epollRegister k₁ stdinFileno epollIn with ⟨ok₂, k₂⟩
    have hcalls₂ : k₂.calls = k.calls ++
        [.create fd, .ctl epollCtlAdd socketFd, .ctl epollCtlAdd stdinFileno] := by
      have h := epollUpdate_calls k₁ epollCtlAdd stdinFileno epollIn
      rw [← epollFdAdd, ← epollRegister, h₂] at h
      rw [h, hcalls₁, List.append_assoc]
      rfl
    dsimp only
    rw [h₂]
    cases ok₂ with
    | false =>
      refine Or.inr ⟨rfl, Or.inr ?_⟩
      rw [Kernel.calls_close, hcalls₂, List.append_assoc]
      rfl
    | true =>
      refine Or.inl ⟨rfl, hcalls₂, ?_⟩
      intro g
      rw [epollFdAdd_true h₂ g, epollFdAdd_true h₁ g]
      rfl

lemma Server.Descriptors.of_start {s : Server} (hconns : s.connections = [])
    (hlisten : 0 ≤ s.listenFd ∧ s.listenFd ≠ stdinFileno)
    (hepoll : 0 ≤ s.epollFd ∧ s.epollFd ≠ stdinFileno ∧ s.epollFd ≠ s.listenFd)
    (hcalls : s.kernel.calls =
      [.create s.epollFd, .ctl epollCtlAdd s.listenFd, .ctl epollCtlAdd stdinFileno])
    (hmask : ∀ g, s.kernel.mask g =
      if g = stdinFileno then some epollIn else if g = s.listenFd then some epollIn else none) :
    s.Descriptors s.listenFd := by
  have hacts : s.kernel.acts = [.opens s.epollFd, .uses s.listenFd, .uses stdinFileno] := by
    rw [Kernel.acts, hcalls]
    rfl
  have hheld : s.heldFds = [stdinFileno, s.listenFd, s.epollFd] := by
    rw [Server.heldFds, hconns]
    rfl
  constructor
  · rfl
  · exact hlisten.2
  · rw [hheld]
    simp [hlisten.1, hepoll.1, stdinFileno]
  · rw [hacts]
    refine ⟨?_, ?_, ?_, trivial⟩
    · simp [Act.Allowed, hepoll.2]
    · simp [Act.Allowed, Act.after]
    · simp [Act.Allowed, Act.after]
  · rw [hacts, hheld]
    rfl
  · rw [hconns]
    exact List.nodup_nil
  · intro g
    rw [hmask, hconns]
    split_ifs with h₁ h₂
    · simp [h₁]
    · simp [h₂]
    · simp [h₁, h₂]
  · rw [hacts]
    intro fd hfd
    have heq : fd = s.epollFd := by simpa using hfd
    exact heq ▸ hepoll.2
  · rw [hacts]
    simp
  · rw [hcalls]
    intro fd hfd
    simpa using hfd

section Start

variable (name : Bytes) {listenFd : Fd} (hpos : 0 ≤ listenFd) (hstdin : listenFd ≠ stdinFileno)
  {r : CreateReplies} (hr : r.create.Admissible listenFd)

include hpos hstdin hr

theorem enterLoop_cases :
    ((listeningServer name listenFd).enterLoop r).server.Started name listenFd ∨
      ((listeningServer name listenFd).enterLoop r).phase = .stopped ∧
        ((listeningServer name listenFd).enterLoop r).server.NotStarted listenFd := by
  rcases hreply : r.create with fd | e
  · rw [hreply] at hr
    obtain ⟨hfd, hfdstdin, hfdlisten⟩ := hr
    obtain ⟨k₀, hk₀⟩ : ∃ k₀ : Kernel, k₀ =
      { (listeningServer name listenFd).kernel with ctlScript := r.ctl } := ⟨_, rfl⟩
    have hnone : k₀.calls = [] := by rw [hk₀]; rfl
    have hcases := createEpoll_cases k₀ listenFd fd epollIn
    obtain ⟨created, hcreated⟩ : ∃ created, created =
      createEpollWithSocketEvents k₀ listenFd epollIn (.created fd) := ⟨_, rfl⟩
    rw [← hcreated, hnone, List.nil_append, List.nil_append, List.nil_append] at hcases
    have hloop : (listeningServer name listenFd).enterLoop r =
        if created.1 = -1 then
          ⟨{ listeningServer name listenFd with
              epollFd := created.1, kernel := created.2.close listenFd, listenFd := -1 }, .stopped⟩
        else
          ⟨{ listeningServer name listenFd with epollFd := created.1, kernel := created.2 },
            .waiting⟩ := by
      rw [hcreated, hk₀, ← hreply]
      rfl
    rw [hloop]
    rcases hcases with ⟨hfst, hcalls, hmask⟩ | ⟨hfst, hcalls⟩
    · left
      have hne : ¬created.1 = -1 := by
        rw [hfst]
        rintro rfl
        exact absurd hfd (by decide)
      rw [if_neg hne]
      refine ⟨Server.Inv.of_empty rfl rfl rfl, ?_⟩
      have hepoll : 0 ≤ created.1 ∧ created.1 ≠ stdinFileno ∧ created.1 ≠ listenFd := by
        rw [hfst]
        exact ⟨hfd, hfdstdin, hfdlisten⟩
      rw [← hfst] at hcalls
      exact Server.Descriptors.of_start (s := { listeningServer name listenFd with
        epollFd := created.1, kernel := created.2 }) rfl ⟨hpos, hstdin⟩ hepoll hcalls hmask
    · right
      rw [if_pos hfst]
      refine ⟨rfl, rfl, rfl, hfst, Or.inr ⟨fd, hfdstdin, hfdlisten, ?_⟩⟩
      rcases hcalls with hcalls | hcalls
      · left
        exact congrArg (· ++ [SysCall.close listenFd]) hcalls
      · right
        exact congrArg (· ++ [SysCall.close listenFd]) hcalls
  · right
    unfold Server.enterLoop
    rw [hreply]
    exact ⟨rfl, rfl, rfl, rfl, Or.inl rfl⟩

end Start

/-! ### The loop -/

section Run

variable {host : Bytes} {listenFd : Fd} (hpos : 0 ≤ listenFd) (hstdin : listenFd ≠ stdinFileno)
  {P : Loop → LoopInput → Prop} {l : Loop} (hr : (serverRun host listenFd).Reach P l)

include hpos hstdin hr

theorem run_descriptors :
    (l.server.Descriptors listenFd ∧ (l.Running → l.server.Inv host)) ∨
      l.phase = .stopped ∧ l.server.NotStarted listenFd := by
  obtain ⟨l₀, ⟨r, hadm, rfl⟩, hp⟩ := hr
  refine System.Path.preserves (I := fun l : Loop =>
    (l.server.Descriptors listenFd ∧ (l.Running → l.server.Inv host)) ∨
      l.phase = .stopped ∧ l.server.NotStarted listenFd) ?_ hp ?_
  · rintro l i l' hl - ⟨hi, hstep⟩
    obtain ⟨hrunning, hcases⟩ := serverLoopStep_cases hstep
    rcases hl with ⟨hdesc, hinv⟩ | ⟨hstopped, -⟩
    · left
      rcases hcases with heq | ⟨r, e, es, ok, rfl, hphase, hev, hphase'⟩
      · rw [heq]
        exact ⟨hdesc, fun _ => hinv hrunning⟩
      · have hd := (hinv hrunning).sound.registry.distinct
        have hdesc' := handleEvent_descriptors hdesc hd (e := e) (r := r) hi
        rw [hev] at hdesc'
        refine ⟨hdesc', ?_⟩
        intro hrun'
        cases ok with
        | true => exact (handleEvent_true hd hi hev).inv (hinv hrunning)
        | false => exact absurd hphase' hrun'
    · exact absurd hstopped hrunning
  · rcases enterLoop_cases host hpos hstdin hadm with hstarted | hnot
    · exact Or.inl ⟨hstarted.descriptors, fun _ => hstarted.inv⟩
    · exact Or.inr hnot

end Run

theorem runInputs_serverRun {host : Bytes} {listenFd : Fd} {r : CreateReplies}
    (hadm : r.create.Admissible listenFd) {P : Loop → LoopInput → Prop} [∀ l i, Decidable (P l i)]
    {l : Loop} {is : List LoopInput}
    (h : runInputs P ((listeningServer host listenFd).enterLoop r) is = some l) :
    (serverRun host listenFd).Reach P l := by
  have hpath : (serverSystem host).Path P _ l := runInputs_path h
  exact ⟨_, ⟨r, hadm, rfl⟩, hpath⟩

/-! ### The end -/

/-- The log of a whole run: every socket that was accepted and the epoll instance that was
created were closed once and not used afterwards, the listening socket was closed once, and
nothing but standard input is left open. -/
structure Server.AllClosed (listenFd : Fd) (s : Server) : Prop where
  lawful : Lawful [stdinFileno, listenFd] s.kernel.acts
  left : heldAfter [stdinFileno, listenFd] s.kernel.acts = [stdinFileno]
  accepted : ∀ before fd after, s.kernel.calls = before ++ .accept fd :: after →
    ClosedOnce fd (after.map SysCall.act)
  listener : s.kernel.calls.count (.close listenFd) = 1
  epoll : ∀ fd, .create fd ∈ s.kernel.calls → s.kernel.calls.count (.close fd) = 1

lemma count_close (calls : List SysCall) (fd : Fd) :
    (calls.map SysCall.act).count (.closes fd) = calls.count (.close fd) := by
  rw [List.count, List.countP_map, List.count]
  apply List.countP_congr
  intro x _
  cases x <;> simp [SysCall.act]

lemma Server.AllClosed.of_lawful {listenFd : Fd} {s : Server} (hstdin : listenFd ≠ stdinFileno)
    (hlawful : Lawful [stdinFileno, listenFd] s.kernel.acts)
    (hleft : heldAfter [stdinFileno, listenFd] s.kernel.acts = [stdinFileno])
    (hopened : ∀ fd, .opens fd ∈ s.kernel.acts → fd ≠ stdinFileno ∧ fd ≠ listenFd)
    (hcreated : ∀ fd, .create fd ∈ s.kernel.calls → s.kernel.acts.count (.opens fd) = 1) :
    s.AllClosed listenFd where
  lawful := hlawful
  left := hleft
  accepted := by
    intro before fd after hcalls
    have hacts : s.kernel.acts = before.map SysCall.act ++ .opens fd :: after.map SysCall.act := by
      rw [Kernel.acts, hcalls, List.map_append]
      rfl
    have hne := (hopened fd (by rw [hacts]; exact List.mem_append_right _ List.mem_cons_self)).1
    have hn : [stdinFileno, listenFd].Nodup := by
      simpa using hstdin.symm
    rw [hacts] at hlawful hleft
    apply hlawful.opening_closedOnce hn
    rw [hleft, List.mem_singleton]
    exact hne
  listener := by
    have hcount := hlawful.count_closes listenFd
    have hnone : s.kernel.acts.count (.opens listenFd) = 0 := by
      rw [List.count_eq_zero]
      exact fun hmem => (hopened listenFd hmem).2 rfl
    rw [hleft, hnone, Kernel.acts, count_close] at hcount
    simpa [hstdin, hstdin.symm] using hcount
  epoll := by
    intro fd hfd
    have hmem : Act.opens fd ∈ s.kernel.acts := List.mem_map.mpr ⟨_, hfd, rfl⟩
    obtain ⟨hne, hne'⟩ := hopened fd hmem
    have hcount := hlawful.count_closes fd
    rw [hleft, hcreated fd hfd, Kernel.acts, count_close] at hcount
    simpa [hne.symm, hne'.symm] using hcount

lemma foldl_connectionCleanup {cs : List Connection} (hcs : ∀ c ∈ cs, c.fd ≠ -1) (s : Server) :
    (cs.foldl Server.connectionCleanup s).kernel.calls =
      s.kernel.calls ++ (cs.map Connection.fd).map SysCall.close := by
  induction cs generalizing s with
  | nil => simp
  | cons c cs ih =>
    have hclose : (s.connectionCleanup c).kernel.calls = s.kernel.calls ++ [.close c.fd] := by
      unfold Server.connectionCleanup
      dsimp only
      rw [if_pos (hcs c List.mem_cons_self)]
      rfl
    rw [List.foldl_cons, ih (fun d hd => hcs d (List.mem_cons_of_mem c hd)), hclose,
      List.append_assoc]
    rfl

lemma Server.Descriptors.cleanup_calls {listenFd : Fd} {s : Server}
    (h : s.Descriptors listenFd) :
    s.cleanup.kernel.calls = s.kernel.calls ++
      (s.listenFd :: s.epollFd :: s.connections.map Connection.fd).map SysCall.close := by
  have hlisten : s.listenFd ≠ -1 := h.fd_ne (List.mem_cons_of_mem _ List.mem_cons_self)
  have hepoll : s.epollFd ≠ -1 :=
    h.fd_ne (List.mem_cons_of_mem _ (List.mem_cons_of_mem _ List.mem_cons_self))
  unfold Server.cleanup
  simp only [hlisten, hepoll, ne_eq, not_false_eq_true, if_true]
  rw [foldl_connectionCleanup (fun c hc => h.fd_ne (Server.mem_heldFds hc))]
  simp

theorem Server.Descriptors.allClosed {listenFd : Fd} {s : Server} (h : s.Descriptors listenFd) :
    s.cleanup.AllClosed listenFd := by
  have hcalls := h.cleanup_calls
  have hacts : s.cleanup.kernel.acts = s.kernel.acts ++
      (s.listenFd :: s.epollFd :: s.connections.map Connection.fd).map .closes := by
    rw [Kernel.acts, hcalls, List.map_append, List.map_map]
    rfl
  have hnew : ∀ fd, .opens fd ∈ s.cleanup.kernel.acts ↔ .opens fd ∈ s.kernel.acts := by
    intro fd
    rw [hacts]
    simp
  obtain ⟨hlawful, hleft⟩ := lawful_closeAll (List.nodup_cons.mp h.nodup).1
  have hlisten := h.listener
  have hheld := h.held
  have hbefore := h.lawful
  rw [hlisten] at hheld hbefore
  apply Server.AllClosed.of_lawful (hlisten ▸ h.listen)
  · rw [hacts, lawful_append, hheld]
    exact ⟨hbefore, hlawful⟩
  · rw [hacts, heldAfter_append, hheld]
    exact hleft
  · intro fd hfd
    rw [← hlisten]
    exact h.opened fd ((hnew fd).mp hfd)
  · intro fd hfd
    have heq : fd = s.epollFd := by
      apply h.created fd
      rw [hcalls] at hfd
      simpa using hfd
    have hcloses : List.count (Act.opens s.epollFd) ((s.listenFd :: s.epollFd ::
        s.connections.map Connection.fd).map Act.closes) = 0 := by
      rw [List.count_eq_zero]
      simp
    rw [hacts, List.count_append, heq, h.epollOpened, hcloses]

lemma Server.NotStarted.allClosed {listenFd : Fd} {s : Server} (hstdin : listenFd ≠ stdinFileno)
    (h : s.NotStarted listenFd) : s.cleanup.AllClosed listenFd := by
  have hcleanup : s.cleanup.kernel.calls = s.kernel.calls := by
    unfold Server.cleanup
    simp [h.noListener, h.noEpoll, h.connections]
  have hcalls := h.calls
  rw [← hcleanup] at hcalls
  rcases hcalls with hcalls | ⟨fd, hfd, hfd', hcalls | hcalls⟩
  · have hacts : s.cleanup.kernel.acts = [.closes listenFd] := by
      rw [Kernel.acts, hcalls]
      rfl
    apply Server.AllClosed.of_lawful hstdin
    · simp [hacts, Lawful, Act.Allowed]
    · simp [hacts, heldAfter, Act.after, hstdin.symm]
    · simp [hacts]
    · simp [hcalls]
  · have hacts : s.cleanup.kernel.acts =
        [.opens fd, .uses listenFd, .closes fd, .closes listenFd] := by
      rw [Kernel.acts, hcalls]
      rfl
    apply Server.AllClosed.of_lawful hstdin
    · simp [hacts, Lawful, Act.Allowed, Act.after, hfd, hfd', hfd.symm, hfd'.symm]
    · simp [hacts, heldAfter, Act.after, hstdin.symm, hfd.symm, hfd'.symm]
    · simp [hacts, hfd, hfd']
    · simp [hacts, hcalls]
  · have hacts : s.cleanup.kernel.acts =
        [.opens fd, .uses listenFd, .uses stdinFileno, .closes fd, .closes listenFd] := by
      rw [Kernel.acts, hcalls]
      rfl
    apply Server.AllClosed.of_lawful hstdin
    · simp [hacts, Lawful, Act.Allowed, Act.after, hfd, hfd', hfd.symm, hfd'.symm]
    · simp [hacts, heldAfter, Act.after, hstdin.symm, hfd.symm, hfd'.symm]
    · simp [hacts, hfd, hfd']
    · simp [hacts, hcalls]

/-! ### The lifecycle -/

/-- What holds between two events: the registered descriptors are the listening socket,
standard input and those of the connections; no connection is listed twice; and the
descriptors that were opened and not closed are those that the server names, its connections
in the order in which they were accepted. -/
structure Server.DescriptorsMatch (listenFd : Fd) (s : Server) : Prop where
  registered : (s.kernel.interest.entries.map PollEntry.fd).Perm
    (listenFd :: stdinFileno :: s.connections.map Connection.fd)
  distinct : (s.connections.map Connection.addr).Nodup
  lawful : Lawful [stdinFileno, listenFd] s.kernel.acts
  held : heldAfter [stdinFileno, listenFd] s.kernel.acts =
    stdinFileno :: listenFd :: s.epollFd :: s.connections.map Connection.fd

lemma Kernel.mem_registered (k : Kernel) (fd : Fd) :
    fd ∈ k.interest.entries.map PollEntry.fd ↔ k.mask fd ≠ none := by
  have hnone : k.mask fd = none ↔ ∀ entry ∈ k.interest.entries, entry.fd ≠ fd := by
    unfold Kernel.mask InterestList.find
    rw [Option.map_eq_none_iff, Keyed.lookup_none]
  rw [ne_eq, hnone, List.mem_map]
  simp

lemma Server.Descriptors.descriptorsMatch {listenFd : Fd} {s : Server}
    (h : s.Descriptors listenFd) :
    s.DescriptorsMatch listenFd := by
  have hn := h.nodup
  have hheld := h.held
  have hlawful := h.lawful
  have hregistered := h.registered
  unfold Server.heldFds at hn hheld
  rw [h.listener] at hn hheld hlawful hregistered
  refine ⟨?_, h.addrs, hlawful, hheld⟩
  rw [List.perm_ext_iff_of_nodup s.kernel.interest.nodup]
  · intro fd
    rw [Kernel.mem_registered, hregistered, List.mem_cons, List.mem_cons]
  · simp only [List.nodup_cons, List.mem_cons, not_or] at hn ⊢
    obtain ⟨⟨hne, -, h₁⟩, ⟨-, h₂⟩, -, h₃⟩ := hn
    exact ⟨⟨fun heq => hne heq.symm, h₂⟩, h₁, h₃⟩

/-- Over every run, whatever calls fail, the descriptors are in order between two events, and
wherever the run ends the cleanup leaves every descriptor closed, once. -/
theorem descriptor_lifecycle {host : Bytes} {listenFd : Fd} (hpos : 0 ≤ listenFd)
    (hstdin : listenFd ≠ stdinFileno) {l : Loop}
    (hr : (serverRun host listenFd).Reach System.any l) :
    (l.Running → l.server.DescriptorsMatch listenFd) ∧ l.server.cleanup.AllClosed listenFd := by
  rcases run_descriptors hpos hstdin hr with ⟨hdesc, -⟩ | ⟨hstopped, hnot⟩
  · exact ⟨fun _ => hdesc.descriptorsMatch, hdesc.allClosed⟩
  · exact ⟨fun hrunning => absurd hstopped hrunning, hnot.allClosed hstdin⟩

/-- A client whose socket fails is removed although the kernel refuses to unregister it; the
next one gets the same descriptor, and the one after that cannot be registered. -/
def failingInputs : List LoopInput :=
  batch ⟨3, epollIn⟩ { accepts := [.socket 7 1] } ++
    batch ⟨7, epollIn⟩ { recvs := [.error .econnreset], ctl := [some .einval] } ++
    batch ⟨3, epollIn⟩ { accepts := [.socket 7 1] } ++
    [.events [⟨3, epollIn⟩], .replies { accepts := [.socket 8 2], ctl := [some .einval] }]

theorem descriptor_lifecycle_troubled :
    ∃ l, runInputs System.any ((listeningServer (ascii "host") 3).enterLoop ⟨.created 5, []⟩)
        failingInputs = some l ∧
      l.phase = .stopped ∧ l.server.connections.map Connection.fd = [7] ∧
      l.server.cleanup.kernel.calls.count (.close 7) = 2 ∧
      l.server.cleanup.AllClosed 3 := by
  obtain ⟨l, hl, hphase, hfds, hcloses⟩ : ∃ l, runInputs System.any
        ((listeningServer (ascii "host") 3).enterLoop ⟨.created 5, []⟩) failingInputs = some l ∧
      l.phase = .stopped ∧ l.server.connections.map Connection.fd = [7] ∧
      l.server.cleanup.kernel.calls.count (.close 7) = 2 :=
    ⟨_, rfl, rfl, by decide, by decide⟩
  have hreach : (serverRun (ascii "host") 3).Reach System.any l :=
    runInputs_serverRun (by decide) hl
  exact ⟨l, hl, hphase, hfds, hcloses,
    (descriptor_lifecycle (by decide) (by decide) hreach).2⟩

end Chatroom
