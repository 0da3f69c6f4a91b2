import Chatroom.Proofs.Gate
import Chatroom.Proofs.ReadBoundaries
import Chatroom.Proofs.Speech

/-!
# Read boundaries at the server

What the read events of one guest do to the rest of the room is a function of the bytes they
deliver and of whether the stream ended. It does not depend on how the bytes are split into
read events and `recv` results, unless the handler reports a failure and with it ends the
event loop.
-/

namespace Chatroom
open Fallible

/-- The read handler is called for one read event of `fd` after the other, as long as its
connection is served and the handler lets the loop go on. -/
def Server.deliver (s : Server) (fd : Fd) : List (List RecvReply) → Bool × Server
  | [] => (true, s)
  | replies :: events =>
    match s.find fd with
    | none => (true, s)
    | some _ =>
      match s.handleReadNetworkPackageEvent fd replies with
      | (false, s) => (false, s)
      | (true, s) => s.deliver fd events

/-- What is left in the buffer of a guest that is kept after `buffer` was handled. A guest is
not kept after the end of its stream or after a frame that is not a CHAT. -/
def remains (ended : Bool) (buffer : Bytes) : Option Bytes :=
  match _h : parseFrame buffer with
  | .incomplete => if ended then none else some buffer
  | .illegal => none
  | .frame m rest => if m.type = .chat then remains ended rest else none
termination_by buffer.length
decreasing_by exact frameCodec.rest_length_lt _h

/-- The connection of an address, as far as its parser is concerned. -/
def Server.parserAt (s : Server) (addr : ℕ) : Option (Bytes × ConnectionState) :=
  (Keyed.lookup Connection.addr addr s.connections).map (fun c => (c.inBuffer, c.state))

/-- Two ways to end up that cannot be told apart, except for the parser of a guest whose
events were not all handled. -/
structure SameOutcome (addr : ℕ) (r r' : Bool × Server) : Prop where
  reported : r.1 = r'.1
  printed : r.2.stdout = r'.2.stdout
  posted : r.2.roomLog = r'.2.roomLog
  others : Keyed.remove Connection.addr addr r.2.connections =
    Keyed.remove Connection.addr addr r'.2.connections
  removed : r.2.parserAt addr = none ↔ r'.2.parserAt addr = none
  kept : r.1 = true → r.2.parserAt addr = r'.2.parserAt addr

/-- The outcome that the bytes of guest `c` call for: its entries are posted up to the first
one that cannot be, and without a failure the guest is kept with what remains of the buffer. -/
structure PostsSpoken (c : Connection) (ended : Bool) (buffer : Bytes) (s : Server)
    (r : Bool × Server) : Prop where
  posted : ∃ said, said <+: spoken ended c.serial c.name buffer ∧
    (r.1 = true → said = spoken ended c.serial c.name buffer) ∧
    r.2.roomLog = s.roomLog ++ said ∧ r.2.stdout = s.stdout ++ said.map RoomEntry.line
  parser : r.1 = true →
    r.2.parserAt c.addr = (remains ended buffer).map (fun rest => (rest, .active))

/-! ### The bytes of a guest -/

section Bytes

variable {ended : Bool} {n : ℕ} {name buffer : Bytes}

lemma remains_incomplete (hp : parseFrame buffer = .incomplete) :
    remains ended buffer = if ended then none else some buffer := by
  rw [remains]
  split <;> simp_all

lemma remains_illegal (hp : parseFrame buffer = .illegal) : remains ended buffer = none := by
  rw [remains]
  split <;> simp_all

lemma remains_frame {m : Message} {rest : Bytes} (hp : parseFrame buffer = .frame m rest) :
    remains ended buffer = if m.type = .chat then remains ended rest else none := by
  rw [remains]
  split
  · rename_i h
    rw [hp] at h
    cases h
  · rename_i h
    rw [hp] at h
    cases h
  · rename_i m' rest' h
    rw [hp] at h
    cases h
    rfl

lemma remains_append (ended : Bool) (buffer more : Bytes) :
    remains ended (buffer ++ more) =
      (remains false buffer).bind (fun rest => remains ended (rest ++ more)) := by
  induction hn : buffer.length using Nat.strong_induction_on generalizing buffer with
  | h n ih =>
    cases hp : parseFrame buffer with
    | incomplete =>
      rw [remains_incomplete hp]
      rfl
    | illegal =>
      rw [remains_illegal hp, remains_illegal (parseFrame_illegal_append buffer more hp)]
      rfl
    | frame m rest =>
      have happend : parseFrame (buffer ++ more) = .frame m (rest ++ more) :=
        frameCodec.frame_append more hp
      have hlt : rest.length < n := by
        rw [← hn]
        exact frameCodec.rest_length_lt hp
      rw [remains_frame hp, remains_frame happend]
      by_cases hchat : m.type = .chat
      · rw [if_pos hchat, if_pos hchat]
        exact ih rest.length hlt rest rfl
      · rw [if_neg hchat, if_neg hchat]
        rfl

lemma spoken_append (ended : Bool) (n : ℕ) (name buffer more : Bytes) :
    spoken ended n name (buffer ++ more) =
      spoken false n name buffer ++
        ((remains false buffer).map (fun rest => spoken ended n name (rest ++ more))).getD [] := by
  induction hlen : buffer.length using Nat.strong_induction_on generalizing buffer with
  | h k ih =>
    cases hp : parseFrame buffer with
    | incomplete =>
      rw [remains_incomplete hp, spoken_incomplete hp]
      rfl
    | illegal =>
      rw [remains_illegal hp, spoken_illegal hp,
        spoken_illegal (parseFrame_illegal_append buffer more hp)]
      rfl
    | frame m rest =>
      have happend : parseFrame (buffer ++ more) = .frame m (rest ++ more) :=
        frameCodec.frame_append more hp
      have hlt : rest.length < k := by
        rw [← hlen]
        exact frameCodec.rest_length_lt hp
      rw [remains_frame hp, spoken_frame hp, spoken_frame happend]
      by_cases htype : m.type = .closeCon
      · have hchat : m.type ≠ .chat := by
          rw [htype]
          decide
        rw [if_pos htype, if_pos htype, if_neg hchat]
        exact (List.append_nil _).symm
      · rw [if_neg htype, if_neg htype]
        by_cases hchat : m.type = .chat
        · rw [if_pos hchat, if_pos hchat, if_pos hchat, ih rest.length hlt rest rfl]
          rfl
        · rw [if_neg hchat, if_neg hchat, if_neg hchat]
          rfl

end Bytes

/-! ### The rest of the room -/

/-- Two kernels that answer alike. -/
structure Kernel.Alike (k k' : Kernel) : Prop where
  interest : k.interest = k'.interest
  ctlScript : k.ctlScript = k'.ctlScript

/-- Two servers that differ in one connection and in what they remember. -/
structure Server.Alike (addr : ℕ) (s t : Server) : Prop where
  others : Keyed.remove Connection.addr addr s.connections =
    Keyed.remove Connection.addr addr t.connections
  kernel : s.kernel.Alike t.kernel
  printed : s.stdout = t.stdout
  posted : s.roomLog = t.roomLog

/-- Two calls that report the same and leave servers that are alike. -/
structure AlikeResults (addr : ℕ) (r r' : Bool × Server) : Prop where
  reported : r.1 = r'.1
  left : r.2.Alike addr r'.2

section Alike

variable {addr : ℕ} {s t u : Server} {k k' : Kernel}

lemma epollUpdate_alike (h : k.Alike k') (op : ℤ) (fd : Fd) (events : EventMask) :
    (epollUpdate k op fd events).1 = (epollUpdate k' op fd events).1 ∧
      (epollUpdate k op fd events).2.Alike (epollUpdate k' op fd events).2 := by
  obtain ⟨hinterest, hscript⟩ := h
  unfold epollUpdate
  simp only [hinterest, hscript]
  split
  · exact ⟨rfl, hinterest, rfl⟩
  · split
    · exact ⟨rfl, hinterest, rfl⟩
    · exact ⟨rfl, rfl, rfl⟩

lemma Kernel.Alike.close (h : k.Alike k') (fd : Fd) : (k.close fd).Alike (k'.close fd) :=
  ⟨congrArg (fun i => i.delete fd) h.interest, h.ctlScript⟩

namespace Server.Alike

lemma refl (s : Server) : s.Alike addr s :=
  ⟨rfl, ⟨rfl, rfl⟩, rfl, rfl⟩

lemma symm (h : s.Alike addr t) : t.Alike addr s :=
  ⟨h.others.symm, ⟨h.kernel.interest.symm, h.kernel.ctlScript.symm⟩, h.printed.symm,
    h.posted.symm⟩

lemma trans (h : s.Alike addr t) (h' : t.Alike addr u) : s.Alike addr u :=
  ⟨h.others.trans h'.others,
    ⟨h.kernel.interest.trans h'.kernel.interest, h.kernel.ctlScript.trans h'.kernel.ctlScript⟩,
    h.printed.trans h'.printed, h.posted.trans h'.posted⟩

end Server.Alike

lemma queueToEach_remove {skip : Connection → Bool} (hskip : ∀ c, c.addr = addr → skip c = true)
    (m : Message) (events : EventMask) (cs : List Connection) (k : Kernel) :
    Server.queueToEach skip m events (Keyed.remove Connection.addr addr cs) k =
      ((Server.queueToEach skip m events cs k).1,
        Keyed.remove Connection.addr addr (Server.queueToEach skip m events cs k).2.1,
        (Server.queueToEach skip m events cs k).2.2) := by
  induction cs generalizing k with
  | nil => rfl
  | cons c cs ih =>
    by_cases haddr : c.addr = addr
    · simp only [Keyed.remove_cons_of_eq haddr, Server.queueToEach, hskip c haddr, if_true]
    · have hcons : ∀ (d : Connection) (ds : List Connection), d.addr = c.addr →
          Keyed.remove Connection.addr addr (d :: ds) =
            d :: Keyed.remove Connection.addr addr ds :=
        fun d ds hd => Keyed.remove_cons_of_ne (by rw [hd]; exact haddr) ds
      rw [hcons c cs rfl]
      by_cases hc : skip c = true
      · simp only [Server.queueToEach, hc, if_true, ih, hcons c _ rfl]
      · have hc : skip c = false := by simpa using hc
        simp only [Server.queueToEach, hc, Bool.false_eq_true, if_false, protocolQueueMessage_eq]
        by_cases hlegal : protocolPayloadLengthIsLegal m.payload.length
        · simp only [if_pos hlegal]
          rcases epollFdMod k c.fd events with ⟨ok, k'⟩
          cases ok with
          | false => simp only [hcons]
          | true => simp only [hcons, ih]
        · simp only [if_neg hlegal, Connection.reject, hcons]

lemma queueToEach_alike (skip : Connection → Bool) (m : Message) (events : EventMask)
    (cs : List Connection) (h : k.Alike k') :
    (Server.queueToEach skip m events cs k).1 = (Server.queueToEach skip m events cs k').1 ∧
      (Server.queueToEach skip m events cs k).2.1 = (Server.queueToEach skip m events cs k').2.1 ∧
      (Server.queueToEach skip m events cs k).2.2.Alike
        (Server.queueToEach skip m events cs k').2.2 := by
  induction cs generalizing k k' with
  | nil => exact ⟨rfl, rfl, h⟩
  | cons c cs ih =>
    by_cases hc : skip c = true
    · obtain ⟨hok, hcs, hkernel⟩ := ih h
      simp only [Server.queueToEach, hc, if_true, hok, hcs]
      exact ⟨trivial, trivial, hkernel⟩
    · have hc : skip c = false := by simpa using hc
      simp only [Server.queueToEach, hc, Bool.false_eq_true, if_false]
      rcases protocolQueueMessage c m with ⟨ok, c'⟩
      cases ok with
      | false => exact ⟨rfl, rfl, h⟩
      | true =>
        obtain ⟨hok, hk⟩ := epollUpdate_alike h epollCtlMod c'.fd events
        simp only [epollFdMod]
        rcases hr : epollUpdate k epollCtlMod c'.fd events with ⟨ok, k₁⟩
        rcases hr' : epollUpdate k' epollCtlMod c'.fd events with ⟨ok', k₁'⟩
        rw [hr, hr'] at hok hk
        have hok : ok = ok' := hok
        rw [← hok]
        cases ok with
        | false => exact ⟨rfl, rfl, hk⟩
        | true =>
          obtain ⟨hok, hcs, hkernel⟩ := ih hk
          exact ⟨hok, congrArg (List.cons c') hcs, hkernel⟩

lemma post_alike (h : s.Alike addr t) (e : RoomEntry) (author : Bytes) (notice : Message) :
    AlikeResults addr (s.post e author notice (some addr))
      (t.post e author notice (some addr)) := by
  obtain ⟨skip, hskip⟩ : ∃ skip : Connection → Bool, skip =
    fun conn => decide (some conn.addr = some addr ∨ conn.state ≠ .active) := ⟨_, rfl⟩
  have hself : ∀ c : Connection, c.addr = addr → skip c = true := by
    intro c hc
    simp [hskip, hc]
  have hs := queueToEach_remove hself (formatBroadcastMessage author notice)
    (epollIn ||| epollOut ||| epollRdhup) s.connections s.kernel
  have ht := queueToEach_remove hself (formatBroadcastMessage author notice)
    (epollIn ||| epollOut ||| epollRdhup) t.connections t.kernel
  have halike := queueToEach_alike skip (formatBroadcastMessage author notice)
    (epollIn ||| epollOut ||| epollRdhup) (Keyed.remove Connection.addr addr s.connections) h.kernel
  rw [hs, h.others, ht] at halike
  obtain ⟨hok, hothers, hkernel⟩ := halike
  unfold Server.post Server.broadcastMessageToOtherClients
  simp only [← hskip]
  refine ⟨hok, hothers, hkernel, ?_, ?_⟩
  · exact congrArg (fun lines => formatPrintMessage lines author notice) h.printed
  · exact congrArg (fun log => log ++ [e]) h.posted

lemma removeConnection_alike (h : s.Alike addr t) {c c' : Connection} (haddr : c.addr = addr)
    (haddr' : c'.addr = addr) (hfd : c'.fd = c.fd) :
    AlikeResults addr (s.removeConnection c) (t.removeConnection c') := by
  have hothers : Keyed.remove Connection.addr addr (Keyed.remove Connection.addr c.addr
      s.connections) = Keyed.remove Connection.addr addr (Keyed.remove Connection.addr c'.addr
      t.connections) := by
    rw [haddr, haddr', h.others]
  have hkernel := (epollUpdate_alike h.kernel epollCtlDel c.fd 0).2
  unfold Server.removeConnection Server.connectionCleanup
  rw [hfd]
  refine ⟨rfl, ?_⟩
  dsimp only
  by_cases hopen : c.fd ≠ -1
  · rw [if_pos hopen, if_pos hopen]
    exact ⟨hothers, hkernel.close c.fd, h.printed, h.posted⟩
  · rw [if_neg hopen, if_neg hopen]
    exact ⟨hothers, hkernel, h.printed, h.posted⟩

lemma AlikeResults.trans {r r' r'' : Bool × Server} (h : AlikeResults addr r r')
    (h' : AlikeResults addr r' r'') : AlikeResults addr r r'' :=
  ⟨h.reported.trans h'.reported, h.left.trans h'.left⟩

lemma AlikeResults.andThen {r r' : Bool × Server} (h : AlikeResults addr r r')
    {f g : Server → Bool × Server}
    (hf : ∀ s t, s.Alike addr t → AlikeResults addr (f s) (g t)) :
    AlikeResults addr (andThen r f) (andThen r' g) := by
  rcases r with ⟨ok, s⟩
  rcases r' with ⟨ok', t⟩
  have hok : ok = ok' := h.reported
  rw [← hok] at h ⊢
  cases ok with
  | false => exact h
  | true => exact hf s t h.left

end Alike

/-! ### What the bytes call for -/

/-- Post the entries of the guest at `addr`, until one of them cannot be posted. -/
def Server.postAll (addr : ℕ) : List RoomEntry → Server → Bool × Server
  | [], s => (true, s)
  | e :: entries, s =>
    andThen (s.post e e.author (Message.of .chat e.text) (some addr)) (Server.postAll addr entries)

/-- Post what a guest has to say, and let it go if it is not to be kept. -/
def Server.answer (s : Server) (c : Connection) (ended : Bool) (buffer : Bytes) : Bool × Server :=
  andThen (Server.postAll c.addr (spoken ended c.serial c.name buffer) s)
    (fun t => if remains ended buffer = none then t.removeConnection c else (true, t))

/-- A result of reading is the answer to the bytes, and the guest is there or not as they call
for. -/
structure Answers (c : Connection) (ended : Bool) (buffer : Bytes) (s : Server)
    (r : Bool × Server) : Prop where
  alike : AlikeResults c.addr r (s.answer c ended buffer)
  held : r.1 = false → c.addr ∈ r.2.connections.map Connection.addr
  gone : r.1 = true → remains ended buffer = none →
    ∀ d ∈ r.2.connections, d.addr ≠ c.addr ∧ d.fd ≠ c.fd
  stays : r.1 = true → ∀ rest, remains ended buffer = some rest → r.2.Distinct ∧
    ∃ c' ∈ r.2.connections, SamePeer c c' ∧ c'.name = c.name ∧ c'.inBuffer = rest ∧
      c'.state = .active

section Answers

variable {addr : ℕ} {s t : Server} {c c' : Connection} {ended : Bool} {buffer : Bytes}

lemma postAll_append (addr : ℕ) (entries entries' : List RoomEntry) (s : Server) :
    Server.postAll addr (entries ++ entries') s =
      andThen (Server.postAll addr entries s) (Server.postAll addr entries') := by
  induction entries generalizing s with
  | nil => rfl
  | cons e entries ih =>
    rw [List.cons_append, Server.postAll, Server.postAll]
    rcases s.post e e.author (Message.of .chat e.text) (some addr) with ⟨ok, t⟩
    cases ok with
    | false => rfl
    | true => exact ih t

lemma postAll_alike (h : s.Alike addr t) (entries : List RoomEntry) :
    AlikeResults addr (Server.postAll addr entries s) (Server.postAll addr entries t) := by
  induction entries generalizing s t with
  | nil => exact ⟨rfl, h⟩
  | cons e entries ih =>
    exact (post_alike h e e.author (Message.of .chat e.text)).andThen (fun s t h => ih h)

lemma postAll_posted (addr : ℕ) (entries : List RoomEntry) (s : Server) :
    ∃ said, said <+: entries ∧
      ((Server.postAll addr entries s).1 = true → said = entries) ∧
      (Server.postAll addr entries s).2.roomLog = s.roomLog ++ said ∧
      (Server.postAll addr entries s).2.stdout = s.stdout ++ said.map RoomEntry.line := by
  induction entries generalizing s with
  | nil =>
    exact ⟨[], List.prefix_rfl, fun _ => rfl, by simp [Server.postAll], by simp [Server.postAll]⟩
  | cons e entries ih =>
    rw [Server.postAll]
    rcases hpost : s.post e e.author (Message.of .chat e.text) (some addr) with ⟨ok, t⟩
    obtain ⟨cs, k, rfl, -⟩ := post_told rfl rfl hpost
    cases ok with
    | false =>
      refine ⟨[e], (List.prefix_cons_inj e).mpr List.nil_prefix, ?_, rfl, rfl⟩
      exact fun hok => absurd hok Bool.false_ne_true
    | true =>
      obtain ⟨said, hprefix, hall, hlog, hlines⟩ := ih (s.posted e cs k)
      refine ⟨e :: said, (List.prefix_cons_inj e).mpr hprefix, ?_, ?_, ?_⟩
      · exact fun hok => by rw [hall hok]
      · exact hlog.trans (List.append_assoc _ _ _)
      · exact hlines.trans (List.append_assoc _ _ _)

lemma answer_alike (h : s.Alike c.addr t) (hpeer : SamePeer c c') (hname : c'.name = c.name)
    (ended : Bool) (buffer : Bytes) :
    AlikeResults c.addr (s.answer c ended buffer) (t.answer c' ended buffer) := by
  unfold Server.answer
  rw [hpeer.addr, hpeer.serial, hname]
  apply (postAll_alike h _).andThen
  intro s t h
  by_cases hnone : remains ended buffer = none
  · rw [if_pos hnone, if_pos hnone]
    exact removeConnection_alike h rfl hpeer.addr hpeer.fd
  · rw [if_neg hnone, if_neg hnone]
    exact ⟨rfl, h⟩

lemma Answers.congr {r : Bool × Server} (h : Answers c' ended buffer t r) (hpeer : SamePeer c c')
    (hname : c'.name = c.name) (halike : t.Alike c.addr s) : Answers c ended buffer s r := by
  obtain ⟨hr, hheld, hgone, hstays⟩ := h
  rw [hpeer.addr] at hr hheld
  rw [hpeer.addr, hpeer.fd] at hgone
  refine ⟨?_, hheld, hgone, ?_⟩
  · have hpeer' : SamePeer c' c := ⟨hpeer.serial.symm, hpeer.addr.symm, hpeer.fd.symm⟩
    have hanswer := answer_alike (c := c') (by rwa [hpeer.addr]) hpeer' hname.symm ended buffer
    rw [hpeer.addr] at hanswer
    exact hr.trans hanswer
  · intro hok rest hrest
    obtain ⟨hd, d, hdm, hd', hdname, hbuffer, hstate⟩ := hstays hok rest hrest
    exact ⟨hd, d, hdm, hpeer.trans hd', hdname.trans hname, hbuffer, hstate⟩

lemma Answers.advance {r : Bool × Server} {rest : Bytes} (h : Answers c ended rest t r)
    (hanswer : s.answer c ended buffer = t.answer c ended rest)
    (hremains : remains ended buffer = remains ended rest) : Answers c ended buffer s r := by
  refine ⟨?_, h.held, ?_, ?_⟩
  · rw [hanswer]
    exact h.alike
  · rw [hremains]
    exact h.gone
  · rw [hremains]
    exact h.stays

lemma post_eq {e : RoomEntry} {author : Bytes} {notice : Message} (hauthor : author = e.author)
    (htext : notice.payload = e.text) (s : Server) (sender : Option ℕ) :
    s.post e author notice sender = s.post e e.author (Message.of .chat e.text) sender := by
  have hm : formatBroadcastMessage author notice =
      formatBroadcastMessage e.author (Message.of .chat e.text) := by
    rw [formatBroadcastMessage, hauthor, htext]
    rfl
  have hl : formatPrintMessage s.stdout author notice =
      formatPrintMessage s.stdout e.author (Message.of .chat e.text) := by
    rw [formatPrintMessage, hauthor, htext]
    rfl
  unfold Server.post
  rw [hm, hl]

lemma post_addrs {e : RoomEntry} {author : Bytes} {notice : Message} {sender : Option ℕ} {ok : Bool}
    (hauthor : author = e.author) (htext : notice.payload = e.text)
    (h : s.post e author notice sender = (ok, t)) :
    t.connections.map Connection.addr = s.connections.map Connection.addr := by
  obtain ⟨cs, k, rfl, htold⟩ := post_told hauthor htext h
  exact told_map htold Connection.addr (fun _ _ hpeer => hpeer.addr)

lemma put_alike (hd : s.Distinct) (haddr : c'.addr = addr) : (s.put c').Alike addr s := by
  refine ⟨?_, ⟨rfl, rfl⟩, rfl, rfl⟩
  rw [← haddr]
  exact Keyed.remove_replace hd.addrs c'

lemma removed_gone (hd : s.Distinct) (hc : c ∈ s.connections) (hpeer : SamePeer c c') :
    ∀ d ∈ (s.removeConnection c').2.connections, d.addr ≠ c.addr ∧ d.fd ≠ c.fd := by
  obtain ⟨k, hr, -⟩ := removeConnection_eq s c'
  intro d hdm
  rw [hr] at hdm
  have haddr := ((Keyed.mem_remove hd.addrs).mp hdm).2
  rw [hpeer.addr] at haddr
  exact ⟨haddr, (mem_released hd hc hpeer hdm).2.2⟩

lemma removeConnection_ok (s : Server) (c : Connection) : (s.removeConnection c).1 = true := by
  obtain ⟨k, hr, -⟩ := removeConnection_eq s c
  rw [hr]

lemma answers_removed (hd : s.Distinct) (hc : c ∈ s.connections) (hpeer : SamePeer c c')
    (hspoken : spoken ended c.serial c.name buffer = []) (hnone : remains ended buffer = none) :
    Answers c ended buffer s (s.removeConnection c') := by
  refine ⟨?_, ?_, ?_, ?_⟩
  · unfold Server.answer
    rw [hspoken, Server.postAll, Fallible.andThen, if_pos hnone]
    exact removeConnection_alike (Server.Alike.refl s) hpeer.addr rfl hpeer.fd.symm
  · intro hok
    rw [removeConnection_ok] at hok
    exact absurd hok.symm Bool.false_ne_true
  · exact fun _ _ => removed_gone hd hc hpeer
  · intro _ rest hrest
    rw [hnone] at hrest
    cases hrest

lemma answers_left (hd : s.Distinct) (hc : c ∈ s.connections) (hpeer : SamePeer c c')
    (hname : c'.name = c.name)
    (hspoken : spoken ended c.serial c.name buffer = [.disconnected c.serial c.name])
    (hnone : remains ended buffer = none) :
    Answers c ended buffer s (andThen ((s.put c').announceClientDisconnected c')
      (fun t => t.removeConnection c')) := by
  have hposts : (s.put c').announceClientDisconnected c' = (s.put c').post
      (.disconnected c.serial c.name) (ascii "server")
      (Message.of .chat (RoomEntry.disconnected c.serial c.name).text) (some c.addr) := by
    rw [Server.announceClientDisconnected, hpeer.addr, hpeer.serial, hname]
    rfl
  have halike : AlikeResults c.addr ((s.put c').announceClientDisconnected c')
      (s.post (.disconnected c.serial c.name) (ascii "server")
        (Message.of .chat (RoomEntry.disconnected c.serial c.name).text) (some c.addr)) := by
    rw [hposts]
    exact post_alike (put_alike hd hpeer.addr) _ _ _
  have hanswer : s.answer c ended buffer =
      andThen (s.post (.disconnected c.serial c.name) (ascii "server")
        (Message.of .chat (RoomEntry.disconnected c.serial c.name).text) (some c.addr))
        (fun t => t.removeConnection c) := by
    unfold Server.answer
    rw [hspoken, hnone]
    simp only [Server.postAll, if_true]
    rcases hr : s.post (.disconnected c.serial c.name) (ascii "server")
      (Message.of .chat (RoomEntry.disconnected c.serial c.name).text) (some c.addr) with ⟨ok, t⟩
    have hr' : s.post (.disconnected c.serial c.name)
      (RoomEntry.disconnected c.serial c.name).author
      (Message.of .chat (RoomEntry.disconnected c.serial c.name).text) (some c.addr) = (ok, t) := hr
    rw [hr']
    cases ok <;> rfl
  refine ⟨?_, ?_, ?_, ?_⟩
  · rw [hanswer]
    exact halike.andThen (fun s t h => removeConnection_alike h hpeer.addr rfl hpeer.fd.symm)
  · intro hok
    rcases hr : (s.put c').announceClientDisconnected c' with ⟨ok, t⟩
    rw [hr] at hok
    cases ok with
    | false =>
      rw [hposts] at hr
      have haddrs := post_addrs rfl rfl hr
      show c.addr ∈ t.connections.map Connection.addr
      rw [haddrs]
      exact List.mem_map.mpr ⟨c', mem_put hc hpeer.addr, hpeer.addr⟩
    | true =>
      have hok : (t.removeConnection c').1 = false := hok
      rw [removeConnection_ok] at hok
      exact absurd hok.symm Bool.false_ne_true
  · intro hok _ d hdm
    rcases hr : (s.put c').announceClientDisconnected c' with ⟨ok, t⟩
    rw [hr] at hok hdm
    cases ok with
    | false => exact absurd hok Bool.false_ne_true
    | true =>
      rw [hposts] at hr
      obtain ⟨k, rfl, -, -⟩ := post_true rfl rfl hr
      have hheard := (hd.put hc hpeer).heard (some c.addr) (.disconnected c.serial c.name) k
      have hself := mem_heard_self hc hpeer.addr (.disconnected c.serial c.name) k
      have hgone := removed_gone hheard hself (SamePeer.refl c') d hdm
      rwa [hpeer.addr, hpeer.fd] at hgone
  · intro _ rest hrest
    rw [hnone] at hrest
    cases hrest

lemma answer_cons {e : RoomEntry} {rest : Bytes}
    (hspoken : spoken ended c.serial c.name buffer = e :: spoken ended c.serial c.name rest)
    (hremains : remains ended buffer = remains ended rest) (s : Server) :
    s.answer c ended buffer =
      andThen (s.post e e.author (Message.of .chat e.text) (some c.addr))
        (fun t => t.answer c ended rest) := by
  unfold Server.answer
  rw [hspoken, hremains, Server.postAll]
  rcases s.post e e.author (Message.of .chat e.text) (some c.addr) with ⟨ok, t⟩
  cases ok <;> rfl

lemma answers_chat (hd : s.Distinct) (hc : c ∈ s.connections) {m : Message} {rest : Bytes}
    {e : RoomEntry} (hentry : e = .chat c.serial c.name m.payload)
    (hspoken : spoken ended c.serial c.name buffer = e :: spoken ended c.serial c.name rest)
    (hremains : remains ended buffer = remains ended rest) {f : Server → Bool × Server}
    (hf : ∀ t, (s.put (c.cut m rest)).post e c.name m (some c.addr) = (true, t) →
      Answers (c.cut m rest) ended rest t (f t)) :
    Answers c ended buffer s
      (andThen ((s.put (c.cut m rest)).post e c.name m (some c.addr)) f) := by
  have hauthor : c.name = e.author := by rw [hentry]; rfl
  have htext : m.payload = e.text := by rw [hentry]; rfl
  have hput : (s.put (c.cut m rest)).Alike c.addr s := put_alike hd rfl
  have halike : AlikeResults c.addr ((s.put (c.cut m rest)).post e c.name m (some c.addr))
      (s.post e e.author (Message.of .chat e.text) (some c.addr)) := by
    rw [post_eq hauthor htext]
    exact post_alike hput _ _ _
  have hanswer := answer_cons hspoken hremains s
  rcases hpost : (s.put (c.cut m rest)).post e c.name m (some c.addr) with ⟨ok, t⟩
  rcases hpost' : s.post e e.author (Message.of .chat e.text) (some c.addr) with ⟨ok', t'⟩
  rw [hpost, hpost'] at halike
  have hok : ok = ok' := halike.reported
  rw [hpost', ← hok] at hanswer
  cases ok with
  | false =>
    have haddrs := post_addrs hauthor htext hpost
    refine ⟨?_, fun _ => ?_, fun h => absurd h Bool.false_ne_true,
      fun h => absurd h Bool.false_ne_true⟩
    · rw [hanswer]
      exact ⟨rfl, halike.left⟩
    · show c.addr ∈ t.connections.map Connection.addr
      rw [haddrs]
      exact List.mem_map.mpr ⟨c.cut m rest, mem_put hc rfl, rfl⟩
  | true =>
    have hrest : Answers c ended rest t' (f t) := (hf t hpost).congr ⟨rfl, rfl, rfl⟩ rfl halike.left
    exact hrest.advance hanswer hremains

theorem readMessages_answers (hd : s.Distinct) (hc : c ∈ s.connections)
    (hst : c.state = .active ∨ c.state = .closed) :
    Answers c (decide (c.state = .closed)) c.inBuffer s (s.readMessages c) := by
  induction hn : c.inBuffer.length using Nat.strong_induction_on generalizing s c with
  | h n ih =>
    cases hp : parseFrame c.inBuffer with
    | illegal =>
      rw [readMessages_illegal s hp]
      exact answers_removed hd hc ⟨rfl, rfl, rfl⟩ (spoken_illegal hp) (remains_illegal hp)
    | incomplete =>
      have hspoken : spoken (decide (c.state = .closed)) c.serial c.name c.inBuffer = _ :=
        spoken_incomplete hp
      have hremains : remains (decide (c.state = .closed)) c.inBuffer = _ := remains_incomplete hp
      rw [readMessages_incomplete s hp hst]
      by_cases hclosed : c.state = .closed
      · rw [if_pos (decide_eq_true hclosed)] at hspoken hremains
        rw [if_pos hclosed]
        exact answers_left hd hc ⟨rfl, rfl, rfl⟩ rfl hspoken hremains
      · rw [if_neg (by simpa using hclosed)] at hspoken hremains
        rw [if_neg hclosed]
        refine ⟨?_, fun hok => absurd hok.symm Bool.false_ne_true, ?_, ?_⟩
        · unfold Server.answer
          rw [hspoken, hremains]
          exact ⟨rfl, put_alike hd rfl⟩
        · intro _ hnone
          rw [hremains] at hnone
          cases hnone
        · intro _ rest hrest
          rw [hremains] at hrest
          cases hrest
          exact ⟨hd.put hc (SamePeer.refl c), c, mem_put hc rfl, SamePeer.refl c, rfl, rfl,
            hst.resolve_right hclosed⟩
    | frame m rest =>
      have hpeer : SamePeer c (c.cut m rest) := ⟨rfl, rfl, rfl⟩
      have hspoken : spoken (decide (c.state = .closed)) c.serial c.name c.inBuffer = _ :=
        spoken_frame hp
      have hremains : remains (decide (c.state = .closed)) c.inBuffer = _ := remains_frame hp
      rw [readMessages_frame s hp hst]
      by_cases htype : m.type = .closeCon
      · have hchat : m.type ≠ .chat := by
          rw [htype]
          decide
        rw [if_pos htype] at hspoken
        rw [if_neg hchat] at hremains
        rw [if_pos htype]
        by_cases hpay : m.payload = []
        · rw [if_pos hpay] at hspoken
          rw [if_neg (not_not.mpr hpay)]
          exact answers_left hd hc hpeer rfl hspoken hremains
        · rw [if_neg hpay] at hspoken
          rw [if_pos hpay]
          exact answers_removed hd hc ⟨rfl, rfl, rfl⟩ hspoken hremains
      · rw [if_neg htype] at hspoken
        rw [if_neg htype]
        by_cases hchat : m.type = .chat
        · rw [if_pos hchat] at hspoken hremains
          rw [if_neg (not_not.mpr hchat)]
          apply answers_chat hd hc rfl hspoken hremains
          intro t hpost
          obtain ⟨-, hdt, hct⟩ := chat_true hd hc hst hp hchat hpost
          have hlt : (c.cut m rest).inBuffer.length < n := by
            rw [← hn]
            exact frameCodec.rest_length_lt hp
          exact ih _ hlt hdt hct hst rfl
        · rw [if_neg hchat] at hspoken hremains
          rw [if_pos hchat]
          exact answers_removed hd hc ⟨rfl, rfl, rfl⟩ hspoken hremains

end Answers

/-! ### Read events -/

section Events

variable {s : Server} {c : Connection}

lemma handleRead_eq (hd : s.Distinct) (hc : c ∈ s.connections) {replies : List RecvReply}
    (hend : recvEnd replies ≠ .failed) :
    ∃ t : Server, t.connections = s.connections ∧ t.Alike c.addr s ∧
      s.handleReadNetworkPackageEvent c.fd replies =
        (t.put (c.ingested replies)).readMessages (c.ingested replies) := by
  refine ⟨({ s with cachedConnection := some c.addr } : Server).call (.recv c.fd), rfl,
    ⟨rfl, ⟨rfl, rfl⟩, rfl, rfl⟩, ?_⟩
  unfold Server.handleReadNetworkPackageEvent
  rw [Server.getConnectionOf_eq hd, Server.find_of_mem hd hc]
  dsimp only
  rw [readNetworkPackage_eq, if_neg hend]
  rfl

lemma handleRead_answers (hd : s.Distinct) (hc : c ∈ s.connections) (hact : c.state = .active)
    {replies : List RecvReply} (hend : recvEnd replies ≠ .failed) :
    Answers c (decide (recvEnd replies = .eof)) (c.inBuffer ++ recvData replies) s
      (s.handleReadNetworkPackageEvent c.fd replies) := by
  obtain ⟨t, hconns, hquiet, hhandle⟩ := handleRead_eq hd hc hend
  have hdt : t.Distinct := hd.congr hconns
  have hct : c ∈ t.connections := by
    rw [hconns]
    exact hc
  obtain ⟨-, hput, hmem, hstate⟩ := ingest_effect hdt hct hact hend
  have hclosed : (c.ingested replies).state = .closed ↔ recvEnd replies = .eof := by
    unfold Connection.ingested
    cases hend' : recvEnd replies with
    | wouldBlock => simp [RecvEnd.state, hact]
    | eof => simp [RecvEnd.state]
    | failed => exact absurd hend' hend
  have hreads := readMessages_answers hput hmem hstate
  simp only [hclosed] at hreads
  have halike : (t.put (c.ingested replies)).Alike c.addr t := put_alike hdt rfl
  have hpeer : SamePeer c (c.ingested replies) := ⟨rfl, rfl, rfl⟩
  rw [hhandle]
  exact hreads.congr hpeer rfl (halike.trans hquiet)

lemma delivers_cons {data : Bytes} {ended : Bool} {replies : List RecvReply}
    {events : List (List RecvReply)} (h : Delivers data ended (replies :: events)) :
    events = [] ∧ data = recvData replies ∧ recvEnd replies ≠ .failed ∧
        ended = decide (recvEnd replies = .eof) ∨
      recvEnd replies = .wouldBlock ∧ ∃ data', data = recvData replies ++ data' ∧
        Delivers data' ended events := by
  obtain ⟨-, hdata, hend⟩ := h
  rw [List.flatMap_cons] at hdata
  by_cases hnil : events = []
  · left
    rw [hnil] at hdata hend
    refine ⟨hnil, by rw [← hdata]; simp, ?_⟩
    cases ended with
    | false =>
      have hblock : recvEnd replies = .wouldBlock := hend replies (List.mem_singleton.mpr rfl)
      rw [hblock]
      decide
    | true =>
      obtain ⟨early, last, heq, -, hlast⟩ := hend
      have hearly : early = [] := by
        have hlen := congrArg List.length heq
        simp only [List.length_append, List.length_cons, List.length_nil] at hlen
        exact List.length_eq_zero_iff.mp (by omega)
      rw [hearly, List.nil_append, List.singleton_inj] at heq
      rw [heq, hlast]
      decide
  · right
    cases ended with
    | false =>
      refine ⟨hend replies List.mem_cons_self, _, hdata.symm, hnil, rfl, ?_⟩
      exact fun r hr => hend r (List.mem_cons_of_mem replies hr)
    | true =>
      obtain ⟨early, last, heq, hearly, hlast⟩ := hend
      cases early with
      | nil =>
        rw [List.nil_append, List.cons.injEq] at heq
        exact absurd heq.2 hnil
      | cons r early =>
        rw [List.cons_append, List.cons.injEq] at heq
        obtain ⟨rfl, rfl⟩ := heq
        refine ⟨hearly replies List.mem_cons_self, _, hdata.symm, hnil, rfl, early, last, rfl, ?_,
          hlast⟩
        exact fun r hr => hearly r (List.mem_cons_of_mem replies hr)

lemma answer_append (ended : Bool) (buffer more : Bytes) (s : Server) :
    s.answer c ended (buffer ++ more) =
      andThen (Server.postAll c.addr (spoken false c.serial c.name buffer) s)
        (fun t => match remains false buffer with
          | none => t.removeConnection c
          | some rest => t.answer c ended (rest ++ more)) := by
  unfold Server.answer
  rw [spoken_append, remains_append, postAll_append]
  rcases Server.postAll c.addr (spoken false c.serial c.name buffer) s with ⟨ok, t⟩
  cases ok with
  | false => rfl
  | true =>
    cases remains false buffer with
    | none => rfl
    | some rest => rfl

lemma deliver_nobody {fd : Fd} (hnone : s.find fd = none) (events : List (List RecvReply)) :
    s.deliver fd events = (true, s) := by
  cases events with
  | nil => rfl
  | cons replies events => rw [Server.deliver, hnone]

lemma deliver_singleton (hfind : s.find c.fd = some c) (replies : List RecvReply) :
    s.deliver c.fd [replies] = s.handleReadNetworkPackageEvent c.fd replies := by
  rw [Server.deliver, hfind]
  rcases s.handleReadNetworkPackageEvent c.fd replies with ⟨ok, t⟩
  cases ok <;> rfl

/-- The read events of a guest answer the bytes they deliver. -/
theorem deliver_answers (hd : s.Distinct) (hc : c ∈ s.connections) (hact : c.state = .active)
    {data : Bytes} {ended : Bool} {events : List (List RecvReply)}
    (h : Delivers data ended events) :
    Answers c ended (c.inBuffer ++ data) s (s.deliver c.fd events) := by
  induction events generalizing s c data with
  | nil => exact absurd rfl h.1
  | cons replies events ih =>
    have hfind := Server.find_of_mem hd hc
    rcases delivers_cons h with ⟨rfl, rfl, hend, rfl⟩ | ⟨hblock, data', rfl, hmore⟩
    · have hread := handleRead_answers hd hc hact hend
      rw [deliver_singleton hfind]
      exact hread
    · have hend : recvEnd replies ≠ .failed := by
        rw [hblock]
        decide
      have hopen : decide (recvEnd replies = .eof) = false := by
        rw [hblock]
        rfl
      have hread := handleRead_answers hd hc hact hend
      rw [hopen] at hread
      have hanswer := answer_append (c := c) ended (c.inBuffer ++ recvData replies) data' s
      have hremains := remains_append ended (c.inBuffer ++ recvData replies) data'
      rw [← List.append_assoc, Server.deliver, hfind]
      rcases hr : s.handleReadNetworkPackageEvent c.fd replies with ⟨ok, t⟩
      rw [hr] at hread
      obtain ⟨hfirst, hheld, hgone, hstays⟩ := hread
      rcases hposts : Server.postAll c.addr
        (spoken false c.serial c.name (c.inBuffer ++ recvData replies)) s with ⟨ok', u⟩
      rw [Server.answer, hposts] at hfirst
      rw [hposts] at hanswer
      cases ok with
      | false =>
        -- the loop has ended, and so does the answer to the longer stream
        cases ok' with
        | false =>
          refine ⟨?_, hheld, fun h => absurd h Bool.false_ne_true,
            fun h => absurd h Bool.false_ne_true⟩
          rw [hanswer]
          exact hfirst
        | true =>
          have hfalse := hfirst.reported
          rw [andThen] at hfalse
          split_ifs at hfalse
          rw [removeConnection_ok] at hfalse
          exact absurd hfalse Bool.false_ne_true
      | true =>
        have hok' : ok' = true := by
          cases ok' with
          | false => exact hfirst.reported.symm
          | true => rfl
        rw [hok'] at hfirst hanswer
        cases hrest : remains false (c.inBuffer ++ recvData replies) with
        | none =>
          -- nobody is there to whom the later events belong
          rw [hrest] at hfirst hanswer hremains
          have hgone := hgone rfl hrest
          have hnone : t.find c.fd = none :=
            Keyed.lookup_none.mpr (fun d hdm => (hgone d hdm).2)
          have hdeliver := deliver_nobody hnone events
          refine ⟨?_, fun h => ?_, fun _ _ => ?_, fun _ rest h => ?_⟩
          · rw [hanswer]
            show AlikeResults c.addr (t.deliver c.fd events) _
            rw [hdeliver]
            exact hfirst
          · have h : (t.deliver c.fd events).1 = false := h
            rw [hdeliver] at h
            exact absurd h.symm Bool.false_ne_true
          · show ∀ d ∈ (t.deliver c.fd events).2.connections, _
            rw [hdeliver]
            exact hgone
          · rw [hremains] at h
            cases h
        | some rest =>
          rw [hrest] at hfirst hanswer hremains
          obtain ⟨hdt, c', hct, hpeer, hname, hbuffer, hstate⟩ := hstays rfl rest hrest
          have hlater := ih hdt hct hstate hmore
          rw [hbuffer, hpeer.fd] at hlater
          have halike : t.Alike c.addr u := hfirst.left
          exact (hlater.congr hpeer hname halike).advance hanswer hremains

lemma Answers.parserAt {ended : Bool} {buffer : Bytes} {r : Bool × Server}
    (h : Answers c ended buffer s r) (hok : r.1 = true) :
    r.2.parserAt c.addr = (remains ended buffer).map (fun rest => (rest, .active)) := by
  unfold Server.parserAt
  cases hrest : remains ended buffer with
  | none =>
    rw [Keyed.lookup_none.mpr (fun d hdm => (h.gone hok hrest d hdm).1)]
    rfl
  | some rest =>
    obtain ⟨hd, c', hc', hpeer, -, hbuffer, hstate⟩ := h.stays hok rest hrest
    have hlookup := Keyed.lookup_of_mem hd.addrs hc'
    rw [hpeer.addr] at hlookup
    rw [hlookup, Option.map_some, Option.map_some, hbuffer, hstate]

lemma Answers.removed {ended : Bool} {buffer : Bytes} {r : Bool × Server}
    (h : Answers c ended buffer s r) :
    r.2.parserAt c.addr = none ↔ r.1 = true ∧ remains ended buffer = none := by
  cases hok : r.1 with
  | true => simp [h.parserAt hok]
  | false =>
    refine iff_of_false ?_ (fun hboth => Bool.false_ne_true hboth.1)
    intro hnone
    obtain ⟨d, hdm, haddr⟩ := List.mem_map.mp (h.held hok)
    exact Keyed.lookup_none.mp (Option.map_eq_none_iff.mp hnone) d hdm haddr

lemma Answers.postsSpoken {ended : Bool} {buffer : Bytes} {r : Bool × Server}
    (h : Answers c ended buffer s r) : PostsSpoken c ended buffer s r := by
  refine ⟨?_, h.parserAt⟩
  obtain ⟨said, hprefix, hall, hlog, hlines⟩ :=
    postAll_posted c.addr (spoken ended c.serial c.name buffer) s
  obtain ⟨hok, -, -, hstdout, hroom⟩ := h.alike
  refine ⟨said, hprefix, ?_⟩
  rcases hposts : Server.postAll c.addr (spoken ended c.serial c.name buffer) s with ⟨ok, t⟩
  rw [Server.answer, hposts] at hok hstdout hroom
  rw [hposts] at hall hlog hlines
  rw [hok, hroom, hstdout, ← hlog, ← hlines]
  cases ok with
  | false => exact ⟨hall, rfl, rfl⟩
  | true =>
    refine ⟨fun _ => hall rfl, ?_⟩
    rw [andThen]
    split_ifs
    · obtain ⟨k, hremove, -⟩ := removeConnection_eq t c
      rw [hremove]
      exact ⟨rfl, rfl⟩
    · exact ⟨rfl, rfl⟩

/-- Two ways of splitting what a guest sends cannot be told apart, and both do what the bytes
call for. -/
theorem reads_can_be_split (hd : s.Distinct) (hc : c ∈ s.connections) (hact : c.state = .active)
    {data : Bytes} {ended : Bool} {events events' : List (List RecvReply)}
    (h : Delivers data ended events) (h' : Delivers data ended events') :
    SameOutcome c.addr (s.deliver c.fd events) (s.deliver c.fd events') ∧
      PostsSpoken c ended (c.inBuffer ++ data) s (s.deliver c.fd events) := by
  have hanswer := deliver_answers hd hc hact h
  have hanswer' := deliver_answers hd hc hact h'
  have hok : (s.deliver c.fd events).1 = (s.deliver c.fd events').1 :=
    hanswer.alike.reported.trans hanswer'.alike.reported.symm
  have halike := hanswer.alike.left.trans hanswer'.alike.left.symm
  refine ⟨⟨hok, halike.printed, halike.posted, halike.others, ?_, ?_⟩, hanswer.postsSpoken⟩
  · rw [hanswer.removed, hanswer'.removed, hok]
  · intro htrue
    rw [hanswer.parserAt htrue, hanswer'.parserAt (hok ▸ htrue)]

/-- A room of two guests. -/
def annAndBob : Server where
  name := ascii "host"
  listenFd := 3
  epollFd := 4
  connections := [{ fd := 5, state := .active, name := ascii "ann", addr := 1, serial := 0 },
    { fd := 6, state := .active, name := ascii "bob", addr := 2, serial := 1 }]
  kernel := { interest := .watching [⟨3, epollIn⟩, ⟨stdinFileno, epollIn⟩,
    ⟨5, epollIn ||| epollRdhup⟩, ⟨6, epollIn ||| epollRdhup⟩] }
  accepted := 2

lemma annAndBob_distinct : annAndBob.Distinct :=
  ⟨by decide, by decide, by decide⟩

/-- A chat arrives in one piece, or is cut inside its header. -/
theorem reads_can_be_split_hi :
    SameOutcome 1
      (annAndBob.deliver 5 [[.bytes (encodeFrame (Message.of .chat (ascii "hi"))), .bytes []]])
      (annAndBob.deliver 5 [[.bytes ((encodeFrame (Message.of .chat (ascii "hi"))).take 3)],
        [.bytes ((encodeFrame (Message.of .chat (ascii "hi"))).drop 3), .error .eagain],
        [.bytes []]]) := by
  obtain ⟨c, hc, haddr, hfd, hact⟩ : ∃ c ∈ annAndBob.connections, c.addr = 1 ∧ c.fd = 5 ∧
    c.state = .active := ⟨_, List.mem_cons_self, rfl, rfl, rfl⟩
  have h : Delivers (encodeFrame (Message.of .chat (ascii "hi"))) true
      [[.bytes (encodeFrame (Message.of .chat (ascii "hi"))), .bytes []]] :=
    ⟨by decide, by decide, [], _, rfl, by simp, by decide⟩
  have h' : Delivers (encodeFrame (Message.of .chat (ascii "hi"))) true
      [[.bytes ((encodeFrame (Message.of .chat (ascii "hi"))).take 3)],
        [.bytes ((encodeFrame (Message.of .chat (ascii "hi"))).drop 3), .error .eagain],
        [.bytes []]] :=
    ⟨by decide, by decide, [_, _], _, rfl, by decide, by decide⟩
  have hsame := (reads_can_be_split annAndBob_distinct hc hact h h').1
  rwa [haddr, hfd] at hsame

lemma told_lookup {p : Connection → Prop} {m : Message} {addr : ℕ}
    (hp : ∀ c, c.addr = addr → ¬p c) {cs cs' : List Connection}
    (h : List.Forall₂ (Told p m) cs cs') :
    Keyed.lookup Connection.addr addr cs' = Keyed.lookup Connection.addr addr cs := by
  induction h with
  | nil => rfl
  | @cons c c' cs cs' hhead _ ih =>
    have hpeer := hhead.same.1
    unfold Keyed.lookup at ih ⊢
    rw [List.find?_cons, List.find?_cons, hpeer.addr, ih]
    by_cases haddr : c.addr = addr
    · have heq : c' = c := by
        cases hhead with
        | missed => rfl
        | queued hc _ => exact absurd hc (hp c haddr)
        | rejected hc _ => exact absurd hc (hp c haddr)
      rw [heq]
    · simp only [haddr, decide_false]

lemma handleRead_overlong (hd : s.Distinct) (hc : c ∈ s.connections) (hact : c.state = .active)
    {replies : List RecvReply} (hend : recvEnd replies = .wouldBlock) {m : Message} {rest : Bytes}
    (hp : parseFrame (c.inBuffer ++ recvData replies) = .frame m rest) (htype : m.type = .chat)
    (hheard : s.Attended (some c.addr))
    (hlong : ¬protocolPayloadLengthIsLegal (RoomEntry.chat c.serial c.name m.payload).line.length) :
    (s.handleReadNetworkPackageEvent c.fd replies).1 = false ∧
      (s.handleReadNetworkPackageEvent c.fd replies).2.parserAt c.addr = some (rest, .active) := by
  have hok : recvEnd replies ≠ .failed := by
    rw [hend]
    decide
  obtain ⟨t, hconns, -, hhandle⟩ := handleRead_eq hd hc hok
  obtain ⟨d, hdef⟩ : ∃ d, d = c.ingested replies := ⟨_, rfl⟩
  have hpeer : SamePeer c d := by
    rw [hdef]
    exact ⟨rfl, rfl, rfl⟩
  have hname : d.name = c.name := by
    rw [hdef]
    rfl
  have hstate : d.state = .active := by
    rw [hdef]
    show (recvEnd replies).state c.state = .active
    rw [hend]
    exact hact
  have hpd : parseFrame d.inBuffer = .frame m rest := by
    rw [hdef]
    exact hp
  have hdt : t.Distinct := hd.congr hconns
  have hct : c ∈ t.connections := by
    rw [hconns]
    exact hc
  have hnclose : m.type ≠ .closeCon := by
    rw [htype]
    decide
  rw [hhandle, ← hdef, readMessages_frame _ hpd (Or.inl hstate), if_neg hnclose,
    if_neg (not_not.mpr htype)]
  obtain ⟨u, hu⟩ : ∃ u, u = (t.put d).put (d.cut m rest) := ⟨_, rfl⟩
  have hut : ∀ x ∈ t.connections, x.addr ≠ c.addr → x ∈ u.connections := by
    intro x hx hne
    rw [hu]
    have hne' : x.addr ≠ d.addr := by rwa [hpeer.addr]
    exact Keyed.mem_replace_of_ne (Keyed.mem_replace_of_ne hx hne') hne'
  have hself : d.cut m rest ∈ u.connections := by
    rw [hu]
    exact mem_put (mem_put hct hpeer.addr) rfl
  have hdu : u.Distinct := by
    rw [hu]
    exact (hdt.put hct hpeer).put (mem_put hct hpeer.addr) ⟨rfl, rfl, rfl⟩
  rw [← hu, hpeer.serial, hpeer.addr, hname]
  rcases hpost : u.post (.chat c.serial c.name m.payload) c.name m (some c.addr) with ⟨ok, v⟩
  cases ok with
  | true =>
    obtain ⟨k, -, hlegal, -⟩ :=
      post_true (e := .chat c.serial c.name m.payload) rfl rfl hpost
    obtain ⟨x, hx, hne, hxact⟩ := hheard
    rw [← hconns] at hx
    have hxu := hut x hx (fun heq => hne (congrArg some heq))
    exact absurd (hlegal x hxu ⟨hne, hxact⟩) hlong
  | false =>
    obtain ⟨cs, k, rfl, htold⟩ :=
      post_told (e := .chat c.serial c.name m.payload) rfl rfl hpost
    refine ⟨rfl, ?_⟩
    have hlookup : Keyed.lookup Connection.addr c.addr cs = some (d.cut m rest) := by
      rw [told_lookup (fun x hx hh => hh.1 (congrArg some hx)) htold]
      have hfound := Keyed.lookup_of_mem hdu.addrs hself
      have haddr : (d.cut m rest).addr = c.addr := hpeer.addr
      rwa [haddr] at hfound
    show (Keyed.lookup Connection.addr c.addr cs).map _ = _
    rw [hlookup]
    show some (rest, d.state) = _
    rw [hstate]

/-- After a chat that cannot be broadcast, what its sender has in the buffer depends on the
read events: the ones after the failure are not handled any more. -/
theorem overlong_chat_tells_splits_apart :
    ¬∀ (s : Server) (c : Connection) (data : Bytes) (ended : Bool)
      (events events' : List (List RecvReply)), s.Distinct → c ∈ s.connections →
        c.state = .active → Delivers data ended events → Delivers data ended events' →
          (s.deliver c.fd events).2.parserAt c.addr =
            (s.deliver c.fd events').2.parserAt c.addr := by
  intro hclaim
  obtain ⟨m, htype, hlegal, hlen⟩ : ∃ m : Message, m.type = .chat ∧ frameCodec.legal m ∧
      m.payload.length = 65536 := by
    have hlen : (List.replicate 65536 (97 : Byte)).length = 65536 := List.length_replicate
    exact ⟨Message.of .chat (List.replicate 65536 97), rfl,
      Message.of_wellFormed (Nat.le_of_eq hlen), hlen⟩
  obtain ⟨c, hc, haddr, hfd, hact, hbuffer⟩ : ∃ c ∈ annAndBob.connections, c.addr = 1 ∧
    c.fd = 5 ∧ c.state = .active ∧ c.inBuffer = [] := ⟨_, List.mem_cons_self, rfl, rfl, rfl, rfl⟩
  have hheard : annAndBob.Attended (some c.addr) := by
    rw [haddr]
    decide
  have hlong : ¬protocolPayloadLengthIsLegal
      (RoomEntry.chat c.serial c.name m.payload).line.length := by
    have htext : (RoomEntry.chat c.serial c.name m.payload).text.length = 65536 := hlen
    rw [RoomEntry.line, formatLine_length, htext]
    unfold protocolPayloadLengthIsLegal maxPayloadSize
    omega
  have hframe : ∀ rest, parseFrame (c.inBuffer ++ (encodeFrame m ++ rest)) = .frame m rest := by
    intro rest
    rw [hbuffer, List.nil_append]
    exact frameCodec.parse_encode m rest hlegal
  -- one byte follows the frame: in the same read event, or in another one
  obtain ⟨frame, hdef⟩ : ∃ frame, frame = encodeFrame m := ⟨_, rfl⟩
  rw [← hdef] at hframe
  have hpos : 0 < frame.length := by
    rw [hdef]
    exact List.length_pos_of_ne_nil (frameCodec.encode_ne_nil hlegal)
  have hdata : recvData [.bytes frame] = frame := by simp [recvData, hpos]
  have hblock : recvEnd [.bytes frame] = .wouldBlock := by simp [recvEnd, hpos]
  have hdata' : recvData [.bytes frame, .bytes [0]] = frame ++ [0] := by simp [recvData, hpos]
  have hblock' : recvEnd [.bytes frame, .bytes [0]] = .wouldBlock := by simp [recvEnd, hpos]
  have htogether : Delivers (frame ++ [0]) false [[.bytes frame, .bytes [0]]] := by
    refine ⟨by simp, by simp [hdata'], ?_⟩
    exact List.forall_mem_singleton.mpr hblock'
  have happart : Delivers (frame ++ [0]) false [[.bytes frame], [.bytes [0]]] := by
    refine ⟨by simp, by simp [recvData], ?_⟩
    exact List.forall_mem_cons.mpr ⟨hblock, List.forall_mem_singleton.mpr rfl⟩
  obtain ⟨hfalse, hparser⟩ := handleRead_overlong annAndBob_distinct hc hact hblock'
    (by rw [hdata']; exact hframe [0]) htype hheard hlong
  obtain ⟨hfalse', hparser'⟩ := handleRead_overlong annAndBob_distinct hc hact hblock
    (by rw [hdata]; exact List.append_nil frame ▸ hframe []) htype hheard hlong
  have hstops : ∀ replies events,
      (annAndBob.handleReadNetworkPackageEvent c.fd replies).1 = false →
        annAndBob.deliver c.fd (replies :: events) =
          annAndBob.handleReadNetworkPackageEvent c.fd replies := by
    intro replies events hstop
    rw [Server.deliver, Server.find_of_mem annAndBob_distinct hc]
    rcases hr : annAndBob.handleReadNetworkPackageEvent c.fd replies with ⟨ok, t⟩
    rw [hr] at hstop
    have hok : ok = false := hstop
    rw [hok]
  have heq := hclaim annAndBob c _ _ _ _ annAndBob_distinct hc hact htogether happart
  rw [hstops _ _ hfalse, hstops _ _ hfalse', hparser, hparser'] at heq
  cases heq

end Events

end Chatroom
