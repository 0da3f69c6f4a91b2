import Chatroom.Proofs.Effects

/-!
# The broadcast loops

What `queue_close_to_all_clients` and `broadcast_message_to_other_clients` do when
they succeed, and when they succeed.
-/

namespace Chatroom

lemma mem_enqueueTo {p : Connection → Prop} [DecidablePred p] {m : Message}
    {cs : List Connection} {d : Connection} (hd : d ∈ enqueueTo p m cs) :
    ∃ c ∈ cs, d = if p c then c.enqueue m else c := by
  obtain ⟨c, hc, rfl⟩ := List.mem_map.mp hd
  exact ⟨c, hc, rfl⟩

lemma map_enqueueTo {α : Type*} (f : Connection → α) (hf : ∀ c m, f (c.enqueue m) = f c)
    (p : Connection → Prop) [DecidablePred p] (m : Message) (cs : List Connection) :
    (enqueueTo p m cs).map f = cs.map f := by
  rw [enqueueTo, List.map_map]
  apply List.map_congr_left
  intro c _
  rw [Function.comp_apply]
  split_ifs
  · exact hf c m
  · rfl

section Loop

variable {skip : Connection → Bool} {m : Message} {events : EventMask}

lemma queueToEach_true {cs cs' : List Connection} {k k' : Kernel}
    (h : Server.queueToEach skip m events cs k = (true, cs', k')) :
    cs' = enqueueTo (fun c => skip c = false) m cs ∧
      (∀ c ∈ cs, skip c = false → protocolPayloadLengthIsLegal m.payload.length) ∧
      MasksAfter k k' cs (fun c => skip c = false) events := by
  induction cs generalizing k cs' with
  | nil =>
    cases h
    exact ⟨rfl, by simp, fun fd => Or.inr ⟨by simp, rfl⟩⟩
  | cons c cs ih =>
    by_cases hskip : skip c = true
    · simp only [Server.queueToEach, hskip, if_true] at h
      rcases hr : Server.queueToEach skip m events cs k with ⟨ok, cs'', k''⟩
      rw [hr] at h
      cases h
      obtain ⟨rfl, hlegal, hmask⟩ := ih hr
      refine ⟨by simp [enqueueTo, hskip], ?_, ?_⟩
      · intro d hd hdskip
        rcases List.mem_cons.mp hd with rfl | hd
        · simp [hskip] at hdskip
        · exact hlegal d hd hdskip
      · intro fd
        simpa [hskip] using hmask fd
    · have hskip : skip c = false := by simpa using hskip
      simp only [Server.queueToEach, hskip, Bool.false_eq_true, if_false,
        protocolQueueMessage_eq] at h
      by_cases hm : protocolPayloadLengthIsLegal m.payload.length
      · rw [if_pos hm] at h
        dsimp only at h
        cases hmod : epollFdMod k c.fd events with
        | mk ok k₁ =>
          cases ok with
          | false =>
            rw [hmod] at h
            cases h
          | true =>
            rw [hmod] at h
            dsimp only at h
            rcases hr : Server.queueToEach skip m events cs k₁ with ⟨ok, cs'', k''⟩
            rw [hr] at h
            cases h
            obtain ⟨rfl, hlegal, hmask⟩ := ih hr
            refine ⟨by simp [enqueueTo, hskip, Connection.enqueue], fun _ _ _ => hm, ?_⟩
            intro fd
            have hmod := epollFdMod_true hmod fd
            rcases hmask fd with ⟨⟨d, hd, hds, hdfd⟩, hev⟩ | ⟨hno, hev⟩
            · exact Or.inl ⟨⟨d, List.mem_cons_of_mem c hd, hds, hdfd⟩, hev⟩
            · by_cases hfd : fd = c.fd
              · left
                exact ⟨⟨c, List.mem_cons_self, hskip, hfd.symm⟩, by rw [hev, hmod, if_pos hfd]⟩
              · right
                refine ⟨?_, by rw [hev, hmod, if_neg hfd]⟩
                rintro ⟨d, hd, hds, hdfd⟩
                rcases List.mem_cons.mp hd with rfl | hd
                · exact hfd hdfd.symm
                · exact hno ⟨d, hd, hds, hdfd⟩
      · rw [if_neg hm] at h
        cases h

end Loop

lemma MasksAfter.congr {k k' : Kernel} {cs : List Connection} {p q : Connection → Prop}
    {events : EventMask} (h : MasksAfter k k' cs p events) (hpq : ∀ c, p c ↔ q c) :
    MasksAfter k k' cs q events := by
  have hp : p = q := funext (fun c => propext (hpq c))
  exact hp ▸ h

lemma enqueueTo_congr {p q : Connection → Prop} [DecidablePred p] [DecidablePred q]
    (hpq : ∀ c, p c ↔ q c) (m : Message) (cs : List Connection) :
    enqueueTo p m cs = enqueueTo q m cs := by
  simp only [enqueueTo, hpq]

lemma hears_iff (sender : Option ℕ) (c : Connection) :
    decide (some c.addr = sender ∨ c.state ≠ .active) = false ↔ Hears sender c := by
  simp [Hears]

lemma hears_none_iff (c : Connection) :
    decide (c.state ≠ .active) = false ↔ Hears none c := by
  simp [Hears]

theorem broadcast_true {s s' : Server} {sender : Option ℕ} {m : Message}
    (h : s.broadcastMessageToOtherClients sender m = (true, s')) :
    ∃ k, s' = { s with connections := enqueueTo (Hears sender) m s.connections, kernel := k } ∧
      (∀ c ∈ s.connections, Hears sender c → protocolPayloadLengthIsLegal m.payload.length) ∧
      MasksAfter s.kernel k s.connections (Hears sender) fullMask := by
  unfold Server.broadcastMessageToOtherClients at h
  dsimp only at h
  rcases hr : Server.queueToEach
      (fun conn => decide (some conn.addr = sender ∨ conn.state ≠ .active)) m
      (epollIn ||| epollOut ||| epollRdhup) s.connections s.kernel with ⟨ok, cs, k⟩
  rw [hr] at h
  cases h
  obtain ⟨rfl, hlegal, hmask⟩ := queueToEach_true hr
  refine ⟨k, ?_, ?_, hmask.congr (hears_iff sender)⟩
  · rw [enqueueTo_congr (hears_iff sender)]
  · intro c hc hh
    exact hlegal c hc ((hears_iff sender c).mpr hh)

theorem post_true {s s' : Server} {e : RoomEntry} {author : Bytes} {notice : Message}
    {sender : Option ℕ} (hauthor : author = e.author) (htext : notice.payload = e.text)
    (h : s.post e author notice sender = (true, s')) :
    ∃ k, s' = s.heard sender e k ∧
      (∀ c ∈ s.connections, Hears sender c → protocolPayloadLengthIsLegal e.line.length) ∧
      MasksAfter s.kernel k s.connections (Hears sender) fullMask := by
  have hm : formatBroadcastMessage author notice = e.message := by
    simp only [formatBroadcastMessage, RoomEntry.message, RoomEntry.line, hauthor, htext]
  have hl : formatPrintMessage s.stdout author notice = s.stdout ++ [e.line] := by
    simp only [formatPrintMessage, RoomEntry.line, hauthor, htext]
  unfold Server.post at h
  dsimp only at h
  rw [hm, hl] at h
  obtain ⟨k, rfl, hlegal, hmask⟩ := broadcast_true h
  exact ⟨k, rfl, hlegal, hmask⟩

lemma queueClose_true {s s' : Server} (h : s.queueCloseToAllClients = (true, s')) :
    ∃ k, s' = { s with
        connections := enqueueTo (Hears none) (Message.of .closeCon []) s.connections
        kernel := k } ∧
      MasksAfter s.kernel k s.connections (Hears none) closingMask := by
  unfold Server.queueCloseToAllClients at h
  dsimp only at h
  rcases hr : Server.queueToEach (fun conn => decide (conn.state ≠ .active))
      (Message.of .closeCon []) (epollOut ||| epollRdhup) s.connections s.kernel with ⟨ok, cs, k⟩
  rw [hr] at h
  cases h
  obtain ⟨rfl, -, hmask⟩ := queueToEach_true hr
  refine ⟨k, ?_, hmask.congr hears_none_iff⟩
  rw [enqueueTo_congr hears_none_iff]

end Chatroom
