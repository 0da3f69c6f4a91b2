import Mathlib.Data.List.Basic
import Mathlib.Data.List.Infix

/-!
# Framed byte streams

Messages travel over an ordered stream of symbols. A codec has an encoder and an
incremental parser that looks at the start of what has arrived: it asks for more,
finds the stream illegal, or cuts one frame off the front. The laws relate the two;
from them follow unique decoding of a concatenation of frames, stability of the
parser when more symbols arrive, and what a receiver can see of a sender's stream
from any prefix of it.
-/

namespace Framing

/-- What the parser finds at the start of the symbols that have arrived. -/
inductive Outcome (β μ : Type*)
  | incomplete
  | illegal
  | frame (m : μ) (rest : List β)
  deriving DecidableEq

/-- An encoder with its incremental parser. -/
structure Codec (β μ : Type*) where
  encode : μ → List β
  legal : μ → Prop
  parse : List β → Outcome β μ
  parse_nil : parse [] = .incomplete
  parse_encode : ∀ m rest, legal m → parse (encode m ++ rest) = .frame m rest
  encode_of_parse : ∀ bs m rest, parse bs = .frame m rest → legal m ∧ bs = encode m ++ rest
  illegal_append : ∀ bs more, parse bs = .illegal → parse (bs ++ more) = .illegal

namespace Codec

variable {β μ : Type*} (K : Codec β μ)

/-- The stream of a list of messages. -/
def encodeAll (ms : List μ) : List β :=
  ms.flatMap K.encode

@[simp] lemma encodeAll_nil : K.encodeAll [] = [] := rfl

@[simp] lemma encodeAll_cons (m : μ) (ms : List μ) :
    K.encodeAll (m :: ms) = K.encode m ++ K.encodeAll ms := rfl

@[simp] lemma encodeAll_append (ms ns : List μ) :
    K.encodeAll (ms ++ ns) = K.encodeAll ms ++ K.encodeAll ns := by
  simp [encodeAll]

lemma encode_ne_nil {m : μ} (hm : K.legal m) : K.encode m ≠ [] := by
  intro h
  have hp := K.parse_encode m [] hm
  rw [h, List.nil_append, K.parse_nil] at hp
  cases hp

lemma rest_length_lt {bs rest : List β} {m : μ} (h : K.parse bs = .frame m rest) :
    rest.length < bs.length := by
  obtain ⟨hm, rfl⟩ := K.encode_of_parse _ _ _ h
  have hpos : 0 < (K.encode m).length := List.length_pos_of_ne_nil (K.encode_ne_nil hm)
  rw [List.length_append]
  omega

lemma frame_append {bs rest : List β} {m : μ} (more : List β) (h : K.parse bs = .frame m rest) :
    K.parse (bs ++ more) = .frame m (rest ++ more) := by
  obtain ⟨hm, rfl⟩ := K.encode_of_parse _ _ _ h
  rw [List.append_assoc]
  exact K.parse_encode m _ hm

/-- What a prefix of a legal stream can show: nothing complete yet, or the first
message that was sent, with a prefix of the remaining stream left. It is never
illegal. -/
theorem parse_of_prefix {bs : List β} {ms : List μ} (hms : ∀ m ∈ ms, K.legal m)
    (h : bs <+: K.encodeAll ms) :
    K.parse bs = .incomplete ∨ ∃ m rest ms', ms = m :: ms' ∧ K.parse bs = .frame m rest ∧
      rest <+: K.encodeAll ms' := by
  obtain ⟨tail, htail⟩ := h
  cases hp : K.parse bs with
  | incomplete => exact Or.inl rfl
  | illegal =>
    have hill := K.illegal_append bs tail hp
    cases ms with
    | nil =>
      rw [htail, encodeAll_nil, K.parse_nil] at hill
      cases hill
    | cons m ms' =>
      rw [htail, encodeAll_cons, K.parse_encode m _ (hms m List.mem_cons_self)] at hill
      cases hill
  | frame m rest =>
    right
    have hframe := K.frame_append tail hp
    cases ms with
    | nil =>
      rw [htail, encodeAll_nil, K.parse_nil] at hframe
      cases hframe
    | cons n ms' =>
      rw [htail, encodeAll_cons, K.parse_encode n _ (hms n List.mem_cons_self)] at hframe
      injection hframe with hm hrest
      exact ⟨n, rest, ms', rfl, by rw [hm], ⟨tail, hrest.symm⟩⟩

/-- Unique decoding: messages already cut off a prefix of a legal stream are the
first messages that were sent. -/
theorem prefix_decode {ps ms : List μ} {rest : List β} (hps : ∀ m ∈ ps, K.legal m)
    (hms : ∀ m ∈ ms, K.legal m) (h : K.encodeAll ps ++ rest <+: K.encodeAll ms) :
    ∃ ms', ms = ps ++ ms' ∧ rest <+: K.encodeAll ms' := by
  induction ps generalizing ms with
  | nil => exact ⟨ms, rfl, h⟩
  | cons p ps ih =>
    have hp := hps p List.mem_cons_self
    rw [encodeAll_cons, List.append_assoc] at h
    rcases K.parse_of_prefix hms h with hi | ⟨m, r, ms', rfl, hf, hr⟩
    · rw [K.parse_encode p _ hp] at hi
      cases hi
    · rw [K.parse_encode p _ hp] at hf
      cases hf
      obtain ⟨ms'', rfl, hrest⟩ := ih (fun m hm => hps m (List.mem_cons_of_mem p hm))
        (fun m hm => hms m (List.mem_cons_of_mem p hm)) hr
      exact ⟨ms'', rfl, hrest⟩

theorem drained_eq_nil {ms : List μ} (hms : ∀ m ∈ ms, K.legal m)
    (h : K.parse (K.encodeAll ms) = .incomplete) : ms = [] := by
  cases ms with
  | nil => rfl
  | cons m ms =>
    rw [encodeAll_cons, K.parse_encode m _ (hms m List.mem_cons_self)] at h
    cases h

/-- All complete frames at the start of a stream, up to the first illegal one. -/
def frames (bs : List β) : List μ :=
  match h : K.parse bs with
  | .frame m rest =>
    have : rest.length < bs.length := K.rest_length_lt h
    m :: frames rest
  | _ => []
termination_by bs.length

lemma frames_of_frame {bs rest : List β} {m : μ} (h : K.parse bs = .frame m rest) :
    K.frames bs = m :: K.frames rest := by
  rw [frames]
  split
  · rename_i m' rest' h'
    rw [h] at h'
    cases h'
    rfl
  · rename_i hne
    exact absurd h (hne m rest)

lemma frames_of_not_frame {bs : List β} (h : ∀ m rest, K.parse bs ≠ .frame m rest) :
    K.frames bs = [] := by
  rw [frames]
  split
  · rename_i m rest h'
    exact absurd h' (h m rest)
  · rfl

lemma frames_encodeAll {ms : List μ} (hms : ∀ m ∈ ms, K.legal m) (rest : List β) :
    K.frames (K.encodeAll ms ++ rest) = ms ++ K.frames rest := by
  induction ms with
  | nil => rfl
  | cons m ms ih =>
    have hm := hms m List.mem_cons_self
    rw [encodeAll_cons, List.append_assoc, K.frames_of_frame (K.parse_encode m _ hm),
      ih (fun n hn => hms n (List.mem_cons_of_mem m hn))]
    rfl

lemma frames_prefix (bs more : List β) : K.frames bs <+: K.frames (bs ++ more) := by
  induction hn : bs.length using Nat.strong_induction_on generalizing bs with
  | h n ih =>
    cases hp : K.parse bs with
    | incomplete =>
      rw [K.frames_of_not_frame (fun m rest h => by rw [hp] at h; cases h)]
      exact List.nil_prefix
    | illegal =>
      rw [K.frames_of_not_frame (fun m rest h => by rw [hp] at h; cases h)]
      exact List.nil_prefix
    | frame m rest =>
      rw [K.frames_of_frame hp, K.frames_of_frame (K.frame_append more hp)]
      have hlt := K.rest_length_lt hp
      exact (List.prefix_cons_inj m).mpr (ih rest.length (by omega) rest rfl)

end Codec

end Framing
