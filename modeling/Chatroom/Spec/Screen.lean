import Chatroom.Model.Protocol

/-!
# The screen of a client

What a client shows depends only on the frames that it accepts: first SERVER_HELLO, then
BROADCAST, and CLOSE_CON at the end. How the bytes of these frames were read plays no part
here.
-/

namespace Chatroom

/-- The frames that a client accepts in a connection state. -/
def Accepts : ConnectionState → Message → Prop
  | .waitingForServerHello, m => m.type = .serverHello
  | .active, m => m.type = .broadcast ∨ m.type = .closeCon ∧ m.payload = []
  | _, _ => False

instance : (st : ConnectionState) → (m : Message) → Decidable (Accepts st m)
  | .waitingForServerHello, _ => inferInstanceAs (Decidable (_ = _))
  | .active, _ => inferInstanceAs (Decidable (_ ∨ _))
  | .connecting, _ | .sendingClientHello, _ | .sendingServerHello, _
  | .waitingForClientHello, _ | .closed, _ | .connectionError, _ =>
    inferInstanceAs (Decidable False)

/-- The state after a frame that is accepted. -/
def stateAfter (m : Message) : ConnectionState :=
  if m.type = .closeCon then .closed else .active

/-- The frames of a list that are accepted before the first that is not. -/
def accepted : ConnectionState → List Message → List Message
  | _, [] => []
  | st, m :: ms => if Accepts st m then m :: accepted (stateAfter m) ms else []

lemma accepted_prefix {xs ys : List Message} (st : ConnectionState) (h : xs <+: ys) :
    accepted st xs <+: accepted st ys := by
  obtain ⟨zs, rfl⟩ := h
  induction xs generalizing st with
  | nil => exact List.nil_prefix
  | cons m ms ih =>
    rw [List.cons_append, accepted, accepted]
    by_cases hm : Accepts st m
    · rw [if_pos hm, if_pos hm]
      exact (List.prefix_cons_inj m).mpr (ih (stateAfter m))
    · rw [if_neg hm, if_neg hm]

lemma accepted_closed (ms : List Message) : accepted .closed ms = [] := by
  cases ms with
  | nil => rfl
  | cons m ms => exact if_neg id

/-- The name under which the server has greeted, and the lines printed so far. -/
structure Screen where
  name : Bytes
  lines : List Bytes
  deriving DecidableEq

namespace Screen

/-- What one accepted frame adds. -/
def display (s : Screen) (m : Message) : Screen :=
  if m.type = .serverHello then
    ⟨m.payload, s.lines ++ [ascii "Connected to server.\nName: " ++ m.payload,
      ascii "[client] connected to server. Start chatting."]⟩
  else if m.type = .closeCon then
    { s with lines := s.lines ++ [ascii "[client] server closed the room."] }
  else { s with lines := s.lines ++ [m.payload] }

def displayAll (s : Screen) (ms : List Message) : Screen :=
  ms.foldl display s

lemma length_lines_display (s : Screen) (m : Message) :
    s.lines.length < (s.display m).lines.length := by
  unfold display
  split_ifs <;> simp

lemma length_lines_displayAll (s : Screen) (ms : List Message) :
    s.lines.length + ms.length ≤ (s.displayAll ms).lines.length := by
  induction ms generalizing s with
  | nil => exact Nat.le_refl _
  | cons m ms ih =>
    have hm := s.length_lines_display m
    have hms := ih (s.display m)
    show s.lines.length + (ms.length + 1) ≤ ((s.display m).displayAll ms).lines.length
    omega

lemma eq_of_displayAll_eq {s : Screen} {xs ys : List Message} (h : xs <+: ys)
    (heq : s.displayAll xs = s.displayAll ys) : xs = ys := by
  obtain ⟨zs, rfl⟩ := h
  have hlen := (s.displayAll xs).length_lines_displayAll zs
  have happ : (s.displayAll xs).displayAll zs = s.displayAll (xs ++ zs) :=
    (List.foldl_append (f := display)).symm
  rw [happ, ← heq] at hlen
  have hnil : zs = [] := List.eq_nil_of_length_eq_zero (by omega)
  rw [hnil, List.append_nil]

end Screen

end Chatroom
