import Chatroom.Library.Questions
import Chatroom.Model.Sockets

/-!
# The dialogs

What the program asks before it opens a socket: the mode in `main`, and the names, the address
and the ports in `server_init` and `client_init`. Standard input is a text after which the end
of file stands; the program's log is left out.
-/

namespace Chatroom
open Questions

/-! ### What is read -/

/-- `std::cin >> word` -/
def cutWord (text : Bytes) : Option Bytes × Bytes :=
  let word := text.takeWhile (fun ch => !isSpace ch)
  (if word = [] then none else some word, text.dropWhile (fun ch => !isSpace ch))

def isDigit (ch : Byte) : Bool :=
  decide (48 ≤ ch ∧ ch ≤ 57)

/-- The text of an integer is a sign and digits. -/
def isNegative (text : Bytes) : Bool :=
  decide (text.head? = some 45)

def unsignedText (text : Bytes) : Bytes :=
  if isNegative text ∨ text.head? = some 43 then text.tail else text

/-- The value of the digits that a text starts with. -/
def decimalValue (digits : Bytes) : ℕ :=
  digits.foldl (fun n ch => 10 * n + (ch.toNat - 48)) 0

def integerValue (text : Bytes) : ℤ :=
  let value := decimalValue ((unsignedText text).takeWhile isDigit)
  if isNegative text then -value else value

/-- The range of an `int`. -/
def intMin : ℤ := -2147483648

def intMax : ℤ := 2147483647

/-- `std::cin >> n`; without digits, or out of range, the extraction fails. -/
def cutInt (text : Bytes) : Option ℤ × Bytes :=
  let unsigned := unsignedText text
  let value := integerValue text
  (if unsigned.takeWhile isDigit ≠ [] ∧ intMin ≤ value ∧ value ≤ intMax then some value else none,
    unsigned.dropWhile isDigit)

/-- What `std::cin >> n` stores when it finds no `int`: zero, or the limit that was passed. -/
def storedInt (text : Bytes) : ℤ :=
  max intMin (min intMax (integerValue text))

section Tokens

variable {p : Byte → Bool} {text : Bytes}

lemma takeWhile_append_newline (h : p newline = false) (text more : Bytes) :
    (text ++ newline :: more).takeWhile p = text.takeWhile p := by
  induction text with
  | nil => simp [h]
  | cons ch text ih =>
    rw [List.cons_append, List.takeWhile_cons, List.takeWhile_cons, ih]

lemma dropWhile_append_newline (h : p newline = false) (text more : Bytes) :
    (text ++ newline :: more).dropWhile p = text.dropWhile p ++ newline :: more := by
  induction text with
  | nil => simp [h]
  | cons ch text ih =>
    rw [List.cons_append, List.dropWhile_cons, List.dropWhile_cons, ih]
    split <;> rfl

lemma isNegative_append (text more : Bytes) :
    isNegative (text ++ newline :: more) = isNegative text := by
  cases text <;> rfl

lemma unsignedText_append (text more : Bytes) :
    unsignedText (text ++ newline :: more) = unsignedText text ++ newline :: more := by
  cases text with
  | nil => rfl
  | cons ch text =>
    have hhead : (ch :: text ++ newline :: more).head? = (ch :: text).head? := rfl
    unfold unsignedText
    rw [isNegative_append, hhead]
    split <;> rfl

lemma unsignedText_suffix (text : Bytes) : unsignedText text <:+ text := by
  unfold unsignedText
  split
  · exact List.tail_suffix text
  · exact List.suffix_refl text

lemma integerValue_append (text more : Bytes) :
    integerValue (text ++ newline :: more) = integerValue text := by
  unfold integerValue
  rw [unsignedText_append, takeWhile_append_newline rfl, isNegative_append]

lemma dropWhile_length_lt (h : text.takeWhile p ≠ []) :
    (text.dropWhile p).length < text.length := by
  have hlen := congrArg List.length (List.takeWhile_append_dropWhile (p := p) (l := text))
  rw [List.length_append] at hlen
  have hpos := List.length_pos_iff.mpr h
  omega

end Tokens

def wordToken : Token newline Bytes where
  cut := cutWord
  suffix text := List.dropWhile_suffix _
  shorter := by
    intro text word h
    apply dropWhile_length_lt
    intro hnil
    simp [cutWord, hnil] at h
  within := by
    rintro text more -
    unfold cutWord
    rw [takeWhile_append_newline rfl, dropWhile_append_newline rfl]

def intToken : Token newline ℤ where
  cut := cutInt
  suffix text := (List.dropWhile_suffix _).trans (unsignedText_suffix text)
  shorter := by
    intro text value h
    have hdigits : (unsignedText text).takeWhile isDigit ≠ [] := by
      intro hnil
      simp [cutInt, hnil] at h
    exact (dropWhile_length_lt hdigits).trans_le (unsignedText_suffix text).length_le
  within := by
    rintro text more -
    unfold cutInt
    dsimp only
    rw [unsignedText_append, integerValue_append, takeWhile_append_newline rfl,
      dropWhile_append_newline rfl]

/-! ### What is asked -/

/-- The question for a name. -/
def nameQuestion (prompt : String) : Question newline Bytes Bytes where
  token := wordToken
  accept name := if nameIsReserved name then none else some name
  prompt := ascii prompt
  refused := ascii "[app] reserved name.\n"

/-- The name loop of `server_init` -/
def usernameQuestion : Question newline Bytes Bytes :=
  nameQuestion "Enter your username: "

/-- The port loop of `server_init` -/
def listeningPortQuestion : Question newline ℤ ℤ where
  token := intToken
  accept := some
  prompt := ascii "Enter the port number to listen on: "
  unreadable := ascii "Invalid input. Please enter an integer.\n"

/-- The name loop of `client_init` -/
def clientNameQuestion : Question newline Bytes Bytes :=
  nameQuestion "Enter your name: "

/-- The address loop of `client_init`; `inetPton` is `inet_pton` for `AF_INET`. -/
def serverIpQuestion (inetPton : Bytes → Option UInt32) : Question newline Bytes UInt32 where
  token := wordToken
  accept := inetPton
  prompt := ascii "Enter server IP address: "

/-- The port loop of `client_init` -/
def serverPortQuestion : Question newline ℤ ℤ where
  token := intToken
  accept port := if 1 ≤ port ∧ port ≤ 65535 then some port else none
  prompt := ascii "Enter server port: "

/-! ### The two modes -/

/-- `server_init` up to the listening socket -/
def serverDialog (fuel : ℕ) (t : Terminal Byte) : Option ((Bytes × ℤ) × Terminal Byte) :=
  let t := t.print (ascii "Server mode selected.\n")
  (usernameQuestion.ask isSpace fuel t).bind (fun (name, t) =>
    let t := t.print (ascii "Your username is: " ++ name ++ ascii "\n")
    (listeningPortQuestion.ask isSpace fuel t).map (fun (port, t) =>
      let t := t.print (ascii "Port number is: " ++ ascii (toString port) ++ ascii "\n")
      ((name, port), t.print (ascii "Initializing server instance...\n"))))

/-- `server_init` -/
def serverMode (fuel : ℕ) (t : Terminal Byte) (r : SocketReplies) (created : CreateReplies) :
    Option (Process Loop × Terminal Byte) :=
  (serverDialog fuel t).map (fun ((name, port), t) =>
    let p := serverInit name port r created
    (p, if p.loop = none then t else t.withInput (t.input.ignoreLine newline)))

/-- `client_init` up to the socket -/
def clientDialog (inetPton : Bytes → Option UInt32) (fuel : ℕ) (t : Terminal Byte) :
    Option ((Bytes × SockAddr) × Terminal Byte) :=
  let t := t.print (ascii "Initializing client...\n")
  (clientNameQuestion.ask isSpace fuel t).bind (fun (name, t) =>
    let t := t.print (ascii "Your name is: " ++ name ++ ascii "\n")
    ((serverIpQuestion inetPton).ask isSpace fuel t).bind (fun (ip, t) =>
      (serverPortQuestion.ask isSpace fuel t).map (fun (port, t) =>
        ((name, ⟨ip, portNumber port⟩), t))))

/-- `client_init` -/
def clientMode (inetPton : Bytes → Option UInt32) (fuel : ℕ) (t : Terminal Byte)
    (r : SocketReplies) (created : CreateReplies) :
    Option (Process ClientLoop × Terminal Byte) :=
  (clientDialog inetPton fuel t).map (fun ((name, addr), t) =>
    let p := clientInit name addr r created
    if p.loop = none then (p, t)
    else
      let t := t.print (ascii "Connection setup started.\n")
      (p, t.withInput (t.input.ignoreLine newline)))

/-! ### The program -/

/-- The menu, and what is in `mode` then; nothing is stored there when there is nothing to
convert, and its value stays `indeterminate`. -/
def readMode (indeterminate : ℤ) (t : Terminal Byte) : ℤ × Terminal Byte :=
  let t := t.print (ascii "Welcome to the chatroom!\n")
  let t := t.print (ascii "Please select a mode:\n1. Server\n2. Client\n> ")
  let skipped := t.input.skipBlanks isSpace
  let read := t.input.extract isSpace intToken
  (if skipped.good then read.1.getD (storedInt skipped.rest) else indeterminate,
    t.withInput read.2)

/-- The loop of `main`. Nothing clears the flags here. -/
def selectMode (indeterminate : ℕ → ℤ) : ℕ → Terminal Byte → Option (ℤ × Terminal Byte)
  | 0, _ => none
  | fuel + 1, t =>
    let read := readMode (indeterminate fuel) t
    if read.1 = 1 ∨ read.1 = 2 then some read
    else selectMode indeterminate fuel (read.2.print (ascii "Invalid mode selected.\n"))

/-- What `main` ends up as. -/
inductive Started
  | host (p : Process Loop)
  | guest (p : Process ClientLoop)

/-- `main` -/
def main (indeterminate : ℕ → ℤ) (inetPton : Bytes → Option UInt32) (fuel : ℕ)
    (t : Terminal Byte) (r : SocketReplies) (created : CreateReplies) :
    Option (Started × Terminal Byte) :=
  (selectMode indeterminate fuel t).bind (fun (mode, t) =>
    if mode = 1 then (serverMode fuel t r created).map (fun (p, t) => (.host p, t))
    else (clientMode inetPton fuel t r created).map (fun (p, t) => (.guest p, t)))

end Chatroom
