import Chatroom.Model.Protocol

/-!
# Room lines

`formatPrint.cpp`: the text `[name] payload`, printed on the host's terminal or sent
as a BROADCAST.
-/

namespace Chatroom

/-- `"[" + name + "] " + payload` -/
def formatLine (name payload : Bytes) : Bytes :=
  ascii "[" ++ name ++ ascii "] " ++ payload

/-- `format_print_message` on the lines printed so far -/
def formatPrintMessage (stdout : List Bytes) (name : Bytes) (message : Message) : List Bytes :=
  stdout ++ [formatLine name message.payload]

/-- `format_broadcast_message` -/
def formatBroadcastMessage (name : Bytes) (message : Message) : Message :=
  Message.of .broadcast (formatLine name message.payload)

@[simp] lemma formatLine_length (name payload : Bytes) :
    (formatLine name payload).length = name.length + payload.length + 3 := by
  simp [formatLine, ascii]
  omega

end Chatroom
