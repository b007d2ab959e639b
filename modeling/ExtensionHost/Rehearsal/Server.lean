import ExtensionHost.Client.Server
import ExtensionHost.Json.Parser
import ExtensionHost.Rpc.Frame
import ExtensionHost.Rpc.Message

/-!
# Scripted servers

A scripted server answers each method from a list of replies; the last reply is used again and again.
-/

namespace ExtensionHost.Rehearsal

/-- A part of a reply: a response to the message, a body with its header or without, or the end. -/
inductive ReplyPart where
  | result (v : Json)
  | error (v : Json)
  | body (content : List UInt8) (framed : Bool)
  | exit

/-- The replies of a scripted server under the methods of messages. -/
abbrev ServerScript := Keyed (List (List ReplyPart))

/-- A response as it is written on the wire. -/
def responseBytes (id : Json) (name : String) (v : Json) : List UInt8 :=
  Rpc.frame (Rpc.ordered [("jsonrpc", Rpc.version), ("id", id), (name, v)]).toList

/-- The bytes of a part. -/
def ReplyPart.bytes (id : Json) : ReplyPart → List UInt8
  | .result v => responseBytes id "result" v
  | .error v => responseBytes id "error" v
  | .body content false => content
  | .body content true => Utf8.encode (Rpc.header content.length) ++ content
  | .exit => []

/-- Whether a part ends the server. -/
def ReplyPart.isExit : ReplyPart → Bool
  | .exit => true
  | _ => false

/-- The reply to a method without a script. -/
def defaultReply (method : String) (isRequest : Bool) : List ReplyPart :=
  if method = "initialize" then [.result (.object [("capabilities", .object [])])]
  else if method = "exit" then [.exit]
  else if isRequest then [.result .null]
  else []

/-- The reply to a message with a method that came `n` times before. -/
def ServerScript.reply (script : ServerScript) (method : String) (isRequest : Bool) (n : Nat) :
    List ReplyPart :=
  match Keyed.find? method script with
  | none => defaultReply method isRequest
  | some replies => (replies[n]? <|> replies.getLast?).getD (defaultReply method isRequest)

/-- What a scripted server keeps: how often methods came, and its conduct. -/
structure ScriptedState where
  seen : Keyed Nat := []
  conduct : Conduct := {}

/-- Takes a message. Nothing is taken after the end. -/
def ServerScript.take (script : ServerScript) (s : ScriptedState) (message : String) :
    ScriptedState :=
  if s.conduct.exited then s
  else
    match Json.parseWithin? message.length message.toList with
    | none => s
    | some v =>
      match (v.get? "method").bind Json.text? with
      | none => s
      | some method =>
        let id := Json.present? (v.get? "id")
        let n := (Keyed.find? method s.seen).getD 0
        let parts := script.reply method id.isSome n
        { seen := Keyed.insert method (n + 1) s.seen
          conduct :=
            { s.conduct with
              output := s.conduct.output ++ parts.flatMap (ReplyPart.bytes (id.getD .null))
              exited := parts.any ReplyPart.isExit } }

/-- The server of a script. It ends when its input ends. -/
def ServerScript.server (script : ServerScript) : Server := fun messages closed _ =>
  let conduct := (messages.foldl script.take {}).conduct
  { conduct with exited := conduct.exited || closed }

end ExtensionHost.Rehearsal
