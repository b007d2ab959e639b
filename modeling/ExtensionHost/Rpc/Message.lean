import ExtensionHost.Error
import ExtensionHost.Json.Parser
import ExtensionHost.Json.Printer
import ExtensionHost.Text.Utf8

/-!
# Messages

What a client and its server tell each other. A client writes requests, notifications and replies. What
comes in is read as one record with the fields `id`, `method`, `params`, `result` and `error`, each of
which may be missing or null, and then classified: a request has an identifier and a method, a
notification only a method, a response only an identifier.

The record is an object, in which other members are passed over, or an array of its five fields. What is
passed over has to have the shape of JSON but no more than that: numbers of any size, any escaped
surrogates, bytes that are no text, any number of levels.
-/

namespace ExtensionHost.Rpc

/-! ## Writing -/

/-- A member of an object whose members keep their order. -/
def member (key : String) (v : Json) : List Char :=
  Json.printString key ++ ':' :: v.printCompact

/-- An object whose members keep their order. -/
def ordered (members : List (String × Json)) : String :=
  String.ofList
    ('\x7b' :: Json.separated [','] (members.map fun (key, v) => member key v) ++ ['\x7d'])

/-- The version of the protocol. -/
def version : Json := .string "2.0"

/-- The parameters of a message, if it has any. -/
def paramsMember : Option Json → List (String × Json)
  | some params => [("params", params)]
  | none => []

/-- The body of a request. -/
def requestBody (id : Nat) (method : String) (params : Option Json) : String :=
  ordered ([("jsonrpc", version), ("id", .nat id), ("method", .string method)] ++
    paramsMember params)

/-- The body of a notification. -/
def notificationBody (method : String) (params : Option Json) : String :=
  ordered ([("jsonrpc", version), ("method", .string method)] ++ paramsMember params)

/-- The body of a reply to a request of the server. -/
def replyBody (id result : Json) : String :=
  (Json.object [("id", id), ("jsonrpc", version), ("result", result)]).compact

/-! ## Passing values over -/

/-- The text after the escaped character behind a backslash, whatever it stands for. -/
def skipEscape : List Char → Option (List Char)
  | 'u' :: rest => (Json.readHex rest).map Prod.snd
  | c :: rest => if "\"\\/bfnrt".toList.contains c then some rest else none
  | [] => none

/-- The text after a string, from behind its opening quote; `fuel` bounds its length. -/
def skipString : Nat → List Char → Option (List Char)
  | 0, _ => none
  | _ + 1, [] => none
  | _ + 1, '"' :: rest => some rest
  | fuel + 1, '\\' :: rest => do skipString fuel (← skipEscape rest)
  | fuel + 1, c :: rest => if c.toNat < 0x20 then none else skipString fuel rest

/-- The text after at least one digit. -/
def skipDigits (text : List Char) : Option (List Char) :=
  match Json.readDigits text with
  | ([], _) => none
  | (_, rest) => some rest

/-- The text after an exponent, if there is one. -/
def skipExponent (text : List Char) : Option (List Char) :=
  match text with
  | c :: rest =>
    if c = 'e' ∨ c = 'E' then
      match rest with
      | '+' :: rest => skipDigits rest
      | '-' :: rest => skipDigits rest
      | rest => skipDigits rest
    else some text
  | [] => some []

/-- The text after a number without its sign. -/
def skipUnsigned (text : List Char) : Option (List Char) :=
  match Json.readDigits text with
  | ([], _) => none
  | (0 :: _ :: _, _) => none
  | (_, '.' :: rest) => do skipExponent (← skipDigits rest)
  | (_, rest) => skipExponent rest

/-- The text after a value that is no array and no object. -/
def skipScalar (text : List Char) : Option (List Char) :=
  match text with
  | 'n' :: rest => Json.afterWord? "ull".toList rest
  | 't' :: rest => Json.afterWord? "rue".toList rest
  | 'f' :: rest => Json.afterWord? "alse".toList rest
  | '"' :: rest => skipString (rest.length + 1) rest
  | '-' :: rest => skipUnsigned rest
  | text => skipUnsigned text

/-- The text after the items of an array, `item` passing over each. -/
def skipItems (item : List Char → Option (List Char)) : Nat → List Char → Option (List Char)
  | 0, _ => none
  | fuel + 1, text => do
    match Json.skipSpace (← item text) with
    | ',' :: rest => skipItems item fuel rest
    | ']' :: rest => some rest
    | _ => none

/-- The text after a key and its colon. -/
def skipKey (text : List Char) : Option (List Char) :=
  match Json.skipSpace text with
  | '"' :: rest => do
    match Json.skipSpace (← skipString (rest.length + 1) rest) with
    | ':' :: rest => some rest
    | _ => none
  | _ => none

/-- The text after the members of an object. -/
def skipMembers (item : List Char → Option (List Char)) : Nat → List Char → Option (List Char)
  | 0, _ => none
  | fuel + 1, text => do
    match Json.skipSpace (← item (← skipKey text)) with
    | ',' :: rest => skipMembers item fuel rest
    | '\x7d' :: rest => some rest
    | _ => none

/-- The text after a value; `fuel` bounds its levels. -/
def skipValue : Nat → List Char → Option (List Char)
  | 0, _ => none
  | fuel + 1, text =>
    match Json.skipSpace text with
    | '[' :: rest =>
      match Json.skipSpace rest with
      | ']' :: rest => some rest
      | rest => skipItems (skipValue fuel) (rest.length + 1) rest
    | '\x7b' :: rest =>
      match Json.skipSpace rest with
      | '\x7d' :: rest => some rest
      | rest => skipMembers (skipValue fuel) (rest.length + 1) rest
    | text => skipScalar text

/-! ## Bytes as two texts

Where a value is read, bytes that are no text must not occur; where one is passed over, they do not
matter. So the chunks of a body are looked at as one of two texts of equal length, and what is left of
one is found in the other by its length. -/

/-- A chunk as a character that no value has, if it is malformed. -/
def strictChar : Utf8.Chunk → Char
  | .scalar c => c
  | .malformed _ => '\x00'

/-- The text in which malformed chunks are errors. -/
def strict (chunks : List Utf8.Chunk) : List Char := chunks.map strictChar

/-- The text in which malformed chunks do not matter. -/
def lenient (chunks : List Utf8.Chunk) : List Char := chunks.map Utf8.Chunk.shown

/-- The chunks of which a text is left. -/
def remaining (chunks : List Utf8.Chunk) (rest : List Char) : List Utf8.Chunk :=
  chunks.drop (chunks.length - rest.length)

/-- Reads from the front of a body. -/
def reading {α : Type} (read : List Char → Option (α × List Char)) (chunks : List Utf8.Chunk) :
    Option (α × List Utf8.Chunk) :=
  (read (strict chunks)).map fun (a, rest) => (a, remaining chunks rest)

/-- Passes over a value at the front of a body. -/
def skipping (chunks : List Utf8.Chunk) : Option (List Utf8.Chunk) :=
  (skipValue (chunks.length + 1) (lenient chunks)).map (remaining chunks)

/-! ## Records -/

/-- A field of a record: the value, once it was read. A null is read and gives no value. -/
inductive Field (α : Type) where
  | unread
  | read (value : Option α)

/-- The value of a field that was read and is not null. -/
def Field.value? {α : Type} : Field α → Option α
  | .unread => none
  | .read value => value

/-- A step of reading a record: takes the value of the member with a key. -/
abbrev ReadMember (ρ : Type) := String → ρ → List Utf8.Chunk → Option (ρ × List Utf8.Chunk)

/-- The members of an object from behind its opening bracket or a comma; `fuel` bounds their number. -/
def readRecord {ρ : Type} (readMember : ReadMember ρ) :
    Nat → ρ → List Utf8.Chunk → Option (ρ × List Utf8.Chunk)
  | 0, _, _ => none
  | fuel + 1, r, chunks => do
    let (key, chunks) ← reading (fun text =>
      match Json.skipSpace text with
      | '"' :: rest => do
        let (key, rest) ← Json.readString rest
        match Json.skipSpace rest with
        | ':' :: rest => some (key, rest)
        | _ => none
      | _ => none) chunks
    let (r, chunks) ← readMember key r chunks
    let (more, chunks) ← reading (fun text =>
      match Json.skipSpace text with
      | ',' :: rest => some (true, rest)
      | '\x7d' :: rest => some (false, rest)
      | _ => none) chunks
    if more then readRecord readMember fuel r chunks else some (r, chunks)

/-- An object from behind its opening bracket. -/
def readObject {ρ : Type} (readMember : ReadMember ρ) (empty : ρ) (chunks : List Utf8.Chunk) :
    Option (ρ × List Utf8.Chunk) :=
  match Json.skipSpace (strict chunks) with
  | '\x7d' :: rest => some (empty, remaining chunks rest)
  | _ => readRecord readMember (chunks.length + 1) empty chunks

/-- Expects a character. -/
def expect (c : Char) (chunks : List Utf8.Chunk) : Option (List Utf8.Chunk) :=
  (reading (fun text =>
    match Json.skipSpace text with
    | d :: rest => if d = c then some ((), rest) else none
    | [] => none) chunks).map Prod.snd

/-- Whether a null stands at the front, and what follows it. -/
def readNull (chunks : List Utf8.Chunk) : Option (List Utf8.Chunk) :=
  (reading (fun text =>
    (Json.afterWord? "null".toList (Json.skipSpace text)).map ((), ·)) chunks).map Prod.snd

/-- A value that may be null. -/
def readOptional {α : Type} (read : List Utf8.Chunk → Option (α × List Utf8.Chunk))
    (chunks : List Utf8.Chunk) : Option (Field α × List Utf8.Chunk) :=
  match Json.skipSpace (strict chunks) with
  | 'n' :: _ => (readNull chunks).map (.read none, ·)
  | _ => (read chunks).map fun (a, rest) => (.read (some a), rest)

/-- Takes a field that was not read before. -/
def once {α : Type} (field : Field α) (read : List Utf8.Chunk → Option (Field α × List Utf8.Chunk))
    (chunks : List Utf8.Chunk) : Option (Field α × List Utf8.Chunk) :=
  match field with
  | .unread => read chunks
  | .read _ => none

/-! ## Errors of the server -/

/-- The failure that a server answers with. -/
structure ServerError where
  code : Int
  message : String
  deriving Repr, DecidableEq

/-- The number of arrays and objects inside the fields of a message. -/
def fieldLevels : Nat := Json.levelLimit - 1

/-- A value of a field. -/
def readJson : List Utf8.Chunk → Option (Json × List Utf8.Chunk) :=
  reading (Json.readValue fieldLevels)

/-- A text. -/
def readText (chunks : List Utf8.Chunk) : Option (String × List Utf8.Chunk) :=
  match reading (fun text => Json.readScalar (Json.skipSpace text)) chunks with
  | some (.string s, rest) => some (s, rest)
  | _ => none

/-- The greatest code of an error, a signed integer of 64 bits. -/
def greatestCode : Int := 9223372036854775807

/-- The code of an error. -/
def readCode (chunks : List Utf8.Chunk) : Option (Int × List Utf8.Chunk) :=
  match reading (fun text => Json.readScalar (Json.skipSpace text)) chunks with
  | some (.number (.int i), rest) => if i ≤ greatestCode then some (i, rest) else none
  | _ => none

/-- Takes a member of an error. -/
def readErrorMember : ReadMember (Option Int × Option String)
  | "code", (none, message), chunks =>
    (readCode chunks).map fun (code, rest) => ((some code, message), rest)
  | "message", (code, none), chunks =>
    (readText chunks).map fun (message, rest) => ((code, some message), rest)
  | "code", (some _, _), _ => none
  | "message", (_, some _), _ => none
  | _, r, chunks => (skipping chunks).map (r, ·)

/-- An error of the server: an object, or an array of its code and its message. -/
def readServerError (chunks : List Utf8.Chunk) : Option (ServerError × List Utf8.Chunk) :=
  match expect '[' chunks with
  | some chunks => do
    let (code, chunks) ← readCode chunks
    let (message, chunks) ← readText (← expect ',' chunks)
    some (⟨code, message⟩, ← expect ']' chunks)
  | none => do
    match ← readObject readErrorMember (none, none) (← expect '\x7b' chunks) with
    | ((some code, some message), rest) => some (⟨code, message⟩, rest)
    | _ => none

/-! ## Messages -/

/-- A message as it comes in, all of whose fields may be missing. -/
structure RawMessage where
  id : Field Json := .unread
  method : Field String := .unread
  params : Field Json := .unread
  result : Field Json := .unread
  error : Field ServerError := .unread

/-- Takes a member of a message. -/
def readMessageMember : ReadMember RawMessage
  | "id", m, chunks =>
    (once m.id (readOptional readJson) chunks).map fun (id, rest) => ({ m with id }, rest)
  | "method", m, chunks =>
    (once m.method (readOptional readText) chunks).map fun (method, rest) =>
      ({ m with method }, rest)
  | "params", m, chunks =>
    (once m.params (readOptional readJson) chunks).map fun (params, rest) =>
      ({ m with params }, rest)
  | "result", m, chunks =>
    (once m.result (readOptional readJson) chunks).map fun (result, rest) =>
      ({ m with result }, rest)
  | "error", m, chunks =>
    (once m.error (readOptional readServerError) chunks).map fun (error, rest) =>
      ({ m with error }, rest)
  | _, m, chunks => (skipping chunks).map (m, ·)

/-- A message: an object, or an array of its five fields. -/
def readMessage (chunks : List Utf8.Chunk) : Option (RawMessage × List Utf8.Chunk) :=
  match expect '[' chunks with
  | some chunks => do
    let (id, chunks) ← readOptional readJson chunks
    let (method, chunks) ← readOptional readText (← expect ',' chunks)
    let (params, chunks) ← readOptional readJson (← expect ',' chunks)
    let (result, chunks) ← readOptional readJson (← expect ',' chunks)
    let (error, chunks) ← readOptional readServerError (← expect ',' chunks)
    some (⟨id, method, params, result, error⟩, ← expect ']' chunks)
  | none => do readObject readMessageMember {} (← expect '\x7b' chunks)

/-- The message that a body consists of. -/
def RawMessage.parse? (body : List UInt8) : Option RawMessage :=
  match readMessage (Utf8.chunks body) with
  | some (m, rest) => if (Json.skipSpace (strict rest)).isEmpty then some m else none
  | none => none

/-- What a message means. -/
inductive Incoming where
  | response (id : Nat) (result : Except HostError Json)
  | request (id : Json) (method : String) (params : Option Json)
  | notification (method : String) (params : Option Json)
  | meaningless

/-- The failure that a server answers with, as a failure of the client. -/
def ServerError.toHostError (e : ServerError) : HostError :=
  ⟨.lsp, "Server error " ++ toString e.code ++ ": " ++ e.message⟩

/-- The meaning of a message. An error comes before a result, and a missing result is null. -/
def RawMessage.classify (m : RawMessage) : Incoming :=
  match m.id.value?, m.method.value? with
  | some id, some method => .request id method m.params.value?
  | none, some method => .notification method m.params.value?
  | some id, none =>
    match id.nat? with
    | some id =>
      match m.error.value? with
      | some e => .response id (.error e.toHostError)
      | none => .response id (.ok (m.result.value?.getD .null))
    | none => .meaningless
  | none, none => .meaningless

/-- The meaning of a body; one that is no message means nothing. -/
def Incoming.ofBody (body : List UInt8) : Incoming :=
  match RawMessage.parse? body with
  | some m => m.classify
  | none => .meaningless

/-- The method by which a server asks for settings. -/
def configurationMethod : String := "workspace/configuration"

/-- The result that a request of the server is answered with: a null for each item that is asked for,
and otherwise one null. -/
def answerTo (method : String) (params : Option Json) : Json :=
  if method = configurationMethod then
    let items := (params.bind (Json.get? "items")).bind Json.items?
    .array (List.replicate (items.getD []).length .null)
  else .null

end ExtensionHost.Rpc
