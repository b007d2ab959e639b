import ExtensionHost.Json.Decode

/-!
# Options on the wire

How a document is to be formatted, how a language server is run and reached, and what its client
asks for. Each type has an encoder and a decoder.
-/

namespace ExtensionHost

/-! ## Formatting -/

/-- How a document is formatted; two spaces unless said otherwise. -/
structure FormattingOptions where
  tabSize : UInt32 := 2
  insertSpaces : Bool := true
  deriving Repr, DecidableEq, Inhabited

namespace FormattingOptions

/-- The value of formatting options. -/
def encode (o : FormattingOptions) : Json :=
  .object [("insertSpaces", .bool o.insertSpaces), ("tabSize", .nat o.tabSize.toNat)]

/-- Formatting options from the members of an object. -/
def ofMembers (entries : List (String × Json)) : Except DecodeError FormattingOptions := do
  let insertSpaces ← Decoder.field? entries "insertSpaces" Decoder.bool
  let tabSize ← Decoder.field? entries "tabSize" Decoder.word32
  let tabSize ← Decoder.required "tabSize" tabSize
  let insertSpaces ← Decoder.required "insertSpaces" insertSpaces
  .ok ⟨tabSize, insertSpaces⟩

/-- Formatting options from an array. -/
def ofItems (items : List Json) : Except DecodeError FormattingOptions := do
  let what := Decoder.recordOf "FormattingOptions" 2
  let tabSize ← Decoder.element what items 0 Decoder.word32
  let insertSpaces ← Decoder.element what items 1 Decoder.bool
  Decoder.noMoreThan 2 items
  .ok ⟨tabSize, insertSpaces⟩

/-- The formatting options of a value. -/
def decode : Decoder FormattingOptions := Decoder.record "FormattingOptions" ofMembers ofItems

end FormattingOptions

/-! ## Transport -/

/-- How a language server is reached. -/
inductive Transport where
  | stdio
  | socket
  | pipe
  deriving Repr, DecidableEq, Inhabited

namespace Transport

/-- The name of a transport on the wire. -/
def name : Transport → String
  | .stdio => "stdio"
  | .socket => "socket"
  | .pipe => "pipe"

/-- The name of a transport in a message. -/
def title : Transport → String
  | .stdio => "Stdio"
  | .socket => "Socket"
  | .pipe => "Pipe"

/-- The value of a transport. -/
def encode (t : Transport) : Json := .string t.name

/-- The transport with a name. -/
def ofName (s : String) : Except DecodeError Transport :=
  if s = "stdio" then .ok .stdio
  else if s = "socket" then .ok .socket
  else if s = "pipe" then .ok .pipe
  else .error (.unknownVariant s ["stdio", "socket", "pipe"])

/-- The transport of a value: its name, or its name as the only key of an object, over nothing. -/
def decode : Decoder Transport
  | .string s => ofName s
  | .object [(s, v)] => do
    let t ← ofName s
    match v with
    | .null => .ok t
    | v => Decoder.refuse "unit" v
  | .object _ => .error (.wrongValue .map "map with a single key")
  | v => Decoder.refuse "string or map" v

end Transport

/-! ## Servers -/

/-- How a language server is run: its program, arguments and environment variables. -/
structure ServerOptions where
  transport : Transport
  path : String
  args : List String := []
  env : Keyed String := []
  deriving Repr, DecidableEq

namespace ServerOptions

/-- A server that talks over its standard input and output. -/
def stdio (path : String) : ServerOptions := { transport := .stdio, path }

/-- The value of server options. -/
def encode (o : ServerOptions) : Json :=
  .object
    [ ("args", .array (o.args.map .string)),
      ("env", .object (o.env.map fun (key, value) => (key, .string value))),
      ("path", .string o.path), ("type", o.transport.encode) ]

/-- Server options from the members of an object. -/
def ofMembers (entries : List (String × Json)) : Except DecodeError ServerOptions := do
  let args ← Decoder.field? entries "args" (Decoder.list Decoder.string)
  let env ← Decoder.field? entries "env" (Decoder.keyed Decoder.string)
  let path ← Decoder.field? entries "path" Decoder.path
  let transport ← Decoder.field? entries "type" Transport.decode
  let transport ← Decoder.required "type" transport
  let path ← Decoder.required "path" path
  .ok ⟨transport, path, args.getD [], env.getD []⟩

/-- Server options from an array, which may end before the arguments. -/
def ofItems (items : List Json) : Except DecodeError ServerOptions := do
  let what := Decoder.recordOf "ServerOptions" 4
  let transport ← Decoder.element what items 0 Transport.decode
  let path ← Decoder.element what items 1 Decoder.path
  let args ← Decoder.elementOr [] items 2 (Decoder.list Decoder.string)
  let env ← Decoder.elementOr [] items 3 (Decoder.keyed Decoder.string)
  Decoder.noMoreThan 4 items
  .ok ⟨transport, path, args, env⟩

/-- The server options of a value. -/
def decode : Decoder ServerOptions := Decoder.record "ServerOptions" ofMembers ofItems

end ServerOptions

/-! ## Clients -/

/-- What a client is for: the syntaxes it serves, what it tells the server at the start, and the
directory it works in. -/
structure ClientOptions where
  syntaxes : List String := []
  initializationOptions : Option Json := none
  rootPath : Option String := none
  deriving Repr

namespace ClientOptions

/-- The value of client options. -/
def encode (o : ClientOptions) : Json :=
  .object
    [ ("initializationOptions", .ofOption id o.initializationOptions),
      ("rootPath", .ofOption .string o.rootPath), ("syntaxes", .array (o.syntaxes.map .string)) ]

/-- Client options from the members of an object. -/
def ofMembers (entries : List (String × Json)) : Except DecodeError ClientOptions := do
  let init ← Decoder.field? entries "initializationOptions" (Decoder.optional Decoder.any)
  let rootPath ← Decoder.field? entries "rootPath" (Decoder.optional Decoder.path)
  let syntaxes ← Decoder.field? entries "syntaxes" (Decoder.list Decoder.string)
  let syntaxes ← Decoder.required "syntaxes" syntaxes
  .ok ⟨syntaxes, init.getD none, rootPath.getD none⟩

/-- Client options from an array. -/
def ofItems (items : List Json) : Except DecodeError ClientOptions := do
  let what := Decoder.recordOf "ClientOptions" 3
  let syntaxes ← Decoder.element what items 0 (Decoder.list Decoder.string)
  let init ← Decoder.element what items 1 (Decoder.optional Decoder.any)
  let rootPath ← Decoder.element what items 2 (Decoder.optional Decoder.path)
  Decoder.noMoreThan 3 items
  .ok ⟨syntaxes, init, rootPath⟩

/-- The client options of a value. -/
def decode : Decoder ClientOptions := Decoder.record "ClientOptions" ofMembers ofItems

end ClientOptions

end ExtensionHost
