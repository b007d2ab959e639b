import ExtensionHost.Json.Printer
import ExtensionHost.Text.Quoted

/-!
# Decoding JSON values

A decoder turns a JSON value into a value of another type or says what stands in the way. A record
is written as an object with a member for each field, in which other members do not matter, or as an
array of its fields in their order. Members are decoded in the order of their keys; only after that
missing ones are noticed, in the order of the record's fields.
-/

namespace ExtensionHost

/-! ## What goes wrong -/

/-- What a value was found to be. -/
inductive Found where
  | null
  | bool (value : Bool)
  | int (value : Int)
  | float (value : Binary64)
  | string (value : String)
  | sequence
  | map
  deriving Repr, DecidableEq

/-- Why a value could not be decoded. -/
inductive DecodeError where
  | wrongType (found : Found) (expected : String)
  | wrongValue (found : Found) (expected : String)
  | wrongLength (length : Nat) (expected : String)
  | missingField (name : String)
  | unknownVariant (name : String) (variants : List String)
  deriving Repr, DecidableEq

/-- The kind of a value, with its content where it has one. -/
def Json.found : Json → Found
  | .null => .null
  | .bool b => .bool b
  | .number (.int i) => .int i
  | .number (.float x) => .float x
  | .string s => .string s
  | .array _ => .sequence
  | .object _ => .map

/-- A text between backquotes. -/
def backquoted (text : String) : String := "\x60" ++ text ++ "\x60"

/-- The description of what was found. -/
def Found.message : Found → String
  | .null => "null"
  | .bool b => "boolean " ++ backquoted (toString b)
  | .int i => "integer " ++ backquoted (toString i)
  | .float x => "floating point " ++ backquoted x.toText
  | .string s => "string " ++ Text.quote s
  | .sequence => "sequence"
  | .map => "map"

/-- The description of a failed decoding. -/
def DecodeError.message : DecodeError → String
  | .wrongType found expected => "invalid type: " ++ found.message ++ ", expected " ++ expected
  | .wrongValue found expected => "invalid value: " ++ found.message ++ ", expected " ++ expected
  | .wrongLength length expected =>
    "invalid length " ++ toString length ++ ", expected " ++ expected
  | .missingField name => "missing field " ++ backquoted name
  | .unknownVariant name variants =>
    "unknown variant " ++ backquoted name ++ ", expected one of " ++
      ", ".intercalate (variants.map backquoted)

/-! ## Decoders -/

/-- A way to decode a value. -/
abbrev Decoder (α : Type) := Json → Except DecodeError α

namespace Decoder

/-- Refuses a value of the wrong kind. -/
def refuse {α : Type} (expected : String) (v : Json) : Except DecodeError α :=
  .error (.wrongType v.found expected)

/-- An unsigned integer of 32 bits. -/
def word32 : Decoder UInt32
  | .number (.int i) =>
    if 0 ≤ i ∧ i.toNat < UInt32.size then .ok (UInt32.ofNat i.toNat)
    else .error (.wrongValue (.int i) "u32")
  | v => refuse "u32" v

/-- A text. -/
def string : Decoder String
  | .string s => .ok s
  | v => refuse "a string" v

/-- A path. -/
def path : Decoder String
  | .string s => .ok s
  | v => refuse "path string" v

/-- A truth value. -/
def bool : Decoder Bool
  | .bool b => .ok b
  | v => refuse "a boolean" v

/-- Any value. -/
def any : Decoder Json := .ok

/-- A value that may be null. -/
def optional {α : Type} (decode : Decoder α) : Decoder (Option α)
  | .null => .ok none
  | v => (decode v).map some

/-- An array of values that are decoded alike. -/
def list {α : Type} (decode : Decoder α) : Decoder (List α)
  | .array items => items.mapM decode
  | v => refuse "a sequence" v

/-- Members that are decoded alike. -/
def members {α : Type} (decode : Decoder α) :
    List (String × Json) → Except DecodeError (List (String × α))
  | [] => .ok []
  | (key, v) :: rest => do
    let a ← decode v
    let rest ← members decode rest
    .ok ((key, a) :: rest)

/-- An object whose values are decoded alike. -/
def keyed {α : Type} (decode : Decoder α) : Decoder (Keyed α)
  | .object entries => members decode entries
  | v => refuse "a map" v

/-! ## Records -/

/-- The member under a key, decoded, if there is one. -/
def field? {α : Type} (entries : List (String × Json)) (key : String) (decode : Decoder α) :
    Except DecodeError (Option α) :=
  match Keyed.find? key entries with
  | none => .ok none
  | some v => (decode v).map some

/-- Insists on a member. -/
def required {α : Type} (key : String) : Option α → Except DecodeError α
  | none => .error (.missingField key)
  | some a => .ok a

/-- The element of an array at an index, decoded; an array that ends before it is refused. -/
def element {α : Type} (what : String) (items : List Json) (i : Nat) (decode : Decoder α) :
    Except DecodeError α :=
  match items[i]? with
  | none => .error (.wrongLength i what)
  | some v => decode v

/-- The element of an array at an index, decoded, or a default behind the end of the array. -/
def elementOr {α : Type} (fallback : α) (items : List Json) (i : Nat) (decode : Decoder α) :
    Except DecodeError α :=
  match items[i]? with
  | none => .ok fallback
  | some v => decode v

/-- Refuses an array of more than `n` elements. -/
def noMoreThan (n : Nat) (items : List Json) : Except DecodeError Unit :=
  if n < items.length then .error (.wrongLength items.length "fewer elements in array") else .ok ()

/-- A record from an object or an array; `name` is the record's name. -/
def record {α : Type} (name : String) (ofMembers : List (String × Json) → Except DecodeError α)
    (ofItems : List Json → Except DecodeError α) : Decoder α
  | .object entries => ofMembers entries
  | .array items => ofItems items
  | v => refuse ("struct " ++ name) v

/-- How an array of the wrong length for a record is described. -/
def recordOf (name : String) (fields : Nat) : String :=
  "struct " ++ name ++ " with " ++ toString fields ++ " elements"

end Decoder

end ExtensionHost
