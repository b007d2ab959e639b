import ExtensionHost.Keyed
import ExtensionHost.Number.Binary64

/-!
# JSON values

A number is an integer between the least signed and the greatest unsigned integer of 64 bits, or a
finite floating-point number. An object keeps its members sorted by key, each key once.
-/

namespace ExtensionHost

/-- The numbers of a JSON value. -/
inductive Number where
  | int (value : Int)
  | float (value : Binary64)
  deriving Repr, DecidableEq

/-- A JSON value. -/
inductive Json where
  | null
  | bool (value : Bool)
  | number (value : Number)
  | string (value : String)
  | array (items : List Json)
  | object (members : List (String × Json))
  deriving Repr, Inhabited

namespace Json

/-- An integer as a value. -/
def int (i : Int) : Json := .number (.int i)

/-- A natural number as a value. -/
def nat (n : Nat) : Json := .int n

/-- An object from members in any order. -/
def obj (members : List (String × Json)) : Json := .object (Keyed.ofList members)

/-- The member of an object under a key. -/
def get? (key : String) : Json → Option Json
  | .object members => Keyed.find? key members
  | _ => none

/-- A value that may be absent, as a value that may be null. -/
def ofOption {α : Type} (encode : α → Json) : Option α → Json
  | none => .null
  | some a => encode a

/-- The text of a string. -/
def text? : Json → Option String
  | .string s => some s
  | _ => none

/-- The items of an array. -/
def items? : Json → Option (List Json)
  | .array items => some items
  | _ => none

/-- The value of a natural number. -/
def nat? : Json → Option Nat
  | .number (.int (.ofNat n)) => some n
  | _ => none

/-- Whether the value is null. -/
def isNull : Json → Bool
  | .null => true
  | _ => false

/-- A value that is present and not null. -/
def present? (value : Option Json) : Option Json :=
  value.filter fun v => !v.isNull

mutual

/-- The number of arrays and objects around the innermost value. -/
def levels : Json → Nat
  | .array items => levelsOfItems items + 1
  | .object members => levelsOfMembers members + 1
  | _ => 0

/-- The greatest number of levels among items. -/
def levelsOfItems : List Json → Nat
  | [] => 0
  | v :: rest => max (levels v) (levelsOfItems rest)

/-- The greatest number of levels among members. -/
def levelsOfMembers : List (String × Json) → Nat
  | [] => 0
  | (_, v) :: rest => max (levels v) (levelsOfMembers rest)

end

end Json

end ExtensionHost
