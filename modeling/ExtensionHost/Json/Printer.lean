import ExtensionHost.Json.Value
import ExtensionHost.Number.Shortest

/-!
# Printing JSON

Two layouts of the same text: `Json.compact` without any space, and `Json.pretty` with one member or
item a line, two spaces for each level, and no final line end. In strings only quotes, backslashes
and controls are escaped. A floating-point number has its shortest digits, always with a fraction or
an exponent: positional from `0.00001` to below `10 ^ 16`, with an exponent outside.
-/

namespace ExtensionHost

/-! ## Numbers -/

namespace Binary64

/-- The sign of a number as text. -/
def sign (x : Binary64) : String := if x.negative then "-" else ""

/-- The digits with the decimal point before the `point`-th digit, zeros filling the gap; a point
behind all digits is followed by a zero. -/
def positional (digits : List Char) (point : Int) : List Char :=
  if point ≤ 0 then '0' :: '.' :: List.replicate (-point).toNat '0' ++ digits
  else if digits.length ≤ point.toNat then
    digits ++ List.replicate (point.toNat - digits.length) '0' ++ ['.', '0']
  else digits.take point.toNat ++ '.' :: digits.drop point.toNat

/-- The digits with the decimal point after the first one, and the exponent of ten with its sign. -/
def scientific (digits : List Char) (exponent : Int) : List Char :=
  let fraction := if digits.length ≤ 1 then [] else '.' :: digits.drop 1
  let plus := if exponent < 0 then [] else ['+']
  digits.take 1 ++ fraction ++ 'e' :: plus ++ (toString exponent).toList

/-- The text of a number in JSON. -/
def toText (x : Binary64) : String :=
  let d := x.magnitude.shortest
  let digits := (toString d.digits).toList
  let point : Int := d.exponent + digits.length
  let body := if d.digits = 0 then "0.0".toList
    else if -5 < point ∧ point ≤ 16 then positional digits point
    else scientific digits (point - 1)
  x.sign ++ String.ofList body

end Binary64

/-- The text of a number in JSON. -/
def Number.toText : Number → String
  | .int i => toString i
  | .float x => x.toText

/-! ## Strings -/

namespace Json

/-- The digit of a number below sixteen. -/
def hexDigit (n : Nat) : Char :=
  if n < 10 then Char.ofNat (48 + n) else Char.ofNat (87 + n)

/-- A character of a string as it is written. -/
def escape (c : Char) : List Char :=
  match c with
  | '"' => ['\\', '"']
  | '\\' => ['\\', '\\']
  | '\x08' => ['\\', 'b']
  | '\x0c' => ['\\', 'f']
  | '\n' => ['\\', 'n']
  | '\r' => ['\\', 'r']
  | '\t' => ['\\', 't']
  | c =>
    if c.toNat < 0x20 then
      ['\\', 'u', '0', '0', hexDigit (c.toNat / 16), hexDigit (c.toNat % 16)]
    else [c]

/-- A string as it is written, with its quotes. -/
def printString (s : String) : List Char :=
  '"' :: s.toList.flatMap escape ++ ['"']

/-! ## Values -/

/-- Texts with a separator between each two. -/
def separated (separator : List Char) : List (List Char) → List Char
  | [] => []
  | [text] => text
  | text :: next :: rest => text ++ separator ++ separated separator (next :: rest)

mutual

/-- The characters of a value without any space. -/
def printCompact : Json → List Char
  | .null => "null".toList
  | .bool true => "true".toList
  | .bool false => "false".toList
  | .number n => n.toText.toList
  | .string s => printString s
  | .array items => '[' :: separated [','] (compactItems items) ++ [']']
  | .object members => '\x7b' :: separated [','] (compactMembers members) ++ ['\x7d']

/-- The characters of each item. -/
def compactItems : List Json → List (List Char)
  | [] => []
  | v :: rest => printCompact v :: compactItems rest

/-- The characters of each member. -/
def compactMembers : List (String × Json) → List (List Char)
  | [] => []
  | (key, v) :: rest => (printString key ++ ':' :: printCompact v) :: compactMembers rest

end

/-- A line end and the indentation of a level. -/
def newLine (level : Nat) : List Char :=
  '\n' :: List.replicate (2 * level) ' '

/-- Entries between brackets, one a line on the level below `level`; no entries, no lines. -/
def block (level : Nat) (opening closing : Char) (entries : List (List Char)) : List Char :=
  match entries with
  | [] => [opening, closing]
  | entries =>
    opening :: newLine (level + 1) ++ separated (',' :: newLine (level + 1)) entries ++
      newLine level ++ [closing]

mutual

/-- The characters of a value that starts on a line of the given level. -/
def printPretty (level : Nat) : Json → List Char
  | .array items => block level '[' ']' (prettyItems (level + 1) items)
  | .object members => block level '\x7b' '\x7d' (prettyMembers (level + 1) members)
  | .null => "null".toList
  | .bool true => "true".toList
  | .bool false => "false".toList
  | .number n => n.toText.toList
  | .string s => printString s

/-- The characters of each item. -/
def prettyItems (level : Nat) : List Json → List (List Char)
  | [] => []
  | v :: rest => printPretty level v :: prettyItems level rest

/-- The characters of each member. -/
def prettyMembers (level : Nat) : List (String × Json) → List (List Char)
  | [] => []
  | (key, v) :: rest =>
    (printString key ++ ':' :: ' ' :: printPretty level v) :: prettyMembers level rest

end

/-- The text of a value without any space. -/
def compact (v : Json) : String := String.ofList (printCompact v)

/-- The text of a value, one member or item a line. -/
def pretty (v : Json) : String := String.ofList (printPretty 0 v)

end Json

end ExtensionHost
