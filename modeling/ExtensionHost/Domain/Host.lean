import ExtensionHost.Domain.Address
import ExtensionHost.Domain.Label
import ExtensionHost.Domain.Mapping
import ExtensionHost.Domain.Punycode
import ExtensionHost.Text.Utf8

/-!
# Hosts

What the host of an address names: this host, or another one by its name or its number. A name is read
as its labels. Characters are replaced by those they count as, the text is composed, a label in plain
letters is turned into what it stands for, and every label has to be one.
-/

namespace ExtensionHost.Domain

/-- Whether an ASCII character occurs in no name. -/
def isForbidden (c : Char) : Bool :=
  c.toNat ≤ 0x20 || c.toNat = 0x7F || "#%/:<>?@[\\]^|".toList.contains c

/-- The mark of a label in plain letters. -/
def plainMark : List Char := "xn--".toList

/-- The greatest length of a label in plain letters behind its mark. -/
def greatestPlain : Nat := 2000

/-- The label that a label in plain letters stands for, given without its mark. It has no character that
would count as another one. -/
def ofPlain? (text : List Char) : Option (List Char) := do
  if text.isEmpty || text.getLast? = some '-' || greatestPlain < text.length then none
  else
    let label ← Punycode.decode? text
    if label.all (fun c => isPlain c && !isForbidden c && c ≠ '.') && Text.compose label = label then
      some label
    else none

/-- The label of a part of a name. -/
def label? (part : List Char) : Option (List Char) := do
  let label ←
    if plainMark.isPrefixOf part then
      if part.all fun c => c.toNat < 0x80 then ofPlain? (part.drop plainMark.length) else none
    else some part
  if isLabel label then some label else none

/-- The labels of a name. -/
def labels? (name : List Char) : Option (List (List Char)) := do
  let mapped ← name.mapM mapped?
  let text := Text.compose mapped.flatten
  if text.any isForbidden then none
  else
    let labels ← (Path.splitAt '.' text).mapM label?
    if areDirected labels then some labels else none

/-- What a host is. -/
inductive Host where
  | this
  | other
  deriving Repr, DecidableEq

/-- The host of a name. A name that ends in a number is one. -/
def Host.ofName? (name : List Char) : Option Host := do
  let labels ← labels? name
  let text := ['.'].intercalate labels
  if text = [] then none
  else if endsInNumber text then if isAddress text then some .other else none
  else if text = "localhost".toList then some .this
  else some .other

/-- The host that a text of an address names, given also as the bytes that it stands for. A number of 128
bits stands between brackets. -/
def Host.ofText? (text : List Char) (bytes : List UInt8) : Option Host :=
  match text with
  | '[' :: rest =>
    if rest.getLast? = some ']' && isLongAddress rest.dropLast then some .other else none
  | _ => do ofName? (← Utf8.decode? bytes)

end ExtensionHost.Domain
