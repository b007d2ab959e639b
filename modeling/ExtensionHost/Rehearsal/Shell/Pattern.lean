import ExtensionHost.Rehearsal.Shell.Script

/-!
# Patterns

Wildcards, by which a shell selects texts. They are matched against whole lists of characters.
-/

namespace ExtensionHost.Shell

/-! ## Sets of characters -/

/-- A set of characters: ranges, or all but those. -/
structure CharSet where
  negated : Bool := false
  ranges : List (Char × Char) := []
  deriving Repr

/-- Whether a character is in a set. -/
def CharSet.contains (s : CharSet) (c : Char) : Bool :=
  (s.ranges.any fun (a, b) => a ≤ c && c ≤ b) != s.negated

/-- The ranges of a named class. -/
def classRanges : List Char → List (Char × Char)
  | name =>
    match String.ofList name with
    | "upper" => [('A', 'Z')]
    | "lower" => [('a', 'z')]
    | "alpha" => [('A', 'Z'), ('a', 'z')]
    | "digit" => [('0', '9')]
    | "alnum" => [('0', '9'), ('A', 'Z'), ('a', 'z')]
    | "space" => [('\t', '\r'), (' ', ' ')]
    | "blank" => [('\t', '\t'), (' ', ' ')]
    | "xdigit" => [('0', '9'), ('A', 'F'), ('a', 'f')]
    | "cntrl" => [('\x00', '\x1F'), ('\x7F', '\x7F')]
    | "graph" => [('!', '~')]
    | "print" => [(' ', '~')]
    | "punct" => [('!', '/'), (':', '@'), ('[', '\x60'), ('\x7b', '~')]
    | _ => []

/-- The ranges up to a closing bracket, and the text behind it; `fuel` bounds their number. -/
def rangesUpTo : Nat → List Char → Option (List (Char × Char) × List Char)
  | 0, _ => none
  | _ + 1, [] => none
  | _ + 1, ']' :: rest => some ([], rest)
  | fuel + 1, '[' :: ':' :: rest =>
    let name := rest.takeWhile (· ≠ ':')
    match rest.drop name.length with
    | ':' :: ']' :: rest => (rangesUpTo fuel rest).map fun (rs, rest) => (classRanges name ++ rs, rest)
    | _ => none
  | fuel + 1, a :: '-' :: b :: rest =>
    if b = ']' then (rangesUpTo fuel ('-' :: b :: rest)).map fun (rs, rest) => ((a, a) :: rs, rest)
    else (rangesUpTo fuel rest).map fun (rs, rest) => ((a, b) :: rs, rest)
  | fuel + 1, a :: rest => (rangesUpTo fuel rest).map fun (rs, rest) => ((a, a) :: rs, rest)

/-- The set behind an opening bracket, and the text behind the set. One of some marks at its front makes
it the set of all other characters. -/
def CharSet.ofText? (marks text : List Char) : Option (CharSet × List Char) :=
  let (negated, text) := match text with
    | c :: rest => if marks.contains c then (true, rest) else (false, text)
    | [] => (false, [])
  match text with
  | ']' :: rest =>
    (rangesUpTo (rest.length + 1) rest).map fun (rs, rest) => (⟨negated, (']', ']') :: rs⟩, rest)
  | text => (rangesUpTo (text.length + 1) text).map fun (rs, rest) => (⟨negated, rs⟩, rest)

/-! ## Wildcards -/

/-- A part of a pattern of wildcards. -/
inductive Wildcard where
  | exactly (c : Char)
  | one (s : CharSet)
  | many
  deriving Repr

/-- A pattern of wildcards, from characters each of which may be quoted; `fuel` bounds its length. -/
def wildcards : Nat → List (Char × Bool) → List Wildcard
  | 0, _ => []
  | _ + 1, [] => []
  | fuel + 1, (c, quoted) :: rest =>
    if quoted then .exactly c :: wildcards fuel rest
    else if c = '*' then .many :: wildcards fuel rest
    else if c = '?' then .one ⟨true, []⟩ :: wildcards fuel rest
    else if c = '[' then
      match CharSet.ofText? ['!', '^'] (rest.map Prod.fst) with
      | some (s, behind) => .one s :: wildcards fuel (rest.drop (rest.length - behind.length))
      | none => .exactly c :: wildcards fuel rest
    else .exactly c :: wildcards fuel rest

/-- All endings of a text, the text itself first. -/
def endings : List Char → List (List Char)
  | [] => [[]]
  | c :: rest => (c :: rest) :: endings rest

/-- Whether a pattern matches a whole text. -/
def matchesWhole : List Wildcard → List Char → Bool
  | [], text => text.isEmpty
  | .exactly c :: ps, text =>
    match text with
    | d :: rest => c = d && matchesWhole ps rest
    | [] => false
  | .one s :: ps, text =>
    match text with
    | d :: rest => s.contains d && matchesWhole ps rest
    | [] => false
  | .many :: ps, text => (endings text).any fun rest => matchesWhole ps rest

/-! ## Numbers -/

/-- A number at the front of a text. -/
def leadingNumber (text : List Char) : Nat × List Char :=
  let digits := text.takeWhile Char.isDigit
  (digits.foldl (fun n c => n * 10 + (c.toNat - 48)) 0, text.drop digits.length)

end ExtensionHost.Shell
