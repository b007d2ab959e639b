import ExtensionHost.Rehearsal.Shell.Pattern

/-!
# Regular expressions

Expressions by which lines are selected and edited. An expression is read in a basic or an extended
style, which differ in what needs a backslash. Of the ways in which an expression matches from a place
on, the longest counts if there are alternatives, and otherwise the one that takes most from the left.
-/

namespace ExtensionHost.Shell

/-! ## Expressions -/

/-- A place between two characters that an expression may ask for. -/
inductive RegexPlace where
  | lineStart
  | lineEnd
  | wordStart
  | wordEnd
  | wordEdge
  | noWordEdge
  deriving Repr, DecidableEq

/-- A regular expression as a tree. -/
inductive RegexTree where
  | empty
  | one (s : CharSet)
  | both (a b : RegexTree)
  | either (a b : RegexTree)
  | repeated (r : RegexTree) (least : Nat) (most : Option Nat)
  | group (n : Nat) (r : RegexTree)
  | again (n : Nat)
  | place (p : RegexPlace)
  deriving Repr

/-- A regular expression. In a folded one capital and small letters are alike. -/
structure Regex where
  tree : RegexTree
  folded : Bool := false
  deriving Repr

/-- Whether an expression has alternatives. -/
def RegexTree.branches : RegexTree → Bool
  | .either _ _ => true
  | .both a b => a.branches || b.branches
  | .repeated r _ _ => r.branches
  | .group _ r => r.branches
  | _ => false

/-- The number of nodes of an expression. -/
def RegexTree.size : RegexTree → Nat
  | .both a b => a.size + b.size + 1
  | .either a b => a.size + b.size + 1
  | .repeated r least _ => r.size + least + 1
  | .group _ r => r.size + 1
  | _ => 1

/-! ## Reading -/

/-- A part of the text of an expression. -/
inductive RegexToken where
  | tree (r : RegexTree)
  | repeated (least : Nat) (most : Option Nat)
  | opening (n : Nat)
  | closing
  | bar
  deriving Repr

/-- The set of one character. -/
def CharSet.single (c : Char) : CharSet := ⟨false, [(c, c)]⟩

/-- The set of characters that words consist of, or of all others. -/
def CharSet.word (negated : Bool) : CharSet :=
  ⟨negated, [('0', '9'), ('A', 'Z'), ('a', 'z'), ('_', '_')]⟩

/-- The set of blanks, or of all others. -/
def CharSet.blank (negated : Bool) : CharSet := ⟨negated, classRanges "space".toList⟩

/-- What a letter behind a backslash stands for in both styles. -/
def escapedTree (c : Char) : RegexTree :=
  match c with
  | 'n' => .one (.single '\n')
  | 't' => .one (.single '\t')
  | 'w' => .one (.word false)
  | 'W' => .one (.word true)
  | 's' => .one (.blank false)
  | 'S' => .one (.blank true)
  | 'b' => .place .wordEdge
  | 'B' => .place .noWordEdge
  | '<' => .place .wordStart
  | '>' => .place .wordEnd
  | '\x60' => .place .lineStart
  | '\x27' => .place .lineEnd
  | c => if '1' ≤ c ∧ c ≤ '9' then .again (c.toNat - 48) else .one (.single c)

/-- The bounds of a repetition, from behind its opening brace up to the mark that closes it. -/
def repetitionBounds (close text : List Char) : Option (Nat × Option Nat × List Char) :=
  let (least, rest) := leadingNumber text
  match rest with
  | ',' :: rest =>
    let (most, behind) := leadingNumber rest
    let most := if behind.length = rest.length then none else some most
    if close.isPrefixOf behind then some (least, most, behind.drop close.length) else none
  | rest =>
    if rest.length < text.length && close.isPrefixOf rest then
      some (least, some least, rest.drop close.length)
    else none

/-- Whether an expression may end in front of a text. -/
def endsExpression (extended : Bool) (text : List Char) : Bool :=
  match text with
  | [] => true
  | '\\' :: c :: _ => !extended && (c = ')' || c = '|')
  | c :: _ => extended && (c = ')' || c = '|')

/-- The parts of the text of an expression. `opened` groups were opened so far, and `start` says that an
expression begins here; `fuel` bounds the text. -/
def regexTokens (extended : Bool) : Nat → Nat → Bool → List Char → Except String (List RegexToken)
  | 0, _, _, _ => .ok []
  | _ + 1, _, _, [] => .ok []
  | fuel + 1, opened, start, c :: rest =>
    let sign (c : Char) (rest : List Char) : Except String (List RegexToken) :=
      match c with
      | '(' => do .ok (.opening (opened + 1) :: (← regexTokens extended fuel (opened + 1) true rest))
      | ')' => do .ok (.closing :: (← regexTokens extended fuel opened false rest))
      | '|' => do .ok (.bar :: (← regexTokens extended fuel opened true rest))
      | '+' => do .ok (.repeated 1 none :: (← regexTokens extended fuel opened false rest))
      | '?' => do .ok (.repeated 0 (some 1) :: (← regexTokens extended fuel opened false rest))
      | _ =>
        match repetitionBounds (if extended then ['\x7d'] else ['\\', '\x7d']) rest with
        | some (least, most, rest) => do
          .ok (.repeated least most :: (← regexTokens extended fuel opened false rest))
        | none =>
          if extended then do
            .ok (.tree (.one (.single c)) :: (← regexTokens extended fuel opened false rest))
          else if rest.all fun c => c.isDigit || c = ',' then .error "Unmatched \\\x7b"
          else .error "Invalid content of \\\x7b\\\x7d"
    let single (r : RegexTree) (rest : List Char) : Except String (List RegexToken) := do
      .ok (.tree r :: (← regexTokens extended fuel opened false rest))
    let isSign (c : Char) : Bool := "()|+?\x7b".toList.contains c
    if c = '\\' then
      match rest with
      | [] => .error "Trailing backslash"
      | d :: rest =>
        if isSign d && !extended && !(start && (d = '+' || d = '?')) then sign d rest
        else single (escapedTree d) rest
    else if isSign c && extended && !(start && (c = '+' || c = '?' || c = '\x7b')) then sign c rest
    else if c = '*' ∧ !start then do
      .ok (.repeated 0 none :: (← regexTokens extended fuel opened false rest))
    else if c = '.' then single (.one ⟨true, []⟩) rest
    else if c = '[' then
      match CharSet.ofText? ['^'] rest with
      | some (s, rest) => single (.one s) rest
      | none => .error "Unmatched [, [^, [:, [., or [="
    else if c = '^' ∧ (start ∨ extended) then do
      .ok (.tree (.place .lineStart) :: (← regexTokens extended fuel opened true rest))
    else if c = '$' ∧ (endsExpression extended rest ∨ extended) then single (.place .lineEnd) rest
    else single (.one (.single c)) rest

/-- Repeats an expression as the parts behind it say. -/
def repeatedBy (r : RegexTree) : List RegexToken → RegexTree × List RegexToken
  | .repeated least most :: rest => repeatedBy (.repeated r least most) rest
  | rest => (r, rest)

mutual

/-- Reads alternatives. -/
def readAlternatives : Nat → List RegexToken → Except String (RegexTree × List RegexToken)
  | 0, _ => .error "Regular expression too big"
  | fuel + 1, tokens => do
    let (a, rest) ← readSequence fuel tokens
    match rest with
    | .bar :: rest =>
      let (b, rest) ← readAlternatives fuel rest
      .ok (.either a b, rest)
    | rest => .ok (a, rest)

/-- Reads expressions that follow each other. -/
def readSequence : Nat → List RegexToken → Except String (RegexTree × List RegexToken)
  | 0, _ => .error "Regular expression too big"
  | fuel + 1, tokens =>
    match tokens with
    | [] => .ok (.empty, [])
    | .bar :: _ => .ok (.empty, tokens)
    | .closing :: _ => .ok (.empty, tokens)
    | .repeated _ _ :: _ => .error "Invalid preceding regular expression"
    | .tree r :: rest => do
      let (a, rest) := repeatedBy r rest
      let (b, rest) ← readSequence fuel rest
      .ok (.both a b, rest)
    | .opening n :: rest => do
      let (r, rest) ← readAlternatives fuel rest
      match rest with
      | .closing :: rest =>
        let (a, rest) := repeatedBy (.group n r) rest
        let (b, rest) ← readSequence fuel rest
        .ok (.both a b, rest)
      | _ => .error "Unmatched ( or \\("

end

/-- The number of groups that an expression opens. -/
def groupCount (tokens : List RegexToken) : Nat :=
  (tokens.filter fun t => match t with
    | .opening _ => true
    | _ => false).length

/-- Whether an expression refers to a group that it does not have. -/
def refersBeyond (count : Nat) (tokens : List RegexToken) : Bool :=
  tokens.any fun t => match t with
    | .tree (.again n) => count < n
    | _ => false

/-- A regular expression from its text, or what is wrong with that. -/
def Regex.ofText (extended folded : Bool) (text : List Char) : Except String Regex := do
  let tokens ← regexTokens extended (text.length + 1) 0 true text
  if refersBeyond (groupCount tokens) tokens then .error "Invalid back reference"
  let (tree, rest) ← readAlternatives (2 * tokens.length + 2) tokens
  if rest.isEmpty then .ok ⟨tree, folded⟩ else .error "Unmatched ) or \\)"

/-- The regular expression that only a text itself matches. -/
def Regex.literal (folded : Bool) (text : List Char) : Regex :=
  ⟨text.foldr (fun c r => .both (.one (.single c)) r) .empty, folded⟩

/-! ## Matching -/

/-- How far a match has come: the character before the place, the text behind it and its length, and
what groups hold. -/
structure Matching where
  before : Option Char
  rest : List Char
  length : Nat
  groups : List (Nat × List Char) := []

/-- Whether a set has a character, or in a folded expression its other form. -/
def CharSet.admits (s : CharSet) (folded : Bool) (c : Char) : Bool :=
  if folded then
    (s.ranges.any fun (a, b) =>
      [c, c.toLower, c.toUpper].any fun c => a ≤ c && c ≤ b) != s.negated
  else s.contains c

/-- Whether words consist of a character. -/
def isWordChar (c : Char) : Bool := c.isAlphanum || c = '_'

/-- Whether a match stands at a place. -/
def Matching.isAt (m : Matching) : RegexPlace → Bool
  | .lineStart => m.before.isNone
  | .lineEnd => m.rest.isEmpty
  | .wordStart => !m.before.any isWordChar && m.rest.head?.any isWordChar
  | .wordEnd => m.before.any isWordChar && !m.rest.head?.any isWordChar
  | .wordEdge => m.before.any isWordChar != m.rest.head?.any isWordChar
  | .noWordEdge => m.before.any isWordChar == m.rest.head?.any isWordChar

/-- The places that up to `most` characters of a set lead to, the last one first. -/
def runs (s : CharSet) (folded : Bool) : Option Nat → Matching → List Char → List Matching →
    List Matching
  | some 0, m, _, found => m :: found
  | _, m, [], found => m :: found
  | most, m, c :: rest, found =>
    if s.admits folded c then
      runs s folded (most.map (· - 1)) { m with before := some c, rest, length := m.length - 1 } rest
        (m :: found)
    else m :: found

/-- The better of two matches: the first one, unless the longer one counts. -/
def better (longest : Bool) (a : Option Matching) (b : Unit → Option Matching) : Option Matching :=
  match a with
  | none => b ()
  | some m =>
    if longest && m.length ≠ 0 then
      match b () with
      | some n => if n.length < m.length then some n else some m
      | none => some m
    else some m

/-- The best of some matches. -/
def bestOf (longest : Bool) (k : Matching → Option Matching) : List Matching → Option Matching
  | [] => none
  | m :: ms => better longest (k m) fun () => bestOf longest k ms

/-- The text behind a front, if a text has it. -/
def behindFront? (folded : Bool) : List Char → List Char → Option (List Char)
  | [], text => some text
  | _ :: _, [] => none
  | a :: front, c :: rest =>
    if a = c ∨ folded ∧ a.toLower = c.toLower then behindFront? folded front rest else none

/-- Matches an expression from a place on and goes on as `k` says. `fuel` bounds the nodes and the
repetitions. -/
def RegexTree.match? (longest folded : Bool) : Nat → RegexTree → Matching →
    (Matching → Option Matching) → Option Matching
  | 0, _, _, _ => none
  | fuel + 1, r, m, k =>
    match r with
    | .empty => k m
    | .one s =>
      match m.rest with
      | c :: rest =>
        if s.admits folded c then k { m with before := some c, rest, length := m.length - 1 } else none
      | [] => none
    | .both a b =>
      a.match? longest folded fuel m fun m => b.match? longest folded fuel m k
    | .either a b =>
      better longest (a.match? longest folded fuel m k) fun () => b.match? longest folded fuel m k
    | .group n r =>
      r.match? longest folded fuel m fun after =>
        k { after with groups := (n, m.rest.take (m.length - after.length)) :: after.groups }
    | .again n =>
      match m.groups.lookup n with
      | none => none
      | some held =>
        (behindFront? folded held m.rest).bind fun rest =>
          k { m with before := held.getLast? <|> m.before, rest, length := m.length - held.length }
    | .place p => if m.isAt p then k m else none
    | .repeated (.one s) least most =>
      bestOf longest k ((runs s folded most m m.rest []).filter fun after =>
        least ≤ m.length - after.length)
    | .repeated r least most =>
      if most = some 0 then k m
      else
        let again (m : Matching) : Option Matching :=
          (RegexTree.repeated r (least - 1) (most.map (· - 1))).match? longest folded fuel m k
        if 0 < least then r.match? longest folded fuel m again
        else
          better longest
            (r.match? longest folded fuel m fun after =>
              if after.length = m.length then none else again after)
            fun () => k m

/-- A match that was found in a text: what stands before it, the match itself, what its groups hold, and
what stands behind it. -/
structure Found where
  front : List Char
  whole : List Char
  groups : List (Nat × List Char)
  rest : List Char

/-- What a group of a match holds. The whole match is the group with the number zero. -/
def Found.group (f : Found) (n : Nat) : List Char :=
  if n = 0 then f.whole else (f.groups.lookup n).getD []

/-- The first match in a text behind a character. -/
def Regex.find? (r : Regex) (before : Option Char) (text : List Char) : Option Found :=
  let longest := r.tree.branches
  let size := r.tree.size
  let rec search (front : List Char) (before : Option Char) (length : Nat) :
      List Char → Option Found
    | [] =>
      (r.tree.match? longest r.folded ((size + 2) * (length + 2)) ⟨before, [], length, []⟩ some).map
        fun after => ⟨front.reverse, [], after.groups, after.rest⟩
    | c :: rest =>
      let text := c :: rest
      match r.tree.match? longest r.folded ((size + 2) * (length + 2)) ⟨before, text, length, []⟩
        some with
      | some after => some ⟨front.reverse, text.take (length - after.length), after.groups, after.rest⟩
      | none => search (c :: front) (some c) (length - 1) rest
  search [] before text.length text

/-- Whether a text has a match. -/
def Regex.occursIn (r : Regex) (text : List Char) : Bool := (r.find? none text).isSome

end ExtensionHost.Shell
