/-!
# Scripts

The commands of a shell script, read from its text. A text is a list of characters each of which stands
for the byte with its number. What stands inside a substitution is kept as it is written and read when
the word is expanded.
-/

namespace ExtensionHost.Shell

/-- Bytes, each as the character with its number. -/
abbrev Bytes := List Char

/-! ## Words -/

/-- What is made of the value of a variable. A colon lets an empty value count as none. -/
inductive Use where
  | value
  | length
  | orElse (colon : Bool) (word : Bytes)
  | assign (colon : Bool) (word : Bytes)
  | ifSet (colon : Bool) (word : Bytes)
  | orFail (colon : Bool) (word : Bytes)
  | withoutFront (longest : Bool) (pattern : Bytes)
  | withoutBack (longest : Bool) (pattern : Bytes)
  | unknown
  deriving Repr

/-- A part of a word. -/
inductive Piece where
  | text (cs : Bytes) (quoted : Bool)
  | variable (name : Bytes) (use : Use) (quoted : Bool)
  | output (script : Bytes) (quoted : Bool)
  | sum (expression : Bytes) (quoted : Bool)
  deriving Repr

/-- A word. -/
abbrev Word := List Piece

/-! ## Commands -/

/-- Where a redirection leads: out of a file or of a text in the script, into a file or behind what it
holds, or where another stream leads. -/
inductive Way where
  | outOf
  | here
  | into
  | append
  | same
  deriving Repr, DecidableEq

/-- A redirection of a stream to a file or to another stream. -/
structure Redirection where
  stream : Nat
  way : Way
  target : Word
  deriving Repr

/-- A command. -/
inductive Command where
  | simple (line : Nat) (assignments : List (String × Word)) (words : List Word)
      (redirections : List Redirection)
  | pipeline (negated : Bool) (stages : List Command)
  | both (a b : Command)
  | either (a b : Command)
  | sequence (commands : List Command)
  | redirected (c : Command) (redirections : List Redirection)
  | subshell (c : Command)
  | background (c : Command)
  | loop (untilTrue : Bool) (condition body : Command)
  | choice (condition yes no : Command)
  | each (name : String) (words : Option (List Word)) (body : Command)
  | select (word : Word) (cases : List (List Word × Command))
  | define (name : String) (body : Command)

instance : Inhabited Command := ⟨.sequence []⟩

/-! ## Characters -/

/-- A single quote. -/
def apostrophe : Char := '\x27'

/-- A double quote. -/
def quotationMark : Char := '\x22'

/-- A backslash. -/
def backslash : Char := '\x5C'

/-- A back quote. -/
def backquote : Char := '\x60'

/-- Whether a character may begin the name of a variable. -/
def isNameStart (c : Char) : Bool := c.isAlpha || c = '_'

/-- Whether a character may stand in the name of a variable. -/
def isNameChar (c : Char) : Bool := c.isAlphanum || c = '_'

/-- Whether a character ends a word. -/
def endsWord (c : Char) : Bool := " \t\n;&|<>()".toList.contains c

/-- Whether a variable of one character has this one as its name. -/
def isSpecialName (c : Char) : Bool := "?#$!@*-0123456789".toList.contains c

/-! ## Finding ends -/

/-- What is wrong with quotes without an end. -/
def quoteFault : String := "Unterminated quoted string"

/-- What is wrong with a substitution between back quotes without an end. -/
def backquoteFault : String := "EOF in backquote substitution"

/-- What is wrong with a substitution in brackets without an end. -/
def bracketFault : String := "end of file unexpected (expecting \")\")"

/-- What is wrong with a variable in braces without an end. -/
def braceFault : String := "Missing '\x7d'"

/-- What is wrong with a sum without an end. -/
def sumFault : String := "Missing '))'"

/-- The text up to an unescaped character, and the text behind it; `fuel` bounds the text. -/
def untilMark (fault : String) (mark : Char) : Nat → Bytes → Except String (Bytes × Bytes)
  | 0, _ => .error fault
  | _ + 1, [] => .error fault
  | fuel + 1, c :: rest =>
    if c = mark then .ok ([], rest)
    else if c = backslash ∧ mark ≠ apostrophe then
      match rest with
      | [] => .error fault
      | d :: rest => (untilMark fault mark fuel rest).map fun (a, b) => (c :: d :: a, b)
    else (untilMark fault mark fuel rest).map fun (a, b) => (c :: a, b)

/-- The text up to the bracket that closes `depth + 1` open ones, and the text behind it. Quoted
brackets do not count. -/
def untilClosed (fault : String) (opening closing : Char) :
    Nat → Nat → Bytes → Except String (Bytes × Bytes)
  | 0, _, _ => .error fault
  | _ + 1, _, [] => .error fault
  | fuel + 1, depth, c :: rest =>
    if c = closing then
      match depth with
      | 0 => .ok ([], rest)
      | depth + 1 =>
        (untilClosed fault opening closing fuel depth rest).map fun (a, b) => (c :: a, b)
    else if c = opening then
      (untilClosed fault opening closing fuel (depth + 1) rest).map fun (a, b) => (c :: a, b)
    else if c = backslash then
      match rest with
      | [] => .error fault
      | d :: rest =>
        (untilClosed fault opening closing fuel depth rest).map fun (a, b) => (c :: d :: a, b)
    else if c = apostrophe ∨ c = quotationMark then do
      let (inner, rest) ← untilMark quoteFault c fuel rest
      (untilClosed fault opening closing fuel depth rest).map fun (a, b) =>
        (c :: inner ++ c :: a, b)
    else (untilClosed fault opening closing fuel depth rest).map fun (a, b) => (c :: a, b)

/-- The text of a sum up to the two brackets that end it, and the text behind them. -/
def untilSumEnd : Nat → Nat → Bytes → Except String (Bytes × Bytes)
  | 0, _, _ => .error sumFault
  | _ + 1, _, [] => .error sumFault
  | _ + 1, 0, ')' :: ')' :: rest => .ok ([], rest)
  | fuel + 1, depth, c :: rest =>
    let depth := if c = '(' then depth + 1 else if c = ')' then depth - 1 else depth
    (untilSumEnd fuel depth rest).map fun (a, b) => (c :: a, b)

/-! ## Reading words -/

/-- What is made of a variable, from the text behind its name within braces. -/
def Use.ofText : Bytes → Use
  | [] => .value
  | ':' :: '-' :: word => .orElse true word
  | '-' :: word => .orElse false word
  | ':' :: '=' :: word => .assign true word
  | '=' :: word => .assign false word
  | ':' :: '+' :: word => .ifSet true word
  | '+' :: word => .ifSet false word
  | ':' :: '?' :: word => .orFail true word
  | '?' :: word => .orFail false word
  | '#' :: '#' :: pattern => .withoutFront true pattern
  | '#' :: pattern => .withoutFront false pattern
  | '%' :: '%' :: pattern => .withoutBack true pattern
  | '%' :: pattern => .withoutBack false pattern
  | _ => .unknown

/-- The name at the front of a text, and the text behind it. -/
def variableName (text : Bytes) : Bytes × Bytes :=
  match text with
  | [] => ([], [])
  | c :: rest =>
    if isNameStart c then (text.takeWhile isNameChar, text.dropWhile isNameChar)
    else if c.isDigit then (text.takeWhile Char.isDigit, text.dropWhile Char.isDigit)
    else if isSpecialName c then ([c], rest)
    else ([], text)

/-- The variable of a text within braces. -/
def braced (text : Bytes) (quoted : Bool) : Piece :=
  match text with
  | '#' :: c :: rest =>
    match variableName (c :: rest) with
    | (c :: name, []) => .variable (c :: name) .length quoted
    | _ => .variable ['#'] (Use.ofText (c :: rest)) quoted
  | text =>
    match variableName text with
    | ([], _) => .variable [] .unknown quoted
    | (name, rest) => .variable name (Use.ofText rest) quoted

/-- The substitution behind a dollar sign, and the text behind it. A dollar sign that begins none
stands for itself. -/
def substitution (quoted : Bool) (text : Bytes) : Except String (Piece × Bytes) :=
  let fuel := text.length + 1
  match text with
  | '\x7b' :: rest => do
    let (inner, rest) ← untilClosed braceFault '\x7b' '\x7d' fuel 0 rest
    .ok (braced inner quoted, rest)
  | '(' :: '(' :: rest => do
    let (inner, rest) ← untilSumEnd fuel 0 rest
    .ok (.sum inner quoted, rest)
  | '(' :: rest => do
    let (inner, rest) ← untilClosed bracketFault '(' ')' fuel 0 rest
    .ok (.output inner quoted, rest)
  | c :: rest =>
    if isNameStart c then
      let (name, rest) := variableName (c :: rest)
      .ok (.variable name .value quoted, rest)
    else if isSpecialName c then .ok (.variable [c] .value quoted, rest)
    else .ok (.text ['$'] quoted, c :: rest)
  | [] => .ok (.text ['$'] quoted, [])

/-- The script between back quotes: a backslash before a dollar sign, a back quote or a backslash is
left out. -/
def backquoted : Bytes → Bytes
  | [] => []
  | [c] => [c]
  | c :: d :: rest =>
    if c = backslash ∧ (d = '$' ∨ d = backquote ∨ d = backslash) then d :: backquoted rest
    else c :: backquoted (d :: rest)

/-- The pieces within double quotes, from behind the first one. With `whole` the text ends them, and
double quotes are characters like others. -/
def quotedPieces (whole : Bool) : Nat → Bytes → Except String (Word × Bytes)
  | 0, _ => .error quoteFault
  | _ + 1, [] => if whole then .ok ([], []) else .error quoteFault
  | fuel + 1, c :: rest =>
    if !whole && c = quotationMark then .ok ([], rest)
    else if c = backslash then
      match rest with
      | [] => if whole then .ok ([.text [c] true], []) else .error quoteFault
      | d :: rest =>
        if d = '\n' then quotedPieces whole fuel rest
        else
          let kept :=
            if [backslash, backquote, '$'].contains d || !whole && d = quotationMark then [d]
            else [c, d]
          (quotedPieces whole fuel rest).map fun (w, rest) => (.text kept true :: w, rest)
    else if c = '$' then do
      let (piece, rest) ← substitution true rest
      (quotedPieces whole fuel rest).map fun (w, rest) => (piece :: w, rest)
    else if c = backquote then do
      let (inner, rest) ← untilMark backquoteFault backquote fuel rest
      (quotedPieces whole fuel rest).map fun (w, rest) =>
        (.output (backquoted inner) true :: w, rest)
    else (quotedPieces whole fuel rest).map fun (w, rest) => (.text [c] true :: w, rest)

/-- A word up to a character that ends it. With `whole` nothing ends it but the end of the text. -/
def readPieces (whole : Bool) : Nat → Bytes → Except String (Word × Bytes)
  | 0, _ => .error quoteFault
  | _ + 1, [] => .ok ([], [])
  | fuel + 1, c :: rest =>
    if !whole && endsWord c then .ok ([], c :: rest)
    else if c = apostrophe then do
      let (inner, rest) ← untilMark quoteFault apostrophe fuel rest
      (readPieces whole fuel rest).map fun (w, rest) => (.text inner true :: w, rest)
    else if c = quotationMark then do
      let (inner, rest) ← quotedPieces false fuel rest
      (readPieces whole fuel rest).map fun (w, rest) => (.text [] true :: inner ++ w, rest)
    else if c = backslash then
      match rest with
      | [] => .ok ([.text [c] false], [])
      | '\n' :: rest => readPieces whole fuel rest
      | d :: rest => (readPieces whole fuel rest).map fun (w, rest) => (.text [d] true :: w, rest)
    else if c = '$' then do
      let (piece, rest) ← substitution false rest
      (readPieces whole fuel rest).map fun (w, rest) => (piece :: w, rest)
    else if c = backquote then do
      let (inner, rest) ← untilMark backquoteFault backquote fuel rest
      (readPieces whole fuel rest).map fun (w, rest) => (.output (backquoted inner) false :: w, rest)
    else (readPieces whole fuel rest).map fun (w, rest) => (.text [c] false :: w, rest)

/-- The word that was read from a text, or else the text itself. -/
def wordOr (text : Bytes) : Except String (Word × Bytes) → Word
  | .ok (w, _) => w
  | .error _ => [.text text true]

/-- A text as one word. -/
def wordOf (text : Bytes) : Word := wordOr text (readPieces true (text.length + 1) text)

/-- The parts of a text that double quotes end, as one word; `fuel` bounds their number. -/
def quotedParts : Nat → Bytes → Word
  | 0, text => [.text text true]
  | fuel + 1, text =>
    match quotedPieces false (text.length + 1) text with
    | .ok (w, []) => w
    | .ok (w, rest) => w ++ quotedParts fuel rest
    | .error _ => [.text text true]

/-- A text within double quotes as a word. -/
def quotedWordOf (text : Bytes) : Word := quotedParts (text.length + 1) (text ++ [quotationMark])

/-- A text of several lines in a script as a word. -/
def linesWordOf (text : Bytes) : Word := wordOr text (quotedPieces true (text.length + 1) text)

end ExtensionHost.Shell
