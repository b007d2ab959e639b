import ExtensionHost.Rehearsal.Shell.Script

/-!
# Grammar of scripts

`Command.nextLine` reads the commands of a script line by line. A line that is wrong gives the first thing
in it that is.
-/

namespace ExtensionHost.Shell

/-- What is left of a script's text, and the number of the line that it begins in. -/
structure Source where
  text : Bytes
  line : Nat := 1

/-- What is wrong with a script, and the line it is in. -/
structure Fault where
  line : Nat
  message : String
  deriving Repr

/-- Reads from the front of a script's text. -/
abbrev Reading := StateT Source (Except Fault)

namespace Reading

/-! ## Tokens -/

/-- Refuses the script. -/
def refuse {α : Type} (message : String) : Reading α := do
  throw ⟨(← get).line, message⟩

/-- What is left of the text. -/
def rest : Reading Bytes := do return (← get).text

/-- Goes on behind a part of the text. -/
def moveTo (rest : Bytes) : Reading Unit :=
  modify fun s =>
    let taken := s.text.take (s.text.length - rest.length)
    ⟨rest, s.line + taken.count '\n'⟩

/-- The text behind blanks and comments. -/
def afterBlanks : Bytes → Bytes
  | [] => []
  | c :: rest =>
    if c = ' ' ∨ c = '\t' then afterBlanks rest
    else if c = '#' then rest.dropWhile (· ≠ '\n')
    else if c = backslash then
      match rest with
      | '\n' :: rest => afterBlanks rest
      | rest => c :: rest
    else c :: rest

/-- Passes over blanks and comments. -/
def blanks : Reading Unit := do moveTo (afterBlanks (← rest))

/-- Passes over blanks, comments and ends of lines; `fuel` bounds their number. -/
def lines : Nat → Reading Unit
  | 0 => pure ()
  | fuel + 1 => do
    blanks
    match ← rest with
    | '\n' :: rest =>
      moveTo rest
      lines fuel
    | _ => pure ()

/-- Passes over blanks, comments and ends of lines. -/
def allLines : Reading Unit := do lines ((← rest).length + 1)

/-- Whether the text goes on with these characters; if so, passes over them. -/
def accept (cs : List Char) : Reading Bool := do
  let text ← rest
  if cs.isPrefixOf text then
    moveTo (text.drop cs.length)
    pure true
  else pure false

/-- The plain word that the text goes on with. -/
def nextWord : Reading (List Char) := do
  return (← rest).takeWhile fun c => !endsWord c

/-- The words of the language. -/
def ownWords : List (List Char) :=
  ["then", "do", "done", "fi", "else", "elif", "esac", "\x7d", "if", "while", "until", "for", "case",
    "in", "\x7b", "!"].map String.toList

/-- The signs of the language besides those of redirections, longer ones first. -/
def signs : List (List Char) :=
  [";;", "&&", "||", ";", "&", "|", "(", ")"].map String.toList

/-- What the text goes on with, as it is shown. -/
def shownNext : Reading String := do
  let text ← rest
  let shown (cs : List Char) : String := "\"" ++ String.ofList cs ++ "\""
  match text with
  | [] => return "end of file"
  | '\n' :: _ => return "newline"
  | text =>
    match signs.find? (·.isPrefixOf text), text.dropWhile Char.isDigit with
    | some sign, _ => return shown sign
    | none, '<' :: _ => return "redirection"
    | none, '>' :: _ => return "redirection"
    | none, _ =>
      let w ← nextWord
      return if ownWords.contains w then shown w else "word"

/-- Refuses what the text goes on with. -/
def unexpected {α : Type} : Reading α := do
  refuse ("Syntax error: " ++ (← shownNext) ++ " unexpected")

/-- Refuses what the text goes on with in place of something else. -/
def unexpectedFor {α : Type} (expected : String) : Reading α := do
  let expected := if expected = "word" then expected else "\"" ++ expected ++ "\""
  refuse ("Syntax error: " ++ (← shownNext) ++ " unexpected (expecting " ++ expected ++ ")")

/-- Expects a sign. -/
def expect (sign : String) : Reading Unit := do
  if !(← accept sign.toList) then unexpectedFor sign

/-- Whether the text goes on with a word of the language; if so, passes over it. -/
def acceptWord (w : String) : Reading Bool := do
  if (← nextWord) = w.toList then
    moveTo ((← rest).drop w.length)
    pure true
  else pure false

/-- Expects a word of the language, after ends of lines. -/
def expectWord (w : String) : Reading Unit := do
  allLines
  if !(← acceptWord w) then unexpectedFor w

/-- The words that end a list of commands. -/
def closingWords : List (List Char) :=
  ["then", "do", "done", "fi", "else", "elif", "esac", "\x7d"].map String.toList

/-- Whether a list of commands ends here. -/
def atEnd : Reading Bool := do
  match ← rest with
  | [] => pure true
  | ')' :: _ => pure true
  | ';' :: ';' :: _ => pure true
  | _ => pure (closingWords.contains (← nextWord))

/-- A word. -/
def word : Reading Word := do
  let text ← rest
  match readPieces false (text.length + 1) text with
  | .ok (w, rest) =>
    if rest.length = text.length then unexpected
    moveTo rest
    pure w
  | .error fault =>
    moveTo []
    refuse ("Syntax error: " ++ fault)

/-- The way of a redirection and the text behind it. -/
def way? : Bytes → Option (Way × Nat × Bytes)
  | '>' :: '>' :: rest => some (.append, 1, rest)
  | '>' :: '&' :: rest => some (.same, 1, rest)
  | '>' :: '|' :: rest => some (.into, 1, rest)
  | '>' :: rest => some (.into, 1, rest)
  | '<' :: '&' :: rest => some (.same, 0, rest)
  | '<' :: '<' :: rest => some (.here, 0, rest)
  | '<' :: rest => some (.outOf, 0, rest)
  | _ => none

/-- The lines of a text up to one that is equal to a mark, and the text behind that one. Tabs at the
beginning of lines may be left out. Without such a line all lines are taken; `fuel` bounds them. -/
def linesUntil (mark : Bytes) (withoutTabs : Bool) : Nat → Bytes → Bytes × Bytes
  | 0, text => ([], text)
  | _ + 1, [] => ([], [])
  | fuel + 1, text =>
    let line := text.takeWhile (· ≠ '\n')
    let behind := text.drop (line.length + 1)
    let line := if withoutTabs then line.dropWhile (· = '\t') else line
    if line = mark then ([], behind)
    else if !text.contains '\n' then (line, [])
    else
      let (lines, behind) := linesUntil mark withoutTabs fuel behind
      (line ++ '\n' :: lines, behind)

/-- The text of a redirection out of the script: the lines behind this one up to a mark. They are taken
out of the script. In a text whose mark is quoted nothing is replaced. -/
def hereText : Reading Word := do
  let withoutTabs ← accept ['-']
  blanks
  let marked ← nextWord
  if marked.isEmpty then unexpected
  moveTo ((← rest).drop marked.length)
  let isQuote (c : Char) : Bool := [apostrophe, quotationMark, backslash].contains c
  let text ← rest
  let line := text.takeWhile (· ≠ '\n')
  let below := text.drop (line.length + 1)
  let (lines, behind) :=
    linesUntil (marked.filter fun c => !isQuote c) withoutTabs (below.length + 1) below
  modify fun s => { s with text := line ++ '\n' :: behind }
  pure (if marked.any isQuote then [.text lines true] else linesWordOf lines)

/-- A redirection, if the text goes on with one. -/
def redirection? : Reading (Option Redirection) := do
  let text ← rest
  let digits := text.takeWhile Char.isDigit
  match way? (text.drop digits.length) with
  | none => pure none
  | some (way, stream, rest) =>
    let number := digits.foldl (fun n c => n * 10 + (c.toNat - 48)) 0
    moveTo rest
    let target ← if way = .here then hereText else
      blanks
      word
    pure (some ⟨if digits.isEmpty then stream else number, way, target⟩)

/-- Redirections; `fuel` bounds their number. -/
def redirections : Nat → Reading (List Redirection)
  | 0 => pure []
  | fuel + 1 => do
    blanks
    match ← redirection? with
    | none => pure []
    | some r => return r :: (← redirections fuel)

/-- The name that a text assigns to, and the text behind the equals sign. -/
def assignment? (text : Bytes) : Option (String × Bytes) :=
  match text with
  | c :: _ =>
    if isNameStart c then
      let name := text.takeWhile isNameChar
      match text.drop name.length with
      | '=' :: rest => some (String.ofList name, rest)
      | _ => none
    else none
  | [] => none

/-! ## Simple commands -/

/-- The parts of a simple command. -/
structure Parts where
  assignments : List (String × Word) := []
  words : List Word := []
  redirections : List Redirection := []

/-- The value of an assignment: a word that may be empty. -/
def assigned : Reading Word := do
  let text ← rest
  match text with
  | [] => pure []
  | c :: _ => if endsWord c then pure [] else word

/-- The parts of a simple command; `fuel` bounds their number. -/
def parts : Nat → Parts → Reading Parts
  | 0, p => pure p
  | fuel + 1, p => do
    blanks
    match ← redirection? with
    | some r => parts fuel { p with redirections := p.redirections ++ [r] }
    | none =>
      let text ← rest
      match text with
      | [] => pure p
      | c :: _ =>
        if endsWord c then pure p
        else
          match p.words, assignment? text with
          | [], some (name, rest) =>
            moveTo rest
            let w ← assigned
            parts fuel { p with assignments := p.assignments ++ [(name, w)] }
          | _, _ =>
            let w ← word
            parts fuel { p with words := p.words ++ [w] }

/-- The commands of the shell's own whose names no functions may have. -/
def specialNames : List String :=
  ["break", ":", "continue", ".", "eval", "exec", "exit", "export", "local", "readonly", "return",
    "set", "shift", "times", "trap", "unset"]

/-- The plain text of a word, if it has nothing else. -/
def plainText? (w : Word) : Option Bytes :=
  (w.mapM fun p => match p with
    | Piece.text cs false => some cs
    | _ => none).map List.flatten

/-- The name of a function from the word before its brackets. -/
def functionName (w : Word) : Reading String := do
  let wrong {α : Type} : Reading α := refuse "Syntax error: Bad function name"
  match plainText? w with
  | none => wrong
  | some name =>
    if !name.head?.any isNameStart || !name.all isNameChar then wrong
    if specialNames.contains (String.ofList name) then wrong
    return String.ofList name

/-- The parts of a simple command, or a word with brackets behind it, which begins a function. -/
def simple : Reading (Command ⊕ Word) := do
  let line := (← get).line
  if ownWords.contains (← nextWord) then unexpected
  let p ← parts ((← rest).length + 1) {}
  match p.assignments, p.words, p.redirections with
  | [], [], [] => unexpected
  | [], [w], [] =>
    if ← accept ['('] then
      blanks
      if !(← nextWord).isEmpty then refuse "Syntax error: word unexpected (expecting \")\")"
      expect ")"
      return .inr w
    else return .inl (.simple line [] [w] [])
  | assignments, words, redirections => return .inl (.simple line assignments words redirections)

/-- Words up to the end of a list of them; `fuel` bounds their number. -/
def wordList : Nat → Reading (List Word)
  | 0 => pure []
  | fuel + 1 => do
    blanks
    match ← rest with
    | [] => pure []
    | c :: _ => if endsWord c then pure [] else return (← word) :: (← wordList fuel)

/-- Patterns with bars between them up to a bracket; `fuel` bounds their number. -/
def patterns : Nat → Reading (List Word)
  | 0 => unexpected
  | fuel + 1 => do
    blanks
    let text ← rest
    let w ← match signs.find? (·.isPrefixOf text) with
      | some sign =>
        moveTo (text.drop sign.length)
        pure []
      | none => if text.isEmpty then pure [] else word
    blanks
    if (← rest).head? = some '|' && (← rest).take 2 ≠ "||".toList then
      moveTo ((← rest).drop 1)
      return w :: (← patterns fuel)
    expect ")"
    pure [w]

/-! ## Commands -/

mutual

/-- A list of commands up to something that ends it. -/
def list : Nat → Bool → Reading (List Command)
  | 0, _ => unexpected
  | fuel + 1, mayBeEmpty => do
    allLines
    if (← rest).isEmpty || mayBeEmpty && (← atEnd) then return []
    let c ← chain fuel
    blanks
    match ← rest with
    | ';' :: ';' :: _ => pure [c]
    | ';' :: rest =>
      moveTo rest
      return c :: (← list fuel true)
    | '&' :: rest =>
      moveTo rest
      return .background c :: (← list fuel true)
    | '\n' :: _ => return c :: (← list fuel true)
    | _ => pure [c]

/-- Pipelines, each of which runs as the one before it ended. -/
def chain : Nat → Reading Command
  | 0 => unexpected
  | fuel + 1 => do chainFrom fuel (← pipeline fuel)

/-- The rest of a chain. -/
def chainFrom : Nat → Command → Reading Command
  | 0, _ => unexpected
  | fuel + 1, c => do
    blanks
    if ← accept ['&', '&'] then
      allLines
      let next ← pipeline fuel
      chainFrom fuel (.both c next)
    else if ← accept ['|', '|'] then
      allLines
      let next ← pipeline fuel
      chainFrom fuel (.either c next)
    else pure c

/-- Commands each of which reads what the one before it writes. -/
def pipeline : Nat → Reading Command
  | 0 => unexpected
  | fuel + 1 => do
    blanks
    let negated ← acceptWord "!"
    let stages ← stages fuel
    match negated, stages with
    | false, [c] => pure c
    | negated, stages => pure (.pipeline negated stages)

/-- The commands of a pipeline. -/
def stages : Nat → Reading (List Command)
  | 0 => unexpected
  | fuel + 1 => do
    blanks
    let c ← command fuel
    blanks
    match ← rest with
    | '|' :: '|' :: _ => pure [c]
    | '|' :: rest =>
      moveTo rest
      allLines
      return c :: (← stages fuel)
    | _ => pure [c]

/-- A command with the redirections behind it. -/
def command : Nat → Reading Command
  | 0 => unexpected
  | fuel + 1 => do
    match ← compound? fuel with
    | some c =>
      match ← redirections ((← rest).length + 1) with
      | [] => pure c
      | rs => pure (.redirected c rs)
    | none =>
      match ← simple with
      | .inl c => pure c
      | .inr w =>
        let name ← functionName w
        allLines
        let body ← command fuel
        pure (.define name body)

/-- A compound command, if there is one. -/
def compound? : Nat → Reading (Option Command)
  | 0 => unexpected
  | fuel + 1 => do
    if ← accept ['('] then
      let cs ← list fuel false
      allLines
      expect ")"
      pure (some (.subshell (.sequence cs)))
    else if ← acceptWord "\x7b" then
      let cs ← list fuel false
      expectWord "\x7d"
      pure (some (.sequence cs))
    else if ← acceptWord "if" then return some (← choice fuel)
    else if ← acceptWord "while" then return some (← loop fuel false)
    else if ← acceptWord "until" then return some (← loop fuel true)
    else if ← acceptWord "for" then return some (← each fuel)
    else if ← acceptWord "case" then
      blanks
      if (← shownNext) ≠ "word" && (← nextWord).isEmpty then unexpectedFor "word"
      let w ← word
      expectWord "in"
      let cases ← cases fuel
      pure (some (.select w cases))
    else pure none

/-- What follows the word that begins a choice. -/
def choice : Nat → Reading Command
  | 0 => unexpected
  | fuel + 1 => do
    let condition ← list fuel false
    expectWord "then"
    let yes ← list fuel false
    allLines
    if ← acceptWord "elif" then return .choice (.sequence condition) (.sequence yes) (← choice fuel)
    let no ← if ← acceptWord "else" then list fuel false else pure []
    expectWord "fi"
    pure (.choice (.sequence condition) (.sequence yes) (.sequence no))

/-- What follows the word that begins a loop. -/
def loop : Nat → Bool → Reading Command
  | 0, _ => unexpected
  | fuel + 1, untilTrue => do
    let condition ← list fuel false
    expectWord "do"
    let body ← list fuel false
    expectWord "done"
    pure (.loop untilTrue (.sequence condition) (.sequence body))

/-- What follows the word that begins a loop over words. -/
def each : Nat → Reading Command
  | 0 => unexpected
  | fuel + 1 => do
    blanks
    let name ← nextWord
    if !name.head?.any isNameStart || !name.all isNameChar then
      refuse "Syntax error: Bad for loop variable"
    moveTo ((← rest).drop name.length)
    allLines
    let words ← if ← acceptWord "in" then
        let words ← wordList ((← rest).length + 1)
        let behind := (← rest).head?
        if behind ≠ some ';' ∧ behind ≠ some '\n' then unexpected
        pure (some words)
      else pure none
    blanks
    let _ ← accept [';']
    expectWord "do"
    let body ← list fuel false
    expectWord "done"
    pure (.each (String.ofList name) words (.sequence body))

/-- The cases of a selection, up to the word that ends it. -/
def cases : Nat → Reading (List (List Word × Command))
  | 0 => unexpected
  | fuel + 1 => do
    allLines
    if ← acceptWord "esac" then pure []
    else
      let _ ← accept ['(']
      let ps ← patterns ((← rest).length + 1)
      let body ← list fuel true
      allLines
      if !(← accept [';', ';']) then
        if (← nextWord) ≠ "esac".toList then unexpectedFor ";;"
      return (ps, .sequence body) :: (← cases fuel)

end

/-- The commands up to the end of a line. -/
def line : Nat → Reading (List Command)
  | 0 => unexpected
  | fuel + 1 => do
    let c ← chain fuel
    blanks
    match ← rest with
    | [] => pure [c]
    | '\n' :: rest =>
      moveTo rest
      pure [c]
    | ';' :: ';' :: _ => unexpected
    | ';' :: rest =>
      moveTo rest
      afterSeparator fuel c
    | '&' :: rest =>
      moveTo rest
      afterSeparator fuel (.background c)
    | _ => unexpected
where
  /-- The commands behind a sign that ends one. -/
  afterSeparator (fuel : Nat) (c : Command) : Reading (List Command) := do
    blanks
    match ← rest with
    | [] => pure [c]
    | '\n' :: rest =>
      moveTo rest
      pure [c]
    | _ => return c :: (← line fuel)

end Reading

/-- The commands of the first line of a script that has any, and what is left of the script. -/
def Command.nextLine (source : Source) : Except Fault (Option (Command × Source)) :=
  let next : Reading (Option Command) := do
    Reading.allLines
    if (← Reading.rest).isEmpty then return none
    return some (.sequence (← Reading.line (8 * source.text.length + 8)))
  (next.run source).map fun (c, source) => c.map fun c => (c, source)

end ExtensionHost.Shell
