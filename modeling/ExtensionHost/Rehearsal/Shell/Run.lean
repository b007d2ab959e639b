import ExtensionHost.Rehearsal.Shell.Arithmetic
import ExtensionHost.Rehearsal.Shell.Builtin
import ExtensionHost.Rehearsal.Shell.Grammar

/-!
# Running scripts

The shell runs the commands of a script on a machine. A pipeline runs its commands one after the other,
each on all that the one before it wrote. `fuel` bounds how deep the functions call each other; a script
that exceeds it counts as one that never ends.
-/

namespace ExtensionHost.Shell

/-! ## Variables that a command has for itself -/

/-- Runs an action with variables that only it has. -/
def withVariables (bindings : List (String × Bytes)) (a : Action Unit) : Action Unit := do
  if bindings.isEmpty then a
  else
    let before ← get
    for (name, v) in bindings do assign name v
    modify fun m => { m with exported := m.exported ++ bindings.map Prod.fst }
    let restore (m : Machine) : Machine :=
      { m.uncover (bindings.map fun (name, _) => (name, before.get? name)) with
        exported := before.exported }
    try a
    catch e =>
      modify restore
      throw e
    modify restore

/-! ## The shell -/

/-- The environment of a program: the exported variables. -/
def Machine.environment (m : Machine) : List (String × Bytes) :=
  m.assigned.filter fun (name, _) => m.exported.contains name

/-- Whether a script leaves the loop that it is in, and what it does then. -/
inductive LoopExit where
  | goOn
  | leave
  | outer (h : Halt)

/-- What a halt within a loop means for the loop. -/
def loopExit : Halt → LoopExit
  | .leftLoop 0 => .leave
  | .leftLoop 1 => .leave
  | .leftLoop n => .outer (.leftLoop (n - 1))
  | .nextRound 0 => .goOn
  | .nextRound 1 => .goOn
  | .nextRound n => .outer (.nextRound (n - 1))
  | h => .outer h

/-- Runs the body of a loop. Gives whether the loop goes on. -/
def runBody (a : Action Unit) : Action Bool := do
  let loops := (← get).loops
  let restore (m : Machine) : Machine := { m with loops }
  modify fun m => { m with loops := loops + 1 }
  try
    a
    modify restore
    pure true
  catch e =>
    modify restore
    match loopExit e with
    | .goOn => pure true
    | .leave => pure false
    | .outer h => throw h

/-! ## Starting programs -/

/-- Variables with the directories that programs are searched for in if nothing says which. -/
def withPath (environment : Keyed Bytes) : Keyed Bytes :=
  if (Keyed.find? "PATH" environment).isSome then environment
  else Keyed.insert "PATH" commonPath.toList environment

/-- Whether a program is a shell. -/
def isShell (program : String) : Bool := ["sh", "dash", "bash"].contains program

/-- Whether a shell may be started with an option. -/
def mayStartWith (letter : Char) : Bool :=
  letter = 'c' || letter = 'l' || letter ≠ ' ' && shellOptions.any (·.2 = letter)

/-- The letters of the options that a shell is started with, and the arguments behind them. -/
def startOptions (options : List Char) : List Bytes → Except String (List Char × List Bytes)
  | [] => .ok (options, [])
  | ['-', '-'] :: rest => .ok (options, rest)
  | ['-'] :: rest => .ok (options, rest)
  | [sign, 'o'] :: name :: rest =>
    match shellOptions.lookup (toText name) with
    | some letter => startOptions (turn (sign = '-') letter options) rest
    | none => .error ("Illegal option " ++ toText [sign, 'o'] ++ " " ++ toText name)
  | (sign :: letters) :: rest =>
    if sign = '-' ∨ sign = '+' then
      match letters.find? fun c => !mayStartWith c with
      | some c => .error ("Illegal option -" ++ toText [c])
      | none => startOptions (letters.foldl (fun o c => turn (sign = '-') c o) options) rest
    else .ok (options, (sign :: letters) :: rest)
  | rest => .ok (options, rest)

/-- Says why a shell does not start. -/
def refuseStart (name fault : String) : Action Unit := do
  complainOf name ("0: " ++ fault)
  setStatus 2

/-- What a program says when it writes to a closed stream. -/
def closedMessage (program : String) : String :=
  match program with
  | "cat" => "standard output: Bad file descriptor"
  | "sed" => "couldn't close stdout: Bad file descriptor"
  | _ => "write error: Bad file descriptor"

/-! ## Calls on the words of an input -/

/-- The words that a text is cut into by blanks. Quotes and backslashes keep blanks; `fuel` bounds the
text. -/
def wordsOf : Nat → Bytes → List Bytes
  | 0, _ => []
  | fuel + 1, text =>
    match text.dropWhile fun c => " \t\n".toList.contains c with
    | [] => []
    | text =>
      let (word, rest) := wordFrom fuel text
      word :: wordsOf fuel rest
where
  /-- The word that a text begins with, and the text behind it. -/
  wordFrom : Nat → Bytes → Bytes × Bytes
    | 0, text => ([], text)
    | _ + 1, [] => ([], [])
    | fuel + 1, c :: rest =>
      if " \t\n".toList.contains c then ([], rest)
      else if c = apostrophe ∨ c = quotationMark then
        let inner := rest.takeWhile (· ≠ c)
        let (word, behind) := wordFrom fuel (rest.drop (inner.length + 1))
        (inner ++ word, behind)
      else
        let (c, rest) := match c, rest with
          | '\\', d :: rest => (d, rest)
          | c, rest => (c, rest)
        let (word, behind) := wordFrom fuel rest
        (c :: word, behind)

/-- Words in groups of a number. -/
def inGroups (size : Nat) : Nat → List Bytes → List (List Bytes)
  | 0, _ => []
  | _ + 1, [] => []
  | fuel + 1, words => words.take size :: inGroups size fuel (words.drop size)

/-- A text with another one in place of a part that it may have; `fuel` bounds it. -/
def withPart (part other : Bytes) : Nat → Bytes → Bytes
  | 0, text => text
  | _ + 1, [] => []
  | fuel + 1, c :: rest =>
    if part.isPrefixOf (c :: rest) && !part.isEmpty then
      other ++ withPart part other fuel ((c :: rest).drop part.length)
    else c :: withPart part other fuel rest

/-- The calls of a program on the words of an input. -/
def callsOn (c : Call) (input : Bytes) : List (List Bytes) :=
  let operands := if c.operands.isEmpty then ["echo".toList] else c.operands
  let whole := match c.value? 'd' with
    | some d => some (match d with
      | ['\\', 'n'] => '\n'
      | ['\\', 't'] => '\t'
      | ['\\', '0'] => '\x00'
      | d => d.headD '\n')
    | none => if c.has '0' then some '\x00' else none
  match c.value? 'I' with
  | some mark =>
    let lines := (linesOf input).1.map fun line => line.dropWhile fun c => c = ' ' || c = '\t'
    (lines.filter fun line => !line.isEmpty).map fun line =>
      operands.map fun a => withPart mark line (a.length + 1) a
  | none =>
    let words := match whole with
      | some d => (if input.getLast? = some d then input.dropLast else input).splitOn d
      | none => wordsOf (input.length + 1) input
    let words := if whole.isSome && input.isEmpty then [] else words
    let groups := match c.value? 'L', (c.value? 'n').bind number? with
      | some _, _ => (linesOf input).1.map fun (line : Bytes) => wordsOf (line.length + 1) line
      | none, some n => inGroups (max n 1) (words.length + 1) words
      | none, none => [words]
    if words.isEmpty then (if c.has 'r' then [] else [operands])
    else groups.map (operands ++ ·)

mutual

/-- The parts of a word. -/
def parts : Nat → Word → Action (List Part)
  | 0, _ => throw .endless
  | _ + 1, [] => pure []
  | fuel + 1, piece :: rest => do
    let here ← match piece with
      | .text cs quoted => pure [Part.chars cs quoted false]
      | .output script quoted =>
        let ((), text) ← collecting (separately (runText fuel script))
        pure [.chars (withoutLastEnds text) quoted (!quoted)]
      | .sum expression quoted =>
        let text ← textOf fuel (linesWordOf expression)
        match ← sumValue text with
        | .ok v => pure [.chars (integerText v) quoted (!quoted)]
        | .error message => abandon message
      | .variable name use quoted => variableParts fuel name use quoted
    return here ++ (← parts fuel rest)

/-- The parts of a variable. -/
def variableParts : Nat → Bytes → Use → Bool → Action (List Part)
  | 0, _, _, _ => throw .endless
  | fuel + 1, name, use, quoted => do
    let m ← get
    let value := valueOf m name
    let text := value.getD []
    let has (colon : Bool) : Bool := value.isSome && !(colon && text.isEmpty)
    let plain (text : Bytes) : List Part := [.chars text quoted (!quoted)]
    let wordParts (word : Bytes) : Action (List Part) :=
      parts fuel (if quoted then quotedWordOf word else withHome m ['/'] (wordOf word))
    match use with
    | .unknown => abandon "Bad substitution"
    | .value =>
      if value.isNone && m.options.contains 'u' && name.all isNameChar then
        abandon (toText name ++ ": parameter not set")
      if name = ['@'] ∨ (name = ['*'] ∧ !quoted) then pure [.fields m.args quoted]
      else if name = ['*'] then
        pure (plain (((separatorsOf m).take 1).intercalate m.args))
      else pure (plain text)
    | .length => pure (plain (numberText text.length))
    | .orElse colon word => if has colon then pure (plain text) else wordParts word
    | .assign colon word =>
      if has colon then pure (plain text)
      else
        let text ← textOf fuel (withHomes m (wordOf word))
        assign (String.ofList name) text
        pure (plain text)
    | .ifSet colon word => if has colon then wordParts word else pure (plain [])
    | .orFail colon word =>
      if has colon then pure (plain text)
      else
        let message ← textOf fuel (wordOf word)
        let standard := if colon then "parameter not set or null" else "parameter not set"
        let message := if message.isEmpty then standard.toList else message
        abandon (toText (name ++ ": ".toList ++ message))
    | .withoutFront longest pattern =>
      let p ← patternOf fuel (wordOf pattern)
      pure (plain (withoutFront longest p text))
    | .withoutBack longest pattern =>
      let p ← patternOf fuel (wordOf pattern)
      pure (plain (withoutBack longest p text))

/-- The text of a word. -/
def textOf : Nat → Word → Action Bytes
  | 0, _ => throw .endless
  | fuel + 1, w => do return (← parts fuel w).flatMap Part.text

/-- The pattern of a word. -/
def patternOf : Nat → Word → Action (List Wildcard)
  | 0, _ => throw .endless
  | fuel + 1, w => do
    let marked := (← parts fuel w).flatMap Part.marked
    return wildcards (marked.length + 1) marked

/-- The fields of words. -/
def fieldsOf : Nat → List Word → Action (List Bytes)
  | 0, _ => throw .endless
  | _ + 1, [] => pure []
  | fuel + 1, w :: ws => do
    let m ← get
    let ps ← parts fuel (withHome m ['/'] (withoutNoArgs m w))
    let m ← get
    let fields := (ps.foldl (FieldList.add (separatorsOf m)) {}).close.complete
    let names (field : List (Char × Bool)) : List Bytes :=
      if m.options.contains 'f' then [field.map Prod.fst] else expandNames m field
    return fields.flatMap names ++ (← fieldsOf fuel ws)

/-- The values of assignments, each of which sees those before it. -/
def bindingsOf : Nat → List (String × Word) → Action (List (String × Bytes))
  | 0, _ => throw .endless
  | _ + 1, [] => pure []
  | fuel + 1, (name, w) :: rest => do
    let v ← textOf fuel (withHomes (← get) w)
    return (name, v) :: (← bindingsOf fuel rest)

/-- Redirects streams. Gives a failure. -/
def redirectAll : Nat → List Redirection → Action (Option String)
  | 0, _ => throw .endless
  | _ + 1, [] => pure none
  | fuel + 1, r :: rs => do
    let path ← textOf fuel (withHome (← get) ['/'] r.target)
    match ← redirectTo r.stream r.way path with
    | .error e => pure (some e)
    | .ok () => redirectAll fuel rs

/-- Runs an action with redirected streams. Where one cannot be redirected the status is that of a
failure. -/
def redirecting : Nat → List Redirection → Action Unit → Action Unit
  | 0, _, _ => throw .endless
  | fuel + 1, rs, a => do
    if rs.isEmpty then a
    else
      keepingStreams (rs.any fun r => r.stream = 0) do
        match ← redirectAll fuel rs with
        | some failure =>
          tell failure
          setStatus 2
        | none => a

/-- Runs the commands of a script line by line, so that what stands before a line that is wrong is
run. -/
def runFrom : Nat → Source → Action Unit
  | 0, _ => throw .endless
  | fuel + 1, source => do
    match Command.nextLine source with
    | .error fault =>
      modify fun m => { m with line := fault.line }
      abandon fault.message
    | .ok none => pure ()
    | .ok (some (c, source)) =>
      run fuel c
      runFrom fuel source

/-- Runs the text of a script. -/
def runText : Nat → Bytes → Action Unit
  | 0, _ => throw .endless
  | fuel + 1, text => runFrom fuel ⟨text, 1⟩

/-- Runs the text of a script as that of a shell, which does at its end what it was told to do then. -/
def runShell : Nat → Bytes → Action Unit
  | 0, _ => throw .endless
  | fuel + 1, text => do
    try runText fuel text
    catch
      | .exited status => setStatus status
      | .returned status => setStatus status
      | .fault => setStatus 2
      | h => throw h
    let m ← get
    match m.traps.lookup "EXIT" with
    | none => pure ()
    | some commands =>
      set { m with traps := [] }
      runText fuel commands
      setStatus m.status

/-- Runs an action that may be ended by a signal to the shell itself, and does what the shell was told
to do then. -/
def guarded : Nat → Action Unit → Action Unit
  | 0, _ => throw .endless
  | fuel + 1, a => do
    try a
    catch
      | .killed process signal =>
        let m ← get
        let name := (signalName? signal).getD ""
        match m.traps.lookup name with
        | some commands =>
          if process = m.process ∧ name ≠ "KILL" then
            setStatus 0
            runText fuel commands
          else throw (.killed process signal)
        | none => throw (.killed process signal)
      | h => throw h

/-- Runs commands one after the other. -/
def runAll : Nat → List Command → Action Unit
  | 0, _ => throw .endless
  | _ + 1, [] => pure ()
  | fuel + 1, c :: cs => do
    run fuel c
    runAll fuel cs

/-- Runs the commands of a pipeline. -/
def runStages : Nat → List Command → Action Unit
  | 0, _ => throw .endless
  | _ + 1, [] => pure ()
  | fuel + 1, [c] => separately (run fuel c)
  | fuel + 1, c :: cs => do
    let ((), text) ← collecting (separately (run fuel c))
    withInput text (runStages fuel cs)

/-- Runs a loop. The status is that of the last round. -/
def runLoop : Nat → Bool → Command → Command → Nat → Action Unit
  | 0, _, _, _, _ => throw .endless
  | fuel + 1, untilTrue, condition, body, last => do
    let more ← runBody (testing (run fuel condition))
    if more && ((← get).status = 0) != untilTrue then
      if ← runBody (run fuel body) then
        runLoop fuel untilTrue condition body (← get).status
      else setStatus 0
    else setStatus last

/-- Runs a loop over words. -/
def runEach : Nat → String → List Bytes → Command → Action Unit
  | 0, _, _, _ => throw .endless
  | _ + 1, _, [], _ => pure ()
  | fuel + 1, name, v :: vs, body => do
    assign name v
    if ← runBody (run fuel body) then runEach fuel name vs body else setStatus 0

/-- Whether a text matches one of some patterns. -/
def matchesAny : Nat → Bytes → List Word → Action Bool
  | 0, _, _ => throw .endless
  | _ + 1, _, [] => pure false
  | fuel + 1, text, w :: ws => do
    if matchesWhole (← patternOf fuel w) text then pure true else matchesAny fuel text ws

/-- Runs the first case that a text matches. -/
def runCases : Nat → Bytes → List (List Word × Command) → Action Unit
  | 0, _, _ => throw .endless
  | _ + 1, _, [] => setStatus 0
  | fuel + 1, text, (patterns, body) :: rest => do
    if ← matchesAny fuel text patterns then run fuel body else runCases fuel text rest

/-- Runs a function on arguments. -/
def runFunction : Nat → Command → List Bytes → Action Unit
  | 0, _, _ => throw .endless
  | fuel + 1, body, args => do
    let before ← get
    let restore (m : Machine) : Machine :=
      { m.uncover (m.hidden.getD []) with
        args := before.args, hidden := before.hidden, loops := before.loops }
    modify fun m => { m with args, hidden := some [], loops := 0 }
    try run fuel body
    catch
      | .returned status => setStatus status
      | h =>
        modify restore
        throw h
    modify restore

/-- Runs a script in a file within the shell that runs. -/
def runFile : Nat → Bytes → Action Nat
  | 0, _ => throw .endless
  | fuel + 1, path => do
    let m ← get
    let here := if path.contains '/' then some path else
      (Image.candidates (some m.searched) (toText path)).find? (m.files.isFile m.cwd) |>.map ofText
    match here with
    | none => abandon (toText path ++ ": not found")
    | some found =>
      match ← fileBytes found with
      | .error _ => abandon ("cannot open " ++ toText path ++ ": No such file")
      | .ok text =>
        let before ← get
        modify fun m => { m with running := toText found }
        try runText fuel text
        catch
          | .returned status => setStatus status
          | h => throw h
        modify fun m => { m with running := before.running, line := before.line }
        return (← get).status

/-- Runs a command by its fields. A special command `mayFail` if another one calls it. -/
def runFields : Nat → Bool → List Bytes → Action Unit
  | 0, _, _ => throw .endless
  | _ + 1, _, [] => setStatus 0
  | fuel + 1, mayFail, program :: args => do
    let name := toText program
    let m ← get
    let function := if mayFail then none else m.functions.lookup name
    match function with
    | some body => runFunction fuel body args
    | none =>
      match name, args with
      | "eval", args =>
        asOwn name mayFail do
          setStatus 0
          runText fuel (joined args)
          return (← get).status
      | "exec", program :: args =>
        asOwn name mayFail do
          let m ← get
          match m.image (toText program) with
          | .ok image =>
            modify fun m => { m with running := "" }
            runImage fuel image (toText program) args
          | .error e =>
            let what := if e = .notFound then "not found" else plainMessage e
            tell (toText program ++ ": " ++ what)
            setStatus (if e = .notFound then 127 else 126)
          throw (.exited (← get).status)
      | "command", args =>
        match args with
        | ['-', 'v'] :: program :: _ => asOwn name true (showCommand false (toText program))
        | ['-', 'V'] :: program :: _ => asOwn name true (showCommand true (toText program))
        | ['-', 'p'] :: args => runFields fuel true args
        | ['-', '-'] :: args => runFields fuel true args
        | ('-' :: c :: _) :: _ => asOwn name true (abandon ("Illegal option -" ++ toText [c]))
        | args => runFields fuel true args
      | ".", args =>
        match args with
        | [] => setStatus 0
        | path :: _ => asOwn name mayFail (runFile fuel path)
      | "kill", args => guarded fuel (asOwn name true (sendSignals args))
      | name, args =>
        if isOwn name then
          asOwn name (mayFail || !Reading.specialNames.contains name) (ownCommand name args)
        else runOutside fuel name args

/-- Runs a program of the system or a script. -/
def runOutside : Nat → String → List Bytes → Action Unit
  | 0, _, _ => throw .endless
  | fuel + 1, name, args => do
    let m ← get
    match m.image name with
    | .ok image => runImage fuel image name args
    | .error .notFound =>
      tell (name ++ ": not found")
      setStatus 127
    | .error e =>
      tell (name ++ ": " ++ plainMessage e)
      setStatus 126

/-- Runs a program on batches of arguments. -/
def runCalls : Nat → List (List Bytes) → Action Unit
  | 0, _ => throw .endless
  | _ + 1, [] => pure ()
  | _ + 1, [] :: _ => pure ()
  | fuel + 1, (program :: args) :: calls => do
    let before := (← get).status
    match (← get).image (toText program) with
    | .error e =>
      complainOf "xargs" (toText program ++ ": " ++ plainMessage e)
      setStatus (if e = .notFound then 127 else 126)
    | .ok image =>
      withInput [] (runImage fuel image (toText program) args)
      let status := (← get).status
      if status = 255 then
        complainOf "xargs" (toText program ++ ": exited with status 255; aborting")
        setStatus 124
      else
        setStatus (if status = 0 then before else 123)
        runCalls fuel calls

/-- Runs a program that was found. -/
def runImage : Nat → Image → String → List Bytes → Action Unit
  | 0, _, _, _ => throw .endless
  | fuel + 1, image, name, args => do
    let environment := (← get).environment
    let own (name : Bytes) (args : List Bytes) (options : List Char) : Machine → Machine := fun m =>
      { m with
        name, args, options, functions := [], status := 0, process := m.process + 1
        tested := false, traps := m.traps.filter fun (_, commands) => commands.isEmpty
        assigned := Keyed.insert "PWD" (ofText m.cwd) (withPath environment)
        exported := environment.map Prod.fst
        constant := [], hidden := none, line := 1, running := "", loops := 0, optionPlace := 0 }
    match image with
    | .script runner options path text =>
      let options := options.map ofText
      if isShell runner then
        match startOptions [] options with
        | .ok (letters, _) =>
          separately do
            modify (own (ofText path) args letters)
            runShell fuel (ofText text)
        | .error fault => refuseStart runner fault
      else runImage fuel (.system runner) runner (options ++ ofText path :: args)
    | .system "env" => runEnvironment fuel environment args
    | .system "xargs" =>
      let rule : CallRule :=
        { plain := "0rtx", valued := "nIdLsP", ordered := true
          names := [("null", '0'), ("no-run-if-empty", 'r'), ("max-args", 'n'), ("delimiter", 'd')] }
      match Call.read rule args with
      | .error message => setStatus (← complainOfCall "xargs" message 1)
      | .ok c =>
        let calls := callsOn c (← takeAll)
        setStatus 0
        runCalls fuel calls
    | .system "which" => setStatus (← which args)
    | .system system =>
      if system = ownName then setStatus (← runOwn args.tail)
      else if isShell system then
        match startOptions [] args with
        | .error fault => refuseStart name fault
        | .ok (options, []) =>
          if options.contains 'c' then refuseStart name "-c requires an argument"
          else runInput fuel (own (ofText name) [] options)
        | .ok (options, script :: more) =>
          if options.contains 'c' then
            separately do
              modify (own (more.headD (ofText name)) more.tail options)
              runShell fuel script
          else if options.contains 's' then
            runInput fuel (own (ofText name) (script :: more) options)
          else
            match ← fileBytes script with
            | .ok text =>
              separately do
                modify (own script more options)
                runShell fuel text
            | .error _ => refuseStart name ("cannot open " ++ toText script ++ ": No such file")
      else
        match ← runProgram system args with
        | some status =>
          let failed := (← get).writeFailed
          modify fun m => { m with writeFailed := false }
          if failed then complainOf system (closedMessage system)
          setStatus (if failed then (if system = "sed" then 4 else 1) else status)
        | none => setStatus 127

/-- Runs a program in an environment that arguments change, or shows that. -/
def runEnvironment : Nat → List (String × Bytes) → List Bytes → Action Unit
  | 0, _, _ => throw .endless
  | fuel + 1, environment, args => do
    let rule : CallRule :=
      { plain := "i0", valued := "uC", ordered := true
        names := [("ignore-environment", 'i'), ("unset", 'u'), ("null", '0')] }
    match Call.read rule args with
    | .error message => setStatus (← complainOfCall "env" message 125)
    | .ok c =>
      let (dashes, operands) := c.operands.span (· = ['-'])
      let taken := (c.values 'u').map toText
      let kept := if c.has 'i' || !dashes.isEmpty then []
        else environment.filter fun (name, _) => !taken.contains name
      let (bindings, command) := operands.span fun a => a.contains '='
      let environment := bindings.foldl (fun vs a =>
        let name := a.takeWhile (· ≠ '=')
        Keyed.insert (toText name) (a.drop (name.length + 1)) vs) kept
      match command with
      | [] =>
        let ending := if c.has '0' then '\x00' else '\n'
        put (environment.flatMap fun (name, v) => ofText name ++ '=' :: v ++ [ending])
        setStatus 0
      | program :: args =>
        separately do
          modify fun m =>
            { m with assigned := environment, exported := environment.map Prod.fst, constant := [] }
          match (← get).image (toText program) with
          | .ok image => runImage fuel image (toText program) args
          | .error e =>
            complainOf "env" (inQuotes program ++ ": " ++ plainMessage e)
            setStatus (if e = .notFound then 127 else 126)

/-- Runs the script that the input is. -/
def runInput : Nat → (Machine → Machine) → Action Unit
  | 0, _ => throw .endless
  | fuel + 1, own => do
    let text ← takeAll
    separately do
      modify own
      runShell fuel text

/-- Runs a command. -/
def run : Nat → Command → Action Unit
  | 0, _ => throw .endless
  | fuel + 1, c => do
    match c with
    | .simple line assignments words redirections =>
      modify fun m => { m with line }
      if words.isEmpty then setStatus 0
      let fields ← fieldsOf fuel words
      let bindings ← bindingsOf fuel assignments
      let m ← get
      if m.options.contains 'x' then
        let shown := bindings.map fun (name, v) => ofText name ++ '=' :: v
        let front ← textOf fuel (quotedWordOf ((m.get? "PS4").getD "+ ".toList))
        complain (front ++ joined (shown ++ fields) ++ ['\n'])
      let special := Reading.specialNames.contains (toText (fields.headD []))
      if fields = ["exec".toList] then
        match ← redirectAll fuel redirections with
        | some failure => abandon failure
        | none => setStatus 0
      else if special then
        keepingStreams (redirections.any fun r => r.stream = 0) do
          match ← redirectAll fuel redirections with
          | some failure => abandon failure
          | none =>
            for (name, v) in bindings do assign name v
            runFields fuel false fields
      else
        redirecting fuel redirections do
          if fields.isEmpty then
            for (name, v) in bindings do assign name v
          else withVariables bindings (runFields fuel false fields)
      endAtFailure
    | .pipeline negated stages =>
      if negated then
        testing (runStages fuel stages)
        let status := (← get).status
        setStatus (if status = 0 then 1 else 0)
      else
        runStages fuel stages
        endAtFailure
    | .both a b =>
      testing (run fuel a)
      if (← get).status = 0 then run fuel b
    | .either a b =>
      testing (run fuel a)
      if (← get).status ≠ 0 then run fuel b
    | .sequence cs => runAll fuel cs
    | .redirected c redirections =>
      redirecting fuel redirections (run fuel c)
    | .subshell c =>
      guarded fuel (separately (run fuel c))
      endAtFailure
    | .background c =>
      let patience := (← get).patience
      modify fun m => { m with patience := none }
      withInput [] (separately (run fuel c))
      modify fun m => { m with patience, ended := m.ended ++ [m.status], status := 0 }
    | .loop untilTrue condition body => runLoop fuel untilTrue condition body 0
    | .choice condition yes no =>
      testing (run fuel condition)
      if (← get).status = 0 then run fuel yes
      else
        setStatus 0
        run fuel no
    | .each name words body =>
      let values ← match words with
        | some words => fieldsOf fuel words
        | none => do pure (← get).args
      setStatus 0
      runEach fuel name values body
    | .select word cases =>
      let text ← textOf fuel word
      runCases fuel text cases
    | .define name body =>
      modify fun m => { m with functions := (name, body) :: m.functions }
      setStatus 0

end

/-- How deep the functions of the shell may call each other. -/
def depthLimit : Nat := 20000

/-- How a program stands. -/
inductive Standing where
  | ended (status : Option Nat)
  | waiting
  | endless
  deriving Repr, DecidableEq

/-- Runs a program from its beginning as far as its input allows. -/
def runProgramOn (m : Machine) (image : Image) (name : String) (args : List Bytes) :
    Standing × Machine :=
  let (r, m) := ((runImage depthLimit image name args).run).run m
  match r with
  | .ok () => (.ended (some m.status), m)
  | .error (.exited status) => (.ended (some status), m)
  | .error (.returned status) => (.ended (some status), m)
  | .error .fault => (.ended (some 2), m)
  | .error (.killed _ _) => (.ended none, m)
  | .error (.leftLoop _) => (.ended (some 0), m)
  | .error (.nextRound _) => (.ended (some 0), m)
  | .error .waiting => (.waiting, m)
  | .error .endless => (.endless, m)

end ExtensionHost.Shell
