import ExtensionHost.Process.Image
import ExtensionHost.Rehearsal.Shell.Grammar
import ExtensionHost.Rehearsal.Shell.Program
import ExtensionHost.Rehearsal.Shell.Redirect

/-!
# Commands of the shell

The commands that the shell has itself. Some are special: what they assign stays, and a fault in one of
them ends the shell. Those that run commands are not here but in the shell.
-/

namespace ExtensionHost.Shell

/-! ## Names -/

/-- The names of the commands of the shell that are not special. -/
def plainOwnNames : List String :=
  ["cd", "read", "echo", "printf", "test", "[", "wait", "command", "kill", "true", "false", "pwd",
    "type", "umask", "getopts", "hash", "jobs", "bg", "fg"]

/-- Whether the shell itself has a command. -/
def isOwn (name : String) : Bool := plainOwnNames.contains name || Reading.specialNames.contains name

/-- The directories that programs are searched for in if nothing says which. -/
def commonPath : String := "/usr/local/sbin:/usr/local/bin:/usr/sbin:/usr/bin:/sbin:/bin"

/-- The directories that programs are searched for in. -/
def Machine.searched (m : Machine) : String := ((m.get? "PATH").map toText).getD commonPath

/-- The program of a name. -/
def Machine.image (m : Machine) (name : String) : Except SystemError Image :=
  Image.search m.files m.cwd m.searched name

/-- The path of the program of a name. -/
def Machine.programPath? (m : Machine) (name : String) : Option String :=
  (Image.candidates (some m.searched) name).find? fun path => m.files.isFile m.cwd path

/-! ## Arguments -/

/-- The letters in front of arguments, those of `valued` with a value, and the arguments behind them. -/
def ownOptions (plain valued : String) : List Bytes → Action (List (Char × Bytes) × List Bytes)
  | [] => return ([], [])
  | ['-', '-'] :: rest => return ([], rest)
  | ('-' :: letter :: letters) :: rest =>
    if valued.toList.contains letter then
      match letters, rest with
      | [], [] => abandon ("No arg for -" ++ toText [letter] ++ " option")
      | [], value :: rest => do
        let (options, rest) ← ownOptions plain valued rest
        return ((letter, value) :: options, rest)
      | value, rest => do
        let (options, rest) ← ownOptions plain valued rest
        return ((letter, value) :: options, rest)
    else
      match (letter :: letters).find? fun c => !plain.toList.contains c with
      | some c => abandon ("Illegal option -" ++ toText [c])
      | none => do
        let (options, rest) ← ownOptions plain valued rest
        return ((letter :: letters).map (·, []) ++ options, rest)
  | args => return ([], args)

/-- The number that an argument is. -/
def numberArgument (a : Bytes) : Action Nat :=
  match number? a with
  | some n => return n
  | none => abandon ("Illegal number: " ++ toText a)

/-- The variable that an argument names, and the value that it gives it. -/
def variableOf (a : Bytes) : Action (String × Option Bytes) := do
  let name := a.takeWhile (· ≠ '=')
  if !name.head?.any isNameStart || !name.all isNameChar then
    abandon (toText name ++ ": bad variable name")
  let value := if a.contains '=' then some (a.drop (name.length + 1)) else none
  return (String.ofList name, value)

/-- The status that an argument gives, or else that of the last command. -/
def givenStatus : List Bytes → Action Nat
  | [] => return (← get).status
  | a :: _ => return (← numberArgument a) % 256

/-- Leaves loops, as many as an argument says. Outside of loops it does nothing. -/
def leaveLoops (halt : Nat → Halt) (args : List Bytes) : Action Nat := do
  let levels ← match args with
    | [] => pure 1
    | a :: _ => numberArgument a
  if levels = 0 then abandon ("Illegal number: " ++ toText (args.headD []))
  let loops := (← get).loops
  if 0 < loops then throw (halt (min levels loops))
  return 0

/-! ## Quoting -/

/-- A text in quotes from which the shell reads it again; `fuel` bounds its parts. -/
def quotedFrom : Nat → Bytes → Bytes
  | 0, _ => []
  | fuel + 1, text =>
    let front := text.takeWhile (· ≠ apostrophe)
    let behind := text.drop front.length
    let marks := behind.takeWhile (· = apostrophe)
    let rest := behind.drop marks.length
    let quoted := apostrophe :: front ++ [apostrophe]
    if marks.isEmpty then quoted
    else
      quoted ++ quotationMark :: marks ++ [quotationMark] ++
        (if rest.isEmpty then [] else quotedFrom fuel rest)

/-- A text in quotes from which the shell reads it again. -/
def quoted (text : Bytes) : Bytes := quotedFrom (text.length + 1) text

/-- Writes variables, with a word in front of each. -/
def showVariables (front : Bytes) (names : List String) : Action Unit := do
  let m ← get
  for name in (names.eraseDups.mergeSort fun a b => a ≤ b) do
    let value := match m.get? name with
      | some v => '=' :: quoted v
      | none => []
    put (front ++ ofText name ++ value ++ ['\n'])

/-! ## Directories -/

/-- Gives an exported variable a value. -/
def assignExported (name : String) (value : Bytes) : Action Unit := do
  assign name value
  modify fun m => { m with exported := m.exported ++ [name] }

/-- Changes the directory. -/
def changeDirectory (args : List Bytes) : Action Nat := do
  let (_, operands) ← ownOptions "LP" "" args
  let m ← get
  let target := match operands with
    | [] => (m.get? "HOME").getD []
    | ['-'] :: _ => (m.get? "OLDPWD").getD []
    | path :: _ => path
  let shows := operands.head? = some ['-']
  let entered ← if target.isEmpty then pure m.cwd else
    match enterDirectory m.files m.cwd (toText target) with
    | .ok name => pure name
    | .error _ => abandon ("can't cd to " ++ toText target)
  modify fun m => { m with cwd := entered }
  assignExported "OLDPWD" (ofText m.cwd)
  assignExported "PWD" (ofText entered)
  if shows then put (ofText entered ++ ['\n'])
  return 0

/-! ## Reading lines -/

/-- The next line without its end, each character with whether it is escaped, and whether the line had
an end. An escaped end goes on with the next line; `fuel` bounds them. -/
def takeEscapedLine : Nat → Action (List (Char × Bool) × Bool)
  | 0 => return ([], false)
  | fuel + 1 => do
    let (line, complete) ← takeLine
    let rec escaped : Bytes → List (Char × Bool) × Bool
      | [] => ([], false)
      | [c] => if c = backslash then ([], true) else ([(c, false)], false)
      | c :: d :: rest =>
        if c = backslash then
          let (cs, more) := escaped rest
          ((d, true) :: cs, more)
        else
          let (cs, more) := escaped (d :: rest)
          ((c, false) :: cs, more)
    let (cs, goesOn) := escaped line
    if goesOn && complete then
      let (more, complete) ← takeEscapedLine fuel
      return (cs ++ more, complete)
    return (cs, complete)

/-- Assigns the fields of a line to names; the last one gets what is left. -/
def assignFields (separators : Bytes) : List String → List (Char × Bool) → Action Unit
  | [], _ => pure ()
  | [name], text =>
    let text := text.dropWhile blank
    assign name ((text.reverse.dropWhile blank).reverse.map Prod.fst)
  | name :: names, text => do
    let text := text.dropWhile blank
    let field := text.takeWhile fun (c, escaped) => escaped || !separators.contains c
    let rest := text.drop field.length
    assign name (field.map Prod.fst)
    let behind := rest.dropWhile blank
    let behind := match behind with
      | (c, escaped) :: more =>
        if !escaped && separators.contains c && !" \t\n".toList.contains c then more else behind
      | [] => []
    assignFields separators names behind
where
  /-- Whether a character is a blank that separates. -/
  blank (c : Char × Bool) : Bool :=
    !c.2 && separators.contains c.1 && " \t\n".toList.contains c.1

/-- Reads a line into variables. -/
def readLine (args : List Bytes) : Action Nat := do
  let (options, operands) ← ownOptions "r" "p" args
  if operands.isEmpty then abandon "arg count"
  let (line, complete) ← if options.any (·.1 = 'r') then
      let (line, complete) ← takeLine
      pure (line.map (·, false), complete)
    else takeEscapedLine ((← get).input.length + 1)
  let names ← operands.mapM fun a => do return (← variableOf a).1
  assignFields (separatorsOf (← get)) names line
  return if complete then 0 else 1

/-! ## Variables -/

/-- Marks variables, after assigning to those that are given a value. Without names it shows those that
are marked. -/
def markVariables (word : String) (marked : Machine → List String)
    (mark : String → Machine → Machine) (args : List Bytes) : Action Nat := do
  let (_, operands) ← ownOptions "p" "" args
  if operands.isEmpty then showVariables (ofText (word ++ " ")) (marked (← get))
  for a in operands do
    let (name, value) ← variableOf a
    match value with
    | some v => assign name v
    | none => pure ()
    modify (mark name)
  return 0

/-- Lets variables have values of their own within a function. -/
def hideVariables (args : List Bytes) : Action Nat := do
  if (← get).hidden.isNone then abandon "not in a function"
  for a in args do
    let (name, value) ← variableOf a
    modify fun m =>
      { m with hidden := m.hidden.map fun hidden =>
          if hidden.any (·.1 = name) then hidden else hidden ++ [(name, m.get? name)] }
    match value with
    | some v => assign name v
    | none => pure ()
  return 0

/-- Gives variables the values that they had outside of a function. -/
def Machine.uncover (m : Machine) (hidden : List (String × Option Bytes)) : Machine :=
  hidden.foldl (fun m (name, value) =>
    { m with assigned := match value with
        | some v => Keyed.insert name v m.assigned
        | none => Keyed.erase name m.assigned }) m

/-- Takes variables or functions away. -/
def unset (args : List Bytes) : Action Nat := do
  let (options, operands) ← ownOptions "fv" "" args
  for a in operands do
    if options.any (·.1 = 'f') then
      modify fun m => { m with functions := m.functions.filter (·.1 ≠ toText a) }
    else
      let (name, _) ← variableOf a
      if (← get).constant.contains name then abandon (name ++ ": is read only")
      modify fun m =>
        { m with
          assigned := Keyed.erase name m.assigned
          exported := m.exported.filter (· ≠ name) }
  return 0

/-! ## Options -/

/-- The names and letters of the shell's options. -/
def shellOptions : List (String × Char) :=
  [("errexit", 'e'), ("noglob", 'f'), ("ignoreeof", 'I'), ("interactive", 'i'), ("monitor", 'm'),
    ("noexec", 'n'), ("stdin", 's'), ("xtrace", 'x'), ("verbose", 'v'), ("vi", 'V'), ("emacs", 'E'),
    ("noclobber", 'C'), ("allexport", 'a'), ("notify", 'b'), ("nounset", 'u'), ("privileged", 'p'),
    ("nolog", ' '), ("debug", ' ')]

/-- Turns an option on or off. -/
def turn (on : Bool) (letter : Char) (options : List Char) : List Char :=
  let others := options.filter (· ≠ letter)
  if on then letter :: others else others

/-- Turns the options of a word on or off. -/
def turnAll (on : Bool) (letters : Bytes) : Action Unit := do
  match letters.find? fun c => !(shellOptions.any (·.2 = c) && c ≠ ' ') with
  | some c => abandon ("Illegal option -" ++ toText [c])
  | none => modify fun m => { m with options := letters.foldl (fun o c => turn on c o) m.options }

/-- Sets options from the front of arguments, or shows them. Gives what follows, unless it is nothing
and leaves the arguments of the shell as they are. -/
def setOptions : List Bytes → Action (Option (List Bytes))
  | [] => return none
  | ['-', '-'] :: rest => return some rest
  | ['-'] :: rest => do
    turnAll false ['x', 'v']
    return if rest.isEmpty then none else some rest
  | [sign, 'o'] :: name :: rest => do
    match shellOptions.lookup (toText name) with
    | some letter => modify fun m => { m with options := turn (sign = '-') letter m.options }
    | none => abandon ("Illegal option " ++ toText [sign, 'o'] ++ " " ++ toText name)
    setOptions rest
  | ['-', 'o'] :: [] => do
    let m ← get
    put "Current option settings\n".toList
    for (name, letter) in shellOptions do
      let shown := if m.options.contains letter then "on" else "off"
      put (ofText (name ++ String.ofList (List.replicate (16 - name.length) ' ') ++ shown ++ "\n"))
    return none
  | ['+', 'o'] :: [] => do
    let m ← get
    for (name, letter) in shellOptions do
      let sign := if m.options.contains letter then "-" else "+"
      put (ofText ("set " ++ sign ++ "o " ++ name ++ "\n"))
    return none
  | ('-' :: letters) :: rest => do
    turnAll true letters
    setOptions rest
  | ('+' :: letters) :: rest => do
    turnAll false letters
    setOptions rest
  | rest => return some rest

/-- Sets options or the arguments of the shell, or shows its variables. -/
def setShell (args : List Bytes) : Action Nat := do
  if args.isEmpty then showVariables [] ((← get).assigned.map Prod.fst)
  match ← setOptions args with
  | some args => modify fun m => { m with args }
  | none => pure ()
  return 0

/-! ## Traps -/

/-- The name of a signal or of the end, from its name or number. -/
def eventName? (word : Bytes) : Option String :=
  match signal? word with
  | some 0 => some "EXIT"
  | some n => signalName? n
  | none => none

/-- Sets what is done at signals or at the end, or shows it. -/
def setTraps (args : List Bytes) : Action Nat := do
  let (_, operands) ← ownOptions "" "" args
  match operands with
  | [] =>
    let m ← get
    for event in "EXIT" :: signals.map Prod.fst do
      match m.traps.lookup event with
      | some commands => put ("trap -- ".toList ++ quoted commands ++ ofText (" " ++ event ++ "\n"))
      | none => pure ()
    return 0
  | first :: rest =>
    let (commands, events) :=
      if rest.isEmpty ∨ (eventName? first).isSome then (['-'], operands) else (first, rest)
    for word in events do
      match eventName? word with
      | none =>
        complain ("trap: ".toList ++ word ++ ": bad trap\n".toList)
        return 1
      | some event =>
        modify fun m =>
          let others := m.traps.filter (·.1 ≠ event)
          { m with traps := if commands = ['-'] then others else (event, commands) :: others }
    return 0

/-- Waits for processes in the background. Gives the status of the last one that is asked for. -/
def waitFor (args : List Bytes) : Action Nat := do
  let (_, operands) ← ownOptions "" "" args
  let mut status := 0
  for a in operands do
    if a.head? = some '%' then abandon ("No such job: " ++ toText a)
    let n ← numberArgument a
    let ended := (← get).ended
    status := if n ≤ backgroundNumber 0 then 127
      else (ended[n - backgroundNumber 0 - 1]?).getD 127
  return status

/-! ## Reading options -/

/-- Reads the next option of arguments into a variable. -/
def nextOption (args : List Bytes) : Action Nat := do
  match args with
  | known :: name :: words =>
    let m ← get
    let words := if words.isEmpty then m.args else words
    let place := ((m.get? "OPTIND").bind number?).getD 1
    let current := if place ≤ 1 then [] else ((words[place - 2]?).getD []).drop m.optionPlace
    let current := if m.optionPlace = 0 then [] else current
    let (name, _) ← variableOf name
    let silent := known.head? = some ':'
    let finish (letter : Char) (place offset : Nat) (done : Bool) : Action Nat := do
      assign "OPTIND" (numberText place)
      assign name [letter]
      modify fun m => { m with optionPlace := offset }
      return if done then 1 else 0
    let clear : Action Unit :=
      modify fun m => { m with assigned := Keyed.erase "OPTARG" m.assigned }
    let (letters, place) := match current, words[place - 1]? with
      | [], some ['-', '-'] => ([], place + 1)
      | [], some ('-' :: letters) => (letters, if letters.isEmpty then place else place + 1)
      | [], _ => ([], place)
      | current, _ => (current, place)
    match letters with
    | [] => finish '?' place 0 true
    | letter :: rest =>
      let word := (words[place - 2]?).getD []
      let offset := if rest.isEmpty then 0 else word.length - rest.length
      match (known.dropWhile (· ≠ letter)), letter with
      | [], _ =>
        if silent then assign "OPTARG" [letter]
        else
          complain (ofText ("Illegal option -" ++ toText [letter] ++ "\n"))
          clear
        finish '?' place offset false
      | _ :: ':' :: _, letter =>
        if !rest.isEmpty then
          assign "OPTARG" rest
          finish letter place 0 false
        else
          match words[place - 1]? with
          | some value =>
            assign "OPTARG" value
            finish letter (place + 1) 0 false
          | none =>
            if silent then
              assign "OPTARG" [letter]
              finish ':' place 0 false
            else
              complain (ofText ("No arg for -" ++ toText [letter] ++ " option\n"))
              clear
              finish '?' place 0 false
      | _, letter =>
        assign "OPTARG" []
        finish letter place offset false
  | _ => abandon "Usage: getopts optstring var [arg...]"

/-! ## Other commands -/

/-- Shows what runs under a name, in a word or in a sentence. -/
def showCommand (sentence : Bool) (name : String) : Action Nat := do
  let m ← get
  let write (word what : String) : Action Nat := do
    put (ofText (if sentence then name ++ what ++ "\n" else word ++ "\n"))
    return 0
  if Reading.ownWords.contains name.toList then write name " is a shell keyword"
  else if Reading.specialNames.contains name then write name " is a special shell builtin"
  else if (m.functions.lookup name).isSome then write name " is a shell function"
  else if isOwn name then write name " is a shell builtin"
  else
    match m.programPath? name with
    | some path => write path (" is " ++ path)
    | none =>
      if sentence then put (ofText (name ++ ": not found\n"))
      return 127

/-- A number in octal digits, four at least. -/
def octalText (n : Nat) : Bytes :=
  let digits := Nat.toDigits 8 n
  List.replicate (4 - digits.length) '0' ++ digits

/-- Sets or shows the rights that new files do not get. -/
def setMask (args : List Bytes) : Action Nat := do
  let (options, operands) ← ownOptions "S" "" args
  match operands with
  | [] =>
    let mask := (← get).mask
    if options.isEmpty then put (octalText mask ++ ['\n'])
    else
      let rights (shift : Nat) : String :=
        let bits := 7 - mask / shift % 8
        (if 4 ≤ bits then "r" else "") ++ (if 2 ≤ bits % 4 then "w" else "") ++
          (if bits % 2 = 1 then "x" else "")
      put (ofText ("u=" ++ rights 64 ++ ",g=" ++ rights 8 ++ ",o=" ++ rights 1 ++ "\n"))
  | a :: _ =>
    if !a.head?.any Char.isDigit then abandon ("Illegal mode: " ++ toText a)
    if !a.all isOctal then abandon ("Illegal number: " ++ toText a)
    modify fun m => { m with mask := numberTo 8 a }
  return 0

/-- Looks for programs by their names. -/
def findPrograms (args : List Bytes) : Action Nat := do
  let (_, operands) ← ownOptions "rv" "" args
  let mut status := 0
  for a in operands do
    let name := toText a
    if !isOwn name && ((← get).programPath? name).isNone then
      tell (name ++ ": not found")
      status := 1
  return status

/-- Shows the paths of programs. -/
def which (args : List Bytes) : Action Nat := do
  let mut status := 0
  for a in args do
    if a.head? ≠ some '-' then
      match (← get).programPath? (toText a) with
      | some path => put (ofText (path ++ "\n"))
      | none => status := 1
  return status

/-- Runs a command that the shell has itself, unless it is one that runs others. -/
def ownCommand (name : String) (args : List Bytes) : Action Nat :=
  match name with
  | ":" => return 0
  | "true" => return 0
  | "false" => return 1
  | "exit" => do throw (.exited (← givenStatus args))
  | "return" => do throw (.returned (← givenStatus args))
  | "break" => leaveLoops .leftLoop args
  | "continue" => leaveLoops .nextRound args
  | "cd" => changeDirectory args
  | "pwd" => do
    put (ofText (← get).cwd ++ ['\n'])
    return 0
  | "read" => readLine args
  | "export" =>
    markVariables name (·.exported) (fun v m => { m with exported := m.exported ++ [v] }) args
  | "readonly" =>
    markVariables name (·.constant) (fun v m => { m with constant := m.constant ++ [v] }) args
  | "local" => hideVariables args
  | "unset" => unset args
  | "shift" => do
    let n ← match args with
      | [] => pure 1
      | a :: _ => numberArgument a
    if (← get).args.length < n then abandon "can't shift that many"
    modify fun m => { m with args := m.args.drop n }
    return 0
  | "set" => setShell args
  | "trap" => setTraps args
  | "wait" => waitFor args
  | "echo" => echo true args
  | "printf" => printf .shell args
  | "test" => test tell args
  | "[" => do
    if args.getLast? ≠ some [']'] then
      tell "missing ]"
      return 2
    test tell args.dropLast
  | "kill" => sendSignals args
  | "type" => do
    let mut status := 0
    for a in args do
      let shown ← showCommand true (toText a)
      if shown ≠ 0 then status := shown
    return status
  | "umask" => setMask args
  | "getopts" => nextOption args
  | "hash" => findPrograms args
  | "times" => do
    put "0m0.000000s 0m0.000000s\n0m0.000000s 0m0.000000s\n".toList
    return 0
  | "bg" => abandon "No current job"
  | "fg" => abandon "No current job"
  | _ => return 0

/-- Runs an action of a command that the shell has itself. A fault ends the shell unless the command may
fail. -/
def asOwn (name : String) (mayFail : Bool) (a : Action Nat) : Action Unit := do
  let before := (← get).running
  let restore (m : Machine) : Machine := { m with running := before }
  modify fun m => { m with running := name }
  let status ← try a
    catch h =>
      modify restore
      match h, mayFail with
      | .fault, true => pure 2
      | h, _ => throw h
  let failed := (← get).writeFailed
  modify fun m => { m with running := name, writeFailed := false }
  if failed then tell (name ++ ": I/O error")
  modify restore
  setStatus (if failed then 1 else status)

end ExtensionHost.Shell
