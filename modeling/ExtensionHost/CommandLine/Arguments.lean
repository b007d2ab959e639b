/-!
# Arguments

The arguments of the program as what they ask for. They are read from left to right: general options,
the name of a command, and its own options and values. The first that is wrong decides, and so does a
request for help before it.
-/

namespace ExtensionHost.CommandLine

/-! ## What is asked for -/

/-- What is done with a file. Lines and columns count from one. -/
inductive EditorTask where
  | format (write : Bool)
  | formatServer (write : Bool)
  | references (line column : UInt32)
  | save
  deriving Repr, DecidableEq

/-- A command. -/
inductive Command where
  | edit (file : String) (task : EditorTask)
  | showSettings
  | setSetting (key value : String) (global : Bool)
  deriving Repr, DecidableEq

/-- The general options. -/
structure Options where
  extensionPath : Option String := none
  workspace : Option String := none
  mix : Option String := none
  dev : Bool := false
  autoRestart : Bool := false
  debug : Bool := false
  deriving Repr, DecidableEq

/-- What help is given on: the program, or a command of a name. -/
inductive Topic where
  | program
  | format
  | formatServer
  | references
  | save
  | config
  | configShow
  | configSet
  | configHelp
  | help
  deriving Repr, DecidableEq

/-- What the arguments ask for. -/
inductive Invocation where
  | run (o : Options) (c : Command)
  | help (t : Topic)
  | version
  | misuse
  deriving Repr, DecidableEq

/-! ## Options in general -/

/-- What an option takes: nothing, any value, a path, which is not empty, or a number of 32 bits. -/
inductive Taking where
  | nothing
  | anything
  | path
  | number
  deriving Repr, DecidableEq

/-- An option that a command has. -/
structure OptionRule where
  name : String
  letter : Option Char := none
  taking : Taking := .nothing
  deriving Repr

/-- The number of a value: digits, perhaps with a sign. -/
def word32? (value : String) : Option UInt32 :=
  let (negative, digits) := match value.toList with
    | '+' :: digits => (false, digits)
    | '-' :: digits => (true, digits)
    | digits => (false, digits)
  if digits.isEmpty || !digits.all Char.isDigit then none
  else
    let n := digits.foldl (fun n c => n * 10 + (c.toNat - 48)) 0
    if n = 0 ∨ (!negative ∧ n < UInt32.size) then some (UInt32.ofNat n) else none

/-- Whether an option takes a value. -/
def Taking.accepts : Taking → String → Bool
  | .nothing, _ => false
  | .anything, _ => true
  | .path, value => value ≠ ""
  | .number, value => (word32? value).isSome

/-- What was read so far: the options with their values, and the other values. The value of an option
that stands in an argument of its own is `awaited`: it is looked at when reading goes on. -/
structure Given where
  options : List (String × String) := []
  values : List String := []
  awaited : Option (OptionRule × String) := none

/-- Whether an option was given. -/
def Given.has (g : Given) (name : String) : Bool := (g.options.lookup name).isSome

/-- The value of an option. -/
def Given.value? (g : Given) (name : String) : Option String := g.options.lookup name

/-- Why reading stops before its end. -/
inductive Stop where
  | help (t : Topic)
  | version
  | misuse
  deriving Repr, DecidableEq

/-- Whether an argument looks like an option. -/
def looksLikeOption (a : String) : Bool := a.toList.head? = some '-' && a ≠ "-"

/-- Takes an option with its value. No option is given twice. -/
def Given.take (g : Given) (r : OptionRule) (value : String) : Except Stop Given :=
  if g.has r.name || !(r.taking = .nothing || r.taking.accepts value) then .error .misuse
  else .ok { g with options := g.options ++ [(r.name, value)] }

/-- Takes the option whose value is awaited. -/
def Given.settle (g : Given) : Except Stop Given :=
  match g.awaited with
  | none => .ok g
  | some (r, value) => { g with awaited := none }.take r value

/-- Awaits the value of an option that stands in the next argument. Gives the arguments after it. -/
def Given.await (g : Given) (r : OptionRule) : List String → Except Stop (Given × List String)
  | [] => .error .misuse
  | a :: rest =>
    if looksLikeOption a then .error .misuse else .ok ({ g with awaited := some (r, a) }, rest)

/-- Options that may be given, and what help is given on where they stand. Only the program itself has a
version. -/
structure OptionRules where
  topic : Topic
  rules : List OptionRule

/-- Whether the version may be asked for. -/
def OptionRules.hasVersion (o : OptionRules) : Bool := o.topic = .program

/-- Takes the options of letters that stand in one argument. -/
def takeLetters (o : OptionRules) (g : Given) :
    List Char → List String → Except Stop (Given × List String)
  | [], rest => .ok (g, rest)
  | c :: letters, rest =>
    match o.rules.find? fun r => r.letter = some c with
    | none =>
      if c = 'h' then .error (.help o.topic)
      else if c = 'V' ∧ o.hasVersion then .error .version
      else .error .misuse
    | some r =>
      if r.taking = .nothing then do
        let g ← g.take r ""
        takeLetters o g letters rest
      else
        match letters with
        | [] => g.await r rest
        | '=' :: value => do .ok (← g.take r (String.ofList value), rest)
        | value => do .ok (← g.take r (String.ofList value), rest)

/-- Takes the option of a name, perhaps with an equals sign and a value behind it. -/
def takeName (o : OptionRules) (g : Given) (text : List Char) (rest : List String) :
    Except Stop (Given × List String) :=
  let name := String.ofList (text.takeWhile (· ≠ '='))
  let attached := match text.dropWhile (· ≠ '=') with
    | _ :: value => some (String.ofList value)
    | [] => none
  match o.rules.find? fun r => r.name = name, attached with
  | none, none =>
    if name = "help" then .error (.help o.topic)
    else if name = "version" ∧ o.hasVersion then .error .version
    else .error .misuse
  | none, some _ => .error .misuse
  | some r, attached =>
    match r.taking, attached with
    | .nothing, none => do .ok (← g.take r "", rest)
    | .nothing, some _ => .error .misuse
    | _, some value => do .ok (← g.take r value, rest)
    | _, none => g.await r rest

/-! ## Commands with values -/

/-- A command with options and values of its own. -/
structure LeafRule extends OptionRules where
  values : List Taking := []

/-- Takes a value in its place. -/
def LeafRule.takeValue (l : LeafRule) (g : Given) (a : String) : Except Stop Given := do
  let g ← g.settle
  match l.values[g.values.length]? with
  | none => .error .misuse
  | some t => if t.accepts a then .ok { g with values := g.values ++ [a] } else .error .misuse

/-- Takes values only. -/
def LeafRule.takeValues (l : LeafRule) (g : Given) (args : List String) : Except Stop Given := do
  (← args.foldlM l.takeValue g).settle

/-- Reads the arguments of a command; `fuel` bounds their number. -/
def LeafRule.read (l : LeafRule) : Nat → Given → List String → Except Stop Given
  | 0, g, _ => g.settle
  | _ + 1, g, [] => g.settle
  | fuel + 1, g, a :: rest =>
    if a = "--" then l.takeValues g rest
    else
      match a.toList with
      | '-' :: '-' :: text => do
        let (g, rest) ← takeName l.toOptionRules (← g.settle) text rest
        l.read fuel g rest
      | '-' :: c :: text => do
        let (g, rest) ← takeLetters l.toOptionRules (← g.settle) (c :: text) rest
        l.read fuel g rest
      | _ => do l.read fuel (← l.takeValue g a) rest

/-- Reads the arguments of a command that needs all of its values and the options of some names. -/
def LeafRule.readAll (l : LeafRule) (needed : List String) (args : List String) :
    Except Stop Given := do
  let g ← l.read (args.length + 1) {} args
  if g.values.length < l.values.length || needed.any fun name => !g.has name then .error .misuse
  else .ok g

/-! ## The commands of the program -/

/-- The rule of a command whose document may be written back. -/
def writeRule (topic : Topic) : LeafRule := ⟨⟨topic, [{ name := "write" }]⟩, [.path]⟩

/-- The rule of a search for references. -/
def referencesRule : LeafRule :=
  ⟨⟨.references, [{ name := "line", taking := .number }, { name := "column", taking := .number }]⟩,
    [.path]⟩

/-- The rule of the command to save a file. -/
def saveRule : LeafRule := ⟨⟨.save, []⟩, [.path]⟩

/-- The rule of the command to set a setting. -/
def setRule : LeafRule := ⟨⟨.configSet, [{ name := "global" }]⟩, [.anything, .anything]⟩

/-- The rule of the command to show settings. -/
def showRule : LeafRule := ⟨⟨.configShow, []⟩, []⟩

/-- The command to format a file. -/
def readFormat (topic : Topic) (task : Bool → EditorTask) (args : List String) :
    Except Stop Command := do
  let g ← (writeRule topic).readAll [] args
  .ok (.edit (g.values.headD "") (task (g.has "write")))

/-- The command to find references. -/
def readReferences (args : List String) : Except Stop Command := do
  let g ← referencesRule.readAll ["line", "column"] args
  let number (name : String) : UInt32 := ((g.value? name).bind word32?).getD 0
  .ok (.edit (g.values.headD "") (.references (number "line") (number "column")))

/-- The command to save a file. -/
def readSave (args : List String) : Except Stop Command := do
  let g ← saveRule.readAll [] args
  .ok (.edit (g.values.headD "") .save)

/-- The command to set a setting. -/
def readSet (args : List String) : Except Stop Command := do
  let g ← setRule.readAll [] args
  match g.values with
  | [key, value] => .ok (.setSetting key value (g.has "global"))
  | _ => .error .misuse

/-- The command to show settings. -/
def readShow (args : List String) : Except Stop Command := do
  let _ ← showRule.readAll [] args
  .ok .showSettings

/-- What names that lead to a command ask for help on. -/
def Topic.ofNames? : List String → Option Topic
  | [] => some .program
  | ["format"] => some .format
  | ["format-server"] => some .formatServer
  | ["references"] => some .references
  | ["save"] => some .save
  | ["config"] => some .config
  | ["config", "show"] => some .configShow
  | ["config", "set"] => some .configSet
  | ["config", "help"] => some .configHelp
  | ["help"] => some .help
  | _ => none

/-- Asks for help on a command. -/
def readHelp {α : Type} (names : List String) : Except Stop α :=
  match Topic.ofNames? names with
  | some t => .error (.help t)
  | none => .error .misuse

/-- The command about settings. -/
def readConfig : List String → Except Stop Command
  | "show" :: args => readShow args
  | "set" :: args => readSet args
  | "help" :: args => readHelp ("config" :: args)
  | "--help" :: _ => .error (.help .config)
  | a :: _ => if a.toList.take 2 = ['-', 'h'] then .error (.help .config) else .error .misuse
  | [] => .error .misuse

/-- The command with a name. -/
def readCommand (name : String) (args : List String) : Except Stop Command :=
  match name with
  | "format" => readFormat .format .format args
  | "format-server" => readFormat .formatServer .formatServer args
  | "references" => readReferences args
  | "save" => readSave args
  | "config" => readConfig args
  | "help" => readHelp args
  | _ => .error .misuse

/-- The general options. -/
def generalRules : OptionRules :=
  ⟨.program,
    [ { name := "extension-path", taking := .path },
      { name := "workspace", letter := some 'w', taking := .path },
      { name := "mix", taking := .anything }, { name := "dev" }, { name := "auto-restart" },
      { name := "debug", letter := some 'd' } ]⟩

/-- Reads the general options up to the name of a command; `fuel` bounds their number. What is wrong
with the command comes before a value that is still awaited. -/
def readGeneral : Nat → Given → List String → Except Stop (Given × Command)
  | 0, _, _ => .error .misuse
  | _ + 1, _, [] => .error .misuse
  | fuel + 1, g, a :: rest =>
    match a.toList with
    | '-' :: '-' :: text => do
      let (g, rest) ← takeName generalRules (← g.settle) text rest
      readGeneral fuel g rest
    | '-' :: c :: text => do
      let (g, rest) ← takeLetters generalRules (← g.settle) (c :: text) rest
      readGeneral fuel g rest
    | _ => do
      let c ← readCommand a rest
      .ok (← g.settle, c)

/-- The general options that were given. -/
def Given.toOptions (g : Given) : Options :=
  { extensionPath := g.value? "extension-path"
    workspace := g.value? "workspace"
    mix := g.value? "mix"
    dev := g.has "dev"
    autoRestart := g.has "auto-restart"
    debug := g.has "debug" }

/-- What arguments ask for. -/
def Invocation.ofArguments (args : List String) : Invocation :=
  match readGeneral (args.length + 1) {} args with
  | .ok (g, c) => .run g.toOptions c
  | .error (.help t) => .help t
  | .error .version => .version
  | .error .misuse => .misuse

end ExtensionHost.CommandLine
