import ExtensionHost.Lifecycle.Machine

/-!
# Steps of a rehearsal

A rehearsal is a session whose collaborators answer from scripts. Its steps are what the host's users
do, and what the rehearsal itself arranges: files, settings, handlers that are not the extension's,
things to be disposed of. A script has an entry for each call; an entry says which steps happen inside
the call and how it ends.
-/

namespace ExtensionHost.Rehearsal

/-- Where a thing that can be disposed of is kept: under a name, in a composite, or nowhere. -/
inductive Keeper where
  | nobody
  | handle (name : String)
  | composite (name : String)
  deriving Repr

/-- A step. Editors, things to dispose of, composites and lists go by names. -/
inductive Step where
  | activate
  | deactivate
  | restart
  | preferences
  | crash (reason : Option String) (client : Option Nat)
  | stopListeners
  | set (global : Bool) (key : String) (value : Json)
  | unset (global : Bool) (key : String)
  | write (path text : String)
  | read (path : String)
  | remove (path : String)
  | openFile (editor path : String)
  | newDocument (editor text : String) (path syntaxName : Option String) (selection : Option Extent)
  | describe (editor : String)
  | select (editor : String) (selection : Extent)
  | selectPoint (editor : String) (offset : Nat)
  | slice (editor : String) (extent : Extent)
  | edit (editor : String) (extent : Extent) (text : String)
  | save (editor : String)
  | onWillSave (keeper : Keeper) (editor name : String) (does : List Step)
  | register (keeper : Keeper) (id name : String) (does : List Step)
  | onAdd (keeper : Keeper) (name : String) (does : List Step)
  | invoke (id editor : String)
  | contains (id : String)
  | ids
  | addEditor (editor : String)
  | listenerCount
  | ownRegistry
  | dropRegistry
  | dropExtension
  | disposable (keeper : Keeper) (name : String) (pending : Bool) (does : List Step)
  | debug (handle : String)
  | dispose (handle : String)
  | forget (handle : String)
  | moveInto (handle composite : String)
  | disposeComposite (composite : String)
  | compositeLength (composite : String)
  | listen (keeper : Keeper) (list value : String)
  | snapshot (list : String)
  | dropList (list : String)

/-- An entry of a script: the steps inside the call, and how it ends. A program ends with a status, with
what it writes or else its input between two texts; a panel with a choice; a request with an answer. -/
structure CallScript where
  during : List Step := []
  panic : Option String := none
  error : Option HostError := none
  status : Option Int := some 0
  stdout : Option String := none
  stderr : String := ""
  before : String := ""
  behind : String := ""
  choice : Option Nat := none
  answer : Json := .null

/-- Scripts under the names of the collaborators and, for requests, of methods. -/
abbrev Scripts := Keyed (List CallScript)

/-- The entry for a call that `n` calls came before. The last entry is used again and again. -/
def Scripts.entry (scripts : Scripts) (name : String) (n : Nat) : CallScript :=
  let entries := (Keyed.find? name scripts).getD []
  (entries[n]? <|> entries.getLast?).getD {}

/-- How the call of an entry ends, if it neither panics nor fails with `a`. -/
def CallScript.outcome {α : Type} (e : CallScript) (a : α) : Outcome α :=
  match e.panic, e.error with
  | some message, _ => .panicked (some message)
  | none, some error => .failed (.ofHost error)
  | none, none => .done a

end ExtensionHost.Rehearsal
