import ExtensionHost.Json.Value
import ExtensionHost.Task.Basic

/-!
# Tasks that write down what they do

A journal holds one entry for everything that its tasks did, in order, and counters that tasks may
raise. With such tasks the order of effects shows.
-/

namespace ExtensionHost

/-- What tasks did, and how often the counted ones were tried. -/
structure Journal where
  entries : List Json := []
  counters : Keyed Nat := []

/-- Tasks that write down what they do; errors are texts. -/
abbrev JournalTask := Task Journal String Json

namespace Journal

/-- Writes an entry. -/
def note (words : List Json) : Code Journal Unit :=
  modify fun j => { j with entries := j.entries ++ [.array words] }

/-- Writes the entry of an event with a name. -/
def noteEvent (event name : String) : Code Journal Unit :=
  note [.string event, .string name]

/-- Raises a counter and gives its new value. -/
def count (name : String) : Code Journal Nat :=
  modifyGet fun j =>
    let n := (Keyed.find? name j.counters).getD 0 + 1
    (n, { j with counters := Keyed.insert name n j.counters })

/-- What some work does when it is waited for. -/
inductive Deed where
  | panic (message : Option String)
  | fail (cause : Cause)
  | count (limit : Option Nat)
  | give (v : Json)

/-- Does a deed of the work with a name. -/
def Deed.perform (name : String) : Deed → Code Journal (Except Cause Json)
  | .panic message => .panicked message
  | .fail cause => pure (.error cause)
  | .give v => pure (.ok v)
  | .count limit => do
    let n ← Journal.count name
    if limit.any (· ≤ n) then pure (.error ⟨"count " ++ toString n, []⟩)
    else pure (.ok (.nat n))

/-- The task that notes its start and its end and ends with a value or an error. -/
def step (name : String) (outcome : Except String Json) : JournalTask :=
  ⟨do
    noteEvent "run" name
    pure do
      noteEvent "end" name
      pure outcome⟩

/-- The task of work that notes its start and its failure. The work may panic at once. In full,
the error has the text of the failure and those of its causes. -/
def attempt (name : String) (atOnce : Option String) (deed : Deed) (inFull : Bool) : JournalTask :=
  Task.attempt
    ⟨do
      noteEvent "run" name
      match atOnce with
      | some message => .panicked (some message)
      | none => pure (deed.perform name)⟩
    fun cause => do
      noteEvent "on_error" name
      pure (if inFull then cause.full else cause.text)

/-- Notes a change of the value, which puts the name before it. -/
def map (name : String) (t : JournalTask) : JournalTask :=
  t.map fun v => do
    noteEvent "map" name
    pure (.array [.string name, v])

/-- Notes a change of the error, which puts the name around it. -/
def mapError (name : String) (t : JournalTask) : JournalTask :=
  t.mapError fun e => do
    noteEvent "map_err" name
    pure (name ++ "(" ++ e ++ ")")

/-- Notes the value before going on with the task that it makes. -/
def andThen (name : String) (t : JournalTask) (next : Json → JournalTask) : JournalTask :=
  t.andThen fun v => do
    note [.string "and_then", .string name, v]
    pure (next v)

/-- Tasks in order, giving an array. -/
def sequence (tasks : List JournalTask) : JournalTask :=
  (Task.sequence tasks).map fun vs => pure (.array vs)

end Journal

end ExtensionHost
