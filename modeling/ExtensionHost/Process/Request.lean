import ExtensionHost.Keyed
import ExtensionHost.Text.Blank

/-!
# Running programs

What is asked for when a program is run, and what it leaves behind: its exit status, which is missing
when a signal ended it, and what it wrote.
-/

namespace ExtensionHost

/-- A program to run. Without input its standard input is empty. -/
structure ProcessRequest where
  program : String
  args : List String := []
  cwd : Option String := none
  env : Keyed String := []
  stdin : Option String := none
  deriving Repr, DecidableEq

/-- The program and its arguments with spaces between them. -/
def ProcessRequest.commandLine (r : ProcessRequest) : String :=
  " ".intercalate (r.program :: r.args)

/-- What a program left behind. -/
structure ProcessOutput where
  status : Option Int := none
  stdout : String := ""
  stderr : String := ""
  deriving Repr, DecidableEq

namespace ProcessOutput

/-- Whether the program ended well. -/
def success (o : ProcessOutput) : Bool := o.status = some 0

/-- The text of a status. -/
def statusText : Option Int → String
  | some status => "Some(" ++ toString status ++ ")"
  | none => "None"

/-- Why the program failed: what it wrote about it, or else its status. -/
def failureMessage (o : ProcessOutput) : String :=
  match Text.trim o.stderr.toList with
  | [] => "exited with status " ++ statusText o.status
  | complaint => String.ofList complaint

end ProcessOutput

end ExtensionHost
