import ExtensionHost.File.Tree

/-!
# Servers

A server is what it does after it has taken some messages, perhaps seen the end of its input, and slept
for some time: all bytes it wrote so far, all files it changed so far, and whether it has ended or sleeps.
-/

namespace ExtensionHost

/-- What a server has done so far. `asleep` is the time that it sleeps now, in thousandths of a second,
and `lingers` says that another program does that for it, which keeps the output open when the server is
told to end. -/
structure Conduct where
  output : List UInt8 := []
  changes : List (String × Option Entry) := []
  exited : Bool := false
  asleep : Nat := 0
  lingers : Bool := false
  deriving Repr

/-- A server, from the messages that it took, whether its input has ended, and how long it has slept. -/
abbrev Server := List String → Bool → Nat → Conduct

end ExtensionHost
