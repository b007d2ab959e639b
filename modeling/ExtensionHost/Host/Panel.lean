/-!
# Choosing without a user

A host without a user answers a panel of buttons with a choice made before, if the panel has that
button.
-/

namespace ExtensionHost

/-- A workspace without a user: its root, whether it shows notes for developers, and the button that
it chooses. -/
structure Workspace where
  root : Option String := none
  dev : Bool := false
  choice : Option Nat := none
  deriving Repr, DecidableEq

/-- The button that is chosen from a panel. -/
def Workspace.choose (w : Workspace) (buttons : List String) : Option Nat :=
  w.choice.filter (· < buttons.length)

end ExtensionHost
