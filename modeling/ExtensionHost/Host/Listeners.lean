/-!
# Listeners

A list of listeners in the order in which they were added. Each gets a number of its own, by which it
can be taken away; numbers are not used twice. Whoever calls the listeners takes a snapshot first, so
that listeners may be added and taken away meanwhile.
-/

namespace ExtensionHost

/-- Listeners under their numbers, in the order of addition. -/
structure Listeners (α : Type) where
  lastNumber : Nat := 0
  entries : List (Nat × α) := []
  deriving Repr

namespace Listeners

variable {α : Type}

/-- Adds a listener and gives its number. -/
def add (l : Listeners α) (a : α) : Listeners α × Nat :=
  let number := l.lastNumber + 1
  (⟨number, l.entries ++ [(number, a)]⟩, number)

/-- Takes the listener with a number away. -/
def remove (l : Listeners α) (number : Nat) : Listeners α :=
  { l with entries := l.entries.filter (·.1 ≠ number) }

/-- The listeners, in the order of addition. -/
def snapshot (l : Listeners α) : List α := l.entries.map Prod.snd

/-- The number of listeners. -/
def count (l : Listeners α) : Nat := l.entries.length

end Listeners

end ExtensionHost
