/-!
# Composites

A composite holds things to be disposed of together, the last one added first. Disposing of a
composite empties it before the first thing is disposed of, so that what is added meanwhile stays for
the next time.
-/

namespace ExtensionHost

/-- Things to be disposed of together, in the order of addition. -/
structure Composite (α : Type) where
  items : List α := []
  deriving Repr

namespace Composite

variable {α : Type}

/-- Adds a thing. -/
def add (c : Composite α) (a : α) : Composite α := ⟨c.items ++ [a]⟩

/-- Takes all things out, in the order in which they are disposed of. -/
def takeAll (c : Composite α) : Composite α × List α := (⟨[]⟩, c.items.reverse)

/-- The number of things. -/
def count (c : Composite α) : Nat := c.items.length

end Composite

end ExtensionHost
