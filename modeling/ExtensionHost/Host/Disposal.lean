import ExtensionHost.Host.Composite

/-!
# Disposing of composites

The things of a composite may add to the composite while they are disposed of, and may dispose of it
again. So a disposal is taken apart: it begins with all things that the composite has, and then takes one
after the other; anything may be done with the composite in between, the disposals that are under way
included.
-/

namespace ExtensionHost

/-- A composite, and what each disposal of it that was begun has still to dispose of. -/
structure Disposals (α : Type) where
  composite : Composite α := {}
  remaining : List (List α) := []

namespace Disposals

variable {α : Type}

/-- Adds a thing to the composite. -/
def add (d : Disposals α) (a : α) : Disposals α := { d with composite := d.composite.add a }

/-- Begins a disposal and gives its number. -/
def start (d : Disposals α) : Disposals α × Nat :=
  let (composite, things) := d.composite.takeAll
  (⟨composite, d.remaining ++ [things]⟩, d.remaining.length)

/-- What a disposal has still to dispose of. -/
def left (d : Disposals α) (number : Nat) : List α := (d.remaining[number]?).getD []

/-- Takes the next thing that a disposal disposes of. There is none when the disposal is over. -/
def next (d : Disposals α) (number : Nat) : Disposals α × Option α :=
  match d.left number with
  | [] => (d, none)
  | a :: rest => ({ d with remaining := d.remaining.set number rest }, some a)

end Disposals

end ExtensionHost
