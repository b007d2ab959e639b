import ExtensionHost.Wire.Position

/-!
# Offsets and positions

An offset counts the characters of a text, a position its lines and, in the line, UTF-16 units. A
line ends behind its line feed. `positionAt` takes an offset behind the text for its end; `offsetAt`
takes a column behind a line for the end of its visible part, and a line behind the last one for the end
of the text.

Both count lines and columns in 32 bits. `positionAt?` and `offsetAt?` are the same with the panics that a
build with checks comes to when a count is too great for them.
-/

namespace ExtensionHost.Document

/-- The UTF-16 units of a character. -/
def units (c : Char) : Nat :=
  if c.toNat < 0x10000 then 1 else 2

/-! ## Sums within 32 bits -/

/-- How a build adds numbers of 32 bits. One that checks its sums panics when a sum is too great for them; one
that does not goes on with what is left of it. -/
inductive Addition where
  | checked
  | wrapping
  deriving Repr, DecidableEq

/-- A sum, or nothing where the build panics. -/
def Addition.sum? : Addition → UInt32 → UInt32 → Option UInt32
  | .checked, m, n => if m.toNat + n.toNat < UInt32.size then some (m + n) else none
  | .wrapping, m, n => some (m + n)

/-! ## From an offset to a position -/

/-- The line and column behind a text that begins at a line and column. -/
def advance (line column : Nat) : List Char → Nat × Nat
  | [] => (line, column)
  | c :: rest => if c = '\n' then advance (line + 1) 0 rest else advance line (column + units c) rest

/-- The position of an offset. -/
def positionAt (text : List Char) (offset : Nat) : Position :=
  let place := advance 0 0 (text.take offset)
  ⟨UInt32.ofNat place.1, UInt32.ofNat place.2⟩

/-- The position behind a text that begins at a line and column, as a build counts them. -/
def advance? (k : Addition) (line column : UInt32) : List Char → Option Position
  | [] => some ⟨line, column⟩
  | c :: rest =>
    if c = '\n' then (k.sum? line 1).bind fun line => advance? k line 0 rest
    else (k.sum? column (UInt32.ofNat (units c))).bind fun column => advance? k line column rest

/-- The position of an offset, unless the build panics on the way. -/
def positionAt? (k : Addition) (text : List Char) (offset : Nat) : Option Position :=
  advance? k 0 0 (text.take offset)

/-! ## From a position to an offset -/

/-- The offset of the position `p`, from the line, the column and the offset of `rest` on; `afterReturn`
says whether a carriage return stands before `rest`. The line and the column are counted in 32 bits. -/
def scan (p : Position) (line column : UInt32) (offset : Nat) (afterReturn : Bool) : List Char → Nat
  | [] => offset
  | c :: rest =>
    if line = p.line ∧ p.character ≤ column then offset
    else if line = p.line ∧ c = '\n' then if afterReturn then offset - 1 else offset
    else if c = '\n' then scan p (line + 1) 0 (offset + 1) false rest
    else scan p line (column + UInt32.ofNat (units c)) (offset + 1) (c = '\r') rest

/-- The offset of a position. -/
def offsetAt (text : List Char) (p : Position) : Nat :=
  scan p 0 0 0 false text

/-- The scan as a build does it. It panics where a sum is too great, and would where nothing stands before the
offset 0. -/
def scan? (k : Addition) (p : Position) (line column : UInt32) (offset : Nat) (afterReturn : Bool) :
    List Char → Option Nat
  | [] => some offset
  | c :: rest =>
    if line = p.line ∧ p.character ≤ column then some offset
    else if line = p.line ∧ c = '\n' then
      if afterReturn then if offset = 0 then none else some (offset - 1) else some offset
    else if c = '\n' then (k.sum? line 1).bind fun line => scan? k p line 0 (offset + 1) false rest
    else (k.sum? column (UInt32.ofNat (units c))).bind fun column =>
      scan? k p line column (offset + 1) (c = '\r') rest

/-- The offset of a position, unless the build panics on the way. -/
def offsetAt? (k : Addition) (text : List Char) (p : Position) : Option Nat :=
  scan? k p 0 0 0 false text

end ExtensionHost.Document
