import ExtensionHost.Document.Edits
import ExtensionHost.File.Tree
import ExtensionHost.File.Uri
import ExtensionHost.Text.Bytes

/-!
# Buffers

A document in memory: its address, its path on disk if it has one, its syntax, its text, a selection
and a version that counts the changes modulo 2^64. Offsets count characters. A change replaces the
characters between two offsets of the text, or fails and leaves the buffer as it was. It works on the
bytes of the text; `edit_eq` says what it makes of its characters.
-/

namespace ExtensionHost

/-! ## Extents -/

/-- The characters from one offset to another. -/
structure Extent where
  start : Nat := 0
  stop : Nat := 0
  deriving Repr, DecidableEq, Inhabited

namespace Extent

/-- The empty extent at an offset. -/
def point (offset : Nat) : Extent := ⟨offset, offset⟩

/-- The number of characters; none when the extent ends before it starts. -/
def length (e : Extent) : Nat := e.stop - e.start

/-- Whether there are no characters. -/
def isEmpty (e : Extent) : Bool := e.length = 0

end Extent

/-! ## Syntaxes -/

/-- The name of the syntax that the extension works on. -/
def elixirSyntax : String := "elixir"

/-- The syntaxes of files by the extension of their name. -/
def syntaxes : List (String × String) :=
  [("ex", elixirSyntax), ("exs", elixirSyntax), ("eex", "eex"), ("leex", "eex"), ("heex", "heex")]

/-- The syntax of a file with a path. -/
def syntaxOf? (path : List UInt8) : Option String := do
  let ext ← Path.fileExtension? path
  syntaxes.lookup (String.ofList (← Utf8.decode? ext))

/-! ## Buffers -/

/-- A document in memory. -/
structure Buffer where
  uri : String := "untitled:Untitled-1"
  path : Option String := none
  syntaxName : Option String := none
  text : List Char := []
  selection : Extent := {}
  version : UInt64 := 0
  deriving Repr, DecidableEq, Inhabited

namespace Buffer

/-- A document that stands at a path. -/
def withPath (b : Buffer) (path : String) : Buffer :=
  { b with uri := FileUri.ofPath path, path := some path }

/-- All characters. -/
def fullExtent (b : Buffer) : Extent := ⟨0, b.text.length⟩

/-- The characters of an extent that the text has. -/
def slice (b : Buffer) (e : Extent) : List Char := (b.text.drop e.start).take e.length

/-- The path of the document, or its address if it has none. -/
def displayName (b : Buffer) : String := b.path.getD b.uri

/-- The failure of a change outside the text. -/
def outOfBounds (e : Extent) : HostError :=
  ⟨.editor, "Range " ++ toString e.start ++ ".." ++ toString e.stop ++ " is out of bounds"⟩

/-- Replaces the characters of an extent, from the byte offset of the first to that behind the last one.
There is nothing if the text cannot be cut there. -/
def edit? (b : Buffer) (e : Extent) (replacement : List Char) : Option (Except HostError Buffer) :=
  match Utf8.byteOffset? b.text e.start, Utf8.byteOffset? b.text e.stop with
  | some start, some stop =>
    if start ≤ stop then
      (Utf8.replaceBytes? b.text start stop replacement).map fun text =>
        .ok { b with text, version := b.version + 1 }
    else some (.error (outOfBounds e))
  | _, _ => some (.error (outOfBounds e))

/-- Replaces the characters of an extent. -/
def edit (b : Buffer) (e : Extent) (replacement : List Char) : Except HostError Buffer :=
  (b.edit? e replacement).getD (.error (outOfBounds e))

/-- The byte offsets of characters can be cut at, and are in the order of the characters. -/
theorem edit?_eq (b : Buffer) (e : Extent) (replacement : List Char) :
    b.edit? e replacement =
      some (if e.start ≤ e.stop ∧ e.stop ≤ b.text.length then
        .ok { b with
          text := Document.splice b.text ⟨e.start, e.stop, replacement⟩
          version := b.version + 1 }
      else .error (outOfBounds e)) := by
  rw [edit?, Utf8.byteOffset?_eq, Utf8.byteOffset?_eq]
  by_cases hStop : e.stop ≤ b.text.length
  · by_cases hStart : e.start ≤ b.text.length
    · rw [if_pos hStart, if_pos hStop]
      simp only [Utf8.size_take_le_iff hStart hStop]
      by_cases hOrder : e.start ≤ e.stop
      · rw [if_pos hOrder, if_pos ⟨hOrder, hStop⟩, Utf8.replaceBytes?_take hOrder hStop]
        rfl
      · rw [if_neg hOrder, if_neg (mt And.left hOrder)]
    · have hOrder : ¬ e.start ≤ e.stop := fun h => hStart (Nat.le_trans h hStop)
      rw [if_neg hStart, if_neg (mt And.left hOrder)]
  · rw [if_neg hStop, if_neg (mt And.right hStop)]
    split
    · rename_i hNone
      cases hNone
    · rfl

theorem edit_eq (b : Buffer) (e : Extent) (replacement : List Char) :
    b.edit e replacement =
      if e.start ≤ e.stop ∧ e.stop ≤ b.text.length then
        .ok { b with
          text := Document.splice b.text ⟨e.start, e.stop, replacement⟩
          version := b.version + 1 }
      else .error (outOfBounds e) := by
  rw [edit, edit?_eq, Option.getD_some]

/-- The document in a file. -/
def load (files : Files) (cwd path : String) : Except HostError Buffer :=
  match files.fullName cwd path with
  | .error e => .error ⟨.notFound, path ++ ": " ++ e.message⟩
  | .ok name =>
    match files.readText cwd name with
    | .error e => .error ⟨.io, e.message⟩
    | .ok text =>
      .ok
        { uri := FileUri.ofPath name
          path := some name
          syntaxName := syntaxOf? (Utf8.encode name.toList)
          text := text.toList }

/-- The failure to save a document that stands nowhere. -/
def untitledError : HostError := ⟨.editor, "Cannot save an untitled document"⟩

/-- The files after the document was written to its path. -/
def store (b : Buffer) (files : Files) (cwd : String) : Except HostError Files :=
  match b.path with
  | none => .error untitledError
  | some path =>
    (files.writeText cwd path (String.ofList b.text)).mapError fun e => ⟨.io, e.message⟩

end Buffer

end ExtensionHost
