import ExtensionHost.Document.Position
import ExtensionHost.Error

/-!
# Applying text edits

A list of edits is applied at once: every range refers to the text before all edits. The edits are
taken in the order of their start, those with one start in the order of the list, and must neither
overlap nor end before they start.
-/

namespace ExtensionHost.Document

/-- A text in place of the characters from one offset to another. -/
structure Span where
  start : Nat
  stop : Nat
  newText : List Char
  deriving Repr, DecidableEq

/-- The offsets of an edit. -/
def Span.ofEdit (text : List Char) (e : TextEdit) : Span :=
  ⟨offsetAt text e.range.start, offsetAt text e.range.stop, e.newText.toList⟩

/-- Puts a span before the first one that starts behind it. -/
def insertSpan (s : Span) : List Span → List Span
  | [] => [s]
  | t :: rest => if s.start < t.start then s :: t :: rest else t :: insertSpan s rest

/-- Spans in the order of their start; spans with one start keep their order. -/
def sortSpans (spans : List Span) : List Span :=
  spans.foldl (fun sorted s => insertSpan s sorted) []

/-- The text from the offset `cursor` on with sorted spans applied, or the start of the first span
that does not follow the spans before it. -/
def applySpans (text : List Char) (cursor : Nat) : List Span → Except Nat (List Char)
  | [] => .ok (text.drop cursor)
  | s :: rest =>
    if s.start < cursor ∨ s.stop < s.start then .error s.start
    else do
      let tail ← applySpans text s.stop rest
      .ok ((text.drop cursor).take (s.start - cursor) ++ s.newText ++ tail)

/-- The failure of edits that overlap or end before they start. -/
def conflictError (start : Nat) : HostError :=
  ⟨.lsp, "Overlapping or inverted text edit at offset " ++ toString start⟩

/-- The text with all edits applied. -/
def applyEdits (text : List Char) (edits : List TextEdit) : Except HostError (List Char) :=
  (applySpans text 0 (sortSpans (edits.map (Span.ofEdit text)))).mapError conflictError

/-! ## The call in a build -/

/-- The characters from one offset to another, if the text has them. -/
def slice? (text : List Char) (start stop : Nat) : Option (List Char) :=
  if start ≤ stop ∧ stop ≤ text.length then some ((text.drop start).take (stop - start)) else none

/-- The offsets of an edit, unless the build panics on the way. -/
def Span.ofEdit? (k : Addition) (text : List Char) (e : TextEdit) : Option Span := do
  let start ← offsetAt? k text e.range.start
  let stop ← offsetAt? k text e.range.stop
  some ⟨start, stop, e.newText.toList⟩

/-- The pass over sorted spans that slices the text. -/
def applySpans? (text : List Char) (cursor : Nat) : List Span → Option (Except Nat (List Char))
  | [] => (slice? text cursor text.length).map .ok
  | s :: rest =>
    if s.start < cursor ∨ s.stop < s.start then some (.error s.start)
    else do
      let kept ← slice? text cursor s.start
      let tail ← applySpans? text s.stop rest
      some (tail.map fun tail => kept ++ s.newText ++ tail)

/-- The text with all edits applied, unless the build panics on the way: at a sum, at a subtraction or at a
slice. -/
def applyEdits? (k : Addition) (text : List Char) (edits : List TextEdit) :
    Option (Except HostError (List Char)) := do
  let spans ← edits.mapM (Span.ofEdit? k text)
  let result ← applySpans? text 0 (sortSpans spans)
  some (result.mapError conflictError)

/-! ## One edit at a time -/

/-- The text with one span replaced. -/
def splice (text : List Char) (s : Span) : List Char :=
  text.take s.start ++ s.newText ++ text.drop s.stop

/-- The text with spans replaced one after the other, the last span of the list first. -/
def spliceAll (text : List Char) : List Span → List Char
  | [] => text
  | s :: rest => splice (spliceAll text rest) s

end ExtensionHost.Document
