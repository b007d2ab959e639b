import ExtensionHost.Json.Decode

/-!
# Positions on the wire

Positions, ranges, locations and text edits as a language server sends them: a line and a column of
UTF-16 units, both counted from zero, and what is built from them. Each type has an encoder and a
decoder.
-/

namespace ExtensionHost

/-- A number of 32 bits as a value. -/
def Json.word32 (n : UInt32) : Json := .nat n.toNat

/-! ## Positions -/

/-- A place in a text: line and column in UTF-16 units, both from zero. -/
structure Position where
  line : UInt32 := 0
  character : UInt32 := 0
  deriving Repr, DecidableEq, Inhabited

namespace Position

/-- The value of a position. -/
def encode (p : Position) : Json :=
  .object [("character", .word32 p.character), ("line", .word32 p.line)]

/-- A position from the members of an object. -/
def ofMembers (entries : List (String × Json)) : Except DecodeError Position := do
  let character ← Decoder.field? entries "character" Decoder.word32
  let line ← Decoder.field? entries "line" Decoder.word32
  let line ← Decoder.required "line" line
  let character ← Decoder.required "character" character
  .ok ⟨line, character⟩

/-- A position from an array. -/
def ofItems (items : List Json) : Except DecodeError Position := do
  let what := Decoder.recordOf "Position" 2
  let line ← Decoder.element what items 0 Decoder.word32
  let character ← Decoder.element what items 1 Decoder.word32
  Decoder.noMoreThan 2 items
  .ok ⟨line, character⟩

/-- The position of a value. -/
def decode : Decoder Position := Decoder.record "Position" ofMembers ofItems

end Position

/-! ## Ranges -/

/-- The text from one place to another. -/
structure Range where
  start : Position := {}
  stop : Position := {}
  deriving Repr, DecidableEq, Inhabited

namespace Range

/-- The empty range at a place. -/
def point (p : Position) : Range := ⟨p, p⟩

/-- The value of a range. -/
def encode (r : Range) : Json :=
  .object [("end", r.stop.encode), ("start", r.start.encode)]

/-- A range from the members of an object. -/
def ofMembers (entries : List (String × Json)) : Except DecodeError Range := do
  let stop ← Decoder.field? entries "end" Position.decode
  let start ← Decoder.field? entries "start" Position.decode
  let start ← Decoder.required "start" start
  let stop ← Decoder.required "end" stop
  .ok ⟨start, stop⟩

/-- A range from an array. -/
def ofItems (items : List Json) : Except DecodeError Range := do
  let what := Decoder.recordOf "Range" 2
  let start ← Decoder.element what items 0 Position.decode
  let stop ← Decoder.element what items 1 Position.decode
  Decoder.noMoreThan 2 items
  .ok ⟨start, stop⟩

/-- The range of a value. -/
def decode : Decoder Range := Decoder.record "Range" ofMembers ofItems

end Range

/-! ## Locations -/

/-- A range in a document. -/
structure Location where
  uri : String
  range : Range
  deriving Repr, DecidableEq

namespace Location

/-- The value of a location. -/
def encode (l : Location) : Json :=
  .object [("range", l.range.encode), ("uri", .string l.uri)]

/-- A location from the members of an object. -/
def ofMembers (entries : List (String × Json)) : Except DecodeError Location := do
  let range ← Decoder.field? entries "range" Range.decode
  let uri ← Decoder.field? entries "uri" Decoder.string
  let uri ← Decoder.required "uri" uri
  let range ← Decoder.required "range" range
  .ok ⟨uri, range⟩

/-- A location from an array. -/
def ofItems (items : List Json) : Except DecodeError Location := do
  let what := Decoder.recordOf "Location" 2
  let uri ← Decoder.element what items 0 Decoder.string
  let range ← Decoder.element what items 1 Range.decode
  Decoder.noMoreThan 2 items
  .ok ⟨uri, range⟩

/-- The location of a value. -/
def decode : Decoder Location := Decoder.record "Location" ofMembers ofItems

end Location

/-! ## Text edits -/

/-- A text in place of a range. -/
structure TextEdit where
  range : Range
  newText : String
  deriving Repr, DecidableEq

namespace TextEdit

/-- The value of a text edit. -/
def encode (e : TextEdit) : Json :=
  .object [("newText", .string e.newText), ("range", e.range.encode)]

/-- A text edit from the members of an object. -/
def ofMembers (entries : List (String × Json)) : Except DecodeError TextEdit := do
  let newText ← Decoder.field? entries "newText" Decoder.string
  let range ← Decoder.field? entries "range" Range.decode
  let range ← Decoder.required "range" range
  let newText ← Decoder.required "newText" newText
  .ok ⟨range, newText⟩

/-- A text edit from an array. -/
def ofItems (items : List Json) : Except DecodeError TextEdit := do
  let what := Decoder.recordOf "TextEdit" 2
  let range ← Decoder.element what items 0 Range.decode
  let newText ← Decoder.element what items 1 Decoder.string
  Decoder.noMoreThan 2 items
  .ok ⟨range, newText⟩

/-- The text edit of a value. -/
def decode : Decoder TextEdit := Decoder.record "TextEdit" ofMembers ofItems

end TextEdit

end ExtensionHost
