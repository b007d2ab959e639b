import ExtensionHost.Wire.Position
import ExtensionHost.Error

/-!
# Answers of a language server

What a server may answer when it is asked for references or for formatting: nothing, one location,
several locations, or a list of text edits.
-/

namespace ExtensionHost

/-- The failure of an answer that could not be read. -/
def unreadable (what : String) (e : DecodeError) : HostError :=
  ⟨.lsp, "Failed to parse " ++ what ++ ": " ++ e.message⟩

/-- The locations of an answer: none for null, one for an object, any number for an array. -/
def parseLocations : Json → Except HostError (List Location)
  | .null => .ok []
  | .array items => (Decoder.list Location.decode (.array items)).mapError (unreadable "locations")
  | .object members =>
    ((Location.decode (.object members)).map fun l => [l]).mapError (unreadable "location")
  | v => .error ⟨.lsp, "Unexpected locations result: " ++ v.compact⟩

/-- The text edits of an answer; null asks for no change. -/
def parseTextEdits : Json → Except HostError (List TextEdit)
  | .null => .ok []
  | v => (Decoder.list TextEdit.decode v).mapError (unreadable "text edits")

end ExtensionHost
