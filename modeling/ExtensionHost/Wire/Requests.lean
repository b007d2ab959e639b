import ExtensionHost.Wire.Options
import ExtensionHost.Wire.Position

/-!
# Requests to a language server

The methods that a language server is asked by, and their parameters.
-/

namespace ExtensionHost.Request

/-- The method that asks for references. -/
def references : String := "textDocument/references"

/-- The method that asks for formatting. -/
def formatting : String := "textDocument/formatting"

/-- The value that names a document. -/
def document (uri : String) : Json := .object [("uri", .string uri)]

/-- The parameters that ask for references to a position. -/
def referencesParams (uri : String) (p : Position) (declaration : Bool) : Json :=
  .object
    [ ("context", .object [("includeDeclaration", .bool declaration)]), ("position", p.encode),
      ("textDocument", document uri) ]

/-- The parameters that ask for a document to be formatted. -/
def formattingParams (uri : String) (options : FormattingOptions) : Json :=
  .object [("options", options.encode), ("textDocument", document uri)]

end ExtensionHost.Request
