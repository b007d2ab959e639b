/-!
# The commands of the extension

The identifiers under which the extension registers its commands.
-/

namespace ExtensionHost.Command

/-- Formats a document with the formatter. -/
def formatDocument : String := "elixir.commands.formatDocument"

/-- Formats a document with the language server. -/
def formatWithServer : String := "elixir.commands.formatDocumentWithServer"

/-- Finds references to what is selected. -/
def findReferences : String := "elixir.commands.findReferences"

/-- Restarts the language server. -/
def restart : String := "elixir.commands.restart"

end ExtensionHost.Command
