import ExtensionHost.CommandLine.Arguments

/-!
# Help

What the program says about itself and about its commands: what a command does, how it is called, and
sections of two columns. A section whose texts do not fit beside its names has them below the names.
-/

namespace ExtensionHost.CommandLine

/-! ## Pages -/

/-- A name with what is said about it. -/
structure HelpRow where
  name : String
  text : String := ""
  deriving Repr

/-- Rows under a title. -/
structure HelpSection where
  title : String
  rows : List HelpRow
  deriving Repr

/-- A page about a command. -/
structure HelpPage where
  about : String
  usage : String
  sections : List HelpSection
  deriving Repr

/-! ## Layout -/

/-- The width of a page. -/
def pageWidth : Nat := 100

/-- Spaces. -/
def spaces (n : Nat) : String := String.ofList (List.replicate n ' ')

/-- The width of the names of a section. -/
def HelpSection.nameWidth (s : HelpSection) : Nat :=
  s.rows.foldl (fun n row => max n row.name.length) 0

/-- Whether the texts stand below the names: the names leave less than three fifths of the page, and a
text needs more. -/
def HelpSection.isTall (s : HelpSection) : Bool :=
  let taken := s.nameWidth + 12
  2 * pageWidth < 5 * taken && s.rows.any fun row => pageWidth - taken < row.text.length

/-- The lines of a row. -/
def HelpRow.lines (tall : Bool) (width : Nat) (row : HelpRow) : List String :=
  if tall then ["  " ++ row.name, spaces 10 ++ row.text]
  else ["  " ++ row.name ++ spaces (width - row.name.length) ++ "  " ++ row.text]

/-- The lines of a section. -/
def HelpSection.lines (s : HelpSection) : List String :=
  (s.title ++ ":") :: s.rows.flatMap (HelpRow.lines s.isTall s.nameWidth)

/-- The lines of a page. -/
def HelpPage.lines (p : HelpPage) : List String :=
  [p.about, "", "Usage: " ++ p.usage] ++ p.sections.flatMap fun s => "" :: s.lines

/-- The text of a page. -/
def HelpPage.text (p : HelpPage) : String := String.join (p.lines.map (· ++ "\n"))

/-! ## What is said -/

/-- What a command does. -/
def Topic.about : Topic → String
  | .program => "exnova - Elixir editor extension, headless"
  | .format => "Format a file with \x60mix format\x60"
  | .formatServer => "Format a file with the language server"
  | .references => "Find references to the symbol at a position (1-based)"
  | .save => "Save a file, formatting it first when format-on-save is enabled"
  | .config => "Show or edit settings"
  | .configShow => "Show resolved settings"
  | .configSet => "Set a setting (value is JSON, bare words are taken as strings)"
  | .configHelp => "Print this message or the help of the given subcommand(s)"
  | .help => "Print this message or the help of the given subcommand(s)"

/-- How a command is called. -/
def Topic.usage : Topic → String
  | .program => "exnova [OPTIONS] <COMMAND>"
  | .format => "exnova format [OPTIONS] <FILE>"
  | .formatServer => "exnova format-server [OPTIONS] <FILE>"
  | .references => "exnova references --line <LINE> --column <COLUMN> <FILE>"
  | .save => "exnova save <FILE>"
  | .config => "exnova config <COMMAND>"
  | .configShow => "exnova config show"
  | .configSet => "exnova config set [OPTIONS] <KEY> <VALUE>"
  | .configHelp => "exnova config help [COMMAND]..."
  | .help => "exnova help [COMMAND]..."

/-- A section about commands of these names. -/
def commandSection (commands : List (String × Topic)) : HelpSection :=
  ⟨"Commands", commands.map fun (name, t) => ⟨name, t.about⟩⟩

/-- A section about values. -/
def valueSection (rows : List HelpRow) : HelpSection := ⟨"Arguments", rows⟩

/-- A section about options, the last of which asks for help. -/
def optionSection (rows : List HelpRow) : HelpSection :=
  ⟨"Options", rows ++ [⟨"-h, --help", "Print help"⟩]⟩

/-- An option without a letter, whose name stands below the names of those with one. -/
def longOption (name text : String) : HelpRow := ⟨"    " ++ name, text⟩

/-- The sections about the options of the program. -/
def programSections : List HelpSection :=
  [ commandSection
      [ ("format", .format), ("format-server", .formatServer), ("references", .references),
        ("save", .save), ("config", .config), ("help", .help) ],
    ⟨"Options",
      [ longOption "--extension-path <EXTENSION_PATH>"
          "Extension install directory (contains \x60elixir-ls/\x60)",
        ⟨"-w, --workspace <WORKSPACE>", "Workspace root (defaults to the current directory)"⟩,
        longOption "--mix <MIX>"
          "Path to \x60mix\x60 (overrides workspace and global settings for this run)",
        longOption "--dev" "Show development notifications",
        longOption "--auto-restart"
          "Restart the language server without asking if it stops unexpectedly",
        ⟨"-d, --debug", "Enable debug logging"⟩,
        ⟨"-h, --help", "Print help"⟩,
        ⟨"-V, --version", "Print version"⟩ ]⟩ ]

/-- The option to write a document back. -/
def writeRow : HelpRow := longOption "--write" "Write the result back instead of printing it"

/-- The section about a file. -/
def fileSection : HelpSection := valueSection [⟨"<FILE>", ""⟩]

/-- The sections of the page about a command. -/
def Topic.sections : Topic → List HelpSection
  | .program => programSections
  | .format => [fileSection, optionSection [writeRow]]
  | .formatServer => [fileSection, optionSection [writeRow]]
  | .references =>
    [ fileSection,
      optionSection [longOption "--line <LINE>" "", longOption "--column <COLUMN>" ""] ]
  | .save => [fileSection, optionSection []]
  | .config =>
    [ commandSection [("show", .configShow), ("set", .configSet), ("help", .configHelp)],
      optionSection [] ]
  | .configShow => [optionSection []]
  | .configSet =>
    [ valueSection [⟨"<KEY>", ""⟩, ⟨"<VALUE>", ""⟩],
      optionSection
        [longOption "--global" "Write to global settings instead of the workspace"] ]
  | .configHelp => [valueSection [⟨"[COMMAND]...", "Print help for the subcommand(s)"⟩]]
  | .help => [valueSection [⟨"[COMMAND]...", "Print help for the subcommand(s)"⟩]]

/-- The page about a command. -/
def Topic.page (t : Topic) : HelpPage := ⟨t.about, t.usage, t.sections⟩

/-- The text of the page about a command. -/
def Topic.helpText (t : Topic) : String := t.page.text

end ExtensionHost.CommandLine
