import ExtensionHost.Text.Quoted

/-!
# Log lines

What a program tells about its work, line by line, with how much each line matters. Controls that a
terminal would act on are shown by their code.
-/

namespace ExtensionHost

/-- How much a line matters. -/
inductive Level where
  | info
  | warning
  | error
  deriving Repr, DecidableEq

/-- The word for a level. -/
def Level.word : Level → String
  | .info => "INFO"
  | .warning => "WARN"
  | .error => "ERROR"

/-- A line of the log. -/
structure LogLine where
  level : Level
  text : String
  deriving Repr, DecidableEq

/-- A character of the log as it is written: the controls of a terminal by their code, two digits
behind an `x` or, above ASCII, the code point in braces; all else as it is. -/
def shownChar (c : Char) : List Char :=
  if c = '\x07' || c = '\x08' || c = '\x0c' then ['\\', 'x', '0'] ++ Text.hex c.toNat
  else if c = '\x1b' || c = '\x7f' then ['\\', 'x'] ++ Text.hex c.toNat
  else if 0x80 ≤ c.toNat && c.toNat ≤ 0x9F then Text.quoteCode c
  else [c]

/-- A line as it is written. -/
def LogLine.shown (l : LogLine) : String :=
  l.level.word ++ " " ++ String.ofList (l.text.toList.flatMap shownChar)

end ExtensionHost
