import ExtensionHost.Text.Hidden

/-!
# Quoted texts

The quoted form of a text in a message: double quotes around it, a backslash before quotes and
backslashes, short names for the common controls, and the code point of every other hidden
character.
-/

namespace ExtensionHost.Text

/-- The lower-case hexadecimal digits of a number. -/
def hex (n : Nat) : List Char :=
  Nat.toDigits 16 n

/-- The code point of a character in braces. -/
def quoteCode (c : Char) : List Char :=
  "\\u\x7b".toList ++ hex c.toNat ++ ['\x7d']

/-- The quoted form of one character. -/
def quoteChar (c : Char) : List Char :=
  match c with
  | '\x00' => ['\\', '0']
  | '\t' => ['\\', 't']
  | '\r' => ['\\', 'r']
  | '\n' => ['\\', 'n']
  | '"' => ['\\', '"']
  | '\\' => ['\\', '\\']
  | c => if isHidden c then quoteCode c else [c]

/-- The quoted form of a text. -/
def quote (text : String) : String :=
  String.ofList ('"' :: text.toList.flatMap quoteChar ++ ['"'])

end ExtensionHost.Text
