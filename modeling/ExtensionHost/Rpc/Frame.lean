import ExtensionHost.Text.Blank
import ExtensionHost.Text.Quoted
import ExtensionHost.Text.Utf8

/-!
# Frames

A message between a client and its server is framed: header lines, an empty line, and as many bytes as
the header said. `frame` writes one. `readFrame` takes one from the front of a stream of bytes that may
go on or have ended: header lines end in a line feed, the length is that of the last line that names
it, and blocks without a length are skipped.
-/

namespace ExtensionHost.Rpc

/-! ## Writing -/

/-- The header of a body of `size` bytes. -/
def header (size : Nat) : List Char :=
  "Content-Length: ".toList ++ (toString size).toList ++ ['\r', '\n', '\r', '\n']

/-- A body with its header. -/
def frame (body : List Char) : List UInt8 :=
  Utf8.encode (header (Utf8.size body)) ++ Utf8.encode body

/-- The frames of messages, one after the other. -/
def frames (messages : List String) : List UInt8 :=
  messages.flatMap fun message => frame message.toList

/-! ## Header lines -/

/-- Why a stream is not read any further. -/
inductive FrameError where
  | invalidLength (value : String)
  | notText (fault : Utf8.Fault)
  | cutShort
  deriving Repr, DecidableEq

/-- The text of a failure to read. -/
def FrameError.message : FrameError → String
  | .invalidLength value => "Invalid Content-Length: " ++ Text.quote value
  | .notText fault => fault.message
  | .cutShort => "early eof"

/-- The number that a text of digits stands for. -/
def digits? : List Char → Option Nat
  | [] => none
  | text =>
    if text.all Char.isDigit then some (text.foldl (fun n c => n * 10 + (c.toNat - 48)) 0)
    else none

/-- The least number that is no length. -/
def lengthBound : Nat := UInt64.size

/-- The length that a value stands for; it may have a plus sign and zeros before it. -/
def length? (value : List Char) : Option Nat :=
  let n := match value with
    | '+' :: rest => digits? rest
    | value => digits? value
  n.filter (· < lengthBound)

/-- Why a value is no length. -/
def lengthFault (value : List Char) : String :=
  let digits := match value with
    | '+' :: rest => rest
    | value => value
  if value.isEmpty then "cannot parse integer from empty string"
  else if digits.isEmpty || !digits.all Char.isDigit then "invalid digit found in string"
  else "number too large to fit in target type"

/-- The name of the header that holds the length, in lower case. -/
def lengthName : List Char := "content-length".toList

/-- The length after a header line, from the one before it. -/
def lengthAfter (length : Nat) (line : List Char) : Except FrameError Nat :=
  match line.dropWhile (· ≠ ':') with
  | [] => .ok length
  | _ :: value =>
    if (Text.trim (line.takeWhile (· ≠ ':'))).map Char.toLower = lengthName then
      match length? (Text.trim value) with
      | some n => .ok n
      | none => .error (.invalidLength (String.ofList (Text.trim value)))
    else .ok length

/-- Whether a line ends a header block. -/
def isEmptyLine (line : List Char) : Bool :=
  line = ['\r', '\n'] || line = ['\n']

/-! ## Reading -/

/-- What is at the front of a stream: a frame and the bytes after it, the beginning of one, nothing
more, something that cannot be read, or a frame that no memory holds. -/
inductive FrameStep where
  | frame (body rest : List UInt8)
  | incomplete
  | ended
  | failed (e : FrameError)
  | tooLarge
  deriving Repr, DecidableEq

/-- The byte of a line feed. -/
def lineFeed : UInt8 := 0x0A

/-- The first line with its line feed, and the bytes after it. -/
def nextLine? : List UInt8 → Option (List UInt8 × List UInt8)
  | [] => none
  | b :: rest =>
    if b = lineFeed then some ([b], rest)
    else (nextLine? rest).map fun (line, rest) => (b :: line, rest)

theorem length_of_nextLine? {bytes line rest : List UInt8}
    (h : nextLine? bytes = some (line, rest)) : rest.length < bytes.length := by
  induction bytes generalizing line rest with
  | nil => simp [nextLine?] at h
  | cons b bytes ih =>
    simp only [nextLine?] at h
    split at h
    · cases h
      exact Nat.lt_succ_self _
    · obtain ⟨next, hnext, heq⟩ := Option.map_eq_some_iff.mp h
      cases heq
      exact Nat.lt_succ_of_lt (ih hnext)

/-- The greatest number of bytes that memory is asked for. -/
def greatestBody : Nat := 9223372036854775807

/-- A body of a length at the front of a stream. -/
def readBody (closed : Bool) (length : Nat) (bytes : List UInt8) : FrameStep :=
  if greatestBody < length then .tooLarge
  else if length ≤ bytes.length then .frame (bytes.take length) (bytes.drop length)
  else if closed then .failed .cutShort
  else .incomplete

/-- The text of a header line. -/
def lineText (line : List UInt8) : Except FrameError (List Char) :=
  match Utf8.decode? line, Utf8.fault? line with
  | some text, _ => .ok text
  | none, some fault => .error (.notText fault)
  | none, none => .ok []

/-- What is left when the stream ended within a header line. -/
def readLastLine (length : Nat) (line : List UInt8) : FrameStep :=
  match lineText line >>= lengthAfter length with
  | .ok _ => .ended
  | .error e => .failed e

/-- What is at the front of a stream, within a header block that has said `length` so far. -/
def readBlock (closed : Bool) (length : Nat) (bytes : List UInt8) : FrameStep :=
  match _h : nextLine? bytes with
  | none => if closed then readLastLine length bytes else .incomplete
  | some (line, rest) =>
    match lineText line with
    | .error e => .failed e
    | .ok text =>
      if isEmptyLine text then
        if length = 0 then readBlock closed 0 rest else readBody closed length rest
      else
        match lengthAfter length text with
        | .error e => .failed e
        | .ok length => readBlock closed length rest
termination_by bytes.length
decreasing_by all_goals exact length_of_nextLine? _h

/-- What is at the front of a stream. -/
def readFrame (closed : Bool) (bytes : List UInt8) : FrameStep :=
  readBlock closed 0 bytes

end ExtensionHost.Rpc
