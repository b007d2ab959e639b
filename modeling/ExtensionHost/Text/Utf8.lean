/-!
# UTF-8

Bytes and characters. `Utf8.encode` writes characters as bytes. `Utf8.chunks` reads any bytes
back: each chunk is one character, or a longest run of bytes that starts a character and does not
finish it. The strict reader `Utf8.decode?` accepts bytes all of whose chunks are characters; the
lossy reader `Utf8.decodeLossy` puts one replacement character where a run is malformed.
-/

namespace ExtensionHost.Utf8

/-! ## Writing -/

/-- The bytes of a text, character by character. -/
def encode (text : List Char) : List UInt8 :=
  text.flatMap String.utf8EncodeChar

/-- The number of bytes that a text takes. -/
def size (text : List Char) : Nat :=
  (encode text).length

/-! ## Reading -/

/-- A piece of a byte string: one character, or bytes that belong to no character. -/
inductive Chunk where
  | scalar (c : Char)
  | malformed (bytes : List UInt8)
  deriving Repr, DecidableEq

/-- A byte that continues a character. -/
def isContinuation (b : UInt8) : Bool :=
  0x80 ≤ b && b < 0xC0

/-- The range of second bytes after the lead byte `b`, and how many continuation bytes follow the
second one. A byte that starts no longer character has no range. -/
def secondByte? (b : UInt8) : Option (UInt8 × UInt8 × Nat) :=
  if b < 0xC2 then none
  else if b < 0xE0 then some (0x80, 0xBF, 0)
  else if b = 0xE0 then some (0xA0, 0xBF, 1)
  else if b = 0xED then some (0x80, 0x9F, 1)
  else if b < 0xF0 then some (0x80, 0xBF, 1)
  else if b = 0xF0 then some (0x90, 0xBF, 2)
  else if b < 0xF4 then some (0x80, 0xBF, 2)
  else if b = 0xF4 then some (0x80, 0x8F, 2)
  else none

/-- The payload bits of a continuation byte. -/
def payload (b : UInt8) : Nat :=
  b.toNat % 64

/-- The payload bits of a lead byte, when `more` bytes follow the second one. -/
def leadPayload (b : UInt8) (more : Nat) : Nat :=
  match more with
  | 0 => b.toNat % 32
  | 1 => b.toNat % 16
  | _ => b.toNat % 8

/-- Reads `count` more continuation bytes onto the character value `value`; `seen` holds the bytes
of the character read so far, the last one first. -/
def finish (seen : List UInt8) (value : Nat) : Nat → List UInt8 → Chunk × List UInt8
  | 0, rest => (.scalar (Char.ofNat value), rest)
  | _ + 1, [] => (.malformed seen.reverse, [])
  | count + 1, b :: rest =>
    if isContinuation b then finish (b :: seen) (value * 64 + payload b) count rest
    else (.malformed seen.reverse, b :: rest)

/-- The chunk that starts with the byte `b`, and the bytes after it. -/
def chunk (b : UInt8) (rest : List UInt8) : Chunk × List UInt8 :=
  if b < 0x80 then (.scalar (Char.ofNat b.toNat), rest)
  else
    match secondByte? b, rest with
    | none, _ => (.malformed [b], rest)
    | some _, [] => (.malformed [b], [])
    | some (low, high, more), c :: rest =>
      if low ≤ c && c ≤ high then
        finish [c, b] (leadPayload b more * 64 + payload c) more rest
      else (.malformed [b], c :: rest)

theorem length_finish (seen : List UInt8) (value count : Nat) (rest : List UInt8) :
    (finish seen value count rest).2.length ≤ rest.length := by
  induction count generalizing seen value rest with
  | zero => simp [finish]
  | succ count ih =>
    cases rest with
    | nil => simp [finish]
    | cons b rest =>
      simp only [finish]
      split
      · exact Nat.le_succ_of_le (ih _ _ _)
      · simp

theorem length_chunk (b : UInt8) (rest : List UInt8) :
    (chunk b rest).2.length ≤ rest.length := by
  unfold chunk
  split
  · exact Nat.le_refl _
  · split
    · exact Nat.le_refl _
    · simp
    · split
      · exact Nat.le_succ_of_le (length_finish _ _ _ _)
      · simp

/-- All chunks of a byte string, in order. -/
def chunks : List UInt8 → List Chunk
  | [] => []
  | b :: rest =>
    let next := chunk b rest
    next.1 :: chunks next.2
termination_by bytes => bytes.length
decreasing_by exact Nat.lt_succ_of_le (length_chunk b rest)

/-- The text of chunks that are all characters. -/
def scalars? : List Chunk → Option (List Char)
  | [] => some []
  | .scalar c :: rest => (scalars? rest).map (c :: ·)
  | .malformed _ :: _ => none

/-- The text that the bytes encode, if they encode one. -/
def decode? (bytes : List UInt8) : Option (List Char) :=
  scalars? (chunks bytes)

/-- The character that stands for a malformed run. -/
def replacement : Char := '\uFFFD'

/-- The character shown for a chunk. -/
def Chunk.shown : Chunk → Char
  | .scalar c => c
  | .malformed _ => replacement

/-- The text of any bytes, with one replacement character for each malformed run. -/
def decodeLossy (bytes : List UInt8) : List Char :=
  (chunks bytes).map Chunk.shown

/-! ## Where bytes stop being a text -/

/-- The position of the first malformed run, and its length unless the bytes end in the middle of
a character that could still be finished. -/
structure Fault where
  index : Nat
  length : Option Nat
  deriving Repr, DecidableEq

/-- Whether the run ends because the bytes end. -/
def truncated (run : List UInt8) : Bool :=
  match run with
  | [] => false
  | b :: rest =>
    match secondByte? b, rest with
    | none, _ => false
    | some _, [] => true
    | some (low, high, more), c :: rest => low ≤ c && c ≤ high && rest.length < more

/-- The first fault among chunks that begin at byte `index`. -/
def firstFault? (index : Nat) : List Chunk → Option Fault
  | [] => none
  | .scalar c :: rest => firstFault? (index + (String.utf8EncodeChar c).length) rest
  | .malformed run :: rest =>
    some ⟨index, if rest.isEmpty && truncated run then none else some run.length⟩

/-- The first fault of a byte string. -/
def fault? (bytes : List UInt8) : Option Fault :=
  firstFault? 0 (chunks bytes)

/-- The description of a fault. -/
def Fault.message (fault : Fault) : String :=
  match fault.length with
  | some n =>
    "invalid utf-8 sequence of " ++ toString n ++ " bytes from index " ++ toString fault.index
  | none => "incomplete utf-8 byte sequence from index " ++ toString fault.index

end ExtensionHost.Utf8
