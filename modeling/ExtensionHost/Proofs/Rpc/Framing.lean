import ExtensionHost.Proofs.Text.Boundaries
import ExtensionHost.Rpc.Frame

/-!
# Reading what was written as frames

The header of a frame holds the number of its bytes in decimal digits, and its lines end in a line feed
that no other character's bytes contain. So the reader finds the end of the header, takes the length from
it and then exactly the bytes of the body, whatever these are and whatever follows: `readFrame_frame`.
`readAll` reads a stream that has ended until it has no further frame, and `readAll_frames` says that it
gives back the bodies that were written and leaves nothing.
-/

namespace ExtensionHost.Rpc

/-! ## Lines -/

/-- Only a line feed is written with the byte of a line feed. -/
theorem lineFeed_notMem_encode {text : List Char} (h : '\n' ∉ text) :
    lineFeed ∉ Utf8.encode text :=
  Utf8.notMem_encode (by decide) h

theorem nextLine?_append {line : List UInt8} (h : lineFeed ∉ line) (rest : List UInt8) :
    nextLine? (line ++ lineFeed :: rest) = some (line ++ [lineFeed], rest) := by
  induction line with
  | nil => simp [nextLine?]
  | cons b line ih =>
    have hb : b ≠ lineFeed := fun hEq => h (hEq ▸ List.mem_cons_self)
    have hLine := ih fun hMem => h (List.mem_cons_of_mem b hMem)
    simp only [List.cons_append, nextLine?, hb, if_false, hLine, Option.map_some]

theorem lineText_encode (text : List Char) : lineText (Utf8.encode text) = .ok text := by
  rw [lineText, Utf8.decode?_encode]

theorem readBlock_of_none {closed : Bool} {length : Nat} {bytes : List UInt8}
    (h : nextLine? bytes = none) :
    readBlock closed length bytes = if closed then readLastLine length bytes else .incomplete := by
  rw [readBlock]
  split
  · rfl
  · rename_i hSome
    rw [h] at hSome
    cases hSome

theorem readBlock_of_some {closed : Bool} {length : Nat} {bytes line rest : List UInt8}
    (h : nextLine? bytes = some (line, rest)) :
    readBlock closed length bytes =
      match lineText line with
      | .error e => .failed e
      | .ok text =>
        if isEmptyLine text then
          if length = 0 then readBlock closed 0 rest else readBody closed length rest
        else
          match lengthAfter length text with
          | .error e => .failed e
          | .ok length => readBlock closed length rest := by
  rw [readBlock]
  split
  · rename_i hNone
    rw [h] at hNone
    cases hNone
  · rename_i hSome
    rw [h] at hSome
    cases hSome
    rfl

/-- A header block that begins with a line goes on by what the line says. -/
theorem readBlock_line {closed : Bool} {length : Nat} {line : List Char} (rest : List UInt8)
    (h : '\n' ∉ line) :
    readBlock closed length (Utf8.encode (line ++ ['\n']) ++ rest) =
      if isEmptyLine (line ++ ['\n']) then
        if length = 0 then readBlock closed 0 rest else readBody closed length rest
      else
        match lengthAfter length (line ++ ['\n']) with
        | .error e => .failed e
        | .ok length => readBlock closed length rest := by
  have hBytes : Utf8.encode (line ++ ['\n']) = Utf8.encode line ++ [lineFeed] :=
    Utf8.encode_append line ['\n']
  have hNext : nextLine? (Utf8.encode (line ++ ['\n']) ++ rest) =
      some (Utf8.encode (line ++ ['\n']), rest) := by
    rw [hBytes, List.append_assoc]
    exact nextLine?_append (lineFeed_notMem_encode h) rest
  rw [readBlock_of_some hNext, lineText_encode]

/-! ## Lengths -/

theorem isDigit_of_mem_digits {n : Nat} {c : Char} (h : c ∈ Nat.toDigits 10 n) :
    c.isDigit = true :=
  Nat.isDigit_of_mem_toDigits (by decide) (by decide) h

theorem digits?_toDigits (n : Nat) : digits? (Nat.toDigits 10 n) = some n := by
  have hDigits : (Nat.toDigits 10 n).all Char.isDigit = true :=
    List.all_eq_true.mpr fun _ => isDigit_of_mem_digits
  have hValue : (Nat.toDigits 10 n).foldl (fun n c => n * 10 + (c.toNat - 48)) 0 = n := by
    have hFold := Nat.ofDigitChars_toDigits (b := 10) (n := n) (by decide) (by decide)
    simp only [Nat.ofDigitChars, Nat.mul_comm] at hFold
    exact hFold
  unfold digits?
  split
  · exact absurd ‹_› Nat.toDigits_ne_nil
  · rw [if_pos hDigits, hValue]

theorem length?_toDigits {n : Nat} (h : n < lengthBound) :
    length? (Nat.toDigits 10 n) = some n := by
  have hFits : decide (n < lengthBound) = true := decide_eq_true h
  unfold length?
  split
  · rename_i hText
    have hPlus := isDigit_of_mem_digits (hText ▸ List.mem_cons_self)
    exact absurd hPlus (by decide)
  · rw [digits?_toDigits, Option.filter_some, if_pos hFits]

theorem isBlank_eq_false_of_isDigit {c : Char} (h : c.isDigit = true) : Text.isBlank c = false := by
  have hRange : 48 ≤ c.toNat ∧ c.toNat ≤ 57 := by
    simp only [Char.isDigit, Bool.and_eq_true, decide_eq_true_eq] at h
    exact h
  simp [Text.isBlank, Text.blankRanges]
  omega

theorem dropWhile_blanks {blanks rest : List Char} (hBlanks : ∀ c ∈ blanks, Text.isBlank c = true)
    (hRest : ∀ c, rest.head? = some c → Text.isBlank c = false) :
    (blanks ++ rest).dropWhile Text.isBlank = rest := by
  rw [List.dropWhile_append_of_pos hBlanks]
  cases rest with
  | nil => rfl
  | cons c rest => exact List.dropWhile_cons_of_neg (by simp [hRest c rfl])

/-- Trimming takes the blank characters around a text away and no other ones. -/
theorem trim_between {before text after : List Char} (hBefore : ∀ c ∈ before, Text.isBlank c = true)
    (hNil : text ≠ []) (hText : ∀ c ∈ text, Text.isBlank c = false)
    (hAfter : ∀ c ∈ after, Text.isBlank c = true) :
    Text.trim (before ++ (text ++ after)) = text := by
  have hStart : Text.trimStart (before ++ (text ++ after)) = text ++ after := by
    refine dropWhile_blanks hBefore fun c hc => hText c (List.mem_of_mem_head? ?_)
    obtain ⟨d, text, rfl⟩ := List.exists_cons_of_ne_nil hNil
    exact hc
  have hEnd : (text ++ after).reverse.dropWhile Text.isBlank = text.reverse := by
    rw [List.reverse_append]
    refine dropWhile_blanks (fun c hc => hAfter c (List.mem_reverse.mp hc)) fun c hc => ?_
    exact hText c (List.mem_reverse.mp (List.mem_of_mem_head? hc))
  rw [Text.trim, hStart, Text.trimEnd, hEnd, List.reverse_reverse]

/-! ## Headers -/

/-- The name of the header that holds the length, as it is written. -/
def writtenName : List Char := "Content-Length".toList

/-- The line that holds a length, without its line feed. -/
def lengthLine (n : Nat) : List Char := writtenName ++ ':' :: ' ' :: (Nat.toDigits 10 n ++ ['\r'])

theorem header_eq (n : Nat) : header n = lengthLine n ++ ['\n'] ++ (['\r'] ++ ['\n']) := by
  have hName : "Content-Length: ".toList = writtenName ++ [':', ' '] := by decide
  have hDigits : (toString n).toList = Nat.toDigits 10 n := by
    rw [Nat.toString_eq_repr, Nat.repr, String.toList_ofList]
  unfold header
  rw [hName, hDigits]
  simp only [lengthLine, List.append_assoc, List.cons_append, List.nil_append]

section Colon

variable {name : List Char} (h : ':' ∉ name) (rest : List Char)
include h

theorem forall_ne_colon : ∀ c ∈ name, decide (c ≠ ':') = true :=
  fun _ hc => decide_eq_true fun hEq => h (hEq ▸ hc)

theorem takeWhile_colon : (name ++ ':' :: rest).takeWhile (· ≠ ':') = name := by
  rw [List.takeWhile_append_of_pos (forall_ne_colon h)]
  simp

theorem dropWhile_colon : (name ++ ':' :: rest).dropWhile (· ≠ ':') = ':' :: rest := by
  rw [List.dropWhile_append_of_pos (forall_ne_colon h)]
  simp

end Colon

theorem lengthAfter_lengthLine (length : Nat) {n : Nat} (h : n < lengthBound) :
    lengthAfter length (lengthLine n ++ ['\n']) = .ok n := by
  have hColon : ':' ∉ writtenName := by decide
  have hName : (Text.trim writtenName).map Char.toLower = lengthName := by decide
  have hSpace : ∀ c ∈ [' '], Text.isBlank c = true := List.all_eq_true.mp (by decide)
  have hValue : Text.trim (' ' :: (Nat.toDigits 10 n ++ ['\r', '\n'])) = Nat.toDigits 10 n :=
    trim_between hSpace Nat.toDigits_ne_nil
      (fun _ hc => isBlank_eq_false_of_isDigit (isDigit_of_mem_digits hc))
      (List.all_eq_true.mp (by decide))
  have hLine : lengthLine n ++ ['\n'] =
      writtenName ++ ':' :: ' ' :: (Nat.toDigits 10 n ++ ['\r', '\n']) := by
    simp only [lengthLine, List.append_assoc, List.cons_append, List.nil_append]
  unfold lengthAfter
  rw [hLine, dropWhile_colon hColon, takeWhile_colon hColon]
  simp only [hName, hValue, length?_toDigits h, if_true]

theorem lineFeed_notMem_lengthLine (n : Nat) : '\n' ∉ lengthLine n := by
  intro hMem
  have hDigit : '\n' ∉ Nat.toDigits 10 n := fun h => absurd (isDigit_of_mem_digits h) (by decide)
  have hName : '\n' ∉ writtenName := by decide
  simp [lengthLine, hName, hDigit] at hMem

/-- Behind the header of a frame the reader takes as many bytes as the header says. -/
theorem readFrame_header {closed : Bool} {n : Nat} (hPos : 0 < n) (hBound : n < lengthBound)
    (rest : List UInt8) :
    readFrame closed (Utf8.encode (header n) ++ rest) = readBody closed n rest := by
  have hNotEmpty : isEmptyLine (lengthLine n ++ ['\n']) = false := by
    have hLong : writtenName = 'C' :: "ontent-Length".toList := by decide
    simp [isEmptyLine, lengthLine, hLong]
  have hEmpty : isEmptyLine (['\r'] ++ ['\n']) = true := by decide
  rw [readFrame, header_eq, Utf8.encode_append, List.append_assoc,
    readBlock_line _ (lineFeed_notMem_lengthLine n)]
  simp only [hNotEmpty, lengthAfter_lengthLine 0 hBound]
  rw [if_neg (by decide), readBlock_line _ (by decide), if_pos hEmpty, if_neg (by omega)]

/-! ## Frames -/

/-- **A frame is read back**, whatever follows it. -/
theorem readFrame_frame {body : List Char} (hNil : body ≠ []) (hSize : Utf8.size body ≤ greatestBody)
    (closed : Bool) (rest : List UInt8) :
    readFrame closed (frame body ++ rest) = .frame (Utf8.encode body) rest := by
  have hPos : 0 < Utf8.size body := List.length_pos_iff.mpr (mt Utf8.encode_eq_nil.mp hNil)
  have hBound : Utf8.size body < lengthBound := Nat.lt_of_le_of_lt hSize (by decide)
  have hLong : Utf8.size body ≤ (Utf8.encode body ++ rest).length := by
    rw [List.length_append]
    exact Nat.le_add_right _ _
  rw [frame, List.append_assoc, readFrame_header hPos hBound, readBody,
    if_neg (Nat.not_lt.mpr hSize), if_pos hLong]
  simp only [Utf8.size, List.take_left', List.drop_left']

/-! ## Streams -/

theorem length_of_readBlock {closed : Bool} {length : Nat} {bytes body rest : List UInt8}
    (h : readBlock closed length bytes = .frame body rest) : rest.length < bytes.length := by
  fun_induction readBlock closed length bytes with
  | case1 length bytes hNext hClosed =>
    unfold readLastLine at h
    split at h <;> cases h
  | case2 => cases h
  | case3 => cases h
  | case4 bytes line more hNext text hText hEmpty ih =>
    exact Nat.lt_trans (ih h) (length_of_nextLine? hNext)
  | case5 length bytes line more hNext text hText hEmpty hLength =>
    unfold readBody at h
    split at h
    · cases h
    split at h
    · cases h
      exact Nat.lt_of_le_of_lt (by simp) (length_of_nextLine? hNext)
    · split at h <;> cases h
  | case6 => cases h
  | case7 length bytes line more hNext text hText hEmpty length' hLength ih =>
    exact Nat.lt_trans (ih h) (length_of_nextLine? hNext)

theorem length_of_readFrame {closed : Bool} {bytes body rest : List UInt8}
    (h : readFrame closed bytes = .frame body rest) : rest.length < bytes.length :=
  length_of_readBlock h

/-- What is read of a stream that has ended: the bodies of its frames in their order, what is found
behind them, and the bytes that are left there. -/
structure Reading where
  bodies : List (List UInt8)
  stop : FrameStep
  left : List UInt8

/-- Reads frames from a stream that has ended as long as there is one. -/
def readAll (bytes : List UInt8) : Reading :=
  match _h : readFrame true bytes with
  | .frame body rest => { readAll rest with bodies := body :: (readAll rest).bodies }
  | stop => ⟨[], stop, bytes⟩
termination_by bytes.length
decreasing_by all_goals exact length_of_readFrame _h

theorem readAll_frame {bytes body rest : List UInt8} (h : readFrame true bytes = .frame body rest) :
    readAll bytes = { readAll rest with bodies := body :: (readAll rest).bodies } := by
  rw [readAll]
  split
  · rename_i hFrame
    rw [h] at hFrame
    cases hFrame
    rfl
  · rename_i hOther
    exact absurd h (hOther body rest)

theorem readAll_stop {bytes : List UInt8} {stop : FrameStep} (h : readFrame true bytes = stop)
    (hStop : ∀ body rest, stop ≠ .frame body rest) : readAll bytes = ⟨[], stop, bytes⟩ := by
  rw [readAll]
  split
  · rename_i hFrame
    exact absurd (h.symm.trans hFrame) (hStop _ _)
  · rw [h]

theorem readFrame_nil : readFrame true [] = .ended := by
  have hText : lineText [] = .ok [] := lineText_encode []
  have hLast : readLastLine 0 [] = .ended := by
    rw [readLastLine, hText]
    rfl
  rw [readFrame, readBlock]
  exact hLast

/-- A message that a frame can hold: one with at least one byte, and no more than memory holds. -/
def Fits (message : String) : Prop :=
  message ≠ "" ∧ Utf8.size message.toList ≤ greatestBody

instance : DecidablePred Fits := fun message =>
  inferInstanceAs (Decidable (message ≠ "" ∧ Utf8.size message.toList ≤ greatestBody))

/-- **Messages that were written are read back**, in their order, and nothing is left of the stream. -/
theorem readAll_frames {messages : List String} (h : ∀ message ∈ messages, Fits message) :
    readAll (frames messages) = ⟨messages.map fun message => Utf8.encode message.toList, .ended, []⟩ := by
  induction messages with
  | nil => exact readAll_stop readFrame_nil (fun _ _ => by simp)
  | cons message messages ih =>
    obtain ⟨hNil, hSize⟩ := h message List.mem_cons_self
    have hRest := ih fun other hOther => h other (List.mem_cons_of_mem _ hOther)
    have hFrame : readFrame true (frames (message :: messages)) =
        .frame (Utf8.encode message.toList) (frames messages) :=
      readFrame_frame (fun hEmpty => hNil (String.toList_eq_nil_iff.mp hEmpty)) hSize true _
    rw [readAll_frame hFrame, hRest]
    rfl

end ExtensionHost.Rpc
