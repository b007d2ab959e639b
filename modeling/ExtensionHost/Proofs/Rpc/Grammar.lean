import ExtensionHost.Proofs.Rpc.Streams
import Mathlib.Data.List.Induction
import Mathlib.Data.List.TakeWhile

/-!
# The grammar of frames

A stream that has ended is a sequence of header blocks with bodies behind some of them. A header block is
the lines up to the first empty one; it announces the number that the last line with the name of the
length gives, or none. A block that announces nothing is skipped, and as many bytes as another one
announces are a body. `Front` says so of what a stream begins with, `Stream` of all of it, both without
a word about how a line or a number is found. `readFrame` and `readAll` agree with them on every stream.
-/

namespace ExtensionHost.Rpc

/-! ## Lengths -/

/-- A number in decimal digits, which a plus sign may stand before, that is small enough for a length. -/
def Denotes (value : List Char) (n : Nat) : Prop :=
  ∃ digits, (value = digits ∨ value = '+' :: digits) ∧ digits ≠ [] ∧ (∀ c ∈ digits, c.isDigit = true) ∧
    Nat.ofDigitChars 10 digits 0 = n ∧ n < lengthBound

/-- A line whose part before its first colon, without the blanks around it, is the name of the length in
upper or lower case letters. The value is what stands behind the colon, without the blanks around it. -/
def Gives (line value : List Char) : Prop :=
  ∃ name rest, line = name ++ ':' :: rest ∧ ':' ∉ name ∧
    (Text.trim name).map Char.toLower = lengthName ∧ value = Text.trim rest

/-- A line that gives no length but a number. -/
def Sound (line : List Char) : Prop :=
  ∀ value, Gives line value → ∃ n, Denotes value n

/-- The length that lines announce: all lengths that they give are numbers, and the last one is `n`, or
`n` is zero and they give none. -/
def Announces (lines : List (List Char)) (n : Nat) : Prop :=
  (∀ line ∈ lines, Sound line) ∧
    ((∃ before line after value, lines = before ++ line :: after ∧ Gives line value ∧ Denotes value n ∧
        ∀ other ∈ after, ∀ value, ¬ Gives other value) ∨
      n = 0 ∧ ∀ line ∈ lines, ∀ value, ¬ Gives line value)

theorem digits?_eq_some {text : List Char} {n : Nat} :
    digits? text = some n ↔
      text ≠ [] ∧ (∀ c ∈ text, c.isDigit = true) ∧ Nat.ofDigitChars 10 text 0 = n := by
  have hValue : text.foldl (fun n c => n * 10 + (c.toNat - 48)) 0 = Nat.ofDigitChars 10 text 0 := by
    simp only [Nat.ofDigitChars, Nat.mul_comm]
    rfl
  cases text with
  | nil => simp [digits?]
  | cons c text =>
    rw [digits?, hValue]
    · simp
    · simp

theorem length?_eq_some {value : List Char} {n : Nat} : length? value = some n ↔ Denotes value n := by
  have hNoSign : ∀ {digits : List Char}, (∀ c ∈ '+' :: digits, c.isDigit = true) → False :=
    fun h => absurd (h '+' List.mem_cons_self) (by decide)
  unfold length?
  split
  · rename_i rest
    simp only [Option.filter_eq_some_iff, digits?_eq_some, decide_eq_true_eq]
    constructor
    · rintro ⟨⟨hNil, hDigits, hValue⟩, hBound⟩
      exact ⟨rest, .inr rfl, hNil, hDigits, hValue, hBound⟩
    · rintro ⟨digits, rfl | hValue, hNil, hDigits, hNumber⟩
      · exact (hNoSign hDigits).elim
      · cases hValue
        exact ⟨⟨hNil, hDigits, hNumber.1⟩, hNumber.2⟩
  · rename_i hPlus
    simp only [Option.filter_eq_some_iff, digits?_eq_some, decide_eq_true_eq]
    constructor
    · rintro ⟨⟨hNil, hDigits, hValue⟩, hBound⟩
      exact ⟨value, .inl rfl, hNil, hDigits, hValue, hBound⟩
    · rintro ⟨digits, rfl | hValue, hNil, hDigits, hNumber⟩
      · exact ⟨⟨hNil, hDigits, hNumber.1⟩, hNumber.2⟩
      · exact absurd hValue (hPlus digits)

theorem length?_eq_none {value : List Char} : length? value = none ↔ ∀ n, ¬ Denotes value n := by
  rw [Option.eq_none_iff_forall_ne_some]
  exact forall_congr' fun n => not_congr length?_eq_some

theorem lengthAfter_of_gives {line value : List Char} (h : Gives line value) (length : Nat) :
    lengthAfter length line =
      match length? value with
      | some n => .ok n
      | none => .error (.invalidLength (String.ofList value)) := by
  obtain ⟨name, rest, rfl, hColon, hName, rfl⟩ := h
  unfold lengthAfter
  rw [dropWhile_colon hColon, takeWhile_colon hColon]
  exact if_pos hName

theorem lengthAfter_of_not_gives {line : List Char} (h : ∀ value, ¬ Gives line value) (length : Nat) :
    lengthAfter length line = .ok length := by
  unfold lengthAfter
  split
  · rfl
  · rename_i c rest hDrop
    have hc : c = ':' := by
      have hHead := List.head?_dropWhile_not (· ≠ ':') line
      rw [hDrop] at hHead
      simpa using hHead
    have hColon : ':' ∉ line.takeWhile (· ≠ ':') := fun hMem => by
      simpa using List.mem_takeWhile_imp hMem
    have hLine : line = line.takeWhile (· ≠ ':') ++ ':' :: rest := by
      rw [hc] at hDrop
      rw [← hDrop, List.takeWhile_append_dropWhile]
    exact if_neg fun hName => h (Text.trim rest) ⟨_, rest, hLine, hColon, hName, rfl⟩

theorem Gives.unique {line value other : List Char} (h : Gives line value) (hOther : Gives line other) :
    value = other := by
  obtain ⟨name, rest, rfl, hColon, -, rfl⟩ := h
  obtain ⟨name', rest', hLine, hColon', -, rfl⟩ := hOther
  have hDrop := congrArg (List.dropWhile (· ≠ ':')) hLine
  rw [dropWhile_colon hColon, dropWhile_colon hColon'] at hDrop
  rw [List.cons.inj hDrop |>.2]

theorem Denotes.unique {value : List Char} {n m : Nat} (h : Denotes value n) (hOther : Denotes value m) :
    n = m :=
  Option.some.inj ((length?_eq_some.mpr h).symm.trans (length?_eq_some.mpr hOther))

theorem lengthAfter_eq_ok {length n : Nat} {line : List Char} :
    lengthAfter length line = .ok n ↔
      (∃ value, Gives line value ∧ Denotes value n) ∨ n = length ∧ ∀ value, ¬ Gives line value := by
  by_cases hGives : ∃ value, Gives line value
  · obtain ⟨value, hValue⟩ := hGives
    have hOnly : (∃ other, Gives line other ∧ Denotes other n) ↔ Denotes value n :=
      ⟨fun ⟨_, hOther, hNumber⟩ => hValue.unique hOther ▸ hNumber, fun hNumber => ⟨value, hValue, hNumber⟩⟩
    have hSome : ¬ ∀ other, ¬ Gives line other := fun hNone => hNone value hValue
    rw [lengthAfter_of_gives hValue, hOnly, ← length?_eq_some]
    cases length? value <;> simp [hSome]
  · rw [not_exists] at hGives
    rw [lengthAfter_of_not_gives hGives]
    simp [hGives, eq_comm]

theorem lengthAfter_eq_error {length : Nat} {line : List Char} {e : FrameError} :
    lengthAfter length line = .error e ↔
      ∃ value, Gives line value ∧ (∀ n, ¬ Denotes value n) ∧
        e = .invalidLength (String.ofList value) := by
  by_cases hGives : ∃ value, Gives line value
  · obtain ⟨value, hValue⟩ := hGives
    rw [lengthAfter_of_gives hValue]
    constructor
    · intro hError
      cases hLength : length? value with
      | some n => simp [hLength] at hError
      | none =>
        simp only [hLength, Except.error.injEq] at hError
        exact ⟨value, hValue, length?_eq_none.mp hLength, hError.symm⟩
    · rintro ⟨other, hOther, hNot, rfl⟩
      cases hValue.unique hOther
      rw [length?_eq_none.mpr hNot]
  · rw [not_exists] at hGives
    rw [lengthAfter_of_not_gives hGives]
    simp [hGives]

theorem announces_nil : Announces [] 0 := ⟨by simp, .inr ⟨rfl, by simp⟩⟩

theorem announces_append_of_gives {lines : List (List Char)} {line value : List Char} {n : Nat}
    (h : ∀ line ∈ lines, Sound line) (hGives : Gives line value) (hNumber : Denotes value n) :
    Announces (lines ++ [line]) n := by
  have hSound : Sound line := fun other hOther => ⟨n, hGives.unique hOther ▸ hNumber⟩
  exact ⟨List.forall_mem_append.mpr ⟨h, List.forall_mem_singleton.mpr hSound⟩,
    .inl ⟨lines, line, [], value, rfl, hGives, hNumber, by simp⟩⟩

theorem announces_append_of_not_gives {lines : List (List Char)} {line : List Char} {n : Nat}
    (h : Announces lines n) (hGives : ∀ value, ¬ Gives line value) :
    Announces (lines ++ [line]) n := by
  obtain ⟨hSound, hLast⟩ := h
  have hLine : Sound line := fun value hValue => absurd hValue (hGives value)
  refine ⟨List.forall_mem_append.mpr ⟨hSound, List.forall_mem_singleton.mpr hLine⟩, ?_⟩
  rcases hLast with ⟨before, giving, after, value, rfl, hGiving, hNumber, hAfter⟩ | ⟨rfl, hNone⟩
  · refine .inl ⟨before, giving, after ++ [line], value, by simp, hGiving, hNumber, ?_⟩
    exact List.forall_mem_append.mpr ⟨hAfter, List.forall_mem_singleton.mpr hGives⟩
  · exact .inr ⟨rfl, List.forall_mem_append.mpr ⟨hNone, List.forall_mem_singleton.mpr hGives⟩⟩

/-- Lines announce a length as soon as all lengths that they give are numbers. -/
theorem exists_announces {lines : List (List Char)} (h : ∀ line ∈ lines, Sound line) :
    ∃ n, Announces lines n := by
  induction lines using List.reverseRecOn with
  | nil => exact ⟨0, announces_nil⟩
  | append_singleton lines line ih =>
    obtain ⟨hLines, hLine⟩ := List.forall_mem_append.mp h
    by_cases hGives : ∃ value, Gives line value
    · obtain ⟨value, hValue⟩ := hGives
      obtain ⟨n, hNumber⟩ := List.forall_mem_singleton.mp hLine value hValue
      exact ⟨n, announces_append_of_gives hLines hValue hNumber⟩
    · obtain ⟨n, hn⟩ := ih hLines
      exact ⟨n, announces_append_of_not_gives hn (not_exists.mp hGives)⟩

/-- **One more line** says what is announced after it, from what was announced before it. -/
theorem announces_append {lines : List (List Char)} {line : List Char} {n : Nat} :
    Announces (lines ++ [line]) n ↔ ∃ m, Announces lines m ∧ lengthAfter m line = .ok n := by
  constructor
  · rintro ⟨hSound, hLast⟩
    have hLines : ∀ line ∈ lines, Sound line := (List.forall_mem_append.mp hSound).1
    rcases hLast with ⟨before, giving, after, value, hEq, hGiving, hNumber, hAfter⟩ | ⟨rfl, hNone⟩
    · rcases List.eq_nil_or_concat after with rfl | ⟨after, last, rfl⟩
      · obtain ⟨rfl, hLine⟩ := List.append_inj' hEq rfl
        cases hLine
        obtain ⟨m, hm⟩ := exists_announces hLines
        exact ⟨m, hm, lengthAfter_eq_ok.mpr (.inl ⟨value, hGiving, hNumber⟩)⟩
      · have hSplit : lines ++ [line] = (before ++ giving :: after) ++ [last] := by simpa using hEq
        obtain ⟨rfl, hLine⟩ := List.append_inj' hSplit rfl
        cases hLine
        refine ⟨n, ⟨hLines, .inl ⟨before, giving, after, value, rfl, hGiving, hNumber, ?_⟩⟩, ?_⟩
        · exact fun other hOther => hAfter other (by simp [hOther])
        · exact lengthAfter_eq_ok.mpr (.inr ⟨rfl, hAfter line (by simp)⟩)
    · refine ⟨0, ⟨hLines, .inr ⟨rfl, fun other hOther => hNone other (by simp [hOther])⟩⟩, ?_⟩
      exact lengthAfter_eq_ok.mpr (.inr ⟨rfl, hNone line (by simp)⟩)
  · rintro ⟨m, hm, hAfter⟩
    rcases lengthAfter_eq_ok.mp hAfter with ⟨value, hGives, hNumber⟩ | ⟨rfl, hGives⟩
    · exact announces_append_of_gives hm.1 hGives hNumber
    · exact announces_append_of_not_gives hm hGives

/-! ## Lines -/

/-- A line before what follows it. Only the last line of a stream may be without its line feed. -/
def LineBefore (line rest : List UInt8) : Prop :=
  (∃ front, line = front ++ [lineFeed] ∧ lineFeed ∉ front) ∨ lineFeed ∉ line ∧ rest = []

/-- A header line: it ends in its only line feed and is not empty. -/
def HeaderLine (line : List Char) : Prop :=
  ∃ front, line = front ++ ['\n'] ∧ '\n' ∉ front ∧ front ≠ [] ∧ front ≠ ['\r']

/-- Why no line can be read: it is no text, or it gives a length that is no number. -/
inductive Faulty : List UInt8 → FrameError → Prop
  | notText {line : List UInt8} {fault : Utf8.Fault} :
      (∀ text, Utf8.encode text ≠ line) → Utf8.fault? line = some fault → Faulty line (.notText fault)
  | invalidLength {text value : List Char} :
      Gives text value → (∀ n, ¬ Denotes value n) →
        Faulty (Utf8.encode text) (.invalidLength (String.ofList value))

theorem exists_firstFault (index : Nat) {chunks : List Utf8.Chunk} (h : Utf8.scalars? chunks = none) :
    ∃ fault, Utf8.firstFault? index chunks = some fault := by
  induction chunks generalizing index with
  | nil => cases h
  | cons chunk chunks ih =>
    cases chunk with
    | scalar c => exact ih _ (Option.map_eq_none_iff.mp h)
    | malformed run => exact ⟨_, rfl⟩

theorem lineText_eq_ok {line : List UInt8} {text : List Char} :
    lineText line = .ok text ↔ line = Utf8.encode text := by
  constructor
  · intro h
    cases hText : Utf8.decode? line with
    | some other =>
      rw [lineText, hText] at h
      cases h
      exact (Utf8.encode_of_decode? hText).symm
    | none =>
      obtain ⟨fault, hFault⟩ := exists_firstFault 0 hText
      have hSome : Utf8.fault? line = some fault := hFault
      simp [lineText, hText, hSome] at h
  · rintro rfl
    exact lineText_encode text

theorem lineText_eq_error {line : List UInt8} {e : FrameError} :
    lineText line = .error e ↔
      ∃ fault, (∀ text, Utf8.encode text ≠ line) ∧ Utf8.fault? line = some fault ∧
        e = .notText fault := by
  have hNot : Utf8.decode? line = none ↔ ∀ text, Utf8.encode text ≠ line := by
    rw [Option.eq_none_iff_forall_ne_some]
    refine forall_congr' fun text => not_congr ⟨Utf8.encode_of_decode?, ?_⟩
    rintro rfl
    exact Utf8.decode?_encode text
  constructor
  · intro h
    cases hText : Utf8.decode? line with
    | some other => simp [lineText, hText] at h
    | none =>
      obtain ⟨fault, hFault⟩ := exists_firstFault 0 hText
      have hSome : Utf8.fault? line = some fault := hFault
      simp only [lineText, hText, hSome, Except.error.injEq] at h
      exact ⟨fault, hNot.mp hText, hSome, h.symm⟩
  · rintro ⟨fault, hText, hSome, rfl⟩
    simp only [lineText, hNot.mpr hText, hSome]

/-- A line fails to be read exactly where it is faulty, whatever was announced before. -/
theorem lineText_bind_eq_error (length : Nat) {line : List UInt8} {e : FrameError} :
    (lineText line >>= lengthAfter length) = .error e ↔ Faulty line e := by
  constructor
  · intro h
    cases hText : lineText line with
    | error e' =>
      rw [hText] at h
      cases h
      obtain ⟨fault, hNot, hFault, rfl⟩ := lineText_eq_error.mp hText
      exact .notText hNot hFault
    | ok text =>
      rw [hText] at h
      obtain ⟨value, hGives, hNumber, rfl⟩ := lengthAfter_eq_error.mp h
      rw [lineText_eq_ok.mp hText]
      exact .invalidLength hGives hNumber
  · rintro (⟨hNot, hFault⟩ | ⟨hGives, hNumber⟩)
    · rw [lineText_eq_error.mpr ⟨_, hNot, hFault, rfl⟩]
      rfl
    · rw [lineText_encode]
      exact lengthAfter_eq_error.mpr ⟨_, hGives, hNumber, rfl⟩

theorem nextLine?_eq_none {bytes : List UInt8} : nextLine? bytes = none ↔ lineFeed ∉ bytes := by
  induction bytes with
  | nil => simp [nextLine?]
  | cons b bytes ih =>
    by_cases hb : b = lineFeed
    · simp [nextLine?, hb]
    · simp [nextLine?, hb, Ne.symm hb, ih]

theorem nextLine?_eq_some {bytes line rest : List UInt8} (h : nextLine? bytes = some (line, rest)) :
    bytes = line ++ rest ∧ ∃ front, line = front ++ [lineFeed] ∧ lineFeed ∉ front := by
  have hMem : lineFeed ∈ bytes := by
    by_contra hNot
    rw [nextLine?_eq_none.mpr hNot] at h
    cases h
  obtain ⟨front, behind, rfl, hFront⟩ := List.eq_append_cons_of_mem hMem
  rw [nextLine?_append hFront] at h
  cases h
  exact ⟨by simp, front, rfl, hFront⟩

/-- Characters that end in their only line feed are those of a line in bytes. -/
theorem line_of_encode {text : List Char} {front : List UInt8}
    (h : Utf8.encode text = front ++ [lineFeed]) (hFront : lineFeed ∉ front) :
    ∃ start, text = start ++ ['\n'] ∧ '\n' ∉ start := by
  have hMem : '\n' ∈ text := by
    by_contra hNot
    exact lineFeed_notMem_encode hNot (h ▸ by simp)
  obtain ⟨start, behind, rfl, hStart⟩ := List.eq_append_cons_of_mem hMem
  have hText : nextLine? (Utf8.encode (start ++ '\n' :: behind)) =
      some (Utf8.encode start ++ [lineFeed], Utf8.encode behind) := by
    rw [Utf8.encode_append]
    exact nextLine?_append (lineFeed_notMem_encode hStart) _
  rw [h, nextLine?_append hFront] at hText
  have hBehind : Utf8.encode behind = [] := (Prod.mk.inj (Option.some.inj hText)).2.symm
  rw [Utf8.encode_eq_nil.mp hBehind]
  exact ⟨start, rfl, hStart⟩

theorem isEmptyLine_append {front : List Char} :
    isEmptyLine (front ++ ['\n']) = true ↔ front = [] ∨ front = ['\r'] := by
  have hReturn : front ++ ['\n'] = ['\r', '\n'] ↔ front = ['\r'] :=
    ⟨fun h => (List.append_inj' h rfl).1, fun h => h ▸ rfl⟩
  have hBare : front ++ ['\n'] = ['\n'] ↔ front = [] := by simp
  simp only [isEmptyLine, Bool.or_eq_true, decide_eq_true_eq, hReturn, hBare, or_comm]

/-! ## Blocks -/

/-- Header lines that announce a length. -/
def Opens (bytes : List UInt8) (n : Nat) : Prop :=
  ∃ lines, (∀ line ∈ lines, HeaderLine line) ∧ Announces lines n ∧ bytes = Utf8.encode lines.flatten

/-- A header block that announces a length: header lines and an empty line. -/
def Block (bytes : List UInt8) (n : Nat) : Prop :=
  ∃ front empty, Opens front n ∧ (empty = ['\n'] ∨ empty = ['\r', '\n']) ∧
    bytes = front ++ Utf8.encode empty

theorem opens_nil : Opens [] 0 := ⟨[], by simp, announces_nil, rfl⟩

theorem Opens.append {bytes : List UInt8} {n m : Nat} {line : List Char} (h : Opens bytes n)
    (hLine : HeaderLine line) (hAfter : lengthAfter n line = .ok m) :
    Opens (bytes ++ Utf8.encode line) m := by
  obtain ⟨lines, hLines, hn, rfl⟩ := h
  refine ⟨lines ++ [line], ?_, announces_append.mpr ⟨n, hn, hAfter⟩, ?_⟩
  · exact List.forall_mem_append.mpr ⟨hLines, List.forall_mem_singleton.mpr hLine⟩
  · rw [List.flatten_append, Utf8.encode_append, List.flatten_singleton]

/-- **Header lines are read** one after the other, and the reader then knows what they announce. -/
theorem readBlock_opens {bytes : List UInt8} {n : Nat} (h : Opens bytes n) (closed : Bool)
    (rest : List UInt8) : readBlock closed 0 (bytes ++ rest) = readBlock closed n rest := by
  obtain ⟨lines, hLines, hn, rfl⟩ := h
  induction lines using List.reverseRecOn generalizing n rest with
  | nil =>
    obtain ⟨_, ⟨before, line, after, value, hEq, -⟩ | ⟨rfl, -⟩⟩ := hn
    · simp at hEq
    · rfl
  | append_singleton lines line ih =>
    obtain ⟨m, hm, hAfter⟩ := announces_append.mp hn
    obtain ⟨front, rfl, hFront, hNil, hReturn⟩ := hLines line (by simp)
    have hBytes : Utf8.encode (lines ++ [front ++ ['\n']]).flatten ++ rest =
        Utf8.encode lines.flatten ++ (Utf8.encode (front ++ ['\n']) ++ rest) := by
      rw [List.flatten_append, List.flatten_singleton, Utf8.encode_append, List.append_assoc]
    have hNotEmpty : ¬ isEmptyLine (front ++ ['\n']) = true := by
      rw [isEmptyLine_append]
      exact not_or.mpr ⟨hNil, hReturn⟩
    rw [hBytes, ih _ (fun other hOther => hLines other (by simp [hOther])) hm,
      readBlock_line rest hFront, if_neg hNotEmpty, hAfter]

theorem readBlock_block {bytes : List UInt8} {n : Nat} (h : Block bytes n) (closed : Bool)
    (rest : List UInt8) :
    readBlock closed 0 (bytes ++ rest) =
      if n = 0 then readBlock closed 0 rest else readBody closed n rest := by
  obtain ⟨front, empty, hFront, hEmpty, rfl⟩ := h
  have hLine : ∃ start, empty = start ++ ['\n'] ∧ '\n' ∉ start ∧ (start = [] ∨ start = ['\r']) := by
    rcases hEmpty with rfl | rfl
    · exact ⟨[], by simp⟩
    · exact ⟨['\r'], by simp⟩
  obtain ⟨start, rfl, hStart, hIs⟩ := hLine
  rw [List.append_assoc, readBlock_opens hFront, readBlock_line rest hStart,
    if_pos (isEmptyLine_append.mpr hIs)]

/-! ## What a stream begins with -/

/-- What a stream that has ended begins with: blocks that announce nothing, and then a body that is
announced, or one that is cut short, or a line that cannot be read, or the end within a block. -/
inductive Front : List UInt8 → FrameStep → Prop
  | skipped {block rest : List UInt8} {step : FrameStep} :
      Block block 0 → Front rest step → Front (block ++ rest) step
  | frame {block body rest : List UInt8} :
      Block block body.length → body ≠ [] → body.length ≤ greatestBody →
        Front (block ++ (body ++ rest)) (.frame body rest)
  | cutShort {block rest : List UInt8} {n : Nat} :
      Block block n → rest.length < n → n ≤ greatestBody → Front (block ++ rest) (.failed .cutShort)
  | tooLarge {block rest : List UInt8} {n : Nat} :
      Block block n → greatestBody < n → Front (block ++ rest) .tooLarge
  | faulty {front line rest : List UInt8} {n : Nat} {e : FrameError} :
      Opens front n → LineBefore line rest → Faulty line e → Front (front ++ (line ++ rest)) (.failed e)
  | ended {front : List UInt8} {last : List Char} {n : Nat} :
      Opens front n → '\n' ∉ last → Sound last → Front (front ++ Utf8.encode last) .ended

theorem front_readBody {block : List UInt8} {n : Nat} (h : Block block n) (hPos : n ≠ 0)
    (bytes : List UInt8) : Front (block ++ bytes) (readBody true n bytes) := by
  unfold readBody
  by_cases hBound : greatestBody < n
  · rw [if_pos hBound]
    exact .tooLarge h hBound
  by_cases hLong : n ≤ bytes.length
  · have hLength : (bytes.take n).length = n := List.length_take_of_le hLong
    have hNil : bytes.take n ≠ [] := fun hEq => hPos (by rw [← hLength, hEq, List.length_nil])
    have hFrame : Front (block ++ (bytes.take n ++ bytes.drop n))
        (.frame (bytes.take n) (bytes.drop n)) :=
      .frame (hLength.symm ▸ h) hNil (hLength.symm ▸ Nat.le_of_not_lt hBound)
    rw [if_neg hBound, if_pos hLong]
    rwa [List.take_append_drop] at hFrame
  · rw [if_neg hBound, if_neg hLong, if_pos rfl]
    exact .cutShort h (Nat.lt_of_not_le hLong) (Nat.le_of_not_lt hBound)

theorem front_readLastLine {front : List UInt8} {n : Nat} (h : Opens front n) {line : List UInt8}
    (hLine : lineFeed ∉ line) : Front (front ++ line) (readLastLine n line) := by
  unfold readLastLine
  cases hText : lineText line >>= lengthAfter n with
  | error e =>
    have hFaulty := Front.faulty h (.inr ⟨hLine, rfl⟩) ((lineText_bind_eq_error n).mp hText)
    rwa [List.append_nil] at hFaulty
  | ok m =>
    cases hChars : lineText line with
    | error e => simp [hChars, bind, Except.bind] at hText
    | ok text =>
      rw [hChars] at hText
      obtain rfl := lineText_eq_ok.mp hChars
      refine .ended h (fun hMem => hLine ?_) fun value hGives => ?_
      · exact List.mem_flatMap.mpr ⟨'\n', hMem, by decide⟩
      · rcases lengthAfter_eq_ok.mp hText with ⟨other, hOther, hNumber⟩ | ⟨-, hNone⟩
        · exact ⟨m, hOther.unique hGives ▸ hNumber⟩
        · exact absurd hGives (hNone value)

/-- Behind header lines the reader finds what a stream with these lines begins with. -/
theorem front_readBlock {front bytes : List UInt8} {n : Nat} (h : Opens front n) :
    Front (front ++ bytes) (readBlock true n bytes) := by
  -- Each line makes the bytes to come fewer; it joins the lines before it, or a new block begins.
  induction hSize : bytes.length using Nat.strongRecOn generalizing front n bytes with
  | ind size ih =>
    cases hNext : nextLine? bytes with
    | none =>
      rw [readBlock_of_none hNext, if_pos rfl]
      exact front_readLastLine h (nextLine?_eq_none.mp hNext)
    | some pair =>
      obtain ⟨line, rest⟩ := pair
      have hLess : rest.length < size := hSize ▸ length_of_nextLine? hNext
      obtain ⟨rfl, start, hLine, hStart⟩ := nextLine?_eq_some hNext
      have hBefore : LineBefore line rest := .inl ⟨start, hLine, hStart⟩
      rw [readBlock_of_some hNext]
      cases hText : lineText line with
      | error e => exact .faulty h hBefore ((lineText_bind_eq_error n).mp (by rw [hText]; rfl))
      | ok text =>
        obtain rfl := lineText_eq_ok.mp hText
        obtain ⟨chars, rfl, hChars⟩ := line_of_encode hLine hStart
        dsimp only
        by_cases hEmpty : isEmptyLine (chars ++ ['\n']) = true
        · have hBlock : Block (front ++ Utf8.encode (chars ++ ['\n'])) n := by
            refine ⟨front, _, h, ?_, rfl⟩
            rcases isEmptyLine_append.mp hEmpty with rfl | rfl
            · exact .inl rfl
            · exact .inr rfl
          rw [if_pos hEmpty, ← List.append_assoc]
          by_cases hPos : n = 0
          · rw [if_pos hPos]
            exact .skipped (hPos ▸ hBlock) (ih _ hLess opens_nil rfl)
          · rw [if_neg hPos]
            exact front_readBody hBlock hPos rest
        · rw [if_neg hEmpty]
          rw [isEmptyLine_append, not_or] at hEmpty
          cases hAfter : lengthAfter n (chars ++ ['\n']) with
          | error e =>
            refine .faulty h hBefore ((lineText_bind_eq_error n).mp ?_)
            rw [hText]
            exact hAfter
          | ok m =>
            dsimp only
            rw [← List.append_assoc]
            exact ih _ hLess (h.append ⟨chars, rfl, hChars, hEmpty⟩ hAfter) rfl

theorem not_gives_of_isEmptyLine {text : List Char} (h : isEmptyLine text = true) (value : List Char) :
    ¬ Gives text value := by
  rintro ⟨name, rest, rfl, -⟩
  have hMem : ':' ∈ name ++ ':' :: rest := by simp
  simp only [isEmptyLine, Bool.or_eq_true, decide_eq_true_eq] at h
  rcases h with hEq | hEq
  · rw [hEq] at hMem
    exact absurd hMem (by decide)
  · rw [hEq] at hMem
    exact absurd hMem (by decide)

/-- The reader stops at a faulty line, with a line feed or at the end of the stream. -/
theorem readBlock_faulty {line rest : List UInt8} {n : Nat} {e : FrameError}
    (hLine : LineBefore line rest) (h : Faulty line e) :
    readBlock true n (line ++ rest) = .failed e := by
  have hError := (lineText_bind_eq_error n).mpr h
  rcases hLine with ⟨front, rfl, hFront⟩ | ⟨hLine, rfl⟩
  · have hNext := nextLine?_append hFront rest
    rw [List.append_cons] at hNext
    rw [readBlock_of_some hNext]
    cases hText : lineText (front ++ [lineFeed]) with
    | error e' =>
      rw [hText] at hError
      cases hError
      rfl
    | ok text =>
      rw [hText] at hError
      obtain ⟨value, hGives, hNumber, rfl⟩ := lengthAfter_eq_error.mp hError
      have hAfter : lengthAfter n text = .error (.invalidLength (String.ofList value)) := hError
      dsimp only
      rw [if_neg fun hEmpty => not_gives_of_isEmptyLine hEmpty value hGives, hAfter]
  · rw [List.append_nil, readBlock_of_none (nextLine?_eq_none.mpr hLine), if_pos rfl, readLastLine, hError]

theorem readBlock_last {last : List Char} (hLine : '\n' ∉ last) (h : Sound last) (n : Nat) :
    readBlock true n (Utf8.encode last) = .ended := by
  rw [readBlock_of_none (nextLine?_eq_none.mpr (lineFeed_notMem_encode hLine)), if_pos rfl, readLastLine]
  cases hText : lineText (Utf8.encode last) >>= lengthAfter n with
  | ok m => rfl
  | error e =>
    rw [lineText_encode] at hText
    obtain ⟨value, hGives, hNumber, -⟩ := lengthAfter_eq_error.mp hText
    obtain ⟨m, hm⟩ := h value hGives
    exact absurd hm (hNumber m)

theorem readFrame_of_front {bytes : List UInt8} {step : FrameStep} (h : Front bytes step) :
    readFrame true bytes = step := by
  unfold readFrame
  induction h with
  | skipped hBlock _ ih => rwa [readBlock_block hBlock, if_pos rfl]
  | @frame block body rest hBlock hNil hBound =>
    have hPos : body.length ≠ 0 := mt List.length_eq_zero_iff.mp hNil
    have hLong : body.length ≤ (body ++ rest).length := by simp
    rw [readBlock_block hBlock, if_neg hPos, readBody, if_neg (Nat.not_lt.mpr hBound), if_pos hLong,
      List.take_left, List.drop_left]
  | cutShort hBlock hShort hBound =>
    rw [readBlock_block hBlock, if_neg (Nat.ne_zero_of_lt hShort), readBody,
      if_neg (Nat.not_lt.mpr hBound), if_neg (Nat.not_le.mpr hShort), if_pos rfl]
  | tooLarge hBlock hBound =>
    rw [readBlock_block hBlock, if_neg (Nat.ne_zero_of_lt hBound), readBody, if_pos hBound]
  | faulty hOpens hLine hFaulty => rw [readBlock_opens hOpens, readBlock_faulty hLine hFaulty]
  | ended hOpens hLine hSound => rw [readBlock_opens hOpens, readBlock_last hLine hSound]

/-- **The reader finds what a stream begins with**, and nothing else. -/
theorem readFrame_eq_iff {bytes : List UInt8} {step : FrameStep} :
    readFrame true bytes = step ↔ Front bytes step := by
  refine ⟨?_, readFrame_of_front⟩
  rintro rfl
  exact front_readBlock opens_nil

/-! ## Whole streams -/

/-- A whole stream that has ended: frame after frame, up to what is no frame. -/
inductive Stream : List UInt8 → Reading → Prop
  | frame {bytes body rest : List UInt8} {reading : Reading} :
      Front bytes (.frame body rest) → Stream rest reading →
        Stream bytes { reading with bodies := body :: reading.bodies }
  | stop {bytes : List UInt8} {step : FrameStep} :
      Front bytes step → (∀ body rest, step ≠ .frame body rest) → Stream bytes ⟨[], step, bytes⟩

theorem readAll_of_stream {bytes : List UInt8} {reading : Reading} (h : Stream bytes reading) :
    readAll bytes = reading := by
  induction h with
  | frame hFront _ ih => rw [readAll_frame (readFrame_of_front hFront), ih]
  | stop hFront hStop => exact readAll_stop (readFrame_of_front hFront) hStop

theorem stream_readAll (bytes : List UInt8) : Stream bytes (readAll bytes) := by
  induction hSize : bytes.length using Nat.strongRecOn generalizing bytes with
  | ind size ih =>
    by_cases hFrame : ∃ body rest, readFrame true bytes = .frame body rest
    · obtain ⟨body, rest, hStep⟩ := hFrame
      rw [readAll_frame hStep]
      exact .frame (readFrame_eq_iff.mp hStep) (ih _ (hSize ▸ length_of_readFrame hStep) rest rfl)
    · simp only [not_exists] at hFrame
      rw [readAll_stop rfl hFrame]
      exact .stop (readFrame_eq_iff.mp rfl) hFrame

/-- What is before a body, the body and what is behind it are the stream. -/
theorem Front.exists_header {bytes body rest : List UInt8} (h : Front bytes (.frame body rest)) :
    ∃ header, bytes = header ++ (body ++ rest) := by
  generalize hStep : FrameStep.frame body rest = step at h
  induction h with
  | skipped _ _ ih =>
    obtain ⟨header, rfl⟩ := ih hStep
    exact ⟨_, (List.append_assoc _ _ _).symm⟩
  | frame =>
    cases hStep
    exact ⟨_, rfl⟩
  | cutShort | tooLarge | faulty | ended => cases hStep

/-- The bodies, each behind its header, and what is left are the stream, in this order. -/
theorem Stream.exists_headers {bytes : List UInt8} {reading : Reading} (h : Stream bytes reading) :
    ∃ headers : List (List UInt8), headers.length = reading.bodies.length ∧
      bytes = (List.zipWith (· ++ ·) headers reading.bodies).flatten ++ reading.left := by
  induction h with
  | @frame bytes body rest reading hFront _ ih =>
    obtain ⟨header, rfl⟩ := hFront.exists_header
    obtain ⟨headers, hLength, hBytes⟩ := ih
    refine ⟨header :: headers, congrArg Nat.succ hLength, ?_⟩
    rw [List.zipWith_cons_cons, List.flatten_cons, List.append_assoc, List.append_assoc, ← hBytes]
  | stop => exact ⟨[], rfl, rfl⟩

theorem Stream.length_le {bytes : List UInt8} {reading : Reading} (h : Stream bytes reading) :
    reading.bodies.length ≤ bytes.length := by
  induction h with
  | frame hFront _ ih => exact Nat.lt_of_le_of_lt ih (length_of_readFrame (readFrame_of_front hFront))
  | stop => exact Nat.zero_le _

theorem Stream.stops {bytes : List UInt8} {reading : Reading} (h : Stream bytes reading) :
    reading.stop = .ended ∨ (∃ e, reading.stop = .failed e) ∨ reading.stop = .tooLarge := by
  induction h with
  | frame _ _ ih => exact ih
  | @stop bytes step hFront hStop =>
    cases step with
    | frame body rest => exact absurd rfl (hStop body rest)
    | incomplete => exact absurd (readFrame_of_front hFront) (readFrame_true_ne_incomplete bytes)
    | ended => exact .inl rfl
    | failed e => exact .inr (.inl ⟨e, rfl⟩)
    | tooLarge => exact .inr (.inr rfl)

/-- **The reader reads every stream as the grammar says.** One call finds what the stream begins with, also
where it need not see all of it. Repeated calls find the frames of the stream and what comes behind them;
there are no more frames than bytes, and the last call finds the end of the stream, a fault or a length that
no memory holds. Nothing is left out on the way, changed in its order or read twice. -/
theorem reads_by_grammar (bytes : List UInt8) :
    (∀ step, readFrame true bytes = step ↔ Front bytes step) ∧
    (∀ seen more, bytes = seen ++ more → readFrame false seen ≠ .incomplete →
      Front bytes ((readFrame false seen).followedBy more)) ∧
    (∀ reading, readAll bytes = reading ↔ Stream bytes reading) ∧
    (readAll bytes).bodies.length ≤ bytes.length ∧
    ((readAll bytes).stop = .ended ∨ (∃ e, (readAll bytes).stop = .failed e) ∨
      (readAll bytes).stop = .tooLarge) ∧
    ∃ headers : List (List UInt8), headers.length = (readAll bytes).bodies.length ∧
      bytes = (List.zipWith (· ++ ·) headers (readAll bytes).bodies).flatten ++ (readAll bytes).left := by
  have hStream := stream_readAll bytes
  refine ⟨fun _ => readFrame_eq_iff, ?_, fun reading => ⟨?_, readAll_of_stream⟩, hStream.length_le,
    hStream.stops, hStream.exists_headers⟩
  · rintro seen more rfl hSeen
    exact readFrame_eq_iff.mp (readFrame_append hSeen true more)
  · rintro rfl
    exact hStream

end ExtensionHost.Rpc
