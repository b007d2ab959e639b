import ExtensionHost.Json.Printer
import ExtensionHost.Proofs.Json.Reading
import Mathlib.Data.List.Basic

/-!
# Reading strings and integers that were printed

Blanks before a value do not matter; a string is read back from its escaped characters, and an integer of
64 bits from its digits. Each statement has an arbitrary text behind what is read: for an integer one that
does not go on with it (`Ends`).
-/

namespace ExtensionHost.Json

/-! ## Blanks -/

theorem skipSpace_cons {c : Char} (h : isSpace c = false) (rest : List Char) :
    skipSpace (c :: rest) = c :: rest := by
  rw [skipSpace, List.dropWhile_cons, h]
  rfl

theorem skipSpace_skipSpace (text : List Char) : skipSpace (skipSpace text) = skipSpace text := by
  induction text with
  | nil => rfl
  | cons c rest ih =>
    cases hBlank : isSpace c with
    | true => simpa [skipSpace, hBlank] using ih
    | false => rw [skipSpace_cons hBlank, skipSpace_cons hBlank]

theorem skipSpace_newLine (level : Nat) (rest : List Char) :
    skipSpace (newLine level ++ rest) = skipSpace rest := by
  have hBlank : ∀ c ∈ newLine level, isSpace c = true := by
    intro c hc
    rcases List.mem_cons.mp hc with rfl | hc
    · rfl
    · rw [List.eq_of_mem_replicate hc]
      rfl
  exact List.dropWhile_append_of_pos hBlank

theorem readValue_skipSpace (levels : Nat) (text : List Char) :
    readValue levels (skipSpace text) = readValue levels text := by
  cases levels <;> simp only [readValue, skipSpace_skipSpace]

theorem readValue_newLine (levels level : Nat) (text : List Char) :
    readValue levels (newLine level ++ text) = readValue levels text := by
  rw [← readValue_skipSpace, skipSpace_newLine, readValue_skipSpace]

/-! ## Strings -/

theorem hexValue?_hexDigit {n : Nat} (h : n < 16) : hexValue? (hexDigit n) = some n := by
  revert n
  decide

/-- The escape of a control gives that control. -/
theorem readUnit_control {c : Char} (h : c.toNat < 0x20) (rest : List Char) :
    readUnit ('0' :: '0' :: hexDigit (c.toNat / 16) :: hexDigit (c.toNat % 16) :: rest) =
      some (c, rest) := by
  have hZero : hexValue? '0' = some 0 := by decide
  have hHigh : hexValue? (hexDigit (c.toNat / 16)) = some (c.toNat / 16) :=
    hexValue?_hexDigit (by omega)
  have hLow : hexValue? (hexDigit (c.toNat % 16)) = some (c.toNat % 16) :=
    hexValue?_hexDigit (by omega)
  have hCode : ((0 * 16 + 0) * 16 + c.toNat / 16) * 16 + c.toNat % 16 = c.toNat := by omega
  have hTrailing : isTrailing c.toNat = false := by
    simp only [isTrailing, Bool.and_eq_false_iff, decide_eq_false_iff_not]
    omega
  have hLeading : isLeading c.toNat = false := by
    simp only [isLeading, Bool.and_eq_false_iff, decide_eq_false_iff_not]
    omega
  have hHex : readHex ('0' :: '0' :: hexDigit (c.toNat / 16) :: hexDigit (c.toNat % 16) :: rest) =
      some (c.toNat, rest) := by
    simp only [readHex, hZero, hHigh, hLow, Option.bind_eq_bind, Option.bind_some, hCode]
  simp [readUnit, hHex, hTrailing, hLeading, Char.ofNat_toNat]

/-- A character of a string is read back from what is written for it. -/
theorem readChars_escape (fuel : Nat) (c : Char) (rest : List Char) :
    readChars (fuel + 1) (escape c ++ rest) =
      (readChars fuel rest).map fun (cs, rest) => (c :: cs, rest) := by
  unfold escape
  split
  case h_8 c hQuote hBackslash _ _ _ _ _ =>
    split
    · rename_i hControl
      simp only [List.cons_append, List.nil_append, readChars, readEscape, readUnit_control hControl,
        Option.bind_eq_bind, Option.bind_some]
      cases readChars fuel rest <;> rfl
    · rename_i hPlain
      rw [List.singleton_append, readChars, if_neg hPlain]
      · cases readChars fuel rest <;> rfl
      · exact hQuote
      · exact hBackslash
  all_goals
    simp only [List.cons_append, List.nil_append, readChars, readEscape, Option.bind_eq_bind,
      Option.bind_some]
    cases readChars fuel rest <;> rfl

theorem readChars_escaped (cs rest : List Char) {fuel : Nat} (h : cs.length < fuel) :
    readChars fuel (cs.flatMap escape ++ '"' :: rest) = some (cs, rest) := by
  induction cs generalizing fuel with
  | nil =>
    obtain ⟨fuel, rfl⟩ := Nat.exists_eq_succ_of_ne_zero (Nat.ne_of_gt h)
    rfl
  | cons c cs ih =>
    obtain ⟨fuel, rfl⟩ := Nat.exists_eq_succ_of_ne_zero (Nat.ne_of_gt (Nat.zero_lt_of_lt h))
    rw [List.flatMap_cons, List.append_assoc, readChars_escape, ih (Nat.lt_of_succ_lt_succ h)]
    rfl

theorem length_le_escaped (cs : List Char) : cs.length ≤ (cs.flatMap escape).length := by
  induction cs with
  | nil => exact Nat.le_refl 0
  | cons c cs ih =>
    have hEscape : 0 < (escape c).length := by
      unfold escape
      split
      case h_8 => split <;> simp
      all_goals simp
    rw [List.flatMap_cons, List.length_append, List.length_cons]
    omega

/-- A string is read back behind its opening quote. -/
theorem readString_printed (s : String) (rest : List Char) :
    readString (s.toList.flatMap escape ++ '"' :: rest) = some (s, rest) := by
  have hLength := length_le_escaped s.toList
  unfold readString
  rw [readChars_escaped]
  · simp
  · rw [List.length_append]
    omega

/-! ## Numbers -/

/-- A text that does not go on with a number before it. -/
def Ends (rest : List Char) : Prop :=
  ∀ c ∈ rest.head?, digit? c = none ∧ c ≠ '.' ∧ c ≠ 'e' ∧ c ≠ 'E'

theorem digit?_of_isDigit {c : Char} (h : c.isDigit = true) : digit? c = some (c.toNat - 48) := by
  simp only [Char.isDigit, Bool.and_eq_true, decide_eq_true_eq] at h
  exact if_pos h

theorem readDigits_append {digits rest : List Char} (hDigits : ∀ c ∈ digits, c.isDigit = true)
    (hEnds : Ends rest) :
    readDigits (digits ++ rest) = (digits.map fun c => c.toNat - 48, rest) := by
  have hSome : ∀ c ∈ digits, (digit? c).isSome = true := by
    intro c hc
    rw [digit?_of_isDigit (hDigits c hc)]
    rfl
  have hNone : rest.takeWhile (fun c => (digit? c).isSome) = [] ∧
      rest.dropWhile (fun c => (digit? c).isSome) = rest := by
    cases rest with
    | nil => exact ⟨rfl, rfl⟩
    | cons c rest =>
      have hFirst := (hEnds c rfl).1
      simp [hFirst]
  have hValues : digits.filterMap digit? = digits.map fun c => c.toNat - 48 := by
    rw [List.filterMap_congr fun c hc => digit?_of_isDigit (hDigits c hc), List.filterMap_eq_map']
  rw [readDigits, List.takeWhile_append_of_pos hSome, List.dropWhile_append_of_pos hSome, hNone.1,
    hNone.2, List.append_nil, hValues]

/-- The digits of a number are those that are printed, the most significant one first. -/
def decimals (n : Nat) : List Nat := (Nat.toDigits 10 n).map fun c => c.toNat - 48

theorem foldl_decimals (n : Nat) : (decimals n).foldl (fun n d => n * 10 + d) 0 = n := by
  have hFold := Nat.ofDigitChars_toDigits (b := 10) (n := n) (by decide) (by decide)
  simp only [Nat.ofDigitChars, Nat.mul_comm] at hFold
  rw [decimals, List.foldl_map]
  exact hFold

theorem le_foldl_digits (ds : List Nat) (n : Nat) : n ≤ ds.foldl (fun n d => n * 10 + d) n := by
  induction ds generalizing n with
  | nil => exact Nat.le_refl n
  | cons d ds ih =>
    have hRest := ih (n * 10 + d)
    rw [List.foldl_cons]
    omega

/-- Digits that make a number of 64 bits are all kept. -/
theorem foldl_whole {ds : List Nat} {n : Nat}
    (h : ds.foldl (fun n d => n * 10 + d) n < UInt64.size) :
    ds.foldl Scan.whole ⟨n, 0, true⟩ = ⟨ds.foldl (fun n d => n * 10 + d) n, 0, true⟩ := by
  induction ds generalizing n with
  | nil => rfl
  | cons d ds ih =>
    have hNext := Nat.lt_of_le_of_lt (le_foldl_digits ds (n * 10 + d)) h
    have hKept : Scan.whole ⟨n, 0, true⟩ d = ⟨n * 10 + d, 0, true⟩ := by
      simp [Scan.whole, hNext]
    rw [List.foldl_cons, hKept, ih h, List.foldl_cons]

theorem value_digitChar {n : Nat} (h : n < 10) : (Nat.digitChar n).toNat - 48 = n := by
  revert n
  decide

/-- Only the number zero is printed with a zero in front. -/
theorem decimals_eq (n : Nat) : decimals n = [0] ∨ ∃ d ds, decimals n = (d + 1) :: ds := by
  induction n using Nat.strongRecOn with
  | ind n ih =>
    by_cases hSmall : n < 10
    · have hDigit : decimals n = [n] := by
        rw [decimals, Nat.toDigits_of_lt_base hSmall, List.map_singleton, value_digitChar hSmall]
      rw [hDigit]
      cases n with
      | zero => exact Or.inl rfl
      | succ d => exact Or.inr ⟨d, [], rfl⟩
    · have hSplit : decimals n = decimals (n / 10) ++ decimals (n % 10) := by
        have hDigits := Nat.toDigits_append_toDigits (b := 10) (n := n / 10) (d := n % 10)
          (by decide) (by omega) (by omega)
        rw [Nat.div_add_mod] at hDigits
        rw [decimals, ← hDigits, List.map_append]
        rfl
      right
      rcases ih (n / 10) (by omega) with hZero | ⟨d, ds, hFirst⟩
      · have hValue := foldl_decimals (n / 10)
        rw [hZero] at hValue
        simp at hValue
        omega
      · exact ⟨d, ds ++ decimals (n % 10), by rw [hSplit, hFirst, List.cons_append]⟩

theorem readAfterWhole_ends (negative : Bool) (s : Scan) {rest : List Char} (hEnds : Ends rest) :
    readAfterWhole negative s rest = (integer? negative s).map (·, rest) := by
  unfold readAfterWhole
  split
  · exact absurd rfl (hEnds _ rfl).2.1
  · exact absurd rfl (hEnds _ rfl).2.2.1
  · exact absurd rfl (hEnds _ rfl).2.2.2
  · rfl

theorem readUnsigned_digits (negative : Bool) {n : Nat} (h : n < UInt64.size) {rest : List Char}
    (hEnds : Ends rest) :
    readUnsigned negative (Nat.toDigits 10 n ++ rest) =
      (integer? negative ⟨n, 0, true⟩).map (·, rest) := by
  have hDigits : ∀ c ∈ Nat.toDigits 10 n, c.isDigit = true :=
    fun _ => Nat.isDigit_of_mem_toDigits (by decide) (by decide)
  have hRead : readDigits (Nat.toDigits 10 n ++ rest) = (decimals n, rest) :=
    readDigits_append hDigits hEnds
  have hScan : (decimals n).foldl Scan.whole ⟨0, 0, true⟩ = ⟨n, 0, true⟩ := by
    rw [foldl_whole] <;> rw [foldl_decimals]
    exact h
  rw [← readAfterWhole_ends negative _ hEnds, ← hScan]
  unfold readUnsigned
  rw [hRead]
  rcases decimals_eq n with hZero | ⟨d, ds, hFirst⟩
  · rw [hZero]
    rfl
  · rw [hFirst]
    rfl

theorem toList_repr (n : Nat) : (Nat.repr n).toList = Nat.toDigits 10 n := String.toList_ofList

theorem toText_ofNat (n : Nat) : (Number.int (.ofNat n)).toText.toList = Nat.toDigits 10 n :=
  toList_repr n

theorem toText_negSucc (n : Nat) :
    (Number.int (.negSucc n)).toText.toList = '-' :: Nat.toDigits 10 (n + 1) :=
  calc (Number.int (.negSucc n)).toText.toList = ("-" ++ Nat.repr (n + 1)).toList := rfl
    _ = '-' :: Nat.toDigits 10 (n + 1) := by
      rw [String.toList_append, toList_repr]
      rfl

/-- A character that a printed integer may begin with. -/
def opensInteger (c : Char) : Bool := c.isDigit || c = '-'

theorem toText_opens (i : Int) :
    ∃ c cs, (Number.int i).toText.toList = c :: cs ∧ opensInteger c = true := by
  cases i with
  | ofNat n =>
    rw [toText_ofNat]
    cases hDigits : Nat.toDigits 10 n with
    | nil => exact absurd hDigits Nat.toDigits_ne_nil
    | cons c cs =>
      have hFirst : c.isDigit = true :=
        Nat.isDigit_of_mem_toDigits (by decide) (by decide) (hDigits ▸ List.mem_cons_self)
      exact ⟨c, cs, rfl, by rw [opensInteger, hFirst, Bool.true_or]⟩
  | negSucc n => exact ⟨'-', _, toText_negSucc n, rfl⟩

theorem ne_of_opensInteger {c d : Char} (h : opensInteger c = true)
    (hOther : opensInteger d = false) : c ≠ d := by
  rintro rfl
  exact Bool.false_ne_true (hOther.symm.trans h)

theorem isSpace_of_opensInteger {c : Char} (h : opensInteger c = true) : isSpace c = false := by
  simp only [isSpace, Bool.or_eq_false_iff, decide_eq_false_iff_not]
  exact ⟨⟨⟨ne_of_opensInteger h rfl, ne_of_opensInteger h rfl⟩, ne_of_opensInteger h rfl⟩,
    ne_of_opensInteger h rfl⟩

/-- An integer of 64 bits is read back. -/
theorem readNumber_toText {i : Int} (h : Fits (.int i)) {rest : List Char} (hEnds : Ends rest) :
    readNumber ((Number.int i).toText.toList ++ rest) = some (.int i, rest) := by
  obtain ⟨hLow, hHigh⟩ := h
  cases i with
  | ofNat n =>
    have hSmall : n < UInt64.size := Int.ofNat_lt.mp hHigh
    rw [toText_ofNat]
    unfold readNumber
    split
    · rename_i hSign
      have hMinus : '-' ∈ Nat.toDigits 10 n := by
        cases hDigits : Nat.toDigits 10 n with
        | nil => exact absurd hDigits Nat.toDigits_ne_nil
        | cons c cs =>
          rw [hDigits, List.cons_append] at hSign
          exact (List.cons.inj hSign).1 ▸ List.mem_cons_self
      exact absurd (Nat.isDigit_of_mem_toDigits (by decide) (by decide) hMinus) (by decide)
    · rw [readUnsigned_digits false hSmall hEnds]
      rfl
  | negSucc n =>
    have hSmall : n + 1 ≤ 9223372036854775808 := by omega
    have hSigned : integer? true ⟨n + 1, 0, true⟩ = some (.int (.negSucc n)) := by
      rw [integer?, if_pos rfl, if_pos ⟨rfl, Nat.succ_ne_zero n, hSmall⟩]
      rfl
    rw [toText_negSucc, List.cons_append, readNumber,
      readUnsigned_digits true (Nat.lt_of_le_of_lt hSmall (by decide)) hEnds, hSigned]
    rfl

/-! ## Scalars -/

theorem afterWord?_append (word rest : List Char) : afterWord? word (word ++ rest) = some rest := by
  induction word with
  | nil => rfl
  | cons w word ih => rw [List.cons_append, afterWord?, if_pos rfl, ih]

theorem readValue_scalar (levels : Nat) {c : Char} (hBlank : isSpace c = false) (hArray : c ≠ '[')
    (hObject : c ≠ '\x7b') (rest : List Char) :
    readValue levels (c :: rest) = readScalar (c :: rest) := by
  cases levels with
  | zero => simp [readValue, skipSpace_cons hBlank, hArray, hObject]
  | succ levels => simp [readValue, skipSpace_cons hBlank, hArray, hObject]

theorem readScalar_integer {c : Char} (h : opensInteger c = true) (rest : List Char) :
    readScalar (c :: rest) = (readNumber (c :: rest)).map fun (n, rest) => (.number n, rest) := by
  unfold readScalar
  split
  all_goals
    rename_i hFirst
    first
    | rfl
    | cases hFirst
      cases h

theorem readValue_integer (levels : Nat) {i : Int} (h : Fits (.int i)) {rest : List Char}
    (hEnds : Ends rest) :
    readValue levels ((Number.int i).toText.toList ++ rest) = some (.number (.int i), rest) := by
  have hRead := readNumber_toText h hEnds
  obtain ⟨c, cs, hText, hFirst⟩ := toText_opens i
  rw [hText, List.cons_append] at hRead
  rw [hText, List.cons_append, readValue_scalar levels (isSpace_of_opensInteger hFirst)
    (ne_of_opensInteger hFirst rfl) (ne_of_opensInteger hFirst rfl), readScalar_integer hFirst, hRead]
  rfl

theorem readValue_string (levels : Nat) (s : String) (rest : List Char) :
    readValue levels (printString s ++ rest) = some (.string s, rest) := by
  have hText : printString s ++ rest = '"' :: (s.toList.flatMap escape ++ '"' :: rest) := by
    simp [printString]
  rw [hText, readValue_scalar levels rfl (by decide) (by decide), readScalar, readString_printed]
  rfl

theorem readValue_null (levels : Nat) (rest : List Char) :
    readValue levels ("null".toList ++ rest) = some (.null, rest) := by
  have hRead : readScalar ('n' :: ("ull".toList ++ rest)) = some (.null, rest) := by
    rw [readScalar, afterWord?_append]
    rfl
  exact (readValue_scalar levels rfl (by decide) (by decide) _).trans hRead

theorem readValue_bool (levels level : Nat) (b : Bool) (rest : List Char) :
    readValue levels (printPretty level (.bool b) ++ rest) = some (.bool b, rest) := by
  cases b with
  | false =>
    have hRead : readScalar ('f' :: ("alse".toList ++ rest)) = some (.bool false, rest) := by
      rw [readScalar, afterWord?_append]
      rfl
    exact (readValue_scalar levels rfl (by decide) (by decide) _).trans hRead
  | true =>
    have hRead : readScalar ('t' :: ("rue".toList ++ rest)) = some (.bool true, rest) := by
      rw [readScalar, afterWord?_append]
      rfl
    exact (readValue_scalar levels rfl (by decide) (by decide) _).trans hRead

end ExtensionHost.Json
