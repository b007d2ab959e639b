import ExtensionHost.Document.Position
import Mathlib.Algebra.GroupWithZero.Nat
import Mathlib.Algebra.BigOperators.Group.List.Basic

/-!
# Lines of a text

The scan from a position to an offset goes through the lines before that of the position without looking at
their columns, and then along one line. So a text is taken apart into `WholeLines`, the characters of a line
and what follows them: `advance_lines` says which position stands behind such a part, `offsetBelow_lines`
where the search in the line begins, and `offsetInLine_taken` and `offsetInLine_behind` where it ends. Lines
and columns are counted in 32 bits; `offsetAt_eq` counts them without a bound in a text of fewer than
`2 ^ 32` UTF-16 units.
-/

namespace ExtensionHost.Document

/-! ## Units -/

theorem units_pos (c : Char) : 0 < units c := by
  unfold units
  split <;> decide

/-- The number of UTF-16 units of a text. -/
def unitCount (text : List Char) : Nat := (text.map units).sum

@[simp] theorem unitCount_nil : unitCount [] = 0 := rfl

@[simp] theorem unitCount_cons (c : Char) (text : List Char) :
    unitCount (c :: text) = units c + unitCount text := by
  simp [unitCount]

theorem unitCount_take_le (text : List Char) (n : Nat) :
    unitCount (text.take n) ≤ unitCount text := by
  induction text generalizing n with
  | nil => simp
  | cons c rest ih =>
    cases n with
    | zero => simp
    | succ n => simpa using ih n

/-! ## What a text advances by -/

/-- A text advances by as many lines as it has line feeds. -/
theorem advance_line (line column : Nat) (text : List Char) :
    (advance line column text).1 = line + text.count '\n' := by
  induction text generalizing line column with
  | nil => simp [advance]
  | cons c rest ih =>
    by_cases hFeed : c = '\n'
    · subst hFeed
      rw [advance, if_pos rfl, ih, List.count_cons_self]
      omega
    · rw [advance, if_neg hFeed, ih, List.count_cons_of_ne hFeed]

theorem advance_column_le (line column : Nat) (text : List Char) :
    (advance line column text).2 ≤ column + unitCount text := by
  induction text generalizing line column with
  | nil => simp [advance]
  | cons c rest ih =>
    by_cases hFeed : c = '\n'
    · have hRest := ih (line + 1) 0
      simp only [advance, if_pos hFeed, unitCount_cons]
      omega
    · have hRest := ih line (column + units c)
      simp only [advance, if_neg hFeed, unitCount_cons]
      omega

/-- A text without a line feed advances by its units. -/
theorem advance_column_of_notMem {text : List Char} (h : '\n' ∉ text) (line column : Nat) :
    (advance line column text).2 = column + unitCount text := by
  induction text generalizing column with
  | nil => simp [advance]
  | cons c rest ih =>
    obtain ⟨hFirst, hRest⟩ := not_or.mp (mt List.mem_cons.mpr h)
    simp only [advance, if_neg (Ne.symm hFirst), ih hRest, unitCount_cons]
    omega

theorem count_feed_le (text : List Char) : text.count '\n' ≤ unitCount text := by
  induction text with
  | nil => simp
  | cons c rest ih =>
    have hUnits := units_pos c
    rw [List.count_cons, unitCount_cons]
    split <;> omega

/-! ## Whole lines -/

/-- The text is a number of lines, each with its line feed. -/
def WholeLines (text : List Char) : Prop :=
  ∀ c, text.getLast? = some c → c = '\n'

theorem wholeLines_nil : WholeLines [] := fun _ h => nomatch h

theorem wholeLines_cons {c : Char} {rest : List Char} :
    WholeLines (c :: rest) ↔ (rest = [] → c = '\n') ∧ WholeLines rest := by
  unfold WholeLines
  cases rest with
  | nil => simp
  | cons d rest => simp [List.getLast?_cons_cons]

/-- A line that goes on is not the last of whole lines, so one of them ends behind it. -/
theorem mem_of_wholeLines_cons {c : Char} {rest : List Char} (h : WholeLines (c :: rest))
    (hFeed : c ≠ '\n') : '\n' ∈ rest := by
  obtain ⟨hLast, hRest⟩ := wholeLines_cons.mp h
  cases hEnd : rest.getLast? with
  | none => exact absurd (hLast (List.getLast?_eq_none_iff.mp hEnd)) hFeed
  | some d => exact hRest d hEnd ▸ List.mem_of_getLast? hEnd

/-- A text is whole lines and the beginning of another one. -/
theorem exists_wholeLines (text : List Char) :
    ∃ front line, text = front ++ line ∧ WholeLines front ∧ '\n' ∉ line := by
  induction text with
  | nil => exact ⟨[], [], rfl, wholeLines_nil, List.not_mem_nil⟩
  | cons c rest ih =>
    obtain ⟨front, line, rfl, hFront, hLine⟩ := ih
    by_cases hGoesOn : front = [] ∧ c ≠ '\n'
    · obtain ⟨rfl, hFeed⟩ := hGoesOn
      exact ⟨[], c :: line, rfl, wholeLines_nil, by simp [hLine, Ne.symm hFeed]⟩
    · refine ⟨c :: front, line, rfl, wholeLines_cons.mpr ⟨fun hNil => ?_, hFront⟩, hLine⟩
      exact Classical.byContradiction fun hFeed => hGoesOn ⟨hNil, hFeed⟩

/-- A text with enough line feeds begins with any smaller number of whole lines. -/
theorem exists_wholeLines_count {lines : Nat} {text : List Char} (h : lines ≤ text.count '\n') :
    ∃ front rest, text = front ++ rest ∧ WholeLines front ∧ front.count '\n' = lines := by
  induction text generalizing lines with
  | nil => exact ⟨[], [], rfl, wholeLines_nil, (Nat.le_zero.mp h).symm⟩
  | cons c text ih =>
    cases lines with
    | zero => exact ⟨[], c :: text, rfl, wholeLines_nil, rfl⟩
    | succ lines =>
      by_cases hFeed : c = '\n'
      · subst hFeed
        rw [List.count_cons_self] at h
        obtain ⟨front, rest, rfl, hFront, hCount⟩ := ih (Nat.le_of_succ_le_succ h)
        refine ⟨'\n' :: front, rest, rfl, wholeLines_cons.mpr ⟨fun _ => rfl, hFront⟩, ?_⟩
        rw [List.count_cons_self, hCount]
      · rw [List.count_cons_of_ne hFeed] at h
        obtain ⟨front, rest, rfl, hFront, hCount⟩ := ih h
        refine ⟨c :: front, rest, rfl, wholeLines_cons.mpr ⟨fun hNil => ?_, hFront⟩, ?_⟩
        · rw [hNil] at hCount
          cases hCount
        · rw [List.count_cons_of_ne hFeed, hCount]

/-- Behind whole lines and characters of a line stands the column that these take up. -/
theorem advance_lines {front line : List Char} (hFront : WholeLines front) (hLine : '\n' ∉ line)
    (first column : Nat) (hStart : front = [] → column = 0) :
    advance first column (front ++ line) = (first + front.count '\n', unitCount line) := by
  induction front generalizing first column with
  | nil =>
    have hColumn := advance_column_of_notMem hLine first column
    have hFirst := advance_line first column line
    rw [List.count_eq_zero_of_not_mem hLine] at hFirst
    rw [hStart rfl, Nat.zero_add] at hColumn
    rw [List.nil_append, List.count_nil, ← hColumn, ← hFirst, hStart rfl]
  | cons c front ih =>
    obtain ⟨hLast, hRest⟩ := wholeLines_cons.mp hFront
    rw [List.cons_append, advance]
    by_cases hFeed : c = '\n'
    · subst hFeed
      rw [if_pos rfl, ih hRest _ _ (fun _ => rfl), List.count_cons_self]
      simp only [Nat.add_assoc, Nat.add_comm 1]
    · have hMore : front = [] → column + units c = 0 := fun hNil => absurd (hLast hNil) hFeed
      rw [if_neg hFeed, ih hRest _ _ hMore, List.count_cons_of_ne hFeed]

/-! ## Counting without a bound -/

/-- The offset of the column `target` in the line that `rest` is in, from the offset and column of
`rest` on; `afterReturn` says whether a carriage return stands before `rest`. -/
def offsetInLine (target offset column : Nat) (afterReturn : Bool) : List Char → Nat
  | [] => offset
  | c :: rest =>
    if target ≤ column then offset
    else if c = '\n' then if afterReturn then offset - 1 else offset
    else offsetInLine target (offset + 1) (column + units c) (c = '\r') rest

/-- The offset of a column `lines` lines below the start of `rest`. -/
def offsetBelow (target : Nat) : Nat → Nat → List Char → Nat
  | 0, offset, rest => offsetInLine target offset 0 false rest
  | _ + 1, offset, [] => offset
  | lines + 1, offset, c :: rest =>
    offsetBelow target (if c = '\n' then lines else lines + 1) (offset + 1) rest

theorem units_lt (c : Char) : units c < 2 ^ 32 := by
  unfold units
  split <;> decide

theorem toNat_column (c : Char) (column : UInt32) (h : column.toNat + units c < 2 ^ 32) :
    (column + UInt32.ofNat (units c)).toNat = column.toNat + units c := by
  rw [UInt32.toNat_add, UInt32.toNat_ofNat_of_lt' (units_lt c), Nat.mod_eq_of_lt h]

/-- In the line of the position the scan looks for its column. -/
theorem scan_inLine (p : Position) (rest : List Char) (offset : Nat) (column : UInt32)
    (afterReturn : Bool) (hFits : column.toNat + unitCount rest < 2 ^ 32) :
    scan p p.line column offset afterReturn rest =
      offsetInLine p.character.toNat offset column.toNat afterReturn rest := by
  induction rest generalizing offset column afterReturn with
  | nil => rfl
  | cons c rest ih =>
    rw [unitCount_cons] at hFits
    rw [scan, offsetInLine]
    by_cases hColumn : p.character ≤ column
    · rw [if_pos ⟨rfl, hColumn⟩, if_pos (UInt32.le_iff_toNat_le.mp hColumn)]
    rw [if_neg (mt And.right hColumn), if_neg (mt UInt32.le_iff_toNat_le.mpr hColumn)]
    by_cases hFeed : c = '\n'
    · rw [if_pos ⟨rfl, hFeed⟩, if_pos hFeed]
    · have hNext := toNat_column c column (by omega)
      rw [if_neg (mt And.right hFeed), if_neg hFeed, if_neg hFeed, ih _ _ _ (by omega), hNext]

/-- Before the line of the position the scan counts the lines. -/
theorem scan_below (p : Position) (rest : List Char) (line column : UInt32) (offset : Nat)
    (afterReturn : Bool) (lines : Nat) (hLines : p.line.toNat = line.toNat + (lines + 1))
    (hFits : line.toNat + unitCount rest < 2 ^ 32) :
    scan p line column offset afterReturn rest =
      offsetBelow p.character.toNat (lines + 1) offset rest := by
  induction rest generalizing line column offset afterReturn lines with
  | nil => rfl
  | cons c rest ih =>
    have hAbove : line ≠ p.line := by
      rintro rfl
      omega
    have hUnits := units_pos c
    rw [unitCount_cons] at hFits
    rw [scan, if_neg (mt And.left hAbove), if_neg (mt And.left hAbove), offsetBelow]
    by_cases hFeed : c = '\n'
    · have hNext : (line + 1).toNat = line.toNat + 1 := by
        rw [UInt32.toNat_add, UInt32.toNat_one, Nat.mod_eq_of_lt (by omega)]
      rw [if_pos hFeed, if_pos hFeed]
      cases lines with
      | zero =>
        -- The next line is that of the position.
        have hReached : line + 1 = p.line := UInt32.toNat_inj.mp (by omega)
        rw [hReached, scan_inLine p rest _ _ _ (by rw [UInt32.toNat_zero]; omega), offsetBelow,
          UInt32.toNat_zero]
      | succ lines => exact ih _ _ _ _ lines (by omega) (by omega)
    · rw [if_neg hFeed, if_neg hFeed]
      exact ih _ _ _ _ lines hLines (by omega)

/-- In a text that is not too long no line and no column is too great for 32 bits. -/
theorem offsetAt_eq {text : List Char} (hFits : unitCount text < 2 ^ 32) (p : Position) :
    offsetAt text p = offsetBelow p.character.toNat p.line.toNat 0 text := by
  cases hLine : p.line.toNat with
  | zero =>
    have hFirst : p.line = 0 := UInt32.toNat_inj.mp hLine
    have hScan := scan_inLine p text 0 0 false (by rwa [UInt32.toNat_zero, Nat.zero_add])
    rw [hFirst, UInt32.toNat_zero] at hScan
    rw [offsetAt, hScan, offsetBelow]
  | succ lines =>
    refine scan_below p text 0 0 0 false lines ?_ ?_
    · rw [hLine, UInt32.toNat_zero, Nat.zero_add]
    · rwa [UInt32.toNat_zero, Nat.zero_add]

/-! ## Along the lines -/

/-- Behind whole lines the search begins at the first column. -/
theorem offsetBelow_lines {front : List Char} (hFront : WholeLines front) (target offset : Nat)
    (rest : List Char) :
    offsetBelow target (front.count '\n') offset (front ++ rest) =
      offsetInLine target (offset + front.length) 0 false rest := by
  induction front generalizing offset with
  | nil => rw [List.count_nil, List.nil_append, offsetBelow, List.length_nil, Nat.add_zero]
  | cons c front ih =>
    have hRest := ih (wholeLines_cons.mp hFront).2 (offset + 1)
    rw [Nat.add_assoc, Nat.add_comm 1] at hRest
    rw [List.cons_append, List.length_cons]
    by_cases hFeed : c = '\n'
    · subst hFeed
      rw [List.count_cons_self, offsetBelow, if_pos rfl, hRest]
    · obtain ⟨lines, hLines⟩ := Nat.exists_eq_succ_of_ne_zero
        (Nat.ne_of_gt (List.count_pos_iff.mpr (mem_of_wholeLines_cons hFront hFeed)))
      rw [hLines] at hRest
      rw [List.count_cons_of_ne hFeed, hLines, offsetBelow, if_neg hFeed, hRest]

/-- A line that the text does not have is looked for at its end. -/
theorem offsetBelow_of_count_lt {lines : Nat} {text : List Char} (h : text.count '\n' < lines)
    (target offset : Nat) : offsetBelow target lines offset text = offset + text.length := by
  obtain ⟨lines, rfl⟩ := Nat.exists_eq_succ_of_ne_zero (Nat.ne_of_gt (Nat.zero_lt_of_lt h))
  induction text generalizing lines offset with
  | nil => rfl
  | cons c text ih =>
    rw [offsetBelow, List.length_cons, ← Nat.add_assoc, Nat.add_right_comm]
    by_cases hFeed : c = '\n'
    · subst hFeed
      rw [List.count_cons_self] at h
      obtain ⟨lines, rfl⟩ := Nat.exists_eq_succ_of_ne_zero
        (Nat.ne_of_gt (Nat.zero_lt_of_lt (Nat.lt_of_succ_lt_succ h)))
      rw [if_pos rfl, ih _ _ (Nat.lt_of_succ_lt_succ h)]
    · rw [List.count_cons_of_ne hFeed] at h
      rw [if_neg hFeed, ih _ _ h]

/-! ## Along one line -/

/-- The column behind characters of a line is found behind them, whatever follows: before it is reached no
character is a line feed. -/
theorem offsetInLine_taken {taken : List Char} (hLine : '\n' ∉ taken) (left : List Char)
    (offset column : Nat) (afterReturn : Bool) :
    offsetInLine (column + unitCount taken) offset column afterReturn (taken ++ left) =
      offset + taken.length := by
  induction taken generalizing offset column afterReturn with
  | nil => cases left <;> simp [offsetInLine]
  | cons c rest ih =>
    obtain ⟨hFirst, hRest⟩ := not_or.mp (mt List.mem_cons.mpr hLine)
    have hBefore : ¬ column + unitCount (c :: rest) ≤ column := by
      have hUnits := units_pos c
      rw [unitCount_cons]
      omega
    have hTarget : column + unitCount (c :: rest) = column + units c + unitCount rest := by
      rw [unitCount_cons]
      omega
    rw [List.cons_append, offsetInLine, if_neg hBefore, if_neg (Ne.symm hFirst), hTarget, ih hRest,
      List.length_cons]
    omega

/-- A column behind a line that ends in a line feed is found at the line feed, or at the carriage return
before it. -/
theorem offsetInLine_behind {line : List Char} (hLine : '\n' ∉ line) (left : List Char)
    {target column : Nat} (hBehind : column + unitCount line < target) (offset : Nat)
    (afterReturn : Bool) :
    offsetInLine target offset column afterReturn (line ++ '\n' :: left) =
      if line.getLast?.elim afterReturn (· = '\r') then offset + line.length - 1
      else offset + line.length := by
  induction line generalizing offset column afterReturn with
  | nil =>
    rw [unitCount_nil, Nat.add_zero] at hBehind
    rw [List.nil_append, offsetInLine, if_neg (Nat.not_le.mpr hBehind), if_pos rfl]
    rfl
  | cons c line ih =>
    obtain ⟨hFirst, hRest⟩ := not_or.mp (mt List.mem_cons.mpr hLine)
    rw [unitCount_cons] at hBehind
    have hBefore : ¬ target ≤ column := by omega
    have hReturn : (c :: line).getLast?.elim afterReturn (· = '\r') =
        line.getLast?.elim (decide (c = '\r')) (· = '\r') := by
      cases line with
      | nil => rfl
      | cons d line => rw [List.getLast?_cons_cons, List.getLast?_cons]; rfl
    rw [List.cons_append, offsetInLine, if_neg hBefore, if_neg (Ne.symm hFirst),
      ih hRest (by omega), hReturn, List.length_cons, Nat.add_assoc, Nat.add_comm 1]

/-- At most the carriage return before its start is left out in what is found in a line. -/
theorem le_offsetInLine (target offset column : Nat) (afterReturn : Bool) (rest : List Char) :
    offset ≤ offsetInLine target offset column afterReturn rest + 1 := by
  induction rest generalizing offset column afterReturn with
  | nil => exact Nat.le_succ _
  | cons c rest ih =>
    have hNext := ih (offset + 1) (column + units c) (c = '\r')
    rw [offsetInLine]
    split
    · omega
    split
    · split <;> omega
    · omega

end ExtensionHost.Document
