import ExtensionHost.Proofs.Document.Conflicts
import ExtensionHost.Proofs.Document.Positions

/-!
# Order of offsets

A later position stands at a later offset, with one exception. The position between the carriage return and
the line feed of a line is found there, while every later column of the line is found before the return:
the search comes to the column of the line feed before it sees that it is one. `not_keepsOrder` shows both
consequences, positions out of order and an edit that is rejected although its range goes forward.
`offsetAt_le_iff` says that there are no others.
-/

namespace ExtensionHost

/-- Positions in the order of lines, and in a line in the order of columns. -/
instance : LE Position :=
  ⟨fun p q => p.line < q.line ∨ p.line = q.line ∧ p.character ≤ q.character⟩

instance (p q : Position) : Decidable (p ≤ q) :=
  inferInstanceAs (Decidable (p.line < q.line ∨ p.line = q.line ∧ p.character ≤ q.character))

theorem Position.eq_of_toNat {p q : Position} (hLine : p.line.toNat = q.line.toNat)
    (hCharacter : p.character.toNat = q.character.toNat) : p = q := by
  cases p
  cases q
  rw [Position.mk.injEq]
  exact ⟨UInt32.toNat_inj.mp hLine, UInt32.toNat_inj.mp hCharacter⟩

namespace Document

/-! ## The claim that order is kept -/

/-- A position that does not stand behind another one has an offset that does not stand behind that of the
other one. -/
def KeepsOrder : Prop :=
  ∀ text, unitCount text < 2 ^ 32 → ∀ p q : Position, p ≤ q → offsetAt text p ≤ offsetAt text q

/-- An edit whose range does not start behind its end is applied. -/
def AppliesForward : Prop :=
  ∀ text, unitCount text < 2 ^ 32 → ∀ e : TextEdit, e.range.start ≤ e.range.stop →
    ∃ result, applyEdits text [e] = .ok result

/-- The first line has two characters. The columns 3 and 99 are both behind its end; the first is found
within the line end, the other one before it. -/
theorem not_keepsOrder : ¬ KeepsOrder ∧ ¬ AppliesForward := by
  refine ⟨fun h => ?_, fun h => ?_⟩
  · have hOrder := h "ab\r\ncd".toList (by decide) ⟨0, 3⟩ ⟨0, 99⟩ (by decide)
    exact absurd hOrder (by decide +kernel)
  · obtain ⟨result, hResult⟩ := h "ab\r\ncd".toList (by decide) ⟨⟨⟨0, 3⟩, ⟨0, 99⟩⟩, "x"⟩ (by decide)
    have hRejected : applyEdits "ab\r\ncd".toList [⟨⟨⟨0, 3⟩, ⟨0, 99⟩⟩, "x"⟩] =
        .error (conflictError 3) := by
      decide +kernel
    rw [hRejected] at hResult
    cases hResult

/-! ## Two columns of one line -/

/-- A later column of a line has an earlier offset only if the earlier column is that of a line feed behind
a carriage return, where the return may be the one before `rest`. -/
theorem exists_of_offsetInLine_lt {first second offset column : Nat} {afterReturn : Bool}
    {rest : List Char} (hOrder : first ≤ second)
    (h : offsetInLine second offset column afterReturn rest <
      offsetInLine first offset column afterReturn rest) :
    ∃ line left, rest = line ++ '\n' :: left ∧ '\n' ∉ line ∧ column + unitCount line < second ∧
      (line = [] ∧ afterReturn = true ∧ first ≤ column ∨
        line.getLast? = some '\r' ∧ first = column + unitCount line) := by
  induction rest generalizing offset column afterReturn with
  | nil => exact absurd h (Nat.lt_irrefl _)
  | cons c rest ih =>
    rw [offsetInLine, offsetInLine] at h
    by_cases hFirst : first ≤ column
    · by_cases hSecond : second ≤ column
      · rw [if_pos hFirst, if_pos hSecond] at h
        exact absurd h (Nat.lt_irrefl _)
      rw [if_pos hFirst, if_neg hSecond] at h
      by_cases hFeed : c = '\n'
      · subst hFeed
        refine ⟨[], rest, rfl, List.not_mem_nil, Nat.not_le.mp hSecond, .inl ⟨rfl, ?_, hFirst⟩⟩
        rw [if_pos rfl] at h
        exact Classical.byContradiction fun hReturn => by
          rw [if_neg hReturn] at h
          exact Nat.lt_irrefl _ h
      · rw [if_neg hFeed] at h
        have hBehind := le_offsetInLine second (offset + 1) (column + units c) (c = '\r') rest
        omega
    · have hSecond : ¬ second ≤ column := fun hLe => hFirst (Nat.le_trans hOrder hLe)
      rw [if_neg hFirst, if_neg hSecond] at h
      by_cases hFeed : c = '\n'
      · rw [if_pos hFeed, if_pos hFeed] at h
        exact absurd h (Nat.lt_irrefl _)
      rw [if_neg hFeed, if_neg hFeed] at h
      obtain ⟨line, left, rfl, hLine, hBehind, hWhere⟩ := ih h
      have hUnits : column + unitCount (c :: line) = column + units c + unitCount line := by
        rw [unitCount_cons, Nat.add_assoc]
      refine ⟨c :: line, left, rfl, by simp [hLine, Ne.symm hFeed], hUnits ▸ hBehind, .inr ?_⟩
      rw [hUnits]
      rcases hWhere with ⟨rfl, hReturn, hLe⟩ | ⟨hLast, hColumn⟩
      · -- The return is one unit, so that the column behind it is the only one that is left.
        obtain rfl := of_decide_eq_true hReturn
        have hOne : units '\r' = 1 := rfl
        rw [unitCount_nil]
        exact ⟨rfl, by omega⟩
      · rw [List.getLast?_cons, hLast]
        exact ⟨rfl, hColumn⟩

/-! ## Two lines -/

theorem le_offsetInLine_start (target offset column : Nat) (rest : List Char) :
    offset ≤ offsetInLine target offset column false rest := by
  cases rest with
  | nil => exact Nat.le_refl _
  | cons c rest =>
    have hNext := le_offsetInLine target (offset + 1) (column + units c) (c = '\r') rest
    rw [offsetInLine]
    split
    · exact Nat.le_refl _
    split
    · exact Nat.le_refl _
    · omega

theorem le_offsetBelow (target lines offset : Nat) (rest : List Char) :
    offset ≤ offsetBelow target lines offset rest := by
  induction rest generalizing lines offset with
  | nil => cases lines <;> exact Nat.le_refl _
  | cons c rest ih =>
    cases lines with
    | zero =>
      rw [offsetBelow]
      exact le_offsetInLine_start target offset 0 (c :: rest)
    | succ lines =>
      rw [offsetBelow]
      exact Nat.le_trans (Nat.le_succ offset) (ih _ _)

/-- What is found in a line does not stand behind what is found in later lines. -/
theorem offsetInLine_le_offsetBelow (first second lines offset column : Nat) (afterReturn : Bool)
    (rest : List Char) :
    offsetInLine first offset column afterReturn rest ≤ offsetBelow second (lines + 1) offset rest := by
  induction rest generalizing offset column afterReturn with
  | nil => exact Nat.le_refl _
  | cons c rest ih =>
    have hBelow := fun lines => le_offsetBelow second lines (offset + 1) rest
    rw [offsetInLine, offsetBelow]
    by_cases hFirst : first ≤ column
    · rw [if_pos hFirst]
      exact Nat.le_trans (Nat.le_succ _) (hBelow _)
    rw [if_neg hFirst]
    by_cases hFeed : c = '\n'
    · have hHere : (if afterReturn then offset - 1 else offset) ≤ offset + 1 := by
        split <;> omega
      rw [if_pos hFeed]
      exact Nat.le_trans hHere (hBelow _)
    · rw [if_neg hFeed, if_neg hFeed]
      exact ih _ _ _

/-- Columns of different lines stand in the order of the lines. -/
theorem offsetBelow_le_of_lt {fewer more : Nat} (h : fewer < more) (first second offset : Nat)
    (rest : List Char) : offsetBelow first fewer offset rest ≤ offsetBelow second more offset rest := by
  obtain ⟨more, rfl⟩ := Nat.exists_eq_succ_of_ne_zero (Nat.ne_of_gt (Nat.zero_lt_of_lt h))
  induction rest generalizing fewer more offset with
  | nil => cases fewer <;> exact Nat.le_refl _
  | cons c rest ih =>
    cases fewer with
    | zero =>
      rw [offsetBelow]
      exact offsetInLine_le_offsetBelow first second more offset 0 false (c :: rest)
    | succ fewer =>
      rw [offsetBelow, offsetBelow]
      by_cases hFeed : c = '\n'
      · obtain ⟨more, rfl⟩ := Nat.exists_eq_succ_of_ne_zero
          (Nat.ne_of_gt (Nat.zero_lt_of_lt (Nat.lt_of_succ_lt_succ h)))
        rw [if_pos hFeed, if_pos hFeed]
        exact ih _ _ (Nat.lt_of_succ_lt_succ h)
      · rw [if_neg hFeed, if_neg hFeed]
        exact ih _ _ h

/-! ## The line ends of a text -/

/-- The position stands between the carriage return and the line feed of a line. -/
def WithinLineEnd (text : List Char) (p : Position) : Prop :=
  ∃ k, text[k]? = some '\r' ∧ text[k + 1]? = some '\n' ∧ p = positionAt text (k + 1)

/-- The first position stands within the end of a line, and the second one in the same line behind it. -/
def Crossed (text : List Char) (p q : Position) : Prop :=
  WithinLineEnd text p ∧ q.line = p.line ∧ p.character < q.character

variable {text : List Char} {p q : Position}

/-- The position behind whole lines and characters of a line. -/
theorem positionAt_lines (hFits : unitCount text < 2 ^ 32) {front line left : List Char}
    (hText : text = front ++ line ++ left) (hFront : WholeLines front) (hLine : '\n' ∉ line) :
    (positionAt text (front ++ line).length).line.toNat = front.count '\n' ∧
      (positionAt text (front ++ line).length).character.toNat = unitCount line := by
  obtain ⟨hLines, hColumn⟩ := positionAt_toNat hFits (front ++ line).length
  have hTake : text.take (front ++ line).length = front ++ line := by
    rw [hText, List.take_left]
  rw [hTake] at hLines hColumn
  rw [List.count_append, List.count_eq_zero_of_not_mem hLine, Nat.add_zero] at hLines
  rw [advance_lines hFront hLine 0 0 fun _ => rfl] at hColumn
  exact ⟨hLines, hColumn⟩

/-- A position within the end of a line is found there, and all behind it in the line one before it. -/
theorem offsetAt_of_crossed (hFits : unitCount text < 2 ^ 32) (h : Crossed text p q) :
    offsetAt text p = offsetAt text q + 1 := by
  obtain ⟨⟨k, hReturn, hFeed, rfl⟩, hSame, hColumns⟩ := h
  obtain ⟨hk, hFeed⟩ := List.getElem?_eq_some_iff.mp hFeed
  obtain ⟨front, line, hTaken, hFront, hLine⟩ := exists_wholeLines (text.take (k + 1))
  have hLength : (front ++ line).length = k + 1 := by
    rw [← hTaken, List.length_take_of_le (Nat.le_of_lt hk)]
  have hText : text = front ++ line ++ '\n' :: text.drop (k + 2) := by
    rw [← hTaken, ← hFeed, ← List.drop_eq_getElem_cons hk, List.take_append_drop]
  -- The return is the last character of the line, because whole lines end in a line feed.
  have hLast : (front ++ line).getLast? = some '\r' := by
    rw [← hTaken, List.getLast?_eq_getElem?, List.length_take_of_le (Nat.le_of_lt hk),
      List.getElem?_take_of_lt (by omega)]
    exact hReturn
  have hEnd : line.getLast? = some '\r' := by
    rw [List.getLast?_append] at hLast
    cases hLine' : line.getLast? with
    | some c => rwa [hLine', Option.some_or] at hLast
    | none =>
      rw [hLine', Option.none_or] at hLast
      exact absurd (hFront _ hLast) (by decide)
  obtain ⟨hLines, hColumn⟩ := positionAt_lines hFits hText hFront hLine
  rw [hLength] at hLines hColumn
  have hBehind : 0 + unitCount line < q.character.toNat := by
    rw [Nat.zero_add, ← hColumn]
    exact UInt32.lt_iff_toNat_lt.mp hColumns
  have hq : offsetAt text q = front.length + line.length - 1 := by
    rw [offsetAt_eq hFits, hSame, hLines, hText, List.append_assoc, offsetBelow_lines hFront,
      offsetInLine_behind hLine _ hBehind, hEnd, Nat.zero_add]
    rfl
  rw [offsetAt_positionAt hFits, hq, Nat.min_eq_left (Nat.le_of_lt hk), ← List.length_append, hLength]
  rfl

/-- **Positions that are out of order are crossed**: no other position has an offset behind that of a later
one. -/
theorem crossed_of_lt (hFits : unitCount text < 2 ^ 32) (hOrder : p ≤ q)
    (h : offsetAt text q < offsetAt text p) : Crossed text p q := by
  rw [offsetAt_eq hFits, offsetAt_eq hFits] at h
  rcases hOrder with hLines | ⟨hSame, hColumns⟩
  · have hBelow := offsetBelow_le_of_lt (UInt32.lt_iff_toNat_lt.mp hLines) p.character.toNat
      q.character.toNat 0 text
    exact absurd h (Nat.not_lt.mpr hBelow)
  rw [← hSame] at h
  by_cases hLine : p.line.toNat ≤ text.count '\n'
  · obtain ⟨front, rest, hText, hFront, hCount⟩ := exists_wholeLines_count hLine
    rw [← hCount, hText, offsetBelow_lines hFront, offsetBelow_lines hFront] at h
    obtain ⟨line, left, hRest, hLine, hBehind, hWhere⟩ :=
      exists_of_offsetInLine_lt (UInt32.le_iff_toNat_le.mp hColumns) h
    obtain ⟨hLast, hColumn⟩ := hWhere.resolve_left fun hStart => absurd hStart.2.1 Bool.false_ne_true
    obtain ⟨line, rfl⟩ := List.getLast?_eq_some_iff.mp hLast
    rw [hRest, ← List.append_assoc] at hText
    obtain ⟨hLineAt, hColumnAt⟩ := positionAt_lines hFits hText hFront hLine
    have hLength : (front ++ (line ++ ['\r'])).length = (front ++ line).length + 1 := by
      simp [Nat.add_assoc]
    rw [Nat.zero_add] at hColumn hBehind
    refine ⟨⟨(front ++ line).length, ?_, ?_, ?_⟩, hSame.symm, ?_⟩
    · rw [hText, ← List.append_assoc, List.append_assoc, List.getElem?_append_right (Nat.le_refl _),
        Nat.sub_self]
      rfl
    · rw [← hLength, hText, List.getElem?_append_right (Nat.le_refl _), Nat.sub_self]
      rfl
    · rw [← hLength]
      exact Position.eq_of_toNat (hCount.symm.trans hLineAt.symm) (hColumn.trans hColumnAt.symm)
    · rw [UInt32.lt_iff_toNat_lt, hColumn]
      exact hBehind
  · rw [offsetBelow_of_count_lt (Nat.not_le.mp hLine), offsetBelow_of_count_lt (Nat.not_le.mp hLine)] at h
    exact absurd h (Nat.lt_irrefl _)

/-! ## When order is kept -/

theorem compatible_singleton {s : Span} : Compatible [s] ↔ s.start ≤ s.stop :=
  ⟨fun h => h.forward s List.mem_cons_self,
    fun h => ⟨fun _ ht => List.mem_singleton.mp ht ▸ h, List.pairwise_singleton _ _⟩⟩

/-- **Order is kept except within line ends.** In a text of fewer than `2 ^ 32` UTF-16 units a position has
an offset that does not stand behind that of a later position, unless it stands between the carriage return
and the line feed of a line and the other one in the same line behind it; then it stands one behind the
other one. So an edit whose range goes forward is rejected only if its range starts and ends so. -/
theorem offsetAt_le_iff (hFits : unitCount text < 2 ^ 32) (hOrder : p ≤ q) :
    (offsetAt text p ≤ offsetAt text q ↔ ¬ Crossed text p q) ∧
      (Crossed text p q → offsetAt text p = offsetAt text q + 1) ∧
      ∀ newText, (∃ result, applyEdits text [⟨⟨p, q⟩, newText⟩] = .ok result) ↔ ¬ Crossed text p q := by
  have hCrossed : offsetAt text p ≤ offsetAt text q ↔ ¬ Crossed text p q := by
    refine ⟨fun hLe h => ?_, fun h => Nat.not_lt.mp fun hLt => h (crossed_of_lt hFits hOrder hLt)⟩
    rw [offsetAt_of_crossed hFits h] at hLe
    exact Nat.not_succ_le_self _ hLe
  refine ⟨hCrossed, offsetAt_of_crossed hFits, fun newText => ?_⟩
  rw [← hCrossed, exists_applyEdits_eq_ok]
  exact compatible_singleton

/-- Two columns behind the visible part of a line: the first is that of the line feed. -/
theorem offsetAt_le_iff_lineEnd :
    unitCount "ab\r\ncd".toList < 2 ^ 32 ∧ (⟨0, 3⟩ : Position) ≤ ⟨0, 99⟩ ∧
      (offsetAt "ab\r\ncd".toList ⟨0, 3⟩ ≤ offsetAt "ab\r\ncd".toList ⟨0, 99⟩ ↔
        ¬ Crossed "ab\r\ncd".toList ⟨0, 3⟩ ⟨0, 99⟩) ∧
      (Crossed "ab\r\ncd".toList ⟨0, 3⟩ ⟨0, 99⟩ →
        offsetAt "ab\r\ncd".toList ⟨0, 3⟩ = offsetAt "ab\r\ncd".toList ⟨0, 99⟩ + 1) ∧
      ∀ newText, (∃ result, applyEdits "ab\r\ncd".toList [⟨⟨⟨0, 3⟩, ⟨0, 99⟩⟩, newText⟩] = .ok result) ↔
        ¬ Crossed "ab\r\ncd".toList ⟨0, 3⟩ ⟨0, 99⟩ :=
  ⟨by decide, by decide, offsetAt_le_iff (by decide) (by decide)⟩

end Document

end ExtensionHost
