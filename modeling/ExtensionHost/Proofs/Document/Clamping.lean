import ExtensionHost.Proofs.Document.Lines
import Mathlib.Data.List.DropRight
import Mathlib.Order.Bounds.Basic

/-!
# Positions outside of their line

A position may have a column that no offset of its line has, and a line that the text does not have. The
offset that is found is then the least one of the line that does not stand before the column, the end of the
visible part of the line, or the end of the text (`offsetAt_clamps`). The offsets of a line are those that
have as many line feeds before them as there are lines before it: the last of them is that of its line feed,
and it has a column like every other. So a column between a carriage return and its line feed, or within a
character of two units, is one that an offset reaches.
-/

namespace ExtensionHost.Document

/-! ## Lines and columns -/

/-- The offsets of a line: those up to its line feed, or up to the end of the text in the last line. -/
def lineOffsets (text : List Char) (line : Nat) : Set Nat :=
  {k | k ≤ text.length ∧ (text.take k).count '\n' = line}

/-- The UTF-16 units from the start of its line to an offset. -/
def columnAt (text : List Char) (offset : Nat) : Nat :=
  unitCount ((text.take offset).rtakeWhile (· ≠ '\n'))

/-- The end of the visible part of a line, from the last offset of the line: a line feed and a carriage
return before it cannot be seen. -/
def visibleEnd (text : List Char) (stop : Nat) : Nat :=
  if text[stop]? = some '\n' ∧ 0 < stop ∧ text[stop - 1]? = some '\r' then stop - 1 else stop

/-- The offsets of the line of a position that do not stand before its column. -/
def reaching (text : List Char) (p : Position) : Set Nat :=
  {k ∈ lineOffsets text p.line.toNat | p.character.toNat ≤ columnAt text k}

/-- A line that the text does not have has no offsets. -/
theorem lineOffsets_eq_empty {text : List Char} {line : Nat} (h : text.count '\n' < line) :
    lineOffsets text line = ∅ := by
  refine Set.eq_empty_of_forall_notMem ?_
  rintro k ⟨-, rfl⟩
  exact Nat.not_lt.mpr ((List.take_sublist k text).count_le _) h

section Line

variable {front line left : List Char}

/-- Among whole lines there are fewer line feeds before an offset than before their end. -/
theorem count_take_lt (hFront : WholeLines front) {k : Nat} (hk : k < front.length) :
    (front.take k).count '\n' < front.count '\n' := by
  have hLast : '\n' ∈ front.drop k := by
    have hSome := List.getLast?_eq_some_getLast (List.ne_nil_of_length_pos (Nat.zero_lt_of_lt hk))
    have hDrop : (front.drop k).getLast? = front.getLast? := by
      rw [List.getLast?_drop, if_neg (Nat.not_le.mpr hk)]
    rw [hSome, hFront _ hSome] at hDrop
    exact List.mem_of_getLast? hDrop
  have hBehind : 0 < (front.drop k).count '\n' := List.count_pos_iff.mpr hLast
  calc (front.take k).count '\n'
    _ < (front.take k).count '\n' + (front.drop k).count '\n' := Nat.lt_add_of_pos_right hBehind
    _ = front.count '\n' := by rw [← List.count_append, List.take_append_drop]

/-- The offsets of a line stand between the end of the lines before it and its own end. -/
theorem mem_lineOffsets (hFront : WholeLines front) (hLine : '\n' ∉ line)
    (hLeft : left.head?.all (· = '\n')) {k : Nat} :
    k ∈ lineOffsets (front ++ line ++ left) (front.count '\n') ↔
      front.length ≤ k ∧ k ≤ front.length + line.length := by
  have hCount : (front ++ line).count '\n' = front.count '\n' := by
    rw [List.count_append, List.count_eq_zero_of_not_mem hLine, Nat.add_zero]
  constructor
  · rintro ⟨hk, hFeeds⟩
    refine ⟨?_, ?_⟩
    · refine Nat.not_lt.mp fun hBefore => ?_
      have hFewer := count_take_lt hFront hBefore
      rw [List.append_assoc, List.take_append_of_le_length (Nat.le_of_lt hBefore)] at hFeeds
      omega
    · refine Nat.not_lt.mp fun hBehind => ?_
      rw [← List.length_append] at hBehind
      cases left with
      | nil =>
        rw [List.append_nil] at hk
        omega
      | cons c left =>
        -- The line feed behind the line stands before the offset.
        obtain rfl : c = '\n' := by simpa using hLeft
        have hMore : (front ++ line ++ ['\n']).count '\n' ≤ front.count '\n' := by
          rw [← hFeeds]
          refine (List.IsPrefix.sublist ?_).count_le _
          refine List.prefix_take_iff.mpr ⟨⟨left, by simp⟩, ?_⟩
          rw [List.length_append, List.length_singleton]
          omega
        rw [List.count_append, hCount, List.count_singleton_self] at hMore
        omega
  · rintro ⟨hStart, hStop⟩
    refine ⟨by simp only [List.length_append]; omega, ?_⟩
    obtain ⟨j, rfl⟩ := Nat.exists_eq_add_of_le hStart
    have hTaken : '\n' ∉ line.take j := fun h => hLine (List.mem_of_mem_take h)
    rw [List.take_append_of_le_length (by rw [List.length_append]; omega),
      List.take_length_add_append, List.count_append, List.count_eq_zero_of_not_mem hTaken,
      Nat.add_zero]

/-- In a line the column of an offset is the number of units of the characters before it. -/
theorem columnAt_line (hFront : WholeLines front) (hLine : '\n' ∉ line) {j : Nat}
    (hj : j ≤ line.length) :
    columnAt (front ++ line ++ left) (front.length + j) = unitCount (line.take j) := by
  have hTaken : ∀ c ∈ line.take j, (decide (c ≠ '\n')) = true := fun c hc =>
    decide_eq_true fun hFeed => hLine (hFeed ▸ List.mem_of_mem_take hc)
  have hFeed : front.rtakeWhile (· ≠ '\n') = [] := by
    refine List.rtakeWhile_eq_nil_iff.mpr fun hSome => ?_
    rw [hFront _ (List.getLast?_eq_some_getLast hSome)]
    decide
  have hRun : (front ++ line.take j).rtakeWhile (· ≠ '\n') = line.take j := by
    unfold List.rtakeWhile at hFeed ⊢
    rw [List.reverse_append,
      List.takeWhile_append_of_pos fun c hc => hTaken c (List.mem_reverse.mp hc),
      List.reverse_append, hFeed, List.reverse_reverse, List.nil_append]
  rw [columnAt, List.take_append_of_le_length (by rw [List.length_append]; omega),
    List.take_length_add_append, hRun]

/-! ## Looking along a line -/

/-- A column that the line has is found at the first offset of the line that does not stand before it. -/
theorem offsetInLine_reached (hLine : '\n' ∉ line) {target column : Nat}
    (hReached : target ≤ column + unitCount line) (offset : Nat) (afterReturn : Bool) :
    ∃ j ≤ line.length, offsetInLine target offset column afterReturn (line ++ left) = offset + j ∧
      target ≤ column + unitCount (line.take j) ∧
        ∀ i < j, column + unitCount (line.take i) < target := by
  induction line generalizing offset column afterReturn with
  | nil =>
    refine ⟨0, Nat.le_refl 0, ?_, hReached, fun i hi => absurd hi (Nat.not_lt_zero i)⟩
    cases left with
    | nil => rfl
    | cons c left => exact if_pos hReached
  | cons c line ih =>
    obtain ⟨hFirst, hRest⟩ := not_or.mp (mt List.mem_cons.mpr hLine)
    rw [List.cons_append, offsetInLine]
    by_cases hHere : target ≤ column
    · refine ⟨0, Nat.zero_le _, if_pos hHere, ?_, fun i hi => absurd hi (Nat.not_lt_zero i)⟩
      exact Nat.le_trans hHere (Nat.le_add_right _ _)
    rw [unitCount_cons, ← Nat.add_assoc] at hReached
    obtain ⟨j, hj, hFound, hTarget, hBefore⟩ := ih hRest hReached (offset + 1) (c = '\r')
    refine ⟨j + 1, Nat.succ_le_succ hj, ?_, ?_, ?_⟩
    · rw [if_neg hHere, if_neg (Ne.symm hFirst), hFound, Nat.add_right_comm, Nat.add_assoc]
    · rwa [List.take_succ_cons, unitCount_cons, ← Nat.add_assoc]
    · intro i hi
      cases i with
      | zero => exact Nat.not_le.mp hHere
      | succ i =>
        rw [List.take_succ_cons, unitCount_cons, ← Nat.add_assoc]
        exact hBefore i (Nat.lt_of_succ_lt_succ hi)

/-- A column behind the last line is found at the end of the text. -/
theorem offsetInLine_behind_end (hLine : '\n' ∉ line) {target column : Nat}
    (hBehind : column + unitCount line < target) (offset : Nat) (afterReturn : Bool) :
    offsetInLine target offset column afterReturn line = offset + line.length := by
  induction line generalizing offset column afterReturn with
  | nil => rfl
  | cons c line ih =>
    obtain ⟨hFirst, hRest⟩ := not_or.mp (mt List.mem_cons.mpr hLine)
    rw [unitCount_cons, ← Nat.add_assoc] at hBehind
    rw [offsetInLine, if_neg (by omega), if_neg (Ne.symm hFirst), ih hRest hBehind, List.length_cons,
      Nat.add_right_comm, Nat.add_assoc]

/-- The visible part of a line ends before its last character if that is a carriage return and a line feed
follows. -/
theorem visibleEnd_line (hFront : WholeLines front) :
    visibleEnd (front ++ line ++ left) (front.length + line.length) =
      if left.head? = some '\n' ∧ line.getLast? = some '\r' then front.length + line.length - 1
      else front.length + line.length := by
  have hStop : (front ++ line ++ left)[(front ++ line).length]? = left.head? := by
    rw [List.getElem?_append_right (Nat.le_refl _), Nat.sub_self, List.head?_eq_getElem?]
  have hLast : 0 < (front ++ line).length ∧
      (front ++ line ++ left)[(front ++ line).length - 1]? = some '\r' ↔
        (front ++ line).getLast? = some '\r' := by
    rw [List.getLast?_eq_getElem?]
    constructor
    · rintro ⟨hPos, hReturn⟩
      rwa [List.getElem?_append_left (Nat.sub_lt hPos Nat.one_pos)] at hReturn
    · intro hReturn
      obtain ⟨hBound, -⟩ := List.getElem?_eq_some_iff.mp hReturn
      rw [List.getElem?_append_left hBound]
      exact ⟨Nat.zero_lt_of_lt hBound, hReturn⟩
  have hReturn : (front ++ line).getLast? = some '\r' ↔ line.getLast? = some '\r' := by
    rw [List.getLast?_append]
    cases line.getLast? with
    | some c => rw [Option.some_or]
    | none =>
      rw [Option.none_or]
      exact ⟨fun hFeed => absurd (hFront _ hFeed) (by decide), nofun⟩
  rw [visibleEnd, ← List.length_append, hStop]
  simp only [hLast, hReturn]

/-- What is found in the line of a position: the first offset that its column reaches, or the end of the
visible part. -/
theorem offsetInLine_clamps (hFront : WholeLines front) (hLine : '\n' ∉ line)
    (hLeft : left.head?.all (· = '\n')) {p : Position} (hp : p.line.toNat = front.count '\n') {k : Nat}
    (hk : k = offsetInLine p.character.toNat front.length 0 false (line ++ left)) :
    IsLeast (reaching (front ++ line ++ left) p) k ∨
      reaching (front ++ line ++ left) p = ∅ ∧
        k = visibleEnd (front ++ line ++ left) (front.length + line.length) := by
  have hMem : ∀ i, front.length + i ∈ reaching (front ++ line ++ left) p ↔
      i ≤ line.length ∧ p.character.toNat ≤ unitCount (line.take i) := by
    intro i
    rw [reaching, Set.mem_sep_iff, hp, mem_lineOffsets hFront hLine hLeft]
    constructor
    · rintro ⟨⟨-, hi⟩, hColumn⟩
      rw [columnAt_line hFront hLine (by omega)] at hColumn
      exact ⟨by omega, hColumn⟩
    · rintro ⟨hi, hColumn⟩
      rw [columnAt_line hFront hLine hi]
      exact ⟨⟨by omega, by omega⟩, hColumn⟩
  have hStart : ∀ m ∈ reaching (front ++ line ++ left) p, ∃ i, m = front.length + i := by
    rintro m ⟨hm, -⟩
    rw [hp, mem_lineOffsets hFront hLine hLeft] at hm
    exact Nat.exists_eq_add_of_le hm.1
  by_cases hReached : p.character.toNat ≤ unitCount line
  · left
    obtain ⟨j, hj, hFound, hTarget, hBefore⟩ :=
      offsetInLine_reached hLine (Nat.le_trans hReached (Nat.le_add_left _ 0)) front.length false
    simp only [Nat.zero_add] at hTarget hBefore
    rw [hk, hFound]
    refine ⟨(hMem j).mpr ⟨hj, hTarget⟩, ?_⟩
    intro m hm
    obtain ⟨i, rfl⟩ := hStart m hm
    refine Nat.add_le_add_left (Nat.not_lt.mp fun hi => ?_) _
    exact Nat.not_lt.mpr ((hMem i).mp hm).2 (hBefore i hi)
  · right
    have hBehind : 0 + unitCount line < p.character.toNat := by
      rw [Nat.zero_add]
      exact Nat.not_le.mp hReached
    refine ⟨Set.eq_empty_of_forall_notMem fun m hm => ?_, ?_⟩
    · obtain ⟨i, rfl⟩ := hStart m hm
      exact hReached (Nat.le_trans ((hMem i).mp hm).2 (unitCount_take_le line i))
    · rw [hk, visibleEnd_line hFront]
      cases left with
      | nil => rw [List.append_nil, offsetInLine_behind_end hLine hBehind, if_neg nofun]
      | cons c left =>
        obtain rfl : c = '\n' := by simpa using hLeft
        rw [offsetInLine_behind hLine left hBehind]
        cases hLast : line.getLast? with
        | none => simp
        | some c => simp

/-- What follows a line is nothing or begins with a line feed. -/
theorem exists_line (rest : List Char) :
    ∃ line left, rest = line ++ left ∧ '\n' ∉ line ∧ left.head?.all (· = '\n') := by
  refine ⟨rest.takeWhile (· ≠ '\n'), rest.dropWhile (· ≠ '\n'), ?_, ?_, ?_⟩
  · exact List.takeWhile_append_dropWhile.symm
  · intro hFeed
    exact absurd (List.mem_takeWhile_imp hFeed) (by decide)
  · have hHead := List.head?_dropWhile_not (fun c : Char => decide (c ≠ '\n')) rest
    cases hLeft : (rest.dropWhile (· ≠ '\n')).head? with
    | none => rfl
    | some c =>
      rw [hLeft] at hHead
      simpa using hHead

end Line

/-! ## The main statement -/

/-- **A position is clamped to its line.** In a text of fewer than `2 ^ 32` UTF-16 units the position of a
line that the text does not have is found at the end of the text. Any other one is found at the least offset
of its line that does not stand before its column or, if all of them do, at the end of the visible part of
the line. What is found never stands behind the text. -/
theorem offsetAt_clamps {text : List Char} (hFits : unitCount text < 2 ^ 32) (p : Position) :
    (lineOffsets text p.line.toNat = ∅ ∧ offsetAt text p = text.length ∨
      ∃ stop, IsGreatest (lineOffsets text p.line.toNat) stop ∧
        (IsLeast (reaching text p) (offsetAt text p) ∨
          reaching text p = ∅ ∧ offsetAt text p = visibleEnd text stop)) ∧
      offsetAt text p ≤ text.length := by
  have hCases : lineOffsets text p.line.toNat = ∅ ∧ offsetAt text p = text.length ∨
      ∃ stop, IsGreatest (lineOffsets text p.line.toNat) stop ∧
        (IsLeast (reaching text p) (offsetAt text p) ∨
          reaching text p = ∅ ∧ offsetAt text p = visibleEnd text stop) := by
    rw [offsetAt_eq hFits]
    by_cases hLines : p.line.toNat ≤ text.count '\n'
    · right
      obtain ⟨front, rest, rfl, hFront, hCount⟩ := exists_wholeLines_count hLines
      obtain ⟨line, left, rfl, hLine, hLeft⟩ := exists_line rest
      have hMem := fun k => mem_lineOffsets hFront hLine hLeft (k := k)
      rw [← hCount, offsetBelow_lines hFront, Nat.zero_add, ← List.append_assoc]
      refine ⟨front.length + line.length, ⟨(hMem _).mpr ⟨Nat.le_add_right _ _, Nat.le_refl _⟩, ?_⟩, ?_⟩
      · exact fun k hk => ((hMem k).mp hk).2
      · exact offsetInLine_clamps hFront hLine hLeft hCount.symm rfl
    · have hBelow := Nat.not_le.mp hLines
      rw [offsetBelow_of_count_lt hBelow, Nat.zero_add]
      exact .inl ⟨lineOffsets_eq_empty hBelow, rfl⟩
  refine ⟨hCases, ?_⟩
  rcases hCases with ⟨-, hEnd⟩ | ⟨stop, hStop, hLeast | ⟨-, hVisible⟩⟩
  · exact Nat.le_of_eq hEnd
  · exact hLeast.1.1.1
  · rw [hVisible, visibleEnd]
    have hBound := hStop.1.1
    split
    · omega
    · exact hBound

/-- A column far behind a line that ends in a carriage return and a line feed. -/
theorem offsetAt_clamps_behindLine :
    unitCount "a😀\r\nb".toList < 2 ^ 32 ∧
      (lineOffsets "a😀\r\nb".toList 0 = ∅ ∧ offsetAt "a😀\r\nb".toList ⟨0, 99⟩ = 5 ∨
        ∃ stop, IsGreatest (lineOffsets "a😀\r\nb".toList 0) stop ∧
          (IsLeast (reaching "a😀\r\nb".toList ⟨0, 99⟩) (offsetAt "a😀\r\nb".toList ⟨0, 99⟩) ∨
            reaching "a😀\r\nb".toList ⟨0, 99⟩ = ∅ ∧
              offsetAt "a😀\r\nb".toList ⟨0, 99⟩ = visibleEnd "a😀\r\nb".toList stop)) ∧
        offsetAt "a😀\r\nb".toList ⟨0, 99⟩ ≤ 5 :=
  ⟨by decide, offsetAt_clamps (by decide) ⟨0, 99⟩⟩

/-- Half of a character, the place between a return and its line feed, a column behind the visible part, an
empty line, and a line that is missing. -/
example : [(0, 2), (0, 4), (0, 5), (1, 0), (2, 7), (9, 0)].map
    (fun (line, column) => offsetAt "a😀\r\n\nb".toList ⟨line, column⟩) = [2, 3, 2, 4, 6, 6] := by
  decide +kernel

end ExtensionHost.Document
