import ExtensionHost.Proofs.Document.Lines

/-!
# Counting in 32 bits

A build with checks panics when a line or a column is too great for 32 bits. The search for the offset of a
position does so exactly when it comes to a character that makes its line `2 ^ 32` units long or longer, on a
line before that of the position or before its column (`offsetAt?_checked`). The number of a line is never too
great, since the search does not get behind the line of the position. A build without checks never panics
(`offsetAt?_wrapping`), and no build does in a text of fewer than `2 ^ 32` units (`offsetAt?_eq`,
`positionAt?_eq`).
-/

namespace ExtensionHost.Document

/-! ## Sums -/

theorem sum?_of_lt (k : Addition) {m n : UInt32} (h : m.toNat + n.toNat < 2 ^ 32) :
    k.sum? m n = some (m + n) := by
  cases k with
  | checked => exact if_pos h
  | wrapping => rfl

theorem sum?_checked_of_le {m n : UInt32} (h : 2 ^ 32 ≤ m.toNat + n.toNat) :
    Addition.checked.sum? m n = none := if_neg (Nat.not_lt.mpr h)

theorem toNat_units (c : Char) : (UInt32.ofNat (units c)).toNat = units c :=
  UInt32.toNat_ofNat_of_lt' (units_lt c)

/-! ## Where a sum is too great -/

/-- On the way to a position, from a line and column on, there is a character that makes its line `2 ^ 32`
units long or longer. It stands on a line before that of the position, or before its column. -/
def OverflowsFrom (p : Position) (line column : Nat) (text : List Char) : Prop :=
  ∃ before c after, text = before ++ c :: after ∧ c ≠ '\n' ∧
    2 ^ 32 ≤ (advance line column before).2 + units c ∧
    ((advance line column before).1 < p.line.toNat ∨
      (advance line column before).1 = p.line.toNat ∧
        (advance line column before).2 < p.character.toNat)

/-- The same from the beginning of a text on. -/
def Overflows (text : List Char) (p : Position) : Prop := OverflowsFrom p 0 0 text

variable {p : Position} {l column : Nat} {c : Char} {rest text : List Char}

theorem not_overflowsFrom_nil : ¬ OverflowsFrom p l column [] := by
  rintro ⟨before, c, after, hText, -⟩
  exact absurd hText (by simp)

/-- The line on which a text goes on is not before the one on which it begins. -/
theorem le_advance_line (l column : Nat) (text : List Char) : l ≤ (advance l column text).1 := by
  rw [advance_line]
  exact Nat.le_add_right _ _

/-- On the line on which a text begins the columns increase. -/
theorem le_advance_column (hLine : (advance l column text).1 = l) :
    column ≤ (advance l column text).2 := by
  rw [advance_line] at hLine
  have hNone : '\n' ∉ text := List.count_eq_zero.mp (by omega)
  rw [advance_column_of_notMem hNone]
  exact Nat.le_add_right _ _

theorem not_overflowsFrom_behind (hBehind : p.line.toNat < l) : ¬ OverflowsFrom p l column text := by
  rintro ⟨before, c, after, -, -, -, hBefore⟩
  have hLater := le_advance_line l column before
  omega

theorem not_overflowsFrom_reached (hReached : l = p.line.toNat) (hColumn : p.character.toNat ≤ column) :
    ¬ OverflowsFrom p l column text := by
  rintro ⟨before, c, after, -, -, -, hBefore⟩
  have hLater := le_advance_line l column before
  have hSame := hBefore.resolve_left (by omega)
  have hLine : (advance l column before).1 = l := by omega
  have hNext := le_advance_column hLine
  omega

theorem overflowsFrom_feed : OverflowsFrom p l column ('\n' :: rest) ↔ OverflowsFrom p (l + 1) 0 rest := by
  constructor
  · rintro ⟨before, c, after, hText, hChar, hWhere⟩
    cases before with
    | nil => exact absurd (List.cons.inj hText).1.symm hChar
    | cons d before =>
      obtain ⟨rfl, hRest⟩ := List.cons.inj hText
      exact ⟨before, c, after, hRest, hChar, hWhere⟩
  · rintro ⟨before, c, after, rfl, hChar, hWhere⟩
    exact ⟨'\n' :: before, c, after, rfl, hChar, hWhere⟩

/-- Any other character makes the line too long or leads to the next column. -/
theorem overflowsFrom_cons (hChar : c ≠ '\n')
    (hBefore : l < p.line.toNat ∨ l = p.line.toNat ∧ column < p.character.toNat) :
    OverflowsFrom p l column (c :: rest) ↔
      2 ^ 32 ≤ column + units c ∨ OverflowsFrom p l (column + units c) rest := by
  have hAdvance : ∀ before, advance l column (c :: before) = advance l (column + units c) before :=
    fun before => by rw [advance, if_neg hChar]
  constructor
  · rintro ⟨before, d, after, hText, hOther, hWhere⟩
    cases before with
    | nil =>
      obtain ⟨rfl, -⟩ := List.cons.inj hText
      exact .inl hWhere.1
    | cons e before =>
      obtain ⟨rfl, hRest⟩ := List.cons.inj hText
      rw [hAdvance] at hWhere
      exact .inr ⟨before, d, after, hRest, hOther, hWhere⟩
  · rintro (hHere | ⟨before, d, after, rfl, hOther, hWhere⟩)
    · exact ⟨[], c, rest, rfl, hChar, hHere, hBefore⟩
    · exact ⟨c :: before, d, after, rfl, hOther, by rw [hAdvance]; exact hWhere⟩

theorem not_overflowsFrom_of_lt (h : column + unitCount text < 2 ^ 32) : ¬ OverflowsFrom p l column text := by
  rintro ⟨before, c, after, rfl, -, hGreat, -⟩
  have hBefore := advance_column_le l column before
  have hCount : unitCount (before ++ c :: after) = unitCount before + (units c + unitCount after) := by
    unfold unitCount
    rw [List.map_append, List.sum_append, List.map_cons, List.sum_cons]
  omega

/-! ## The search -/

theorem scan?_wrapping (p : Position) (line column : UInt32) {offset : Nat} {afterReturn : Bool}
    (hReturn : afterReturn = true → 0 < offset) (rest : List Char) :
    scan? .wrapping p line column offset afterReturn rest =
      some (scan p line column offset afterReturn rest) := by
  induction rest generalizing line column offset afterReturn with
  | nil => rfl
  | cons c rest ih =>
    rw [scan?, scan]
    split
    · rfl
    split
    · split
      · rename_i hAfter
        rw [if_neg (Nat.ne_of_gt (hReturn hAfter))]
      · rfl
    split
    · exact ih _ _ (fun _ => Nat.succ_pos _)
    · exact ih _ _ (fun _ => Nat.succ_pos _)

/-- The search of a build with checks, from a line on that is not behind that of the position. -/
theorem scan?_checked (p : Position) {line : UInt32} (hLine : line ≤ p.line) (column : UInt32)
    {offset : Nat} {afterReturn : Bool} (hReturn : afterReturn = true → 0 < offset) (rest : List Char) :
    OverflowsFrom p line.toNat column.toNat rest ∧
        scan? .checked p line column offset afterReturn rest = none ∨
      ¬ OverflowsFrom p line.toNat column.toNat rest ∧
        scan? .checked p line column offset afterReturn rest =
          some (scan p line column offset afterReturn rest) := by
  induction rest generalizing line column offset afterReturn with
  | nil => exact .inr ⟨not_overflowsFrom_nil, rfl⟩
  | cons c rest ih =>
    rw [scan?, scan]
    by_cases hReached : line = p.line ∧ p.character ≤ column
    · rw [if_pos hReached, if_pos hReached]
      exact .inr ⟨not_overflowsFrom_reached (congrArg _ hReached.1) (UInt32.le_iff_toNat_le.mp hReached.2), rfl⟩
    rw [if_neg hReached, if_neg hReached]
    by_cases hEnd : line = p.line ∧ c = '\n'
    · rw [if_pos hEnd, if_pos hEnd]
      obtain ⟨rfl, rfl⟩ := hEnd
      refine .inr ⟨mt overflowsFrom_feed.mp (not_overflowsFrom_behind (Nat.lt_succ_self _)), ?_⟩
      split
      · rename_i hAfter
        rw [if_neg (Nat.ne_of_gt (hReturn hAfter))]
      · rfl
    rw [if_neg hEnd, if_neg hEnd]
    have hUpTo : line.toNat ≤ p.line.toNat := UInt32.le_iff_toNat_le.mp hLine
    have hSize := p.line.toNat_lt
    by_cases hFeed : c = '\n'
    · subst hFeed
      have hAbove : line.toNat < p.line.toNat :=
        Nat.lt_of_le_of_ne hUpTo fun hSame => hEnd ⟨UInt32.toNat_inj.mp hSame, rfl⟩
      have hNext : (line + 1).toNat = line.toNat + 1 := by
        rw [UInt32.toNat_add, UInt32.toNat_one, Nat.mod_eq_of_lt (by omega)]
      have hSum : Addition.checked.sum? line 1 = some (line + 1) :=
        sum?_of_lt _ (by rw [UInt32.toNat_one]; omega)
      rw [if_pos rfl, if_pos rfl, hSum, overflowsFrom_feed, ← hNext, ← UInt32.toNat_zero]
      exact ih (UInt32.le_iff_toNat_le.mpr (by omega)) 0 Bool.noConfusion
    · have hBefore : line.toNat < p.line.toNat ∨
          line.toNat = p.line.toNat ∧ column.toNat < p.character.toNat := by
        by_cases hSame : line = p.line
        · exact .inr ⟨congrArg _ hSame, Nat.lt_of_not_le fun hLe =>
            hReached ⟨hSame, UInt32.le_iff_toNat_le.mpr hLe⟩⟩
        · exact .inl (Nat.lt_of_le_of_ne hUpTo fun hIs => hSame (UInt32.toNat_inj.mp hIs))
      rw [if_neg hFeed, if_neg hFeed, overflowsFrom_cons hFeed hBefore]
      by_cases hGreat : 2 ^ 32 ≤ column.toNat + units c
      · rw [sum?_checked_of_le (by rwa [toNat_units])]
        exact .inl ⟨.inl hGreat, rfl⟩
      · have hFits : column.toNat + units c < 2 ^ 32 := Nat.lt_of_not_le hGreat
        rw [sum?_of_lt _ (by rwa [toNat_units]), or_iff_right hGreat, ← toNat_column c column hFits]
        exact ih hLine _ fun _ => Nat.succ_pos _

theorem offsetAt?_wrapping (text : List Char) (p : Position) :
    offsetAt? .wrapping text p = some (offsetAt text p) :=
  scan?_wrapping p 0 0 Bool.noConfusion text

/-- **A build with checks panics exactly where a line is too long** on the way to a position. -/
theorem offsetAt?_checked (text : List Char) (p : Position) :
    Overflows text p ∧ offsetAt? .checked text p = none ∨
      ¬ Overflows text p ∧ offsetAt? .checked text p = some (offsetAt text p) :=
  have hFirst : (0 : UInt32) ≤ p.line := UInt32.le_iff_toNat_le.mpr (Nat.zero_le _)
  scan?_checked p hFirst 0 Bool.noConfusion text

/-- No build panics in a text that is not too long. -/
theorem offsetAt?_eq (k : Addition) (hFits : unitCount text < 2 ^ 32) (p : Position) :
    offsetAt? k text p = some (offsetAt text p) := by
  cases k with
  | wrapping => exact offsetAt?_wrapping text p
  | checked =>
    rcases offsetAt?_checked text p with ⟨hGreat, -⟩ | ⟨-, hOffset⟩
    · exact absurd hGreat (not_overflowsFrom_of_lt (by omega))
    · exact hOffset

/-! ## Positions -/

theorem ofNat_sum?_ofNat (k : Addition) {m n : Nat} (h : k = .wrapping ∨ m + n < 2 ^ 32) :
    k.sum? (UInt32.ofNat m) (UInt32.ofNat n) = some (UInt32.ofNat (m + n)) := by
  rw [UInt32.ofNat_add]
  rcases h with rfl | hFits
  · rfl
  · have hFirst : m < UInt32.size := Nat.lt_of_le_of_lt (Nat.le_add_right m n) hFits
    have hSecond : n < UInt32.size := Nat.lt_of_le_of_lt (Nat.le_add_left n m) hFits
    refine sum?_of_lt k ?_
    rwa [UInt32.toNat_ofNat_of_lt' hFirst, UInt32.toNat_ofNat_of_lt' hSecond]

theorem advance?_eq (k : Addition) {line column : Nat}
    (h : k = .wrapping ∨ line + unitCount text < 2 ^ 32 ∧ column + unitCount text < 2 ^ 32) :
    advance? k (UInt32.ofNat line) (UInt32.ofNat column) text =
      some ⟨UInt32.ofNat (advance line column text).1, UInt32.ofNat (advance line column text).2⟩ := by
  induction text generalizing line column with
  | nil => rfl
  | cons c text ih =>
    rw [unitCount_cons] at h
    have hUnits := units_pos c
    rw [advance?, advance]
    split
    · have hNext : k = .wrapping ∨ line + 1 < 2 ^ 32 := h.imp_right fun hFits => by omega
      have hLine : k.sum? (UInt32.ofNat line) 1 = some (UInt32.ofNat (line + 1)) :=
        ofNat_sum?_ofNat k hNext
      have hRest : k = .wrapping ∨ line + 1 + unitCount text < 2 ^ 32 ∧ 0 + unitCount text < 2 ^ 32 :=
        h.imp_right fun hFits => by omega
      rw [hLine]
      exact ih hRest
    · have hRest : k = .wrapping ∨
          line + unitCount text < 2 ^ 32 ∧ column + units c + unitCount text < 2 ^ 32 :=
        h.imp_right fun hFits => by omega
      rw [ofNat_sum?_ofNat k (h.imp_right fun hFits => by omega)]
      exact ih hRest

/-- The position of an offset in a build without checks, or in a text that is not too long. -/
theorem positionAt?_eq (k : Addition) (hFits : k = .wrapping ∨ unitCount text < 2 ^ 32) (offset : Nat) :
    positionAt? k text offset = some (positionAt text offset) := by
  have hTaken := unitCount_take_le text offset
  have hBoth : k = .wrapping ∨
      0 + unitCount (text.take offset) < 2 ^ 32 ∧ 0 + unitCount (text.take offset) < 2 ^ 32 :=
    hFits.imp_right fun hLt => by omega
  exact advance?_eq k hBoth

end ExtensionHost.Document
