import ExtensionHost.Proofs.Document.Lines
import Mathlib.Data.Set.Function
import Mathlib.Order.Interval.Set.Defs

/-!
# Positions of offsets

The scan from a position to an offset inverts the scan from an offset to a position. A position of an
offset stands at or before the end of its line, so the search in the line comes to its column before it
comes to the line feed: the position between a carriage return and its line feed is found like any other,
although no column behind it would be. Columns and lines are numbers of 32 bits, which is enough for a text
of fewer than `2 ^ 32` UTF-16 units.
-/

namespace ExtensionHost.Document

/-! ## Finding an offset again -/

/-- The line and column that a text advances to are found behind it. -/
theorem offsetBelow_taken (taken left : List Char) :
    offsetBelow (advance 0 0 taken).2 (taken.count '\n') 0 (taken ++ left) = taken.length := by
  obtain ⟨front, line, rfl, hFront, hLine⟩ := exists_wholeLines taken
  have hColumn : (advance 0 0 (front ++ line)).2 = 0 + unitCount line := by
    rw [advance_lines hFront hLine 0 0 fun _ => rfl]
    exact (Nat.zero_add _).symm
  rw [hColumn, List.count_append, List.count_eq_zero_of_not_mem hLine, Nat.add_zero,
    List.append_assoc, offsetBelow_lines hFront, offsetInLine_taken hLine, Nat.zero_add,
    List.length_append]

/-- The line and the column of an offset are numbers of 32 bits in a text that is not too long. -/
theorem positionAt_toNat {text : List Char} (hFits : unitCount text < 2 ^ 32) (offset : Nat) :
    (positionAt text offset).line.toNat = (text.take offset).count '\n' ∧
      (positionAt text offset).character.toNat = (advance 0 0 (text.take offset)).2 := by
  have hTaken := unitCount_take_le text offset
  have hLine := count_feed_le (text.take offset)
  have hColumn := advance_column_le 0 0 (text.take offset)
  have hFirst := advance_line 0 0 (text.take offset)
  rw [Nat.zero_add] at hFirst
  refine ⟨?_, ?_⟩
  · rw [positionAt, UInt32.toNat_ofNat', hFirst, Nat.mod_eq_of_lt (by omega)]
  · rw [positionAt, UInt32.toNat_ofNat', Nat.mod_eq_of_lt (by omega)]

/-- The position of an offset is found at that offset, or at the end of the text. -/
theorem offsetAt_positionAt {text : List Char} (hFits : unitCount text < 2 ^ 32) (offset : Nat) :
    offsetAt text (positionAt text offset) = min offset text.length := by
  obtain ⟨hLine, hColumn⟩ := positionAt_toNat hFits offset
  have hFound := offsetBelow_taken (text.take offset) (text.drop offset)
  rw [List.take_append_drop] at hFound
  rw [offsetAt_eq hFits, hLine, hColumn, hFound, List.length_take]

/-- Every offset behind the end of a text has the position of its end. -/
theorem positionAt_min (text : List Char) (offset : Nat) :
    positionAt text (min offset text.length) = positionAt text offset := by
  have hTake : text.take (min offset text.length) = text.take offset := by
    rw [← List.take_take, List.take_length]
  unfold positionAt
  rw [hTake]

/-- **Positions are offsets in other words.** In a text of fewer than `2 ^ 32` UTF-16 units the position of
an offset leads back to the offset, or to the end of the text for one behind it. So the offsets up to the
end have different positions, and each of these leads back to itself. -/
theorem positionAt_roundTrip {text : List Char} (hFits : unitCount text < 2 ^ 32) :
    (∀ offset, offsetAt text (positionAt text offset) = min offset text.length) ∧
      Set.InjOn (positionAt text) (Set.Iic text.length) ∧
      ∀ offset, positionAt text (offsetAt text (positionAt text offset)) = positionAt text offset := by
  refine ⟨offsetAt_positionAt hFits, ?_, ?_⟩
  · intro first hFirst second hSecond hSame
    have hBack := congrArg (offsetAt text) hSame
    rw [offsetAt_positionAt hFits, offsetAt_positionAt hFits] at hBack
    rwa [Nat.min_eq_left hFirst, Nat.min_eq_left hSecond] at hBack
  · intro offset
    rw [offsetAt_positionAt hFits, positionAt_min]

/-- A character of two units, a line end of two characters and a return alone. -/
def mixedText : List Char := "a😀\r\nb\rc".toList

theorem positionAt_roundTrip_mixed :
    unitCount mixedText < 2 ^ 32 ∧
      (∀ offset, offsetAt mixedText (positionAt mixedText offset) = min offset mixedText.length) ∧
      Set.InjOn (positionAt mixedText) (Set.Iic mixedText.length) ∧
      ∀ offset, positionAt mixedText (offsetAt mixedText (positionAt mixedText offset)) =
        positionAt mixedText offset :=
  ⟨by decide, positionAt_roundTrip (by decide)⟩

end ExtensionHost.Document
