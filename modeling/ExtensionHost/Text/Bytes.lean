import ExtensionHost.Text.Utf8

/-!
# Texts by their bytes

A text is kept as UTF-8, so a part of it is replaced from one byte offset to another. `byteOffset?` finds
the byte offset of a character; a text is cut at such offsets only, and not within a character.
-/

namespace ExtensionHost.Utf8

/-- The byte offsets of the characters of a text that stands at `offset`, and behind them that of its
end. -/
def byteOffsets (offset : Nat) : List Char → List Nat
  | [] => [offset]
  | c :: rest => offset :: byteOffsets (offset + c.utf8Size) rest

/-- The byte offset of a character, or of the end of the text. -/
def byteOffset? (text : List Char) (index : Nat) : Option Nat :=
  (byteOffsets 0 text)[index]?

/-- The parts of a text before and behind a byte offset, unless it is within a character or behind the
text. -/
def cut? : Nat → List Char → Option (List Char × List Char)
  | 0, text => some ([], text)
  | _ + 1, [] => none
  | n + 1, c :: rest =>
    if c.utf8Size ≤ n + 1 then
      (cut? (n + 1 - c.utf8Size) rest).map fun parts => (c :: parts.1, parts.2)
    else none

/-- A text with the bytes from one offset to another replaced, unless they are out of order or one of them
cannot be cut at. -/
def replaceBytes? (text : List Char) (start stop : Nat) (newText : List Char) :
    Option (List Char) :=
  if start ≤ stop then
    match cut? start text, cut? stop text with
    | some front, some back => some (front.1 ++ newText ++ back.2)
    | _, _ => none
  else none

/-! ## Offsets of characters -/

theorem length_encodeChar (c : Char) : (String.utf8EncodeChar c).length = c.utf8Size :=
  String.length_utf8EncodeChar c

@[simp] theorem size_nil : size [] = 0 := rfl

@[simp] theorem size_cons (c : Char) (text : List Char) :
    size (c :: text) = c.utf8Size + size text := by
  unfold size encode
  rw [List.flatMap_cons, List.length_append, length_encodeChar]

theorem getElem?_byteOffsets (offset : Nat) (text : List Char) (index : Nat) :
    (byteOffsets offset text)[index]? =
      if index ≤ text.length then some (offset + size (text.take index)) else none := by
  induction text generalizing offset index with
  | nil => cases index <;> simp [byteOffsets]
  | cons c rest ih =>
    cases index with
    | zero => simp [byteOffsets]
    | succ index =>
      rw [byteOffsets, List.getElem?_cons_succ, ih, List.length_cons, List.take_succ_cons, size_cons,
        Nat.add_assoc]
      simp only [Nat.add_le_add_iff_right]

/-- The characters before a character take the bytes before its byte offset. -/
theorem byteOffset?_eq (text : List Char) (index : Nat) :
    byteOffset? text index =
      if index ≤ text.length then some (size (text.take index)) else none := by
  rw [byteOffset?, getElem?_byteOffsets]
  simp only [Nat.zero_add]

/-- Characters that follow each other stand at byte offsets that follow each other. -/
theorem size_take_lt {text : List Char} {first second : Nat} (h : first < second)
    (hInside : second ≤ text.length) : size (text.take first) < size (text.take second) := by
  induction text generalizing first second with
  | nil => exact absurd hInside (Nat.not_le.mpr (Nat.zero_lt_of_lt h))
  | cons c rest ih =>
    obtain ⟨second, rfl⟩ := Nat.exists_eq_succ_of_ne_zero (Nat.ne_of_gt (Nat.zero_lt_of_lt h))
    have hChar := c.utf8Size_pos
    rw [List.take_succ_cons, size_cons]
    cases first with
    | zero =>
      rw [List.take_zero, size_nil]
      omega
    | succ first =>
      have hRest := ih (Nat.lt_of_succ_lt_succ h) (Nat.le_of_succ_le_succ hInside)
      rw [List.take_succ_cons, size_cons]
      omega

theorem size_take_le_iff {text : List Char} {first second : Nat} (hFirst : first ≤ text.length)
    (hSecond : second ≤ text.length) :
    size (text.take first) ≤ size (text.take second) ↔ first ≤ second := by
  rcases Nat.lt_trichotomy first second with hLess | rfl | hMore
  · exact ⟨fun _ => Nat.le_of_lt hLess, fun _ => Nat.le_of_lt (size_take_lt hLess hSecond)⟩
  · exact ⟨fun _ => Nat.le_refl _, fun _ => Nat.le_refl _⟩
  · exact ⟨fun h => absurd h (Nat.not_le.mpr (size_take_lt hMore hFirst)),
      fun h => absurd h (Nat.not_le.mpr hMore)⟩

/-! ## Cutting at offsets of characters -/

theorem cut?_size (front back : List Char) :
    cut? (size front) (front ++ back) = some (front, back) := by
  induction front with
  | nil => rw [size_nil, List.nil_append, cut?]
  | cons c front ih =>
    have hSize : size (c :: front) = c.utf8Size + size front - 1 + 1 := by
      have hChar := c.utf8Size_pos
      rw [size_cons]
      omega
    have hRest : c.utf8Size + size front - 1 + 1 - c.utf8Size = size front := by
      have hChar := c.utf8Size_pos
      omega
    have hFits : c.utf8Size ≤ c.utf8Size + size front - 1 + 1 := by omega
    rw [hSize, List.cons_append, cut?, if_pos hFits, hRest, ih]
    rfl

theorem cut?_take (text : List Char) (index : Nat) :
    cut? (size (text.take index)) text = some (text.take index, text.drop index) := by
  have hCut := cut?_size (text.take index) (text.drop index)
  rwa [List.take_append_drop] at hCut

theorem replaceBytes?_take {text : List Char} {start stop : Nat} (h : start ≤ stop)
    (hInside : stop ≤ text.length) (newText : List Char) :
    replaceBytes? text (size (text.take start)) (size (text.take stop)) newText =
      some (text.take start ++ newText ++ text.drop stop) := by
  have hOrder := (size_take_le_iff (Nat.le_trans h hInside) hInside).mpr h
  rw [replaceBytes?, if_pos hOrder, cut?_take, cut?_take]

end ExtensionHost.Utf8
