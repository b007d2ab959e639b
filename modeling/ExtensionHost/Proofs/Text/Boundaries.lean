import ExtensionHost.Proofs.Text.Utf8
import ExtensionHost.Text.Bytes

/-!
# Where bytes can be cut

The bytes of a character are one that continues no character and up to three that do. So whether an offset
is between two characters of a text can be told from the byte that stands there, and `cut?` finds the
characters before and behind an offset exactly where that is so.
-/

namespace ExtensionHost.Utf8

/-- An offset between two characters, or at an end: no byte that continues a character stands there. -/
def IsBoundary (bytes : List UInt8) (n : Nat) : Prop :=
  n = bytes.length ∨ ∃ b, bytes[n]? = some b ∧ isContinuation b = false

/-- Only the first byte of a character does not continue it. -/
theorem exists_lead (c : Char) :
    ∃ lead more, String.utf8EncodeChar c = lead :: more ∧ isContinuation lead = false ∧
      ∀ b ∈ more, isContinuation b = true := by
  have hValid : c.val.toNat < 0x110000 := by
    have hChar := c.valid
    simp only [UInt32.isValidChar, Nat.isValidChar] at hChar
    omega
  have hMore : ∀ n, isContinuation (UInt8.ofNat (n % 64 + 128)) = true :=
    fun n => isContinuation_continuation (Nat.mod_lt n (by decide))
  have hLead : ∀ {n : Nat}, n < 128 ∨ 192 ≤ n ∧ n < 256 → isContinuation (UInt8.ofNat n) = false := by
    intro n hn
    have hNat : (UInt8.ofNat n).toNat = n := by
      rw [UInt8.toNat_ofNat']
      omega
    simp only [isContinuation, Bool.and_eq_false_iff, decide_eq_false_iff_not, UInt8.le_iff_toNat_le,
      UInt8.lt_iff_toNat_lt, hNat, UInt8.reduceToNat]
    omega
  simp only [String.utf8EncodeChar]
  split
  · exact ⟨_, _, rfl, hLead (by omega), by simp⟩
  split
  · exact ⟨_, _, rfl, hLead (by omega), List.forall_mem_cons.mpr ⟨hMore _, by simp⟩⟩
  split
  · exact ⟨_, _, rfl, hLead (by omega), List.forall_mem_cons.mpr
      ⟨hMore _, List.forall_mem_cons.mpr ⟨hMore _, by simp⟩⟩⟩
  · exact ⟨_, _, rfl, hLead (by omega), List.forall_mem_cons.mpr ⟨hMore _, List.forall_mem_cons.mpr
      ⟨hMore _, List.forall_mem_cons.mpr ⟨hMore _, by simp⟩⟩⟩⟩

/-- A character of ASCII is written as one byte. -/
theorem exists_encodeChar {c : Char} (h : c.toNat < 128) :
    ∃ b : UInt8, b < 0x80 ∧ String.utf8EncodeChar c = [b] ∧ Char.ofNat b.toNat = c := by
  have hNat : (UInt8.ofNat c.toNat).toNat = c.toNat := by
    rw [UInt8.toNat_ofNat']
    omega
  refine ⟨UInt8.ofNat c.toNat, ?_, ?_, ?_⟩
  · simp only [UInt8.lt_iff_toNat_lt, hNat, UInt8.reduceToNat, h]
  · rw [← encodeChar_one (v := c.toNat) (by omega), Char.ofNat_toNat]
  · rw [hNat, Char.ofNat_toNat]

/-- A byte of ASCII is a character by itself. -/
theorem encodeChar_of_mem {c : Char} {b : UInt8} (hAscii : b < 0x80)
    (h : b ∈ String.utf8EncodeChar c) :
    String.utf8EncodeChar c = [b] ∧ c = Char.ofNat b.toNat := by
  obtain ⟨lead, more, hChar, -, hMore⟩ := exists_lead c
  obtain ⟨lead', more', hChar', hChunk⟩ := chunk_encodeChar c
  obtain ⟨rfl, rfl⟩ := List.cons.inj (hChar.symm.trans hChar')
  have hLead : b = lead := by
    refine (List.mem_cons.mp (hChar ▸ h)).resolve_right fun hTail => ?_
    have hFrom := (toNat_of_isContinuation (hMore b hTail)).1
    simp only [UInt8.lt_iff_toNat_lt, UInt8.reduceToNat] at hAscii
    omega
  subst hLead
  -- The character is read from its first byte alone, so no byte is left behind that one.
  have hRead := hChunk []
  unfold chunk at hRead
  rw [if_pos hAscii, List.append_nil, Prod.mk.injEq, Chunk.scalar.injEq] at hRead
  rw [hChar, hRead.2]
  exact ⟨rfl, hRead.1.symm⟩

theorem notMem_encode {text : List Char} {b : UInt8} (hAscii : b < 0x80)
    (h : Char.ofNat b.toNat ∉ text) : b ∉ encode text := by
  intro hMem
  obtain ⟨c, hc, hByte⟩ := List.mem_flatMap.mp hMem
  exact h ((encodeChar_of_mem hAscii hByte).2 ▸ hc)

/-- A text that ends in a byte of ASCII ends in its character. -/
theorem encode_eq_concat {text : List Char} {bytes : List UInt8} {b : UInt8} (hAscii : b < 0x80)
    (h : encode text = bytes ++ [b]) :
    ∃ front, text = front ++ [Char.ofNat b.toNat] ∧ encode front = bytes := by
  rcases List.eq_nil_or_concat text with rfl | ⟨front, c, rfl⟩
  · exact absurd h.symm (by simp)
  · obtain ⟨lead, more, hChar, -⟩ := exists_lead c
    rw [List.concat_eq_append, encode_append, encode_cons, encode_nil, List.append_nil] at h
    have hLast : b ∈ String.utf8EncodeChar c := by
      have hEnd := congrArg List.getLast? h
      rw [List.getLast?_concat, List.getLast?_append, hChar, List.getLast?_cons, Option.some_or,
        ← List.getLast?_cons, ← hChar] at hEnd
      exact List.mem_of_getLast? hEnd
    obtain ⟨hByte, rfl⟩ := encodeChar_of_mem hAscii hLast
    rw [hByte] at h
    exact ⟨front, List.concat_eq_append, List.append_cancel_right h⟩

/-- **An offset is a boundary exactly behind the bytes of some first characters.** -/
theorem isBoundary_encode {text : List Char} {n : Nat} :
    IsBoundary (encode text) n ↔ ∃ front back, text = front ++ back ∧ size front = n := by
  constructor
  · intro h
    induction text generalizing n with
    | nil =>
      rcases h with rfl | ⟨b, hb, -⟩
      · exact ⟨[], [], rfl, rfl⟩
      · cases hb
    | cons c rest ih =>
      obtain ⟨lead, more, hChar, -, hMore⟩ := exists_lead c
      have hSize : c.utf8Size = more.length + 1 := by
        rw [← length_encodeChar, hChar, List.length_cons]
      rw [encode_cons, hChar] at h
      rcases Nat.lt_or_ge n c.utf8Size with hInside | hBehind
      · cases n with
        | zero => exact ⟨[], c :: rest, rfl, rfl⟩
        | succ n =>
          -- Within the character there are bytes that continue it.
          exfalso
          have hn : n < more.length := by omega
          rcases h with hEnd | ⟨b, hb, hFirst⟩
          · simp only [List.cons_append, List.length_cons, List.length_append] at hEnd
            omega
          · rw [List.cons_append, List.getElem?_cons_succ, List.getElem?_append_left hn] at hb
            rw [hMore b (List.mem_of_getElem? hb)] at hFirst
            cases hFirst
      · have hLength : (lead :: more).length = c.utf8Size := hSize.symm
        have hRest : IsBoundary (encode rest) (n - c.utf8Size) := by
          rcases h with hEnd | ⟨b, hb, hFirst⟩
          · rw [List.length_append, hLength] at hEnd
            exact .inl (by omega)
          · rw [List.getElem?_append_right (by omega), hLength] at hb
            exact .inr ⟨b, hb, hFirst⟩
        obtain ⟨front, back, rfl, hFront⟩ := ih hRest
        refine ⟨c :: front, back, rfl, ?_⟩
        rw [size_cons, hFront]
        omega
  · rintro ⟨front, back, rfl, rfl⟩
    cases back with
    | nil =>
      rw [List.append_nil]
      exact .inl rfl
    | cons c back =>
      obtain ⟨lead, more, hChar, hLead, -⟩ := exists_lead c
      refine .inr ⟨lead, ?_, hLead⟩
      rw [encode_append, encode_cons, hChar, size, List.getElem?_append_right (Nat.le_refl _), Nat.sub_self]
      rfl

/-- A text is cut into what stands before the offset and what stands behind it. -/
theorem cut?_eq_some {text front back : List Char} {n : Nat} :
    cut? n text = some (front, back) ↔ text = front ++ back ∧ size front = n := by
  constructor
  · intro h
    fun_induction cut? n text generalizing front back with
    | case1 text =>
      cases h
      exact ⟨rfl, rfl⟩
    | case2 n => cases h
    | case3 n c rest hFits ih =>
      obtain ⟨⟨front, back⟩, hRest, hParts⟩ := Option.map_eq_some_iff.mp h
      cases hParts
      obtain ⟨rfl, hSize⟩ := ih hRest
      refine ⟨rfl, ?_⟩
      rw [size_cons, hSize]
      omega
    | case4 n c rest hFits => cases h
  · rintro ⟨rfl, rfl⟩
    exact cut?_size front back

/-- **A text can be cut at the boundaries of its bytes** and nowhere else. -/
theorem isSome_cut? {text : List Char} {n : Nat} :
    (cut? n text).isSome = true ↔ IsBoundary (encode text) n := by
  rw [isBoundary_encode, Option.isSome_iff_exists]
  simp only [Prod.exists, cut?_eq_some]

/-- The bytes of a text with a part replaced are the bytes before the part, those that are put there and
those behind it. -/
theorem encode_of_replaceBytes? {text newText result : List Char} {start stop : Nat}
    (h : replaceBytes? text start stop newText = some result) :
    encode result = (encode text).take start ++ encode newText ++ (encode text).drop stop := by
  unfold replaceBytes? at h
  split at h
  · split at h
    · rename_i front back hStart hStop
      cases h
      obtain ⟨hFront, hFrontSize⟩ := cut?_eq_some.mp hStart
      obtain ⟨hBack, hBackSize⟩ := cut?_eq_some.mp hStop
      have hTake : (encode text).take start = encode front.1 := by
        rw [hFront, encode_append, List.take_left' hFrontSize]
      have hDrop : (encode text).drop stop = encode back.2 := by
        rw [hBack, encode_append, List.drop_left' hBackSize]
      rw [encode_append, encode_append, hTake, hDrop]
    · cases h
  · cases h

end ExtensionHost.Utf8
