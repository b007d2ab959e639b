import ExtensionHost.Text.Utf8

/-!
# Reading what was written as UTF-8

A character takes one to four bytes, by the size of its code point. `chunk_encodeChar` reads the bytes of
one character back, whatever follows them, and `decode?_encode` those of a text: the strict reader gives
back exactly the characters that were written.
-/

namespace ExtensionHost.Utf8

/-! ## Continuation bytes -/

theorem toNat_continuation {n : Nat} (h : n < 64) : (UInt8.ofNat (n + 128)).toNat = n + 128 := by
  rw [UInt8.toNat_ofNat']
  omega

theorem isContinuation_continuation {n : Nat} (h : n < 64) :
    isContinuation (UInt8.ofNat (n + 128)) = true := by
  simp only [isContinuation, Bool.and_eq_true, decide_eq_true_eq, UInt8.le_iff_toNat_le,
    UInt8.lt_iff_toNat_lt, toNat_continuation h, UInt8.reduceToNat]
  omega

theorem payload_continuation {n : Nat} (h : n < 64) : payload (UInt8.ofNat (n + 128)) = n := by
  rw [payload, toNat_continuation h]
  omega

theorem finish_continuation (seen : List UInt8) (value count : Nat) {n : Nat} (h : n < 64)
    (rest : List UInt8) :
    finish seen value (count + 1) (UInt8.ofNat (n + 128) :: rest) =
      finish (UInt8.ofNat (n + 128) :: seen) (value * 64 + n) count rest := by
  rw [finish, if_pos (isContinuation_continuation h), payload_continuation h]

/-! ## Characters by their number of bytes -/

theorem chunk_one {v : Nat} (h : v ≤ 127) (rest : List UInt8) :
    chunk (UInt8.ofNat v) rest = (.scalar (Char.ofNat v), rest) := by
  have hNat : (UInt8.ofNat v).toNat = v := by
    rw [UInt8.toNat_ofNat']
    omega
  have hLead : UInt8.ofNat v < 0x80 := by
    rw [UInt8.lt_iff_toNat_lt, hNat]
    exact Nat.lt_succ_of_le h
  unfold chunk
  rw [if_pos hLead, hNat]

/-- A second byte that is in the range of the first is read, and `more` bytes behind it. -/
theorem chunk_of_secondByte? {b low high : UInt8} {n more : Nat} {rest : List UInt8} (hn : n < 64)
    (hLead : 128 ≤ b.toNat) (hRange : secondByte? b = some (low, high, more))
    (hLow : low.toNat ≤ n + 128) (hHigh : n + 128 ≤ high.toNat) :
    chunk b (UInt8.ofNat (n + 128) :: rest) =
      finish [UInt8.ofNat (n + 128), b] (leadPayload b more * 64 + n) more rest := by
  have hNotAscii : ¬ b < 0x80 := by
    rw [UInt8.lt_iff_toNat_lt]
    exact Nat.not_lt.mpr hLead
  unfold chunk
  rw [if_neg hNotAscii, hRange]
  simp only [UInt8.le_iff_toNat_le, toNat_continuation hn, hLow, hHigh, decide_true, Bool.and_self,
    if_true, payload_continuation hn]

theorem chunk_two {v : Nat} (hLow : 127 < v) (hHigh : v ≤ 2047) (rest : List UInt8) :
    chunk (UInt8.ofNat (v / 64 % 32 + 192)) (UInt8.ofNat (v % 64 + 128) :: rest) =
      (.scalar (Char.ofNat v), rest) := by
  have hSecond : v % 64 < 64 := Nat.mod_lt v (by decide)
  have hLead : (UInt8.ofNat (v / 64 % 32 + 192)).toNat = v / 64 + 192 := by
    rw [UInt8.toNat_ofNat']
    omega
  have hRange : secondByte? (UInt8.ofNat (v / 64 % 32 + 192)) = some (0x80, 0xBF, 0) := by
    simp only [secondByte?, UInt8.lt_iff_toNat_lt, hLead, UInt8.reduceToNat]
    rw [if_neg (by omega), if_pos (by omega)]
  have hValue : (v / 64 + 192) % 32 * 64 + v % 64 = v := by omega
  rw [chunk_of_secondByte? hSecond (by omega) hRange, finish, leadPayload, hLead, hValue]
  all_goals
    simp only [UInt8.reduceToNat]
    omega

theorem chunk_three {v : Nat} (hLow : 2047 < v) (hHigh : v ≤ 65535)
    (hScalar : v < 0xD800 ∨ 0xDFFF < v) (rest : List UInt8) :
    chunk (UInt8.ofNat (v / 4096 % 16 + 224))
        (UInt8.ofNat (v / 64 % 64 + 128) :: UInt8.ofNat (v % 64 + 128) :: rest) =
      (.scalar (Char.ofNat v), rest) := by
  have hSecond : v / 64 % 64 < 64 := Nat.mod_lt _ (by decide)
  have hThird : v % 64 < 64 := Nat.mod_lt v (by decide)
  have hLead : (UInt8.ofNat (v / 4096 % 16 + 224)).toNat = v / 4096 + 224 := by
    rw [UInt8.toNat_ofNat']
    omega
  -- The second byte is restricted behind two lead bytes: no long forms and no surrogates.
  have hRange : ∃ low high,
      secondByte? (UInt8.ofNat (v / 4096 % 16 + 224)) = some (low, high, 1) ∧
        low.toNat ≤ v / 64 % 64 + 128 ∧ v / 64 % 64 + 128 ≤ high.toNat := by
    simp only [secondByte?, UInt8.lt_iff_toNat_lt, ← UInt8.toNat_inj, hLead, UInt8.reduceToNat]
    rw [if_neg (by omega), if_neg (by omega)]
    rcases Nat.eq_zero_or_pos (v / 4096) with hFirst | hFirst
    · rw [if_pos (by omega)]
      exact ⟨_, _, rfl, by simp only [UInt8.reduceToNat]; omega,
        by simp only [UInt8.reduceToNat]; omega⟩
    · rw [if_neg (by omega)]
      by_cases hSurrogate : v / 4096 = 13
      · rw [if_pos (by omega)]
        exact ⟨_, _, rfl, by simp only [UInt8.reduceToNat]; omega,
          by simp only [UInt8.reduceToNat]; omega⟩
      · rw [if_neg (by omega), if_pos (by omega)]
        exact ⟨_, _, rfl, by simp only [UInt8.reduceToNat]; omega,
          by simp only [UInt8.reduceToNat]; omega⟩
  have hValue : ((v / 4096 + 224) % 16 * 64 + v / 64 % 64) * 64 + v % 64 = v := by omega
  obtain ⟨low, high, hRange, hFrom, hTo⟩ := hRange
  rw [chunk_of_secondByte? hSecond (by omega) hRange hFrom hTo, finish_continuation _ _ _ hThird,
    finish, leadPayload, hLead, hValue]

theorem chunk_four {v : Nat} (hLow : 65535 < v) (hHigh : v < 0x110000) (rest : List UInt8) :
    chunk (UInt8.ofNat (v / 262144 % 8 + 240))
        (UInt8.ofNat (v / 4096 % 64 + 128) :: UInt8.ofNat (v / 64 % 64 + 128) ::
          UInt8.ofNat (v % 64 + 128) :: rest) =
      (.scalar (Char.ofNat v), rest) := by
  have hSecond : v / 4096 % 64 < 64 := Nat.mod_lt _ (by decide)
  have hThird : v / 64 % 64 < 64 := Nat.mod_lt _ (by decide)
  have hFourth : v % 64 < 64 := Nat.mod_lt v (by decide)
  have hLead : (UInt8.ofNat (v / 262144 % 8 + 240)).toNat = v / 262144 + 240 := by
    rw [UInt8.toNat_ofNat']
    omega
  -- The second byte is restricted behind the least and the greatest lead byte.
  have hRange : ∃ low high,
      secondByte? (UInt8.ofNat (v / 262144 % 8 + 240)) = some (low, high, 2) ∧
        low.toNat ≤ v / 4096 % 64 + 128 ∧ v / 4096 % 64 + 128 ≤ high.toNat := by
    simp only [secondByte?, UInt8.lt_iff_toNat_lt, ← UInt8.toNat_inj, hLead, UInt8.reduceToNat]
    rw [if_neg (by omega), if_neg (by omega), if_neg (by omega), if_neg (by omega),
      if_neg (by omega)]
    rcases Nat.eq_zero_or_pos (v / 262144) with hFirst | hFirst
    · rw [if_pos (by omega)]
      exact ⟨_, _, rfl, by simp only [UInt8.reduceToNat]; omega,
        by simp only [UInt8.reduceToNat]; omega⟩
    · rw [if_neg (by omega)]
      by_cases hLast : v / 262144 = 4
      · rw [if_neg (by omega), if_pos (by omega)]
        exact ⟨_, _, rfl, by simp only [UInt8.reduceToNat]; omega,
          by simp only [UInt8.reduceToNat]; omega⟩
      · rw [if_pos (by omega)]
        exact ⟨_, _, rfl, by simp only [UInt8.reduceToNat]; omega,
          by simp only [UInt8.reduceToNat]; omega⟩
  have hValue :
      (((v / 262144 + 240) % 8 * 64 + v / 4096 % 64) * 64 + v / 64 % 64) * 64 + v % 64 = v := by
    omega
  obtain ⟨low, high, hRange, hFrom, hTo⟩ := hRange
  rw [chunk_of_secondByte? hSecond (by omega) hRange hFrom hTo, finish_continuation _ _ _ hThird,
    finish_continuation _ _ _ hFourth, finish, leadPayload, hLead, hValue]
  all_goals exact fun h => by cases h

/-! ## Texts -/

/-- The bytes of a character are read back as that character, whatever follows them. -/
theorem chunk_encodeChar (c : Char) :
    ∃ b more, String.utf8EncodeChar c = b :: more ∧
      ∀ rest, chunk b (more ++ rest) = (.scalar c, rest) := by
  have hBack : Char.ofNat c.val.toNat = c := Char.ofNat_toNat c
  have hValid : c.val.toNat < 0xD800 ∨ 0xDFFF < c.val.toNat ∧ c.val.toNat < 0x110000 := c.valid
  simp only [String.utf8EncodeChar]
  split
  · rename_i h
    exact ⟨_, _, rfl, fun rest => (chunk_one h rest).trans (by rw [hBack])⟩
  split
  · rename_i hLow hHigh
    exact ⟨_, _, rfl, fun rest => (chunk_two (by omega) hHigh rest).trans (by rw [hBack])⟩
  split
  · rename_i hLow hHigh
    exact ⟨_, _, rfl, fun rest =>
      (chunk_three (by omega) hHigh (by omega) rest).trans (by rw [hBack])⟩
  · exact ⟨_, _, rfl, fun rest => (chunk_four (by omega) (by omega) rest).trans (by rw [hBack])⟩

@[simp] theorem encode_nil : encode [] = [] := rfl

@[simp] theorem encode_cons (c : Char) (text : List Char) :
    encode (c :: text) = String.utf8EncodeChar c ++ encode text := rfl

theorem encode_append (first second : List Char) :
    encode (first ++ second) = encode first ++ encode second := List.flatMap_append

theorem encode_eq_nil {text : List Char} : encode text = [] ↔ text = [] := by
  cases text with
  | nil => simp
  | cons c text =>
    obtain ⟨b, more, hChar, -⟩ := chunk_encodeChar c
    simp [hChar]

/-- A text is read back chunk by chunk, whatever follows it. -/
theorem chunks_encode_append (text : List Char) (rest : List UInt8) :
    chunks (encode text ++ rest) = text.map Chunk.scalar ++ chunks rest := by
  induction text with
  | nil => rfl
  | cons c text ih =>
    obtain ⟨b, more, hChar, hChunk⟩ := chunk_encodeChar c
    rw [encode_cons, hChar, List.append_assoc, List.cons_append, chunks]
    simp only [hChunk, ih, List.map_cons, List.cons_append]

theorem scalars?_map_scalar (text : List Char) : scalars? (text.map Chunk.scalar) = some text := by
  induction text with
  | nil => rfl
  | cons c text ih => simp only [List.map_cons, scalars?, ih, Option.map_some]

/-- **The strict reader gives back the text that was written.** -/
theorem decode?_encode (text : List Char) : decode? (encode text) = some text := by
  have hChunks := chunks_encode_append text []
  rw [List.append_nil] at hChunks
  rw [decode?, hChunks, chunks, List.append_nil, scalars?_map_scalar]

/-- So does the reader that replaces what is no text. -/
theorem decodeLossy_encode (text : List Char) : decodeLossy (encode text) = text := by
  have hChunks := chunks_encode_append text []
  rw [List.append_nil] at hChunks
  rw [decodeLossy, hChunks, chunks, List.append_nil, List.map_map]
  exact List.map_id text

theorem encode_inj {first second : List Char} : encode first = encode second ↔ first = second := by
  refine ⟨fun h => ?_, congrArg encode⟩
  rw [← decodeLossy_encode first, h, decodeLossy_encode]

/-! ## Writing what was read -/

theorem toNat_ofNat {v : Nat} (h : v < 0xD800 ∨ 0xDFFF < v ∧ v < 0x110000) :
    (Char.ofNat v).val.toNat = v := by
  have hValid : v.isValidChar := h
  rw [Char.ofNat, dif_pos hValid]
  rfl

/-- A lead byte that has a range of second bytes: which lead bytes are followed by how many bytes, and
which ranges leave out long forms, surrogates and numbers that are too great. -/
theorem lead_of_secondByte? {b low high : UInt8} {more : Nat}
    (h : secondByte? b = some (low, high, more)) :
    128 ≤ low.toNat ∧ high.toNat < 192 ∧
      (more = 0 ∧ 0xC2 ≤ b.toNat ∧ b.toNat < 0xE0 ∨
        more = 1 ∧ 0xE0 ≤ b.toNat ∧ b.toNat < 0xF0 ∧ (b.toNat ≠ 0xE0 ∨ 0xA0 ≤ low.toNat) ∧
          (b.toNat ≠ 0xED ∨ high.toNat < 0xA0) ∨
        more = 2 ∧ 0xF0 ≤ b.toNat ∧ b.toNat ≤ 0xF4 ∧ (b.toNat ≠ 0xF0 ∨ 0x90 ≤ low.toNat) ∧
          (b.toNat ≠ 0xF4 ∨ high.toNat < 0x90)) := by
  unfold secondByte? at h
  simp only [UInt8.lt_iff_toNat_lt, ← UInt8.toNat_inj, UInt8.reduceToNat] at h
  repeat' split at h
  all_goals
    cases h
  all_goals
    simp only [UInt8.reduceToNat]
    grind

/-- A continuation byte has the payload of its place. -/
theorem toNat_of_isContinuation {b : UInt8} (h : isContinuation b = true) :
    b.toNat = payload b + 128 ∧ payload b < 64 := by
  simp only [isContinuation, Bool.and_eq_true, decide_eq_true_eq, UInt8.le_iff_toNat_le,
    UInt8.lt_iff_toNat_lt, UInt8.reduceToNat] at h
  unfold payload
  omega

theorem encodeChar_one {v : Nat} (h : v ≤ 127) :
    String.utf8EncodeChar (Char.ofNat v) = [UInt8.ofNat v] := by
  simp only [String.utf8EncodeChar, toNat_ofNat (v := v) (by omega)]
  rw [if_pos h]

theorem encodeChar_two {v : Nat} (hLow : 127 < v) (hHigh : v ≤ 2047) :
    String.utf8EncodeChar (Char.ofNat v) =
      [UInt8.ofNat (v / 64 % 32 + 192), UInt8.ofNat (v % 64 + 128)] := by
  simp only [String.utf8EncodeChar, toNat_ofNat (v := v) (by omega)]
  rw [if_neg (by omega), if_pos hHigh]

theorem encodeChar_three {v : Nat} (hLow : 2047 < v) (hHigh : v ≤ 65535)
    (hScalar : v < 0xD800 ∨ 0xDFFF < v) :
    String.utf8EncodeChar (Char.ofNat v) =
      [UInt8.ofNat (v / 4096 % 16 + 224), UInt8.ofNat (v / 64 % 64 + 128),
        UInt8.ofNat (v % 64 + 128)] := by
  simp only [String.utf8EncodeChar, toNat_ofNat (v := v) (by omega)]
  rw [if_neg (by omega), if_neg (by omega), if_pos hHigh]

theorem encodeChar_four {v : Nat} (hLow : 65535 < v) (hHigh : v < 0x110000) :
    String.utf8EncodeChar (Char.ofNat v) =
      [UInt8.ofNat (v / 262144 % 8 + 240), UInt8.ofNat (v / 4096 % 64 + 128),
        UInt8.ofNat (v / 64 % 64 + 128), UInt8.ofNat (v % 64 + 128)] := by
  simp only [String.utf8EncodeChar, toNat_ofNat (v := v) (by omega)]
  rw [if_neg (by omega), if_neg (by omega), if_neg (by omega)]

theorem ofNat_eq {b : UInt8} {v : Nat} (h : v = b.toNat) : UInt8.ofNat v = b :=
  h ▸ UInt8.ofNat_toNat

theorem finish_scalar {seen rest rest' : List UInt8} {value count : Nat} {c : Char}
    (h : finish seen value (count + 1) rest = (.scalar c, rest')) :
    ∃ b more, rest = b :: more ∧ isContinuation b = true ∧
      finish (b :: seen) (value * 64 + payload b) count more = (.scalar c, rest') := by
  cases rest with
  | nil => cases h
  | cons b more =>
    rw [finish] at h
    split at h
    · exact ⟨b, more, rfl, ‹_›, h⟩
    · cases h

/-- The bytes that a character was read from are those that it is written as. -/
theorem encodeChar_of_chunk {b : UInt8} {rest rest' : List UInt8} {c : Char}
    (h : chunk b rest = (.scalar c, rest')) : b :: rest = String.utf8EncodeChar c ++ rest' := by
  unfold chunk at h
  split at h
  · rename_i hAscii
    simp only [UInt8.lt_iff_toNat_lt, UInt8.reduceToNat] at hAscii
    cases h
    rw [encodeChar_one (by omega), ofNat_eq rfl]
    rfl
  · split at h
    · cases h
    · cases h
    · rename_i low high more second behind hSecond
      split at h
      · rename_i hRange
        simp only [Bool.and_eq_true, decide_eq_true_eq, UInt8.le_iff_toNat_le] at hRange
        obtain ⟨hFrom, hTo, hLead⟩ := lead_of_secondByte? hSecond
        have hPayload : second.toNat = payload second + 128 ∧ payload second < 64 := by
          unfold payload
          omega
        -- The number of bytes that follow decides which form the character has.
        rcases hLead with ⟨rfl, hLow, hHigh⟩ | ⟨rfl, hLow, hHigh, hLong, hSurrogate⟩ |
          ⟨rfl, hLow, hHigh, hLong, hGreat⟩
        · simp only [finish, leadPayload, Prod.mk.injEq, Chunk.scalar.injEq] at h
          obtain ⟨rfl, rfl⟩ := h
          rw [encodeChar_two (by omega) (by omega), ofNat_eq (b := b) (by omega),
            ofNat_eq (b := second) (by omega)]
          rfl
        · obtain ⟨third, behind, rfl, hThird, h⟩ := finish_scalar h
          obtain ⟨hThird, hSmall⟩ := toNat_of_isContinuation hThird
          simp only [finish, leadPayload, Prod.mk.injEq, Chunk.scalar.injEq] at h
          obtain ⟨rfl, rfl⟩ := h
          rw [encodeChar_three (by omega) (by omega) (by omega),
            ofNat_eq (b := b) (by omega), ofNat_eq (b := second) (by omega),
            ofNat_eq (b := third) (by omega)]
          rfl
        · obtain ⟨third, behind, rfl, hThird, h⟩ := finish_scalar h
          obtain ⟨fourth, behind, rfl, hFourth, h⟩ := finish_scalar h
          obtain ⟨hThird, hSmall⟩ := toNat_of_isContinuation hThird
          obtain ⟨hFourth, hSmall'⟩ := toNat_of_isContinuation hFourth
          simp only [finish, leadPayload, Prod.mk.injEq, Chunk.scalar.injEq] at h
          obtain ⟨rfl, rfl⟩ := h
          rw [encodeChar_four (by omega) (by omega),
            ofNat_eq (b := b) (by omega), ofNat_eq (b := second) (by omega),
            ofNat_eq (b := third) (by omega), ofNat_eq (b := fourth) (by omega)]
          rfl
      · cases h

/-- **A text that was read strictly is written as the bytes that it was read from.** -/
theorem encode_of_decode? {bytes : List UInt8} {text : List Char} (h : decode? bytes = some text) :
    encode text = bytes := by
  unfold decode? at h
  induction bytes using chunks.induct generalizing text with
  | case1 =>
    rw [chunks] at h
    cases h
    rfl
  | case2 b rest next =>
    rename_i hRest
    change ∀ {text : List Char}, scalars? (chunks (chunk b rest).2) = some text →
      encode text = (chunk b rest).2 at hRest
    rw [chunks] at h
    rcases hNext : chunk b rest with ⟨c | bad, behind⟩
    · rw [hNext] at h hRest
      obtain ⟨text', hText, rfl⟩ := Option.map_eq_some_iff.mp h
      rw [encode_cons, hRest hText, encodeChar_of_chunk hNext]
    · rw [hNext] at h
      cases h

end ExtensionHost.Utf8
