import ExtensionHost.Proofs.Json.Scalars

/-!
# Reading what was printed

A value without floating-point numbers that is printed with one member or item a line is read back as it
was, whatever follows it, if it has no more levels than are allowed, and not read at all if it has more
(`readValue_printPretty`). The items of an array and the members of an object are instances of one
statement about things that are read back one by one (`readSeparated_printed`).
-/

namespace ExtensionHost.Json

/-! ## First characters -/

/-- A text that begins with a character that is no blank and closes nothing. -/
def Begins (text : List Char) : Prop :=
  ∃ c rest, text = c :: rest ∧ isSpace c = false ∧ c ≠ ']' ∧ c ≠ '\x7d'

theorem Begins.append {text : List Char} (h : Begins text) (rest : List Char) :
    Begins (text ++ rest) := by
  obtain ⟨c, text, rfl, hFirst⟩ := h
  exact ⟨c, text ++ rest, rfl, hFirst⟩

theorem Begins.skipSpace {text : List Char} (h : Begins text) : Json.skipSpace text = text := by
  obtain ⟨c, text, rfl, hBlank, -⟩ := h
  exact skipSpace_cons hBlank text

theorem begins_block (level : Nat) {opening : Char} (hBlank : isSpace opening = false)
    (hArray : opening ≠ ']') (hObject : opening ≠ '\x7d') (closing : Char)
    (entries : List (List Char)) : Begins (block level opening closing entries) := by
  cases entries with
  | nil => exact ⟨opening, _, rfl, hBlank, hArray, hObject⟩
  | cons text rest => exact ⟨opening, _, rfl, hBlank, hArray, hObject⟩

theorem begins_printString (s : String) : Begins (printString s) :=
  ⟨'"', _, rfl, rfl, by decide, by decide⟩

theorem begins_printPretty (level : Nat) {v : Json} (h : v.Exact) : Begins (printPretty level v) := by
  cases h with
  | null => exact ⟨'n', _, rfl, rfl, by decide, by decide⟩
  | bool b =>
    cases b with
    | false => exact ⟨'f', _, rfl, rfl, by decide, by decide⟩
    | true => exact ⟨'t', _, rfl, rfl, by decide, by decide⟩
  | int i =>
    obtain ⟨c, cs, hText, hFirst⟩ := toText_opens i
    exact ⟨c, cs, hText, isSpace_of_opensInteger hFirst, ne_of_opensInteger hFirst rfl,
      ne_of_opensInteger hFirst rfl⟩
  | string s => exact begins_printString s
  | array _ => exact begins_block level rfl (by decide) (by decide) _ _
  | object _ => exact begins_block level rfl (by decide) (by decide) _ _

/-! ## Sequences -/

theorem Ends.of_newLine (level : Nat) (rest : List Char) : Ends (newLine level ++ rest) := by
  intro c hc
  cases Option.some.inj hc
  decide

theorem Ends.of_comma (rest : List Char) : Ends (',' :: rest) := by
  intro c hc
  cases Option.some.inj hc
  decide

theorem separated_cons (separator text : List Char) {texts : List (List Char)} (h : texts ≠ []) :
    separated separator (text :: texts) = text ++ separator ++ separated separator texts := by
  obtain ⟨next, rest, rfl⟩ := List.exists_cons_of_ne_nil h
  rfl

theorem length_le_separated {separator : List Char} (h : separator ≠ []) (texts : List (List Char)) :
    texts.length ≤ (separated separator texts).length + 1 := by
  induction texts with
  | nil => exact Nat.zero_le _
  | cons text rest ih =>
    by_cases hRest : rest = []
    · subst hRest
      exact Nat.succ_le_succ (Nat.zero_le _)
    · have hSeparator := List.length_pos_iff.mpr h
      rw [separated_cons separator text hRest, List.length_append, List.length_append,
        List.length_cons]
      omega

theorem Begins.separated {separator text : List Char} (h : Begins text) (texts : List (List Char)) :
    Begins (Json.separated separator (text :: texts)) := by
  cases texts with
  | nil => exact h
  | cons next rest => exact (h.append separator).append _

section

variable {α : Type} {read : List Char → Option (α × List Char)} {print : α → List Char}
  {Allowed : α → Prop} [DecidablePred Allowed]

theorem readSeparated_newLine {level : Nat} (hLine : ∀ text, read (newLine level ++ text) = read text)
    (closing : Char) (fuel : Nat) (text : List Char) :
    readSeparated read closing fuel (newLine level ++ text) = readSeparated read closing fuel text := by
  cases fuel with
  | zero => rfl
  | succ fuel => rw [readSeparated, readSeparated, hLine]

/-- Things that are read back one by one are read back as a sequence with one of them a line, if all of
them are allowed. -/
theorem readSeparated_printed {closing : Char} (hComma : closing ≠ ',')
    (hBlank : isSpace closing = false) {level : Nat}
    (hLine : ∀ text, read (newLine level ++ text) = read text) {as : List α}
    (hRead : ∀ a ∈ as, ∀ rest, Ends rest →
      read (print a ++ rest) = if Allowed a then some (a, rest) else none)
    (hSome : as ≠ []) {fuel : Nat} (hFuel : as.length ≤ fuel) (outer : Nat) (rest : List Char) :
    readSeparated read closing fuel
        (separated (',' :: newLine level) (as.map print) ++ (newLine outer ++ closing :: rest)) =
      if ∀ a ∈ as, Allowed a then some (as, rest) else none := by
  induction as generalizing fuel with
  | nil => exact absurd rfl hSome
  | cons a as ih =>
    obtain ⟨fuel, rfl⟩ := Nat.exists_eq_succ_of_ne_zero (Nat.ne_of_gt (Nat.zero_lt_of_lt hFuel))
    have hHere := hRead a List.mem_cons_self
    by_cases hLast : as = []
    · subst hLast
      rw [List.map_singleton, separated, readSeparated, hHere _ (.of_newLine outer _)]
      by_cases hAllowed : Allowed a
      · simp [hAllowed, skipSpace_newLine, skipSpace_cons hBlank, hComma]
      · simp [hAllowed]
    · have hMore := ih (fun b hb => hRead b (List.mem_cons_of_mem _ hb)) hLast
        (Nat.le_of_succ_le_succ hFuel)
      have hSeparator : isSpace ',' = false := rfl
      rw [List.map_cons, separated_cons _ _ (mt List.map_eq_nil_iff.mp hLast), List.append_assoc,
        List.append_assoc, List.cons_append, readSeparated, hHere _ (.of_comma _)]
      by_cases hAllowed : Allowed a
      · have hAll : (∀ b ∈ as, Allowed b) ↔ ∀ b ∈ a :: as, Allowed b :=
          ⟨fun h => List.forall_mem_cons.mpr ⟨hAllowed, h⟩, fun h => (List.forall_mem_cons.mp h).2⟩
        simp only [if_pos hAllowed, Option.bind_eq_bind, Option.bind_some, skipSpace_cons hSeparator,
          if_pos, readSeparated_newLine hLine, hMore, hAll]
        split <;> rfl
      · have hNone : ¬ ∀ b ∈ a :: as, Allowed b := fun h => hAllowed (h a List.mem_cons_self)
        rw [if_neg hAllowed, if_neg hNone]
        rfl

end

/-! ## Arrays and objects -/

/-- The characters of a member whose value starts on a line of the given level. -/
def printMember (level : Nat) (m : String × Json) : List Char :=
  printString m.1 ++ ':' :: ' ' :: printPretty level m.2

theorem prettyItems_eq (level : Nat) (items : List Json) :
    prettyItems level items = items.map (printPretty level) := by
  induction items with
  | nil => rfl
  | cons v rest ih => rw [prettyItems, ih, List.map_cons]

theorem prettyMembers_eq (level : Nat) (members : List (String × Json)) :
    prettyMembers level members = members.map (printMember level) := by
  induction members with
  | nil => rfl
  | cons m rest ih =>
    rw [prettyMembers, ih, List.map_cons]
    rfl

theorem block_append (level : Nat) (opening closing : Char) {entries : List (List Char)}
    (h : entries ≠ []) (rest : List Char) :
    block level opening closing entries ++ rest =
      opening :: (newLine (level + 1) ++ (separated (',' :: newLine (level + 1)) entries ++
        (newLine level ++ closing :: rest))) := by
  obtain ⟨text, texts, rfl⟩ := List.exists_cons_of_ne_nil h
  simp [block]

section

variable {item : List Char → Option (Json × List Char)}

theorem readArray_newLine (level : Nat) (text : List Char) :
    readArray item (newLine level ++ text) = readArray item text := by
  rw [readArray, readArray, skipSpace_newLine]

theorem readObject_newLine (level : Nat) (text : List Char) :
    readObject item (newLine level ++ text) = readObject item text := by
  rw [readObject, readObject, skipSpace_newLine]

theorem readArray_begins {text : List Char} (h : Begins text) :
    readArray item text =
      (readSeparated item ']' (text.length + 1) text).map fun (vs, rest) => (.array vs, rest) := by
  unfold readArray
  rw [h.skipSpace, ← readItems_eq]
  obtain ⟨c, text, rfl, -, hClosing, -⟩ := h
  split
  · rename_i hFirst
    exact absurd (List.cons.inj hFirst).1 hClosing
  · rfl

theorem readObject_begins {text : List Char} (h : Begins text) :
    readObject item text =
      (readSeparated (readMember item) '\x7d' (text.length + 1) text).map
        fun (ms, rest) => (.obj ms, rest) := by
  unfold readObject
  rw [h.skipSpace, ← readMembers_eq]
  obtain ⟨c, text, rfl, -, -, hClosing⟩ := h
  split
  · rename_i hFirst
    exact absurd (List.cons.inj hFirst).1 hClosing
  · rfl

end

theorem readMember_newLine (item : List Char → Option (Json × List Char)) (level : Nat)
    (text : List Char) : readMember item (newLine level ++ text) = readMember item text := by
  rw [readMember, readMember, skipSpace_newLine]

theorem readMember_printed {levels level : Nat} {m : String × Json} {rest : List Char}
    (hValue : readValue levels (printPretty level m.2 ++ rest) =
      if m.2.levels ≤ levels then some (m.2, rest) else none) :
    readMember (readValue levels) (printMember level m ++ rest) =
      if m.2.levels ≤ levels then some (m, rest) else none := by
  obtain ⟨key, v⟩ := m
  have hText : printMember level (key, v) ++ rest = '"' :: (key.toList.flatMap escape ++
      '"' :: ':' :: ' ' :: (printPretty level v ++ rest)) := by
    simp [printMember, printString]
  have hQuote : isSpace '"' = false := rfl
  have hColon : isSpace ':' = false := rfl
  have hBlank : readValue levels (' ' :: (printPretty level v ++ rest)) =
      readValue levels (printPretty level v ++ rest) := by
    rw [← readValue_skipSpace, ← readValue_skipSpace levels (printPretty level v ++ rest)]
    rfl
  rw [hText, readMember, skipSpace_cons hQuote]
  simp only [readString_printed, Option.bind_eq_bind, Option.bind_some, skipSpace_cons hColon, hBlank,
    hValue]
  split <;> rfl

theorem begins_printMember (level : Nat) (m : String × Json) : Begins (printMember level m) :=
  (begins_printString m.1).append _

/-- The text between the brackets of entries that are read back, of which there is at least one. -/
theorem readSeparated_block {α : Type} {read : List Char → Option (α × List Char)}
    {print : α → List Char} {Allowed : α → Prop} [DecidablePred Allowed] {closing : Char}
    (hComma : closing ≠ ',') (hBlank : isSpace closing = false) {level : Nat}
    (hLine : ∀ text, read (newLine (level + 1) ++ text) = read text) {as : List α}
    (hRead : ∀ a ∈ as, ∀ rest, Ends rest →
      read (print a ++ rest) = if Allowed a then some (a, rest) else none)
    (hSome : as ≠ []) (rest : List Char) {text : List Char}
    (hText : text = separated (',' :: newLine (level + 1)) (as.map print) ++
      (newLine level ++ closing :: rest)) :
    readSeparated read closing (text.length + 1) text =
      if ∀ a ∈ as, Allowed a then some (as, rest) else none := by
  have hFuel : as.length ≤ text.length + 1 := by
    have hLength := length_le_separated (List.cons_ne_nil ',' (newLine (level + 1))) (as.map print)
    rw [List.length_map] at hLength
    rw [hText, List.length_append]
    omega
  generalize text.length + 1 = fuel at hFuel ⊢
  rw [hText]
  exact readSeparated_printed hComma hBlank hLine hRead hSome hFuel level rest

theorem readValue_openArray (levels : Nat) (text : List Char) :
    readValue (levels + 1) ('[' :: text) = readArray (readValue levels) text := rfl

theorem readValue_openObject (levels : Nat) (text : List Char) :
    readValue (levels + 1) ('\x7b' :: text) = readObject (readValue levels) text := rfl

theorem readValue_array {levels level : Nat} {items : List Json}
    (hBegins : ∀ v ∈ items, Begins (printPretty (level + 1) v))
    (hRead : ∀ v ∈ items, ∀ rest, Ends rest → readValue levels (printPretty (level + 1) v ++ rest) =
      if v.levels ≤ levels then some (v, rest) else none) (rest : List Char) :
    readValue (levels + 1) (printPretty level (.array items) ++ rest) =
      if ∀ v ∈ items, v.levels ≤ levels then some (.array items, rest) else none := by
  by_cases hSome : items = []
  · subst hSome
    rfl
  · have hEntries : items.map (printPretty (level + 1)) ≠ [] := mt List.map_eq_nil_iff.mp hSome
    have hFirst : Begins (separated (',' :: newLine (level + 1))
        (items.map (printPretty (level + 1)))) := by
      obtain ⟨v, vs, rfl⟩ := List.exists_cons_of_ne_nil hSome
      exact (hBegins v List.mem_cons_self).separated _
    rw [printPretty, prettyItems_eq, block_append _ _ _ hEntries, readValue_openArray,
      readArray_newLine, readArray_begins (hFirst.append _),
      readSeparated_block (by decide) rfl (readValue_newLine levels _) hRead hSome rest rfl]
    split <;> rfl

theorem readValue_object {levels level : Nat} {members : List (String × Json)}
    (hSorted : Keyed.Sorted members)
    (hRead : ∀ m ∈ members, ∀ rest, Ends rest →
      readValue levels (printPretty (level + 1) m.2 ++ rest) =
        if m.2.levels ≤ levels then some (m.2, rest) else none) (rest : List Char) :
    readValue (levels + 1) (printPretty level (.object members) ++ rest) =
      if ∀ m ∈ members, m.2.levels ≤ levels then some (.object members, rest) else none := by
  by_cases hSome : members = []
  · subst hSome
    rfl
  · have hEntries : members.map (printMember (level + 1)) ≠ [] := mt List.map_eq_nil_iff.mp hSome
    have hFirst : Begins (separated (',' :: newLine (level + 1))
        (members.map (printMember (level + 1)))) := by
      obtain ⟨m, ms, rfl⟩ := List.exists_cons_of_ne_nil hSome
      exact (begins_printMember _ m).separated _
    have hMembers : ∀ m ∈ members, ∀ rest, Ends rest →
        readMember (readValue levels) (printMember (level + 1) m ++ rest) =
          if m.2.levels ≤ levels then some (m, rest) else none :=
      fun m hm rest hEnds => readMember_printed (hRead m hm rest hEnds)
    rw [printPretty, prettyMembers_eq, block_append _ _ _ hEntries, readValue_openObject,
      readObject_newLine, readObject_begins (hFirst.append _),
      readSeparated_block (by decide) rfl (readMember_newLine _ _) hMembers hSome rest rfl]
    split
    · exact congrArg (fun ms => some (Json.object ms, rest)) (Keyed.ofList_eq_self hSorted)
    · rfl

theorem readValue_zero_block (level : Nat) {opening : Char}
    (hOpening : opening = '[' ∨ opening = '\x7b') (closing : Char) (entries : List (List Char))
    (rest : List Char) : readValue 0 (block level opening closing entries ++ rest) = none := by
  rcases hOpening with rfl | rfl <;> cases entries <;> rfl

/-- **A printed value is read back** as it was if it has no more levels than are allowed, and otherwise
not read at all. -/
theorem readValue_printPretty {v : Json} (hWell : v.WellFormed) (hExact : v.Exact)
    (levels level : Nat) {rest : List Char} (hEnds : Ends rest) :
    readValue levels (printPretty level v ++ rest) =
      if v.levels ≤ levels then some (v, rest) else none := by
  induction v using Json.within generalizing levels level rest with
  | null =>
    exact (readValue_null levels rest).trans (if_pos (Nat.zero_le levels)).symm
  | bool b =>
    exact (readValue_bool levels level b rest).trans (if_pos (Nat.zero_le levels)).symm
  | number n =>
    cases hExact
    cases hWell with
    | number hFits =>
      exact (readValue_integer levels hFits hEnds).trans (if_pos (Nat.zero_le levels)).symm
  | string s =>
    exact (readValue_string levels s rest).trans (if_pos (Nat.zero_le levels)).symm
  | array items ih =>
    have hItems := wellFormed_array.mp hWell
    have hExacts := exact_array.mp hExact
    cases levels with
    | zero =>
      exact (readValue_zero_block level (Or.inl rfl) _ _ rest).trans
        (if_neg (Nat.not_succ_le_zero _)).symm
    | succ levels =>
      rw [readValue_array (fun v hv => begins_printPretty _ (hExacts v hv))
        fun v hv rest hEnds => ih v hv (hItems v hv) (hExacts v hv) levels _ hEnds]
      simp only [levels_array_le]
  | object members ih =>
    obtain ⟨hSorted, hMembers⟩ := wellFormed_object.mp hWell
    have hExacts := exact_object.mp hExact
    cases levels with
    | zero =>
      exact (readValue_zero_block level (Or.inr rfl) _ _ rest).trans
        (if_neg (Nat.not_succ_le_zero _)).symm
    | succ levels =>
      rw [readValue_object hSorted
        fun m hm rest hEnds => ih m hm (hMembers m hm) (hExacts m hm) levels _ hEnds]
      simp only [levels_object_le]

/-! ## Whole texts -/

/-- The text of a value is read back if and only if the value has no more levels than a text may have. -/
theorem parse?_pretty {v : Json} (hWell : v.WellFormed) (hExact : v.Exact) :
    parse? v.pretty = if v.levels ≤ levelLimit then some v else none := by
  have hEnd : Ends [] := by
    intro c hc
    cases hc
  have hRead := readValue_printPretty hWell hExact levelLimit 0 hEnd
  rw [List.append_nil] at hRead
  rw [parse?, parseWithin?, pretty, String.toList_ofList]
  by_cases hLevels : v.levels ≤ levelLimit
  · rw [if_pos hLevels] at hRead ⊢
    rw [hRead]
    rfl
  · rw [if_neg hLevels] at hRead ⊢
    rw [hRead]

end ExtensionHost.Json
