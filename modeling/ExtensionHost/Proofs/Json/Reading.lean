import ExtensionHost.Json.Parser
import ExtensionHost.Proofs.Json.Values

/-!
# What a reader gives

Whatever a text says, the value that is read from it is well-formed and has no more levels than were
allowed. The digits of an integer are kept while they fit into 64 bits, so an integer that does not fit
becomes a floating-point number; the members of an object are sorted when its end is reached.
-/

namespace ExtensionHost.Json

/-! ## Numbers -/

theorem digits_whole {s : Scan} (h : s.digits < UInt64.size) (d : Nat) :
    (s.whole d).digits < UInt64.size := by
  unfold Scan.whole
  split
  · rename_i hKept
    simp only [Bool.and_eq_true, decide_eq_true_eq] at hKept
    exact hKept.2
  · exact h

theorem digits_wholes (ds : List Nat) {s : Scan} (h : s.digits < UInt64.size) :
    (ds.foldl Scan.whole s).digits < UInt64.size := by
  induction ds generalizing s with
  | nil => exact h
  | cons d ds ih => exact ih (digits_whole h d)

theorem fits_float? {negative : Bool} {digits : Nat} {exponent : Int} {n : Number}
    (h : float? negative digits exponent = some n) : Fits n := by
  obtain ⟨m, -, rfl⟩ := Option.map_eq_some_iff.mp h
  trivial

theorem fits_withExponent? {negative up : Bool} {s : Scan} {exponent : Nat} {n : Number}
    (h : withExponent? negative s up exponent = some n) : Fits n := by
  unfold withExponent? at h
  split at h
  · exact fits_float? h
  · split at h
    · cases h
    · cases h
      trivial

theorem fits_integer? {negative : Bool} {s : Scan} {n : Number} (hDigits : s.digits < UInt64.size)
    (h : integer? negative s = some n) : Fits n := by
  unfold integer? at h
  split at h
  · split at h
    · rename_i hSmall
      cases h
      simp only [Fits, UInt64.size]
      omega
    · exact fits_float? h
  · split at h
    · cases h
      simp only [Fits]
      omega
    · exact fits_float? h

theorem fits_readExponent {negative : Bool} {s : Scan} {text rest : List Char} {n : Number}
    (h : readExponent negative s text = some (n, rest)) : Fits n := by
  unfold readExponent at h
  dsimp only at h
  split at h
  all_goals
    split at h
    · cases h
    · obtain ⟨m, hNumber, hSame⟩ := Option.map_eq_some_iff.mp h
      cases hSame
      exact fits_withExponent? hNumber

theorem fits_readFloat {negative : Bool} {s : Scan} {text rest : List Char} {n : Number}
    (h : readFloat negative s text = some (n, rest)) : Fits n := by
  unfold readFloat at h
  split at h
  · exact fits_readExponent h
  · exact fits_readExponent h
  · obtain ⟨m, hNumber, hSame⟩ := Option.map_eq_some_iff.mp h
    cases hSame
    exact fits_float? hNumber

theorem fits_readAfterWhole {negative : Bool} {s : Scan} {text rest : List Char} {n : Number}
    (hDigits : s.digits < UInt64.size) (h : readAfterWhole negative s text = some (n, rest)) :
    Fits n := by
  unfold readAfterWhole at h
  split at h
  · dsimp only at h
    split at h
    · cases h
    · exact fits_readFloat h
  · exact fits_readExponent h
  · exact fits_readExponent h
  · obtain ⟨m, hNumber, hSame⟩ := Option.map_eq_some_iff.mp h
    cases hSame
    exact fits_integer? hDigits hNumber

theorem fits_readUnsigned {negative : Bool} {text rest : List Char} {n : Number}
    (h : readUnsigned negative text = some (n, rest)) : Fits n := by
  unfold readUnsigned at h
  split at h
  · cases h
  · cases h
  · exact fits_readAfterWhole (digits_wholes _ (by decide)) h

theorem fits_readNumber {text rest : List Char} {n : Number}
    (h : readNumber text = some (n, rest)) : Fits n := by
  unfold readNumber at h
  split at h <;> exact fits_readUnsigned h

/-! ## Values -/

/-- A value is well-formed and has at most some number of levels. -/
structure Within (levels : Nat) (v : Json) : Prop where
  wellFormed : v.WellFormed
  levels_le : v.levels ≤ levels

theorem within_readScalar {text rest : List Char} {v : Json} (levels : Nat)
    (h : readScalar text = some (v, rest)) : Within levels v := by
  unfold readScalar at h
  split at h
  all_goals
    obtain ⟨a, hRead, hSame⟩ := Option.map_eq_some_iff.mp h
    cases hSame
  · exact ⟨.null, Nat.zero_le _⟩
  · exact ⟨.bool _, Nat.zero_le _⟩
  · exact ⟨.bool _, Nat.zero_le _⟩
  · exact ⟨.string _, Nat.zero_le _⟩
  · exact ⟨.number (fits_readNumber hRead), Nat.zero_le _⟩

/-! ## Sequences -/

/-- Things between commas up to a closing character, `read` reading each; `fuel` bounds their number. -/
def readSeparated {α : Type} (read : List Char → Option (α × List Char)) (closing : Char) :
    Nat → List Char → Option (List α × List Char)
  | 0, _ => none
  | fuel + 1, text => do
    let (a, rest) ← read text
    match skipSpace rest with
    | [] => none
    | c :: rest =>
      if c = ',' then do
        let (as, rest) ← readSeparated read closing fuel rest
        some (a :: as, rest)
      else if c = closing then some ([a], rest)
      else none

theorem readItems_eq (item : List Char → Option (Json × List Char)) (fuel : Nat)
    (text : List Char) : readItems item fuel text = readSeparated item ']' fuel text := by
  induction fuel generalizing text with
  | zero => rfl
  | succ fuel ih =>
    rw [readItems, readSeparated]
    refine congrArg (Option.bind (item text)) (funext fun ⟨v, rest⟩ => ?_)
    dsimp only
    split
    · rename_i hComma
      rw [hComma]
      simp only [ih, if_pos]
    · rename_i hClosing
      rw [hClosing]
      rfl
    · rename_i hNoComma hNoClosing
      split
      · rfl
      · rename_i c left hLeft
        have hComma : c ≠ ',' := by
          rintro rfl
          exact hNoComma left hLeft
        have hClosing : c ≠ ']' := by
          rintro rfl
          exact hNoClosing left hLeft
        rw [if_neg hComma, if_neg hClosing]

theorem readMembers_eq (item : List Char → Option (Json × List Char)) (fuel : Nat)
    (text : List Char) :
    readMembers item fuel text = readSeparated (readMember item) '\x7d' fuel text := by
  induction fuel generalizing text with
  | zero => rfl
  | succ fuel ih =>
    rw [readMembers, readSeparated]
    refine congrArg (Option.bind (readMember item text)) (funext fun ⟨m, rest⟩ => ?_)
    dsimp only
    split
    · rename_i hComma
      rw [hComma]
      simp only [ih, if_pos]
    · rename_i hClosing
      rw [hClosing]
      rfl
    · rename_i hNoComma hNoClosing
      split
      · rfl
      · rename_i c left hLeft
        have hComma : c ≠ ',' := by
          rintro rfl
          exact hNoComma left hLeft
        have hClosing : c ≠ '\x7d' := by
          rintro rfl
          exact hNoClosing left hLeft
        rw [if_neg hComma, if_neg hClosing]

/-- What holds of each thing that is read holds of all of them. -/
theorem forall_readSeparated {α : Type} {read : List Char → Option (α × List Char)} {P : α → Prop}
    (hRead : ∀ text a rest, read text = some (a, rest) → P a) {closing : Char} {fuel : Nat}
    {text rest : List Char} {as : List α}
    (h : readSeparated read closing fuel text = some (as, rest)) : ∀ a ∈ as, P a := by
  induction fuel generalizing text rest as with
  | zero => cases h
  | succ fuel ih =>
    rw [readSeparated] at h
    obtain ⟨⟨a, left⟩, hFirst, hMore⟩ := Option.bind_eq_some_iff.mp h
    have hHere : P a := hRead _ _ _ hFirst
    dsimp only at hMore
    split at hMore
    · cases hMore
    · split at hMore
      · obtain ⟨⟨as, last⟩, hRest, hSame⟩ := Option.bind_eq_some_iff.mp hMore
        cases hSame
        exact List.forall_mem_cons.mpr ⟨hHere, ih hRest⟩
      · split at hMore
        · cases hMore
          exact List.forall_mem_singleton.mpr hHere
        · cases hMore

/-! ## Arrays and objects -/

section

variable {item : List Char → Option (Json × List Char)} {levels : Nat}

theorem within_readMember (hItem : ∀ text v rest, item text = some (v, rest) → Within levels v)
    {text rest : List Char} {m : String × Json} (h : readMember item text = some (m, rest)) :
    Within levels m.2 := by
  unfold readMember at h
  split at h
  · obtain ⟨⟨key, left⟩, -, hMore⟩ := Option.bind_eq_some_iff.mp h
    dsimp only at hMore
    split at hMore
    · obtain ⟨⟨v, last⟩, hValue, hSame⟩ := Option.bind_eq_some_iff.mp hMore
      cases hSame
      exact hItem _ _ _ hValue
    · cases hMore
  · cases h

theorem Within.array {items : List Json} (h : ∀ v ∈ items, Within levels v) :
    Within (levels + 1) (.array items) where
  wellFormed := .array fun v hv => (h v hv).wellFormed
  levels_le := levels_array_le.mpr fun v hv => (h v hv).levels_le

theorem Within.obj {members : List (String × Json)} (h : ∀ m ∈ members, Within levels m.2) :
    Within (levels + 1) (.obj members) where
  wellFormed := .object (Keyed.sorted_ofList members) fun m hm =>
    (h m (Keyed.mem_of_mem_ofList hm)).wellFormed
  levels_le := levels_object_le.mpr fun m hm => (h m (Keyed.mem_of_mem_ofList hm)).levels_le

theorem within_readArray (hItem : ∀ text v rest, item text = some (v, rest) → Within levels v)
    {text rest : List Char} {v : Json} (h : readArray item text = some (v, rest)) :
    Within (levels + 1) v := by
  unfold readArray at h
  split at h
  · cases h
    exact .array (List.forall_mem_nil _)
  · obtain ⟨⟨vs, left⟩, hItems, hSame⟩ := Option.map_eq_some_iff.mp h
    cases hSame
    rw [readItems_eq] at hItems
    exact .array (forall_readSeparated hItem hItems)

theorem within_readObject (hItem : ∀ text v rest, item text = some (v, rest) → Within levels v)
    {text rest : List Char} {v : Json} (h : readObject item text = some (v, rest)) :
    Within (levels + 1) v := by
  unfold readObject at h
  split at h
  · cases h
    exact Within.obj (List.forall_mem_nil _)
  · obtain ⟨⟨ms, left⟩, hMembers, hSame⟩ := Option.map_eq_some_iff.mp h
    cases hSame
    rw [readMembers_eq] at hMembers
    exact .obj (forall_readSeparated (fun _ _ _ => within_readMember hItem) hMembers)

end

/-- Every value that is read is well-formed and has no more levels than are allowed. -/
theorem within_readValue {levels : Nat} {text rest : List Char} {v : Json}
    (h : readValue levels text = some (v, rest)) : Within levels v := by
  induction levels generalizing text rest v with
  | zero =>
    unfold readValue at h
    split at h
    · cases h
    · cases h
    · exact within_readScalar 0 h
  | succ levels ih =>
    unfold readValue at h
    split at h
    · exact within_readArray (fun _ _ _ => ih) h
    · exact within_readObject (fun _ _ _ => ih) h
    · exact within_readScalar _ h

theorem within_parse? {text : String} {v : Json} (h : parse? text = some v) : Within levelLimit v := by
  unfold parse? parseWithin? at h
  split at h
  · rename_i hRead
    split at h
    · cases h
      exact within_readValue hRead
    · cases h
  · cases h

end ExtensionHost.Json
