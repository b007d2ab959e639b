/-!
# Values under sorted keys

A list of keys and values in strictly increasing order of the keys, each key once. The order of texts
is by code point. The view of such a list is `Keyed.find?`: `insert` and `erase` change it at their
own key only.
-/

namespace ExtensionHost

/-- Values under keys, sorted by key. -/
abbrev Keyed (α : Type) := List (String × α)

namespace Keyed

variable {α : Type}

/-- The value under a key. -/
def find? (key : String) : Keyed α → Option α
  | [] => none
  | (k, value) :: rest => if k = key then some value else find? key rest

/-- Puts a value under a key, in place of the value that was there. -/
def insert (key : String) (value : α) : Keyed α → Keyed α
  | [] => [(key, value)]
  | (k, old) :: rest =>
    if k = key then (key, value) :: rest
    else if key < k then (key, value) :: (k, old) :: rest
    else (k, old) :: insert key value rest

/-- Takes a key away. -/
def erase (key : String) : Keyed α → Keyed α
  | [] => []
  | (k, old) :: rest => if k = key then rest else (k, old) :: erase key rest

/-- Whether there is a value under the key. -/
def contains (key : String) (entries : Keyed α) : Bool :=
  (find? key entries).isSome

/-- The keys, in increasing order. -/
def keys (entries : Keyed α) : List String :=
  entries.map Prod.fst

/-- The sorted list of pairs given in any order; of equal keys the last value stays. -/
def ofList (pairs : List (String × α)) : Keyed α :=
  pairs.foldl (fun entries pair => insert pair.1 pair.2 entries) []

/-- The keys increase strictly. -/
def Sorted (entries : Keyed α) : Prop :=
  (keys entries).Pairwise (· < ·)

@[simp] theorem find?_nil (key : String) : find? key ([] : Keyed α) = none := rfl

@[simp] theorem find?_insert_self (key : String) (value : α) (entries : Keyed α) :
    find? key (insert key value entries) = some value := by
  induction entries with
  | nil => simp [insert, find?]
  | cons entry rest ih =>
    obtain ⟨k, old⟩ := entry
    simp only [insert]
    split
    · simp [find?]
    · split
      · simp [find?]
      · rename_i hk _
        simp [find?, hk, ih]

theorem find?_insert_of_ne {key other : String} (h : other ≠ key) (value : α)
    (entries : Keyed α) : find? other (insert key value entries) = find? other entries := by
  induction entries with
  | nil => simp [insert, find?, Ne.symm h]
  | cons entry rest ih =>
    obtain ⟨k, old⟩ := entry
    simp only [insert]
    split
    · rename_i hk
      subst hk
      simp [find?, Ne.symm h]
    · split
      · simp [find?, Ne.symm h]
      · simp only [find?, ih]

theorem find?_erase_of_ne {key other : String} (h : other ≠ key) (entries : Keyed α) :
    find? other (erase key entries) = find? other entries := by
  induction entries with
  | nil => rfl
  | cons entry rest ih =>
    obtain ⟨k, old⟩ := entry
    simp only [erase]
    split
    · rename_i hk
      subst hk
      simp [find?, Ne.symm h]
    · simp only [find?, ih]

theorem mem_of_find? {key : String} {value : α} {entries : Keyed α}
    (h : find? key entries = some value) : (key, value) ∈ entries := by
  induction entries with
  | nil => cases h
  | cons entry rest ih =>
    obtain ⟨k, old⟩ := entry
    simp only [find?] at h
    split at h
    · rename_i hk
      cases h
      exact hk ▸ List.mem_cons_self
    · exact List.mem_cons_of_mem _ (ih h)

theorem mem_insert {key : String} {value : α} {entries : Keyed α} {p : String × α}
    (h : p ∈ insert key value entries) : p = (key, value) ∨ p ∈ entries := by
  induction entries with
  | nil => simpa [insert] using h
  | cons entry rest ih =>
    obtain ⟨k, old⟩ := entry
    simp only [insert] at h
    split at h
    · exact (List.mem_cons.mp h).imp_right (List.mem_cons_of_mem _)
    · split at h
      · exact List.mem_cons.mp h
      · rcases List.mem_cons.mp h with h | h
        · exact Or.inr (h ▸ List.mem_cons_self)
        · exact (ih h).imp_right (List.mem_cons_of_mem _)

theorem mem_keys_insert {key k : String} {value : α} {entries : Keyed α}
    (h : k ∈ keys (insert key value entries)) : k = key ∨ k ∈ keys entries := by
  obtain ⟨p, hp, rfl⟩ := List.mem_map.mp h
  rcases mem_insert hp with rfl | hp
  · exact Or.inl rfl
  · exact Or.inr (List.mem_map_of_mem hp)

theorem mem_keys_iff (key : String) (entries : Keyed α) :
    key ∈ keys entries ↔ contains key entries = true := by
  unfold contains
  induction entries with
  | nil => exact ⟨nofun, nofun⟩
  | cons entry rest ih =>
    obtain ⟨k, value⟩ := entry
    have hKeys : keys ((k, value) :: rest) = k :: keys rest := rfl
    rw [hKeys, List.mem_cons, ih, find?]
    split
    · rename_i hk
      exact ⟨fun _ => rfl, fun _ => .inl hk.symm⟩
    · rename_i hk
      exact or_iff_right (Ne.symm hk)

theorem sorted_insert (key : String) (value : α) {entries : Keyed α} (h : Sorted entries) :
    Sorted (insert key value entries) := by
  induction entries with
  | nil => simp [insert, Sorted, keys]
  | cons entry rest ih =>
    obtain ⟨k, old⟩ := entry
    have hk : ∀ k' ∈ keys rest, k < k' := (List.pairwise_cons.mp h).1
    have hrest : Sorted rest := (List.pairwise_cons.mp h).2
    simp only [insert]
    split
    · rename_i heq
      subst heq
      exact List.pairwise_cons.mpr ⟨hk, hrest⟩
    · rename_i hne
      split
      · rename_i hlt
        refine List.pairwise_cons.mpr ⟨?_, h⟩
        intro k' hk'
        rcases List.mem_cons.mp hk' with rfl | hk'
        · exact hlt
        · exact String.lt_trans hlt (hk k' hk')
      · rename_i hnlt
        refine List.pairwise_cons.mpr ⟨?_, ih hrest⟩
        intro k' hk'
        rcases mem_keys_insert hk' with rfl | hk'
        · rcases String.le_total k k' with hle | hle
          · exact Decidable.not_not.mp fun hn => hne (String.le_antisymm hle hn)
          · exact absurd (Decidable.not_not.mp fun hn => hne (String.le_antisymm hn hle)) hnlt
        · exact hk k' hk'

theorem sorted_ofList (pairs : List (String × α)) : Sorted (ofList pairs) := by
  unfold ofList
  suffices h : ∀ entries : Keyed α, Sorted entries →
      Sorted (pairs.foldl (fun entries pair => insert pair.1 pair.2 entries) entries) by
    exact h [] List.Pairwise.nil
  induction pairs with
  | nil => exact fun _ h => h
  | cons pair pairs ih => exact fun entries h => ih _ (sorted_insert _ _ h)

/-- What is in the sorted list was among the pairs. -/
theorem mem_of_mem_ofList {pairs : List (String × α)} {p : String × α} (h : p ∈ ofList pairs) :
    p ∈ pairs := by
  unfold ofList at h
  suffices hFold : ∀ entries : Keyed α,
      p ∈ pairs.foldl (fun entries pair => insert pair.1 pair.2 entries) entries →
        p ∈ entries ∨ p ∈ pairs by
    exact (hFold [] h).resolve_left List.not_mem_nil
  clear h
  induction pairs with
  | nil => exact fun _ h => Or.inl h
  | cons pair pairs ih =>
    intro entries h
    rcases ih _ h with hEntry | hPair
    · rcases mem_insert hEntry with rfl | hOld
      · exact Or.inr List.mem_cons_self
      · exact Or.inl hOld
    · exact Or.inr (List.mem_cons_of_mem _ hPair)

/-- A key behind all others is put at the end. -/
theorem insert_of_lt {key : String} {entries : Keyed α} (h : ∀ p ∈ entries, p.1 < key) (value : α) :
    insert key value entries = entries ++ [(key, value)] := by
  induction entries with
  | nil => rfl
  | cons entry rest ih =>
    obtain ⟨k, old⟩ := entry
    have hFirst : k < key := h (k, old) List.mem_cons_self
    rw [insert, if_neg (String.ne_of_lt hFirst),
      if_neg fun hBack => String.lt_irrefl k (String.lt_trans hFirst hBack),
      ih fun p hp => h p (List.mem_cons_of_mem _ hp), List.cons_append]

theorem sorted_cons {key : String} {value : α} {rest : Keyed α} :
    Sorted ((key, value) :: rest) ↔ (∀ p ∈ rest, key < p.1) ∧ Sorted rest := by
  simp [Sorted, keys]

/-- A sorted list is the sorted list of its own pairs. -/
theorem ofList_eq_self {entries : Keyed α} (h : Sorted entries) : ofList entries = entries := by
  unfold ofList
  suffices hFold : ∀ front : Keyed α, (∀ p ∈ front, ∀ q ∈ entries, p.1 < q.1) →
      entries.foldl (fun entries pair => insert pair.1 pair.2 entries) front = front ++ entries by
    exact hFold [] fun _ hp => absurd hp List.not_mem_nil
  induction entries with
  | nil => exact fun front _ => (List.append_nil front).symm
  | cons entry rest ih =>
    obtain ⟨key, value⟩ := entry
    obtain ⟨hFirst, hRest⟩ := sorted_cons.mp h
    intro front hFront
    rw [List.foldl_cons, insert_of_lt fun p hp => hFront p hp _ List.mem_cons_self,
      ih hRest, List.append_assoc, List.singleton_append]
    intro p hp q hq
    rcases List.mem_append.mp hp with hOld | hNew
    · exact hFront p hOld q (List.mem_cons_of_mem _ hq)
    · exact List.mem_singleton.mp hNew ▸ hFirst q hq

theorem sorted_filter {entries : Keyed α} (h : Sorted entries) (keep : String × α → Bool) :
    Sorted (entries.filter keep) :=
  List.Pairwise.sublist (List.Sublist.map Prod.fst List.filter_sublist) h

/-- In a sorted list a key is taken away by dropping all that stands under it. -/
theorem erase_eq_filter {entries : Keyed α} (h : Sorted entries) (key : String) :
    erase key entries = entries.filter fun p => p.1 ≠ key := by
  induction entries with
  | nil => rfl
  | cons entry rest ih =>
    obtain ⟨k, old⟩ := entry
    obtain ⟨hFirst, hRest⟩ := sorted_cons.mp h
    simp only [erase]
    split
    · rename_i hk
      subst hk
      have hOthers : ∀ p ∈ rest, decide (p.1 ≠ k) = true := by
        intro p hp
        exact decide_eq_true (Ne.symm (String.ne_of_lt (hFirst p hp)))
      rw [List.filter_cons_of_neg (by simp), List.filter_eq_self.mpr hOthers]
    · rename_i hk
      rw [List.filter_cons_of_pos (by simpa using hk), ih hRest]

theorem find?_of_mem {key : String} {value : α} {entries : Keyed α} (h : Sorted entries)
    (hMem : (key, value) ∈ entries) : find? key entries = some value := by
  induction entries with
  | nil => cases hMem
  | cons entry rest ih =>
    obtain ⟨k, old⟩ := entry
    obtain ⟨hFirst, hRest⟩ := sorted_cons.mp h
    rcases List.mem_cons.mp hMem with hHere | hThere
    · cases hHere
      simp [find?]
    · have hk : k ≠ key := String.ne_of_lt (hFirst _ hThere)
      simp only [find?, if_neg hk]
      exact ih hRest hThere

theorem mem_insert_iff {key : String} {value : α} {entries : Keyed α} (h : Sorted entries)
    {p : String × α} :
    p ∈ insert key value entries ↔ p = (key, value) ∨ p ∈ entries ∧ p.1 ≠ key := by
  have hSorted := sorted_insert key value h
  constructor
  · intro hp
    rcases mem_insert hp with hNew | hOld
    · exact Or.inl hNew
    · by_cases hKey : p.1 = key
      · have hFound := find?_of_mem hSorted hp
        rw [hKey, find?_insert_self] at hFound
        exact Or.inl (Prod.ext hKey (Option.some.inj hFound).symm)
      · exact Or.inr ⟨hOld, hKey⟩
  · rintro (rfl | ⟨hOld, hKey⟩)
    · exact mem_of_find? (find?_insert_self key value entries)
    · have hFound := find?_of_mem h hOld
      rw [← find?_insert_of_ne hKey value entries] at hFound
      exact mem_of_find? hFound

end Keyed

end ExtensionHost
