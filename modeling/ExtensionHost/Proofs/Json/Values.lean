import ExtensionHost.Json.Value

/-!
# Values inside values

Induction over JSON values with a hypothesis for every item and every member (`Json.within`), the values
that a reader can give (`Json.WellFormed`), the values without floating-point numbers (`Json.Exact`), and
what the number of levels of a value says about the values inside it.
-/

namespace ExtensionHost

namespace Json

/-- A property of values holds of all when it holds of an array of whose items it holds, of an object of
whose members it holds, and of every value that is neither. -/
@[elab_as_elim]
theorem within {motive : Json → Prop} (null : motive .null) (bool : ∀ b, motive (.bool b))
    (number : ∀ n, motive (.number n)) (string : ∀ s, motive (.string s))
    (array : ∀ items, (∀ v ∈ items, motive v) → motive (.array items))
    (object : ∀ members, (∀ m ∈ members, motive m.2) → motive (.object members)) (v : Json) :
    motive v :=
  @Json.rec motive (fun items => ∀ v ∈ items, motive v) (fun members => ∀ m ∈ members, motive m.2)
    (fun m => motive m.2) null bool number string array object nofun
    (fun _ _ hFirst hRest => List.forall_mem_cons.mpr ⟨hFirst, hRest⟩) nofun
    (fun _ _ hFirst hRest => List.forall_mem_cons.mpr ⟨hFirst, hRest⟩) (fun _ _ h => h) v

/-! ## Values that can be read -/

/-- Integers fit into 64 bits, with a sign or without one. -/
def Fits : Number → Prop
  | .int i => -9223372036854775808 ≤ i ∧ i < UInt64.size
  | .float _ => True

/-- Integers fit into 64 bits, and every object has its keys in order. -/
inductive WellFormed : Json → Prop where
  | null : WellFormed .null
  | bool (b : Bool) : WellFormed (.bool b)
  | number {n : Number} (h : Fits n) : WellFormed (.number n)
  | string (s : String) : WellFormed (.string s)
  | array {items : List Json} (h : ∀ v ∈ items, WellFormed v) : WellFormed (.array items)
  | object {members : List (String × Json)} (hSorted : Keyed.Sorted members)
      (h : ∀ m ∈ members, WellFormed m.2) : WellFormed (.object members)

/-- No floating-point number occurs in a value. -/
inductive Exact : Json → Prop where
  | null : Exact .null
  | bool (b : Bool) : Exact (.bool b)
  | int (i : Int) : Exact (.number (.int i))
  | string (s : String) : Exact (.string s)
  | array {items : List Json} (h : ∀ v ∈ items, Exact v) : Exact (.array items)
  | object {members : List (String × Json)} (h : ∀ m ∈ members, Exact m.2) : Exact (.object members)

theorem wellFormed_array {items : List Json} :
    (array items).WellFormed ↔ ∀ v ∈ items, v.WellFormed :=
  ⟨fun | .array h => h, .array⟩

theorem wellFormed_object {members : List (String × Json)} :
    (object members).WellFormed ↔ Keyed.Sorted members ∧ ∀ m ∈ members, m.2.WellFormed :=
  ⟨fun | .object hSorted h => ⟨hSorted, h⟩, fun ⟨hSorted, h⟩ => .object hSorted h⟩

theorem exact_array {items : List Json} : (array items).Exact ↔ ∀ v ∈ items, v.Exact :=
  ⟨fun | .array h => h, .array⟩

theorem exact_object {members : List (String × Json)} :
    (object members).Exact ↔ ∀ m ∈ members, m.2.Exact :=
  ⟨fun | .object h => h, .object⟩

/-! ## Levels -/

theorem levelsOfItems_le {items : List Json} {n : Nat} :
    levelsOfItems items ≤ n ↔ ∀ v ∈ items, v.levels ≤ n := by
  induction items with
  | nil => simp [levelsOfItems]
  | cons v rest ih => rw [levelsOfItems, Nat.max_le, ih, List.forall_mem_cons]

theorem levelsOfMembers_le {members : List (String × Json)} {n : Nat} :
    levelsOfMembers members ≤ n ↔ ∀ m ∈ members, m.2.levels ≤ n := by
  induction members with
  | nil => simp [levelsOfMembers]
  | cons m rest ih => rw [levelsOfMembers, Nat.max_le, ih, List.forall_mem_cons]

theorem levels_array_le {items : List Json} {n : Nat} :
    (array items).levels ≤ n + 1 ↔ ∀ v ∈ items, v.levels ≤ n := by
  rw [levels, Nat.add_le_add_iff_right, levelsOfItems_le]

theorem levels_object_le {members : List (String × Json)} {n : Nat} :
    (object members).levels ≤ n + 1 ↔ ∀ m ∈ members, m.2.levels ≤ n := by
  rw [levels, Nat.add_le_add_iff_right, levelsOfMembers_le]

/-! ## Changing the members of an object -/

section

variable {members : List (String × Json)} {v : Json}

theorem wellFormed_insert (hMembers : (object members).WellFormed) (h : v.WellFormed) (key : String) :
    (object (Keyed.insert key v members)).WellFormed := by
  obtain ⟨hSorted, hAll⟩ := wellFormed_object.mp hMembers
  refine .object (Keyed.sorted_insert key v hSorted) fun m hm => ?_
  rcases Keyed.mem_insert hm with rfl | hOld
  · exact h
  · exact hAll m hOld

theorem exact_insert (hMembers : (object members).Exact) (h : v.Exact) (key : String) :
    (object (Keyed.insert key v members)).Exact := by
  refine .object fun m hm => ?_
  rcases Keyed.mem_insert hm with rfl | hOld
  · exact h
  · exact exact_object.mp hMembers m hOld

theorem wellFormed_erase (hMembers : (object members).WellFormed) (key : String) :
    (object (Keyed.erase key members)).WellFormed := by
  obtain ⟨hSorted, hAll⟩ := wellFormed_object.mp hMembers
  rw [Keyed.erase_eq_filter hSorted]
  exact .object (Keyed.sorted_filter hSorted _) fun m hm => hAll m (List.mem_filter.mp hm).1

/-- An object keeps to a number of levels if and only if the new member keeps to one less. -/
theorem levels_insert_le {n : Nat} (hMembers : (object members).levels ≤ n + 1) (key : String) :
    (object (Keyed.insert key v members)).levels ≤ n + 1 ↔ v.levels ≤ n := by
  rw [levels_object_le]
  constructor
  · intro h
    exact h (key, v) (Keyed.mem_of_find? (Keyed.find?_insert_self key v members))
  · intro h m hm
    rcases Keyed.mem_insert hm with rfl | hOld
    · exact h
    · exact levels_object_le.mp hMembers m hOld

end

end Json

end ExtensionHost
