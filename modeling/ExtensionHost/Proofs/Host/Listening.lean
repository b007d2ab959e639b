import ExtensionHost.Host.Listeners
import Mathlib.Data.List.Induction

/-!
# Listeners that come and go

What is done with a list of listeners is a list of uses: listeners are added, and what was added is disposed
of, in any order and as late as may be. `kept` says of such a list, without the listeners, who is there in
the end: those that are not disposed of later. Whoever adds a listener holds the number that it was given
(`Roll`), which is one more than the number of additions before, so that a number leads to its own entry
only, however many listeners are equal.
-/

namespace ExtensionHost.Listeners

/-- What is done with listeners. Additions are numbered in their order. -/
inductive Use (α : Type) where
  | add (a : α)
  | dispose (number : Nat)

variable {α : Type}

namespace Use

def isAddition : Use α → Bool
  | .add _ => true
  | .dispose _ => false

def disposesOf (number : Nat) : Use α → Bool
  | .add _ => false
  | .dispose disposed => disposed = number

/-- How often a listener was added. -/
def additions (uses : List (Use α)) : Nat := uses.countP isAddition

/-- The listeners that are added and not disposed of afterwards, in the order of addition, with the numbers
of their additions; these go on from a number. -/
def kept : Nat → List (Use α) → List (Nat × α)
  | _, [] => []
  | number, .dispose _ :: rest => kept number rest
  | number, .add a :: rest =>
    if rest.any (disposesOf number) then kept (number + 1) rest
    else (number, a) :: kept (number + 1) rest

variable {uses : List (Use α)}

theorem additions_concat (uses : List (Use α)) (use : Use α) :
    additions (uses ++ [use]) = additions uses + if use.isAddition then 1 else 0 := by
  unfold additions
  rw [List.countP_append, List.countP_singleton]

theorem kept_add (number : Nat) (uses : List (Use α)) (a : α) :
    kept number (uses ++ [.add a]) = kept number uses ++ [(number + additions uses, a)] := by
  induction uses generalizing number with
  | nil => rfl
  | cons use rest ih =>
    cases use with
    | dispose disposed => simpa [kept, additions, isAddition] using ih number
    | add b =>
      have hCount : number + 1 + additions rest = number + additions (.add b :: rest) := by
        unfold additions
        rw [List.countP_cons_of_pos rfl]
        omega
      rw [List.cons_append, kept, kept, ih, hCount, List.any_append]
      by_cases hGone : rest.any (disposesOf number) = true
      · simp [hGone, disposesOf]
      · simp [hGone, disposesOf]

theorem bounds_of_mem_kept {number : Nat} {entry : Nat × α} (h : entry ∈ kept number uses) :
    number ≤ entry.1 ∧ entry.1 < number + additions uses := by
  induction uses generalizing number with
  | nil => cases h
  | cons use rest ih =>
    cases use with
    | dispose disposed =>
      have hRest : number ≤ entry.1 ∧ entry.1 < number + additions rest := ih h
      simpa [additions, isAddition] using hRest
    | add b =>
      have hCount : additions (.add b :: rest) = additions rest + 1 := List.countP_cons_of_pos rfl
      have hCases : entry = (number, b) ∨ entry ∈ kept (number + 1) rest := by
        rw [kept] at h
        split at h
        · exact .inr h
        · exact List.mem_cons.mp h
      rw [hCount]
      rcases hCases with rfl | hRest
      · exact ⟨Nat.le_refl _, by omega⟩
      · have hBounds := ih hRest
        omega

/-- Disposing of an addition takes its entry away and no other. -/
theorem kept_dispose (number : Nat) (uses : List (Use α)) (disposed : Nat) :
    kept number (uses ++ [.dispose disposed]) =
      (kept number uses).filter fun entry => entry.1 ≠ disposed := by
  induction uses generalizing number with
  | nil => rfl
  | cons use rest ih =>
    cases use with
    | dispose other => exact ih number
    | add b =>
      rw [List.cons_append, kept, kept, ih, List.any_append]
      by_cases hGone : rest.any (disposesOf number) = true
      · simp [hGone]
      · by_cases hOwn : disposed = number
        · simp [hGone, hOwn, disposesOf]
        · have hOther : number ≠ disposed := fun h => hOwn h.symm
          simp [hGone, hOwn, hOther, disposesOf]

theorem pairwise_kept (number : Nat) (uses : List (Use α)) :
    (kept number uses).Pairwise fun first second => first.1 < second.1 := by
  induction uses generalizing number with
  | nil => exact .nil
  | cons use rest ih =>
    cases use with
    | dispose disposed => exact ih number
    | add b =>
      rw [kept]
      split
      · exact ih (number + 1)
      · refine List.pairwise_cons.mpr ⟨fun entry hEntry => ?_, ih (number + 1)⟩
        have hBounds := bounds_of_mem_kept hEntry
        change number < entry.1
        omega

end Use

/-! ## Listeners and the numbers that were given -/

/-- Listeners, and the numbers that were given to them in the order of addition. -/
structure Roll (α : Type) where
  listeners : Listeners α := {}
  issued : List Nat := []

namespace Roll

open Use

/-- Uses the listeners. There is nothing to dispose of under a number that no addition has. -/
def use (l : Roll α) : Use α → Roll α
  | .add a =>
    let (listeners, number) := l.listeners.add a
    ⟨listeners, l.issued ++ [number]⟩
  | .dispose number =>
    match l.issued[number]? with
    | some given => { l with listeners := l.listeners.remove given }
    | none => l

/-- New listeners after several uses. -/
def of (uses : List (Use α)) : Roll α := uses.foldl use {}

theorem of_concat (uses : List (Use α)) (last : Use α) : of (uses ++ [last]) = (of uses).use last :=
  List.foldl_append

/-- The entries are those that are kept, each under the number that was given to it. -/
structure Records (l : Roll α) (uses : List (Use α)) : Prop where
  lastNumber : l.listeners.lastNumber = additions uses
  issued : l.issued = (List.range (additions uses)).map (· + 1)
  entries : l.listeners.entries = (kept 0 uses).map fun entry => (entry.1 + 1, entry.2)

variable {l : Roll α} {uses : List (Use α)}

theorem Records.add (h : l.Records uses) (a : α) : (l.use (.add a)).Records (uses ++ [.add a]) := by
  have hCount : additions (uses ++ [.add a]) = additions uses + 1 := additions_concat uses (.add a)
  refine ⟨?_, ?_, ?_⟩
  · rw [hCount, ← h.lastNumber]
    rfl
  · rw [hCount, List.range_succ, List.map_append, ← h.issued, ← h.lastNumber]
    rfl
  · rw [kept_add, List.map_append, ← h.entries, Nat.zero_add, ← h.lastNumber]
    rfl

theorem Records.entries_dispose (h : l.Records uses) (number : Nat) :
    (l.use (.dispose number)).listeners.entries =
      l.listeners.entries.filter fun entry => entry.1 ≠ number + 1 := by
  unfold use
  dsimp only
  rw [h.issued, List.getElem?_map]
  by_cases hNumber : number < additions uses
  · rw [List.getElem?_range hNumber]
    rfl
  · rw [List.getElem?_eq_none (by simpa using hNumber)]
    -- No entry has a number that was not given yet.
    symm
    rw [Option.map_none, List.filter_eq_self]
    intro entry hEntry
    rw [h.entries] at hEntry
    obtain ⟨entry, hKept, rfl⟩ := List.mem_map.mp hEntry
    have hBounds := bounds_of_mem_kept hKept
    simp only [ne_eq, decide_not, Bool.not_eq_true', decide_eq_false_iff_not]
    omega

theorem Records.dispose (h : l.Records uses) (number : Nat) :
    (l.use (.dispose number)).Records (uses ++ [.dispose number]) := by
  have hCount : additions (uses ++ [.dispose number]) = additions uses :=
    additions_concat uses (.dispose number)
  have hGiven : (l.use (.dispose number)).issued = l.issued ∧
      (l.use (.dispose number)).listeners.lastNumber = l.listeners.lastNumber := by
    unfold use
    dsimp only
    cases l.issued[number]? <;> exact ⟨rfl, rfl⟩
  refine ⟨hCount ▸ hGiven.2.trans h.lastNumber, hCount ▸ hGiven.1.trans h.issued, ?_⟩
  rw [h.entries_dispose, h.entries, kept_dispose, List.filter_map]
  simp [Function.comp_def]

theorem records_of (uses : List (Use α)) : (of uses).Records uses := by
  induction uses using List.reverseRecOn with
  | nil => exact ⟨rfl, rfl, rfl⟩
  | append_singleton uses use ih =>
    rw [of_concat]
    cases use with
    | add a => exact ih.add a
    | dispose number => exact ih.dispose number

theorem Records.snapshot (h : l.Records uses) : l.listeners.snapshot = (kept 0 uses).map Prod.snd := by
  unfold Listeners.snapshot
  rw [h.entries, List.map_map]
  rfl

theorem Records.pairwise (h : l.Records uses) :
    l.listeners.entries.Pairwise fun first second => first.1 < second.1 := by
  rw [h.entries, List.pairwise_map]
  exact (pairwise_kept 0 uses).imp fun hLess => Nat.succ_lt_succ hLess

theorem Records.getElem?_issued (h : l.Records uses) {number : Nat} (hNumber : number < additions uses) :
    l.issued[number]? = some (number + 1) := by
  rw [h.issued, List.getElem?_map, List.getElem?_range hNumber]
  rfl

end Roll

/-- Two equal listeners, of which the first is disposed of, twice. -/
example : (Roll.of [.add "a", .add "b", .add "a", .dispose 0, .dispose 0]).listeners.snapshot = ["b", "a"] := by
  decide

end ExtensionHost.Listeners
