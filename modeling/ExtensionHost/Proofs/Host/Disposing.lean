import ExtensionHost.Host.Disposal
import Mathlib.Data.List.DropRight
import Mathlib.Data.List.Induction
import Mathlib.Data.List.Perm.Basic

/-!
# Disposing of what was added

What happens to a composite is a list of moves: a thing is added, a disposal begins, or a disposal that was
begun takes its next thing. The things may make moves of their own while they are disposed of, so the moves
come in any order, and as many disposals are under way as there were begun. What a disposal disposes of can
be read off the moves before it (`pending`). An account keeps what was taken by whom; it balances with the
moves at all times (`Account.Balanced`), since a move only passes a thing on: from the composite to a
disposal, or from a disposal to the things that are done with.
-/

namespace ExtensionHost.Disposals

/-! ## The moves -/

/-- What happens to a composite. Disposals are numbered in their order. -/
inductive Move (α : Type) where
  | add (a : α)
  | start
  | next (number : Nat)

variable {α : Type}

namespace Move

def isStart : Move α → Bool
  | .start => true
  | _ => false

/-- The things that were added. -/
def added (moves : List (Move α)) : List α :=
  moves.filterMap fun
    | .add a => some a
    | _ => none

/-- How many disposals were begun. -/
def started (moves : List (Move α)) : Nat := moves.countP isStart

/-- The things that were added since a disposal was begun for the last time. -/
def pending (moves : List (Move α)) : List α := added (moves.rtakeWhile fun move => !move.isStart)

variable {moves before after : List (Move α)} {move : Move α}

theorem added_append (first second : List (Move α)) : added (first ++ second) = added first ++ added second :=
  List.filterMap_append

theorem started_concat (moves : List (Move α)) (move : Move α) :
    started (moves ++ [move]) = started moves + if move.isStart then 1 else 0 := by
  unfold started
  rw [List.countP_append, List.countP_singleton]

theorem pending_start (moves : List (Move α)) : pending (moves ++ [.start]) = [] := by
  unfold pending
  rw [List.rtakeWhile_concat_neg _ _ _ (by simp [isStart])]
  rfl

theorem pending_concat (hMove : move.isStart = false) (moves : List (Move α)) :
    pending (moves ++ [move]) = pending moves ++ added [move] := by
  unfold pending
  rw [List.rtakeWhile_concat_pos _ _ _ (by simp [hMove]), added_append]

/-- What is pending after a disposal began is what was added meanwhile. -/
theorem pending_after_start (before : List (Move α)) (hAfter : started after = 0) :
    pending (before ++ .start :: after) = added after := by
  induction after using List.reverseRecOn with
  | nil => exact pending_start before
  | append_singleton after move ih =>
    rw [started_concat] at hAfter
    have hMove : move.isStart = false := by
      by_contra hStart
      simp [hStart] at hAfter
    rw [← List.cons_append, ← List.append_assoc, pending_concat hMove, ih (by omega), added_append]

/-- A disposal began with the last move, or before it. -/
theorem concat_eq_start (h : moves ++ [move] = before ++ .start :: after) :
    (move = .start ∧ before = moves) ∨ ∃ later, moves = before ++ .start :: later := by
  rcases List.eq_nil_or_concat after with rfl | ⟨later, last, rfl⟩
  · obtain ⟨rfl, hLast⟩ := List.append_inj' h rfl
    exact .inl ⟨List.singleton_inj.mp hLast, rfl⟩
  · rw [List.concat_eq_append, ← List.cons_append, ← List.append_assoc] at h
    exact .inr ⟨later, (List.append_inj' h rfl).1⟩

end Move

/-! ## One move -/

theorem left_start (d : Disposals α) (number : Nat) :
    d.start.1.left number =
      if number = d.remaining.length then d.composite.items.reverse else d.left number := by
  unfold left start Composite.takeAll
  rw [List.getElem?_append]
  by_cases hOld : number < d.remaining.length
  · rw [if_pos hOld, if_neg (by omega)]
  · by_cases hNew : number = d.remaining.length
    · simp [hNew]
    · have hNone : d.remaining[number]? = none := List.getElem?_eq_none (by omega)
      rw [if_neg hOld, if_neg hNew, hNone, List.getElem?_eq_none]
      simp only [List.length_singleton]
      omega

theorem next_snd (d : Disposals α) (number : Nat) : (d.next number).2 = (d.left number).head? := by
  unfold next
  cases d.left number <;> rfl

theorem composite_next (d : Disposals α) (number : Nat) : (d.next number).1.composite = d.composite := by
  unfold next
  cases d.left number <;> rfl

theorem getElem?_of_left {d : Disposals α} {number : Nat} {a : α} {rest : List α}
    (h : d.left number = a :: rest) : d.remaining[number]? = some (a :: rest) := by
  unfold left at h
  cases hThings : d.remaining[number]? with
  | none => simp [hThings] at h
  | some things => rw [hThings, Option.getD_some] at h; rw [h]

theorem length_remaining_next (d : Disposals α) (number : Nat) :
    (d.next number).1.remaining.length = d.remaining.length := by
  unfold next
  cases d.left number with
  | nil => rfl
  | cons a rest => exact List.length_set

theorem left_next (d : Disposals α) (number other : Nat) :
    (d.next number).1.left other = if other = number then (d.left number).tail else d.left other := by
  unfold next
  cases h : d.left number with
  | nil =>
    by_cases hSame : other = number
    · rw [if_pos hSame, hSame, h]
      rfl
    · rw [if_neg hSame]
  | cons a rest =>
    have hThings := getElem?_of_left h
    by_cases hSame : other = number
    · have hNumber := (List.getElem?_eq_some_iff.mp hThings).1
      simp [left, hSame, hNumber]
    · rw [if_neg hSame]
      simp only [left, List.getElem?_set_ne (Ne.symm hSame)]

/-- The thing that a disposal takes was left to it. -/
theorem flatten_next (d : Disposals α) (number : Nat) :
    ((d.next number).2.toList ++ (d.next number).1.remaining.flatten).Perm d.remaining.flatten := by
  unfold next
  cases h : d.left number with
  | nil => exact .refl _
  | cons a rest =>
    obtain ⟨hNumber, hThings⟩ := List.getElem?_eq_some_iff.mp (getElem?_of_left h)
    have hSplit : d.remaining =
        d.remaining.take number ++ (a :: rest) :: d.remaining.drop (number + 1) := by
      rw [← hThings, List.getElem_cons_drop, List.take_append_drop]
    have hSet : d.remaining.set number rest =
        d.remaining.take number ++ rest :: d.remaining.drop (number + 1) :=
      List.set_eq_take_append_cons_drop.trans (if_pos hNumber)
    simp only [Option.toList_some, List.singleton_append, hSet]
    conv_rhs => rw [hSplit]
    simp only [List.flatten_append, List.flatten_cons, List.cons_append]
    exact List.perm_middle.symm

/-! ## Accounts -/

/-- A composite with its disposals, and the things that were disposed of in their order, each with the
number of the disposal. -/
structure Account (α : Type) where
  state : Disposals α := {}
  done : List (Nat × α) := []

namespace Account

open Move

/-- Makes a move. -/
def play (c : Account α) : Move α → Account α
  | .add a => { c with state := c.state.add a }
  | .start => { c with state := c.state.start.1 }
  | .next number =>
    let (state, thing) := c.state.next number
    ⟨state, c.done ++ thing.toList.map (number, ·)⟩

/-- The account of a new composite after some moves. -/
def of (moves : List (Move α)) : Account α := moves.foldl play {}

/-- What a disposal disposed of, in order. -/
def doneBy (c : Account α) (number : Nat) : List α :=
  (c.done.filter fun entry => entry.1 = number).map Prod.snd

/-- What a disposal disposed of, and then what it has still to dispose of. -/
def share (c : Account α) (number : Nat) : List α := c.doneBy number ++ c.state.left number

/-- Everything that is known to a composite: what is done with, what is left, and what the composite has. -/
def total (c : Account α) : List α :=
  c.done.map Prod.snd ++ c.state.remaining.flatten ++ c.state.composite.items

theorem of_concat (moves : List (Move α)) (move : Move α) : of (moves ++ [move]) = (of moves).play move :=
  List.foldl_concat _ _ _ _

theorem doneBy_next (c : Account α) (number other : Nat) :
    (c.play (.next number)).doneBy other =
      c.doneBy other ++ if other = number then (c.state.left number).head?.toList else [] := by
  simp only [doneBy, play, next_snd, List.filter_append, List.map_append]
  congr 1
  by_cases hSame : other = number
  · cases (c.state.left number).head? <;> simp [hSame]
  · have hOther : number ≠ other := fun h => hSame h.symm
    simp [hSame, hOther]

theorem share_next (c : Account α) (number other : Nat) :
    (c.play (.next number)).share other = c.share other := by
  have hLeft : (c.play (.next number)).state.left other = _ := left_next c.state number other
  unfold share
  rw [doneBy_next, hLeft]
  by_cases hSame : other = number
  · rw [if_pos hSame, if_pos hSame, hSame]
    cases c.state.left number <;> simp
  · simp [hSame]

theorem total_next (c : Account α) (number : Nat) : (c.play (.next number)).total.Perm c.total := by
  have hDone : (c.play (.next number)).done.map Prod.snd =
      c.done.map Prod.snd ++ (c.state.next number).2.toList := by
    simp [play, Function.comp_def]
  unfold total
  rw [hDone, List.append_assoc (c.done.map Prod.snd)]
  refine List.Perm.append (.append_left _ (flatten_next c.state number)) (.of_eq ?_)
  exact congrArg Composite.items (composite_next c.state number)

/-- An account agrees with the moves that were made. -/
structure Balanced (c : Account α) (moves : List (Move α)) : Prop where
  items : c.state.composite.items = pending moves
  begun : c.state.remaining.length = started moves
  share : ∀ before after, moves = before ++ .start :: after →
    c.share (started before) = (pending before).reverse
  unbegun : ∀ number, started moves ≤ number → c.doneBy number = []
  total : c.total.Perm (added moves)

variable {c : Account α} {moves : List (Move α)}

theorem Balanced.add (hc : c.Balanced moves) (a : α) : (c.play (.add a)).Balanced (moves ++ [.add a]) := by
  have hStarted : started (moves ++ [.add a]) = started moves := by simp [started_concat, isStart]
  refine ⟨?_, hStarted ▸ hc.begun, fun before after hMoves => ?_, hStarted ▸ hc.unbegun, ?_⟩
  · rw [pending_concat rfl, ← hc.items]
    rfl
  · rcases concat_eq_start hMoves with ⟨hStart, -⟩ | ⟨later, hLater⟩
    · cases hStart
    · exact hc.share before later hLater
  · rw [added_append]
    have hTotal : (c.play (.add a)).total = c.total ++ [a] := (List.append_assoc _ _ _).symm
    rw [hTotal]
    exact hc.total.append_right _

theorem Balanced.start (hc : c.Balanced moves) : (c.play .start).Balanced (moves ++ [.start]) := by
  have hStarted : started (moves ++ [.start]) = started moves + 1 := by simp [started_concat, isStart]
  have hDone : ∀ number, (c.play .start).doneBy number = c.doneBy number := fun _ => rfl
  refine ⟨?_, ?_, fun before after hMoves => ?_, fun number hNumber => ?_, ?_⟩
  · rw [pending_start]
    rfl
  · rw [hStarted, ← hc.begun]
    exact List.length_append
  · have hLeft : (c.play .start).state.left (started before) = _ := left_start c.state (started before)
    unfold Account.share
    rw [hDone, hLeft, hc.begun]
    rcases concat_eq_start hMoves with ⟨-, rfl⟩ | ⟨later, hLater⟩
    · rw [if_pos rfl, hc.unbegun _ (Nat.le_refl _), hc.items, List.nil_append]
    · have hBefore : started before < started moves := by
        rw [hLater]
        simp [started, isStart]
      rw [if_neg (by omega)]
      exact hc.share before later hLater
  · rw [hDone]
    exact hc.unbegun number (by omega)
  · have hAdded : added (moves ++ [.start]) = added moves := (added_append _ _).trans (List.append_nil _)
    rw [hAdded]
    refine List.Perm.trans ?_ hc.total
    simp only [Account.total, play, Disposals.start, Composite.takeAll, List.flatten_append,
      List.flatten_singleton, List.append_nil, ← List.append_assoc]
    exact (List.reverse_perm _).append_left _

theorem Balanced.next (hc : c.Balanced moves) (number : Nat) :
    (c.play (.next number)).Balanced (moves ++ [.next number]) := by
  have hStarted : started (moves ++ [.next number]) = started moves := by simp [started_concat, isStart]
  refine ⟨?_, ?_, fun before after hMoves => ?_, fun other hOther => ?_, ?_⟩
  · rw [pending_concat rfl]
    refine (congrArg Composite.items (composite_next c.state number)).trans ?_
    exact hc.items.trans (List.append_nil _).symm
  · rw [hStarted, ← hc.begun]
    exact length_remaining_next c.state number
  · rw [share_next]
    rcases concat_eq_start hMoves with ⟨hStart, -⟩ | ⟨later, hLater⟩
    · cases hStart
    · exact hc.share before later hLater
  · rw [hStarted] at hOther
    rw [doneBy_next, hc.unbegun other hOther, List.nil_append]
    by_cases hSame : other = number
    · have hNone : c.state.left number = [] := by
        unfold left
        rw [List.getElem?_eq_none (by rw [hc.begun]; omega)]
        rfl
      rw [if_pos hSame, hNone]
      rfl
    · exact if_neg hSame
  · have hAdded : added (moves ++ [.next number]) = added moves :=
      (added_append _ _).trans (List.append_nil _)
    rw [hAdded]
    exact (total_next c number).trans hc.total

/-- The account of a composite agrees with the moves. -/
theorem balanced_of (moves : List (Move α)) : (of moves).Balanced moves := by
  induction moves using List.reverseRecOn with
  | nil =>
    refine ⟨rfl, rfl, fun before after hMoves => ?_, fun _ _ => rfl, .nil⟩
    simp at hMoves
  | append_singleton moves move ih =>
    rw [of_concat]
    cases move with
    | add a => exact ih.add a
    | start => exact ih.start
    | next number => exact ih.next number

end Account

/-! ## The main statement -/

open Move in
/-- **Every thing is disposed of once, and in reverse.** A new composite is added to and disposed of in any
way, also from within disposals of it. It has the things that were added since a disposal was begun for the
last time. A disposal disposes of the things that the composite had when it began, in the reverse order of
addition, and of no others: what it disposed of, and then what it has still to dispose of, are these things,
and as long as it has one left, it goes on with it. The things that are added meanwhile are those of the
next disposal. Whatever was added is disposed of, left to a disposal or in the composite, and is so once. -/
theorem disposed_once (moves : List (Move α)) :
    let c := Account.of moves
    c.state.composite.items = pending moves ∧
      (∀ before after, moves = before ++ .start :: after →
        c.doneBy (started before) ++ c.state.left (started before) = (pending before).reverse) ∧
      (∀ number, (c.state.next number).2 = (c.state.left number).head? ∧
        (c.state.next number).1.left number = (c.state.left number).tail) ∧
      (∀ before between after, moves = before ++ .start :: between ++ .start :: after →
        started between = 0 →
          c.doneBy (started before + 1) ++ c.state.left (started before + 1) = (added between).reverse) ∧
      (c.done.map Prod.snd ++ c.state.remaining.flatten ++ c.state.composite.items).Perm (added moves) ∧
      ((added moves).Nodup → (c.done.map Prod.snd).Nodup) := by
  intro c
  have hc : c.Balanced moves := Account.balanced_of moves
  refine ⟨hc.items, hc.share, fun number => ⟨next_snd c.state number, ?_⟩, ?_, hc.total, ?_⟩
  · rw [left_next, if_pos rfl]
  · intro before between after hMoves hBetween
    have hStarted : started (before ++ .start :: between) = started before + 1 := by
      unfold started at hBetween ⊢
      rw [List.countP_append, List.countP_cons_of_pos rfl, hBetween]
    have hShare := hc.share _ _ hMoves
    rw [hStarted, pending_after_start before hBetween] at hShare
    exact hShare
  · intro hAdded
    have hTotal : c.total.Nodup := hc.total.nodup_iff.mpr hAdded
    exact (List.nodup_append.mp (List.nodup_append.mp hTotal).1).1

/-- The second thing adds a third one and disposes of the composite again before the first one's turn. -/
example :
    let c := Account.of [.add 1, .add 2, .start, .next 0, .add 3, .start, .next 1, .next 1, .next 0, .add 4]
    c.done = [(0, 2), (1, 3), (0, 1)] ∧ c.state.composite.items = [4] := by
  decide

end ExtensionHost.Disposals
