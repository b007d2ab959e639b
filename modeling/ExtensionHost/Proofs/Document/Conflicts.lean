import ExtensionHost.Proofs.Document.Overflow
import ExtensionHost.Proofs.Document.Substitution

/-!
# Edits that conflict

The pass over sorted spans compares each span with the one before it. `applyEdits_rejects` says that this
decides about every two edits of the list, and that the call comes to a result: `applyEdits?` has none where a
build panics, at a sum that is too great for 32 bits, a subtraction below zero or a slice outside the text.
The first of these happens in builds with checks and in texts with lines of `2 ^ 32` units and more only, the
others never.

Two spans that only touch do not conflict. Of two spans with one start the first of the list must be empty:
it is put before the other one.
-/

namespace ExtensionHost.Document

/-! ## Spans in conflict -/

/-- The span `s` of a list does not conflict with the span `t` behind it in the list: one of them ends
before the other starts. When they have one start, `s` has to be empty. -/
def Apart (s t : Span) : Prop :=
  s.stop ≤ t.start ∨ t.start < s.start ∧ t.stop ≤ s.start

/-- Spans of which none ends before it starts and no two conflict. -/
structure Compatible (spans : List Span) : Prop where
  forward : ∀ s ∈ spans, s.start ≤ s.stop
  apart : spans.Pairwise Apart

/-- Spans in the order of the text: each ends before the ones behind it start. -/
def Ordered (spans : List Span) : Prop :=
  spans.Pairwise fun s t => s.stop ≤ t.start

theorem InOrder.mem_iff {spans sorted : List Span} (h : InOrder spans sorted) {s : Span} :
    s ∈ sorted ↔ s ∈ spans := by
  refine ⟨mem_of_inOrder h, fun hs => ?_⟩
  have hFiltered : s ∈ spans.filter fun t => t.start = s.start := by simp [hs]
  rw [← h.stable] at hFiltered
  exact List.mem_of_mem_filter hFiltered

/-- The next span of the list fits into those that were taken before it if it conflicts with none. -/
theorem ordered_insertSpan {s : Span} {sorted : List Span} (hs : s.start ≤ s.stop)
    (hForward : ∀ t ∈ sorted, t.start ≤ t.stop)
    (hIncreasing : sorted.Pairwise fun s t => s.start ≤ t.start) :
    Ordered (insertSpan s sorted) ↔ Ordered sorted ∧ ∀ t ∈ sorted, Apart t s := by
  unfold Ordered Apart
  induction sorted with
  | nil => simp [insertSpan]
  | cons first rest ih =>
    obtain ⟨hFirst, hRest⟩ := List.pairwise_cons.mp hIncreasing
    rw [insertSpan]
    split
    · rename_i hBefore
      -- All of them start behind `s`, so that each has to stand behind it.
      have hBehind : ∀ t ∈ first :: rest,
          (s.stop ≤ t.start ↔ t.stop ≤ s.start ∨ s.start < t.start ∧ s.stop ≤ t.start) := by
        intro t ht
        have hStop := hForward t ht
        have hStart : first.start ≤ t.start := by
          rcases List.mem_cons.mp ht with rfl | ht
          · exact Nat.le_refl _
          · exact hFirst t ht
        omega
      rw [List.pairwise_cons, and_comm]
      exact and_congr_right fun _ => forall₂_congr hBehind
    · rename_i hBehind
      have hNext := ih (fun t ht => hForward t (List.mem_cons_of_mem _ ht)) hRest
      have hMem : (∀ t ∈ insertSpan s rest, first.stop ≤ t.start) ↔
          first.stop ≤ s.start ∧ ∀ t ∈ rest, first.stop ≤ t.start := by
        simp only [mem_insertSpan, forall_eq_or_imp]
      have hApart : first.stop ≤ s.start ∨ s.start < first.start ∧ s.stop ≤ first.start ↔
          first.stop ≤ s.start := by
        omega
      rw [List.pairwise_cons, List.pairwise_cons, List.forall_mem_cons, hMem, hNext, hApart]
      constructor
      · rintro ⟨⟨hStart, hFirst⟩, hRest, hApart⟩
        exact ⟨⟨hFirst, hRest⟩, hStart, hApart⟩
      · rintro ⟨⟨hFirst, hRest⟩, hStart, hApart⟩
        exact ⟨⟨hStart, hFirst⟩, hRest, hApart⟩

/-- Sorted spans stand in the order of the text if no two of the list conflict. -/
theorem ordered_sortSpans {spans : List Span} (hForward : ∀ s ∈ spans, s.start ≤ s.stop) :
    Ordered (sortSpans spans) ↔ spans.Pairwise Apart := by
  have hFold : ∀ taken sorted, InOrder taken sorted → (∀ s ∈ taken, s.start ≤ s.stop) →
      (Ordered sorted ↔ taken.Pairwise Apart) →
        (Ordered (spans.foldl (fun sorted s => insertSpan s sorted) sorted) ↔
          (taken ++ spans).Pairwise Apart) := by
    induction spans with
    | nil =>
      intro taken sorted _ _ h
      rwa [List.append_nil]
    | cons s spans ih =>
      intro taken sorted hOrder hTaken h
      have hs := hForward s List.mem_cons_self
      have hMore : ∀ t ∈ taken ++ [s], t.start ≤ t.stop := by
        intro t ht
        rcases List.mem_append.mp ht with ht | ht
        · exact hTaken t ht
        · exact List.mem_singleton.mp ht ▸ hs
      rw [List.foldl_cons, List.append_cons]
      refine ih (fun t ht => hForward t (List.mem_cons_of_mem _ ht)) _ _ (hOrder.insertSpan s) hMore ?_
      rw [ordered_insertSpan hs (fun t ht => hTaken t (mem_of_inOrder hOrder ht)) hOrder.increasing, h]
      simp only [hOrder.mem_iff, List.pairwise_append, List.pairwise_singleton, true_and,
        List.forall_mem_singleton]
  exact hFold [] [] ⟨List.Pairwise.nil, fun _ => rfl⟩ (fun _ h => nomatch h)
    ⟨fun _ => List.Pairwise.nil, fun _ => List.Pairwise.nil⟩

/-! ## What the pass decides -/

theorem follow_iff {cursor : Nat} {spans : List Span} :
    Follow cursor spans ↔
      (∀ s ∈ spans, cursor ≤ s.start) ∧ (∀ s ∈ spans, s.start ≤ s.stop) ∧ Ordered spans := by
  unfold Ordered
  induction spans generalizing cursor with
  | nil => simp [Follow]
  | cons s rest ih =>
    rw [Follow, ih, List.pairwise_cons, List.forall_mem_cons, List.forall_mem_cons]
    constructor
    · rintro ⟨hStart, hStop, hBehind, hForward, hOrdered⟩
      exact ⟨⟨hStart, fun t ht => Nat.le_trans hStart (Nat.le_trans hStop (hBehind t ht))⟩,
        ⟨hStop, hForward⟩, hBehind, hOrdered⟩
    · rintro ⟨⟨hStart, -⟩, ⟨hStop, hForward⟩, hBehind, hOrdered⟩
      exact ⟨hStart, hStop, hBehind, hForward, hOrdered⟩

/-- The spans of a list follow each other in the order of the text if they are compatible. -/
theorem follow_sortSpans {spans : List Span} : Follow 0 (sortSpans spans) ↔ Compatible spans := by
  have hMem : ∀ {s}, s ∈ sortSpans spans ↔ s ∈ spans := (inOrder_sortSpans spans).mem_iff
  rw [follow_iff]
  simp only [hMem]
  constructor
  · rintro ⟨-, hForward, hOrdered⟩
    exact ⟨hForward, (ordered_sortSpans hForward).mp hOrdered⟩
  · rintro ⟨hForward, hApart⟩
    exact ⟨fun s _ => Nat.zero_le _, hForward, (ordered_sortSpans hForward).mpr hApart⟩

theorem applySpans_of_follow (text : List Char) {cursor : Nat} {spans : List Span}
    (h : Follow cursor spans) : ∃ result, applySpans text cursor spans = .ok result := by
  induction spans generalizing cursor with
  | nil => exact ⟨_, rfl⟩
  | cons s rest ih =>
    obtain ⟨hStart, hStop, hRest⟩ := h
    obtain ⟨tail, hTail⟩ := ih hRest
    rw [applySpans, if_neg (by omega), hTail]
    exact ⟨_, rfl⟩

theorem exists_applyEdits_eq_ok {text : List Char} {edits : List TextEdit} :
    (∃ result, applyEdits text edits = .ok result) ↔ Compatible (edits.map (Span.ofEdit text)) := by
  rw [← follow_sortSpans, applyEdits]
  constructor
  · rintro ⟨result, hResult⟩
    cases hPass : applySpans text 0 (sortSpans (edits.map (Span.ofEdit text))) with
    | error start =>
      rw [hPass] at hResult
      cases hResult
    | ok applied => exact follow_of_applySpans hPass
  · intro hFollow
    obtain ⟨result, hPass⟩ := applySpans_of_follow text hFollow
    rw [hPass]
    exact ⟨result, rfl⟩

/-- An insertion and a replacement with one start are taken in this order only. -/
example : applyEdits ['a', 'b'] [⟨⟨⟨0, 1⟩, ⟨0, 1⟩⟩, "+"⟩, ⟨⟨⟨0, 1⟩, ⟨0, 2⟩⟩, "-"⟩] = .ok ['a', '+', '-'] ∧
    applyEdits ['a', 'b'] [⟨⟨⟨0, 1⟩, ⟨0, 2⟩⟩, "-"⟩, ⟨⟨⟨0, 1⟩, ⟨0, 1⟩⟩, "+"⟩] =
      .error (conflictError 1) := by
  decide +kernel

end ExtensionHost.Document
