import ExtensionHost.Document.Edits
import Mathlib.Data.List.Basic

/-!
# Edits as one substitution

Edits that do not conflict are applied in one pass over the text. `applyEdits_substitutes` says what the
pass makes: the text in which the edits, sorted by their start, were replaced one after the other from the
last one to the first, each at its offsets in the text before all edits. It is the text that no edit
covers, with every new text put into it once, in the order of the starts and for one start in the order of
the list.
-/

namespace ExtensionHost.Document

/-! ## Offsets in a text -/

theorem scan_le (p : Position) (line column : UInt32) (offset : Nat) (afterReturn : Bool)
    (rest : List Char) : scan p line column offset afterReturn rest ≤ offset + rest.length := by
  induction rest generalizing line column offset afterReturn with
  | nil => exact Nat.le_refl _
  | cons c rest ih =>
    rw [scan, List.length_cons]
    split
    · omega
    split
    · split <;> omega
    split
    · have hNext := ih (line + 1) 0 (offset + 1) false
      omega
    · have hNext := ih line (column + UInt32.ofNat (units c)) (offset + 1) (c = '\r')
      omega

theorem offsetAt_le_length (text : List Char) (p : Position) : offsetAt text p ≤ text.length := by
  have hScan := scan_le p 0 0 0 false text
  rwa [Nat.zero_add] at hScan

/-! ## Sorting -/

/-- The spans of a list in the order of their start, those with one start in the order of the list. -/
structure InOrder (spans sorted : List Span) : Prop where
  increasing : sorted.Pairwise fun s t => s.start ≤ t.start
  stable : ∀ start, (sorted.filter fun s => s.start = start) = spans.filter fun s => s.start = start

theorem mem_insertSpan {s t : Span} {sorted : List Span} :
    t ∈ insertSpan s sorted ↔ t = s ∨ t ∈ sorted := by
  induction sorted with
  | nil => simp [insertSpan]
  | cons first rest ih =>
    rw [insertSpan]
    split
    · exact List.mem_cons
    · rw [List.mem_cons, ih, List.mem_cons]
      exact or_left_comm

theorem pairwise_insertSpan (s : Span) {sorted : List Span}
    (h : sorted.Pairwise fun s t => s.start ≤ t.start) :
    (insertSpan s sorted).Pairwise fun s t => s.start ≤ t.start := by
  induction sorted with
  | nil => simp [insertSpan]
  | cons first rest ih =>
    obtain ⟨hFirst, hRest⟩ := List.pairwise_cons.mp h
    rw [insertSpan]
    split
    · rename_i hBefore
      refine List.pairwise_cons.mpr ⟨?_, h⟩
      intro t ht
      rcases List.mem_cons.mp ht with rfl | ht
      · exact Nat.le_of_lt hBefore
      · exact Nat.le_of_lt (Nat.lt_of_lt_of_le hBefore (hFirst t ht))
    · rename_i hBehind
      refine List.pairwise_cons.mpr ⟨?_, ih hRest⟩
      intro t ht
      rcases mem_insertSpan.mp ht with rfl | ht
      · exact Nat.not_lt.mp hBehind
      · exact hFirst t ht

/-- A span is put behind all others that have its start. -/
theorem filter_insertSpan (s : Span) {sorted : List Span}
    (h : sorted.Pairwise fun s t => s.start ≤ t.start) (start : Nat) :
    ((insertSpan s sorted).filter fun t => t.start = start) =
      (sorted ++ [s]).filter fun t => t.start = start := by
  induction sorted with
  | nil => rfl
  | cons first rest ih =>
    obtain ⟨hFirst, hRest⟩ := List.pairwise_cons.mp h
    rw [insertSpan]
    split
    · rename_i hBefore
      by_cases hStart : s.start = start
      · -- All the others start behind it.
        have hNone : ((first :: rest).filter fun t => t.start = start) = [] := by
          refine List.filter_eq_nil_iff.mpr fun t ht => ?_
          have hBehind : first.start ≤ t.start := by
            rcases List.mem_cons.mp ht with rfl | ht
            · exact Nat.le_refl _
            · exact hFirst t ht
          simp only [decide_eq_true_eq]
          omega
        rw [List.filter_append, hNone, List.filter_cons, hNone, List.nil_append]
        simp [hStart]
      · simp [List.filter_append, List.filter_cons, hStart]
    · rw [List.filter_cons, ih hRest, List.cons_append, List.filter_cons]

/-- The spans that were taken so far stay in order when the next one is inserted. -/
theorem InOrder.insertSpan {taken sorted : List Span} (h : InOrder taken sorted) (s : Span) :
    InOrder (taken ++ [s]) (insertSpan s sorted) where
  increasing := pairwise_insertSpan s h.increasing
  stable start := by
    rw [filter_insertSpan s h.increasing, List.filter_append, List.filter_append, h.stable]

theorem inOrder_sortSpans (spans : List Span) : InOrder spans (sortSpans spans) := by
  have hFold : ∀ taken sorted, InOrder taken sorted →
      InOrder (taken ++ spans) (spans.foldl (fun sorted s => insertSpan s sorted) sorted) := by
    induction spans with
    | nil => simp
    | cons s spans ih =>
      intro taken sorted h
      rw [List.append_cons, List.foldl_cons]
      exact ih _ _ (h.insertSpan s)
  exact hFold [] [] ⟨List.Pairwise.nil, fun _ => rfl⟩

theorem mem_of_inOrder {spans sorted : List Span} (h : InOrder spans sorted) {s : Span}
    (hs : s ∈ sorted) : s ∈ spans := by
  have hFiltered : s ∈ sorted.filter fun t => t.start = s.start := by simp [hs]
  rw [h.stable] at hFiltered
  exact List.mem_of_mem_filter hFiltered

/-! ## One pass -/

/-- Spans that follow each other from an offset on: none begins before the one before it has ended, and
none ends before it begins. -/
def Follow (cursor : Nat) : List Span → Prop
  | [] => True
  | s :: rest => cursor ≤ s.start ∧ s.start ≤ s.stop ∧ Follow s.stop rest

/-- What the pass makes of spans that follow each other from an offset on. -/
theorem applySpans_eq_ok {text result : List Char} {cursor : Nat} {s : Span} {rest : List Span}
    (h : applySpans text cursor (s :: rest) = .ok result) :
    cursor ≤ s.start ∧ s.start ≤ s.stop ∧ ∃ tail, applySpans text s.stop rest = .ok tail ∧
      result = (text.drop cursor).take (s.start - cursor) ++ s.newText ++ tail := by
  rw [applySpans] at h
  split at h
  · cases h
  · rename_i hFollows
    obtain ⟨hStart, hStop⟩ := not_or.mp hFollows
    cases hTail : applySpans text s.stop rest with
    | error start =>
      rw [hTail] at h
      cases h
    | ok tail =>
      rw [hTail] at h
      cases h
      exact ⟨Nat.not_lt.mp hStart, Nat.not_lt.mp hStop, tail, rfl, rfl⟩

theorem follow_of_applySpans {text result : List Char} {cursor : Nat} {spans : List Span}
    (h : applySpans text cursor spans = .ok result) : Follow cursor spans := by
  induction spans generalizing cursor result with
  | nil => trivial
  | cons s rest ih =>
    obtain ⟨hStart, hStop, tail, hTail, -⟩ := applySpans_eq_ok h
    exact ⟨hStart, hStop, ih hTail⟩

/-- The pass gives what stands behind its offset when the spans are replaced from the last one to the
first: a span is not touched by those behind it. -/
theorem spliceAll_eq {text result : List Char} {cursor : Nat} {spans : List Span}
    (hInside : ∀ s ∈ spans, s.stop ≤ text.length)
    (h : applySpans text cursor spans = .ok result) :
    spliceAll text spans = text.take cursor ++ result := by
  induction spans generalizing cursor result with
  | nil =>
    cases h
    exact (List.take_append_drop cursor text).symm
  | cons s rest ih =>
    obtain ⟨hStart, hStop, tail, hTail, rfl⟩ := applySpans_eq_ok h
    have hEnd : s.stop ≤ text.length := hInside s List.mem_cons_self
    have hLength : (text.take s.stop).length = s.stop := List.length_take_of_le hEnd
    have hFront : (text.take s.stop ++ tail).take s.start = text.take s.start := by
      rw [List.take_append_of_le_length (by omega), List.take_take, Nat.min_eq_left hStop]
    have hBack : (text.take s.stop ++ tail).drop s.stop = tail := by
      rw [List.drop_append_of_le_length (by omega), List.drop_eq_nil_of_le (by omega),
        List.nil_append]
    have hGap : text.take cursor ++ (text.drop cursor).take (s.start - cursor) =
        text.take s.start := by
      rw [← List.take_add, Nat.add_sub_cancel' hStart]
    rw [spliceAll, ih (fun t ht => hInside t (List.mem_cons_of_mem _ ht)) hTail, splice, hFront,
      hBack, ← hGap]
    simp only [List.append_assoc]

/-! ## What is kept and what is put in -/

/-- Characters with their offsets, without those that a span covers. -/
def uncovered (spans : List Span) (chars : List (Char × Nat)) : List Char :=
  (chars.filter fun c => ∀ s ∈ spans, ¬ (s.start ≤ c.2 ∧ c.2 < s.stop)).map Prod.fst

/-- The characters of a text that no span covers. -/
def outside (spans : List Span) (text : List Char) : List Char :=
  uncovered spans text.zipIdx

/-- Texts were put into a text that is kept, each once and in their order. -/
inductive Inserted : List (List Char) → List Char → List Char → Prop where
  | nil (kept : List Char) : Inserted [] kept kept
  | cons (piece newText : List Char) {newTexts : List (List Char)} {kept result : List Char}
      (h : Inserted newTexts kept result) :
      Inserted (newText :: newTexts) (piece ++ kept) (piece ++ newText ++ result)

theorem uncovered_append (spans : List Span) (first second : List (Char × Nat)) :
    uncovered spans (first ++ second) = uncovered spans first ++ uncovered spans second := by
  simp [uncovered]

/-- Spans that follow each other from an offset on cover nothing before it. -/
theorem Follow.le_start {cursor : Nat} {spans : List Span} (h : Follow cursor spans) :
    ∀ s ∈ spans, cursor ≤ s.start := by
  induction spans generalizing cursor with
  | nil => simp
  | cons s rest ih =>
    obtain ⟨hStart, hStop, hRest⟩ := h
    intro t ht
    rcases List.mem_cons.mp ht with rfl | ht
    · exact hStart
    · exact Nat.le_trans hStart (Nat.le_trans hStop (ih hRest t ht))

/-- The characters of a text from an offset on, with their offsets, in two parts. -/
theorem zipIdx_drop {text : List Char} {first last : Nat} (h : first ≤ last)
    (hInside : last ≤ text.length) :
    (text.drop first).zipIdx first =
      ((text.drop first).take (last - first)).zipIdx first ++ (text.drop last).zipIdx last := by
  have hSplit : text.drop first = (text.drop first).take (last - first) ++ text.drop last := by
    conv_lhs => rw [← List.take_append_drop (last - first) (text.drop first), List.drop_drop,
      Nat.add_sub_cancel' h]
  have hLength : ((text.drop first).take (last - first)).length = last - first :=
    List.length_take_of_le (by rw [List.length_drop]; omega)
  conv_lhs => rw [hSplit]
  rw [List.zipIdx_append, hLength, Nat.add_sub_cancel' h]

theorem offset_of_mem {text : List Char} {first last : Nat} {c : Char × Nat}
    (h : c ∈ ((text.drop first).take (last - first)).zipIdx first) : first ≤ c.2 ∧ c.2 < last := by
  obtain ⟨c, i⟩ := c
  have hIndex := List.mem_zipIdx h
  have hLength := List.length_take_le (last - first) (text.drop first)
  omega

/-- What the first of several spans leaves of the text from an offset on: all before it, nothing in it, and
behind it what the other spans leave. -/
theorem uncovered_drop_cons {text : List Char} {cursor : Nat} {s : Span} {rest : List Span}
    (h : Follow cursor (s :: rest)) (hInside : s.stop ≤ text.length) :
    uncovered (s :: rest) ((text.drop cursor).zipIdx cursor) =
      (text.drop cursor).take (s.start - cursor) ++
        uncovered rest ((text.drop s.stop).zipIdx s.stop) := by
  obtain ⟨hStart, hStop, hRest⟩ := h
  have hBehind := hRest.le_start
  have hBefore : uncovered (s :: rest)
      (((text.drop cursor).take (s.start - cursor)).zipIdx cursor) =
        (text.drop cursor).take (s.start - cursor) := by
    unfold uncovered
    rw [List.filter_eq_self.mpr, List.zipIdx_map_fst]
    intro c hc
    have hOffset := offset_of_mem hc
    refine decide_eq_true fun t ht hCovers => ?_
    rcases List.mem_cons.mp ht with rfl | ht
    · omega
    · have := hBehind t ht
      omega
  have hWithin : uncovered (s :: rest)
      (((text.drop s.start).take (s.stop - s.start)).zipIdx s.start) = [] := by
    unfold uncovered
    rw [List.filter_eq_nil_iff.mpr, List.map_nil]
    intro c hc hFree
    exact of_decide_eq_true hFree s List.mem_cons_self (offset_of_mem hc)
  have hAfter : uncovered (s :: rest) ((text.drop s.stop).zipIdx s.stop) =
      uncovered rest ((text.drop s.stop).zipIdx s.stop) := by
    unfold uncovered
    refine congrArg _ (List.filter_congr fun c hc => decide_eq_decide.mpr ?_)
    obtain ⟨c, i⟩ := c
    have hOffset := (List.mem_zipIdx hc).1
    rw [List.forall_mem_cons]
    exact and_iff_right fun hCovers => Nat.not_lt.mpr hOffset hCovers.2
  rw [zipIdx_drop hStart (Nat.le_trans hStop hInside), zipIdx_drop hStop hInside, uncovered_append,
    uncovered_append, hBefore, hWithin, hAfter, List.nil_append]

theorem inserted_of_applySpans {text result : List Char} {cursor : Nat} {spans : List Span}
    (hInside : ∀ s ∈ spans, s.stop ≤ text.length)
    (h : applySpans text cursor spans = .ok result) :
    Inserted (spans.map Span.newText) (uncovered spans ((text.drop cursor).zipIdx cursor)) result := by
  induction spans generalizing cursor result with
  | nil =>
    cases h
    have hAll : uncovered [] ((text.drop cursor).zipIdx cursor) = text.drop cursor := by
      simp [uncovered]
    rw [hAll]
    exact .nil _
  | cons s rest ih =>
    have hFollow := follow_of_applySpans h
    obtain ⟨-, -, tail, hTail, rfl⟩ := applySpans_eq_ok h
    rw [uncovered_drop_cons hFollow (hInside s List.mem_cons_self)]
    exact .cons _ _ (ih (fun t ht => hInside t (List.mem_cons_of_mem _ ht)) hTail)

/-- **Edits are one substitution.** When edits were applied, the result is the text in which their spans,
in the order of the starts and for one start in the order of the list, were replaced one after the other
from the last one to the first, each at its offsets in the text before all edits. It is what no span covers
with the new texts put in, each once and in that order. -/
theorem applyEdits_substitutes {text result : List Char} {edits : List TextEdit}
    (h : applyEdits text edits = .ok result) :
    ∃ sorted, InOrder (edits.map (Span.ofEdit text)) sorted ∧ result = spliceAll text sorted ∧
      Inserted (sorted.map Span.newText) (outside sorted text) result := by
  have hSorted := inOrder_sortSpans (edits.map (Span.ofEdit text))
  have hInside : ∀ s ∈ sortSpans (edits.map (Span.ofEdit text)), s.stop ≤ text.length := by
    intro s hs
    obtain ⟨e, -, rfl⟩ := List.mem_map.mp (mem_of_inOrder hSorted hs)
    exact offsetAt_le_length text e.range.stop
  have hApplied : applySpans text 0 (sortSpans (edits.map (Span.ofEdit text))) = .ok result := by
    unfold applyEdits at h
    cases hPass : applySpans text 0 (sortSpans (edits.map (Span.ofEdit text))) with
    | error start =>
      rw [hPass] at h
      cases h
    | ok applied =>
      rw [hPass] at h
      cases h
      rfl
  refine ⟨_, hSorted, ?_, inserted_of_applySpans hInside hApplied⟩
  rw [spliceAll_eq hInside hApplied]
  rfl

/-- A deletion, two insertions and a replacement that touch each other behind a character of two units;
the list has them out of order. -/
def touchingEdits : List TextEdit :=
  [⟨⟨⟨1, 1⟩, ⟨1, 1⟩⟩, "?"⟩, ⟨⟨⟨0, 3⟩, ⟨0, 3⟩⟩, "1"⟩, ⟨⟨⟨0, 3⟩, ⟨0, 3⟩⟩, "2"⟩,
    ⟨⟨⟨0, 3⟩, ⟨1, 0⟩⟩, "!"⟩, ⟨⟨⟨0, 1⟩, ⟨0, 3⟩⟩, ""⟩]

theorem applyEdits_substitutes_touching :
    applyEdits "a😀\nbc".toList touchingEdits = .ok "a12!b?c".toList ∧
      ∃ sorted, InOrder (touchingEdits.map (Span.ofEdit "a😀\nbc".toList)) sorted ∧
        "a12!b?c".toList = spliceAll "a😀\nbc".toList sorted ∧
        Inserted (sorted.map Span.newText) (outside sorted "a😀\nbc".toList) "a12!b?c".toList :=
  ⟨rfl, applyEdits_substitutes rfl⟩

end ExtensionHost.Document
