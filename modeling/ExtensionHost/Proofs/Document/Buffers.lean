import ExtensionHost.Document.Buffer
import ExtensionHost.Proofs.Text.Boundaries

/-!
# Changes of a document

A document is kept as bytes, and a change of it is told in characters. Every change of every sequence of
them makes of the characters what its extent says, or fails and leaves the document as it was; the bytes
are cut between characters only. `Splices` says what one change does, `edits_splice` that all changes of a
sequence do it.
-/

namespace ExtensionHost.Buffer

/-- What is put in the place of an extent. -/
structure Change where
  extent : Extent
  replacement : List Char

/-- An extent is within a text. -/
def Within (e : Extent) (text : List Char) : Prop := e.start ≤ e.stop ∧ e.stop ≤ text.length

/-- The text after a change: what is before its extent, what is put there, and what is behind it. -/
def spliced (text : List Char) (change : Change) : List Char :=
  text.take change.extent.start ++ change.replacement ++ text.drop change.extent.stop

/-- A change of the bytes of a text: both ends of its extent have byte offsets, these are between
characters, and the bytes from one to the other are replaced. -/
def ReplacesBytes (text : List Char) (change : Change) (newText : List Char) : Prop :=
  ∃ start stop, Utf8.byteOffset? text change.extent.start = some start ∧
    Utf8.byteOffset? text change.extent.stop = some stop ∧ start ≤ stop ∧
    Utf8.IsBoundary (Utf8.encode text) start ∧ Utf8.IsBoundary (Utf8.encode text) stop ∧
    Utf8.encode newText =
      (Utf8.encode text).take start ++ Utf8.encode change.replacement ++ (Utf8.encode text).drop stop

/-- What a change makes of a document: one within the text is made and counted, any other one fails and
changes nothing. -/
inductive Splices (b : Buffer) (change : Change) : Except HostError Unit → Buffer → Prop
  | done : Within change.extent b.text → ReplacesBytes b.text change (spliced b.text change) →
      Splices b change (.ok ()) { b with text := spliced b.text change, version := b.version + 1 }
  | rejected : ¬ Within change.extent b.text →
      Splices b change (.error (outOfBounds change.extent)) b

/-- What changes make of a document one after the other. -/
inductive SplicesAll : Buffer → List Change → List (Except HostError Unit) → Buffer → Prop
  | nil (b : Buffer) : SplicesAll b [] [] b
  | cons {b next last : Buffer} {change : Change} {changes : List Change}
      {outcome : Except HostError Unit} {outcomes : List (Except HostError Unit)} :
      Splices b change outcome next → SplicesAll next changes outcomes last →
        SplicesAll b (change :: changes) (outcome :: outcomes) last

/-- Makes changes one after the other, with the outcome of each. There is nothing as soon as the bytes of
the text cannot be cut where a change would. -/
def editAll? : Buffer → List Change → Option (Buffer × List (Except HostError Unit))
  | b, [] => some (b, [])
  | b, change :: changes =>
    match b.edit? change.extent change.replacement with
    | none => none
    | some (.ok next) => (editAll? next changes).map fun last => (last.1, .ok () :: last.2)
    | some (.error e) => (editAll? b changes).map fun last => (last.1, .error e :: last.2)

/-! ## One change -/

theorem replacesBytes_spliced {text : List Char} {change : Change} (h : Within change.extent text) :
    ReplacesBytes text change (spliced text change) := by
  obtain ⟨hOrder, hStop⟩ := h
  have hStart : change.extent.start ≤ text.length := Nat.le_trans hOrder hStop
  have hCut : ∀ index, Utf8.IsBoundary (Utf8.encode text) (Utf8.size (text.take index)) := by
    intro index
    rw [← Utf8.isSome_cut?, Utf8.cut?_take, Option.isSome_some]
  refine ⟨Utf8.size (text.take change.extent.start), Utf8.size (text.take change.extent.stop), ?_, ?_, ?_,
    hCut _, hCut _, ?_⟩
  · rw [Utf8.byteOffset?_eq, if_pos hStart]
  · rw [Utf8.byteOffset?_eq, if_pos hStop]
  · exact (Utf8.size_take_le_iff hStart hStop).mpr hOrder
  · exact Utf8.encode_of_replaceBytes? (Utf8.replaceBytes?_take hOrder hStop change.replacement)

/-- A change is made, or it fails and is none; that the bytes cannot be cut does not occur. -/
theorem splices_edit? (b : Buffer) (change : Change) :
    (∃ next, b.edit? change.extent change.replacement = some (.ok next) ∧
      Splices b change (.ok ()) next) ∨
    ∃ e, b.edit? change.extent change.replacement = some (.error e) ∧
      Splices b change (.error e) b := by
  rw [edit?_eq]
  by_cases h : Within change.extent b.text
  · exact .inl ⟨_, congrArg some (if_pos h), .done h (replacesBytes_spliced h)⟩
  · exact .inr ⟨_, congrArg some (if_neg h), .rejected h⟩

/-! ## Parts of the text -/

theorem take_drop_eq_filterMap (text : List Char) (start count : Nat) :
    (text.drop start).take count = (List.range' start count).filterMap (text[·]?) := by
  induction count generalizing start with
  | zero => simp
  | succ count ih =>
    rw [List.range'_succ, List.filterMap_cons, ← ih]
    by_cases hInside : start < text.length
    · rw [List.drop_eq_getElem_cons hInside, List.take_succ_cons, List.getElem?_eq_getElem hInside]
    · have hBehind : text.length ≤ start := Nat.le_of_not_lt hInside
      rw [List.drop_eq_nil_of_le hBehind, List.drop_eq_nil_of_le (Nat.le_succ_of_le hBehind),
        List.getElem?_eq_none hBehind, List.take_nil, List.take_nil]

/-! ## All changes -/

/-- A sequence of changes is made to its end, each change as `Splices` says. -/
theorem exists_editAll? (b : Buffer) (changes : List Change) :
    ∃ last outcomes, editAll? b changes = some (last, outcomes) ∧
      SplicesAll b changes outcomes last := by
  induction changes generalizing b with
  | nil => exact ⟨b, [], rfl, .nil b⟩
  | cons change changes ih =>
    rcases splices_edit? b change with ⟨next, hEdit, hSplices⟩ | ⟨e, hEdit, hSplices⟩
    · obtain ⟨last, outcomes, hAll, hRest⟩ := ih next
      refine ⟨last, .ok () :: outcomes, ?_, .cons hSplices hRest⟩
      simp only [editAll?, hEdit, hAll, Option.map_some]
    · obtain ⟨last, outcomes, hAll, hRest⟩ := ih b
      refine ⟨last, .error e :: outcomes, ?_, .cons hSplices hRest⟩
      simp only [editAll?, hEdit, hAll, Option.map_some]

/-- **Changes replace characters**, whatever texts, extents and replacements there are. A sequence of them
is made to its end: the bytes are never cut within a character. Each change within the text replaces the
characters of its extent, and the bytes of these, and is counted; each other one fails and leaves the
document as it was. Afterwards, as before, the text of an extent is that of its characters that there are,
and there is none if the extent ends where it starts or before. -/
theorem edits_splice (b : Buffer) (changes : List Change) :
    ∃ last outcomes, editAll? b changes = some (last, outcomes) ∧ SplicesAll b changes outcomes last ∧
      (∀ change : Change, last.edit? change.extent change.replacement =
        some (last.edit change.extent change.replacement)) ∧
      ∀ e : Extent, last.slice e =
          (List.range' e.start (e.stop - e.start)).filterMap (last.text[·]?) ∧
        (e.stop ≤ e.start → last.slice e = []) := by
  obtain ⟨last, outcomes, hAll, hSplices⟩ := exists_editAll? b changes
  refine ⟨last, outcomes, hAll, hSplices, fun change => ?_, fun e => ⟨?_, fun hEmpty => ?_⟩⟩
  · rw [edit?_eq, edit_eq]
  · exact take_drop_eq_filterMap last.text e.start (e.stop - e.start)
  · rw [slice, Extent.length, Nat.sub_eq_zero_of_le hEmpty, List.take_zero]

end ExtensionHost.Buffer
