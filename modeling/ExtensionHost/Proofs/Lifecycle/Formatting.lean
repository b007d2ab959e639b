import ExtensionHost.Proofs.Lifecycle.Documents
import ExtensionHost.Proofs.Lifecycle.Runs

/-!
# Documents that change while they are formatted

A handler that formats takes all of a document, asks outside, and replaces what it took when the answer
is there. Others may change the document meanwhile; nothing compares the versions. `NoStaleOverwrite`
states that a replacement succeeds only when the document is still the text that was taken, and it fails:
the replacement succeeds whenever the document is at least as long. `replaced_reply` says what the
answer does in every run: it replaces as many characters at the front of the document as were taken and
keeps the others, or it leaves the document as the others made it.
-/

namespace ExtensionHost

/-- The text that the reply to a formatting puts into the document, if it puts one there: what the
formatter wrote, or what the edits of the language server make of the text, when that is another text. -/
def Wait.newText? : (w : Wait) → w.Reply → Option (List Char)
  | .formatter _ _, reply => (Session.formattedText reply).toOption.map String.toList
  | .serverEdits f, reply =>
    (Session.editedText f.text reply).toOption.filter fun formatted => formatted ≠ f.text
  | _, _ => none

namespace Session

/-! ## Asking -/

/-- A handler has just asked for a formatting: it took all of the document, and the last event is the
question. -/
def HasAsked (x : Surroundings) (s : Session) : Wait → Prop
  | .formatter mix f =>
    f = s.wholeDocument f.editor ∧
      s.events.getLast? = some (.process (formatterRequest mix x.root f.text))
  | .serverEdits f =>
    f = s.wholeDocument f.editor ∧
      ∃ client, s.events.getLast? = some (.request client Request.formatting
        (Request.formattingParams (s.buffer f.editor).uri {}))
  | _ => True

theorem hasAsked_of_formatting? {x : Surroundings} {s : Session} {w : Wait}
    (hw : w.formatting? = none) : s.HasAsked x w := by
  cases w <;> first | exact True.intro | cases hw

theorem HasAsked.whole {x : Surroundings} {s : Session} {w : Wait} {f : Formatting}
    (h : s.HasAsked x w) (hf : w.formatting? = some f) : f = s.wholeDocument f.editor := by
  cases w with
  | formatter mix f' =>
    cases hf
    exact h.1
  | serverEdits f' =>
    cases hf
    exact h.1
  | _ => cases hf

theorem slice_fullExtent (b : Buffer) : b.slice b.fullExtent = b.text := by
  simp [Buffer.slice, Buffer.fullExtent, Extent.length]

/-- All of a document is taken from its start to its end. -/
theorem extent_wholeDocument (s : Session) (editor : Nat) :
    (s.wholeDocument editor).extent = ⟨0, (s.wholeDocument editor).text.length⟩ ∧
      (s.wholeDocument editor).text = (s.buffer editor).text := by
  unfold wholeDocument
  dsimp only
  rw [slice_fullExtent]
  exact ⟨rfl, rfl⟩

theorem formatting?_of_begins {k : Core} {r : Core × Option Wait} (hBegins : k.Begins r) :
    ∀ w ∈ r.2, w.formatting? = none := by
  rcases hBegins with rfl | rfl
  · exact fun _ hw => nomatch hw
  · intro w hw
    cases hw
    rfl

theorem formatting?_of_restarts {k : Core} {r : Core × Option Wait} (hRestarts : k.Restarts r) :
    ∀ w ∈ r.2, w.formatting? = none := by
  rcases hRestarts with ⟨-, hBegins⟩ | ⟨client, -, rfl⟩
  · exact formatting?_of_begins hBegins
  · intro w hw
    cases hw
    rfl

theorem hasAsked_runHandler (x : Surroundings) (s : Session) (h : Handler) (editor : Nat) :
    ∀ w ∈ (s.runHandler x h editor).2, (s.runHandler x h editor).1.HasAsked x w := by
  cases h with
  | other number =>
    intro w hw
    cases hw
    exact True.intro
  | own role =>
    unfold runHandler
    dsimp only
    split
    · cases role with
      | formatDocument =>
        dsimp only
        unfold askFormatter
        split
        · exact fun _ hw => by cases hw
        · intro w hw
          cases hw
          refine ⟨rfl, ?_⟩
          simp [record]
      | formatWithServer =>
        dsimp only
        unfold askServerToFormat
        split
        · exact fun _ hw => by cases hw
        · rename_i client _
          intro w hw
          cases hw
          refine ⟨rfl, client, ?_⟩
          simp [record]
          rfl
      | findReferences =>
        intro w hw
        refine hasAsked_of_formatting? ?_
        dsimp only at hw
        split at hw
        · cases hw
          rfl
        · cases hw
      | restart =>
        intro w hw
        exact hasAsked_of_formatting? (formatting?_of_restarts (restarts_beginRestart x s) w hw)
      | watchEditor => exact fun _ hw => by cases hw
    · exact fun _ hw => by cases hw

theorem hasAsked_suspend {x : Surroundings} {s : Session} {w : Wait} (h : s.HasAsked x w)
    (rest : Rest) : (s.suspend w rest).1.HasAsked x w := by
  unfold suspend
  dsimp only
  split
  · cases w <;> exact h
  · exact h

/-- What holds of each wait that an operation has just come to: each handler that waits sees to it, it says
nothing of waits for anything but a formatting, and counting the operation does not matter to it. -/
structure Established (x : Surroundings) (J : Session → Wait → Prop) : Prop where
  other : ∀ {s : Session} {w : Wait}, w.formatting? = none → J s w
  handler : ∀ (s : Session) (h : Handler) (editor : Nat), ∀ w ∈ (s.runHandler x h editor).2,
    J (s.runHandler x h editor).1 w
  suspend : ∀ {s : Session} {w : Wait}, J s w → ∀ rest, J (s.suspend w rest).1 w

theorem established_hasAsked (x : Surroundings) : Established x fun s w => s.HasAsked x w :=
  ⟨hasAsked_of_formatting?, hasAsked_runHandler x, hasAsked_suspend⟩

section

variable {x : Surroundings} {J : Session → Wait → Prop}

theorem Established.runHandlers (hJ : Established x J) (s : Session) (editor : Nat)
    (handlers : List Handler) :
    ∀ r ∈ (s.runHandlers x editor handlers).2, J (s.runHandlers x editor handlers).1 r.1 := by
  induction handlers generalizing s with
  | nil => exact fun _ hr => nomatch hr
  | cons h rest ih =>
    have hStep := hJ.handler s h editor
    unfold Session.runHandlers
    rcases hRun : s.runHandler x h editor with ⟨s', _ | w⟩
    · exact ih s'
    · rw [hRun] at hStep
      intro r hr
      cases hr
      exact hStep w rfl

theorem Established.goOn (hJ : Established x J) (s : Session) (rest : Rest) :
    ∀ w ∈ (s.goOn x rest).2.wait?, J (s.goOn x rest).1 w := by
  have hGoes := goesOn_goOn x s rest
  generalize s.goOn x rest = r at hGoes ⊢
  cases hGoes with
  | @suspended editor handlers rest' s' w next hRun =>
    have hLast := hJ.runHandlers s editor handlers
    rw [hRun] at hLast
    intro w' hw'
    cases hw'
    exact hJ.suspend (hLast (w, rest') rfl) next
  | _ => exact fun _ hw => nomatch hw

theorem Established.settle (hJ : Established x J) {r : Session × Option Wait} (hr : ∀ w ∈ r.2, J r.1 w)
    (rest : Rest) : ∀ w ∈ (Session.settle x r rest).2.wait?, J (Session.settle x r rest).1 w := by
  obtain ⟨s, _ | w⟩ := r
  · exact hJ.goOn s rest
  · intro w' hw'
    cases hw'
    exact hJ.suspend (hr w rfl) rest

end

theorem formatting?_of_receives {k : Core} {w : Wait} {reply : w.Reply} {r : Core × Option Wait}
    (hReceives : k.Receives w reply r) : ∀ w' ∈ r.2, w'.formatting? = none := by
  have hEnd : ∀ (k : Core) (epoch : Nat) (well : Bool), ∀ w' ∈ (k.endStartup epoch well).2,
      w'.formatting? = none := by
    intro k epoch well w' hw'
    by_cases hEpoch : k.extension.epoch = epoch
    · rw [Core.endStartup_current hEpoch] at hw'
      cases hw'
    · rw [Core.endStartup_overtaken hEpoch] at hw'
      split at hw'
      · cases hw'
      · cases hw'
        rfl
  cases hReceives with
  | scriptsRefused | started | startFailed | startPanicked => exact hEnd _ _ _
  | scriptsExecutable =>
    intro w' hw'
    cases hw'
    rfl
  | restartStopped _ _ _ _ hBegins => exact formatting?_of_begins hBegins
  | promptChosen _ _ _ hBegins => exact formatting?_of_begins hBegins
  | _ => exact fun _ hw => nomatch hw

end Session

namespace Stage

theorem mem_after {waiting : List Suspended} {r : Session × Progress} {t : Suspended}
    (ht : t ∈ (after waiting r).waiting) : t ∈ waiting ∨ t.wait ∈ r.2.wait? := by
  obtain ⟨s, t' | r⟩ := r
  · rcases List.mem_append.mp ht with ht | ht
    · exact Or.inl ht
    · rw [List.mem_singleton.mp ht]
      exact Or.inr rfl
  · exact Or.inl ht

section

variable {x : Surroundings} {J : Session → Wait → Prop}

theorem established_after_settle (hJ : Session.Established x J) {waiting : List Suspended} {rest : Rest}
    {r : Session × Option Wait} (hr : ∀ w ∈ r.2, J r.1 w) {t : Suspended}
    (ht : t ∈ (after waiting (Session.settle x r rest)).waiting) :
    t ∈ waiting ∨ J (after waiting (Session.settle x r rest)).session t.wait := by
  refine (mem_after ht).imp_right ?_
  intro hw
  rw [session_after]
  exact hJ.settle hr rest t.wait hw

/-- An operation that waits after a move waited before, or what is established for each wait holds. -/
theorem established_play (hJ : Session.Established x J) (g : Stage) (m : Move) {t : Suspended}
    (ht : t ∈ (g.play x m).waiting) : t ∈ g.waiting ∨ J (g.play x m).session t.wait := by
  have hQuiet : ∀ {r : Session × Option Wait}, (∀ w ∈ (Session.coreOf r).2, w.formatting? = none) →
      ∀ w ∈ r.2, J r.1 w := fun h w hw => hJ.other (h w hw)
  have hNone : ∀ {s : Session}, ∀ w ∈ ((s, none) : Session × Option Wait).2, J s w :=
    fun _ hw => nomatch hw
  cases m with
  | activate =>
    refine established_after_settle hJ (hQuiet ?_) ht
    rcases Session.activates_beginActivate x g.session with hr | ⟨-, _, _, hBegins⟩
    · rw [hr]
      exact fun _ hw => nomatch hw
    · exact Session.formatting?_of_begins hBegins
  | deactivate =>
    refine established_after_settle hJ (hQuiet ?_) ht
    rw [Session.coreOf_beginDeactivate]
    unfold Core.deactivated
    split
    · exact fun _ hw => nomatch hw
    · intro w hw
      cases hw
      rfl
  | restart =>
    exact established_after_settle hJ
      (hQuiet (Session.formatting?_of_restarts (Session.restarts_beginRestart x g.session))) ht
  | invoke hub id editor =>
    unfold play Session.invoke at ht ⊢
    dsimp only at ht ⊢
    split at ht
    · exact Or.inl ht
    · exact established_after_settle hJ (hJ.handler g.session _ editor) ht
  | addEditor hub editor => exact established_after_settle hJ (r := (g.session, none)) hNone ht
  | save editor => exact established_after_settle hJ (r := (g.session, none)) hNone ht
  | prompt =>
    rcases play_prompt x g with ⟨-, hPlay⟩ | ⟨reason, rest, -, r, hPlay, hr⟩
    · rw [hPlay] at ht
      exact Or.inl ht
    · rw [hPlay] at ht ⊢
      refine established_after_settle hJ (hQuiet ?_) ht
      rw [hr]
      intro w hw
      cases hw
      rfl
  | reply number answer =>
    rcases play_reply x g number answer with ⟨-, hPlay⟩ | ⟨t', -, r, hPlay, hReceives⟩
    · rw [hPlay] at ht
      exact Or.inl ht
    · rw [hPlay] at ht ⊢
      exact (established_after_settle hJ (hQuiet (Session.formatting?_of_receives hReceives)) ht).imp_left
        List.mem_of_mem_eraseIdx
  | _ => exact Or.inl ht

end

/-- Every operation that waits has asked at some stage of the run. -/
theorem hasAsked_playAll (x : Surroundings) (s : Session) (moves : List Move) {t : Suspended}
    (ht : t ∈ (playAll x ⟨s, []⟩ moves).waiting) :
    ∃ before later, moves = before ++ later ∧ t ∈ (playAll x ⟨s, []⟩ before).waiting ∧
      (playAll x ⟨s, []⟩ before).session.HasAsked x t.wait := by
  induction moves using List.reverseRecOn with
  | nil => cases ht
  | append_singleton moves m ih =>
    have hPlay := ht
    rw [playAll_concat] at hPlay
    rcases established_play (Session.established_hasAsked x) _ m hPlay with hWaiting | hAsked
    · obtain ⟨before, later, rfl, hBefore⟩ := ih hWaiting
      exact ⟨before, later ++ [m], List.append_assoc before later [m], hBefore⟩
    · refine ⟨moves ++ [m], [], (List.append_nil _).symm, ht, ?_⟩
      rw [playAll_concat]
      exact hAsked

end Stage

/-! ## Replacing what was taken -/

namespace Session

theorem documents_setBuffer (s : Session) (editor : Nat) (b : Buffer) :
    (s.setBuffer editor b).documents = s.documents.set editor b := by
  apply List.ext_getElem?
  intro i
  simp only [documents, setBuffer, List.getElem?_map, List.getElem?_modify, List.getElem?_set,
    List.length_map]
  by_cases hi : editor = i
  · subst hi
    cases h : s.editors[editor]? with
    | none => simp [List.getElem?_eq_none_iff.mp h]
    | some e => simp [(List.getElem?_eq_some_iff.mp h).1]
  · simp [hi]

theorem splice_front (text : List Char) (stop : Nat) (replacement : List Char) :
    Document.splice text ⟨0, stop, replacement⟩ = replacement ++ text.drop stop := by
  simp [Document.splice]

/-- What an edit of the characters before an offset leaves: it succeeds when the document has them. -/
theorem edit_front (s : Session) (editor stop : Nat) (replacement : List Char) :
    s.edit editor ⟨0, stop⟩ replacement =
      if stop ≤ (s.buffer editor).text.length then
        (s.setBuffer editor { s.buffer editor with
          text := replacement ++ (s.buffer editor).text.drop stop
          version := (s.buffer editor).version + 1 }, .ok ())
      else (s, .error (Buffer.outOfBounds ⟨0, stop⟩)) := by
  rw [edit, Buffer.edit_eq]
  by_cases hStop : stop ≤ (s.buffer editor).text.length
  · simp only [Nat.zero_le, hStop, and_self, if_true, splice_front]
  · simp only [hStop, and_false, if_false]

theorem buffer_setBuffer_self (s : Session) {editor : Nat} (hEditor : editor < s.editors.length)
    (b : Buffer) : (s.setBuffer editor b).buffer editor = b := by
  rw [buffer_eq_documents, documents_setBuffer, List.getElem?_set_self]
  · rfl
  · rw [documents, List.length_map]
    exact hEditor

theorem buffer_setBuffer_ne (s : Session) {editor other : Nat} (hOther : other ≠ editor)
    (b : Buffer) : (s.setBuffer editor b).buffer other = s.buffer other := by
  rw [buffer_eq_documents, buffer_eq_documents, documents_setBuffer,
    List.getElem?_set_ne (Ne.symm hOther)]

theorem documents_edit (s : Session) (editor : Nat) (e : Extent) (text : List Char) :
    (s.edit editor e text).1.documents =
      match (s.buffer editor).edit e text with
      | .ok b => s.documents.set editor b
      | .error _ => s.documents := by
  unfold edit
  cases (s.buffer editor).edit e text with
  | ok b => exact documents_setBuffer s editor b
  | error err => rfl

theorem documents_replaceText (s : Session) (editor : Nat) (e : Extent) (text : List Char) :
    (s.replaceText editor e text).documents = (s.edit editor e text).1.documents := by
  unfold replaceText
  split
  · rename_i s' h
    rw [h]
    rfl
  · rename_i s' err h
    rw [h]
    rfl

/-- The session after a text was put in place of what a formatting took, if there is a text. -/
def replaced (s : Session) (f : Formatting) : Option (List Char) → Session
  | some text => (s.edit f.editor f.extent text).1
  | none => s

/-- What a replacement leaves of the documents depends on the documents only. -/
theorem documents_replaced_congr {s s' : Session} (h : s'.documents = s.documents) (f : Formatting)
    (text : Option (List Char)) : (s'.replaced f text).documents = (s.replaced f text).documents := by
  cases text with
  | none => exact h
  | some text =>
    unfold replaced
    dsimp only
    rw [documents_edit, documents_edit, buffer_congr h, h]

theorem documents_applyFormatter (s : Session) (f : Formatting) (outcome : Outcome ProcessOutput) :
    (s.applyFormatter f outcome).documents =
      (s.replaced f ((formattedText outcome).toOption.map String.toList)).documents := by
  unfold applyFormatter
  cases formattedText outcome with
  | error e => rfl
  | ok formatted => exact documents_replaceText s f.editor f.extent formatted.toList

theorem documents_applyServerEdits (s : Session) (f : Formatting) (outcome : Outcome Json) :
    (s.applyServerEdits f outcome).documents =
      (s.replaced f
        ((editedText f.text outcome).toOption.filter fun formatted => formatted ≠ f.text)).documents := by
  unfold applyServerEdits
  cases editedText f.text outcome with
  | error e => rfl
  | ok formatted =>
    by_cases hSame : formatted = f.text
    · simp [hSame, replaced, Except.toOption, Option.filter]
    · simp [hSame, replaced, Except.toOption, Option.filter, documents_replaceText]

theorem documents_receive_formatting (x : Surroundings) (s : Session) {w : Wait} {f : Formatting}
    (hf : w.formatting? = some f) (reply : w.Reply) :
    (s.receive x w reply).1.documents = (s.replaced f (w.newText? reply)).documents := by
  cases w with
  | formatter mix f' =>
    cases hf
    exact documents_applyFormatter s f reply
  | serverEdits f' =>
    cases hf
    exact documents_applyServerEdits s f reply
  | _ => cases hf

end Session

namespace Stage

theorem documents_reply (x : Surroundings) (g : Stage) {number : Nat} {t : Suspended}
    (ht : g.waiting[number]? = some t) {f : Session.Formatting} (hf : t.wait.formatting? = some f)
    (answer : (w : Wait) → w.Reply) :
    (g.play x (.reply number answer)).session.documents =
      (g.session.replaced f (t.wait.newText? (answer t.wait))).documents := by
  unfold play
  dsimp only
  rw [ht]
  dsimp only
  rw [documents_after, Session.documents_resume,
    Session.documents_receive_formatting x _ hf]
  refine Session.documents_replaced_congr ?_ f _
  split <;> rfl

/-- What the answer to a formatting leaves of the documents: `g` is the stage before the answer, `g'`
the one after it, `new` the text that the answer puts into the document. -/
structure Replaced (g g' : Stage) (f : Session.Formatting) (new : Option (List Char)) : Prop where
  succeeds : ∀ formatted ∈ new,
    (g.session.edit f.editor f.extent formatted).2 = .ok () ↔
      f.text.length ≤ (g.session.buffer f.editor).text.length
  front : ∀ formatted ∈ new, f.text.length ≤ (g.session.buffer f.editor).text.length →
    g'.session.buffer f.editor =
      { g.session.buffer f.editor with
        text := formatted ++ (g.session.buffer f.editor).text.drop f.text.length
        version := (g.session.buffer f.editor).version + 1 }
  kept : (new = none ∨ (g.session.buffer f.editor).text.length < f.text.length) →
    g'.session.buffer f.editor = g.session.buffer f.editor
  others : ∀ other, other ≠ f.editor → g'.session.buffer other = g.session.buffer other

theorem replaced_of_documents {g g' : Stage} {f : Session.Formatting} {new : Option (List Char)}
    (hExtent : f.extent = ⟨0, f.text.length⟩) (hEditor : f.editor < g.session.editors.length)
    (h : g'.session.documents = (g.session.replaced f new).documents) : g.Replaced g' f new := by
  have hBuffer : ∀ editor, g'.session.buffer editor = (g.session.replaced f new).buffer editor :=
    fun editor => Session.buffer_congr h editor
  cases new with
  | none => exact ⟨nofun, nofun, fun _ => hBuffer _, fun other _ => hBuffer other⟩
  | some text =>
    simp only [Session.replaced, hExtent, Session.edit_front] at hBuffer
    refine ⟨?_, ?_, ?_, ?_⟩
    · intro formatted _
      rw [hExtent, Session.edit_front]
      split
      · rename_i hLength
        exact ⟨fun _ => hLength, fun _ => rfl⟩
      · rename_i hLength
        exact ⟨nofun, fun h => absurd h hLength⟩
    · intro formatted hFormatted hLength
      cases hFormatted
      rw [hBuffer, if_pos hLength]
      exact Session.buffer_setBuffer_self _ hEditor _
    · rintro (hNone | hLength)
      · cases hNone
      · rw [hBuffer, if_neg (Nat.not_le.mpr hLength)]
    · intro other hOther
      rw [hBuffer]
      split
      · exact Session.buffer_setBuffer_ne _ hOther _
      · rfl

/-- **What the answer to a formatting does.** In every run the operation that waits for a formatting took
all of the document at an earlier stage, when it asked. The answer then replaces as many characters at the
front of the document as were taken and keeps the others; that succeeds exactly when the document still
has as many. If it has fewer, or if the answer gives no new text, the document is left as the others made
it. No other document changes. -/
theorem replaced_reply (x : Surroundings) (s : Session) (moves : List Move) {number : Nat}
    {t : Suspended} {f : Session.Formatting}
    (ht : (playAll x ⟨s, []⟩ moves).waiting[number]? = some t)
    (hf : t.wait.formatting? = some f)
    (hEditor : f.editor < (playAll x ⟨s, []⟩ moves).session.editors.length)
    (answer : (w : Wait) → w.Reply) :
    (∃ before later, moves = before ++ later ∧ t ∈ (playAll x ⟨s, []⟩ before).waiting ∧
        (playAll x ⟨s, []⟩ before).session.HasAsked x t.wait ∧
        f.text = ((playAll x ⟨s, []⟩ before).session.buffer f.editor).text) ∧
      (playAll x ⟨s, []⟩ moves).Replaced (playAll x ⟨s, []⟩ (moves ++ [.reply number answer])) f
        (t.wait.newText? (answer t.wait)) := by
  obtain ⟨before, later, hMoves, hWaiting, hAsked⟩ :=
    hasAsked_playAll x s moves (List.mem_of_getElem? ht)
  have hWhole := hAsked.whole hf
  obtain ⟨hExtent, hText⟩ := Session.extent_wholeDocument
    (playAll x ⟨s, []⟩ before).session f.editor
  rw [← hWhole] at hExtent hText
  refine ⟨⟨before, later, hMoves, hWaiting, hAsked, hText⟩, ?_⟩
  rw [playAll_concat]
  exact replaced_of_documents hExtent hEditor (documents_reply x _ ht hf answer)

/-- A session with a formatter, a launch script and one document. -/
def oneDocument : Session :=
  { Session.scripted with
    workspaceSettings := [(Settings.mixPathKey, .string "mix")]
    editors := [{ buffer := { text := ['a', 'b'] } }] }

theorem fresh_oneDocument : oneDocument.Fresh := ⟨rfl, rfl, rfl, rfl, rfl, rfl⟩

/-- The formatter is asked for a document, which grows before the answer is there. -/
def grownMeanwhile : List Move :=
  [.activate, .invoke Session.ownHub Command.formatDocument 0, .edit 0 ⟨0, 2⟩ ['x', 'y', 'z']]

/-- What the formatter is asked for in that run. -/
def askedFor : Session.Formatting := ⟨0, ⟨0, 2⟩, ['a', 'b']⟩

/-- The formatter writes a text. -/
def formatted (text : String) : (w : Wait) → w.Reply
  | .formatter _ _ => Outcome.done { status := some 0, stdout := text }
  | w => w.goodReply

/-- The character that was added stays behind the formatted text. -/
theorem replaced_reply_grownMeanwhile :
    ((playAll .plain ⟨oneDocument, []⟩
      (grownMeanwhile ++ [.reply 1 (formatted "AB")])).session.buffer 0).text = ['A', 'B', 'z'] := by
  have hWaiting : (playAll .plain ⟨oneDocument, []⟩ grownMeanwhile).waiting[1]? =
      some ⟨.formatter "mix" askedFor, .nothing⟩ := by decide +kernel
  have hNow : (playAll .plain ⟨oneDocument, []⟩ grownMeanwhile).session.buffer 0 =
      { text := ['x', 'y', 'z'], version := 1 } := by decide +kernel
  obtain ⟨-, hReplaced⟩ := replaced_reply .plain oneDocument grownMeanwhile hWaiting rfl
    (by decide +kernel) (formatted "AB")
  have hFront := hReplaced.front ['A', 'B'] (by decide +kernel) (by decide +kernel)
  have hText := congrArg Buffer.text hFront
  rw [show askedFor.editor = 0 from rfl, hNow] at hText
  exact hText

/-- A replacement by the answer to a formatting succeeds only when the document is still the text that
was taken. -/
def NoStaleOverwrite : Prop :=
  ∀ (x : Surroundings) (s : Session), s.Fresh → ∀ (moves : List Move) (number : Nat) (t : Suspended)
    (f : Session.Formatting), (playAll x ⟨s, []⟩ moves).waiting[number]? = some t →
      t.wait.formatting? = some f → ∀ (answer : (w : Wait) → w.Reply) (formatted : List Char),
        t.wait.newText? (answer t.wait) = some formatted →
          ((playAll x ⟨s, []⟩ moves).session.edit f.editor f.extent formatted).2 = .ok () →
            ((playAll x ⟨s, []⟩ moves).session.buffer f.editor).text = f.text

theorem not_noStaleOverwrite : ¬ NoStaleOverwrite := by
  intro h
  have hSame := h .plain oneDocument fresh_oneDocument grownMeanwhile 1
    ⟨.formatter "mix" askedFor, .nothing⟩ askedFor (by decide +kernel) rfl (formatted "AB")
    ['A', 'B'] (by decide +kernel) (by decide +kernel)
  exact absurd hSame (by decide +kernel)

end Stage

end ExtensionHost
