import ExtensionHost.Proofs.Lifecycle.Formatting

/-!
# What the commands that format leave of a document

A command that formats has nobody to ask, and then it says so in one line, or it asks once and comes to a
verdict when the answer is there: a text takes the place of the document, the document has that text
already, or the formatting failed. `Session.Concludes` says what each verdict leaves of the documents and
of the console. `formatsOnce_invoke` joins the command, the others that move in between, and the answer.
-/

namespace ExtensionHost

/-! ## Verdicts -/

/-- What a formatting comes to: a text for the document, the text that the document has already, or a
failure. -/
inductive Verdict where
  | formatted (text : List Char)
  | same
  | failed
  deriving Repr, DecidableEq

namespace Verdict

/-- The verdict on what the formatter left behind. -/
def ofProgram : Outcome ProcessOutput → Verdict
  | .done output => if output.status = some 0 then .formatted output.stdout.toList else .failed
  | .failed _ | .panicked _ => .failed

/-- The verdict on what the language server answered about a text. -/
def ofServer (text : List Char) : Outcome Json → Verdict
  | .done answer =>
    match parseTextEdits answer >>= Document.applyEdits text with
    | .ok edited => if edited = text then .same else .formatted edited
    | .error _ => .failed
  | .failed _ | .panicked _ => .failed

/-- The document after a verdict. -/
def document (b : Buffer) : Verdict → Buffer
  | .formatted text => { b with text, version := b.version + 1 }
  | .same | .failed => b

/-- The line on the console that tells a verdict on a document. -/
def Tells (b : Buffer) : Verdict → Event → Prop
  | .formatted _, e => e = .log ("Formatted " ++ b.displayName)
  | .same, e => e = .log "Skipping... Document already formatted."
  | .failed, e => ∃ reason, e = .error ("Failed to format the document: " ++ reason)

end Verdict

/-- The verdict on the reply to a formatting. -/
def Wait.verdict : (w : Wait) → w.Reply → Verdict
  | .formatter _ _, reply => .ofProgram reply
  | .serverEdits f, reply => .ofServer f.text reply
  | _, _ => .failed

/-! ## Questions -/

namespace Role

/-- What a command that formats asks about a document and then waits for, if there is someone to ask:
the formatter for a text, or the language server for edits. -/
def question? (x : Surroundings) (s : Session) (editor : Nat) : Role → Option (Event × Wait)
  | .formatDocument =>
    s.extension.preferences.mixPath?.map fun mix =>
      (.process (Session.formatterRequest mix x.root (s.buffer editor).text),
        .formatter mix ⟨editor, (s.buffer editor).fullExtent, (s.buffer editor).text⟩)
  | .formatWithServer =>
    s.extension.slot.map fun client =>
      (.request client Request.formatting (Request.formattingParams (s.buffer editor).uri {}),
        .serverEdits ⟨editor, (s.buffer editor).fullExtent, (s.buffer editor).text⟩)
  | _ => none

/-- Whether a role is to format a document when its command is run. -/
def Formats : Role → Prop
  | .formatDocument | .formatWithServer => True
  | _ => False

/-- What a command that formats says when there is nobody to ask. -/
def skipLine : Role → String
  | .formatDocument => "Skipping... No formatter set."
  | _ => "Skipping... Language server is not running."

end Role

namespace Session

/-- A command that formats asks its question, or skips the document when it has none. -/
theorem runHandler_formats (x : Surroundings) (s : Session) (editor : Nat) {role : Role}
    (hRole : role.Formats) (hAlive : s.alive = true) :
    s.runHandler x (.own role) editor =
      match role.question? x s editor with
      | none => (s.log role.skipLine, none)
      | some (e, w) => (s.record e, some w) := by
  have hWhole : s.wholeDocument editor =
      ⟨editor, (s.buffer editor).fullExtent, (s.buffer editor).text⟩ := by
    unfold wholeDocument
    dsimp only
    rw [slice_fullExtent]
  unfold runHandler
  dsimp only
  rw [if_pos hAlive]
  cases role with
  | formatDocument =>
    dsimp only
    unfold askFormatter Role.question?
    cases s.extension.preferences.mixPath? with
    | none => rfl
    | some mix => simp only [hWhole, Option.map_some]
  | formatWithServer =>
    dsimp only
    unfold askServerToFormat Role.question?
    cases s.extension.slot with
    | none => rfl
    | some client => simp only [hWhole, Option.map_some]
  | _ => exact hRole.elim

/-! ## Conclusions -/

/-- What a formatting with a verdict does to a session: it changes the document of the editor as the
verdict says and no other, and writes one line. -/
structure Concludes (s s' : Session) (editor : Nat) (v : Verdict) : Prop where
  document : s'.buffer editor = v.document (s.buffer editor)
  others : ∀ other, other ≠ editor → s'.buffer other = s.buffer other
  line : ∃ e, s'.events = s.events ++ [e] ∧ v.Tells (s.buffer editor) e

theorem Concludes.of_line {s : Session} {v : Verdict} (editor : Nat) {e : Event}
    (hSame : v.document (s.buffer editor) = s.buffer editor) (hTells : v.Tells (s.buffer editor) e) :
    s.Concludes (s.record e) editor v :=
  ⟨hSame.symm, fun _ _ => rfl, e, rfl, hTells⟩

/-- A session that differs in nothing that a verdict is about. -/
theorem Concludes.congr {s t s' : Session} {editor : Nat} {v : Verdict}
    (h : s.Concludes s' editor v) (hEditors : s.editors = t.editors) (hEvents : s.events = t.events) :
    t.Concludes s' editor v := by
  have hBuffer : ∀ editor, s.buffer editor = t.buffer editor := fun editor => by
    unfold buffer
    rw [hEditors]
  refine ⟨?_, ?_, ?_⟩
  · rw [← hBuffer]
    exact h.document
  · intro other hOther
    rw [← hBuffer]
    exact h.others other hOther
  · rw [← hBuffer, ← hEvents]
    exact h.line

theorem concludes_report (s : Session) (editor : Nat) (cause : Cause) :
    s.Concludes (s.report (formatterError cause)) editor .failed :=
  .of_line editor rfl ⟨cause.full, rfl⟩

/-- A text that takes the place of all of a document. -/
theorem concludes_replaceText (s : Session) {editor : Nat} (hEditor : editor < s.editors.length)
    (text : List Char) :
    s.Concludes (s.replaceText editor (s.buffer editor).fullExtent text) editor (.formatted text) := by
  have hEdit := edit_front s editor (s.buffer editor).text.length text
  rw [if_pos (Nat.le_refl _), List.drop_length, List.append_nil] at hEdit
  have hSelf := buffer_setBuffer_self s hEditor
    (Verdict.document (s.buffer editor) (.formatted text))
  unfold replaceText Buffer.fullExtent
  rw [hEdit]
  refine ⟨hSelf, fun other hOther => buffer_setBuffer_ne s hOther _, _, rfl, ?_⟩
  have hName := congrArg Buffer.displayName hSelf
  exact congrArg (fun name => Event.log ("Formatted " ++ name)) hName

theorem formattedText_verdict (outcome : Outcome ProcessOutput) :
    (∃ cause, formattedText outcome = .error (formatterError cause) ∧
        Verdict.ofProgram outcome = .failed) ∨
      ∃ text, formattedText outcome = .ok text ∧
        Verdict.ofProgram outcome = .formatted text.toList := by
  cases outcome with
  | failed cause => exact .inl ⟨cause, rfl, rfl⟩
  | panicked message => exact .inl ⟨.ofPanic message, rfl, rfl⟩
  | done output =>
    by_cases hStatus : output.status = some 0
    · refine .inr ⟨output.stdout, ?_, if_pos hStatus⟩
      simp only [formattedText, Outcome.settle, ProcessOutput.success, hStatus, decide_true, if_true]
    · refine .inl ⟨⟨"mix format " ++ output.failureMessage, []⟩, ?_, if_neg hStatus⟩
      simp only [formattedText, Outcome.settle, ProcessOutput.success, hStatus, decide_false]
      rfl

theorem editedText_verdict (text : List Char) (outcome : Outcome Json) :
    (∃ cause, editedText text outcome = .error (formatterError cause) ∧
        Verdict.ofServer text outcome = .failed) ∨
      ∃ edited, editedText text outcome = .ok edited ∧
        Verdict.ofServer text outcome = if edited = text then .same else .formatted edited := by
  cases outcome with
  | failed cause => exact .inl ⟨cause, rfl, rfl⟩
  | panicked message => exact .inl ⟨.ofPanic message, rfl, rfl⟩
  | done answer =>
    unfold editedText Verdict.ofServer
    dsimp only [Outcome.settle]
    cases parseTextEdits answer >>= Document.applyEdits text with
    | error e => exact .inl ⟨.ofHost e, rfl, rfl⟩
    | ok edited => exact .inr ⟨edited, rfl, rfl⟩

/-- A reply about a document that is still as it was when the question was asked. -/
theorem concludes_receive (x : Surroundings) (s : Session) {w : Wait} {f : Formatting}
    (hWait : w.formatting? = some f) (hEditor : f.editor < s.editors.length)
    (hExtent : f.extent = (s.buffer f.editor).fullExtent) (reply : w.Reply) :
    s.Concludes (s.receive x w reply).1 f.editor (w.verdict reply) := by
  cases w with
  | formatter mix f' =>
    cases hWait
    unfold receive applyFormatter Wait.verdict
    dsimp only
    rcases formattedText_verdict reply with ⟨cause, hError, hVerdict⟩ | ⟨text, hOk, hVerdict⟩
    · rw [hError, hVerdict]
      exact concludes_report s f.editor cause
    · rw [hOk, hVerdict, hExtent]
      exact concludes_replaceText s hEditor text.toList
  | serverEdits f' =>
    cases hWait
    unfold receive applyServerEdits Wait.verdict
    dsimp only
    rcases editedText_verdict f.text reply with ⟨cause, hError, hVerdict⟩ | ⟨edited, hOk, hVerdict⟩
    · rw [hError, hVerdict]
      exact concludes_report s f.editor cause
    · rw [hOk, hVerdict]
      by_cases hSame : edited = f.text
      · simp only [if_pos hSame]
        exact .of_line f.editor rfl rfl
      · simp only [if_neg hSame]
        rw [hExtent]
        exact concludes_replaceText s hEditor edited
  | _ => cases hWait

theorem receive_formatting (x : Surroundings) (s : Session) {w : Wait} {f : Formatting}
    (hWait : w.formatting? = some f) (reply : w.Reply) : (s.receive x w reply).2 = none := by
  cases w with
  | formatter | serverEdits => rfl
  | _ => cases hWait

end Session

theorem Role.formatting?_of_question {x : Surroundings} {s : Session} {editor : Nat} {role : Role}
    {e : Event} {w : Wait} (h : role.question? x s editor = some (e, w)) :
    w.formatting? = some ⟨editor, (s.buffer editor).fullExtent, (s.buffer editor).text⟩ := by
  cases role with
  | formatDocument | formatWithServer =>
    obtain ⟨_, -, hAsked⟩ := Option.map_eq_some_iff.mp h
    cases hAsked
    rfl
  | _ => cases h

namespace Stage

/-! ## The commands -/

/-- What a command that formats the document of an editor does in a stage when a move runs it: `question`
is what it asks and waits for, `skipLine` what it says when it has nothing to ask. When the reply is
there, whatever happened in between, and the document is what it was, the operation ends with the verdict
on the reply. -/
structure FormatsOnce (x : Surroundings) (g : Stage) (m : Move) (editor : Nat)
    (question : Option (Event × Wait)) (skipLine : String) : Prop where
  skipped : question = none → g.play x m = g.withSession (g.session.log skipLine)
  asked : ∀ e w, question = some (e, w) →
    (g.play x m).waiting = g.waiting ++ [⟨w, .nothing⟩] ∧
      (g.play x m).session.documents = g.session.documents ∧
      (g.play x m).session.events = g.session.events ++ [e]
  concluded : ∀ e w, question = some (e, w) → ∀ (later : List Move) (number : Nat),
    ((g.play x m).playAll x later).waiting[number]? = some ⟨w, .nothing⟩ →
    ((g.play x m).playAll x later).session.buffer editor = g.session.buffer editor →
    ∀ answer : (w : Wait) → w.Reply,
      (((g.play x m).playAll x later).play x (.reply number answer)).waiting =
          ((g.play x m).playAll x later).waiting.eraseIdx number ∧
        ((g.play x m).playAll x later).session.Concludes
          (((g.play x m).playAll x later).play x (.reply number answer)).session editor
          (w.verdict (answer w))

theorem length_editors_play (x : Surroundings) (g : Stage) (m : Move) :
    g.session.editors.length ≤ (g.play x m).session.editors.length := by
  have hCount : ∀ s : Session, s.editors.length = s.documents.length := fun s =>
    (List.length_map _).symm
  have hEdit : ∀ (s : Session) (editor : Nat) (e : Extent) (text : List Char),
      (s.edit editor e text).1.documents.length = s.documents.length := by
    intro s editor e text
    rw [Session.documents_edit]
    cases (s.buffer editor).edit e text with
    | ok b => exact List.length_set
    | error err => rfl
  rw [hCount, hCount]
  by_cases hEdits : g.Edits m
  · cases m with
    | openEditor b =>
      change _ ≤ List.length (List.map _ (g.session.editors ++ [{ buffer := b }]))
      rw [List.map_append, List.length_append]
      exact Nat.le_add_right _ _
    | edit editor e text => exact Nat.le_of_eq (hEdit g.session editor e text).symm
    | reply number answer =>
      obtain ⟨t, ht, hFormatting⟩ := hEdits
      obtain ⟨f, hf⟩ := Option.ne_none_iff_exists'.mp hFormatting
      rw [documents_reply x g ht hf answer]
      unfold Session.replaced
      split
      · exact Nat.le_of_eq (hEdit _ _ _ _).symm
      · exact Nat.le_refl _
    | _ => exact hEdits.elim
  · exact Nat.le_of_eq (congrArg List.length (documents_play x g hEdits)).symm

theorem length_editors_playAll (x : Surroundings) (g : Stage) (moves : List Move) :
    g.session.editors.length ≤ (g.playAll x moves).session.editors.length := by
  induction moves generalizing g with
  | nil => exact Nat.le_refl _
  | cons m moves ih => exact Nat.le_trans (length_editors_play x g m) (ih (g.play x m))

/-- A reply to a formatting after which nothing is left to do. -/
theorem play_reply_formatting (x : Surroundings) (g : Stage) {number : Nat} {w : Wait}
    {f : Session.Formatting} (ht : g.waiting[number]? = some ⟨w, .nothing⟩)
    (hWait : w.formatting? = some f) (answer : (w : Wait) → w.Reply) :
    ∃ s : Session, s.editors = g.session.editors ∧ s.events = g.session.events ∧
      g.play x (.reply number answer) =
        ⟨(s.receive x w (answer w)).1, g.waiting.eraseIdx number⟩ := by
  have hOwn : w.isOwn = true := by
    cases w with
    | other => cases hWait
    | _ => rfl
  refine ⟨{ g.session with inFlight := g.session.inFlight - 1 }, rfl, rfl, ?_⟩
  unfold play Session.resume
  dsimp only
  rw [ht]
  dsimp only
  rw [if_pos hOwn]
  have hEnds := Session.receive_formatting x
    { g.session with inFlight := g.session.inFlight - 1 } hWait (answer w)
  rcases hReceive : Session.receive x { g.session with inFlight := g.session.inFlight - 1 } w
    (answer w) with ⟨s', _ | w'⟩
  · rfl
  · rw [hReceive] at hEnds
    cases hEnds

/-- **A command that formats changes the document once, and only on success.** Without a formatter, or
without a client, it runs no program and sends no request, leaves everything as it is and says so in one
line. Otherwise it asks once. With the reply, when nobody changed the document meanwhile, the text that
the formatter wrote with status 0, or the text that the server's edits make, takes the place of all of
the document in one edit; a text that is there already is left with one line. After every other reply the
document is left and one error says that the formatting failed. No other document changes. -/
theorem formatsOnce_invoke (x : Surroundings) (g : Stage) {hub : Nat} {id : String} {role : Role}
    (hHandler : ((g.session.hubs[hub]?).getD {}).commands.handler? id = some (.own role))
    (hRole : role.Formats) (hAlive : g.session.alive = true) {editor : Nat}
    (hEditor : editor < g.session.editors.length) :
    g.FormatsOnce x (.invoke hub id editor) editor (role.question? x g.session editor)
      role.skipLine := by
  have hPlay : g.play x (.invoke hub id editor) =
      after g.waiting (Session.settle x (g.session.runHandler x (.own role) editor) .nothing) := by
    unfold play Session.invoke
    dsimp only
    rw [hHandler]
  rw [Session.runHandler_formats x g.session editor hRole hAlive] at hPlay
  refine ⟨?_, ?_, ?_⟩
  · intro hNone
    rw [hPlay, hNone]
    rfl
  · intro e w hSome
    have hOwn : w.isOwn = true := by
      have hFormatting := Role.formatting?_of_question hSome
      cases w with
      | other => cases hFormatting
      | _ => rfl
    rw [hPlay, hSome]
    simp only [Session.settle, Session.suspend, hOwn, if_true, after]
    exact ⟨trivial, rfl, rfl⟩
  · intro e w hSome later number hWaiting hBuffer answer
    have hThere : editor < ((g.play x (.invoke hub id editor)).playAll x later).session.editors.length :=
      Nat.lt_of_lt_of_le hEditor
        (length_editors_playAll x g (.invoke hub id editor :: later))
    generalize (g.play x (.invoke hub id editor)).playAll x later = g' at *
    have hFormatting := Role.formatting?_of_question hSome
    obtain ⟨s, hEditors, hEvents, hReply⟩ := play_reply_formatting x g' hWaiting hFormatting answer
    have hSame : s.buffer editor = g.session.buffer editor := by
      rw [← hBuffer]
      unfold Session.buffer
      rw [hEditors]
    have hConcludes : s.Concludes (s.receive x w (answer w)).1 editor (w.verdict (answer w)) := by
      refine Session.concludes_receive x s hFormatting ?_ ?_ (answer w)
      · rw [hEditors]
        exact hThere
      · rw [hSame]
    rw [hReply]
    exact ⟨rfl, hConcludes.congr hEditors hEvents⟩

/-- The formatter is run in an activated session while the launch scripts are made executable; it writes
two letters in place of two others. -/
theorem formatsOnce_invoke_oneDocument :
    (playAll .plain ⟨oneDocument, []⟩
        [.activate, .invoke Session.ownHub Command.formatDocument 0, .reply 0 Wait.goodReply,
          .reply 0 (formatted "AB")]).session.buffer 0 =
      { text := ['A', 'B'], version := 1 } := by
  have hHandler : (((playAll .plain ⟨oneDocument, []⟩ [.activate]).session.hubs[Session.ownHub]?).getD
      {}).commands.handler? Command.formatDocument = some (.own .formatDocument) := by decide +kernel
  have hEditor : 0 < (playAll .plain ⟨oneDocument, []⟩ [.activate]).session.editors.length := by
    decide +kernel
  have hOnce := formatsOnce_invoke .plain _ hHandler trivial (by decide +kernel) hEditor
  have hMix : (playAll .plain ⟨oneDocument, []⟩ [.activate]).session.extension.preferences.mixPath? =
      some "mix" := by decide +kernel
  have hBefore : (playAll .plain ⟨oneDocument, []⟩ [.activate]).session.buffer 0 =
      { text := ['a', 'b'] } := by decide +kernel
  have hQuestion : Role.formatDocument.question? .plain
      (playAll .plain ⟨oneDocument, []⟩ [.activate]).session 0 =
        some (.process (Session.formatterRequest "mix" none ['a', 'b']),
          .formatter "mix" askedFor) := by
    unfold Role.question?
    dsimp only
    rw [hMix, hBefore]
    rfl
  have hDocument := (hOnce.concluded _ _ hQuestion [.reply 0 Wait.goodReply] 0 (by decide +kernel)
    (by decide +kernel) (formatted "AB")).2.document
  refine hDocument.trans ?_
  decide +kernel

end Stage

end ExtensionHost
