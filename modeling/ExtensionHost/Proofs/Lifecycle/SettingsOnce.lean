import ExtensionHost.Proofs.Lifecycle.OnSave
import ExtensionHost.Proofs.Lifecycle.Reported
import ExtensionHost.Proofs.Lifecycle.Stores

/-!
# Settings are read when the extension is activated

What the stores of settings hold matters at one moment, when an extension that is inactive is activated.
Two runs that go on from there with the same moves, but for those that change the stores, differ in nothing
but the stores (`playAll_withoutStores`). `readsOnce` adds what the settings of that moment decide for as long
as no other activation counts: the program that every formatter is asked with, and whether an editor that is
added is formatted before it is saved. For the latter a truth value in any of the stores counts, whichever it
is; `not_readsFirst` refutes that the one of the workspace decides.
-/

namespace ExtensionHost

/-! ## Settings -/

namespace Settings

/-- The path of the formatter in a store: a text that is not empty. -/
def path? (settings : Settings) : Option String :=
  match Keyed.find? mixPathKey settings with
  | some (.string path) => if path = "" then none else some path
  | _ => none

/-- The choice in a store to format documents when they are saved: a truth value. -/
def choice? (settings : Settings) : Option Bool :=
  match Keyed.find? formatOnSaveKey settings with
  | some (.bool choice) => some choice
  | _ => none

/-- The path of the formatter in two stores: that in the first one, if there is one. -/
def firstPath? (workspace global : Settings) : Option String := workspace.path? <|> global.path?

/-- Whether any of two stores has a choice. -/
def anyChoice (workspace global : Settings) : Bool :=
  workspace.choice?.isSome || global.choice?.isSome

/-- The choice in two stores: that in the first one, if there is one. -/
def firstChoice (workspace global : Settings) : Bool :=
  (workspace.choice? <|> global.choice?) = some true

end Settings

theorem Preferences.mixPath_ofSettings (settings : Settings) :
    (ofSettings settings).mixPath = settings.path? := by
  unfold ofSettings Settings.path? Settings.present?
  cases Keyed.find? Settings.mixPathKey settings with
  | none => rfl
  | some v =>
    cases v with
    | string path =>
      by_cases hEmpty : path = ""
      · subst hEmpty
        rfl
      · have hText : pathOf? (.string path) = some path := by
          unfold pathOf?
          split
          · rename_i hSame
            exact absurd (Json.string.inj hSame) hEmpty
          · rename_i hSame
            rw [Json.string.inj hSame]
          · rename_i hOther
            exact absurd rfl (hOther path)
        exact hText.trans (if_neg hEmpty).symm
    | _ => rfl

theorem Preferences.formatOnSave_ofSettings (settings : Settings) :
    (ofSettings settings).formatOnSave = settings.choice? := by
  unfold ofSettings Settings.choice? Settings.present?
  cases Keyed.find? Settings.formatOnSaveKey settings with
  | none => rfl
  | some v => cases v <;> rfl

theorem UserPreferences.mixPath?_resolve (workspace global : Settings) :
    (resolve workspace global).mixPath? = Settings.firstPath? workspace global := by
  unfold mixPath? Settings.firstPath? resolve
  rw [Preferences.mixPath_ofSettings, Preferences.mixPath_ofSettings]

theorem UserPreferences.formatsOnSave_resolve (workspace global : Settings) :
    (resolve workspace global).formatsOnSave = Settings.anyChoice workspace global := by
  unfold formatsOnSave Settings.anyChoice resolve
  rw [Preferences.formatOnSave_ofSettings, Preferences.formatOnSave_ofSettings]

namespace Session

/-! ## What the preferences decide -/

/-- A formatter that is waited for is that of the preferences. -/
def Commissioned (s : Session) (w : Wait) : Prop :=
  ∀ mix f, w = .formatter mix f → s.extension.preferences.mixPath? = some mix

theorem commissioned_of_formatting? {s : Session} {w : Wait} (hw : w.formatting? = none) :
    s.Commissioned w := by
  rintro mix f rfl
  cases hw

theorem commissioned_runHandler (x : Surroundings) (s : Session) (h : Handler) (editor : Nat) :
    ∀ w ∈ (s.runHandler x h editor).2, (s.runHandler x h editor).1.Commissioned w := by
  rintro w hw mix f rfl
  rw [(agrees_runHandler x s h editor).preferences]
  cases h with
  | other number => cases hw
  | own role =>
    unfold runHandler at hw
    dsimp only at hw
    split at hw
    · cases role with
      | formatDocument =>
        dsimp only [askFormatter] at hw
        split at hw
        · cases hw
        · rename_i mix' hMix
          cases hw
          exact hMix
      | formatWithServer =>
        obtain ⟨_, -, hOther⟩ := Option.map_eq_some_iff.mp hw
        cases hOther
      | findReferences =>
        dsimp only at hw
        split at hw <;> cases hw
      | restart => exact absurd (formatting?_of_restarts (restarts_beginRestart x s) _ hw) nofun
      | watchEditor => cases hw
    · cases hw

theorem commissioned_suspend {s : Session} {w : Wait} (h : s.Commissioned w) (rest : Rest) :
    (s.suspend w rest).1.Commissioned w := by
  unfold suspend
  dsimp only
  split <;> exact h

theorem established_commissioned (x : Surroundings) : Established x Commissioned :=
  ⟨commissioned_of_formatting?, commissioned_runHandler x, commissioned_suspend⟩

end Session

namespace Stage

variable {x : Surroundings} {g : Stage}

/-! ## Moves between two activations -/

/-- Only an activation that is not ignored takes over preferences. -/
theorem preferences_play_of_not_takesOver {m : Move} (hm : ¬ g.TakesOver m) :
    (g.play x m).session.extension.preferences = g.session.extension.preferences := by
  by_cases hActivate : m = .activate
  · subst hActivate
    have hIgnored : g.play x .activate = g := by
      unfold play Session.activate Session.beginActivate
      rw [if_pos fun hPhase => hm ⟨rfl, hPhase⟩]
      rfl
    rw [hIgnored]
  · exact preferences_play x g hActivate

theorem preferences_playAll_of_never {moves : List Move} (hNever : Never x TakesOver g moves) :
    (g.playAll x moves).session.extension.preferences = g.session.extension.preferences := by
  induction moves generalizing g with
  | nil => rfl
  | cons m moves ih => exact (ih hNever.2).trans (preferences_play_of_not_takesOver hNever.1)

theorem never_of_notMem {moves : List Move} (hMoves : .activate ∉ moves) : Never x TakesOver g moves := by
  induction moves generalizing g with
  | nil => exact True.intro
  | cons m moves ih =>
    obtain ⟨hFirst, hRest⟩ := List.ne_and_not_mem_of_not_mem_cons hMoves
    exact ⟨fun hTakesOver => hFirst hTakesOver.1.symm, ih hRest⟩

theorem never_append {P : Stage → Move → Prop} {first second : List Move} :
    Never x P g (first ++ second) ↔ Never x P g first ∧ Never x P (g.playAll x first) second := by
  induction first generalizing g with
  | nil => exact ⟨fun h => ⟨True.intro, h⟩, And.right⟩
  | cons m first ih => exact (and_congr_right fun _ => ih).trans and_assoc.symm

/-- The moves that leave the stores of settings alone. -/
def besides (moves : List Move) : List Move := moves.filter fun m => !m.changesStores

theorem besides_cons_changes {m : Move} (hm : m.changesStores = true) (moves : List Move) :
    besides (m :: moves) = besides moves := List.filter_cons_of_neg (by simp [hm])

theorem besides_cons {m : Move} (hm : m.changesStores = false) (moves : List Move) :
    besides (m :: moves) = m :: besides moves := List.filter_cons_of_pos (by simp [hm])

/-- A move that changes the stores changes nothing else. -/
theorem play_changesStores {m : Move} (hm : m.changesStores = true) :
    (g.play x m).withoutStores = g.withoutStores := by
  cases m with
  | changeSettings workspaceSettings globalSettings => rfl
  | _ => cases hm

/-- **Without the stores, a run does what it does without the moves that change the stores**, as long as no
activation takes over settings. -/
theorem playAll_withoutStores {moves : List Move} (hNever : Never x TakesOver g moves) :
    (g.playAll x moves).withoutStores = g.withoutStores.playAll x (besides moves) := by
  induction moves generalizing g with
  | nil => rfl
  | cons m moves ih =>
    obtain ⟨hFirst, hRest⟩ := hNever
    rw [playAll_cons, ih hRest]
    cases hStores : m.changesStores with
    | true => rw [play_changesStores hStores, besides_cons_changes hStores]
    | false => rw [besides_cons hStores, playAll_cons, play_withoutStores x g hFirst hStores]

/-- Whether an activation takes over settings does not depend on them. -/
theorem never_besides {moves : List Move} :
    Never x TakesOver g.withoutStores (besides moves) ↔ Never x TakesOver g moves := by
  induction moves generalizing g with
  | nil => exact Iff.rfl
  | cons m moves ih =>
    cases hStores : m.changesStores with
    | true =>
      have hNot : ¬ g.TakesOver m := by
        rintro ⟨rfl, -⟩
        cases hStores
      rw [besides_cons_changes hStores, ← play_changesStores (x := x) (g := g) hStores, ih]
      exact (and_iff_right hNot).symm
    | false =>
      rw [besides_cons hStores]
      refine and_congr_right fun hNot => ?_
      rw [play_withoutStores x g hNot hStores, ih]

/-! ## Two runs -/

/-- Two ways to go on after the extension was activated, which differ in changes of the stores, do not
differ in anything else; the formatter and the documents that are formatted before they are saved are
those that the settings at the activation say, by some rule for the latter. -/
structure ReadsOnce (choice : Settings → Settings → Bool) (x : Surroundings) (g : Stage)
    (later later' : List Move) : Prop where
  /-- The other run has no activation that counts either. -/
  never : Never x TakesOver (g.play x .activate) later'
  /-- Both runs come to the same session, but for the stores, and the same operations wait. -/
  same : ((g.play x .activate).playAll x later).withoutStores =
    ((g.play x .activate).playAll x later').withoutStores
  /-- Every formatter is asked by the path in the settings at the activation. -/
  path : ∀ before m after, later = before ++ m :: after →
    let b := (g.play x .activate).playAll x before
    ∀ t ∈ (b.play x m).waiting, t ∈ b.waiting ∨ ∀ mix f, t.wait = .formatter mix f →
      Settings.firstPath? g.session.workspaceSettings g.session.globalSettings = some mix ∧
        (b.play x m).session.events.getLast? =
          some (.process (Session.formatterRequest mix x.root f.text))
  /-- An editor that is added is formatted before it is saved as the settings at the activation say. -/
  saves : ∀ before after, later = before ++ after →
    let s := ((g.play x .activate).playAll x before).session
    ∀ editor, (s.buffer editor).syntaxName = some elixirSyntax →
      if choice g.session.workspaceSettings g.session.globalSettings then
        (s.watchEditor editor).registry = s.registry.watch (s.buffer editor).uri editor
      else s.watchEditor editor = s

/-- **Settings are read when the extension is activated**, and not again before it is activated anew: a path
of the workspace comes before that of the user, and a choice of any of the two has documents formatted
before they are saved. -/
theorem readsOnce (x : Surroundings) (g : Stage) (hPhase : g.session.extension.phase = .inactive)
    {later later' : List Move} (hNever : Never x TakesOver (g.play x .activate) later)
    (hSame : besides later = besides later') : ReadsOnce Settings.anyChoice x g later later' := by
  have hNever' : Never x TakesOver (g.play x .activate) later' := by
    rw [← never_besides, ← hSame, never_besides]
    exact hNever
  have hChosen : ∀ {before after : List Move}, later = before ++ after →
      ((g.play x .activate).playAll x before).session.extension.preferences =
        .resolve g.session.workspaceSettings g.session.globalSettings := by
    rintro before after rfl
    exact (preferences_playAll_of_never (never_append.mp hNever).1).trans (preferences_activate x hPhase)
  refine ⟨hNever', ?_, ?_, ?_⟩
  · rw [playAll_withoutStores hNever, playAll_withoutStores hNever', hSame]
  · intro before m after hLater b t ht
    have hAsked := established_play (Session.established_hasAsked x) b m ht
    have hCommissioned := established_play (Session.established_commissioned x) b m ht
    by_cases hOld : t ∈ b.waiting
    · exact .inl hOld
    · refine .inr fun mix f hFormatter => ?_
      have hMix := hCommissioned.resolve_left hOld mix f hFormatter
      have hLast := hAsked.resolve_left hOld
      have hStep : later = (before ++ [m]) ++ after := by rw [hLater, List.append_assoc]; rfl
      have hNow := hChosen hStep
      rw [playAll_append] at hNow
      rw [hFormatter] at hLast
      refine ⟨?_, hLast.2⟩
      rw [← hMix, ← UserPreferences.mixPath?_resolve, ← hNow]
      rfl
  · intro before after hLater s editor hSyntax
    have hFormats : s.extension.preferences.formatsOnSave =
        Settings.anyChoice g.session.workspaceSettings g.session.globalSettings := by
      rw [hChosen hLater, UserPreferences.formatsOnSave_resolve]
    split
    · rename_i hChoice
      exact Session.registry_watchEditor ⟨hSyntax, hFormats.trans hChoice⟩
    · rename_i hChoice
      unfold Session.watchEditor
      dsimp only
      rw [if_neg fun hWatches => hChoice (hFormats.symm.trans hWatches.2)]

/-- The formatter that is left in the settings of the user, and a choice that is not to format. -/
def falling : Stage where
  session :=
    { Session.scripted with
      workspaceSettings := [(Settings.mixPathKey, .string ""), (Settings.formatOnSaveKey, .string "no")]
      globalSettings := [(Settings.mixPathKey, .string "mix"), (Settings.formatOnSaveKey, .bool false)]
      editors := [{ buffer := elixirDocument }] }

/-- The server starts, stops and is started again; the extension is activated once more, which it ignores;
an editor is added and saved. -/
def restartedThen (settings : List Move) : List Move :=
  [.reply 0 Wait.goodReply, .reply 0 Wait.goodReply, .activate] ++ settings ++
    [.restart, .reply 0 Wait.goodReply, .addEditor 0 0, .save 0]

/-- Another formatter is set meanwhile, and the one of the activation is asked. -/
theorem readsOnce_restartedThen :
    let changed := restartedThen [.changeSettings [(Settings.mixPathKey, .string "other")] []]
    falling.session.extension.phase = .inactive ∧
      Never .plain TakesOver (falling.play .plain .activate) (restartedThen []) ∧
      besides (restartedThen []) = besides changed ∧
      ((falling.play .plain .activate).playAll .plain changed).waiting.map Suspended.wait =
        [.chmod 0, .formatter "mix" ⟨0, ⟨0, 0⟩, []⟩] := by
  intro changed
  have hNever : Never .plain TakesOver (falling.play .plain .activate) (restartedThen []) := by
    have hRunning : ((falling.play .plain .activate).playAll .plain
        [.reply 0 Wait.goodReply, .reply 0 Wait.goodReply]).session.extension.phase = .running := by
      decide +kernel
    have hIgnored : ¬ ((falling.play .plain .activate).playAll .plain
        [.reply 0 Wait.goodReply, .reply 0 Wait.goodReply]).TakesOver .activate := by
      rintro ⟨-, hInactive⟩
      cases hRunning.symm.trans hInactive
    change Never .plain TakesOver (falling.play .plain .activate)
      ([.reply 0 Wait.goodReply, .reply 0 Wait.goodReply] ++
        .activate :: [.restart, .reply 0 Wait.goodReply, .addEditor 0 0, .save 0])
    exact never_append.mpr ⟨never_of_notMem (by simp), hIgnored, never_of_notMem (by simp)⟩
  have hSame : besides (restartedThen []) = besides changed := rfl
  have hOnce := readsOnce .plain falling rfl hNever hSame
  refine ⟨rfl, hNever, hSame, ?_⟩
  have hWaiting := congrArg waiting hOnce.same
  have hWaits : ((falling.play .plain .activate).playAll .plain changed).waiting =
      ((falling.play .plain .activate).playAll .plain (restartedThen [])).waiting := hWaiting.symm
  rw [hWaits]
  decide +kernel

/-- Settings are read when the extension is activated, and the first of two choices decides whether documents
are formatted before they are saved. -/
def ReadsFirst : Prop :=
  ∀ (x : Surroundings) (g : Stage), g.session.extension.phase = .inactive → ∀ later later' : List Move,
    Never x TakesOver (g.play x .activate) later → besides later = besides later' →
      ReadsOnce Settings.firstChoice x g later later'

/-- A workspace in which documents are not to be formatted, of a user who wants them formatted. -/
def declined : Stage where
  session :=
    { Session.scripted with
      workspaceSettings := [(Settings.formatOnSaveKey, .bool false)]
      globalSettings := [(Settings.formatOnSaveKey, .bool true)]
      editors := [{ buffer := elixirDocument }] }

/-- **The choice of the workspace does not decide.** -/
theorem not_readsFirst : ¬ ReadsFirst := by
  intro h
  have hSame := (h .plain declined rfl [] [] True.intro rfl).saves [] [] rfl 0 (by decide +kernel)
  rw [if_neg (by decide +kernel)] at hSame
  have hKept := congrArg (fun s => s.extension.editorRegistrations.length) hSame
  revert hKept
  decide +kernel

end Stage

end ExtensionHost
