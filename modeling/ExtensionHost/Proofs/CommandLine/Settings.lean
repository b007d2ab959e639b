import ExtensionHost.CommandLine.Run
import ExtensionHost.Proofs.Settings.Reopening

/-!
# Setting a setting and opening the store again

A value on the command line is read on its own, so it may have as many levels as a text may have; in the
file of the store it is a member of an object, one level below. A value with fewer levels is found again
when the store is opened, and all other settings are what they were (`load_setSetting`); a value with just
as many levels makes a file that does not open any more (`not_neverBreaks`).
-/

namespace ExtensionHost.CommandLine

/-- The store of the scope that a setting is set in. -/
def scopeStore (p : Place) (o : Options) (global : Bool) : JsonStore :=
  if global then p.userStore else .ofWorkspace (o.root p)

/-- The settings `t` are those of `s`, but for the value under one key. -/
structure Updated (s : SettingsStore) (key : String) (v : Json) (t : SettingsStore) : Prop where
  value : t.get? key = some v
  others : ∀ other, other ≠ key → t.get? other = s.get? other

theorem updated_set (s : SettingsStore) (key : String) (v : Json) : Updated s key v (s.set key v) where
  value := Keyed.find?_insert_self key v s.values
  others := fun _ hOther => Keyed.find?_insert_of_ne hOther v s.values

/-! ## Values on the command line -/

theorem within_settingValue (text : String) : Json.Within Json.levelLimit (settingValue text) := by
  unfold settingValue
  cases hParse : Json.parse? text with
  | none => exact ⟨.string text, Nat.zero_le _⟩
  | some v => exact Json.within_parse? hParse

/-! ## Setting and opening -/

section

variable {p : Place} {files : Files} {o : Options} {key text : String} {global : Bool}
  {s : SettingsStore}

/-- A setting is set if and only if the changed settings can be saved. -/
theorem setSetting_status (hOpen : SettingsStore.load p.wording (scopeStore p o global) files p.cwd = .ok s) :
    (setSetting p files o key text global).status = 0 ↔
      ((s.set key (settingValue text)).save files p.cwd).2 = .ok () := by
  unfold scopeStore at hOpen
  unfold setSetting
  simp only [hOpen]
  split
  · rename_i hSave
    rw [hSave]
    exact ⟨nofun, nofun⟩
  · rename_i hSave
    rw [hSave]
    exact ⟨fun _ => rfl, fun _ => rfl⟩

theorem setSetting_files (hOpen : SettingsStore.load p.wording (scopeStore p o global) files p.cwd = .ok s) :
    (setSetting p files o key text global).files =
      ((s.set key (settingValue text)).save files p.cwd).1 := by
  unfold scopeStore at hOpen
  unfold setSetting
  simp only [hOpen]
  split
  all_goals
    rename_i hSave
    rw [hSave]
  rfl

/-- What opening the store gives after a setting was set. -/
theorem load_of_set
    (hOpen : SettingsStore.load p.wording (scopeStore p o global) files p.cwd = .ok s)
    (hSettings : (Json.object s.values).Exact) (hValue : (settingValue text).Exact)
    (hDone : (setSetting p files o key text global).status = 0) :
    SettingsStore.load p.wording (scopeStore p o global)
        (setSetting p files o key text global).files p.cwd =
      if (settingValue text).levels < Json.levelLimit then .ok (s.set key (settingValue text))
      else .error (JsonStore.unparsable ((scopeStore p o global).filePath SettingsStore.fileName)
        (p.wording (Json.object (s.set key (settingValue text)).values).pretty)) := by
  have hSave : (s.set key (settingValue text)).save files p.cwd =
      ((setSetting p files o key text global).files, .ok ()) :=
    Prod.ext (setSetting_files hOpen).symm ((setSetting_status hOpen).mp hDone)
  obtain ⟨hStore, hWithin⟩ := SettingsStore.within_load hOpen
  obtain ⟨store, values⟩ := s
  obtain rfl : store = some (scopeStore p o global) := hStore
  have hLevels : (Json.object (Keyed.insert key (settingValue text) values)).levels ≤ Json.levelLimit ↔
      (settingValue text).levels < Json.levelLimit :=
    (Json.levels_insert_le hWithin.levels_le key).trans Nat.lt_succ_iff.symm
  have hWell := Json.wellFormed_insert hWithin.wellFormed (within_settingValue text).wellFormed key
  rw [SettingsStore.load_save hWell (Json.exact_insert hSettings hValue key) hSave]
  simp only [hLevels]
  rfl

/-- **Opening a store after a setting was set in it.** A value with fewer levels than a text may have is
found under its key, and everything else is as it was. With a value that has as many levels as a text may
have, the store does not open any more. -/
theorem load_setSetting
    (hOpen : SettingsStore.load p.wording (scopeStore p o global) files p.cwd = .ok s)
    (hSettings : (Json.object s.values).Exact) (hValue : (settingValue text).Exact)
    (hDone : (setSetting p files o key text global).status = 0) :
    ((settingValue text).levels < Json.levelLimit →
      ∃ t, SettingsStore.load p.wording (scopeStore p o global)
          (setSetting p files o key text global).files p.cwd = .ok t ∧
        Updated s key (settingValue text) t) ∧
    (Json.levelLimit ≤ (settingValue text).levels →
      SettingsStore.load p.wording (scopeStore p o global)
          (setSetting p files o key text global).files p.cwd =
        .error (JsonStore.unparsable ((scopeStore p o global).filePath SettingsStore.fileName)
          (p.wording (Json.object (s.set key (settingValue text)).values).pretty))) := by
  rw [load_of_set hOpen hSettings hValue hDone]
  constructor
  · intro hFewer
    rw [if_pos hFewer]
    exact ⟨_, rfl, updated_set s key _⟩
  · intro hAsMany
    rw [if_neg (Nat.not_lt.mpr hAsMany)]

end

/-! ## A workspace with settings -/

/-- No program can be run. -/
def noPrograms : Programs where
  call := fun _ _ _ => (.panicked none, [])
  serve := fun _ _ _ _ => .error (.ofText "No such program")

/-- The program is run in a workspace. -/
def inWorkspace : Place where
  programs := noPrograms
  processId := 1
  cwd := "/w"
  home := "/h"
  wording := fun _ => "recursion limit exceeded"

/-- The settings of the workspace. -/
def workspaceSettings : Settings := [("a", .int 1)]

/-- The workspace with its settings. -/
def workspaceFiles : Files :=
  [ ("/w", .directory), ("/w/.exnova", .directory),
    ("/w/.exnova/settings.json",
      .file (Utf8.encode (Json.object workspaceSettings).pretty.toList) false) ]

theorem wellFormed_workspaceSettings : (Json.object workspaceSettings).WellFormed :=
  .object (List.pairwise_singleton _ _) (List.forall_mem_singleton.mpr (.number ⟨by decide, by decide⟩))

theorem exact_workspaceSettings : (Json.object workspaceSettings).Exact :=
  .object (List.forall_mem_singleton.mpr (.int 1))

theorem load_workspaceFiles :
    SettingsStore.load inWorkspace.wording (scopeStore inWorkspace {} false) workspaceFiles "/w" =
      .ok ⟨some (scopeStore inWorkspace {} false), workspaceSettings⟩ := by
  have hText : workspaceFiles.readText "/w"
      ((scopeStore inWorkspace {} false).filePath SettingsStore.fileName) =
        .ok (Json.object workspaceSettings).pretty := Files.readText_of_bytes rfl
  have hParse := Json.parse?_pretty wellFormed_workspaceSettings exact_workspaceSettings
  rw [if_pos (Nat.le_of_ble_eq_true rfl)] at hParse
  rw [SettingsStore.load_of_exists rfl, JsonStore.load_of_readText hText, hParse]
  rfl

theorem status_workspaceFiles (key text : String) :
    (setSetting inWorkspace workspaceFiles {} key text false).status = 0 :=
  (setSetting_status load_workspaceFiles).mpr rfl

/-- A setting is added to one that is there. -/
theorem load_setSetting_added :
    ∃ t, SettingsStore.load inWorkspace.wording (scopeStore inWorkspace {} false)
        (setSetting inWorkspace workspaceFiles {} "b" "[8]" false).files "/w" = .ok t ∧
      t.get? "b" = some (.array [.int 8]) ∧ t.get? "a" = some (.int 1) := by
  have hValue : settingValue "[8]" = .array [.int 8] := rfl
  have hExact : (settingValue "[8]").Exact := hValue ▸ .array (List.forall_mem_singleton.mpr (.int 8))
  have hSet := load_setSetting load_workspaceFiles exact_workspaceSettings hExact
    (status_workspaceFiles "b" "[8]")
  obtain ⟨t, hLoad, hUpdated⟩ := hSet.1 (hValue ▸ Nat.le_of_ble_eq_true rfl)
  refine ⟨t, hLoad, hUpdated.value.trans (congrArg some hValue), ?_⟩
  rw [hUpdated.others "a" (by decide)]
  rfl

/-! ## A value that breaks the file -/

/-- A setting that was set without a failure can be read again, and the others are as they were. -/
def NeverBreaks : Prop :=
  ∀ (p : Place) (files : Files) (o : Options) (key text : String) (global : Bool) (s : SettingsStore),
    SettingsStore.load p.wording (scopeStore p o global) files p.cwd = .ok s →
    (Json.object s.values).Exact → (settingValue text).Exact →
    (setSetting p files o key text global).status = 0 →
    ∃ t, SettingsStore.load p.wording (scopeStore p o global)
        (setSetting p files o key text global).files p.cwd = .ok t ∧
      Updated s key (settingValue text) t

/-- An empty array inside `n` arrays. -/
def nested : Nat → Json
  | 0 => .array []
  | n + 1 => .array [nested n]

/-- The text of `n` arrays inside each other. -/
def brackets (n : Nat) : List Char := List.replicate n '[' ++ List.replicate n ']'

theorem exact_nested (n : Nat) : (nested n).Exact := by
  induction n with
  | zero => exact .array nofun
  | succ n ih => exact .array (List.forall_mem_singleton.mpr ih)

theorem levels_nested (n : Nat) : (nested n).levels = n + 1 := by
  induction n with
  | zero => rfl
  | succ n ih => rw [nested, Json.levels, Json.levelsOfItems, ih, Json.levelsOfItems, Nat.max_zero]

theorem brackets_succ (n : Nat) (rest : List Char) :
    brackets (n + 1) ++ rest = '[' :: (brackets n ++ ']' :: rest) := by
  rw [brackets, List.replicate_succ, List.replicate_succ']
  simp [brackets]

theorem readValue_brackets (n : Nat) (rest : List Char) :
    Json.readValue (n + 1) (brackets (n + 1) ++ rest) = some (nested n, rest) := by
  induction n generalizing rest with
  | zero => rfl
  | succ n ih =>
    have hBegins : Json.Begins (brackets (n + 1) ++ ']' :: rest) := by
      rw [brackets_succ]
      exact ⟨'[', _, rfl, rfl, by decide, by decide⟩
    have hClosing : Json.isSpace ']' = false := rfl
    rw [brackets_succ, Json.readValue_openArray, Json.readArray_begins hBegins, Json.readSeparated, ih]
    simp [Json.skipSpace_cons hClosing, nested]

theorem settingValue_brackets {n : Nat} (h : n + 1 = Json.levelLimit) :
    settingValue (String.ofList (brackets (n + 1))) = nested n := by
  have hRead := readValue_brackets n []
  rw [List.append_nil, h] at hRead
  rw [settingValue, Json.parse?, Json.parseWithin?, String.toList_ofList, h, hRead]
  rfl

/-- A value with as many levels as a text may have is set without a failure, and the settings cannot be
read any more. -/
theorem not_neverBreaks : ¬ NeverBreaks := by
  intro h
  let text := String.ofList (brackets 127)
  have hValue : settingValue text = nested 126 := settingValue_brackets rfl
  have hExact : (settingValue text).Exact := hValue ▸ exact_nested 126
  have hDone := status_workspaceFiles "k" text
  obtain ⟨t, hLoad, -⟩ := h inWorkspace workspaceFiles {} "k" text false _ load_workspaceFiles
    exact_workspaceSettings hExact hDone
  have hBroken := load_of_set load_workspaceFiles exact_workspaceSettings hExact hDone
  rw [if_neg (by rw [hValue, levels_nested]; decide)] at hBroken
  cases hLoad.symm.trans hBroken

end ExtensionHost.CommandLine
