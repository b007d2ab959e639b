import ExtensionHost.Settings.Store
import ExtensionHost.Proofs.File.Writing
import ExtensionHost.Proofs.Json.Printing

/-!
# Opening settings that were saved

The settings of a store are an object that a text can hold (`within_load`). Settings without
floating-point numbers that were saved are found again when the store is opened, if they have no more
levels than a text may have; if they have more, the store does not open any more (`load_save`).
-/

namespace ExtensionHost

/-! ## The settings of a store -/

theorem Decoder.members_any (entries : List (String × Json)) :
    Decoder.members Decoder.any entries = .ok entries := by
  induction entries with
  | nil => rfl
  | cons entry rest ih =>
    rw [Decoder.members, ih]
    rfl

namespace JsonStore

variable {w : Wording} {s : JsonStore} {files : Files} {cwd file text : String}

theorem load_of_readText (h : files.readText cwd (s.filePath file) = .ok text) :
    load w s files cwd file (Decoder.keyed Decoder.any) =
      match Json.parse? text with
      | some (.object entries) => .ok entries
      | _ => .error (unparsable (s.filePath file) (w text)) := by
  simp only [load, h, Except.mapError, bind, Except.bind]
  cases Json.parse? text with
  | none => rfl
  | some v =>
    cases v with
    | object entries => simp only [Option.map_some, Decoder.keyed, Decoder.members_any]
    | _ => rfl

/-- Values that are found in a file are those of an object that a text can hold. -/
theorem within_load {entries : List (String × Json)}
    (h : load w s files cwd file (Decoder.keyed Decoder.any) = .ok entries) :
    Json.Within Json.levelLimit (.object entries) := by
  cases hText : files.readText cwd (s.filePath file) with
  | error e =>
    simp only [load, hText, Except.mapError, bind, Except.bind] at h
    cases h
  | ok text =>
    rw [load_of_readText hText] at h
    split at h
    · rename_i hParse
      cases h
      exact Json.within_parse? hParse
    · cases h

end JsonStore

namespace SettingsStore

variable {w : JsonStore.Wording} {s : JsonStore} {files : Files} {cwd : String}

theorem load_of_exists (h : s.exists? files cwd fileName = true) :
    load w s files cwd =
      (JsonStore.load w s files cwd fileName (Decoder.keyed Decoder.any)).map (⟨some s, ·⟩) := by
  rw [load, if_pos h]
  cases JsonStore.load w s files cwd fileName (Decoder.keyed Decoder.any) <;> rfl

/-- A store that opens keeps its settings where it was told to, and these are an object that a text can
hold. -/
theorem within_load {t : SettingsStore} (h : load w s files cwd = .ok t) :
    t.store = some s ∧ Json.Within Json.levelLimit (.object t.values) := by
  by_cases hExists : s.exists? files cwd fileName = true
  · rw [load_of_exists hExists] at h
    cases hValues : JsonStore.load w s files cwd fileName (Decoder.keyed Decoder.any) with
    | error e =>
      rw [hValues] at h
      cases h
    | ok values =>
      rw [hValues] at h
      cases h
      exact ⟨rfl, JsonStore.within_load hValues⟩
  · rw [load, if_neg hExists] at h
    cases h
    exact ⟨rfl, .object .nil nofun, Nat.le_of_ble_eq_true rfl⟩

/-! ## Saving and opening -/

theorem getLast?_join_fileName (directory : String) :
    (Path.join directory fileName).toList.getLast? ≠ some '/' := by
  have hLast : fileName.toList.getLast? = some 'n' := rfl
  unfold Path.join
  split
  · rw [hLast]
    decide
  · split
    all_goals
      rw [String.toList_append, List.getLast?_append, hLast]
      exact fun h => absurd (Option.some.inj h) (by decide)

/-- Settings that were saved were written to their file as a text. -/
theorem exists_writeText_of_save {saved : Files} {values : Settings}
    (h : save ⟨some s, values⟩ files cwd = (saved, .ok ())) :
    ∃ made : Files,
      made.writeText cwd (s.filePath fileName) (Json.object values).pretty = .ok saved := by
  unfold save JsonStore.save at h
  dsimp only at h
  split at h
  · cases h
  · rename_i made _
    split at h
    · cases h
    · rename_i hWrite
      cases h
      exact ⟨made, hWrite⟩

/-- Settings that were saved are found again, unless they have more levels than a text may have. -/
theorem load_save {saved : Files} {values : Settings}
    (hWell : (Json.object values).WellFormed) (hExact : (Json.object values).Exact)
    (h : save ⟨some s, values⟩ files cwd = (saved, .ok ())) :
    load w s saved cwd =
      if (Json.object values).levels ≤ Json.levelLimit then .ok ⟨some s, values⟩
      else .error (JsonStore.unparsable (s.filePath fileName) (w (Json.object values).pretty)) := by
  obtain ⟨made, hWrite⟩ := exists_writeText_of_save h
  obtain ⟨hExists, hText⟩ := Files.readText_writeText (getLast?_join_fileName s.directory) hWrite
  rw [load_of_exists hExists, JsonStore.load_of_readText hText, Json.parse?_pretty hWell hExact]
  by_cases hLevels : (Json.object values).levels ≤ Json.levelLimit
  · rw [if_pos hLevels, if_pos hLevels]
    rfl
  · rw [if_neg hLevels, if_neg hLevels]
    rfl

end SettingsStore

end ExtensionHost
