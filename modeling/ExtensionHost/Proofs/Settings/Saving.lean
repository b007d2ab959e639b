import ExtensionHost.Proofs.File.FullNames
import ExtensionHost.Proofs.Settings.Reopening

/-!
# Settings that were changed and saved

Settings are read once from their file and then changed in memory, one key at a time. What was changed in
any way and saved is found again when the store is opened (`SettingsStore.reopens_saved`), and saving the
store that was opened writes the same text. The directory need not be there before: a file that was put
into a directory shows that it is there afterwards (`Files.directory_of_join`), so nothing has to be made
for the second save.
-/

namespace ExtensionHost

namespace Files

variable {files : Files} {cwd directory name : String}

/-! ## The directory that a file stands in -/

/-- The names of a file in a directory are those of the directory, without an empty one that stands for a
slash at its end, and then that of the file. -/
theorem pathNames_join (hDirectory : directory ≠ "") (hName : Path.isAbsolute name = false)
    (hBetween : Between name) :
    ∃ names, pathNames (Path.join directory name) = names ++ [name] ∧
      (pathNames directory = names ∨ pathNames directory = names ++ [""]) := by
  have hSome : directory.isEmpty = false := by simpa using hDirectory
  unfold Path.join
  rw [hName, hSome, Bool.or_false, if_neg Bool.false_ne_true]
  split
  · rename_i hLast
    obtain ⟨front, hFront⟩ := List.getLast?_eq_some_iff.mp hLast
    have hSlash : directory = String.ofList front ++ "/" := by
      rw [← String.toList_inj, hFront, String.toList_append, String.toList_ofList]
      rfl
    refine ⟨pathNames (String.ofList front), ?_, .inr ?_⟩
    · rw [hSlash, pathNames_append _ hBetween]
    · have hEmpty : Between "" := ⟨List.not_mem_nil, List.not_mem_nil⟩
      rw [← pathNames_append _ hEmpty, String.append_empty, hSlash]
  · exact ⟨pathNames directory, pathNames_append directory hBetween, .inl rfl⟩

theorem toList_join (hName : Path.isAbsolute name = false) (hDirectory : directory ≠ "") :
    ∃ back, (Path.join directory name).toList = directory.toList ++ back := by
  have hSome : directory.isEmpty = false := by simpa using hDirectory
  unfold Path.join
  rw [hName, hSome, Bool.or_false, if_neg Bool.false_ne_true]
  split
  · exact ⟨_, String.toList_append⟩
  · rw [String.append_assoc]
    exact ⟨_, String.toList_append⟩

/-- A path that leads to something in a directory shows that the directory is there. -/
theorem directory_of_join {r : String × Option Entry} (hDirectory : directory ≠ "")
    (hName : Path.isAbsolute name = false) (hBetween : Between name)
    (h : locate files cwd (Path.join directory name) = .ok r) :
    find? files cwd directory = some .directory := by
  obtain ⟨back, hBack⟩ := toList_join hName hDirectory
  obtain ⟨names, hNames, hOwn⟩ := pathNames_join hDirectory hName hBetween
  have hAbsolute : Path.isAbsolute (Path.join directory name) = Path.isAbsolute directory := by
    have hFront : directory.toList ≠ [] := by simpa using hDirectory
    rw [Path.isAbsolute, hBack, List.head?_append_of_ne_nil _ hFront]
    rfl
  unfold locate at h
  rw [hAbsolute, hNames] at h
  split at h
  · cases h
  · split at h
    · cases h
    · rename_i hZero
      have hOwnZero : ¬ directory.toList.contains '\x00' = true := by
        rw [hBack] at hZero
        simp_all
      obtain ⟨target, e⟩ := r
      obtain ⟨above, hAbove, hThere⟩ := (leads_of_walk h).1.exists_above
      have hWay : Leads files (if Path.isAbsolute directory then "/" else cwd)
          (pathNames directory) above := by
        rcases hOwn with hOwn | hOwn
        · exact hOwn ▸ hAbove
        · exact hOwn ▸ hAbove.append hThere (.idle hThere (.inl rfl) (.here above))
      rw [find?, locate, if_neg hDirectory, if_neg hOwnZero, hWay.walk]
      exact hThere

end Files

namespace SettingsStore

variable {w : JsonStore.Wording} {s : JsonStore} {files saved : Files} {cwd : String}
  {values : Settings}

/-! ## Saving again -/

theorem between_fileName : Files.Between fileName := by
  constructor <;> decide

/-- What a store that was saved wrote is a text in its file, and its directory is there. -/
theorem ensureDirectory_saved (h : save ⟨some s, values⟩ files cwd = (saved, .ok ())) :
    s.ensureDirectory saved cwd = (saved, .ok ()) := by
  obtain ⟨made, hWrite⟩ := exists_writeText_of_save h
  obtain ⟨name, executable, hLocate⟩ := Files.locate_writeText (getLast?_join_fileName s.directory) hWrite
  unfold JsonStore.ensureDirectory
  by_cases hDirectory : s.directory = ""
  · -- Without a name for it the directory is the working directory, and there is nothing to make.
    rw [hDirectory]
    rfl
  · rw [Files.exists?, Files.directory_of_join hDirectory rfl between_fileName hLocate]
    rfl

/-- A store that was saved can be saved once more, and its file then holds the same text. -/
theorem save_saved (h : save ⟨some s, values⟩ files cwd = (saved, .ok ())) :
    ∃ again, save ⟨some s, values⟩ saved cwd = (again, .ok ()) ∧
      again.readText cwd (s.filePath fileName) = saved.readText cwd (s.filePath fileName) := by
  obtain ⟨made, hWrite⟩ := exists_writeText_of_save h
  have hPath : (s.filePath fileName).toList.getLast? ≠ some '/' := getLast?_join_fileName s.directory
  obtain ⟨name, executable, hLocate⟩ := Files.locate_writeText hPath hWrite
  obtain ⟨again, hAgain⟩ : ∃ again,
      saved.writeText cwd (s.filePath fileName) (Json.object values).pretty = .ok again := by
    unfold Files.writeText Files.writeBytes
    rw [Files.locateFile_eq hPath, hLocate]
    exact ⟨_, rfl⟩
  refine ⟨again, ?_, ?_⟩
  · unfold save JsonStore.save
    dsimp only
    rw [ensureDirectory_saved h]
    dsimp only
    rw [hAgain]
  · exact (Files.readText_writeText hPath hAgain).2.trans (Files.readText_writeText hPath hWrite).2.symm

/-! ## Changes -/

/-- A change to the settings in memory. -/
inductive Change where
  | set (key : String) (v : Json)
  | unset (key : String)

/-- The settings after a change. -/
def change (s : SettingsStore) : Change → SettingsStore
  | .set key v => s.set key v
  | .unset key => s.unset key

/-- The settings after several changes. -/
def changeAll (s : SettingsStore) (changes : List Change) : SettingsStore := changes.foldl change s

theorem store_changeAll (s : SettingsStore) (changes : List Change) :
    (s.changeAll changes).store = s.store := by
  induction changes generalizing s with
  | nil => rfl
  | cons c rest ih =>
    refine (ih (s.change c)).trans ?_
    cases c <;> rfl

theorem wellFormed_changeAll {s : SettingsStore} {changes : List Change}
    (hSettings : (Json.object s.values).WellFormed)
    (hValues : ∀ key v, .set key v ∈ changes → v.WellFormed) :
    (Json.object (s.changeAll changes).values).WellFormed := by
  induction changes generalizing s with
  | nil => exact hSettings
  | cons c rest ih =>
    refine ih (s := s.change c) ?_ fun key v hMem => hValues key v (List.mem_cons_of_mem _ hMem)
    cases c with
    | set key v => exact Json.wellFormed_insert hSettings (hValues key v List.mem_cons_self) key
    | unset key => exact Json.wellFormed_erase hSettings key

/-- **Settings survive saving and opening.** A store is opened, its settings are changed in any way, and
they are saved, in a directory that need not be there. If what they come to has no floating-point number
and no more levels than a text may have, the store opens with exactly these settings, and saving it then
succeeds and leaves the same text in the file. -/
theorem reopens_saved {before : Files} {opened : SettingsStore} {changes : List Change}
    (hOpened : load w s before cwd = .ok opened)
    (hValues : ∀ key v, .set key v ∈ changes → v.WellFormed)
    (hExact : (Json.object (opened.changeAll changes).values).Exact)
    (hLevels : (Json.object (opened.changeAll changes).values).levels ≤ 127)
    (hSaved : (opened.changeAll changes).save files cwd = (saved, .ok ())) :
    ∃ reopened again text,
      load w s saved cwd = .ok reopened ∧
        reopened.values = (opened.changeAll changes).values ∧
        saved.readText cwd (s.filePath fileName) = .ok text ∧
        reopened.save saved cwd = (again, .ok ()) ∧
        again.readText cwd (s.filePath fileName) = .ok text := by
  obtain ⟨hStore, hWithin⟩ := within_load hOpened
  have hWell := wellFormed_changeAll hWithin.wellFormed hValues
  have hKept := (store_changeAll opened changes).trans hStore
  generalize opened.changeAll changes = changed at *
  obtain ⟨store, values⟩ := changed
  obtain rfl : store = some s := hKept
  obtain ⟨made, hWrite⟩ := exists_writeText_of_save hSaved
  have hText := (Files.readText_writeText (getLast?_join_fileName s.directory) hWrite).2
  obtain ⟨again, hAgain, hSame⟩ := save_saved hSaved
  have hLoad := load_save (w := w) hWell hExact hSaved
  rw [if_pos (show _ ≤ Json.levelLimit from hLevels)] at hLoad
  exact ⟨_, again, _, hLoad, rfl, hText, hAgain, hSame.trans hText⟩

/-- The settings of a workspace that has none yet. -/
def unsaved : SettingsStore := ⟨some (.ofWorkspace "/w/p"), []⟩

/-- Values with signs that are escaped, a character beyond the basic plane, and the least integer; one is
taken away again. -/
def sampleChanges : List Change :=
  [ .set "\"k\"" (.string "\\ \t \x01 😀"), .set "c" (.array [.int (-9223372036854775808), .object []]),
    .set "z" .null, .unset "z" ]

/-- The files after the changed settings were saved in a directory that had to be made. -/
def sampleFiles : Files := ((unsaved.changeAll sampleChanges).save [("/w", .directory)] "/w").1

/-- What is said of a text with too many levels. -/
def tooDeep : JsonStore.Wording := fun _ => "recursion limit exceeded"

/-- Settings are saved in a directory that is not there and found again. -/
theorem reopens_saved_made :
    ∃ reopened again text,
      load tooDeep (.ofWorkspace "/w/p") sampleFiles "/w" = .ok reopened ∧
        reopened.values =
          [ ("\"k\"", .string "\\ \t \x01 😀"),
            ("c", .array [.int (-9223372036854775808), .object []]) ] ∧
        sampleFiles.readText "/w" "/w/p/.exnova/settings.json" = .ok text ∧
        reopened.save sampleFiles "/w" = (again, .ok ()) ∧
        again.readText "/w" "/w/p/.exnova/settings.json" = .ok text := by
  have hOpened : load tooDeep (.ofWorkspace "/w/p") [("/w", .directory)] "/w" = .ok unsaved := rfl
  have hSaved : (unsaved.changeAll sampleChanges).save [("/w", .directory)] "/w" =
      (sampleFiles, .ok ()) := Prod.ext rfl rfl
  refine reopens_saved hOpened ?_ ?_ (by decide) hSaved
  · intro key v hMem
    simp only [sampleChanges, List.mem_cons, Change.set.injEq, reduceCtorEq, List.not_mem_nil,
      or_false] at hMem
    rcases hMem with ⟨-, rfl⟩ | ⟨-, rfl⟩ | ⟨-, rfl⟩
    · exact .string _
    · refine .array fun v hv => ?_
      simp only [List.mem_cons, List.not_mem_nil, or_false] at hv
      rcases hv with rfl | rfl
      · exact .number ⟨by decide, by decide⟩
      · exact .object .nil nofun
    · exact .null
  · refine .object fun m hm => ?_
    rcases List.mem_cons.mp hm with rfl | hm
    · exact .string _
    · rcases List.mem_singleton.mp hm with rfl
      exact .array (List.forall_mem_cons.mpr ⟨.int _, List.forall_mem_singleton.mpr (.object nofun)⟩)

end SettingsStore

end ExtensionHost
