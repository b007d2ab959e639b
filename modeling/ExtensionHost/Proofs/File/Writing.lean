import ExtensionHost.File.Tree
import ExtensionHost.Proofs.Text.Utf8

/-!
# Reading a file after writing it

A file that a text is put into is found under the same path afterwards and holds that text
(`readText_writeText`). All names on the way of a path are those of directories, and a file is put under
another name than these, so the way is the same afterwards.
-/

namespace ExtensionHost.Files

/-! ## The way of a path -/

/-- A name that leads from a directory into it. -/
structure Plain (name : String) : Prop where
  not_idle : ¬ (name = "" ∨ name = ".")
  ne_up : name ≠ ".."
  le_greatest : ¬ greatestName < name.utf8ByteSize

/-- Names lead from a directory to a full name: all on the way stand in directories, and nothing but the
last one may be missing. -/
inductive Leads (files : Files) : String → List String → String → Prop where
  | here (here : String) : Leads files here [] here
  | idle {here first name : String} {rest : List String} (hHere : entry? files here = some .directory)
      (hIdle : first = "" ∨ first = ".") (h : Leads files here rest name) :
      Leads files here (first :: rest) name
  | up {here name : String} {rest : List String} (hHere : entry? files here = some .directory)
      (h : Leads files (parent here) rest name) : Leads files here (".." :: rest) name
  | last {here first : String} (hHere : entry? files here = some .directory) (hPlain : Plain first) :
      Leads files here [first] (child here first)
  | down {here first next name : String} {rest : List String} {e : Entry}
      (hHere : entry? files here = some .directory) (hPlain : Plain first)
      (hNext : entry? files (child here first) = some e)
      (h : Leads files (child here first) (next :: rest) name) :
      Leads files here (first :: next :: rest) name

theorem leads_of_walk {files : Files} {names : List String} {here name : String} {e : Option Entry}
    (h : walk files here names = .ok (name, e)) :
    Leads files here names name ∧ entry? files name = e := by
  induction names generalizing here with
  | nil =>
    cases h
    exact ⟨.here _, rfl⟩
  | cons first rest ih =>
    rw [walk] at h
    split at h
    · cases h
    · cases h
    · rename_i hHere
      split at h
      · rename_i hIdle
        obtain ⟨hRest, hEntry⟩ := ih h
        exact ⟨.idle hHere hIdle hRest, hEntry⟩
      · rename_i hIdle
        split at h
        · rename_i hUp
          obtain ⟨hRest, hEntry⟩ := ih h
          exact ⟨hUp ▸ .up hHere hRest, hEntry⟩
        · rename_i hUp
          split at h
          · cases h
          · rename_i hShort
            have hPlain : Plain first := ⟨hIdle, hUp, hShort⟩
            dsimp only at h
            split at h
            · rename_i hEntry
              cases h
              exact ⟨.last hHere hPlain, hEntry⟩
            · cases h
            · rename_i hEntry
              cases h
              exact ⟨.last hHere hPlain, hEntry⟩
            · rename_i hEntry
              obtain ⟨hRest, hFound⟩ := ih h
              exact ⟨.down hHere hPlain hEntry hRest, hFound⟩

theorem Leads.walk {files : Files} {names : List String} {here name : String}
    (h : Leads files here names name) :
    Files.walk files here names = .ok (name, entry? files name) := by
  induction h with
  | here here => rfl
  | idle hHere hIdle _ ih => rw [Files.walk, hHere, if_pos hIdle, ih]
  | up hHere _ ih => rw [Files.walk, hHere, if_neg (by decide), if_pos rfl, ih]
  | last hHere hPlain =>
    rw [Files.walk, hHere, if_neg hPlain.not_idle, if_neg hPlain.ne_up, if_neg hPlain.le_greatest]
    dsimp only
    cases hEntry : entry? files (child _ _) <;> rfl
  | down hHere hPlain hNext _ ih =>
    rw [Files.walk, hHere, if_neg hPlain.not_idle, if_neg hPlain.ne_up, if_neg hPlain.le_greatest]
    dsimp only
    rw [hNext, ih]

/-! ## Putting a file at the end of the way -/

theorem entry?_insert_of_ne {name other : String} (h : other ≠ name) (e : Entry) (files : Files) :
    entry? (Keyed.insert name e files) other = entry? files other := by
  unfold entry?
  rw [Keyed.find?_insert_of_ne h]

theorem entry?_insert_self {name : String} (h : name ≠ "/") (e : Entry) (files : Files) :
    entry? (Keyed.insert name e files) name = some e := by
  unfold entry?
  rw [if_neg h, Keyed.find?_insert_self]

/-- Nothing gets lost by putting an entry somewhere. -/
theorem exists_entry?_insert {files : Files} {other : String} {old : Entry}
    (h : entry? files other = some old) (name : String) (e : Entry) :
    ∃ new, entry? (Keyed.insert name e files) other = some new := by
  by_cases hSame : other = name
  · subst hSame
    by_cases hRoot : other = "/"
    · exact ⟨.directory, if_pos hRoot⟩
    · exact ⟨e, entry?_insert_self hRoot e files⟩
  · exact ⟨old, by rw [entry?_insert_of_ne hSame, h]⟩

theorem ne_root {files : Files} {name : String}
    (h : entry? files name ≠ some .directory) : name ≠ "/" := by
  rintro rfl
  exact h rfl

/-- What is put where no directory stands is on no way. -/
theorem Leads.insert {files : Files} {names : List String} {here target name : String}
    (h : Leads files here names target) (hFile : entry? files name ≠ some .directory) (e : Entry) :
    Leads (Keyed.insert name e files) here names target := by
  have hStays {other : String} (hOther : entry? files other = some .directory) :
      entry? (Keyed.insert name e files) other = some .directory := by
    have hApart : other ≠ name := by
      rintro rfl
      exact hFile hOther
    rw [entry?_insert_of_ne hApart, hOther]
  induction h with
  | here here => exact .here here
  | idle hHere hIdle _ ih => exact .idle (hStays hHere) hIdle ih
  | up hHere _ ih => exact .up (hStays hHere) ih
  | last hHere hPlain => exact .last (hStays hHere) hPlain
  | down hHere hPlain hNext _ ih =>
    obtain ⟨new, hNew⟩ := exists_entry?_insert hNext name e
    exact .down (hStays hHere) hPlain hNew ih

/-- What is put where a path leads, unless a directory is there, is what the path leads to. -/
theorem locate_insert {files : Files} {cwd path name : String} {old : Option Entry}
    (h : locate files cwd path = .ok (name, old)) (hFile : old ≠ some .directory) (e : Entry) :
    locate (Keyed.insert name e files) cwd path = .ok (name, some e) := by
  unfold locate at h ⊢
  split at h
  · cases h
  · rename_i hSome
    split at h
    · cases h
    · rename_i hZero
      obtain ⟨hLeads, hOld⟩ := leads_of_walk h
      have hName : entry? files name ≠ some .directory := hOld ▸ hFile
      rw [if_neg hSome, if_neg hZero, (hLeads.insert hName e).walk,
        entry?_insert_self (ne_root hName)]

/-! ## Texts -/

/-- Only for a path that ends in a slash a file is made in another place than the path leads to. -/
theorem locateFile_eq {path : String} (h : path.toList.getLast? ≠ some '/') (files : Files)
    (cwd : String) : locateFile files cwd path = locate files cwd path := by
  unfold locateFile
  split
  · rw [if_neg]
    simp [h]
  · rfl

theorem readText_of_bytes {files : Files} {cwd path text : String}
    (h : readBytes files cwd path = .ok (Utf8.encode text.toList)) :
    files.readText cwd path = .ok text := by
  have hText : String.ofList text.toList = text := String.ofList_toList
  rw [readText, h]
  simp only [bind, Except.bind, Utf8.decode?_encode, hText]

/-- The path that a text was written to leads to a file that holds it. -/
theorem locate_writeText {files written : Files} {cwd path text : String}
    (hPath : path.toList.getLast? ≠ some '/')
    (h : files.writeText cwd path text = .ok written) :
    ∃ name executable,
      locate written cwd path = .ok (name, some (.file (Utf8.encode text.toList) executable)) := by
  unfold writeText writeBytes at h
  rw [locateFile_eq hPath] at h
  split at h
  · cases h
  · cases h
  · rename_i name content executable hOld
    cases h
    exact ⟨name, executable, locate_insert hOld nofun _⟩
  · rename_i name hOld
    cases h
    exact ⟨name, false, locate_insert hOld nofun _⟩

theorem readText_writeText {files written : Files} {cwd path text : String}
    (hPath : path.toList.getLast? ≠ some '/')
    (h : files.writeText cwd path text = .ok written) :
    written.exists? cwd path = true ∧ written.readText cwd path = .ok text := by
  obtain ⟨name, executable, hLocate⟩ := locate_writeText hPath h
  constructor
  · rw [exists?, find?, hLocate]
    rfl
  · exact readText_of_bytes (by rw [readBytes, hLocate])

end ExtensionHost.Files
