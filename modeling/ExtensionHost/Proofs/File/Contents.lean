import ExtensionHost.Document.Buffer
import ExtensionHost.Proofs.File.FullNames

/-!
# Contents of files

Two trees match if the same files with the same contents and the same directories stand in them; whether
files are executable may differ. Trees that match are the same to a document that is loaded
(`Matches.load`). A document that is stored where its path leads to replaces the content of that file and of
no other (`Place.store`); one that was not changed since it was loaded replaces nothing (`Loaded.encode`).
-/

namespace ExtensionHost

/-- An entry, whether it is executable or not. -/
def Entry.unmarked : Entry → Entry
  | .file content _ => .file content false
  | .directory => .directory

theorem Entry.unmarked_eq_directory {e : Entry} : e.unmarked = .directory ↔ e = .directory := by
  cases e <;> simp [unmarked]

namespace Files

variable {files other left : Files}

/-! ## Trees that match -/

/-- The same stands under all full names of two trees, but for marks on files that are executable. -/
def Matches (files other : Files) : Prop :=
  ∀ name, (other.entry? name).map Entry.unmarked = (files.entry? name).map Entry.unmarked

theorem Matches.refl (files : Files) : files.Matches files := fun _ => rfl

theorem Matches.symm (h : files.Matches other) : other.Matches files := fun name => (h name).symm

theorem Matches.trans {third : Files} (h : files.Matches other) (h' : other.Matches third) :
    files.Matches third := fun name => (h' name).trans (h name)

theorem Matches.entry? (h : files.Matches other) {name : String} {e : Entry}
    (hEntry : files.entry? name = some e) :
    ∃ e', other.entry? name = some e' ∧ e'.unmarked = e.unmarked := by
  have hName := h name
  rw [hEntry] at hName
  exact Option.map_eq_some_iff.mp hName

theorem Matches.directory (h : files.Matches other) {name : String}
    (hEntry : files.entry? name = some .directory) : other.entry? name = some .directory := by
  obtain ⟨e, hOther, hSame⟩ := h.entry? hEntry
  rw [hOther, Entry.unmarked_eq_directory.mp hSame]

/-- The content of the file under a full name. -/
def content? (files : Files) (name : String) : Option (List UInt8) :=
  match files.entry? name with
  | some (.file content _) => some content
  | _ => none

theorem content?_of_unmarked {name : String}
    (h : (other.entry? name).map Entry.unmarked = (files.entry? name).map Entry.unmarked) :
    other.content? name = files.content? name := by
  unfold content?
  cases hOther : other.entry? name with
  | none =>
    rw [hOther] at h
    rw [Option.map_eq_none_iff.mp h.symm]
  | some e =>
    rw [hOther] at h
    obtain ⟨e', hFiles, hSame⟩ := Option.map_eq_some_iff.mp h.symm
    rw [hFiles]
    cases e <;> cases e' <;> simp_all [Entry.unmarked]

theorem Matches.content? (h : files.Matches other) : other.content? = files.content? :=
  funext fun name => content?_of_unmarked (h name)

/-! ## Loading -/

theorem Leads.matches {here name : String} {names : List String} (h : Leads files here names name)
    (hMatches : files.Matches other) : Leads other here names name := by
  induction h with
  | here here => exact .here here
  | idle hHere hIdle _ ih => exact .idle (hMatches.directory hHere) hIdle ih
  | up hHere _ ih => exact .up (hMatches.directory hHere) ih
  | last hHere hPlain => exact .last (hMatches.directory hHere) hPlain
  | down hHere hPlain hNext _ ih =>
    obtain ⟨e, hOther, -⟩ := hMatches.entry? hNext
    exact .down (hMatches.directory hHere) hPlain hOther ih

theorem Full.matches {name : String} (h : Full files name) (hMatches : files.Matches other) :
    Full other name := by
  induction h with
  | root => exact .root
  | child _ hDirectory hPlain hBetween ih => exact .child ih (hMatches.directory hDirectory) hPlain hBetween

/-- Paths lead to the same names in trees that match. -/
theorem Matches.locate (h : files.Matches other) {cwd path name : String} {e : Option Entry}
    (hLocate : files.locate cwd path = .ok (name, e)) :
    other.locate cwd path = .ok (name, other.entry? name) ∧ files.entry? name = e := by
  unfold Files.locate at hLocate ⊢
  split at hLocate
  · cases hLocate
  · rename_i hSome
    split at hLocate
    · cases hLocate
    · rename_i hZero
      obtain ⟨hLeads, hEntry⟩ := leads_of_walk hLocate
      rw [if_neg hSome, if_neg hZero]
      exact ⟨(hLeads.matches h).walk, hEntry⟩

theorem Matches.fullName (h : files.Matches other) {cwd path name : String}
    (hName : files.fullName cwd path = .ok name) : other.fullName cwd path = .ok name := by
  unfold Files.fullName at hName ⊢
  split at hName
  · cases hName
  · cases hName
  · rename_i e hLocate
    cases hName
    obtain ⟨hOther, hEntry⟩ := h.locate hLocate
    obtain ⟨e', hThere, -⟩ := h.entry? hEntry
    rw [hOther, hThere]

theorem Matches.readBytes (h : files.Matches other) {cwd path : String} {content : List UInt8}
    (hBytes : files.readBytes cwd path = .ok content) : other.readBytes cwd path = .ok content := by
  unfold Files.readBytes at hBytes ⊢
  split at hBytes
  · cases hBytes
  · cases hBytes
  · cases hBytes
  · rename_i executable hLocate
    cases hBytes
    obtain ⟨hOther, hEntry⟩ := h.locate hLocate
    obtain ⟨e, hThere, hSame⟩ := h.entry? hEntry
    rw [hOther, hThere]
    cases e with
    | directory => cases hSame
    | file content' executable' =>
      cases hSame
      rfl

/-- What it means that a document was loaded: the full name that the path leads to, and the content of the
file, of which the text is what it encodes. -/
structure Loaded (files : Files) (cwd path : String) (b : Buffer) (name : String)
    (content : List UInt8) : Prop where
  fullName : files.fullName cwd path = .ok name
  bytes : files.readBytes cwd name = .ok content
  text : Utf8.decode? content = some b.text
  buffer : b =
    { uri := FileUri.ofPath name, path := some name, syntaxName := syntaxOf? (Utf8.encode name.toList)
      text := b.text }

theorem loaded_of_load {cwd path : String} {b : Buffer} (h : Buffer.load files cwd path = .ok b) :
    ∃ name content, Loaded files cwd path b name content := by
  unfold Buffer.load at h
  split at h
  · cases h
  · rename_i name hName
    unfold readText at h
    cases hBytes : files.readBytes cwd name with
    | error e =>
      rw [hBytes] at h
      cases h
    | ok content =>
      rw [hBytes] at h
      simp only [bind, Except.bind] at h
      cases hText : Utf8.decode? content with
      | none =>
        rw [hText] at h
        cases h
      | some text =>
        rw [hText] at h
        cases h
        refine ⟨name, content, hName, hBytes, ?_, ?_⟩
        · rw [String.toList_ofList, hText]
        · rfl

theorem Loaded.load {cwd path name : String} {b : Buffer} {content : List UInt8}
    (h : Loaded files cwd path b name content) : Buffer.load files cwd path = .ok b := by
  have hText : files.readText cwd name = .ok (String.ofList b.text) := by
    unfold readText
    rw [h.bytes]
    simp only [bind, Except.bind, h.text]
  unfold Buffer.load
  rw [h.fullName]
  dsimp only
  rw [hText]
  dsimp only
  rw [String.toList_ofList]
  exact congrArg Except.ok h.buffer.symm

theorem Loaded.matches {cwd path name : String} {b : Buffer} {content : List UInt8}
    (h : Loaded files cwd path b name content) (hMatches : files.Matches other) :
    Loaded other cwd path b name content :=
  ⟨hMatches.fullName h.fullName, hMatches.readBytes h.bytes, h.text, h.buffer⟩

/-- **A document is loaded alike from trees that match.** -/
theorem Matches.load (h : files.Matches other) {cwd path : String} {b : Buffer}
    (hLoad : Buffer.load files cwd path = .ok b) : Buffer.load other cwd path = .ok b := by
  obtain ⟨name, content, hLoaded⟩ := loaded_of_load hLoad
  exact (hLoaded.matches h).load

/-- The text of a document that was not changed since it was loaded is written as the content of its
file. -/
theorem Loaded.encode {cwd path name : String} {b : Buffer} {content : List UInt8}
    (h : Loaded files cwd path b name content) : Utf8.encode b.text = content :=
  Utf8.encode_of_decode? h.text

/-- A document is loaded from a file with a full name. -/
theorem Loaded.full {cwd path name : String} {b : Buffer} {content : List UInt8}
    (h : Loaded files cwd path b name content) (hCwd : Full files cwd) :
    Full files name ∧ ∃ executable, files.entry? name = some (.file content executable) := by
  have hFull : Full files name := by
    have hName := h.fullName
    unfold Files.fullName at hName
    split at hName
    · cases hName
    · cases hName
    · rename_i hLocate
      cases hName
      exact full_of_locate hCwd hLocate
  refine ⟨hFull, ?_⟩
  have hBytes := h.bytes
  unfold Files.readBytes at hBytes
  rw [hFull.locate cwd] at hBytes
  cases hEntry : files.entry? name with
  | none =>
    rw [hEntry] at hBytes
    cases hBytes
  | some e =>
    rw [hEntry] at hBytes
    cases e with
    | directory => cases hBytes
    | file content' executable =>
      cases hBytes
      exact ⟨executable, rfl⟩

/-! ## Storing -/

/-- One file of a tree has got a content, and nothing else differs but marks on files. -/
structure Replaced (files : Files) (name : String) (content : List UInt8) (left : Files) : Prop where
  content : left.content? name = some content
  others : ∀ other, other ≠ name →
    (left.entry? other).map Entry.unmarked = (files.entry? other).map Entry.unmarked

theorem Replaced.of_matches {name : String} {content : List UInt8} (h : Replaced other name content left)
    (hMatches : files.Matches other) : Replaced files name content left :=
  ⟨h.content, fun n hn => (h.others n hn).trans (hMatches n)⟩

theorem Replaced.matches_right {name : String} {content : List UInt8}
    (h : Replaced files name content other) (hMatches : other.Matches left) :
    Replaced files name content left :=
  ⟨(congrFun hMatches.content? name).trans h.content, fun n hn => (hMatches n).trans (h.others n hn)⟩

/-- A file that was replaced by what it was is as it was. -/
theorem Replaced.matches {name : String} {content : List UInt8} (h : Replaced files name content left)
    (hSame : files.content? name = some content) : files.Matches left := by
  intro n
  by_cases hn : n = name
  · subst hn
    have hFile : ∀ {tree : Files}, tree.content? n = some content →
        (tree.entry? n).map Entry.unmarked = some (.file content false) := by
      intro tree hTree
      unfold content? at hTree
      split at hTree
      · rename_i content' executable hEntry
        cases hTree
        rw [hEntry]
        rfl
      · cases hTree
    rw [hFile h.content, hFile hSame]
  · exact h.others n hn

theorem locate_of_locateFile {cwd path name : String} {old : Option Entry}
    (h : files.locateFile cwd path = .ok (name, old)) : files.locate cwd path = .ok (name, old) := by
  unfold locateFile at h
  split at h
  · split at h
    · rename_i last before _ _
      cases hAbove : walkTo files cwd path before with
      | error e =>
        rw [hAbove] at h
        cases h
      | ok above =>
        rw [hAbove] at h
        cases h
    · exact h
  · exact h

/-- A path leads to a file, or to where one can be made. -/
def Place (files : Files) (cwd path name : String) : Prop :=
  ∃ old, files.locateFile cwd path = .ok (name, old) ∧ old ≠ some .directory

theorem Place.not_directory {cwd path name : String} (h : files.Place cwd path name) :
    files.entry? name ≠ some .directory := by
  obtain ⟨old, hOld, hFile⟩ := h
  have hLocate := locate_of_locateFile hOld
  unfold locate at hLocate
  split at hLocate
  · cases hLocate
  · split at hLocate
    · cases hLocate
    · rw [(leads_of_walk hLocate).2]
      exact hFile

theorem replaced_insert {name : String} (h : files.entry? name ≠ some .directory) (content : List UInt8)
    (executable : Bool) :
    Replaced files name content (Keyed.insert name (.file content executable) files) := by
  refine ⟨?_, fun other hOther => ?_⟩
  · unfold content?
    rw [entry?_insert_self (ne_root h)]
  · rw [entry?_insert_of_ne hOther]

/-- **A document is stored where its path leads to.** -/
theorem Place.store {b : Buffer} {cwd path name : String} (h : files.Place cwd path name)
    (hPath : b.path = some path) :
    ∃ left, b.store files cwd = .ok left ∧ Replaced files name (Utf8.encode b.text) left := by
  have hReplaced := replaced_insert h.not_directory (Utf8.encode b.text)
  obtain ⟨old, hLocate, hFile⟩ := h
  unfold Buffer.store writeText writeBytes
  rw [hPath]
  dsimp only
  rw [hLocate, String.toList_ofList]
  cases old with
  | none => exact ⟨_, rfl, hReplaced false⟩
  | some e =>
    cases e with
    | directory => exact absurd rfl hFile
    | file content executable => exact ⟨_, rfl, hReplaced executable⟩

/-- A document without such a path is not stored. -/
theorem store_of_no_place {b : Buffer} {cwd : String}
    (h : ∀ path name, b.path = some path → ¬ files.Place cwd path name) :
    ∃ e, b.store files cwd = .error e := by
  unfold Buffer.store
  cases hPath : b.path with
  | none => exact ⟨_, rfl⟩
  | some path =>
    dsimp only
    unfold writeText writeBytes
    split
    · exact ⟨_, rfl⟩
    · exact ⟨_, rfl⟩
    · rename_i name content executable hLocate
      exact absurd ⟨_, hLocate, nofun⟩ (h path name hPath)
    · rename_i name hLocate
      exact absurd ⟨_, hLocate, nofun⟩ (h path name hPath)

end Files

end ExtensionHost
