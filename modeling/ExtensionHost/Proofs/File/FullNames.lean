import ExtensionHost.Proofs.File.Writing

/-!
# Full names

A path leads to a full name, and a full name leads to itself, from every working directory
(`full_of_locate`, `Full.locate`). The names on the way of a full name are those of the directories that it
stands in, one below the other (`Full`), so a path that goes up from one of them comes to the one above
(`Full.parent`).
-/

namespace ExtensionHost.Files

variable {files : Files}

/-! ## Cutting paths -/

section

variable {α : Type} [DecidableEq α] {separator : α}

theorem splitAt_ne_nil (separator : α) (list : List α) : Path.splitAt separator list ≠ [] := by
  cases list with
  | nil => exact nofun
  | cons a rest =>
    unfold Path.splitAt
    split
    · exact nofun
    · split <;> exact nofun

theorem splitAt_append (front back : List α) :
    Path.splitAt separator (front ++ separator :: back) =
      Path.splitAt separator front ++ Path.splitAt separator back := by
  induction front with
  | nil =>
    obtain ⟨part, parts, hBack⟩ := List.exists_cons_of_ne_nil (splitAt_ne_nil separator back)
    have hCut : Path.splitAt separator (separator :: back) = [] :: part :: parts := by
      rw [Path.splitAt, hBack]
      exact if_pos rfl
    rw [List.nil_append, hCut, hBack]
    rfl
  | cons a front ih =>
    obtain ⟨part, parts, hFront⟩ := List.exists_cons_of_ne_nil (splitAt_ne_nil separator front)
    rw [List.cons_append, Path.splitAt, ih, Path.splitAt, hFront, List.cons_append]
    dsimp only
    split <;> rfl

theorem splitAt_eq_singleton {list : List α} (h : separator ∉ list) :
    Path.splitAt separator list = [list] := by
  induction list with
  | nil => rfl
  | cons a rest ih =>
    obtain ⟨hFirst, hRest⟩ := List.ne_and_not_mem_of_not_mem_cons h
    rw [Path.splitAt, ih hRest]
    exact if_neg (Ne.symm hFirst)

/-- The parts have no separator, and nothing that the list does not have. -/
theorem mem_splitAt {list part : List α} (h : part ∈ Path.splitAt separator list) :
    separator ∉ part ∧ ∀ a ∈ part, a ∈ list := by
  induction list generalizing part with
  | nil =>
    rw [List.mem_singleton.mp h]
    exact ⟨List.not_mem_nil, fun a ha => ha⟩
  | cons a rest ih =>
    rw [Path.splitAt] at h
    split at h
    · rename_i hNone
      exact absurd hNone (splitAt_ne_nil separator rest)
    · rename_i first parts hRest
      rw [hRest] at ih
      split at h
      · rcases List.mem_cons.mp h with rfl | hOld
        · exact ⟨List.not_mem_nil, fun a ha => absurd ha List.not_mem_nil⟩
        · exact ⟨(ih hOld).1, fun b hb => List.mem_cons_of_mem a ((ih hOld).2 b hb)⟩
      · rename_i hOther
        rcases List.mem_cons.mp h with rfl | hOld
        · obtain ⟨hNone, hAll⟩ := ih List.mem_cons_self
          refine ⟨List.not_mem_cons_of_ne_of_not_mem (Ne.symm hOther) hNone, fun b hb => ?_⟩
          rcases List.mem_cons.mp hb with rfl | hb
          · exact List.mem_cons_self
          · exact List.mem_cons_of_mem a (hAll b hb)
        · have hOld := ih (List.mem_cons_of_mem first hOld)
          exact ⟨hOld.1, fun b hb => List.mem_cons_of_mem a (hOld.2 b hb)⟩

end

/-! ## Names between slashes -/

/-- A name that stands between slashes and has no byte that ends texts. -/
structure Between (name : String) : Prop where
  slash : '/' ∉ name.toList
  zero : '\x00' ∉ name.toList

theorem between_pathNames {path name : String} (hZero : '\x00' ∉ path.toList)
    (h : name ∈ pathNames path) : Between name := by
  obtain ⟨part, hPart, rfl⟩ := List.mem_map.mp h
  obtain ⟨hSlash, hAll⟩ := mem_splitAt hPart
  exact ⟨by rwa [String.toList_ofList], fun hMem => hZero (hAll _ (by rwa [String.toList_ofList] at hMem))⟩

theorem pathNames_singleton {name : String} (h : Between name) : pathNames name = [name] := by
  rw [pathNames, splitAt_eq_singleton h.slash, List.map_singleton, String.ofList_toList]

theorem pathNames_append (directory : String) {name : String} (h : Between name) :
    pathNames (directory ++ "/" ++ name) = pathNames directory ++ [name] := by
  have hChars : (directory ++ "/" ++ name).toList = directory.toList ++ '/' :: name.toList := by
    rw [String.toList_append, String.toList_append, List.append_assoc]
    rfl
  rw [pathNames, hChars, splitAt_append, List.map_append]
  exact congrArg _ (pathNames_singleton h)

/-! ## Full names -/

/-- A full name: the root, or a name in a directory that has a full name. -/
inductive Full (files : Files) : String → Prop where
  | root : Full files "/"
  | child {directory name : String} (hAbove : Full files directory)
      (hDirectory : entry? files directory = some .directory) (hPlain : Plain name)
      (hBetween : Between name) : Full files (child directory name)

/-- What every full name looks like. -/
structure Shape (name : String) : Prop where
  absolute : Path.isAbsolute name = true
  zero : '\x00' ∉ name.toList
  slash : name ≠ "/" → name.toList.getLast? ≠ some '/'

theorem Shape.ne_empty {name : String} (h : Shape name) : name ≠ "" := by
  rintro rfl
  exact absurd h.absolute (by decide)

theorem toList_child (directory name : String) :
    (child directory name).toList =
      (if directory = "/" then [] else directory.toList) ++ '/' :: name.toList := by
  unfold child
  split
  · rw [String.toList_append]
    rfl
  · rw [String.toList_append, String.toList_append, List.append_assoc]
    rfl

theorem Plain.ne_nil {name : String} (h : Plain name) : name.toList ≠ [] :=
  fun hNil => h.not_idle (.inl (String.toList_eq_nil_iff.mp hNil))

theorem Full.shape {name : String} (h : Full files name) : Shape name := by
  induction h with
  | root => exact ⟨by decide, by decide, fun hOther => absurd rfl hOther⟩
  | @child directory name hAbove hDirectory hPlain hBetween ih =>
    have hChars := toList_child directory name
    obtain ⟨a, rest, hName⟩ := List.exists_cons_of_ne_nil hPlain.ne_nil
    refine ⟨?_, ?_, fun _ => ?_⟩
    · unfold Path.isAbsolute
      rw [hChars]
      have hAbsolute := ih.absolute
      unfold Path.isAbsolute at hAbsolute
      split
      · rfl
      · cases hAbove' : directory.toList with
        | nil =>
          rw [hAbove'] at hAbsolute
          exact absurd hAbsolute (by decide)
        | cons b more =>
          rw [hAbove'] at hAbsolute
          exact hAbsolute
    · rw [hChars, List.mem_append, List.mem_cons]
      rintro (hFront | hSlash | hBack)
      · split at hFront
        · cases hFront
        · exact ih.zero hFront
      · cases hSlash
      · exact hBetween.zero hBack
    · rw [hChars, hName, List.getLast?_append, List.getLast?_cons_cons, ← hName]
      intro hLast
      cases hFound : name.toList.getLast? with
      | none => exact hPlain.ne_nil (List.getLast?_eq_none_iff.mp hFound)
      | some c =>
        rw [hFound] at hLast
        cases hLast
        exact hBetween.slash (List.mem_of_getLast? hFound)

theorem parent_child {directory name : String} (hAbove : Shape directory) (h : Between name) :
    parent (child directory name) = directory := by
  have hBack : ((child directory name).toList.reverse.dropWhile (· ≠ '/')).drop 1 =
      (if directory = "/" then [] else directory.toList).reverse := by
    have hAll : ∀ c ∈ name.toList.reverse, decide (c ≠ '/') = true := by
      intro c hc
      refine decide_eq_true fun hSlash => h.slash ?_
      rw [← hSlash]
      exact List.mem_reverse.mp hc
    rw [toList_child, List.reverse_append, List.reverse_cons, List.append_assoc,
      List.dropWhile_append_of_pos hAll]
    rfl
  unfold parent
  dsimp only
  rw [hBack]
  by_cases hRoot : directory = "/"
  · rw [if_pos hRoot, hRoot]
    rfl
  · have hSome : directory.toList.reverse.isEmpty = false := by
      rw [List.isEmpty_reverse, List.isEmpty_eq_false_iff]
      exact fun hNil => hAbove.ne_empty (String.toList_eq_nil_iff.mp hNil)
    rw [if_neg hRoot, hSome, List.reverse_reverse, String.ofList_toList]
    rfl

theorem Full.parent {name : String} (h : Full files name) : Full files (parent name) := by
  cases h with
  | root => exact .root
  | child hAbove hDirectory hPlain hBetween =>
    rw [parent_child hAbove.shape hBetween]
    exact hAbove

/-- From a directory with a full name every way leads to a full name. -/
theorem Leads.full {here name : String} {names : List String} (h : Leads files here names name)
    (hHere : Full files here) (hNames : ∀ n ∈ names, Between n) : Full files name := by
  induction h with
  | here => exact hHere
  | idle _ _ _ ih => exact ih hHere fun n hn => hNames n (List.mem_cons_of_mem _ hn)
  | up _ _ ih => exact ih hHere.parent fun n hn => hNames n (List.mem_cons_of_mem _ hn)
  | last hDirectory hPlain => exact .child hHere hDirectory hPlain (hNames _ List.mem_cons_self)
  | down hDirectory hPlain _ _ ih =>
    exact ih (.child hHere hDirectory hPlain (hNames _ List.mem_cons_self)) fun n hn =>
      hNames n (List.mem_cons_of_mem _ hn)

/-- What a path leads to from a directory with a full name has a full name. -/
theorem full_of_locate {cwd path name : String} {e : Option Entry} (hCwd : Full files cwd)
    (h : locate files cwd path = .ok (name, e)) : Full files name := by
  unfold locate at h
  split at h
  · cases h
  · split at h
    · cases h
    · rename_i hZero
      have hZero' : '\x00' ∉ path.toList := by simpa using hZero
      obtain ⟨hLeads, -⟩ := leads_of_walk h
      refine hLeads.full ?_ fun n hn => between_pathNames hZero' hn
      split
      · exact .root
      · exact hCwd

/-! ## The way of a full name -/

/-- A way to a directory may go on from there. -/
theorem Leads.append {here directory name : String} {names more : List String}
    (h : Leads files here names directory) (hDirectory : entry? files directory = some .directory)
    (hMore : Leads files directory more name) : Leads files here (names ++ more) name := by
  induction h with
  | here here => exact hMore
  | idle hHere hIdle _ ih => exact .idle hHere hIdle (ih hDirectory hMore)
  | up hHere _ ih => exact .up hHere (ih hDirectory hMore)
  | last hHere hFirst =>
    cases more with
    | nil =>
      cases hMore
      exact .last hHere hFirst
    | cons next rest => exact .down hHere hFirst hDirectory hMore
  | down hHere hFirst hNext _ ih => exact .down hHere hFirst hNext (ih hDirectory hMore)

/-- A way to something in a directory comes to that directory first. -/
theorem Leads.exists_above {here last name : String} {names : List String}
    (h : Leads files here (names ++ [last]) name) :
    ∃ above, Leads files here names above ∧ entry? files above = some .directory := by
  induction names generalizing here with
  | nil =>
    refine ⟨here, .here here, ?_⟩
    cases h <;> assumption
  | cons first rest ih =>
    rw [List.cons_append] at h
    generalize hTail : rest ++ [last] = tail at h
    cases h with
    | idle hHere hIdle hRest =>
      obtain ⟨above, hAbove, hDirectory⟩ := ih (hTail ▸ hRest)
      exact ⟨above, .idle hHere hIdle hAbove, hDirectory⟩
    | up hHere hRest =>
      obtain ⟨above, hAbove, hDirectory⟩ := ih (hTail ▸ hRest)
      exact ⟨above, .up hHere hAbove, hDirectory⟩
    | last => simp at hTail
    | down hHere hPlain hNext hRest =>
      obtain ⟨above, hAbove, hDirectory⟩ := ih (hTail ▸ hRest)
      refine ⟨above, ?_, hDirectory⟩
      cases rest with
      | nil =>
        cases hAbove
        exact .last hHere hPlain
      | cons => exact .down hHere hPlain hNext hAbove

theorem Full.leads {name : String} (h : Full files name) : Leads files "/" (pathNames name) name := by
  induction h with
  | root => exact .idle rfl (.inl rfl) (.idle rfl (.inl rfl) (.here "/"))
  | @child directory name hAbove hDirectory hPlain hBetween ih =>
    by_cases hRoot : directory = "/"
    · subst hRoot
      have hNames : pathNames (Files.child "/" name) = ["", name] := pathNames_append "" hBetween
      rw [hNames]
      exact .idle rfl (.inl rfl) (.last rfl hPlain)
    · have hNames : pathNames (Files.child directory name) = pathNames directory ++ [name] := by
        rw [Files.child, if_neg hRoot, pathNames_append directory hBetween]
      rw [hNames]
      exact ih.append hDirectory (.last hDirectory hPlain)

/-- **A full name leads to itself**, whatever the working directory is. -/
theorem Full.locate {name : String} (h : Full files name) (cwd : String) :
    locate files cwd name = .ok (name, entry? files name) := by
  have hShape := h.shape
  have hZero : ¬ name.toList.contains '\x00' = true := by simpa using hShape.zero
  rw [Files.locate, if_neg hShape.ne_empty, if_neg hZero, if_pos hShape.absolute]
  exact h.leads.walk

end ExtensionHost.Files
