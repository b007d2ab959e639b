import ExtensionHost.File.Uri
import ExtensionHost.Proofs.File.Contents
import ExtensionHost.Proofs.Text.Boundaries

/-!
# Reading the addresses of paths

The address of a path names the same file again. What is written of a name has no character that ends a
part of an address (`Written`), so an address is cut where the path was, and the bytes of each name are read
back (`readBytes_writeName`). A name other than those of the directory itself and the one above is taken as
it is (`Route.add_writeName`), at the front as well, because the place of the host counts as an empty name.
What reading adds is a slash behind a path that ends like a drive (`toPath?_ofPath`).
-/

namespace ExtensionHost.FileUri

/-! ## Names -/

/-- A character that is visible and ends no part of an address. -/
structure Written (c : Char) : Prop where
  visible : isOuter c = false
  ne_slash : c ≠ '/'
  ne_backslash : c ≠ '\\'
  ne_query : c ≠ '?'
  ne_fragment : c ≠ '#'

theorem isOuter_of_isBreak {c : Char} (h : isBreak c = true) : isOuter c = true := by
  simp only [isBreak, Bool.or_eq_true, decide_eq_true_eq] at h
  rcases h with (rfl | rfl) | rfl <;> decide

theorem Written.not_isBreak {c : Char} (h : Written c) : isBreak c = false := by
  cases hBreak : isBreak c with
  | false => rfl
  | true => exact absurd (isOuter_of_isBreak hBreak) (by simp [h.visible])

theorem written_upperDigit {n : Nat} (h : n < 16) : Written (upperDigit n) := by
  have hAll : ∀ n : Fin 16, isOuter (upperDigit n) = false ∧ upperDigit n ≠ '/' ∧
      upperDigit n ≠ '\\' ∧ upperDigit n ≠ '?' ∧ upperDigit n ≠ '#' := by decide
  obtain ⟨hVisible, hSlash, hBackslash, hQuery, hFragment⟩ := hAll ⟨n, h⟩
  exact ⟨hVisible, hSlash, hBackslash, hQuery, hFragment⟩

theorem hexDigit?_upperDigit {n : Nat} (h : n < 16) : Text.hexDigit? (upperDigit n) = some n := by
  have hAll : ∀ n : Fin 16, Text.hexDigit? (upperDigit n) = some n.val := by decide
  exact hAll ⟨n, h⟩

/-- A plain byte is a visible character that is no mark of an address. -/
theorem plain_of_isPlain {b : UInt8} (h : isPlain b = true) :
    (Char.ofNat b.toNat).toNat = b.toNat ∧ 0x20 < b.toNat ∧ b.toNat < 0x7F ∧
      Char.ofNat b.toNat ≠ '%' ∧ Written (Char.ofNat b.toNat) := by
  simp only [isPlain, Bool.and_eq_true, decide_eq_true_eq, UInt8.lt_iff_toNat_lt, UInt8.reduceToNat,
    Bool.not_eq_true', List.contains_eq_mem, decide_eq_false_iff_not, List.mem_cons,
    not_or] at h
  obtain ⟨⟨hLow, hHigh⟩, -, hFragment, hPercent, hSlash, -, -, hQuery, hBackslash, -⟩ := h
  have hNat : (Char.ofNat b.toNat).toNat = b.toNat := Utf8.toNat_ofNat (.inl (by omega))
  refine ⟨hNat, hLow, hHigh, hPercent, ⟨?_, hSlash, hBackslash, hQuery, hFragment⟩⟩
  rw [isOuter, hNat, decide_eq_false_iff_not]
  omega

theorem written_writeName {name : List UInt8} {c : Char} (h : c ∈ writeName name) : Written c := by
  obtain ⟨b, -, hc⟩ := List.mem_flatMap.mp h
  unfold writeByte at hc
  split at hc
  · rename_i hPlain
    rw [List.mem_singleton.mp hc]
    obtain ⟨-, -, -, -, hWritten⟩ := plain_of_isPlain hPlain
    exact hWritten
  · have hByte := b.toNat_lt
    rcases List.mem_cons.mp hc with rfl | hc
    · constructor <;> decide
    rcases List.mem_cons.mp hc with rfl | hc
    · exact written_upperDigit (by omega)
    · rw [List.mem_singleton.mp hc]
      exact written_upperDigit (by omega)

theorem readBytes_cons {c : Char} (h : c ≠ '%') (rest : List Char) :
    readBytes (c :: rest) = String.utf8EncodeChar c ++ readBytes rest := by
  rw [readBytes]
  rintro a b more rfl
  exact absurd rfl h

theorem readBytes_escape {high low : Nat} (hHigh : high < 16) (hLow : low < 16) (rest : List Char) :
    readBytes ('%' :: upperDigit high :: upperDigit low :: rest) =
      UInt8.ofNat (high * 16 + low) :: readBytes rest := by
  rw [readBytes, hexDigit?_upperDigit hHigh, hexDigit?_upperDigit hLow]

/-- **The bytes of a name are read back**, whichever bytes they are. -/
theorem readBytes_writeName (name : List UInt8) : readBytes (writeName name) = name := by
  induction name with
  | nil => simp [writeName, readBytes]
  | cons b name ih =>
    have hByte := b.toNat_lt
    rw [writeName, List.flatMap_cons]
    change readBytes (writeByte b ++ writeName name) = _
    unfold writeByte
    split
    · rename_i hPlain
      obtain ⟨hNat, hLow, hHigh, hPercent, -⟩ := plain_of_isPlain hPlain
      rw [List.singleton_append, readBytes_cons hPercent, ih, Utf8.encodeChar_one (by omega),
        UInt8.ofNat_toNat, List.singleton_append]
    · have hValue : b.toNat / 16 * 16 + b.toNat % 16 = b.toNat := by omega
      rw [List.cons_append, List.cons_append, List.singleton_append,
        readBytes_escape (by omega) (by omega), ih, hValue, UInt8.ofNat_toNat]

/-! ## Routes -/

/-- A name of something below the directory that it stands in. -/
structure Below (name : List UInt8) : Prop where
  ne_nil : name ≠ []
  ne_here : name ≠ [Path.dot]
  ne_up : name ≠ [Path.dot, Path.dot]

theorem unbroken_writeName (name : List UInt8) : unbroken (writeName name) = writeName name := by
  refine List.filter_eq_self.mpr fun c hc => ?_
  rw [(written_writeName hc).not_isBreak]
  rfl

theorem writeName_ne_nil {name : List UInt8} (h : name ≠ []) : writeName name ≠ [] := by
  intro hNil
  have hName := readBytes_writeName name
  rw [hNil, readBytes] at hName
  exact h hName.symm

/-- Behind other names, a name is taken as it was written. -/
theorem Route.add_writeName {r : Route} {name : List UInt8} (hr : r.names ≠ []) (h : Below name)
    (last : Bool) : r.add last (writeName name) = { r with names := writeName name :: r.names } := by
  have hUp : isUp (writeName name) = false := by
    simp [isUp, readBytes_writeName, h.ne_up]
  have hHere : isHere (writeName name) = false := by
    simp [isHere, readBytes_writeName, h.ne_here]
  simp [Route.add, hr, unbroken_writeName, Route.addWhole, hUp, hHere]

/-- **Behind other names, a path of names is taken as it was written.** -/
theorem Route.addAll_writeName {r : Route} {names : List (List UInt8)} (hr : r.names ≠ [])
    (h : ∀ name ∈ names, Below name) :
    r.addAll (names.map writeName) = { r with names := (names.map writeName).reverse ++ r.names } := by
  induction names generalizing r with
  | nil => rfl
  | cons name names ih =>
    obtain ⟨hName, hNames⟩ := List.forall_mem_cons.mp h
    cases names with
    | nil => exact Route.add_writeName hr hName true
    | cons next more =>
      rw [List.map_cons, List.map_cons, Route.addAll, Route.add_writeName hr hName, ← List.map_cons,
        ih (List.cons_ne_nil _ _) hNames]
      · simp
      · exact nofun

/-! ## Paths -/

theorem flatMap_splitAt {α : Type} [DecidableEq α] (separator : α) (list : List α) :
    (Path.splitAt separator list).flatMap (separator :: ·) = separator :: list := by
  induction list with
  | nil => rfl
  | cons a rest ih =>
    rw [Path.splitAt]
    split
    · rename_i hNone
      exact absurd hNone (Files.splitAt_ne_nil separator rest)
    · rename_i part parts hRest
      rw [hRest, List.flatMap_cons, List.cons_append, List.cons.injEq] at ih
      obtain ⟨-, ih⟩ := ih
      split
      · rename_i hSeparator
        rw [List.flatMap_cons, List.flatMap_cons, List.cons_append, List.cons_append,
          List.nil_append, ih, hSeparator]
      · rw [List.flatMap_cons, List.cons_append, List.cons_append, ih]

/-- Names are cut where they were joined. -/
theorem splitAt_join {α : Type} [DecidableEq α] {separator : α} {first : List α}
    {names : List (List α)} (hFirst : separator ∉ first) (h : ∀ name ∈ names, separator ∉ name) :
    Path.splitAt separator (first ++ names.flatMap (separator :: ·)) = first :: names := by
  induction names generalizing first with
  | nil => rw [List.flatMap_nil, List.append_nil, Files.splitAt_eq_singleton hFirst]
  | cons name names ih =>
    obtain ⟨hName, hNames⟩ := List.forall_mem_cons.mp h
    rw [List.flatMap_cons, List.cons_append, Files.splitAt_append,
      Files.splitAt_eq_singleton hFirst, ih hName hNames, List.singleton_append]

/-- A path is cut as bytes where it is cut as a text. -/
theorem splitAt_encode (text : List Char) :
    Path.splitAt Path.slash (Utf8.encode text) = (Path.splitAt '/' text).map Utf8.encode := by
  obtain ⟨first, names, hCut⟩ := List.exists_cons_of_ne_nil (Files.splitAt_ne_nil '/' text)
  have hParts : ∀ part ∈ first :: names, Path.slash ∉ Utf8.encode part := fun part hPart =>
    Utf8.notMem_encode (by decide) (Files.mem_splitAt (hCut ▸ hPart)).1
  obtain ⟨hFirst, hNames⟩ := List.forall_mem_cons.mp hParts
  have hText : text = first ++ names.flatMap ('/' :: ·) := by
    have hJoined := flatMap_splitAt '/' text
    rw [hCut, List.flatMap_cons, List.cons_append, List.cons.injEq] at hJoined
    exact hJoined.2.symm
  have hBytes : Utf8.encode text =
      Utf8.encode first ++ (names.map Utf8.encode).flatMap (Path.slash :: ·) := by
    rw [hText, Utf8.encode_append, Utf8.encode, Utf8.encode, List.flatMap_assoc, List.flatMap_map]
    rfl
  rw [hCut, hBytes, splitAt_join hFirst (List.forall_mem_map.mpr hNames), List.map_cons]

/-- A path from the root to something below it: no name is missing, is that of the directory itself or
leads back up, and nothing follows the last one. -/
structure Direct (path : String) : Prop where
  absolute : Path.isAbsolute path = true
  below : ∀ name ∈ (Path.splitAt '/' path.toList).tail,
    name ≠ [] ∧ name ≠ ['.'] ∧ name ≠ ['.', '.']

/-- A path that ends like a drive: in a letter and a colon or a bar. -/
def EndsInDrive (path : String) : Prop :=
  ∃ front letter mark, path.toList = front ++ [letter, mark] ∧ letter.isAlpha = true ∧
    (mark = ':' ∨ mark = '|')

variable {path : String}

/-- The bytes of a direct path are its names, each behind a slash. -/
theorem Direct.exists_names (h : Direct path) :
    ∃ names, names ≠ [] ∧ (∀ name ∈ names, Below name) ∧
      Utf8.encode path.toList = names.flatMap (Path.slash :: ·) ∧
      Path.names (Utf8.encode path.toList) = names := by
  obtain ⟨rest, hRest⟩ : ∃ rest, path.toList = '/' :: rest := by
    have hAbsolute := h.absolute
    rw [Path.isAbsolute, decide_eq_true_eq, List.head?_eq_some_iff] at hAbsolute
    exact hAbsolute
  have hCut : Path.splitAt '/' path.toList = [] :: Path.splitAt '/' rest := by
    rw [hRest]
    exact Files.splitAt_append [] rest
  have hBytes : Utf8.encode path.toList = Path.slash :: Utf8.encode rest := by
    rw [hRest]
    rfl
  have hBelow : ∀ name ∈ (Path.splitAt '/' rest).map Utf8.encode, Below name := by
    refine List.forall_mem_map.mpr fun name hName => ?_
    obtain ⟨hNil, hHere, hUp⟩ := h.below name (by rw [hCut]; exact hName)
    exact ⟨mt Utf8.encode_eq_nil.mp hNil, mt (@Utf8.encode_inj name ['.']).mp hHere,
      mt (@Utf8.encode_inj name ['.', '.']).mp hUp⟩
  refine ⟨(Path.splitAt '/' rest).map Utf8.encode, ?_, hBelow, ?_, ?_⟩
  · exact mt List.map_eq_nil_iff.mp (Files.splitAt_ne_nil '/' rest)
  · rw [hBytes, ← splitAt_encode, flatMap_splitAt]
  · rw [Path.names, splitAt_encode, hCut, List.map_cons, Utf8.encode_nil]
    rw [List.filter_cons_of_neg (by simp)]
    refine List.filter_eq_self.mpr fun name hName => ?_
    simp [(hBelow name hName).ne_nil, (hBelow name hName).ne_here]

/-! ## A slash behind a drive -/

theorem toNat_of_isAlpha {c : Char} (h : c.isAlpha = true) : c.toNat < 128 := by
  rcases Bool.or_eq_true_iff.mp h with hUpper | hLower
  · have hLast : c.val ≤ 'Z'.val := (of_decide_eq_true hUpper).2
    exact Nat.lt_of_le_of_lt (UInt32.le_iff_toNat_le.mp hLast) (by decide)
  · have hLast : c.val ≤ 'z'.val := of_decide_eq_true (Bool.and_eq_true_iff.mp hLower).2
    exact Nat.lt_of_le_of_lt (UInt32.le_iff_toNat_le.mp hLast) (by decide)

theorem toNat_of_mark {c : Char} (h : c = ':' ∨ c = '|') : c.toNat < 128 := by
  rcases h with rfl | rfl <;> decide

/-- Reading adds a slash behind a drive. -/
theorem closeDrive_encode_of_endsInDrive (hAbsolute : Path.isAbsolute path = true)
    (hDrive : EndsInDrive path) :
    closeDrive (Utf8.encode path.toList) = Utf8.encode (path ++ "/").toList := by
  obtain ⟨front, letter, mark, hPath, hLetter, hMark⟩ := hDrive
  obtain ⟨b, hAscii, hb, hLetter'⟩ := Utf8.exists_encodeChar (toNat_of_isAlpha hLetter)
  obtain ⟨m, -, hm, hMark'⟩ := Utf8.exists_encodeChar (toNat_of_mark hMark)
  obtain ⟨byte, before, hFront⟩ : ∃ byte before, (Utf8.encode front).reverse = byte :: before := by
    refine List.exists_cons_of_ne_nil fun hNil => ?_
    rw [Utf8.encode_eq_nil.mp (List.reverse_eq_nil_iff.mp hNil), List.nil_append] at hPath
    rw [Path.isAbsolute, hPath, decide_eq_true_eq] at hAbsolute
    cases hAbsolute
    exact absurd hLetter (by decide)
  have hBytes : Utf8.encode path.toList = Utf8.encode front ++ [b, m] := by
    rw [hPath, Utf8.encode_append, Utf8.encode_cons, Utf8.encode_cons, hb, hm]
    rfl
  have hBack : (Utf8.encode path.toList).reverse = m :: b :: byte :: before := by
    rw [hBytes, List.reverse_append, hFront]
    rfl
  unfold closeDrive
  rw [hBack]
  dsimp only
  rw [hMark', hLetter', if_pos ⟨hMark, hAscii, hLetter⟩, String.toList_append, Utf8.encode_append]
  rfl

/-- Reading adds nothing to another path. -/
theorem closeDrive_encode_of_not (hDrive : ¬ EndsInDrive path) :
    closeDrive (Utf8.encode path.toList) = Utf8.encode path.toList := by
  unfold closeDrive
  split
  · rename_i m b byte before hBack
    dsimp only
    split
    · rename_i hDriven
      obtain ⟨hMark, hAscii, hLetter⟩ := hDriven
      have hBytes : Utf8.encode path.toList = ((byte :: before).reverse ++ [b]) ++ [m] := by
        rw [← List.reverse_reverse (Utf8.encode path.toList), hBack]
        simp
      have hMarkAscii : m < 0x80 := by
        have hNat : (Char.ofNat m.toNat).toNat = m.toNat :=
          Utf8.toNat_ofNat (.inl (Nat.lt_trans m.toNat_lt (by decide)))
        rw [UInt8.lt_iff_toNat_lt, ← hNat]
        exact toNat_of_mark hMark
      obtain ⟨front, hFront, hRest⟩ := Utf8.encode_eq_concat hMarkAscii hBytes
      obtain ⟨front', hFront', -⟩ := Utf8.encode_eq_concat hAscii hRest
      refine absurd ⟨front', _, _, ?_, hLetter, hMark⟩ hDrive
      rw [hFront, hFront', List.append_assoc]
      rfl
    · rfl
  · rfl

/-! ## Reading what was written -/

theorem trim_of_visible {uri : List Char} (h : ∀ c ∈ uri, isOuter c = false) : trim uri = uri := by
  have hDrop : ∀ {text : List Char}, (∀ c ∈ text, isOuter c = false) →
      text.dropWhile isOuter = text := by
    intro text hText
    cases text with
    | nil => rfl
    | cons c text =>
      rw [List.dropWhile_cons_of_neg]
      simp [hText c List.mem_cons_self]
  rw [trim, hDrop h, hDrop fun c hc => h c (List.mem_reverse.mp hc), List.reverse_reverse]

/-- The names of an address are those of the path, behind an empty one. -/
theorem namesOf_written (names : List (List UInt8)) :
    namesOf (names.flatMap fun name => '/' :: writeName name) = [] :: names.map writeName := by
  have hJoined : (names.flatMap fun name => '/' :: writeName name) =
      [] ++ (names.map writeName).flatMap ('/' :: ·) := by
    rw [List.flatMap_map]
    rfl
  have hChars : ∀ c ∈ names.flatMap fun name => '/' :: writeName name, c = '/' ∨ Written c := by
    intro c hc
    obtain ⟨name, -, hName⟩ := List.mem_flatMap.mp hc
    exact (List.mem_cons.mp hName).imp_right written_writeName
  have hWhole : ((names.flatMap fun name => '/' :: writeName name).takeWhile
      fun c => c ≠ '?' && c ≠ '#') = names.flatMap fun name => '/' :: writeName name := by
    rw [← List.append_nil (names.flatMap _), List.takeWhile_append_of_pos, List.takeWhile_nil]
    intro c hc
    rcases hChars c hc with rfl | hWritten
    · decide
    · simp [hWritten.ne_query, hWritten.ne_fragment]
  have hSlashes : ((names.flatMap fun name => '/' :: writeName name).map
      fun c => if c = '\\' then '/' else c) = names.flatMap fun name => '/' :: writeName name := by
    refine (List.map_congr_left fun c hc => ?_).trans (List.map_id _)
    rcases hChars c hc with rfl | hWritten
    · rfl
    · exact if_neg hWritten.ne_backslash
  rw [namesOf, hWhole, hSlashes, hJoined]
  refine splitAt_join List.not_mem_nil fun name hName hSlash => ?_
  obtain ⟨bytes, -, rfl⟩ := List.mem_map.mp hName
  exact (written_writeName hSlash).ne_slash rfl

/-- The route of an address leads through the names of the path. -/
theorem path_routeOf_written {names : List (List UInt8)} (hNil : names ≠ [])
    (h : ∀ name ∈ names, Below name) :
    (routeOf (names.flatMap fun name => '/' :: writeName name)).path =
      closeDrive (names.flatMap (Path.slash :: ·)) := by
  obtain ⟨name, more, rfl⟩ := List.exists_cons_of_ne_nil hNil
  have hFirst : ({} : Route).add false [] = { names := [[]] } := by
    simp [Route.add, cutDrive?, next?, Route.addWhole, unbroken, isUp, isHere, readBytes, isDrive]
  have hRoute : routeOf ((name :: more).flatMap fun name => '/' :: writeName name) =
      { names := ((name :: more).map writeName).reverse ++ [[]] } := by
    rw [routeOf, namesOf_written, List.map_cons, Route.addAll, hFirst, ← List.map_cons,
      Route.addAll_writeName (List.cons_ne_nil _ _) h]
    exact List.cons_ne_nil _ _
  have hFound : (((name :: more).map writeName).reverse ++ [[]]).reverse.dropWhile (· = []) =
      (name :: more).map writeName := by
    rw [List.reverse_append, List.reverse_reverse, List.reverse_singleton, List.singleton_append,
      List.dropWhile_cons_of_pos (by simp), List.map_cons, List.dropWhile_cons_of_neg]
    simp [writeName_ne_nil (h name List.mem_cons_self).ne_nil]
  rw [hRoute, Route.path]
  dsimp only
  rw [hFound, List.map_cons, List.isEmpty_cons, if_neg Bool.false_ne_true, ← List.map_cons,
    pathOfNames, List.flatMap_map]
  simp only [readBytes_writeName]

/-- **An address is read as the path that it was written for**, with a slash where that ends like a
drive. -/
theorem toPath?_ofNames {names : List (List UInt8)} (hNil : names ≠ [])
    (h : ∀ name ∈ names, Below name) :
    toPath? (String.ofList (ofNames names)) =
      some (String.ofList (Utf8.decodeLossy (closeDrive (names.flatMap (Path.slash :: ·))))) := by
  obtain ⟨name, more, rfl⟩ := List.exists_cons_of_ne_nil hNil
  have hVisible : ∀ c ∈ ofNames (name :: more), isOuter c = false := by
    intro c hc
    rcases List.mem_append.mp hc with hScheme | hName
    · have hNone : scheme.any isOuter = false := rfl
      exact Bool.eq_false_iff.mpr (List.any_eq_false.mp hNone c hScheme)
    · obtain ⟨name, -, hName⟩ := List.mem_flatMap.mp hName
      rcases List.mem_cons.mp hName with rfl | hName
      · rfl
      · exact (written_writeName hName).visible
  have hScheme : afterScheme? "file".toList (ofNames (name :: more)) =
      some ('/' :: '/' :: (name :: more).flatMap fun name => '/' :: writeName name) := rfl
  have hRest : pathOfRest? ('/' :: '/' :: (name :: more).flatMap fun name => '/' :: writeName name) =
      some (routeOf ((name :: more).flatMap fun name => '/' :: writeName name)).path := rfl
  have hUri : (String.ofList (ofNames (name :: more))).toList = ofNames (name :: more) :=
    String.toList_ofList
  rw [toPath?, hUri, trim_of_visible hVisible, hScheme, Option.bind_eq_bind, Option.bind_some, hRest,
    Option.bind_eq_bind, Option.bind_some, path_routeOf_written hNil h]

/-- What is read from the address of a direct path. -/
theorem toPath?_ofPath (h : Direct path) :
    toPath? (ofPath path) =
      some (String.ofList (Utf8.decodeLossy (closeDrive (Utf8.encode path.toList)))) := by
  obtain ⟨names, hNil, hBelow, hBytes, hNames⟩ := h.exists_names
  have hHead : (Utf8.encode path.toList).head? = some Path.slash := by
    obtain ⟨name, more, rfl⟩ := List.exists_cons_of_ne_nil hNil
    rw [hBytes]
    rfl
  rw [ofPath, ofBytes, if_pos hHead, hNames, toPath?_ofNames hNil hBelow, hBytes]

theorem toPath?_ofPath_of_endsInDrive (h : Direct path) (hDrive : EndsInDrive path) :
    toPath? (ofPath path) = some (path ++ "/") := by
  rw [toPath?_ofPath h, closeDrive_encode_of_endsInDrive h.absolute hDrive, Utf8.decodeLossy_encode,
    String.ofList_toList]

theorem toPath?_ofPath_of_not (h : Direct path) (hDrive : ¬ EndsInDrive path) :
    toPath? (ofPath path) = some path := by
  rw [toPath?_ofPath h, closeDrive_encode_of_not hDrive, Utf8.decodeLossy_encode,
    String.ofList_toList]

/-- Nothing follows the last name of a direct path. -/
theorem Direct.ne_append_slash (h : Direct path) (other : String) : path ≠ other ++ "/" := by
  rintro rfl
  have hCut : Path.splitAt '/' (other ++ "/").toList = Path.splitAt '/' other.toList ++ [[]] := by
    rw [String.toList_append]
    exact Files.splitAt_append other.toList []
  have hMem : [] ∈ (Path.splitAt '/' (other ++ "/").toList).tail := by
    rw [hCut, List.tail_append_of_ne_nil (Files.splitAt_ne_nil '/' other.toList)]
    exact List.mem_append_right _ List.mem_cons_self
  exact (h.below [] hMem).1 rfl

theorem ofPath_inj {other : String} (h : Direct path) (hOther : Direct other) :
    ofPath other = ofPath path ↔ other = path := by
  refine ⟨fun hSame => ?_, congrArg ofPath⟩
  have hRead := congrArg toPath? hSame
  by_cases hDrive : EndsInDrive path <;> by_cases hDrive' : EndsInDrive other
  · rw [toPath?_ofPath_of_endsInDrive h hDrive, toPath?_ofPath_of_endsInDrive hOther hDrive',
      Option.some_inj, String.append_left_inj] at hRead
    exact hRead
  · rw [toPath?_ofPath_of_endsInDrive h hDrive, toPath?_ofPath_of_not hOther hDrive',
      Option.some_inj] at hRead
    exact absurd hRead (hOther.ne_append_slash path)
  · rw [toPath?_ofPath_of_not h hDrive, toPath?_ofPath_of_endsInDrive hOther hDrive',
      Option.some_inj] at hRead
    exact absurd hRead.symm (h.ne_append_slash other)
  · rw [toPath?_ofPath_of_not h hDrive, toPath?_ofPath_of_not hOther hDrive',
      Option.some_inj] at hRead
    exact hRead

/-- That every direct path is read back from its address, and so shares it with no other one. -/
def ReadsBack : Prop :=
  (∀ path, Direct path → toPath? (ofPath path) = some path) ∧
    ∀ path other, Direct path → Direct other → ofPath other = ofPath path → other = path

/-- **A direct path is read back from its address unless it ends like a drive**, whatever else stands in
it. Behind a drive there is a slash then. Either way no other direct path has the same address. -/
theorem reads_ofPath (h : Direct path) :
    (¬ EndsInDrive path → toPath? (ofPath path) = some path) ∧
      (EndsInDrive path → toPath? (ofPath path) = some (path ++ "/")) ∧
      ∀ other, Direct other → ofPath other = ofPath path → other = path :=
  ⟨toPath?_ofPath_of_not h, toPath?_ofPath_of_endsInDrive h, fun _ hOther => (ofPath_inj h hOther).mp⟩

/-- A path with marks of addresses, and one that ends like a drive. -/
theorem reads_ofPath_marked :
    toPath? (ofPath "/my project/a:b\\c/100%20 é?#") = some "/my project/a:b\\c/100%20 é?#" ∧
      toPath? (ofPath "/lib/c:") = some "/lib/c:/" ∧
      ofPath "/lib/c:" ≠ ofPath "/my project/a:b\\c/100%20 é?#" := by
  have hMarked : Direct "/my project/a:b\\c/100%20 é?#" := ⟨by decide, by decide⟩
  have hDriven : Direct "/lib/c:" := ⟨by decide, by decide⟩
  obtain ⟨hBack, -, hOnly⟩ := reads_ofPath hMarked
  refine ⟨hBack ?_, (reads_ofPath hDriven).2.1 ⟨"/lib/".toList, 'c', ':', by decide, by decide, .inl rfl⟩,
    fun hSame => absurd (hOnly _ hDriven hSame) (by decide)⟩
  rintro ⟨front, letter, mark, hEnd, -, hMark⟩
  have hLast := congrArg List.getLast? hEnd
  rw [List.getLast?_append, List.getLast?_cons_cons] at hLast
  cases hLast
  rcases hMark with hMark | hMark <;> cases hMark

/-- A path that ends like a drive is read with a slash behind it. -/
theorem not_readsBack : ¬ ReadsBack := by
  rintro ⟨hRead, -⟩
  have hPath := hRead "/a/b:" ⟨by decide, by decide⟩
  rw [toPath?_ofPath_of_endsInDrive ⟨by decide, by decide⟩
    ⟨"/a/".toList, 'b', ':', by decide, by decide, .inl rfl⟩] at hPath
  exact absurd hPath (by decide)

end ExtensionHost.FileUri

namespace ExtensionHost.Files

variable {files : Files}

/-! ## Documents -/

/-- What has a full name below the root is named by a direct path. -/
theorem Full.direct {name : String} (h : Full files name) (hRoot : name ≠ "/") :
    FileUri.Direct name := by
  refine ⟨h.shape.absolute, ?_⟩
  induction h with
  | root => exact absurd rfl hRoot
  | @child directory name hAbove hDirectory hPlain hBetween ih =>
    have hName : name.toList ≠ [] ∧ name.toList ≠ ['.'] ∧ name.toList ≠ ['.', '.'] := by
      refine ⟨hPlain.ne_nil, fun hHere => hPlain.not_idle (.inr ?_), fun hUp => hPlain.ne_up ?_⟩
      · exact String.toList_inj.mp hHere
      · exact String.toList_inj.mp hUp
    rw [toList_child]
    split
    · rw [splitAt_append, splitAt_eq_singleton hBetween.slash]
      exact List.forall_mem_singleton.mpr hName
    · rename_i hBelow
      rw [splitAt_append, splitAt_eq_singleton hBetween.slash,
        List.tail_append_of_ne_nil (splitAt_ne_nil '/' directory.toList)]
      exact List.forall_mem_append.mpr ⟨ih hBelow, List.forall_mem_singleton.mpr hName⟩

/-- **Documents of files have one address exactly when they stand at one path**, so what is kept by the
address of a document is kept by its file. -/
theorem Loaded.uri_eq_iff {cwd path path' name name' : String} {b b' : Buffer}
    {content content' : List UInt8} (h : Loaded files cwd path b name content)
    (h' : Loaded files cwd path' b' name' content') (hCwd : Full files cwd) :
    b.uri = b'.uri ↔ b.path = b'.path := by
  have hDirect : ∀ {path name : String} {b : Buffer} {content : List UInt8},
      Loaded files cwd path b name content → FileUri.Direct name := by
    intro path name b content hLoaded
    obtain ⟨hFull, executable, hFile⟩ := hLoaded.full hCwd
    refine hFull.direct ?_
    rintro rfl
    cases hFile
  rw [h.buffer, h'.buffer]
  exact (FileUri.ofPath_inj (hDirect h') (hDirect h)).trans Option.some_inj.symm

end ExtensionHost.Files
