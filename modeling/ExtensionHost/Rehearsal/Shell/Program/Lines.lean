import ExtensionHost.Rehearsal.Shell.Program.Basic
import ExtensionHost.Rehearsal.Shell.Sorting
import ExtensionHost.Rehearsal.Shell.StreamEdit
import ExtensionHost.Rehearsal.Shell.Transliteration

/-!
# Programs on lines

The programs of the system that read files or the input and write what becomes of them. Each is an
action on the machine that gives its status.
-/

namespace ExtensionHost.Shell

/-! ## Copies and parts -/

/-- A byte as it is shown with signs: a caret before control characters, and `M-` before bytes of the
upper half. -/
def shownByte (c : Char) : Bytes :=
  let low (n : Nat) : Bytes :=
    if n < 32 then ['^', Char.ofNat (n + 64)] else if n = 127 then ['^', '?'] else [Char.ofNat n]
  if c.toNat < 128 then low c.toNat else 'M' :: '-' :: low (c.toNat - 128)

/-- How lines are copied. -/
structure CopyRule where
  numbered : Bool := false
  numberedFull : Bool := false
  endsShown : Bool := false
  tabsShown : Bool := false
  signsShown : Bool := false
  squeezed : Bool := false

/-- Lines copied by a rule, `n` of which were numbered so far. -/
def CopyRule.lines (r : CopyRule) (lastOpen : Bool) : Nat → Bool → List Bytes → Bytes
  | _, _, [] => []
  | n, emptyBefore, line :: rest =>
    if r.squeezed && emptyBefore && line.isEmpty then r.lines lastOpen n true rest
    else
      let hasNumber := if r.numberedFull then !line.isEmpty else r.numbered
      let shown := line.flatMap fun c =>
        if c = '\t' then (if r.tabsShown then ['^', 'I'] else [c])
        else if r.signsShown then shownByte c
        else [c]
      let isOpen := lastOpen && rest.isEmpty
      let front := if hasNumber then padLeft 6 (numberText (n + 1)) ++ ['\t'] else []
      let ending := (if r.endsShown && !isOpen then ['$'] else []) ++ (if isOpen then [] else ['\n'])
      front ++ shown ++ ending ++ r.lines lastOpen (if hasNumber then n + 1 else n) line.isEmpty rest

/-- Copies files or the input to the output. What has come of the input is copied at once. -/
def cat (args : List Bytes) : Action Nat :=
  let names := [("number", 'n'), ("number-nonblank", 'b'), ("show-all", 'A'), ("show-ends", 'E'),
    ("squeeze-blank", 's'), ("show-tabs", 'T'), ("show-nonprinting", 'v')]
  called "cat" { plain := "AbeEnstTuv", names } 1 args fun c => do
    let any (letters : String) : Bool := letters.toList.any c.has
    if any "AbeEnstTv" then
      let (text, fine) ← inputOf "cat" pathComplaint c.operands
      let (lines, lastOpen) := linesOf text
      let r : CopyRule :=
        { numbered := c.has 'n', numberedFull := c.has 'b', endsShown := any "AeE"
          tabsShown := any "AtT", signsShown := any "Aetv", squeezed := c.has 's' }
      put (r.lines lastOpen 0 false lines)
      return statusOf fine 1
    let mut fine := true
    for path in (if c.operands.isEmpty then [['-']] else c.operands) do
      if path = ['-'] then
        put (← takeSome)
        awaitEnd
      else if path = zeroDevice then throw .endless
      else
        match ← fileBytes path with
        | .ok content => put content
        | .error e =>
          complainOf "cat" (pathComplaint path e)
          fine := false
    return statusOf fine 1

/-- A number of lines or bytes, perhaps with a letter for its size, and whether a sign stands before
it. -/
def amount? (text : Bytes) : Option (Option Char × Nat) :=
  let (sign, digits) := match text with
    | '-' :: rest => (some '-', rest)
    | '+' :: rest => (some '+', rest)
    | rest => (none, rest)
  if !digits.head?.any Char.isDigit then none
  else
    let (n, rest) := leadingNumber digits
    match rest with
    | [] => some (sign, n)
    | ['b'] => some (sign, n * 512)
    | ['k'] => some (sign, n * 1024)
    | ['K'] => some (sign, n * 1024)
    | ['M'] => some (sign, n * 1048576)
    | _ => none

/-- An old way to give a number of lines: digits behind the first hyphen. -/
def withLineOption (args : List Bytes) : List Bytes :=
  match args with
  | ('-' :: c :: digits) :: rest =>
    if (c :: digits).all Char.isDigit then "-n".toList :: (c :: digits) :: rest else args
  | args => args

/-- Writes what is made of each file, behind its name if there are several or they are asked for. -/
def putEach (c : Call) (contents : List (Bytes × Bytes)) (f : Bytes → Bytes) : Action Unit := do
  let titled := !c.has 'q' && (c.has 'v' || 1 < c.operands.length)
  let mut first := true
  for (path, text) in contents do
    if titled then
      let name := if path = ['-'] then "standard input".toList else path
      put ((if first then [] else ['\n']) ++ "==> ".toList ++ name ++ " <==\n".toList)
    put (f text)
    first := false

/-- The front of the input or of files. -/
def head (args : List Bytes) : Action Nat :=
  let names := [("lines", 'n'), ("bytes", 'c'), ("quiet", 'q'), ("silent", 'q'), ("verbose", 'v')]
  called "head" { plain := "qvz", valued := "nc", names } 1 (withLineOption args) fun c => do
    let refuse (what : String) (value : Bytes) : Action Nat := do
      complainOf "head" ("invalid number of " ++ what ++ ": " ++ inQuotes value)
      return 1
    let write (f : Bytes → Bytes) : Action Nat := do
      let (contents, fine) ← contentsOf "head" openComplaint c.operands
      putEach c contents f
      return statusOf fine 1
    match c.value? 'c' with
    | some value =>
      match amount? value with
      | none => refuse "bytes" value
      | some (some '-', n) => write fun text => text.take (text.length - n)
      | some (_, n) =>
        if c.operands.isEmpty then
          put (← takeBytes n)
          return 0
        if c.operands = [zeroDevice] then
          put (List.replicate n '\x00')
          return 0
        write (List.take n)
    | none =>
      let value := (c.value? 'n').getD ['1', '0']
      match amount? value with
      | none => refuse "lines" value
      | some (some '-', n) => write fun text => firstLines ((linesOf text).1.length - n) text
      | some (_, n) => write (firstLines n)

/-- The end of the input or of files. -/
def tail (args : List Bytes) : Action Nat :=
  let names := [("lines", 'n'), ("bytes", 'c'), ("quiet", 'q'), ("silent", 'q'), ("verbose", 'v'),
    ("follow", 'f')]
  called "tail" { plain := "qvzfF", valued := "nc", names } 1 (withLineOption args) fun c => do
    let write (f : Bytes → Bytes) : Action Nat := do
      let (contents, fine) ← contentsOf "tail" openComplaint c.operands
      putEach c contents f
      if c.has 'f' || c.has 'F' then throw .endless
      return statusOf fine 1
    match c.value? 'c' with
    | some value =>
      match amount? value with
      | none =>
        complainOf "tail" ("invalid number of bytes: " ++ inQuotes value)
        return 1
      | some (some '+', n) => write fun text => text.drop (n - 1)
      | some (_, n) => write fun text => text.drop (text.length - n)
    | none =>
      let value := (c.value? 'n').getD ['1', '0']
      match amount? value with
      | none =>
        complainOf "tail" ("invalid number of lines: " ++ inQuotes value)
        return 1
      | some (some '+', n) =>
        write fun text =>
          let (lines, lastOpen) := linesOf text
          textOfLines (lines.drop (n - 1)) lastOpen
      | some (_, n) => write (lastLines n)

/-! ## Counting -/

/-- The length of the longest line, tabs leading to multiples of eight. -/
def longestLine (text : Bytes) : Nat :=
  ((linesOf text).1.map fun line =>
    line.foldl (fun n c => if c = '\t' then n / 8 * 8 + 8 else n + 1) 0).foldl max 0

/-- Counts lines, words, characters and bytes. -/
def wc (args : List Bytes) : Action Nat :=
  let names := [("lines", 'l'), ("words", 'w'), ("bytes", 'c'), ("chars", 'm'),
    ("max-line-length", 'L')]
  called "wc" { plain := "lwcmL", names } 1 args fun c => do
    let m ← get
    let (contents, fine) ← contentsOf "wc" pathComplaint c.operands
    let wanted := if c.options.isEmpty then "lwc".toList else "lwmcL".toList.filter c.has
    let count (text : Bytes) : Char → Nat
      | 'l' => text.count '\n'
      | 'w' => wordCount text
      | 'L' => longestLine text
      | _ => text.length
    let rows := contents.map fun (path, text) => (path, wanted.map (count text))
    let total := wanted.zipIdx.map fun (letter, i) =>
      let column := rows.map fun (_, counts) => (counts[i]?).getD 0
      if letter = 'L' then column.foldl max 0 else column.foldl (· + ·) 0
    let size := (contents.flatMap Prod.snd).length
    let width :=
      if c.operands.length ≤ 1 ∧ wanted.length = 1 then 1
      else if m.fromFile || c.operands.all (· ≠ ['-']) && !c.operands.isEmpty then
        (numberText size).length
      else 7
    let row (counts : List Nat) (name : Bytes) : Bytes :=
      joined (counts.map fun n => padLeft width (numberText n)) ++
        (if name.isEmpty then [] else ' ' :: name) ++ ['\n']
    for (path, counts) in rows do put (row counts (if c.operands.isEmpty then [] else path))
    if 1 < c.operands.length then put (row total "total".toList)
    return statusOf fine 1

/-! ## Characters -/

/-- Replaces or deletes characters of the input. -/
def tr (args : List Bytes) : Action Nat :=
  let names := [("complement", 'c'), ("delete", 'd'), ("squeeze-repeats", 's'), ("truncate-set1", 't')]
  called "tr" { plain := "cCdst", names } 1 args fun c => do
    let delete := c.has 'd'
    let squeezed := c.has 's'
    let most := if delete && !squeezed then 1 else 2
    match c.operands with
    | [] => complainOfCall "tr" "missing operand" 1
    | [set] =>
      if delete && squeezed then
        complainOfCall "tr" ("missing operand after " ++ inQuotes set ++
          "\nTwo strings must be given when both deleting and squeezing repeats.") 1
      else if delete || squeezed then write c [set]
      else
        complainOfCall "tr" ("missing operand after " ++ inQuotes set ++
          "\nTwo strings must be given when translating.") 1
    | sets =>
      match sets[most]? with
      | some extra =>
        complainOfCall "tr" ("extra operand " ++ inQuotes extra ++
          (if most = 1 then "\nOnly one string may be given when deleting without squeezing repeats."
            else "")) 1
      | none =>
        write c sets
where
  /-- Writes what becomes of the input. -/
  write (c : Call) (sets : List Bytes) : Action Nat := do
    let t : Transliteration :=
      { complement := c.has 'c' || c.has 'C', delete := c.has 'd', squeezed := c.has 's'
        truncated := c.has 't' }
    match t.applied sets with
    | .ok f =>
      put (f (← takeAll))
      return 0
    | .error fault =>
      complainOf "tr" fault
      return 1

/-- Lines from their end to their beginning. -/
def rev (args : List Bytes) : Action Nat :=
  called "rev" {} 1 args fun c => do
    let complaint : Complaint := fun path e => "cannot open " ++ toText path ++ ": " ++ plainMessage e
    let (text, fine) ← inputOf "rev" complaint c.operands
    let (lines, lastOpen) := linesOf text
    put (textOfLines (lines.map List.reverse) lastOpen)
    return statusOf fine 1

/-- Lines folded to a width; with `words` they are cut behind blanks where there are some. -/
def foldLine (width : Nat) (words : Bool) : Nat → Bytes → List Bytes
  | 0, line => [line]
  | fuel + 1, line =>
    if line.length ≤ width then [line]
    else
      let front := line.take width
      let kept := if words then (front.reverse.dropWhile fun c => c ≠ ' ' && c ≠ '\t').reverse else []
      let front := if kept.isEmpty then front else kept
      front :: foldLine width words fuel (line.drop front.length)

/-- Folds long lines. -/
def fold (args : List Bytes) : Action Nat :=
  called "fold" { plain := "bs", valued := "w", names := [("width", 'w'), ("spaces", 's')] } 1 args
    fun c => do
      let value := (c.value? 'w').getD ['8', '0']
      match number? value with
      | none =>
        complainOf "fold" ("invalid number of columns: " ++ inQuotes value)
        return 1
      | some 0 =>
        complainOf "fold" ("invalid number of columns: '0': Numerical result out of range")
        return 1
      | some width =>
        let (text, fine) ← inputOf "fold" pathComplaint c.operands
        let (lines, lastOpen) := linesOf text
        put (textOfLines (lines.flatMap fun line => foldLine width (c.has 's') line.length line) lastOpen)
        return statusOf fine 1

/-! ## Order and repetition -/

/-- Lines in reverse order. -/
def tac (args : List Bytes) : Action Nat :=
  called "tac" { plain := "br", valued := "s" } 1 args fun c => do
    let complaint : Complaint := fun path e =>
      "failed to open " ++ inQuotes path ++ " for reading: " ++ plainMessage e
    let (contents, fine) ← contentsOf "tac" complaint c.operands
    for (_, text) in contents do
      let (lines, lastOpen) := linesOf text
      put (match lines.reverse with
        | [] => []
        | line :: rest => (if lastOpen then line else line ++ ['\n']) ++ textOfLines rest false)
    return statusOf fine 1

/-- Says what a file that cannot be sorted is. -/
def sortComplaint : Complaint := fun path e =>
  (if e = .isDirectory then "read failed: " else "cannot read: ") ++ toText path ++ ": " ++ plainMessage e

/-- Sorts lines. -/
def sort (args : List Bytes) : Action Nat :=
  let names := [("numeric-sort", 'n'), ("reverse", 'r'), ("unique", 'u'), ("key", 'k'),
    ("field-separator", 't'), ("ignore-case", 'f'), ("ignore-leading-blanks", 'b'), ("stable", 's'),
    ("output", 'o'), ("check", 'c')]
  called "sort" { plain := "bdfgiMhnRrVcCmsuz", valued := "kotST", names } 2 args fun c => do
    let refuse (message : String) : Action Nat := do
      complainOf "sort" message
      return 2
    match (c.values 'k').mapM Sorting.Key.ofText, c.value? 't' with
    | .error message, _ => refuse message
    | _, some [] => refuse "empty tab"
    | .ok keys, separator =>
      let tab := separator.getD []
      if 1 < tab.length then return ← refuse ("multi-character tab " ++ inQuotes tab)
      let r : Sorting.Rule :=
        { separator := tab.head?, keys, manner := .ofLetters (c.options.map Prod.fst)
          unique := c.has 'u', stable := c.has 's' }
      let mut contents := []
      for path in (if c.operands.isEmpty then [['-']] else c.operands) do
        if path = ['-'] then contents := contents ++ [(path, ← takeAll)]
        else
          match ← fileBytes path with
          | .ok content => contents := contents ++ [(path, content)]
          | .error e => return ← refuse (sortComplaint path e)
      if c.has 'c' || c.has 'C' then
        for (path, text) in contents do
          if let some (n, line) := r.disorder? 1 (linesOf text).1 then
            if c.has 'c' then
              complainOf "sort" (toText path ++ ":" ++ toString n ++ ": disorder: " ++ toText line)
            return 1
        return 0
      let out := textOfLines (r.sort (contents.flatMap fun (_, text) => (linesOf text).1)) false
      match c.value? 'o' with
      | none => put out
      | some path =>
        if let .error e := ← writeFile path out false then
          return ← refuse ("open failed: " ++ toText path ++ ": " ++ plainMessage e)
      return 0

/-- Leaves out repeated lines, or counts or selects them. -/
def uniq (args : List Bytes) : Action Nat :=
  let names := [("count", 'c'), ("repeated", 'd'), ("unique", 'u'), ("ignore-case", 'i'),
    ("skip-fields", 'f'), ("skip-chars", 's'), ("check-chars", 'w')]
  called "uniq" { plain := "cdDuiz", valued := "fsw", names } 1 args fun c => do
    let number (letter : Char) : Option Nat := (c.value? letter).bind number?
    let key (line : Bytes) : Bytes :=
      let skipped := (number 'f').getD 0 |>.repeat (fun line =>
        (line.dropWhile Sorting.isBlank).dropWhile fun c => !Sorting.isBlank c) line
      let rest := skipped.drop ((number 's').getD 0)
      let rest := match number 'w' with
        | some n => rest.take n
        | none => rest
      if c.has 'i' then rest.map Char.toLower else rest
    let (text, fine) ← inputOf "uniq" pathComplaint (c.operands.take 1)
    if !fine then return 1
    let runs := repeats (fun a b => key a = key b) (linesOf text).1
    let wanted := runs.filter fun (_, n) => !(c.has 'd' && n = 1) && !(c.has 'u' && n ≠ 1)
    let out := textOfLines (wanted.map fun (line, n) =>
      if c.has 'c' then padLeft 7 (numberText n) ++ ' ' :: line else line) false
    match c.operands with
    | [_, path] =>
      if let .error e := ← writeFile path out false then
        complainOf "uniq" (pathComplaint path e)
        return 1
    | _ => put out
    return 0

/-! ## Parts of lines -/

/-- Cuts bytes or fields out of lines. -/
def cut (args : List Bytes) : Action Nat :=
  let names := [("delimiter", 'd'), ("fields", 'f'), ("bytes", 'b'), ("characters", 'c'),
    ("only-delimited", 's'), ("complement", 'C'), ("output-delimiter", 'O')]
  called "cut" { plain := "nsz", valued := "bcdfO", names := names } 1 args fun c => do
    let lists := c.options.filter fun (letter, _) => "bcf".toList.contains letter
    let separator := (c.value? 'd').getD ['\t']
    match lists with
    | [] => complainOfCall "cut" "you must specify a list of bytes, characters, or fields" 1
    | [(letter, list)] =>
      if separator.length ≠ 1 then
        return ← complainOfCall "cut" "the delimiter must be a single character" 1
      let what := if letter = 'f' then "field" else "byte/character position"
      match ranges? list with
      | none =>
        let kind := if letter = 'f' then " value " else " "
        complainOfCall "cut" ("invalid " ++ what ++ kind ++ inQuotes list) 1
      | some ranges =>
        if ranges.any fun (n, last) => n = 0 || last = some 0 then
          return ← complainOfCall "cut"
            ((if letter = 'f' then "fields" else "byte/character positions") ++ " are numbered from 1") 1
        if ranges.any fun (n, last) => last.any (· < n) then
          return ← complainOfCall "cut" "invalid decreasing range" 1
        let (text, fine) ← inputOf "cut" pathComplaint c.operands
        let d := separator.headD '\t'
        let lines := (linesOf text).1
        let complement := c.has 'C'
        let lines :=
          if letter = 'f' then
            (lines.filter fun line => !c.has 's' || line.contains d).map
              (cutFields d (c.value? 'O') complement ranges)
          else lines.map (selectRanges complement ranges)
        put (textOfLines lines false)
        return statusOf fine 1
    | _ => complainOfCall "cut" "only one list may be specified" 1

/-- Lists side by side, as long as any of them has something left; `fuel` bounds them. -/
def sideBySide (separators : Nat → Bytes) : Nat → List (List Bytes) → List Bytes
  | 0, _ => []
  | fuel + 1, lists =>
    if lists.all List.isEmpty then []
    else
      let row := (lists.map fun l => l.headD []).zipIdx.flatMap fun (line, i) =>
        if i = 0 then line else separators (i - 1) ++ line
      row :: sideBySide separators fuel (lists.map List.tail)

/-- Lines dealt out to columns, one after the other. -/
def inColumns (count : Nat) (lines : List Bytes) : List (List Bytes) :=
  (List.range count).map fun column =>
    (lines.zipIdx.filter fun (_, i) => i % count = column).map Prod.fst

/-- Puts lines of files side by side, or the lines of each file. -/
def paste (args : List Bytes) : Action Nat :=
  let names := [("delimiters", 'd'), ("serial", 's')]
  called "paste" { plain := "sz", valued := "d", names } 1 args fun c => do
    let given := (c.value? 'd').getD ['\t']
    let marks := (unescape (given.length + 1) given).1
    let separators (i : Nat) : Bytes :=
      if marks.isEmpty then [] else ((marks[i % marks.length]?).map fun c => [c]).getD []
    let dashes := c.operands.count ['-']
    let (input, operands) := if c.has 's' ∨ dashes < 2 then ([], c.operands)
      else (c.operands, c.operands.filter (· ≠ ['-']))
    let text ← if input.isEmpty then pure [] else takeAll
    let shared := inColumns dashes (linesOf text).1
    let (contents, fine) ← if operands.isEmpty && !input.isEmpty then pure ([], true)
      else contentsOf "paste" pathComplaint operands
    if !fine then return 1
    let files := contents.map fun (_, text) => (linesOf text).1
    let lists := if input.isEmpty then files
      else (input.foldl (fun (acc : List (List Bytes) × List (List Bytes) × List (List Bytes)) a =>
        let (done, shared, files) := acc
        if a = ['-'] then (done ++ shared.take 1, shared.drop 1, files)
        else (done ++ files.take 1, shared, files.drop 1)) ([], shared, files)).1
    let lines :=
      if c.has 's' then
        lists.map fun lines => lines.zipIdx.flatMap fun (line, i) =>
          if i = 0 then line else separators (i - 1) ++ line
      else sideBySide separators ((lists.map List.length).foldl max 0 + 1) lists
    put (textOfLines lines false)
    return 0

/-- Numbers lines. -/
def nl (args : List Bytes) : Action Nat :=
  called "nl" { plain := "p", valued := "bdfhilnsvw" } 1 args fun c => do
    let (text, fine) ← inputOf "nl" pathComplaint c.operands
    let number (letter : Char) (otherwise : Nat) : Nat :=
      ((c.value? letter).bind number?).getD otherwise
    let all := c.value? 'b' = some ['a']
    let width := number 'w' 6
    let mark := (c.value? 's').getD ['\t']
    let step (acc : Nat × Bytes) (line : Bytes) : Nat × Bytes :=
      if all || !line.isEmpty then
        (acc.1 + number 'i' 1,
          acc.2 ++ padLeft width (numberText acc.1) ++ mark ++ line ++ ['\n'])
      else (acc.1, acc.2 ++ List.replicate (width + mark.length) ' ' ++ line ++ ['\n'])
    put ((linesOf text).1.foldl step (number 'v' 1, [])).2
    return statusOf fine 1

/-! ## Editing and selecting -/

/-- What a program says about a file that it cannot edit. -/
def editComplaint : Complaint := fun path e =>
  if e = .isDirectory then "couldn't edit " ++ toText path ++ ": not a regular file"
  else "can't read " ++ toText path ++ ": " ++ plainMessage e

/-- What a program says about a file that it cannot read for editing. -/
def editInputComplaint : Complaint := fun path e =>
  if e = .isDirectory then "read error on " ++ toText path ++ ": " ++ plainMessage e
  else "can't read " ++ toText path ++ ": " ++ plainMessage e

/-- Edits lines, in files themselves if asked to. -/
def sed (args : List Bytes) : Action Nat :=
  let names := [("quiet", 'n'), ("silent", 'n'), ("expression", 'e'), ("regexp-extended", 'E'),
    ("separate", 's'), ("in-place", 'i')]
  called "sed" { plain := "nErsuzi", valued := "ef", names } 1 args fun c => do
    let mut given := []
    for (letter, value) in c.options do
      if letter = 'e' then given := given ++ [value]
      if letter = 'f' then
        match ← fileBytes value with
        | .ok text =>
          given := given ++ [if text.getLast? = some '\n' then text.dropLast else text]
        | .error e =>
          complainOf "sed" ("couldn't open file " ++ toText value ++ ": " ++ plainMessage e)
          return 1
    let (scripts, paths) := if given.isEmpty then c.operands.splitAt 1 else (given, c.operands)
    match scripts with
    | [] =>
      complain "Usage: sed [OPTION]... \x7bscript-only-if-no-other-script\x7d [input-file]...\n".toList
      return 1
    | scripts =>
      match StreamEdit.readScript (c.has 'E' || c.has 'r') (['\n'].intercalate scripts) with
      | .error fault =>
        complainOf "sed" fault
        return 1
      | .ok commands =>
        match StreamEdit.missingLabel? commands with
        | some label =>
          complainOf "sed" ("can't find label for jump to \x60" ++ toText label ++ "'")
          return 4
        | none => pure ()
        let silent := c.has 'n' || (scripts.headD []).take 3 = "#n\n".toList ||
          scripts = ["#n".toList]
        if c.has 'i' then
          let mut status := 0
          for path in paths do
            match ← fileBytes path with
            | .error e =>
              complainOf "sed" (editComplaint path e)
              status := 4
            | .ok text =>
              match StreamEdit.edit commands silent text with
              | none => throw .endless
              | some (out, own) =>
                let _ ← writeFile path out false
                if own ≠ 0 then status := own
          return status
        let (contents, fine) ← contentsOf "sed" editInputComplaint paths
        let ended (text : Bytes) : Bytes :=
          if text.isEmpty || text.getLast? = some '\n' then text else text ++ ['\n']
        let texts := contents.map Prod.snd
        let text := (texts.dropLast.map ended).flatten ++ (texts.getLast?).getD []
        match StreamEdit.edit commands silent text with
        | none => throw .endless
        | some (out, own) =>
          put out
          let isDirectory (path : Bytes) : Action Bool := do
            return match ← locatePath path with
              | .ok (_, some .directory) => true
              | _ => false
          if !fine && (← paths.anyM isDirectory) then return 4
          return if own = 0 then statusOf fine 2 else own

/-- The lines of a text that some expressions select, with their numbers. -/
def selectedLines (rs : List Regex) (whole words inverted : Bool) (text : Bytes) :
    List (Bytes × Nat) :=
  ((linesOf text).1.zipIdx 1).filter fun (line, _) => (rs.any (selects line)) != inverted
where
  /-- Whether a word begins and ends with a match. -/
  isWord (f : Found) : Bool :=
    !f.front.getLast?.any isWordChar && !f.rest.head?.any isWordChar
  /-- Whether an expression selects a line. -/
  selects (line : Bytes) (r : Regex) : Bool :=
    match r.find? none line with
    | none => false
    | some f => if whole then f.whole.length = line.length else if words then isWord f else true

/-- The matches in a line that are not empty; `fuel` bounds them. -/
def matchesIn (rs : List Regex) : Nat → Option Char → Bytes → List Bytes
  | 0, _, _ => []
  | fuel + 1, before, line =>
    let found := rs.filterMap fun r => r.find? before line
    let first := found.foldl (fun (best : Option Found) f =>
      match best with
      | none => some f
      | some b =>
        if f.front.length < b.front.length ∨
            f.front.length = b.front.length ∧ b.whole.length < f.whole.length then some f
        else some b) none
    match first with
    | none => []
    | some f =>
      if f.whole.isEmpty then
        match f.rest with
        | [] => []
        | c :: rest => matchesIn rs fuel (some c) rest
      else f.whole :: matchesIn rs fuel f.whole.getLast? f.rest

/-- The lines around selected ones, in groups: with their numbers, and whether they were selected. -/
def withContext (before after : Nat) (lines : List Bytes) (selected : List Nat) :
    List (Bytes × Nat × Bool) :=
  (lines.zipIdx 1).filterMap fun (line, n) =>
    if selected.any fun m => n ≤ m + after && m ≤ n + before then
      some (line, n, selected.contains n)
    else none

/-- What is written for a file: lines with their names and numbers as the options ask for. -/
def selectionText (c : Call) (name : Option Bytes) (rs : List Regex) (lines : List Bytes)
    (selected : List (Bytes × Nat)) : Bytes :=
  let number (letter : Char) : Nat :=
    max (((c.value? letter).bind number?).getD 0) (((c.value? 'C').bind number?).getD 0)
  let front (mark : Char) (n : Nat) : Bytes :=
    (match name with
      | some name => name ++ [mark]
      | none => []) ++ (if c.has 'n' then numberText n ++ [mark] else [])
  if c.has 'o' then
    selected.flatMap fun (line, n) =>
      (matchesIn rs (line.length + 1) none line).flatMap fun m => front ':' n ++ m ++ ['\n']
  else
    let rows := withContext (number 'B') (number 'A') lines (selected.map Prod.snd)
    let asked := number 'A' + number 'B' ≠ 0
    (rows.zip (0 :: rows.map fun (_, n, _) => n)).flatMap fun ((line, n, isSelected), last) =>
      (if asked && last ≠ 0 && last + 1 ≠ n then "--\n".toList else []) ++
        front (if isSelected then ':' else '-') n ++ line ++ ['\n']

/-- Writes the lines that match. -/
def grep (args : List Bytes) : Action Nat :=
  let names := [("ignore-case", 'i'), ("invert-match", 'v'), ("count", 'c'), ("line-number", 'n'),
    ("quiet", 'q'), ("silent", 'q'), ("extended-regexp", 'E'), ("fixed-strings", 'F'),
    ("only-matching", 'o'), ("word-regexp", 'w'), ("line-regexp", 'x'), ("regexp", 'e'),
    ("files-with-matches", 'l'), ("no-filename", 'h'), ("with-filename", 'H'), ("max-count", 'm')]
  let usage := "Usage: grep [OPTION]... PATTERNS [FILE]...\nTry 'grep --help' for more information.\n"
  match Call.read { plain := "GEFPivcnqosxwlLhHasbTUuyzZ", valued := "efmABC", names } args with
  | .error message => do
    complain (ofText ("grep: " ++ message ++ "\n" ++ usage))
    return 2
  | .ok c => do
    let given := c.values 'e'
    let (patterns, paths) := if given.isEmpty then c.operands.splitAt 1 else (given, c.operands)
    if patterns.isEmpty then
      complain usage.toList
      return 2
    let folded := c.has 'i' || c.has 'y'
    let texts := patterns.flatMap (Path.splitAt '\n')
    let expressions := texts.mapM fun text =>
      if c.has 'F' then .ok (Regex.literal folded text)
      else Regex.ofText (c.has 'E' || c.has 'P') folded
        (if c.has 'x' then
          if c.has 'E' || c.has 'P' then "^(".toList ++ text ++ ")$".toList
          else "^\\(".toList ++ text ++ "\\)$".toList
        else text)
    match expressions with
    | .error message =>
      complainOf "grep" message
      return 2
    | .ok rs =>
      let complaint : Complaint := pathComplaint
      let (contents, fine) ← if c.has 's' then do
          let before ← get
          let r ← contentsOf "grep" complaint paths
          modify fun m => { m with errors := before.errors }
          pure r
        else contentsOf "grep" complaint paths
      let mut any := false
      for (path, text) in contents do
        let selected := selectedLines rs (c.has 'x' && c.has 'F') (c.has 'w') (c.has 'v') text
        let selected := match (c.value? 'm').bind number? with
          | some n => selected.take n
          | none => selected
        if !selected.isEmpty then any := true
        let shown := if path = ['-'] then "(standard input)".toList else path
        let name := if c.has 'H' || 1 < paths.length && !c.has 'h' then some shown else none
        if c.has 'q' then pure ()
        else if c.has 'l' then (if selected.isEmpty then pure () else put (shown ++ ['\n']))
        else if c.has 'L' then (if selected.isEmpty then put (shown ++ ['\n']) else pure ())
        else if c.has 'c' then
          let front := match name with
            | some name => name ++ [':']
            | none => []
          put (front ++ numberText selected.length ++ ['\n'])
        else put (selectionText c name rs (linesOf text).1 selected)
      if c.has 'q' && any then return 0
      return if !fine then 2 else if any then 0 else 1

end ExtensionHost.Shell
