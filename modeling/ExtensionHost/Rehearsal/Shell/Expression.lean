import ExtensionHost.Rehearsal.Shell.Numeral
import ExtensionHost.Rehearsal.Shell.Regex

/-!
# Expressions of words

Expressions whose parts are words of their own: texts and integers, comparisons, sums and products, the
matching of a text, and choices between two values.
-/

namespace ExtensionHost.Shell.Expression

/-- What is wrong with an expression. -/
inductive Fault where
  | missingAfter (word : Bytes)
  | unexpected (word : Bytes)
  | unclosed (word : Bytes)
  | noInteger
  | divisionByZero
  | regex (message : String)
  deriving Repr, DecidableEq

/-- What a program says about a fault. -/
def Fault.message : Fault → String
  | .missingAfter word => "syntax error: missing argument after '" ++ String.ofList word ++ "'"
  | .unexpected word => "syntax error: unexpected argument '" ++ String.ofList word ++ "'"
  | .unclosed word => "syntax error: expecting ')' after '" ++ String.ofList word ++ "'"
  | .noInteger => "non-integer argument"
  | .divisionByZero => "division by zero"
  | .regex message => message

/-- The words of an expression: the one that was read last, and those to come. -/
structure Words where
  last : Bytes := []
  rest : List Bytes

/-- Reading and evaluating from the front of words. -/
abbrev Reading := StateT Words (Except Fault)

/-- The next word; there has to be one. -/
def nextWord : Reading Bytes := do
  match (← get).rest with
  | [] => throw (.missingAfter (← get).last)
  | w :: rest =>
    set { last := w, rest : Words }
    return w

/-- The next word if it is one of some. -/
def accept (words : List String) : Reading (Option String) := do
  match (← get).rest with
  | [] => return none
  | w :: rest =>
    match words.find? (·.toList = w) with
    | none => return none
    | some name =>
      set { last := w, rest : Words }
      return some name

/-- The integer of a value: digits, perhaps behind a hyphen. -/
def integerOf (value : Bytes) : Option Int :=
  if value.head? = some '+' then none else integer? value

/-- Whether a value counts as none: an empty one, or zero. -/
def isNone (value : Bytes) : Bool := value.isEmpty || integerOf value = some 0

/-- What a pattern matches at the front of a text: its first group, or else the number of characters. -/
def matched (text pattern : Bytes) : Reading Bytes := do
  let pattern := if pattern.head? = some '^' then pattern else '^' :: pattern
  match Regex.ofText false false pattern with
  | .error message => throw (.regex message)
  | .ok r =>
    let hasGroup := (pattern.zip (pattern.drop 1)).contains ('\\', '(')
    match r.find? none text with
    | some f => return if hasGroup then f.group 1 else numberText f.whole.length
    | none => return if hasGroup then [] else ['0']

/-- The part of a text from a place on, counted from one. -/
def part (text start count : Bytes) : Bytes :=
  match integerOf start, integerOf count with
  | some start, some count =>
    if start ≤ 0 ∨ count ≤ 0 then [] else (text.drop (start.toNat - 1)).take count.toNat
  | _, _ => []

/-- The value of a comparison. -/
def compared (op : String) (a b : Bytes) : Bytes :=
  let order := match integerOf a, integerOf b with
    | some x, some y => compare x y
    | _, _ =>
      if a = b then .eq else if List.lex a b fun c d => decide (c < d) then .lt else .gt
  let holds : Bool := match op with
    | "=" | "==" => order = .eq
    | "!=" => order ≠ .eq
    | "<" => order = .lt
    | "<=" => order ≠ .gt
    | ">" => order = .gt
    | _ => order ≠ .lt
  if holds then ['1'] else ['0']

/-- The value of an operation on two integers. -/
def calculated (evaluated : Bool) (op : String) (a b : Bytes) : Reading Bytes := do
  if !evaluated then return a
  match integerOf a, integerOf b with
  | some x, some y =>
    match op with
    | "+" => return integerText (x + y)
    | "-" => return integerText (x - y)
    | "*" => return integerText (x * y)
    | op =>
      if y = 0 then throw .divisionByZero
      return integerText (if op = "/" then Int.tdiv x y else Int.tmod x y)
  | _, _ => throw .noInteger

mutual

/-- A word, a bracketed expression or a function of words. -/
def single : Nat → Bool → Reading Bytes
  | 0, _ => return []
  | fuel + 1, evaluated => do
    match String.ofList (← nextWord) with
    | "(" =>
      let v ← choice fuel evaluated
      match (← get).rest with
      | [')'] :: rest =>
        set { last := [')'], rest : Words }
        return v
      | _ => throw (.unclosed (← get).last)
    | ")" => throw (.unexpected [')'])
    | "+" => nextWord
    | "length" => return numberText (← single fuel evaluated).length
    | "match" =>
      let text ← single fuel evaluated
      let pattern ← single fuel evaluated
      matched text pattern
    | "index" =>
      let text ← single fuel evaluated
      let chars ← single fuel evaluated
      let n := text.findIdx chars.contains
      return numberText (if n < text.length then n + 1 else 0)
    | "substr" =>
      let text ← single fuel evaluated
      let start ← single fuel evaluated
      let count ← single fuel evaluated
      return part text start count
    | w => return w.toList

/-- Matches from left to right. -/
def matchesFrom : Nat → Bool → Bytes → Reading Bytes
  | 0, _, v => return v
  | fuel + 1, evaluated, v => do
    if (← accept [":"]).isNone then return v
    let pattern ← single fuel evaluated
    matchesFrom fuel evaluated (← if evaluated then matched v pattern else pure v)

/-- Products from left to right. -/
def productsFrom : Nat → Bool → Bytes → Reading Bytes
  | 0, _, v => return v
  | fuel + 1, evaluated, v => do
    match ← accept ["*", "/", "%"] with
    | none => return v
    | some op =>
      let w ← matchesFrom fuel evaluated (← single fuel evaluated)
      productsFrom fuel evaluated (← calculated evaluated op v w)

/-- A product. -/
def product : Nat → Bool → Reading Bytes
  | 0, _ => return []
  | fuel + 1, evaluated => do
    productsFrom fuel evaluated (← matchesFrom fuel evaluated (← single fuel evaluated))

/-- Sums from left to right. -/
def sumsFrom : Nat → Bool → Bytes → Reading Bytes
  | 0, _, v => return v
  | fuel + 1, evaluated, v => do
    match ← accept ["+", "-"] with
    | none => return v
    | some op => sumsFrom fuel evaluated (← calculated evaluated op v (← product fuel evaluated))

/-- Comparisons from left to right. -/
def comparisonsFrom : Nat → Bool → Bytes → Reading Bytes
  | 0, _, v => return v
  | fuel + 1, evaluated, v => do
    match ← accept ["<", "<=", "=", "==", "!=", ">=", ">"] with
    | none => return v
    | some op =>
      let w ← sumsFrom fuel evaluated (← product fuel evaluated)
      comparisonsFrom fuel evaluated (compared op v w)

/-- A comparison. -/
def comparison : Nat → Bool → Reading Bytes
  | 0, _ => return []
  | fuel + 1, evaluated => do
    comparisonsFrom fuel evaluated (← sumsFrom fuel evaluated (← product fuel evaluated))

/-- Values all of which have to count. -/
def allFrom : Nat → Bool → Bytes → Reading Bytes
  | 0, _, v => return v
  | fuel + 1, evaluated, v => do
    if (← accept ["&"]).isNone then return v
    let w ← comparison fuel (evaluated && !isNone v)
    allFrom fuel evaluated (if isNone v || isNone w then ['0'] else v)

/-- Values the first of which that counts is taken. -/
def choiceFrom : Nat → Bool → Bytes → Reading Bytes
  | 0, _, v => return v
  | fuel + 1, evaluated, v => do
    if (← accept ["|"]).isNone then return v
    let still := evaluated && isNone v
    let w ← allFrom fuel still (← comparison fuel still)
    choiceFrom fuel evaluated (if !isNone v then v else if isNone w then ['0'] else w)

/-- An expression. -/
def choice : Nat → Bool → Reading Bytes
  | 0, _ => return []
  | fuel + 1, evaluated => do
    choiceFrom fuel evaluated (← allFrom fuel evaluated (← comparison fuel evaluated))

end

/-- The value of words. -/
def value (words : List Bytes) : Except Fault Bytes := do
  let (v, left) ← (choice (12 * words.length + 12) true).run { rest := words }
  match left.rest with
  | [] => .ok v
  | w :: _ => .error (.unexpected w)

end ExtensionHost.Shell.Expression
