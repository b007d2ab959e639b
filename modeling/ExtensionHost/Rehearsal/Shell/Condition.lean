import ExtensionHost.Process.Image
import ExtensionHost.Rehearsal.Shell.Machine
import ExtensionHost.Rehearsal.Shell.Numeral

/-!
# Conditions

What scripts test: texts, numbers and files, and combinations of such conditions. A word is an operator
or an operand by what stands behind it, so few words are read by their number.
-/

namespace ExtensionHost.Shell

/-! ## Words -/

/-- What a word is in its place. -/
inductive ConditionWord where
  | missing
  | operand
  | unary (op : String)
  | binary (op : String)
  | negation
  | conjunction
  | disjunction
  | opening
  | closing
  deriving Repr, DecidableEq

/-- The operators on one operand. -/
def unaryOperators : List String :=
  ["-r", "-w", "-x", "-e", "-f", "-d", "-c", "-b", "-p", "-u", "-g", "-k", "-s", "-t", "-z", "-n",
    "-h", "-O", "-G", "-L", "-S"]

/-- The operators between two operands. -/
def binaryOperators : List String :=
  ["=", "!=", "<", ">", "-eq", "-ne", "-ge", "-gt", "-le", "-lt", "-nt", "-ot", "-ef"]

/-- Whether a word is an operator between two operands. -/
def isBinaryOperator (word : Bytes) : Bool := binaryOperators.contains (toText word)

/-- What the first of some words is. An operator on one operand is an operand itself if none follows, or
if an operator between two operands follows that has a second one. -/
def conditionWord (words : List Bytes) : ConditionWord :=
  match words with
  | [] => .missing
  | word :: rest =>
    match toText word with
    | "!" => .negation
    | "-a" => .conjunction
    | "-o" => .disjunction
    | "(" => if rest.isEmpty then .operand else .opening
    | ")" => .closing
    | op =>
      if binaryOperators.contains op then .binary op
      else if unaryOperators.contains op then
        match rest with
        | [] => .operand
        | [_] => .unary op
        | next :: _ => if isBinaryOperator next then .operand else .unary op
      else .operand

/-! ## Single conditions -/

/-- What is wrong with a condition. -/
abbrev Tested := Except String (Bool × List Bytes)

/-- A number within a condition; blanks may stand around it. -/
def testedNumber (text : Bytes) : Except String Int :=
  let word := ((text.dropWhile isSpace).reverse.dropWhile isSpace).reverse
  match integer? word with
  | some i => if clamped i = i then .ok i else .error ("Illegal number: " ++ toText text)
  | none => .error ("Illegal number: " ++ toText text)

/-- Whether a condition on a file holds. -/
def fileCondition (m : Machine) (op : String) (path : Bytes) : Bool :=
  if path = "/dev/null".toList then ["-e", "-r", "-w", "-c", "-O", "-G"].contains op
  else
    match m.files.locate m.cwd (toText path) with
    | .ok (_, some (.file content executable)) =>
      match op with
      | "-x" => executable
      | "-s" => !content.isEmpty
      | op => ["-e", "-f", "-r", "-w", "-O", "-G"].contains op
    | .ok (_, some .directory) => ["-e", "-d", "-r", "-w", "-x", "-s", "-O", "-G"].contains op
    | _ => false

/-- Whether a condition on one operand holds. Nothing is a terminal. -/
def unaryCondition (m : Machine) (op : String) (operand : Bytes) : Except String Bool :=
  match op with
  | "-n" => .ok !operand.isEmpty
  | "-z" => .ok operand.isEmpty
  | "-t" => (testedNumber operand).map fun _ => false
  | op => .ok (fileCondition m op operand)

/-- Whether a condition on two operands holds. No file is older than another. -/
def binaryCondition (m : Machine) (a : Bytes) (op : String) (b : Bytes) : Except String Bool :=
  let numbers (f : Int → Int → Bool) : Except String Bool := do
    let x ← testedNumber a
    let y ← testedNumber b
    .ok (f x y)
  let fullName? (path : Bytes) : Option String :=
    match m.files.locate m.cwd (toText path) with
    | .ok (name, some _) => some name
    | _ => none
  match op with
  | "=" => .ok (a = b)
  | "!=" => .ok (a ≠ b)
  | "<" => .ok (List.lex a b fun c d => decide (c < d))
  | ">" => .ok (List.lex b a fun c d => decide (c < d))
  | "-eq" => numbers fun x y => x = y
  | "-ne" => numbers fun x y => x ≠ y
  | "-lt" => numbers fun x y => x < y
  | "-le" => numbers fun x y => x ≤ y
  | "-gt" => numbers fun x y => y < x
  | "-ge" => numbers fun x y => y ≤ x
  | "-ef" => .ok ((fullName? a).isSome && fullName? a = fullName? b)
  | _ => .ok false

/-! ## Combinations

Each function gets what the first word is and gives the words from the last one that it read on. -/

mutual

/-- A condition, or a combination in brackets. -/
def singleCondition (m : Machine) : Nat → ConditionWord → List Bytes → Tested
  | 0, _, _ => .error "closing paren expected"
  | fuel + 1, kind, words =>
    match kind with
    | .missing => .ok (false, words)
    | .opening =>
      let inner := words.tail
      match conditionWord inner with
      | .closing => .ok (false, inner)
      | kind => do
        let (holds, words) ← anyCondition m fuel kind inner
        if conditionWord words.tail = .closing then .ok (holds, words.tail)
        else .error "closing paren expected"
    | .unary op =>
      match words.tail with
      | [] => .error (op ++ ": argument expected")
      | operand :: rest => (unaryCondition m op operand).map fun holds => (holds, operand :: rest)
    | _ =>
      match conditionWord words.tail, words with
      | .binary op, a :: _ :: b :: rest =>
        (binaryCondition m a op b).map fun holds => (holds, b :: rest)
      | .binary op, _ => .error (op ++ ": argument expected")
      | _, words => .ok (!(words.headD []).isEmpty, words)

/-- A condition that may be negated. -/
def negatedCondition (m : Machine) : Nat → ConditionWord → List Bytes → Tested
  | 0, _, _ => .error "closing paren expected"
  | fuel + 1, kind, words =>
    match kind with
    | .negation =>
      let next := conditionWord words.tail
      (negatedCondition m fuel next (if next = .missing then words else words.tail)).map
        fun (holds, words) => (!holds, words)
    | kind => singleCondition m fuel kind words

/-- Conditions all of which have to hold. -/
def allConditions (m : Machine) : Nat → ConditionWord → List Bytes → Tested
  | 0, _, _ => .error "closing paren expected"
  | fuel + 1, kind, words => do
    let (holds, words) ← negatedCondition m fuel kind words
    if conditionWord words.tail = .conjunction then
      let rest := words.drop 2
      let (others, words) ← allConditions m fuel (conditionWord rest) rest
      .ok (holds && others, words)
    else .ok (holds, words)

/-- Conditions one of which has to hold. -/
def anyCondition (m : Machine) : Nat → ConditionWord → List Bytes → Tested
  | 0, _, _ => .error "closing paren expected"
  | fuel + 1, kind, words => do
    let (holds, words) ← allConditions m fuel kind words
    if conditionWord words.tail = .disjunction then
      let rest := words.drop 2
      let (others, words) ← anyCondition m fuel (conditionWord rest) rest
      .ok (holds || others, words)
    else .ok (holds, words)

end

/-- Whether a condition holds whose first word is of a kind. All words have to belong to it. -/
def wholeCondition (m : Machine) (kind : ConditionWord) (words : List Bytes) : Except String Bool := do
  let (holds, words) ← anyCondition m (6 * words.length + 6) kind words
  match words with
  | word :: _ :: _ => .error (toText word ++ ": unexpected operator")
  | _ => .ok holds

/-- Whether a condition holds. Three words with an operator between operands are such a condition;
otherwise three or four words may be in brackets or negated. -/
def conditionHolds (m : Machine) (words : List Bytes) : Except String Bool :=
  let plain (words : List Bytes) : Except String Bool :=
    wholeCondition m (conditionWord words) words
  match words with
  | [] => .ok false
  | [a, op, b] =>
    if isBinaryOperator op then wholeCondition m .operand words
    else if a = ['('] ∧ b = [')'] then plain [op]
    else if a = ['!'] then (plain [op, b]).map (!·)
    else plain words
  | [a, b, c, d] =>
    if a = ['('] ∧ d = [')'] then plain [b, c]
    else if a = ['!'] then
      (if isBinaryOperator c then wholeCondition m .operand [b, c, d]
        else if b = ['('] ∧ d = [')'] then plain [c]
        else if b = ['!'] then (plain [c, d]).map (!·)
        else plain [b, c, d]).map (!·)
    else plain words
  | words => plain words

end ExtensionHost.Shell
