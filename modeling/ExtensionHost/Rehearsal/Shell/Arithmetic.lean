import ExtensionHost.Rehearsal.Shell.Machine
import ExtensionHost.Rehearsal.Shell.Numeral

/-!
# Arithmetic

Sums within scripts: integers of 64 bits, variables, and the operators of such numbers, some of which
assign. A sum is read as a tree and then evaluated; of two operands that exclude each other only one is
evaluated.
-/

namespace ExtensionHost.Shell

/-! ## Trees -/

/-- An operator between two numbers. -/
inductive BinaryOp where
  | times
  | over
  | modulo
  | plus
  | minus
  | shiftLeft
  | shiftRight
  | less
  | lessOrEqual
  | greater
  | greaterOrEqual
  | equal
  | unequal
  | bitAnd
  | bitXor
  | bitOr
  deriving Repr, DecidableEq

/-- How loosely an operator binds. -/
def BinaryOp.looseness : BinaryOp → Nat
  | .times | .over | .modulo => 0
  | .plus | .minus => 1
  | .shiftLeft | .shiftRight => 2
  | .less | .lessOrEqual | .greater | .greaterOrEqual => 3
  | .equal | .unequal => 4
  | .bitAnd => 5
  | .bitXor => 6
  | .bitOr => 7

/-- A sum. -/
inductive Sum where
  | number (n : Int)
  | variable (name : String)
  | minus (a : Sum)
  | isZero (a : Sum)
  | complement (a : Sum)
  | binary (op : BinaryOp) (a b : Sum)
  | both (a b : Sum)
  | either (a b : Sum)
  | choice (condition yes no : Sum)
  | assign (name : String) (op : Option BinaryOp) (a : Sum)
  deriving Repr

/-! ## Numbers -/

/-- The number that the value of a variable stands for. One that is blank stands for zero. -/
def variableNumber? (value : Bytes) : Option Int :=
  match signedConstant? value with
  | some (i, rest) =>
    if (rest.dropWhile isSpace).isEmpty && clamped i = i then some i else none
  | none => if (value.dropWhile isSpace).isEmpty then some 0 else none

/-! ## Reading -/

/-- A part of the text of a sum. -/
inductive SumToken where
  | number (n : Int)
  | name (name : String)
  | sign (sign : String)
  deriving Repr, DecidableEq

/-- The signs in sums, longer ones first. -/
def sumSigns : List String :=
  ["<<=", ">>=", "<<", ">>", "<=", ">=", "==", "!=", "&&", "||", "*=", "/=", "%=", "+=", "-=", "&=",
    "^=", "|=", "=", "<", ">", "!", "~", "*", "/", "%", "+", "-", "&", "^", "|", "?", ":", "(", ")"]

/-- The parts of the text of a sum. What is no part of a sum is a sign that nothing is made of; `fuel`
bounds the text. -/
def sumTokens : Nat → Bytes → List SumToken
  | 0, _ => []
  | _ + 1, [] => []
  | fuel + 1, c :: rest =>
    if c = ' ' ∨ c = '\t' ∨ c = '\n' then sumTokens fuel rest
    else if isNameStart c then
      let (name, rest) := variableName (c :: rest)
      .name (String.ofList name) :: sumTokens fuel rest
    else
      match constant? (c :: rest) with
      | some (n, rest) => .number (clamped n) :: sumTokens fuel rest
      | none =>
        match sumSigns.find? fun sign => sign.toList.isPrefixOf (c :: rest) with
        | some sign => .sign sign :: sumTokens fuel ((c :: rest).drop sign.length)
        | none => [.sign ""]

/-- The operator of a sign. -/
def BinaryOp.ofSign? : String → Option BinaryOp
  | "*" => some .times
  | "/" => some .over
  | "%" => some .modulo
  | "+" => some .plus
  | "-" => some .minus
  | "<<" => some .shiftLeft
  | ">>" => some .shiftRight
  | "<" => some .less
  | "<=" => some .lessOrEqual
  | ">" => some .greater
  | ">=" => some .greaterOrEqual
  | "==" => some .equal
  | "!=" => some .unequal
  | "&" => some .bitAnd
  | "^" => some .bitXor
  | "|" => some .bitOr
  | _ => none

/-- The operator that a sign assigns by, if it assigns: none for a plain equals sign. -/
def assigning? : String → Option (Option BinaryOp)
  | "=" => some none
  | "*=" => some (some .times)
  | "/=" => some (some .over)
  | "%=" => some (some .modulo)
  | "+=" => some (some .plus)
  | "-=" => some (some .minus)
  | "<<=" => some (some .shiftLeft)
  | ">>=" => some (some .shiftRight)
  | "&=" => some (some .bitAnd)
  | "^=" => some (some .bitXor)
  | "|=" => some (some .bitOr)
  | _ => none

/-- What reading a part of a sum gives: the part and what is behind it, or what was expected. -/
abbrev SumReading := Except String (Sum × List SumToken)

mutual

/-- Reads a sum that may assign. -/
def readAssignment : Nat → List SumToken → SumReading
  | 0, _ => .error "expecting primary"
  | fuel + 1, tokens =>
    match tokens with
    | .name name :: .sign sign :: rest =>
      match assigning? sign with
      | some op => do
        let (a, rest) ← readAssignment fuel rest
        .ok (.assign name op a, rest)
      | none => readChoice fuel tokens
    | tokens => readChoice fuel tokens

/-- Reads a sum that may choose between two others. -/
def readChoice : Nat → List SumToken → SumReading
  | 0, _ => .error "expecting primary"
  | fuel + 1, tokens => do
    let (a, rest) ← readEither fuel tokens
    match rest with
    | .sign "?" :: rest =>
      let (b, rest) ← readAssignment fuel rest
      match rest with
      | .sign ":" :: rest =>
        let (c, rest) ← readChoice fuel rest
        .ok (.choice a b c, rest)
      | _ => .error "expecting ':'"
    | rest => .ok (a, rest)

/-- Reads sums one of which has to be other than zero. -/
def readEither : Nat → List SumToken → SumReading
  | 0, _ => .error "expecting primary"
  | fuel + 1, tokens => do
    let (a, rest) ← readBoth fuel tokens
    match rest with
    | .sign "||" :: rest =>
      let (b, rest) ← readEither fuel rest
      .ok (.either a b, rest)
    | rest => .ok (a, rest)

/-- Reads sums all of which have to be other than zero. -/
def readBoth : Nat → List SumToken → SumReading
  | 0, _ => .error "expecting primary"
  | fuel + 1, tokens => do
    let (a, rest) ← readBinary fuel 8 tokens
    match rest with
    | .sign "&&" :: rest =>
      let (b, rest) ← readBoth fuel rest
      .ok (.both a b, rest)
    | rest => .ok (a, rest)

/-- Reads operands with operators between them that bind less loosely than `limit`. -/
def readBinary : Nat → Nat → List SumToken → SumReading
  | 0, _, _ => .error "expecting primary"
  | fuel + 1, limit, tokens => do
    let (a, rest) ← readOperand fuel tokens
    readBinaryFrom fuel limit a rest

/-- Reads what follows a left operand. -/
def readBinaryFrom : Nat → Nat → Sum → List SumToken → SumReading
  | 0, _, _, _ => .error "expecting primary"
  | fuel + 1, limit, a, tokens =>
    match tokens with
    | .sign sign :: rest =>
      match BinaryOp.ofSign? sign with
      | some op =>
        if op.looseness < limit then do
          let (b, rest) ← readBinary fuel op.looseness rest
          readBinaryFrom fuel limit (.binary op a b) rest
        else .ok (a, tokens)
      | none => .ok (a, tokens)
    | tokens => .ok (a, tokens)

/-- Reads an operand. -/
def readOperand : Nat → List SumToken → SumReading
  | 0, _ => .error "expecting primary"
  | fuel + 1, tokens =>
    match tokens with
    | .number n :: rest => .ok (.number n, rest)
    | .name name :: rest => .ok (.variable name, rest)
    | .sign "(" :: rest => do
      let (a, rest) ← readAssignment fuel rest
      match rest with
      | .sign ")" :: rest => .ok (a, rest)
      | _ => .error "expecting ')'"
    | .sign "+" :: rest => readOperand fuel rest
    | .sign "-" :: rest => (readOperand fuel rest).map fun (a, rest) => (.minus a, rest)
    | .sign "!" :: rest => (readOperand fuel rest).map fun (a, rest) => (.isZero a, rest)
    | .sign "~" :: rest => (readOperand fuel rest).map fun (a, rest) => (.complement a, rest)
    | _ => .error "expecting primary"

end

/-- The sum at the front of a text, and what is behind it. -/
def Sum.ofText (text : Bytes) : SumReading :=
  let tokens := sumTokens (text.length + 1) text
  readAssignment (8 * tokens.length + 16) tokens

/-! ## Values -/

/-- Why a sum has no value: a division by zero, or a variable whose value is no number. -/
inductive SumFault where
  | divisionByZero
  | noNumber (value : Bytes)
  deriving Repr, DecidableEq

/-- The bits of a number of 64 bits. -/
def bitsOf (i : Int) : Nat := (i % wordBound).toNat

/-- One if something holds, or else zero. -/
def truth (holds : Bool) : Int := if holds then 1 else 0

/-- What an operator makes of two numbers. Numbers are shifted by as much as the last six bits say. -/
def BinaryOp.apply (op : BinaryOp) (a b : Int) : Except SumFault Int :=
  match op with
  | .times => .ok (wrapped (a * b))
  | .over => if b = 0 then .error .divisionByZero else .ok (wrapped (Int.tdiv a b))
  | .modulo => if b = 0 then .error .divisionByZero else .ok (Int.tmod a b)
  | .plus => .ok (wrapped (a + b))
  | .minus => .ok (wrapped (a - b))
  | .shiftLeft => .ok (wrapped (a * Int.pow 2 (bitsOf b % 64)))
  | .shiftRight => .ok (Int.fdiv a (Int.pow 2 (bitsOf b % 64)))
  | .less => .ok (truth (a < b))
  | .lessOrEqual => .ok (truth (a ≤ b))
  | .greater => .ok (truth (b < a))
  | .greaterOrEqual => .ok (truth (b ≤ a))
  | .equal => .ok (truth (a = b))
  | .unequal => .ok (truth (a ≠ b))
  | .bitAnd => .ok (wrapped (bitsOf a &&& bitsOf b))
  | .bitXor => .ok (wrapped (bitsOf a ^^^ bitsOf b))
  | .bitOr => .ok (wrapped (bitsOf a ||| bitsOf b))

/-- The number of a variable. One without a value stands for zero. -/
def numberOf (name : String) : ExceptT SumFault Action Int := do
  let value := ((← get).get? name).getD []
  match variableNumber? value with
  | some i => pure i
  | none => throw (.noNumber value)

/-- Evaluates a sum, which may assign to variables. -/
def Sum.evaluate : Sum → ExceptT SumFault Action Int
  | .number n => pure n
  | .variable name => numberOf name
  | .minus a => do return wrapped (-(← a.evaluate))
  | .isZero a => do return truth ((← a.evaluate) = 0)
  | .complement a => do return -(← a.evaluate) - 1
  | .binary op a b => do
    let x ← a.evaluate
    let y ← b.evaluate
    ExceptT.mk (pure (op.apply x y))
  | .both a b => do
    if (← a.evaluate) = 0 then pure 0 else return truth ((← b.evaluate) ≠ 0)
  | .either a b => do
    if (← a.evaluate) ≠ 0 then pure 1 else return truth ((← b.evaluate) ≠ 0)
  | .choice c a b => do
    if (← c.evaluate) ≠ 0 then a.evaluate else b.evaluate
  | .assign name op a => do
    let y ← a.evaluate
    let value ← match op with
      | none => pure y
      | some op =>
        let x ← numberOf name
        ExceptT.mk (pure (op.apply x y))
    Shell.assign name (integerText value)
    pure value

/-- The value of the text of a sum, or what is wrong with it. -/
def sumValue (text : Bytes) : Action (Except String Int) := do
  let shown (message : String) : String :=
    "arithmetic expression: " ++ message ++ ": \"" ++ toText text ++ "\""
  match Sum.ofText text with
  | .error message => return .error (shown message)
  | .ok (a, rest) =>
    match ← a.evaluate.run with
    | .ok i => return if rest.isEmpty then .ok i else .error (shown "expecting EOF")
    | .error .divisionByZero => return .error (shown "division by zero")
    | .error (.noNumber value) => return .error ("Illegal number: " ++ toText value)

end ExtensionHost.Shell
