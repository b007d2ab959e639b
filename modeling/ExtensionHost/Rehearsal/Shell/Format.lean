import ExtensionHost.Number.Shortest
import ExtensionHost.Rehearsal.Shell.Numeral

/-!
# Formats

Writing arguments by a format: texts, integers to three bases, and floating-point numbers with a fixed
number of places, with an exponent, or with a number of significant digits. A format is read as a list
of items, which is gone through until no argument is left.
-/

namespace ExtensionHost.Shell

/-! ## Items -/

/-- A width or a number of places: one that stands in the format, or the next argument. -/
inductive FormatNumber where
  | fixed (n : Nat)
  | argument
  deriving Repr, DecidableEq

/-- How a value is laid out and what letter says how it is written. -/
structure Directive where
  flags : Bytes
  width : FormatNumber
  places : Option FormatNumber
  letter : Char
  deriving Repr

/-- A part of a format. A broken one comes with its text, if it has a letter. -/
inductive FormatItem where
  | text (cs : Bytes)
  | value (d : Directive)
  | broken (text : Option Bytes)
  | stop
  deriving Repr

/-- Which programs there are: that of the shell, and that of the system. -/
inductive FormatStyle where
  | shell
  | system
  deriving Repr, DecidableEq

/-- A number at the front of a text, or a star for an argument, and the text behind it. -/
def formatNumber (text : Bytes) : FormatNumber × Bytes :=
  match text with
  | '*' :: rest => (.argument, rest)
  | text =>
    let (n, rest) := leadingNumber text
    (.fixed n, rest)

/-- The letters that a value may be written by. -/
def formatLetters : Bytes := "bcsdiouxXeEfFgG".toList

/-- The item behind a percent sign, and the text behind it. -/
def formatItem (text : Bytes) : FormatItem × Bytes :=
  let flags := text.takeWhile fun c => "#-+ 0".toList.contains c
  let (width, rest) := formatNumber (text.drop flags.length)
  let (places, rest) := match rest with
    | '.' :: rest =>
      let (n, rest) := formatNumber rest
      (some n, rest)
    | rest => (none, rest)
  match rest with
  | [] => (.broken none, [])
  | letter :: behind =>
    if formatLetters.contains letter then (.value ⟨flags, width, places, letter⟩, behind)
    else (.broken (some ('%' :: text.take (text.length - behind.length))), behind)

/-- The item of an escape in a format, from behind its backslash, and the text behind it. Only the
program of the system knows hexadecimal digits and an escape that ends the output. -/
def formatEscape (style : FormatStyle) (text : Bytes) : FormatItem × Bytes :=
  match text with
  | [] => (.text ['\\'], [])
  | c :: rest =>
    if isOctal c then
      let (c, rest) := octal 3 text
      (.text [c], rest)
    else if style = .system && c = 'c' then (.stop, rest)
    else if style = .system && c = 'x' then
      let digits := (rest.take 2).takeWhile (isDigitOf 16)
      (.text [Char.ofNat (numberTo 16 digits)], rest.drop digits.length)
    else if style = .system && c = quotationMark then (.text [c], rest)
    else
      match escapeOf? c with
      | some e => (.text [e], rest)
      | none => (.text ['\\', c], rest)

/-- The items of a format; `fuel` bounds its length. -/
def formatItems (style : FormatStyle) : Nat → Bytes → List FormatItem
  | 0, _ => []
  | _ + 1, [] => []
  | fuel + 1, '%' :: '%' :: rest => .text ['%'] :: formatItems style fuel rest
  | fuel + 1, '%' :: rest =>
    let (item, rest) := formatItem rest
    item :: formatItems style fuel rest
  | fuel + 1, '\\' :: rest =>
    let (item, rest) := formatEscape style rest
    item :: formatItems style fuel rest
  | fuel + 1, c :: rest => .text [c] :: formatItems style fuel rest

/-! ## Layout -/

/-- How a value is laid out, when all numbers are known. -/
structure Layout where
  left : Bool := false
  zeros : Bool := false
  plus : Bool := false
  blank : Bool := false
  alternate : Bool := false
  width : Nat := 0
  places : Option Nat := none
  deriving Repr

/-- Puts blanks around a text. -/
def Layout.pad (l : Layout) (text : Bytes) : Bytes :=
  let gap := List.replicate (l.width - text.length) ' '
  if l.left then text ++ gap else gap ++ text

/-- Puts zeros between a front and digits, or blanks around both. -/
def Layout.padDigits (l : Layout) (zeros : Bool) (front digits : Bytes) : Bytes :=
  if zeros && !l.left then
    front ++ List.replicate (l.width - front.length - digits.length) '0' ++ digits
  else l.pad (front ++ digits)

/-- The sign of a number. -/
def Layout.sign (l : Layout) (negative : Bool) : Bytes :=
  if negative then ['-'] else if l.plus then ['+'] else if l.blank then [' '] else []

/-- Digits with zeros before them, up to the places that are asked for. No digit is left of zero with no
places. -/
def Layout.digits (l : Layout) (n : Nat) (digits : Bytes) : Bytes :=
  match l.places with
  | some 0 => if n = 0 then [] else digits
  | some places => List.replicate (places - digits.length) '0' ++ digits
  | none => digits

/-- An integer with a sign. -/
def Layout.integer (l : Layout) (i : Int) : Bytes :=
  let n := i.natAbs
  l.padDigits (l.zeros && l.places.isNone) (l.sign (i < 0)) (l.digits n (numberText n))

/-- A number without a sign, to the base that a letter says. -/
def Layout.natural (l : Layout) (letter : Char) (n : Nat) : Bytes :=
  let zeros := l.zeros && l.places.isNone
  match letter with
  | 'o' =>
    let digits := l.digits n (Nat.toDigits 8 n)
    let digits := if l.alternate && digits.head? ≠ some '0' then '0' :: digits else digits
    l.padDigits zeros [] digits
  | 'x' =>
    let front := if l.alternate && n ≠ 0 then ['0', 'x'] else []
    l.padDigits zeros front (l.digits n (Nat.toDigits 16 n))
  | 'X' =>
    let front := if l.alternate && n ≠ 0 then ['0', 'X'] else []
    l.padDigits zeros front ((l.digits n (Nat.toDigits 16 n)).map Char.toUpper)
  | _ => l.padDigits zeros [] (l.digits n (numberText n))

/-! ## Floating-point numbers -/

/-- A floating-point number as it is written. -/
inductive FloatValue where
  | finite (negative : Bool) (m : Magnitude)
  | infinite (negative : Bool)
  | noNumber (negative : Bool)
  deriving Repr, DecidableEq

/-- A magnitude with a number of places. -/
def fixedDigits (alternate : Bool) (m : Magnitude) (places : Nat) : Bytes :=
  let n := Magnitude.roundDiv (m.numerator * Nat.pow 10 places) m.denominator
  let digits := numberText n
  let digits := List.replicate (places + 1 - digits.length) '0' ++ digits
  let whole := digits.take (digits.length - places)
  let behind := digits.drop (digits.length - places)
  if behind.isEmpty && !alternate then whole else whole ++ '.' :: behind

/-- The digits of a magnitude and the exponent of the first one. -/
def significantDigits (m : Magnitude) (count : Nat) : Bytes × Int :=
  if m.mantissa = 0 then (List.replicate count '0', 0)
  else
    let first := Magnitude.decimalExponent m.numerator m.denominator
    let shift := (count : Int) - 1 - first
    let n := Magnitude.roundDiv (m.numerator * Magnitude.powerOfTen shift)
      (m.denominator * Magnitude.powerOfTen (-shift))
    let digits := numberText n
    if count < digits.length then (digits.take count, first + 1) else (digits, first)

/-- The text of an exponent: its sign and at least two digits. -/
def exponentText (e : Int) : Bytes :=
  let digits := numberText e.natAbs
  (if e < 0 then '-' else '+') :: List.replicate (2 - digits.length) '0' ++ digits

/-- Digits with a point behind the first one, and an exponent. -/
def scientific (alternate : Bool) (digits : Bytes) (e : Int) : Bytes :=
  let behind := digits.drop 1
  digits.take 1 ++ (if behind.isEmpty && !alternate then [] else '.' :: behind) ++
    'e' :: exponentText e

/-- Digits without zeros at their end. -/
def withoutLastZeros (digits : Bytes) : Bytes := (digits.reverse.dropWhile (· = '0')).reverse

/-- A magnitude with a number of significant digits: with an exponent if that is small or too large for
the digits. Zeros at the end are left out. -/
def generalDigits (alternate : Bool) (m : Magnitude) (count : Nat) : Bytes :=
  let (digits, e) := significantDigits m count
  if e < -4 ∨ (count : Int) ≤ e then
    scientific alternate (if alternate then digits else digits.take 1 ++ withoutLastZeros (digits.drop 1)) e
  else
    let text := fixedDigits alternate m ((count : Int) - 1 - e).toNat
    if alternate || !text.contains '.' then text
    else
      let kept := withoutLastZeros text
      if kept.getLast? = some '.' then kept.dropLast else kept

/-- A floating-point number written by a letter. -/
def Layout.float (l : Layout) (letter : Char) (v : FloatValue) : Bytes :=
  let places := l.places.getD 6
  let text := match v with
    | .finite negative m =>
      let digits := match letter.toLower with
        | 'f' => fixedDigits l.alternate m places
        | 'e' =>
          let (digits, e) := significantDigits m (places + 1)
          scientific l.alternate digits e
        | _ => generalDigits l.alternate m (max places 1)
      l.padDigits l.zeros (l.sign negative) digits
    | .infinite negative => l.pad (l.sign negative ++ "inf".toList)
    | .noNumber negative => l.pad (l.sign negative ++ "nan".toList)
  if letter.isUpper then text.map Char.toUpper else text

/-! ## Arguments -/

/-- Why an argument is not quite a number. -/
inductive ArgumentFault where
  | noNumber
  | moreText
  | outOfRange
  deriving Repr, DecidableEq

/-- What a program says about an argument. -/
def ArgumentFault.message (style : FormatStyle) (arg : Bytes) (fault : ArgumentFault) : Bytes :=
  let shown := match style with
    | .shell => arg
    | .system => '\x27' :: arg ++ ['\x27']
  let what := match style, fault with
    | .shell, .noNumber => "expected numeric value"
    | .shell, .moreText => "not completely converted"
    | .system, .noNumber => "expected a numeric value"
    | .system, .moreText => "value not completely converted"
    | _, .outOfRange => "Numerical result out of range"
  shown ++ ": ".toList ++ what.toList

/-- The fault of an argument of which a part was read. -/
def restFault (arg rest : Bytes) (inRange : Bool) : Option ArgumentFault :=
  if rest.isEmpty then if inRange then none else some .outOfRange
  else if rest.length = arg.length then some .noNumber
  else some .moreText

/-- The value of an argument that begins with a quote, which is that of the character behind it. -/
def quotedValue? (arg : Bytes) : Option Nat :=
  match arg with
  | '\x27' :: rest => some (rest.headD '\x00').toNat
  | '\x22' :: rest => some (rest.headD '\x00').toNat
  | _ => none

/-- The integer of an argument. -/
def integerArgument (arg : Bytes) : Int × Option ArgumentFault :=
  match quotedValue? arg with
  | some n => (n, none)
  | none =>
    let (i, rest) := (signedConstant? arg).getD (0, arg)
    (clamped i, restFault arg rest (clamped i = i))

/-- The number without a sign of an argument. A negative one wraps. -/
def naturalArgument (arg : Bytes) : Nat × Option ArgumentFault :=
  match quotedValue? arg with
  | some n => (n, none)
  | none =>
    let (i, rest) := (signedConstant? arg).getD (0, arg)
    if i.natAbs < wordBound then ((i % wordBound).toNat, restFault arg rest true)
    else (wordBound - 1, restFault arg rest false)

/-- The digits at the front of a text with at most one point between them: their number, how many stand
behind the point, and the text behind them. -/
def pointedDigits? (text : Bytes) : Option (Bytes × Nat × Bytes) :=
  let whole := text.takeWhile Char.isDigit
  match text.drop whole.length with
  | '.' :: rest =>
    let behind := rest.takeWhile Char.isDigit
    if whole.isEmpty && behind.isEmpty then none
    else some (whole ++ behind, behind.length, rest.drop behind.length)
  | rest => if whole.isEmpty then none else some (whole, 0, rest)

/-- The exponent at the front of a text, if there is one, and the text behind it. -/
def exponent (text : Bytes) : Int × Bytes :=
  match text with
  | e :: rest =>
    if e = 'e' ∨ e = 'E' then
      let (negative, digits) := match rest with
        | '-' :: rest => (true, rest)
        | '+' :: rest => (false, rest)
        | rest => (false, rest)
      if digits.head?.any Char.isDigit then
        let (n, behind) := leadingNumber digits
        (if negative then -(n : Int) else n, behind)
      else (0, text)
    else (0, text)
  | [] => (0, [])

/-- The magnitude of digits with an exponent, and whether it is not above the largest one. -/
def decimalMagnitude (digits : Bytes) (e : Int) : Option Magnitude :=
  let n := (leadingNumber digits).1
  let size := (numberText n).length + e
  if n = 0 ∨ size < -400 then some .zero
  else if 400 < size then none
  else Magnitude.ofRatio? (n * Magnitude.powerOfTen e) (Magnitude.powerOfTen (-e))

/-- The floating-point number at the front of a text without a sign, whether it is in range, and the
text behind it. -/
def unsignedFloat? (negative : Bool) (text : Bytes) : Option (FloatValue × Bool × Bytes) :=
  match text.map Char.toLower with
  | 'i' :: 'n' :: 'f' :: more =>
    let length := if "inity".toList.isPrefixOf more then 8 else 3
    some (.infinite negative, true, text.drop length)
  | 'n' :: 'a' :: 'n' :: _ => some (.noNumber negative, true, text.drop 3)
  | '0' :: 'x' :: c :: _ =>
    if isDigitOf 16 c then
      (constant? text).bind fun (n, rest) =>
        (Magnitude.ofNat? n).map fun m => (.finite negative m, true, rest)
    else some (.finite negative .zero, true, text.drop 1)
  | _ =>
    (pointedDigits? text).map fun (digits, places, rest) =>
      let (e, rest) := exponent rest
      match decimalMagnitude digits (e - places) with
      | some m => (.finite negative m, true, rest)
      | none => (.infinite negative, false, rest)

/-- The floating-point number of an argument. -/
def floatArgument (arg : Bytes) : FloatValue × Option ArgumentFault :=
  match quotedValue? arg with
  | some n => (.finite false ((Magnitude.ofNat? n).getD .zero), none)
  | none =>
    let read := match arg.dropWhile isSpace with
      | '-' :: rest => unsignedFloat? true rest
      | '+' :: rest => unsignedFloat? false rest
      | rest => unsignedFloat? false rest
    match read with
    | some (v, inRange, rest) => (v, restFault arg rest inRange)
    | none => (.finite false .zero, restFault arg arg true)

/-! ## Writing -/

/-- What was written so far: the text, the arguments that are left, what is wrong with arguments, and
whether nothing more is written. A broken format comes with its text. -/
structure Writing where
  out : Bytes := []
  args : List Bytes
  faults : List (Bytes × ArgumentFault) := []
  ended : Bool := false
  broken : Option (Option Bytes) := none

namespace Writing

/-- The next argument, which is empty if there is none. -/
def argument (w : Writing) : Bytes := w.args.headD []

/-- Goes on behind an argument that may not be a number. -/
def behind (w : Writing) (fault : Option ArgumentFault) : Writing :=
  { w with args := w.args.tail, faults := w.faults ++ fault.toList.map fun f => (w.argument, f) }

/-- Writes a text. -/
def write (w : Writing) (text : Bytes) : Writing := { w with out := w.out ++ text }

/-- A number of a directive. -/
def number (w : Writing) : FormatNumber → Int × Writing
  | .fixed n => (n, w)
  | .argument =>
    let (i, fault) := integerArgument w.argument
    (i, w.behind fault)

/-- The layout of a directive. A negative width is one to the left, and negative places are none. -/
def layout (w : Writing) (d : Directive) : Layout × Writing :=
  let (width, w) := w.number d.width
  let (places, w) := match d.places with
    | none => (none, w)
    | some n =>
      let (places, w) := w.number n
      (if places < 0 then none else some places.toNat, w)
  ({ left := d.flags.contains '-' || width < 0
     zeros := d.flags.contains '0'
     plus := d.flags.contains '+'
     blank := d.flags.contains ' '
     alternate := d.flags.contains '#'
     width := width.natAbs
     places }, w)

/-- A text cut to the places that are asked for. -/
def cutText (l : Layout) (text : Bytes) : Bytes :=
  match l.places with
  | some n => text.take n
  | none => text

/-- Writes the next argument by a directive. -/
def value (style : FormatStyle) (w : Writing) (d : Directive) : Writing :=
  let (l, w) := w.layout d
  let arg := w.argument
  match d.letter with
  | 's' => (w.behind none).write (l.pad (cutText l arg))
  | 'b' =>
    let (text, ended) := unescape (arg.length + 1) arg
    { (w.behind none).write (l.pad (cutText l text)) with ended }
  | 'c' =>
    let c := if arg.isEmpty && style = .shell then ['\x00'] else arg.take 1
    (w.behind none).write (l.pad c)
  | 'd' | 'i' =>
    let (i, fault) := integerArgument arg
    (w.behind fault).write (l.integer i)
  | 'o' | 'u' | 'x' | 'X' =>
    let (n, fault) := naturalArgument arg
    (w.behind fault).write (l.natural d.letter n)
  | letter =>
    let (v, fault) := floatArgument arg
    (w.behind fault).write (l.float letter v)

/-- Writes an item, unless nothing more is written. -/
def item (style : FormatStyle) (w : Writing) (i : FormatItem) : Writing :=
  if w.ended then w
  else
    match i with
    | .text cs => w.write cs
    | .value d => w.value style d
    | .broken text => { w with ended := true, broken := some text }
    | .stop => { w with ended := true }

end Writing

/-- Writes items again and again until no arguments are left or none is taken; `fuel` bounds their
number. -/
def writeItems (style : FormatStyle) (items : List FormatItem) : Nat → Writing → Writing
  | 0, w => w
  | fuel + 1, w =>
    let after := items.foldl (Writing.item style) w
    if after.ended || after.args.isEmpty || after.args.length = w.args.length then after
    else writeItems style items fuel after

/-- Writes arguments by a format. -/
def writeFormat (style : FormatStyle) (format : Bytes) (args : List Bytes) : Writing :=
  writeItems style (formatItems style (format.length + 1) format) (args.length + 1) { args }

end ExtensionHost.Shell
