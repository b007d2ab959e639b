import ExtensionHost.Number.Binary64

/-!
# Shortest decimal digits

The decimal digits of a 64-bit number are the fewest that read back as that number, and of those the
nearest to it. A decimal reads back when it lies in the interval of reals that round to the number;
the ends belong to the interval exactly when the mantissa is even. On the grid of the decimals with
`n` digits only the two neighbours of the value have to be looked at.
-/

namespace ExtensionHost.Magnitude

/-- The decimal `digits * 10 ^ exponent`. -/
structure Decimal where
  digits : Nat
  exponent : Int
  deriving Repr, DecidableEq

/-- The interval of reals that round to a magnitude, over a common denominator: the lower end, the
magnitude, the upper end. -/
structure Interval where
  low : Nat
  middle : Nat
  high : Nat
  denominator : Nat
  closed : Bool
  deriving Repr

/-- The interval of reals that round to a magnitude other than zero. Below a power of two the next
magnitude is only half as far away. -/
def interval (m : Magnitude) : Interval :=
  let e := m.exponent - 2
  let gap := if 2 * m.mantissa = mantissaBound ∧ leastExponent < m.exponent then 1 else 2
  { low := (4 * m.mantissa - gap) * powerOfTwo e
    middle := 4 * m.mantissa * powerOfTwo e
    high := (4 * m.mantissa + 2) * powerOfTwo e
    denominator := powerOfTwo (-e)
    closed := m.mantissa % 2 = 0 }

/-- The power of ten with a natural exponent; a negative exponent counts as zero. -/
def powerOfTen (e : Int) : Nat := Nat.pow 10 e.toNat

/-- Whether a decimal reads back as the magnitude with this interval. -/
def Interval.contains (i : Interval) (d : Decimal) : Bool :=
  let value := d.digits * powerOfTen d.exponent * i.denominator
  let scale := powerOfTen (-d.exponent)
  if i.closed then i.low * scale ≤ value && value ≤ i.high * scale
  else i.low * scale < value && value < i.high * scale

/-- The exponent `p` with `10 ^ p ≤ num / den < 10 ^ (p + 1)`, searched upwards from `p`. -/
def exponentFrom (num den : Nat) : Nat → Int → Int
  | 0, p => p
  | fuel + 1, p =>
    if den * powerOfTen (p + 1) ≤ num * powerOfTen (-(p + 1)) then exponentFrom num den fuel (p + 1)
    else p

/-- The exponent of the first decimal digit of `num / den`. -/
def decimalExponent (num den : Nat) : Int :=
  let guess := ((num.log2 : Int) - (den.log2 : Int) - 1) * 30103 / 100000
  exponentFrom num den 3 (guess - 1)

/-- Of the two decimals next to the middle of an interval on the grid of multiples of
`10 ^ exponent`, the one that reads back; of two such the nearer one, in a tie the even one. -/
def Interval.onGrid (i : Interval) (exponent : Int) : Option Decimal :=
  let num := i.middle * powerOfTen (-exponent)
  let den := i.denominator * powerOfTen exponent
  let lower : Decimal := ⟨num / den, exponent⟩
  let upper : Decimal := ⟨num / den + 1, exponent⟩
  match i.contains lower, i.contains upper with
  | false, false => none
  | true, false => some lower
  | false, true => some upper
  | true, true =>
    let rest := 2 * (num % den)
    if rest < den ∨ rest = den ∧ lower.digits % 2 = 0 then some lower else some upper

/-- The first grid with a decimal that reads back, from `count` digits on. -/
def Interval.shortestFrom (i : Interval) (first : Int) : Nat → Nat → Decimal
  | 0, _ => ⟨0, 0⟩
  | fuel + 1, count =>
    match i.onGrid (first - count + 1) with
    | some d => d
    | none => i.shortestFrom first fuel (count + 1)

/-- A decimal without zeros at the end of its digits. -/
def Decimal.strip (d : Decimal) : Nat → Decimal
  | 0 => d
  | fuel + 1 =>
    if d.digits % 10 = 0 ∧ d.digits ≠ 0 then Decimal.strip ⟨d.digits / 10, d.exponent + 1⟩ fuel
    else d

/-- The shortest decimal that reads back as the magnitude. -/
def shortest (m : Magnitude) : Decimal :=
  if m.mantissa = 0 then ⟨0, 0⟩
  else
    let i := m.interval
    (i.shortestFrom (decimalExponent i.middle i.denominator) 17 1).strip 17

end ExtensionHost.Magnitude
