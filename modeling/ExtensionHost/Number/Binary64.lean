/-!
# Binary floating-point numbers of 64 bits

A finite number of 64 bits is a sign and a magnitude `mantissa * 2 ^ exponent`. Rounding takes the
exact quotient of two natural numbers to the nearest magnitude, a tie going to the even mantissa, and
has no answer above the largest magnitude. Products and quotients of magnitudes are the exact ones
rounded once.
-/

namespace ExtensionHost

/-- The magnitude `mantissa * 2 ^ exponent` of a finite number of 64 bits. -/
structure Magnitude where
  mantissa : Nat
  exponent : Int
  deriving Repr, DecidableEq

namespace Magnitude

/-- The exponent of the least positive magnitude. -/
def leastExponent : Int := -1074

/-- The exponent of the largest magnitude. -/
def greatestExponent : Int := 971

/-- The number of mantissas that share an exponent: those of 53 bits. -/
def mantissaBound : Nat := 9007199254740992

/-- The magnitude zero. -/
def zero : Magnitude := ⟨0, leastExponent⟩

/-- Whether the mantissa and the exponent are those of a 64-bit number: a mantissa of 53 bits, or
a shorter one with the least exponent. -/
def Normal (m : Magnitude) : Prop :=
  m.mantissa < mantissaBound ∧ leastExponent ≤ m.exponent ∧ m.exponent ≤ greatestExponent ∧
    (mantissaBound / 2 ≤ m.mantissa ∨ m.exponent = leastExponent)

/-- The power of two with a natural exponent; a negative exponent counts as zero. -/
def powerOfTwo (e : Int) : Nat := Nat.pow 2 e.toNat

/-- The numerator of the magnitude as a fraction of natural numbers. -/
def numerator (m : Magnitude) : Nat := m.mantissa * powerOfTwo m.exponent

/-- The denominator of the magnitude as a fraction of natural numbers. -/
def denominator (m : Magnitude) : Nat := powerOfTwo (-m.exponent)

/-- The integer nearest to `num / den`, the even one of two. -/
def roundDiv (num den : Nat) : Nat :=
  let quotient := num / den
  let rest := num % den
  if 2 * rest < den then quotient
  else if den < 2 * rest then quotient + 1
  else quotient + quotient % 2

/-- The exponent for rounding `num / den`: with it the quotient has 53 bits, unless that needs an
exponent below the least one. -/
def exponentFor (num den : Nat) : Int :=
  let guess : Int := (num.log2 : Int) - (den.log2 : Int) - 53
  let wide := mantissaBound * den * powerOfTwo guess ≤ num * powerOfTwo (-guess)
  max leastExponent (if wide then guess + 1 else guess)

/-- The magnitude nearest to `num / den`, if it is not above the largest one. -/
def ofRatio? (num den : Nat) : Option Magnitude :=
  if num = 0 then some zero
  else
    let e := exponentFor num den
    let m := roundDiv (num * powerOfTwo (-e)) (den * powerOfTwo e)
    let rounded : Magnitude := if m = mantissaBound then ⟨mantissaBound / 2, e + 1⟩ else ⟨m, e⟩
    if greatestExponent < rounded.exponent then none else some rounded

/-- The magnitude nearest to a natural number, if it is not above the largest one. -/
def ofNat? (n : Nat) : Option Magnitude :=
  ofRatio? n 1

/-- The product, rounded. -/
def mul? (a b : Magnitude) : Option Magnitude :=
  ofRatio? (a.numerator * b.numerator) (a.denominator * b.denominator)

/-- The quotient by a magnitude other than zero, rounded. -/
def div? (a b : Magnitude) : Option Magnitude :=
  ofRatio? (a.numerator * b.denominator) (a.denominator * b.numerator)

/-- The magnitude nearest to a power of ten, if it is not above the largest one. -/
def powerOfTen? (k : Nat) : Option Magnitude :=
  ofNat? (Nat.pow 10 k)

/-- The largest power of ten that is a magnitude. -/
def greatestPowerOfTen : Nat := 308

/-- A magnitude divided by `10 ^ k`: by the greatest power of ten as often as it fits, then by what
is left, with a rounding after each division. It stops at zero. -/
def divPowerOfTen (m : Magnitude) (k : Nat) : Option Magnitude :=
  if k ≤ greatestPowerOfTen then do div? m (← powerOfTen? k)
  else if m.mantissa = 0 then some m
  else do divPowerOfTen (← div? m (← powerOfTen? greatestPowerOfTen)) (k - greatestPowerOfTen)
termination_by k
decreasing_by unfold greatestPowerOfTen at *; omega

/-- A magnitude multiplied by `10 ^ k`, if that is not above the largest one. -/
def mulPowerOfTen (m : Magnitude) (k : Nat) : Option Magnitude :=
  if k ≤ greatestPowerOfTen then do mul? m (← powerOfTen? k)
  else if m.mantissa = 0 then some m
  else none

/-- The magnitude written as `digits * 10 ^ exponent`. The digits are rounded first and the
product or quotient by the power of ten after that. -/
def ofDecimal? (digits : Nat) (exponent : Int) : Option Magnitude := do
  let m ← ofNat? digits
  if 0 ≤ exponent then mulPowerOfTen m exponent.toNat else divPowerOfTen m (-exponent).toNat

end Magnitude

/-- A finite floating-point number of 64 bits; zero has two signs. -/
structure Binary64 where
  negative : Bool
  magnitude : Magnitude
  deriving Repr, DecidableEq

end ExtensionHost
