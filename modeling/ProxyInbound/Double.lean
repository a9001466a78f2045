/-!
# Binary floating point with exact arithmetic

A double is a sign and a magnitude `mantissa * 2 ^ exponent`. The mantissa has at most 53 bits and
the exponent is at least -1074; a mantissa of fewer than 53 bits occurs at that least exponent
only. Every operation is exact arithmetic on natural numbers followed by one rounding to the
nearest magnitude, ties to the even mantissa.
-/

namespace ProxyInbound

/-- An unsigned double, the number `mantissa * 2 ^ exponent`. -/
structure Magnitude where
  /-- The significant bits, fewer than 53 of them at the least exponent only. -/
  mantissa : Nat
  /-- The power of two, at least -1074. -/
  exponent : Int
  deriving DecidableEq, Repr

/-- A finite double. Zero has both signs. -/
structure Double where
  /-- Whether the sign is minus. -/
  negative : Bool
  /-- The absolute value. -/
  magnitude : Magnitude
  deriving DecidableEq, Repr

namespace Magnitude

/-- The least exponent, which subnormal magnitudes share. -/
def leastExponent : Int := -1074

/-- The exponent of the greatest finite magnitudes. -/
def greatestExponent : Int := 971

/-- The magnitude zero. -/
def zero : Magnitude := ⟨0, leastExponent⟩

/-- The quotient `num / (den * 2 ^ e)` as two natural numbers. -/
def scaleDown (num den : Nat) (e : Int) : Nat × Nat :=
  if 0 ≤ e then (num, den <<< e.toNat) else (num <<< (-e).toNat, den)

/-- The integer nearest to `num / den`, ties to the even one. -/
def roundHalfEven (num den : Nat) : Nat :=
  let q := num / den
  let r := num % den
  if den < 2 * r ∨ (2 * r = den ∧ q % 2 = 1) then q + 1 else q

/-- The exponent that gives the quotient of two positive numbers a mantissa of 53 bits, or the
least exponent if that one is greater. -/
def exponentOf (num den : Nat) : Int :=
  let guess : Int := (num.log2 : Int) - den.log2 - 52
  let scaled := scaleDown num den guess
  let exact := if scaled.1 < scaled.2 <<< 52 then guess - 1 else guess
  max exact leastExponent

/-- The magnitude nearest to a quotient of natural numbers. A mantissa that rounds up to 54 bits
is a power of two and passes one bit to the exponent. -/
def ofRatio (num den : Nat) : Magnitude :=
  if num = 0 then zero
  else
    let e := exponentOf num den
    let scaled := scaleDown num den e
    let m := roundHalfEven scaled.1 scaled.2
    if m = 1 <<< 53 then ⟨1 <<< 52, e + 1⟩ else ⟨m, e⟩

/-- Whether the magnitude is below the overflow threshold. -/
def isFinite (m : Magnitude) : Bool :=
  m.exponent ≤ greatestExponent

/-- The magnitude as a quotient of two natural numbers. -/
def ratio (m : Magnitude) : Nat × Nat :=
  if 0 ≤ m.exponent then (m.mantissa <<< m.exponent.toNat, 1)
  else (m.mantissa, 1 <<< (-m.exponent).toNat)

/-- The rounded product. -/
def mul (a b : Magnitude) : Magnitude :=
  ofRatio (a.ratio.1 * b.ratio.1) (a.ratio.2 * b.ratio.2)

/-- The rounded quotient; the divisor is a power of ten here and so never zero. -/
def div (a b : Magnitude) : Magnitude :=
  ofRatio (a.ratio.1 * b.ratio.2) (a.ratio.2 * b.ratio.1)

/-- The magnitude nearest to a power of ten. -/
def tenPower (k : Nat) : Magnitude :=
  ofRatio (Nat.pow 10 k) 1

/-- The greatest power of ten that is finite. -/
def greatestTenPower : Nat := 308

/-- Divide by a power of ten, in steps of the greatest finite one while more remains. -/
def lower (m : Magnitude) (k : Nat) : Magnitude :=
  if k ≤ greatestTenPower then m.div (tenPower k)
  else if m.mantissa = 0 then m
  else lower (m.div (tenPower greatestTenPower)) (k - greatestTenPower)
termination_by k
decreasing_by simp only [greatestTenPower] at *; omega

/-- Multiply by a power of ten; nothing if the product is not finite. -/
def raise? (m : Magnitude) (k : Nat) : Option Magnitude :=
  if k ≤ greatestTenPower then
    let product := m.mul (tenPower k)
    if product.isFinite then some product else none
  else if m.mantissa = 0 then some m
  else none

/-- A decimal significand scaled by a power of ten: the significand is rounded to a magnitude
first, and the scaling rounds once more. -/
def ofDecimal? (significand : Nat) (exponent : Int) : Option Magnitude :=
  let start := ofRatio significand 1
  match exponent with
  | .ofNat k => start.raise? k
  | .negSucc k => some (start.lower (k + 1))

end Magnitude

namespace Double

/-- Whether the double is zero, of either sign. -/
def isZero (d : Double) : Bool :=
  d.magnitude.mantissa == 0

end Double

end ProxyInbound
