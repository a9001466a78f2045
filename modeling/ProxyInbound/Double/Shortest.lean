import ProxyInbound.Double

/-!
# The shortest decimal text of a double

A double is written with the fewest decimal digits that round back to it; of several such digit
strings the nearest one is taken, a tie going to the even last digit. Numbers from `1e-5` up to
below `1e16` are written positionally with at least one decimal, all others with one digit before
the point and a signed exponent without padding.
-/

namespace ProxyInbound.Double

open Magnitude

/-- Decimal digits with the decimal exponent of the first one. -/
structure Decimal where
  /-- The digits, first to last, without trailing zeros. -/
  digits : List Char
  /-- The power of ten that the first digit counts. -/
  exponent : Int
  deriving DecidableEq, Repr

/-- Steps of ten that bring a positive quotient below one up to one. -/
def stepsUp (num den : Nat) : Nat → Nat
  | 0 => 0
  | fuel + 1 => if den ≤ num then 0 else stepsUp (num * 10) den fuel + 1

/-- The decimal exponent of the first digit of a positive magnitude. The least magnitude is above
`10 ^ -324`, which bounds the steps. -/
def leadingExponent (m : Magnitude) : Int :=
  let (num, den) := m.ratio
  if den ≤ num then ((Nat.toDigits 10 (num / den)).length : Int) - 1
  else -(stepsUp num den 330 : Int)

/-- The lower end of the numbers that round to the magnitude, in quarters of the last place. Below
a power of two the spacing is halved. -/
def lowerQuarters (m : Magnitude) : Nat :=
  if m.mantissa = 1 <<< 52 ∧ leastExponent < m.exponent then 4 * m.mantissa - 1
  else 4 * m.mantissa - 2

/-- The upper end of the numbers that round to the magnitude, in quarters of the last place. -/
def upperQuarters (m : Magnitude) : Nat :=
  4 * m.mantissa + 2

/-- A quarter of the last place, times `10 ^ scale`, as a quotient. -/
def quarter (m : Magnitude) (scale : Int) : Nat × Nat :=
  let e := m.exponent - 2
  (Nat.pow 10 scale.toNat <<< e.toNat, Nat.pow 10 (-scale).toNat <<< (-e).toNat)

/-- Whether `c / 10 ^ scale` rounds to the magnitude. The ends count for an even mantissa. -/
def roundsTo (m : Magnitude) (scale : Int) (c : Nat) : Bool :=
  let (num, den) := quarter m scale
  if m.mantissa % 2 = 0 then
    lowerQuarters m * num ≤ c * den && c * den ≤ upperQuarters m * num
  else
    lowerQuarters m * num < c * den && c * den < upperQuarters m * num

/-- The better neighbour of the magnitude among the multiples of `1 / 10 ^ scale`, if one of the
two rounds back. -/
def neighbour? (m : Magnitude) (scale : Int) : Option Nat :=
  let (num, den) := quarter m scale
  let value := 4 * m.mantissa * num
  let below := value / den
  let lowGap := value - below * den
  let highGap := (below + 1) * den - value
  match roundsTo m scale below, roundsTo m scale (below + 1) with
  | true, true =>
    if lowGap < highGap ∨ (lowGap = highGap ∧ below % 2 = 0) then some below
    else some (below + 1)
  | true, false => some below
  | false, true => some (below + 1)
  | false, false => none

/-- The digits of `c / 10 ^ scale`. -/
def decimalOf (c : Nat) (scale : Int) : Decimal :=
  let written := Nat.toDigits 10 c
  ⟨(written.reverse.dropWhile (· == '0')).reverse, (written.length : Int) - 1 - scale⟩

/-- The shortest digits that round back to a positive magnitude. Seventeen digits always do. -/
def shortest (m : Magnitude) : Decimal :=
  let lead := leadingExponent m
  let found := (List.range 17).findSome? fun (n : Nat) =>
    let scale := (n : Int) - lead
    (neighbour? m scale).map fun c => decimalOf c scale
  found.getD (decimalOf 0 0)

/-- The least decimal exponent that is written positionally. -/
def leastPositional : Int := -5

/-- The greatest decimal exponent that is written positionally. -/
def greatestPositional : Int := 15

/-- The digits after the point, a single zero if there are none. -/
def decimals (ds : List Char) : List Char :=
  if ds.isEmpty then ['0'] else ds

/-- Digits around the point, zeros filling the places up to it. -/
def positional (d : Decimal) : List Char :=
  if 0 ≤ d.exponent then
    let places := d.exponent.toNat + 1
    (d.digits.take places ++ List.replicate (places - d.digits.length) '0') ++
      '.' :: decimals (d.digits.drop places)
  else
    ['0', '.'] ++ List.replicate ((-d.exponent).toNat - 1) '0' ++ d.digits

/-- One digit before the point and the exponent with its sign. -/
def exponential (d : Decimal) : List Char :=
  let fraction := if d.digits.length ≤ 1 then [] else '.' :: d.digits.drop 1
  let sign := if 0 ≤ d.exponent then '+' else '-'
  d.digits.take 1 ++ fraction ++ 'e' :: sign :: Nat.toDigits 10 d.exponent.natAbs

/-- The text of a positive magnitude or zero. -/
def magnitudeChars (m : Magnitude) : List Char :=
  if m.mantissa = 0 then ['0', '.', '0']
  else
    let d := shortest m
    if leastPositional ≤ d.exponent ∧ d.exponent ≤ greatestPositional then positional d
    else exponential d

/-- The text of a double, a minus sign before the negative ones. -/
def text (d : Double) : String :=
  String.ofList ((if d.negative then ['-'] else []) ++ magnitudeChars d.magnitude)

end ProxyInbound.Double
