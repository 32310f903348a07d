/-!
Binary floating-point numbers of double width. A finite number is a significand below two to the
power of fifty-three times a power of two; its sign is kept apart, so that there are two zeros.
Numbers are made by rounding an exact fraction to the nearest one, and to the even significand if
two are equally near. All arithmetic is exact arithmetic on integers.
-/
namespace Multigraph

inductive Binary64 where
  /-- The significand times two to the power of the exponent. -/
  | finite (negative : Bool) (significand : Nat) (exponent : Int)
  | infinite (negative : Bool)
  | undefined
  deriving DecidableEq, Inhabited

/-- A fraction of natural numbers. -/
structure Fraction where
  numerator : Nat
  denominator : Nat
  deriving DecidableEq

namespace Fraction

/-- A fraction times a power of a base. -/
def scale (f : Fraction) (base : Nat) : Int → Fraction
  | .ofNat n => ⟨f.numerator * Nat.pow base n, f.denominator⟩
  | .negSucc n => ⟨f.numerator, f.denominator * Nat.pow base (n + 1)⟩

/-- The integer part of a fraction. -/
def floor (f : Fraction) : Nat := f.numerator / f.denominator

/-- The least integer that is not below a fraction. -/
def ceil (f : Fraction) : Nat := (f.numerator + (f.denominator - 1)) / f.denominator

/-- The integer nearest to a fraction, and the even one of two that are equally near. -/
def nearest (f : Fraction) : Nat :=
  let rest := 2 * (f.numerator % f.denominator)
  if rest > f.denominator ∨ (rest = f.denominator ∧ f.floor % 2 = 1) then f.floor + 1 else f.floor

end Fraction

namespace Binary64

/-- Two to the power of the number of digits of a full significand. -/
def significandBound : Nat := 9007199254740992

/-- The exponent of the least numbers. -/
def leastExponent : Int := -1074

/-- The exponent of the greatest numbers. -/
def greatestExponent : Int := 971

/-- The number with a significand that may have reached its bound by rounding up. -/
def ofRounded (negative : Bool) (significand : Nat) (exponent : Int) : Binary64 :=
  let full := significand = significandBound
  let significand := if full then significandBound / 2 else significand
  let exponent := if full then exponent + 1 else exponent
  if greatestExponent < exponent then infinite negative
  else finite negative significand exponent

/-- The exponent for which a positive fraction has a significand below the bound. -/
def exponentFor (f : Fraction) : Int :=
  let guess : Int := (f.numerator.log2 : Int) - f.denominator.log2 - 53
  let exponent := if (f.scale 2 (-guess)).floor < significandBound then guess else guess + 1
  max exponent leastExponent

/-- The number nearest to a fraction. -/
def ofFraction (negative : Bool) (f : Fraction) : Binary64 :=
  if f.numerator = 0 then finite negative 0 leastExponent
  else
    let exponent := exponentFor f
    ofRounded negative (f.scale 2 (-exponent)).nearest exponent

/-- The number nearest to an integer. -/
def ofInt (i : Int) : Binary64 := ofFraction (i < 0) ⟨i.natAbs, 1⟩

/-- How many decimal digits a number has; zero has none. -/
def digitCount (n : Nat) : Nat := if n = 0 then 0 else (Nat.toDigits 10 n).length

/-- The number nearest to digits times a power of ten. Powers that lead out of the range of the
numbers, on either side, are not worked out. -/
def ofDecimal (negative : Bool) (digits : Nat) (exponent : Int) : Binary64 :=
  let size : Int := exponent + digitCount digits
  if digits = 0 ∨ size < -330 then finite negative 0 leastExponent
  else if 310 < size then infinite negative
  else ofFraction negative (Fraction.scale ⟨digits, 1⟩ 10 exponent)

/-- The absolute value of a finite number. -/
def magnitude (significand : Nat) (exponent : Int) : Fraction :=
  Fraction.scale ⟨significand, 1⟩ 2 exponent

/-- A natural number with a sign. -/
def signed (negative : Bool) (n : Nat) : Int := if negative then -(n : Int) else n

/-- A finite number without the part after its point. -/
def truncate? : Binary64 → Option Int
  | finite negative significand exponent =>
    some (signed negative (magnitude significand exponent).floor)
  | infinite _ => none
  | undefined => none

/-- The integer that a number is, if it is one. -/
def toInt? : Binary64 → Option Int
  | finite negative significand exponent =>
    let f := magnitude significand exponent
    if f.numerator % f.denominator = 0 then some (signed negative f.floor) else none
  | infinite _ => none
  | undefined => none

/-- The absolute value of a number; of an undefined one, itself. -/
def abs : Binary64 → Binary64
  | finite _ significand exponent => finite false significand exponent
  | infinite _ => infinite false
  | undefined => undefined

/-- Whether a number has the negative sign; the negative zero has. -/
def isNegative : Binary64 → Bool
  | finite negative _ _ => negative
  | infinite negative => negative
  | undefined => false

/-- Zero is zero whatever it is scaled by. -/
theorem ofDecimal_zero (negative : Bool) (exponent : Int) :
    ofDecimal negative 0 exponent = finite negative 0 leastExponent := by
  simp [ofDecimal]

/-- The nearest integer is off by half at most, on either side. -/
theorem two_mul_nearest (f : Fraction) (positive : 0 < f.denominator) :
    2 * f.numerator ≤ 2 * (f.nearest * f.denominator) + f.denominator ∧
      2 * (f.nearest * f.denominator) ≤ 2 * f.numerator + f.denominator := by
  have whole := Nat.div_add_mod f.numerator f.denominator
  have small := Nat.mod_lt f.numerator positive
  rw [Nat.mul_comm] at whole
  unfold Fraction.nearest Fraction.floor
  dsimp only
  split
  · rw [Nat.add_mul]
    omega
  · omega

end Binary64

end Multigraph
