import Multigraph.Number.Binary64

/-!
Decimal notation of binary numbers. A positive number has a first significant digit, and so digits
and a place of the point among them; they may be rounded to a count of digits or of places after
the point, or be the fewest that read back as the same number. Digits are written positionally or
with an exponent. Rounding is to the nearest digits, and to an even last digit if two are equally
near.
-/
namespace Multigraph

/-- Decimal digits with a place of the point: the first digit stands that many places before it. -/
structure Digits where
  digits : List Char
  point : Int
  deriving DecidableEq

namespace Digits

/-- The digits of a number, with zeros in front up to a width. -/
def padded (width n : Nat) : List Char :=
  let digits := if n = 0 then [] else Nat.toDigits 10 n
  List.replicate (width - digits.length) '0' ++ digits

/-- The place of the point in a positive number. -/
def pointOf (f : Fraction) : Int :=
  if f.denominator ≤ f.numerator then Binary64.digitCount f.floor
  else 1 - Binary64.digitCount ((Fraction.mk f.denominator f.numerator).ceil - 1)

/-- A count of digits that are given as one number, which may have come out one digit longer. -/
def ofNumber (count n : Nat) (point : Int) : Digits :=
  if count < Binary64.digitCount n then ⟨padded count (n / 10), point + 1⟩
  else ⟨padded count n, point⟩

/-- A number rounded to a count of digits. -/
def significant (count : Nat) (f : Fraction) : Digits :=
  if f.numerator = 0 then ⟨List.replicate count '0', 1⟩
  else
    let point := pointOf f
    ofNumber count (f.scale 10 (count - point)).nearest point

/-- A count of digits near a number that read back as the number, the nearest such, if any do. -/
def readingBack? (number : Binary64) (f : Fraction) (count : Nat) : Option Digits :=
  let point := pointOf f
  let scaled := f.scale 10 (count - point)
  let near := scaled.nearest
  let far := if near = scaled.floor then near + 1 else scaled.floor
  ([near, far].find? fun n => Binary64.ofDecimal false n (point - count) = number).map
    fun n => ofNumber count n point

/-- Seventeen digits always read back. -/
def enoughDigits : Nat := 17

/-- The fewest digits that read back as a positive number. -/
def shortest (number : Binary64) (f : Fraction) : Digits :=
  let counts := (List.range enoughDigits).map (· + 1)
  (counts.findSome? (readingBack? number f)).getD (significant enoughDigits f)

/-! ## Writing digits -/

/-- The digits before the point and those after it. -/
def split (d : Digits) : List Char × List Char :=
  if d.point ≤ 0 then (['0'], List.replicate (-d.point).toNat '0' ++ d.digits)
  else
    let whole := d.point.toNat
    (d.digits.take whole ++ List.replicate (whole - d.digits.length) '0', d.digits.drop whole)

/-- Digits about a point, which is left out if nothing follows it, unless it is to be kept. -/
def aboutPoint (keepPoint : Bool) (whole fraction : List Char) : List Char :=
  if fraction.isEmpty && !keepPoint then whole else whole ++ '.' :: fraction

/-- An exponent with its mark and its sign, and two digits at least. -/
def exponentText (mark : Char) (exponent : Int) : List Char :=
  mark :: (if exponent < 0 then '-' else '+') :: padded 2 exponent.natAbs

/-- Digits with a point where it belongs. -/
def positional (keepPoint : Bool) (d : Digits) : List Char :=
  aboutPoint keepPoint d.split.1 d.split.2

/-- Digits with a point after the first and an exponent. -/
def scientific (mark : Char) (keepPoint : Bool) (d : Digits) : List Char :=
  aboutPoint keepPoint (d.digits.take 1) (d.digits.drop 1) ++ exponentText mark (d.point - 1)

/-- Digits without the zeros at their end, the first digit excepted. -/
def stripZeros (d : Digits) : Digits :=
  { d with
    digits := d.digits.take 1 ++
      ((d.digits.drop 1).reverse.dropWhile fun c => c = '0').reverse }

end Digits

/-! ## The shortest text of a number -/

/-- How the shortest digits of a number are written: positionally while the point stands within
bounds, and with an exponent beyond them. -/
structure NumberFormat where
  leastPoint : Int
  greatestPoint : Int
  wholeSuffix : List Char
  exponentMark : Char
  infinity : List Char
  undefined : List Char

namespace Binary64

/-- Numbers are positional from four zeros after the point up to sixteen digits before it, and
whole ones show a zero after the point. -/
def format : NumberFormat where
  leastPoint := -3
  greatestPoint := 16
  wholeSuffix := ['.', '0']
  exponentMark := 'e'
  infinity := ['i', 'n', 'f']
  undefined := ['n', 'a', 'n']

/-- A sign and a text. -/
def withSign (negative : Bool) (text : List Char) : List Char :=
  if negative then '-' :: text else text

/-- The digits of a finite number. -/
def shortestDigits (significand : Nat) (exponent : Int) : Digits :=
  if significand = 0 then ⟨['0'], 1⟩
  else Digits.shortest (finite false significand exponent) (magnitude significand exponent)

/-- Digits in the notation of a format. -/
def inFormat (format : NumberFormat) (d : Digits) : List Char :=
  if format.leastPoint ≤ d.point ∧ d.point ≤ format.greatestPoint then
    d.positional false ++ (if d.split.2.isEmpty then format.wholeSuffix else [])
  else d.scientific format.exponentMark false

/-- The shortest text that reads back as the number. -/
def text : Binary64 → List Char
  | finite negative significand exponent =>
    withSign negative (inFormat format (shortestDigits significand exponent))
  | infinite negative => withSign negative format.infinity
  | undefined => format.undefined

/-! ## Texts of a given precision -/

/-- The notations of a given precision: a count of places after the point, with or without an
exponent, or a count of digits in the notation that suits the number. -/
inductive Notation where
  | fixed
  | scientific
  | general
  deriving DecidableEq

/-- A number with a count of places after its point. -/
def fixedText (places : Nat) (keepPoint : Bool) (f : Fraction) : List Char :=
  let digits := Digits.padded (places + 1) (f.scale 10 places).nearest
  let whole := digits.length - places
  Digits.aboutPoint keepPoint (digits.take whole) (digits.drop whole)

/-- A number with a count of digits, positional unless the number is small or has more digits
before its point. Zeros at the end are left out unless the point is to be kept. -/
def generalText (count : Nat) (mark : Char) (keepPoint : Bool) (f : Fraction) : List Char :=
  let rounded := Digits.significant count f
  let digits := if keepPoint then rounded else rounded.stripZeros
  if -4 < rounded.point ∧ rounded.point ≤ count then digits.positional keepPoint
  else digits.scientific mark keepPoint

/-- A positive number in a notation of a given precision. -/
def Notation.write (kind : Notation) (precision : Nat) (mark : Char) (keepPoint : Bool)
    (f : Fraction) : List Char :=
  match kind with
  | .fixed => fixedText precision keepPoint f
  | .scientific => (Digits.significant (precision + 1) f).scientific mark keepPoint
  | .general => generalText (max precision 1) mark keepPoint f

/-- A number in a notation of a given precision. -/
def textIn (kind : Notation) (precision : Nat) (mark : Char) (keepPoint : Bool) :
    Binary64 → List Char
  | finite negative significand exponent =>
    withSign negative (kind.write precision mark keepPoint (magnitude significand exponent))
  | infinite negative => withSign negative format.infinity
  | undefined => format.undefined

end Binary64

end Multigraph
