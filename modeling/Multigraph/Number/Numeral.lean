import Multigraph.Number.Binary64

/-!
Numerals: the spellings of numbers. Digits of a base spell a natural number, underscores among
them are passed over, and two rows of decimal digits about a point with an exponent spell a binary
number, the nearest to what they say.
-/
namespace Multigraph.Numeral

/-- The value of a digit in the usual bases. -/
def digit? (c : Char) : Option Nat :=
  if '0' ≤ c ∧ c ≤ '9' then some (c.toNat - 48)
  else if 'a' ≤ c ∧ c ≤ 'f' then some (c.toNat - 87)
  else if 'A' ≤ c ∧ c ≤ 'F' then some (c.toNat - 55)
  else none

/-- Whether a character is a digit of a base. -/
def isDigitOf (base : Nat) (c : Char) : Bool := (digit? c).any (· < base)

/-- Digits without the underscores among them. -/
def withoutUnderscores (digits : List Char) : List Char := digits.filter fun c => c ≠ '_'

/-- The number that digits of a base spell. -/
def natural? (base : Nat) (digits : List Char) : Option Nat :=
  let digits := withoutUnderscores digits
  if digits.isEmpty then none
  else digits.foldlM (fun n c => do
    let d ← digit? c
    if d < base then some (n * base + d) else none) 0

/-- Whether a numeral is negative, and what follows its sign. -/
def splitSign : List Char → Bool × List Char
  | '-' :: rest => (true, rest)
  | '+' :: rest => (false, rest)
  | text => (false, text)

/-- The number of two rows of decimal digits about a point and an exponent. -/
def binary? (negative : Bool) (whole fraction : List Char) (exponent : Int) : Option Binary64 :=
  (natural? 10 (whole ++ fraction)).map fun n =>
    .ofDecimal negative n (exponent - (withoutUnderscores fraction).length)

/-- What follows some decimal digits, of which there are as many as bounds allow. -/
def afterDigits? (least most : Nat) (text : List Char) : Option (List Char) :=
  let taken := (text.take most).takeWhile Char.isDigit
  if taken.length < least then none else some (text.drop taken.length)

/-- What follows a character. -/
def afterMark? (mark : Char) : List Char → Option (List Char)
  | c :: rest => if c = mark then some rest else none
  | [] => none

end Multigraph.Numeral
