import Multigraph.Literal.Quoted
import Multigraph.Scalar

/-!
Literals of numbers and points in time. Numbers are spelled strictly: a decimal number has no zeros
in front, digits stand on both sides of a point, and an underscore stands between two digits. In
another base than ten a number has no sign. Points in time have to exist.
-/
namespace Multigraph.Literal

open Numeral

/-! ## Numbers -/

/-- The digits at the start of a text, each of which an underscore may stand before. -/
def digits (isDigit : Char → Bool) : List Char → List Char × List Char
  | [] => ([], [])
  | c :: rest =>
    if isDigit c then
      let (more, rest) := digits isDigit rest
      (c :: more, rest)
    else if c = '_' && rest.head?.any isDigit then digits isDigit rest
    else ([], c :: rest)

/-- The digits at the start of a text, which begins with one. -/
def digits? (isDigit : Char → Bool) (text : List Char) : Option (List Char × List Char) :=
  if text.head?.any isDigit then some (digits isDigit text) else none

/-- A number in another base than ten. -/
def basedNumber? (text : List Char) : Option (Scalar × List Char) := do
  let (base, rest) ← match text with
    | '0' :: 'x' :: rest => some (16, rest)
    | '0' :: 'b' :: rest => some (2, rest)
    | '0' :: 'o' :: rest => some (8, rest)
    | _ => none
  let (digits, rest) ← digits? (isDigitOf base) rest
  return (.int (← natural? base digits), rest)

/-- The digits before the point of a number: a zero alone, or any that do not begin with it. -/
def wholeDigits? : List Char → Option (List Char × List Char)
  | '0' :: rest => some (['0'], rest)
  | text => digits? Char.isDigit text

/-- The digits after a point, if there are any. -/
def fractionDigits (text : List Char) : List Char × List Char :=
  ((afterMark? '.' text).bind (digits? Char.isDigit)).getD ([], text)

/-- An exponent, if there is one. -/
def exponent (text : List Char) : Option Int × List Char :=
  let exponent := do
    let rest ← (afterMark? 'e' text).orElse fun _ => afterMark? 'E' text
    let (negative, rest) := splitSign rest
    let (digits, rest) ← digits? Char.isDigit rest
    return (Binary64.signed negative (← natural? 10 digits), rest)
  match exponent with
  | some (exponent, rest) => (some exponent, rest)
  | none => (none, text)

/-- A decimal number: an integer, unless it has a fraction or an exponent. -/
def decimalNumber? (text : List Char) : Option (Scalar × List Char) := do
  let (negative, rest) := splitSign text
  let (whole, rest) ← wholeDigits? rest
  let (fraction, rest) := fractionDigits rest
  let (power, rest) := exponent rest
  if fraction.isEmpty && power.isNone then
    return (.int (Binary64.signed negative (← natural? 10 whole)), rest)
  else return (.real (← binary? negative whole fraction (power.getD 0)), rest)

/-- An infinite or an undefined number. -/
def specialNumber? (text : List Char) : Option (Scalar × List Char) :=
  let (negative, rest) := splitSign text
  match rest with
  | 'i' :: 'n' :: 'f' :: rest => some (.real (.infinite negative), rest)
  | 'n' :: 'a' :: 'n' :: rest => some (.real .undefined, rest)
  | _ => none

/-! ## Points in time -/

/-- A number of exactly so many digits within bounds. -/
def bounded? (width least most : Nat) (text : List Char) : Option (Nat × List Char) := do
  let rest ← afterDigits? width width text
  let n ← natural? 10 (text.take width)
  if least ≤ n ∧ n ≤ most then return (n, rest) else none

/-- How many days a month has. -/
def daysIn (year month : Nat) : Nat :=
  if month = 2 then
    if year % 4 = 0 ∧ (year % 100 ≠ 0 ∨ year % 400 = 0) then 29 else 28
  else if month = 4 ∨ month = 6 ∨ month = 9 ∨ month = 11 then 30
  else 31

/-- What follows a date. -/
def afterDate? (text : List Char) : Option (List Char) := do
  let (year, rest) ← bounded? 4 1 9999 text
  let (month, rest) ← bounded? 2 1 12 (← afterMark? '-' rest)
  let (_, rest) ← bounded? 2 1 (daysIn year month) (← afterMark? '-' rest)
  return rest

/-- What follows a time of day. -/
def afterTime? (text : List Char) : Option (List Char) := do
  let (_, rest) ← bounded? 2 0 23 text
  let (_, rest) ← bounded? 2 0 59 (← afterMark? ':' rest)
  let (_, rest) ← bounded? 2 0 59 (← afterMark? ':' rest)
  match rest with
  | '.' :: fraction =>
    if fraction.head?.any Char.isDigit then return fraction.dropWhile Char.isDigit else return rest
  | _ => return rest

/-- What follows a distance from the common time. -/
def afterZone? : List Char → Option (List Char)
  | 'Z' :: rest | 'z' :: rest => some rest
  | '+' :: rest | '-' :: rest => do
    let (_, rest) ← bounded? 2 0 23 rest
    let (_, rest) ← bounded? 2 0 59 (← afterMark? ':' rest)
    return rest
  | _ => none

/-- What follows a time of day behind a date, and perhaps its distance from the common time. -/
def afterTimeBehindDate? : List Char → Option (List Char)
  | c :: rest =>
    if c = 'T' || c = 't' || c = ' ' then
      (afterTime? rest).map fun rest => (afterZone? rest).getD rest
    else none
  | [] => none

/-- A point in time that takes a text up to its rest. -/
def spanning (kind : Moment) (text rest : List Char) : Scalar × List Char :=
  (.moment kind (String.ofList (text.take (text.length - rest.length))), rest)

/-- A point in time: a date, a date and a time of day, or a time of day. -/
def moment? (text : List Char) : Option (Scalar × List Char) :=
  match afterDate? text with
  | some rest =>
    match afterTimeBehindDate? rest with
    | some behind => some (spanning .dateTime text behind)
    | none => some (spanning .date text rest)
  | none => (afterTime? text).map (spanning .time text)

/-- A number or a point in time. -/
def number? (text : List Char) : Option (Scalar × List Char) :=
  (moment? text).orElse fun _ => (basedNumber? text).orElse fun _ =>
    (decimalNumber? text).orElse fun _ => specialNumber? text

end Multigraph.Literal
