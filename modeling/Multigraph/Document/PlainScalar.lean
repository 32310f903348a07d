import Multigraph.Datum
import Multigraph.Number.Numeral
import Multigraph.Text.Space

/-!
Plain scalars. A scalar without quotes is read by its spelling: as null, as a truth value, as an
integer, as a decimal number, as a point in time, and as a text if it is none of these. Integers
may have a sign, may be written in base two, eight or sixteen, and may have underscores among their
digits; decimal numbers have a point or an exponent, and there are spellings for infinity and for
no number. A point in time is a date, or a date and a time of day.
-/
namespace Multigraph.PlainScalar

open Numeral
open Text (isBlank)

/-! ## Numbers -/

/-- The natural number that a text without sign spells. -/
def natural? : List Char → Option Nat
  | '0' :: 'b' :: digits => Numeral.natural? 2 digits
  | '0' :: 'o' :: digits => Numeral.natural? 8 digits
  | '0' :: 'x' :: digits => Numeral.natural? 16 digits
  | digits => Numeral.natural? 10 digits

/-- The integer that a text spells. -/
def integer? (text : List Char) : Option Int :=
  let (negative, rest) := splitSign text
  (natural? rest).map (Binary64.signed negative)

/-- The exponent that a text spells; where the mantissa has no digit before its point, the
exponent needs a sign. -/
def exponent? (needsSign : Bool) (text : List Char) : Option Int :=
  let (negative, digits) := splitSign text
  if needsSign && digits.length = text.length then none
  else if digits.all Char.isDigit then (Numeral.natural? 10 digits).map (Binary64.signed negative)
  else none

/-- The decimal number that a text spells. -/
def decimal? (text : List Char) : Option Binary64 :=
  let (negative, rest) := splitSign text
  let mantissa := rest.takeWhile fun c => c ≠ 'e' ∧ c ≠ 'E'
  let exponentPart := rest.drop mantissa.length
  let whole := mantissa.takeWhile fun c => c ≠ '.'
  let pointPart := mantissa.drop whole.length
  let fraction := pointPart.drop 1
  if [".inf", ".Inf", ".INF"].contains (String.ofList rest) then some (.infinite negative)
  else if [".nan", ".NaN", ".NAN"].contains (String.ofList text) then some .undefined
  else if pointPart.isEmpty && exponentPart.isEmpty then none
  else if whole.head? = some '_' then none
  else match exponentPart with
    | [] => binary? negative whole fraction 0
    | _ :: exponent => do
      binary? negative whole fraction (← exponent? whole.isEmpty exponent)

/-- Whether a text may spell a number: it begins with a sign, a digit or a point. -/
def mayBeNumber (text : List Char) : Bool :=
  match text with
  | c :: _ => c.isDigit || c = '-' || c = '+' || c = '.'
  | [] => false

/-! ## Points in time -/

/-- Whether a text is a distance from the common time, or nothing. -/
def isZone (text : List Char) : Bool :=
  match text.dropWhile isBlank with
  | [] => text.isEmpty
  | ['Z'] => true
  | sign :: rest =>
    (sign = '+' || sign = '-') &&
      match afterDigits? 1 2 rest with
      | some [] => true
      | some minutes => (afterMark? ':' minutes).bind (afterDigits? 2 2) = some []
      | none => false

/-- Whether a text is a time of day behind a date, with a mark or blanks between them. -/
def isTimeBehindDate (text : List Char) : Bool :=
  let time := match text with
    | 'T' :: rest | 't' :: rest => some rest
    | c :: rest => if isBlank c then some (rest.dropWhile isBlank) else none
    | [] => none
  let afterSeconds := do
    let minutes ← (afterDigits? 1 2 (← time)).bind (afterMark? ':')
    let seconds ← (afterDigits? 2 2 minutes).bind (afterMark? ':')
    afterDigits? 2 2 seconds
  match afterSeconds with
  | some ('.' :: rest) => isZone (rest.dropWhile Char.isDigit)
  | some rest => isZone rest
  | none => false

/-- The kind of point in time that a text spells. -/
def moment? (text : List Char) : Option Moment := do
  let month ← (afterDigits? 4 4 text).bind (afterMark? '-')
  if ((afterDigits? 2 2 month).bind (afterMark? '-')).bind (afterDigits? 2 2) = some [] then
    return .date
  let day ← (afterDigits? 1 2 month).bind (afterMark? '-')
  if isTimeBehindDate (← afterDigits? 1 2 day) then return .dateTime else none

/-! ## Scalars -/

/-- The number or the point in time that a text spells, an integer if possible. -/
def number? (text : List Char) : Option Scalar :=
  match integer? text with
  | some i => some (.int i)
  | none =>
    match decimal? text with
    | some x => some (.real x)
    | none => (moment? text).map fun kind => .moment kind (String.ofList text)

/-- The scalar that a text spells. -/
def read (text : List Char) : Scalar :=
  let s := String.ofList text
  if ["", "~", "null", "Null", "NULL"].contains s then .null
  else if ["true", "True", "TRUE"].contains s then .bool true
  else if ["false", "False", "FALSE"].contains s then .bool false
  else if mayBeNumber text then (number? text).getD (.text s)
  else .text s

end Multigraph.PlainScalar
