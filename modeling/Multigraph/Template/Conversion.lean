import Multigraph.Template.Directive
import Multigraph.Template.Fault

/-!
Conversions. The letter of a directive says what becomes of its argument: a spelling, an integer in
digits of a base, a number as a decimal fraction, or a character. What a conversion makes is a
body, and a body is fitted into a width with spaces before or behind it, or, if it is a number,
with zeros behind its sign. The main statement is `length_layout`: a body is never cut, and it
fills its width exactly when it is shorter.
-/
namespace Multigraph.Template

inductive Conversion where
  /-- The spelling in which a text stands bare. -/
  | bare
  /-- The spelling in which a text is quoted. -/
  | quoted
  /-- The quoted spelling with every character beyond the first hundred and twenty-eight written
  by its code point. -/
  | escaped
  | decimal
  | octal
  | hexadecimal
  | real (kind : Binary64.Notation)
  | character
  deriving DecidableEq

/-- The conversion that a letter names. -/
def Conversion.ofLetter? (letter : Char) : Option Conversion :=
  if letter = 's' then some .bare
  else if letter = 'r' then some .quoted
  else if letter = 'a' then some .escaped
  else if letter = 'd' ∨ letter = 'i' ∨ letter = 'u' then some .decimal
  else if letter = 'o' then some .octal
  else if letter = 'x' ∨ letter = 'X' then some .hexadecimal
  else if letter = 'e' ∨ letter = 'E' then some (.real .scientific)
  else if letter = 'f' ∨ letter = 'F' then some (.real .fixed)
  else if letter = 'g' ∨ letter = 'G' then some (.real .general)
  else if letter = 'c' then some .character
  else none

/-! ## Arguments as numbers -/

/-- The integer that an argument is; truth values count as zero and one. -/
def integerOf? : Datum → Option Int
  | .scalar (.int i) => some i
  | .scalar (.bool b) => some (if b then 1 else 0)
  | _ => none

/-- The integer that an argument is after the part behind its point is dropped. -/
def truncated (letter : Char) (argument : Datum) : Except Fault Int :=
  match integerOf? argument, argument with
  | some i, _ => .ok i
  | none, .scalar (.real .undefined) => .error .undefinedInteger
  | none, .scalar (.real x) =>
    match x.truncate? with
    | some i => .ok i
    | none => .error .infiniteInteger
  | none, _ => .error (.notNumber letter argument.typeName)

/-- The integer that an argument is. -/
def integer (letter : Char) (argument : Datum) : Except Fault Int :=
  match integerOf? argument with
  | some i => .ok i
  | none => .error (.notInteger letter argument.typeName)

/-- The number that an argument is. -/
def real (argument : Datum) : Except Fault Binary64 :=
  match integerOf? argument, argument with
  | some i, _ =>
    match Binary64.ofInt i with
    | .infinite _ => .error .integerTooLarge
    | x => .ok x
  | none, .scalar (.real x) => .ok x
  | none, _ => .error (.notReal argument.typeName)

/-- The character that an argument is, or has as its number. -/
def character (argument : Datum) : Except Fault Char :=
  match integerOf? argument, argument with
  | some i, _ =>
    if 0 ≤ i ∧ i < 0x110000 then .ok (Char.ofNat i.toNat) else .error .noSuchCharacter
  | none, .scalar (.text s) =>
    match s.toList with
    | [c] => .ok c
    | _ => .error .notCharacter
  | none, _ => .error .notCharacter

/-! ## Bodies -/

/-- A converted argument: its sign, the mark of its base, and its text. -/
structure Body where
  isNumber : Bool := false
  sign : List Char := []
  mark : List Char := []
  text : List Char
  deriving DecidableEq

/-- The sign that flags ask for: always one if there is a plus among them, else a blank for a
number that is not negative if they have one. -/
def signOf (flags : List Char) (negative : Bool) : List Char :=
  if negative then ['-']
  else if flags.contains '+' then ['+']
  else if flags.contains ' ' then [' ']
  else []

/-- A spelling, cut to a precision. -/
def spelling (precision : Option Nat) (text : List Char) : Body :=
  { text := match precision with
      | some n => text.take n
      | none => text }

/-- An integer in digits of a base, as many as the precision asks for. The flag for marks puts a
mark of the base before the digits. -/
def digits (flags : List Char) (precision : Option Nat) (base : Nat) (mark : List Char) (i : Int) :
    Body :=
  let text := Nat.toDigits base i.natAbs
  { isNumber := true
    sign := signOf flags (i < 0)
    mark := if flags.contains '#' then mark else []
    text := List.replicate (precision.getD 0 - text.length) '0' ++ text }

/-- The precision of decimal fractions, unless a directive gives another. -/
def usualPrecision : Nat := 6

/-- A number in a notation. The flag for marks keeps the point even if no digit follows. -/
def fraction (flags : List Char) (precision : Option Nat) (kind : Binary64.Notation)
    (x : Binary64) : Body :=
  { isNumber := true
    sign := signOf flags x.isNegative
    text := x.abs.textIn kind (precision.getD usualPrecision) 'e' (flags.contains '#') }

/-- A body in capitals. -/
def Body.inCapitals (body : Body) : Body :=
  { body with mark := body.mark.map Char.toUpper, text := body.text.map Char.toUpper }

/-- A character that is written by its code point unless it is one of the first hundred and
twenty-eight. -/
def escapedCharacter (c : Char) : List Char :=
  if c.toNat < 128 then [c] else Text.escapedCode c

/-- What a conversion makes of an argument. -/
def Conversion.body (conversion : Conversion) (letter : Char) (flags : List Char)
    (precision : Option Nat) (argument : Datum) : Except Fault Body :=
  match conversion with
  | bare => .ok (spelling precision argument.bare.toList)
  | quoted => .ok (spelling precision argument.quoted.toList)
  | escaped => .ok (spelling precision (argument.quoted.toList.flatMap escapedCharacter))
  | decimal => (truncated letter argument).map (digits flags precision 10 [])
  | octal => (integer letter argument).map (digits flags precision 8 ['0', 'o'])
  | hexadecimal => (integer letter argument).map (digits flags precision 16 ['0', 'x'])
  | real kind => (Template.real argument).map (fraction flags precision kind)
  | character => (Template.character argument).map fun c => { text := [c] }

/-- What the conversion of a letter makes of an argument; a capital letter makes capitals. -/
def convert (letter : Char) (position : Nat) (flags : List Char) (precision : Option Nat)
    (argument : Datum) : Except Fault Body :=
  match Conversion.ofLetter? letter with
  | some conversion =>
    (conversion.body letter flags precision argument).map fun body =>
      if letter.isUpper then body.inCapitals else body
  | none => .error (.unknownLetter letter position)

/-! ## Layout -/

namespace Body

/-- How many characters a body has. -/
def size (body : Body) : Nat := body.sign.length + body.mark.length + body.text.length

/-- A body in a width. -/
def layout (body : Body) (leftAligned zeroFilled : Bool) (width : Nat) : List Char :=
  let missing := width - body.size
  let before := body.sign ++ body.mark
  if leftAligned then before ++ body.text ++ List.replicate missing ' '
  else if zeroFilled && body.isNumber then before ++ List.replicate missing '0' ++ body.text
  else List.replicate missing ' ' ++ before ++ body.text

/-- A body fills its width, or exceeds it if the width is too small. -/
theorem length_layout (body : Body) (leftAligned zeroFilled : Bool) (width : Nat) :
    (body.layout leftAligned zeroFilled width).length = max width body.size := by
  unfold layout size
  dsimp only
  split
  · simp
    omega
  · split <;> simp <;> omega

end Body

end Multigraph.Template
