import Multigraph.Datum

/-!
What may be wrong with a template or with the arguments that it is given. A fault is a cause; its
wording is in `Fault.message` and its class in `Fault.category`.
-/
namespace Multigraph.Template

inductive Fault where
  /-- A directive has a key, and the argument is no mapping. -/
  | keyWithoutMapping
  /-- The template ends inside a key. -/
  | unclosedKey
  /-- The mapping has no such key. -/
  | missingKey (key : String)
  /-- The argument for a width or a precision is no integer. -/
  | extentNotInteger
  | widthTooBig
  | precisionTooBig
  /-- The argument for a width is out of range. -/
  | widthOutOfRange
  /-- The argument for a precision is out of range. -/
  | precisionOutOfRange
  /-- The template ends inside a directive. -/
  | unfinished
  | tooFewArguments
  | tooManyArguments
  /-- A conversion to decimal digits was given something else than a number. -/
  | notNumber (letter : Char) (typeName : String)
  /-- A conversion to digits of another base was given something else than an integer. -/
  | notInteger (letter : Char) (typeName : String)
  /-- A conversion to a decimal fraction was given something else than a number. -/
  | notReal (typeName : String)
  /-- The integer is beyond every binary number. -/
  | integerTooLarge
  /-- No integer is near an infinite number. -/
  | infiniteInteger
  /-- No integer is near an undefined number. -/
  | undefinedInteger
  /-- The argument is neither a character nor a number. -/
  | notCharacter
  /-- No character has this number. -/
  | noSuchCharacter
  /-- No conversion has this letter. -/
  | unknownLetter (letter : Char) (position : Nat)
  deriving DecidableEq

/-- The classes of faults: an argument of the wrong type, a template or a value that makes no
sense, a number that is out of range, and a missing key. -/
inductive Fault.Category where
  | type
  | value
  | range
  | key
  deriving DecidableEq

namespace Fault

/-- The class of a fault. -/
def category : Fault → Category
  | keyWithoutMapping | extentNotInteger | tooFewArguments | tooManyArguments => .type
  | notNumber _ _ | notInteger _ _ | notReal _ | notCharacter => .type
  | unclosedKey | widthTooBig | precisionTooBig | unfinished => .value
  | undefinedInteger | unknownLetter _ _ => .value
  | widthOutOfRange | precisionOutOfRange | integerTooLarge | infiniteInteger => .range
  | noSuchCharacter => .range
  | missingKey _ => .key

/-- How a letter is shown: one that is no plain character stands as a question mark. -/
def shownLetter (letter : Char) : Char :=
  if 31 ≤ letter.toNat ∧ letter.toNat ≤ 126 then letter else '?'

/-- The wording of a fault. A missing key is its own message. -/
def message : Fault → String
  | keyWithoutMapping => "format requires a mapping"
  | unclosedKey => "incomplete format key"
  | missingKey key => Text.quoted key
  | extentNotInteger => "* wants int"
  | widthTooBig => "width too big"
  | precisionTooBig => "precision too big"
  | widthOutOfRange => "Python int too large to convert to C ssize_t"
  | precisionOutOfRange => "Python int too large to convert to C int"
  | unfinished => "incomplete format"
  | tooFewArguments => "not enough arguments for format string"
  | tooManyArguments => "not all arguments converted during string formatting"
  | notNumber letter typeName =>
    String.ofList ['%', letter] ++ " format: a real number is required, not " ++ typeName
  | notInteger letter typeName =>
    String.ofList ['%', letter] ++ " format: an integer is required, not " ++ typeName
  | notReal typeName => "must be real number, not " ++ typeName
  | integerTooLarge => "int too large to convert to float"
  | infiniteInteger => "cannot convert float infinity to integer"
  | undefinedInteger => "cannot convert float NaN to integer"
  | notCharacter => "%c requires int or char"
  | noSuchCharacter => "%c arg not in range(0x110000)"
  | unknownLetter letter position =>
    "unsupported format character '" ++ String.ofList [shownLetter letter] ++ "' (0x" ++
      String.ofList (Nat.toDigits 16 letter.toNat) ++ ") at index " ++ decimal position

end Fault

end Multigraph.Template
