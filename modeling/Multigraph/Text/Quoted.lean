import Multigraph.Text.Printable

/-!
Quoted text. A text is written between single quotes, or between double quotes when it holds a
single quote and no double quote. Inside, the quote and the backslash are escaped by a backslash,
line feed, carriage return and tab have letters of their own, and every other character that is
not printable is written by its code point in lower-case hexadecimal digits.
-/
namespace Multigraph.Text

def singleQuote : Char := '\''

def doubleQuote : Char := '"'

/-- The lower-case hexadecimal digit of a number below sixteen. -/
def hexDigit (d : Nat) : Char :=
  if d < 10 then Char.ofNat (48 + d) else Char.ofNat (87 + d)

/-- The last `width` hexadecimal digits of a number, the most significant first. -/
def hexDigits : Nat → Nat → List Char
  | 0, _ => []
  | width + 1, n => hexDigits width (n / 16) ++ [hexDigit (n % 16)]

/-- A character written by its code point, with two, four or eight digits. -/
def escapedCode (c : Char) : List Char :=
  if c.toNat < 0x100 then '\\' :: 'x' :: hexDigits 2 c.toNat
  else if c.toNat < 0x10000 then '\\' :: 'u' :: hexDigits 4 c.toNat
  else '\\' :: 'U' :: hexDigits 8 c.toNat

/-- One character of a text that stands between two of the given quotes. -/
def quotedChar (quote c : Char) : List Char :=
  if c = quote ∨ c = '\\' then ['\\', c]
  else if c = '\n' then ['\\', 'n']
  else if c = '\r' then ['\\', 'r']
  else if c = '\t' then ['\\', 't']
  else if isPrintable c then [c]
  else escapedCode c

/-- The quote that encloses a text. -/
def enclosingQuote (text : List Char) : Char :=
  if singleQuote ∈ text ∧ doubleQuote ∉ text then doubleQuote else singleQuote

/-- A text between its quotes. -/
def quotedChars (text : List Char) : List Char :=
  let quote := enclosingQuote text
  quote :: text.flatMap (quotedChar quote) ++ [quote]

/-- A string between its quotes. -/
def quoted (text : String) : String :=
  String.ofList (quotedChars text.toList)

end Multigraph.Text
