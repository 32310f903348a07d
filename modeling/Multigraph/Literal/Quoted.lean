import Multigraph.Number.Numeral
import Multigraph.Text.Quoted
import Multigraph.Text.Space

/-!
Quoted literals. A text between double quotes may hold escapes, and one between single quotes is
taken as it stands. With three quotes on either side a text may have several lines; a line feed
directly after the opening quotes is not part of it, but up to two more quotes before the closing
ones are.
-/
namespace Multigraph.Literal

open Text (isBlank)

def isBlankOrBreak (c : Char) : Bool := isBlank c || c = '\n'

/-- Whether a character may not stand in a text as it is. -/
def isRefused (multiline : Bool) (c : Char) : Bool :=
  (c.toNat < 32 || c.toNat = 127) && c ≠ '\t' && !(multiline && c = '\n')

/-! ## Escapes -/

/-- The code points of the letters that may follow a backslash. -/
def letters : List (Char × Nat) :=
  [('b', 8), ('t', 9), ('n', 10), ('f', 12), ('r', 13), (Text.doubleQuote, 34), ('\\', 92)]

/-- The character of a code point in a given count of hexadecimal digits. -/
def codePoint? (width : Nat) (text : List Char) : Option Char := do
  let digits := text.take width
  let code ← Numeral.natural? 16 digits
  if digits.length = width ∧ digits.all (Numeral.isDigitOf 16) ∧ code.isValidChar then
    return Char.ofNat code
  else none

/-- What an escape stands for after its backslash, and how many characters it takes. At the end of
a line an escape stands for nothing and takes all blanks up to the next word. -/
def escape? (multiline : Bool) (text : List Char) : Option (List Char × Nat) :=
  let gap := text.takeWhile isBlankOrBreak
  match text with
  | 'u' :: rest => (codePoint? 4 rest).map fun c => ([c], 5)
  | 'U' :: rest => (codePoint? 8 rest).map fun c => ([c], 9)
  | c :: _ =>
    match letters.lookup c with
    | some code => some ([Char.ofNat code], 1)
    | none => if multiline && gap.contains '\n' then some ([], gap.length) else none
  | [] => none

/-! ## Texts -/

/-- Ends a text of several lines after its closing quotes: up to two more quotes belong to it. -/
def closing (quote : Char) (rest : List Char) : List Char × List Char :=
  let more := min 2 (rest.takeWhile fun c => c = quote).length
  (List.replicate more quote, rest.drop more)

/-- Whether a text ends at a quote. -/
def isClosed (multiline : Bool) (quote : Char) (rest : List Char) : Bool :=
  !multiline || rest.take 2 = [quote, quote]

/-- What follows the quote or the quotes at the end of a text, and what still belongs to it. -/
def close (multiline : Bool) (quote : Char) (rest : List Char) : List Char × List Char :=
  if multiline then closing quote (rest.drop 2) else ([], rest)

/-- A text with escapes up to its end, after the given count of characters. -/
def escapedText (multiline : Bool) : Nat → List Char → Option (List Char × List Char)
  | _, [] => none
  | skipped + 1, _ :: rest => escapedText multiline skipped rest
  | 0, c :: rest =>
    if c = Text.doubleQuote && isClosed multiline c rest then some (close multiline c rest)
    else if c = '\\' then do
      let (meant, taken) ← escape? multiline rest
      let (text, rest) ← escapedText multiline taken rest
      return (meant ++ text, rest)
    else if isRefused multiline c then none
    else (escapedText multiline 0 rest).map fun (text, rest) => (c :: text, rest)

/-- A text without escapes up to its end. -/
def plainText (multiline : Bool) : List Char → Option (List Char × List Char)
  | [] => none
  | c :: rest =>
    if c = Text.singleQuote && isClosed multiline c rest then some (close multiline c rest)
    else if isRefused multiline c then none
    else (plainText multiline rest).map fun (text, rest) => (c :: text, rest)

/-- A text without a line feed at its start. -/
def dropBreak : List Char → List Char
  | '\n' :: rest => rest
  | text => text

/-- A text on one line, with its quotes. -/
def lineText? : List Char → Option (String × List Char)
  | '"' :: rest =>
    (escapedText false 0 rest).map fun (text, rest) => (String.ofList text, rest)
  | '\'' :: rest => (plainText false rest).map fun (text, rest) => (String.ofList text, rest)
  | _ => none

/-- A text with its quotes, on one line or on several. -/
def text? : List Char → Option (String × List Char)
  | '"' :: '"' :: '"' :: rest =>
    (escapedText true 0 (dropBreak rest)).map fun (text, rest) => (String.ofList text, rest)
  | '\'' :: '\'' :: '\'' :: rest =>
    (plainText true (dropBreak rest)).map fun (text, rest) => (String.ofList text, rest)
  | text => lineText? text

end Multigraph.Literal
