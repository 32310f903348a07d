import Multigraph.Document.PlainScalar

/-!
Tokens of settings documents. A document is read character by character. Braces and brackets open
and close collections; inside them commas divide items, and outside a dash begins an item. A colon
ends a name if a blank or the end of a line follows; in a mapping in braces it also ends a name
that stands before it in quotes. Scalars are plain or stand between quotes. A hash sign where a
token may begin starts a comment. Every token knows its column, from which the nesting of lines is
told.
-/
namespace Multigraph.Document

open Text (isBlank)

inductive Token.Kind where
  | openMapping
  | closeMapping
  | openList
  | closeList
  | comma
  | colon
  | dash
  | plain (text : List Char)
  | quoted (text : List Char)
  deriving DecidableEq

structure Token where
  column : Nat
  kind : Token.Kind
  deriving DecidableEq

/-- What a reader is in. A scalar is kept with its column and its text, the last character first. -/
inductive Mode where
  | gap
  | comment
  /-- A line of dashes or points that begins or ends a document. -/
  | mark
  /-- A plain scalar, with the blanks after what has been read of it. -/
  | plain (column : Nat) (text blanks : List Char)
  | quoted (column : Nat) (double : Bool) (text : List Char)
  /-- Between the lines of a quoted scalar, with what they are joined by. -/
  | folded (column : Nat) (double : Bool) (joint text : List Char)
  /-- Before the second of two single quotes that stand for one. -/
  | doubled (column : Nat) (text : List Char)
  /-- After a backslash. -/
  | escape (column : Nat) (text : List Char)
  /-- In the digits of a code point, of which some are missing. -/
  | code (column : Nat) (missing value : Nat) (text : List Char)
  deriving DecidableEq

/-- A reader of a document: what it is in, its column, the collections that are open, innermost
first, as mappings or not, and whether the last token was a colon. -/
structure Reader where
  mode : Mode := .gap
  column : Nat := 0
  enclosing : List Bool := []
  afterColon : Bool := false
  deriving DecidableEq

/-! ## Characters -/

/-- Whether a word ends before a text. -/
def endsWord (text : List Char) : Bool :=
  match text with
  | c :: _ => isBlank c || c = '\n'
  | [] => true

/-- Whether a line begins with the mark that begins or ends a document. -/
def beginsMark (text : List Char) : Bool :=
  (text.take 3 = ['-', '-', '-'] || text.take 3 = ['.', '.', '.']) && endsWord (text.drop 3)

/-- The code point that a letter stands for after a backslash; other characters stand for
themselves. -/
def escapes : List (Char × Nat) :=
  [('0', 0), ('a', 7), ('b', 8), ('t', 9), ('n', 10), ('v', 11), ('f', 12), ('r', 13), ('e', 27),
    ('N', 0x85), ('_', 0xa0), ('L', 0x2028), ('P', 0x2029)]

/-- How many digits of a code point follow a letter after a backslash. -/
def codeWidths : List (Char × Nat) := [('x', 2), ('u', 4), ('U', 8)]

namespace Reader

/-- A reader that goes on after a token. -/
def after (r : Reader) (kind : Token.Kind) : Reader :=
  { r with mode := .gap, afterColon := kind = .colon }

/-- A token, and a reader that goes on after it. -/
def emit (r : Reader) (column : Nat) (kind : Token.Kind) : List Token × Reader :=
  ([⟨column, kind⟩], r.after kind)

/-- A reader that is in something else. -/
def enter (r : Reader) (mode : Mode) : List Token × Reader := ([], { r with mode := mode })

/-- Whether a colon before a text is a token where a token may begin. -/
def takesColon (r : Reader) (rest : List Char) : Bool :=
  endsWord rest || (r.enclosing.head? = some true && !r.afterColon)

/-- Reads a character where a token may begin. -/
def inGap (r : Reader) (c : Char) (rest : List Char) : List Token × Reader :=
  let inside := !r.enclosing.isEmpty
  if isBlank c || c = '\n' then r.enter .gap
  else if c = '#' then r.enter .comment
  else if r.column = 0 && !inside && beginsMark (c :: rest) then r.enter .mark
  else if c = Text.doubleQuote then r.enter (.quoted r.column true [])
  else if c = Text.singleQuote then r.enter (.quoted r.column false [])
  else if c = '\x7b' then
    { r with enclosing := true :: r.enclosing }.emit r.column .openMapping
  else if c = '[' then { r with enclosing := false :: r.enclosing }.emit r.column .openList
  else if c = '\x7d' && inside then
    { r with enclosing := r.enclosing.tail }.emit r.column .closeMapping
  else if c = ']' && inside then { r with enclosing := r.enclosing.tail }.emit r.column .closeList
  else if c = ',' && inside then r.emit r.column .comma
  else if c = ':' && r.takesColon rest then r.emit r.column .colon
  else if c = '-' && !inside && endsWord rest then r.emit r.column .dash
  else r.enter (.plain r.column [c] [])

/-- Whether a character ends a plain scalar that blanks follow or not. -/
def endsPlain (r : Reader) (c : Char) (rest blanks : List Char) : Bool :=
  (c = '#' && !blanks.isEmpty) || (c = ':' && endsWord rest) ||
    (!r.enclosing.isEmpty && [',', '[', ']', '\x7b', '\x7d'].contains c) ||
    (r.enclosing.isEmpty && c = '\n')

/-- Reads a character in or behind a plain scalar. Between its lines there is one blank. -/
def inPlain (r : Reader) (column : Nat) (text blanks : List Char) (c : Char) (rest : List Char) :
    List Token × Reader :=
  if r.endsPlain c rest blanks then
    let (scalar, r) := r.emit column (.plain text.reverse)
    let (tokens, r) := r.inGap c rest
    (scalar ++ tokens, r)
  else if c = '\n' then r.enter (.plain column text [c])
  else if isBlank c then
    r.enter (.plain column text (if blanks = ['\n'] then blanks else c :: blanks))
  else
    let joint := if blanks = ['\n'] then [' '] else blanks
    r.enter (.plain column (c :: joint ++ text) [])

/-- Reads a character of a quoted scalar. -/
def inQuoted (r : Reader) (column : Nat) (double : Bool) (text : List Char) (c : Char)
    (rest : List Char) : List Token × Reader :=
  if c = '\n' then r.enter (.folded column double [' '] (text.dropWhile isBlank))
  else if double && c = Text.doubleQuote then r.emit column (.quoted text.reverse)
  else if double && c = '\\' then r.enter (.escape column text)
  else if !double && c = Text.singleQuote then
    if rest.head? = some Text.singleQuote then r.enter (.doubled column text)
    else r.emit column (.quoted text.reverse)
  else r.enter (.quoted column double (c :: text))

/-- Reads a character between the lines of a quoted scalar: empty lines stay. -/
def inFolded (r : Reader) (column : Nat) (double : Bool) (joint text : List Char) (c : Char)
    (rest : List Char) : List Token × Reader :=
  if isBlank c then r.enter (.folded column double joint text)
  else if c = '\n' then
    r.enter (.folded column double (if joint = [' '] then [c] else c :: joint) text)
  else r.inQuoted column double (joint ++ text) c rest

/-- Reads the character after a backslash. -/
def inEscape (r : Reader) (column : Nat) (text : List Char) (c : Char) : List Token × Reader :=
  if c = '\n' then r.enter (.folded column true [] text)
  else match codeWidths.lookup c with
    | some width => r.enter (.code column width 0 text)
    | none =>
      let meant := ((escapes.lookup c).map Char.ofNat).getD c
      r.enter (.quoted column true (meant :: text))

/-- Reads a digit of a code point. -/
def inCode (r : Reader) (column missing value : Nat) (text : List Char) (c : Char) :
    List Token × Reader :=
  let value := 16 * value + (Numeral.digit? c).getD 0
  if missing ≤ 1 then r.enter (.quoted column true (Char.ofNat value :: text))
  else r.enter (.code column (missing - 1) value text)

/-- Reads a character, in what the reader is in. -/
def read (r : Reader) (c : Char) (rest : List Char) : List Token × Reader :=
  match r.mode with
  | .gap => r.inGap c rest
  | .comment => r.enter (if c = '\n' then .gap else .comment)
  | .mark => if c = '-' || c = '.' then r.enter .mark else r.inGap c rest
  | .plain column text blanks => r.inPlain column text blanks c rest
  | .quoted column double text => r.inQuoted column double text c rest
  | .folded column double joint text => r.inFolded column double joint text c rest
  | .doubled column text => r.enter (.quoted column false (c :: text))
  | .escape column text => r.inEscape column text c
  | .code column missing value text => r.inCode column missing value text c

/-- A reader in the column after a character. -/
def advance (r : Reader) (c : Char) : Reader :=
  { r with column := if c = '\n' then 0 else r.column + 1 }

/-- The tokens of a text. -/
def tokens (r : Reader) : List Char → List Token
  | [] =>
    match r.mode with
    | .plain column text _ => [⟨column, .plain text.reverse⟩]
    | _ => []
  | c :: rest =>
    let (read, r) := r.read c rest
    read ++ (r.advance c).tokens rest

end Reader

/-! ## Texts -/

/-- A text in which every line ends in a line feed. -/
def withLineFeeds : List Char → List Char
  | '\r' :: '\n' :: rest => '\n' :: withLineFeeds rest
  | '\r' :: rest => '\n' :: withLineFeeds rest
  | c :: rest => c :: withLineFeeds rest
  | [] => []

/-- The mark that tells the order of bytes; at the start of a text it says nothing. -/
def byteOrderMark : Char := Char.ofNat 0xfeff

/-- The tokens of a document. -/
def tokens (text : String) : List Token :=
  let text := text.toList
  let text := if text.head? = some byteOrderMark then text.tail else text
  ({} : Reader).tokens (withLineFeeds text)

end Multigraph.Document
