import Multigraph.Datum
import Multigraph.Literal.Number
import Multigraph.Table

/-!
Values in literals. A value is a quoted text, a truth value, a number, a point in time, a list in
brackets or a mapping in braces. A list may go over several lines and have comments; a mapping
stands on one line. The names in a mapping may be paths with points, and no name is given twice.
-/
namespace Multigraph.Literal

open Text (isBlank)

/-! ## Gaps -/

/-- What follows blanks, line breaks and comments. -/
def afterGap? (inComment : Bool) : List Char → Option (List Char)
  | [] => some []
  | c :: rest =>
    if inComment then
      if c = '\n' then afterGap? false rest
      else if isRefused false c then none
      else afterGap? true rest
    else if c = '#' then afterGap? true rest
    else if isBlankOrBreak c then afterGap? false rest
    else some (c :: rest)

def afterBlanks (text : List Char) : List Char := text.dropWhile isBlank

/-! ## Names -/

/-- Whether a name may have a character without quotes. -/
def isBare (c : Char) : Bool := c.isAlphanum || c = '_' || c = '-'

/-- A name, with quotes or without. -/
def name? (text : List Char) : Option (String × List Char) :=
  let bare := text.takeWhile isBare
  if bare.isEmpty then lineText? text
  else some (String.ofList bare, text.drop bare.length)

/-- Names with points between them, at most as many as a limit. -/
def path? : Nat → List Char → Option (List String × List Char)
  | 0, _ => none
  | limit + 1, text => do
    let (name, rest) ← name? text
    match afterBlanks rest with
    | '.' :: rest => do
      let (names, rest) ← path? limit (afterBlanks rest)
      return (name :: names, rest)
    | rest => return ([name], rest)

/-- Puts a datum at the end of a path; whatever stands in the way and is no mapping is
replaced. -/
def put (datum : Datum) : List String → Option Datum → Datum
  | [], _ => datum
  | name :: path, held =>
    let entries := (held.bind Datum.entries?).getD []
    .mapping (Table.enter (.text name) (put datum path (Table.lookup (.text name) entries)) entries)

/-- Whether two paths cannot both be given, because one is part of the other. -/
def clash (path other : List String) : Bool := path.isPrefixOf other || other.isPrefixOf path

/-- The mapping of paths to data, if no two paths clash. -/
def mapping? (members : List (List String × Datum)) : Option Datum := do
  let step (taken : List (List String) × Datum) (given : List String × Datum) :
      Option (List (List String) × Datum) :=
    if taken.1.any (clash given.1) then none
    else some (given.1 :: taken.1, put given.2 given.1 (some taken.2))
  return (← members.foldlM step ([], .mapping [])).2

/-! ## Values -/

/-- A truth value, a number or a point in time. -/
def scalar? : List Char → Option (Scalar × List Char)
  | 't' :: 'r' :: 'u' :: 'e' :: rest => some (.bool true, rest)
  | 'f' :: 'a' :: 'l' :: 's' :: 'e' :: rest => some (.bool false, rest)
  | text => number? text

mutual

/-- A value, nested at most as deeply as a limit. -/
def value? : Nat → List Char → Option (Datum × List Char)
  | 0, _ => none
  | limit + 1, text =>
    match text with
    | '[' :: rest => do
      let (items, rest) ← items? limit (← afterGap? false rest)
      return (.list items, rest)
    | '\x7b' :: rest =>
      match afterBlanks rest with
      | '\x7d' :: rest => some (.mapping [], rest)
      | rest => do
        let (members, rest) ← members? limit rest
        return (← mapping? members, rest)
    | c :: _ =>
      if c = Text.doubleQuote || c = Text.singleQuote then
        (text? text).map fun (s, rest) => (.text s, rest)
      else (scalar? text).map fun (s, rest) => (.scalar s, rest)
    | [] => none

/-- The items of a list up to its closing bracket. -/
def items? : Nat → List Char → Option (List Datum × List Char)
  | 0, _ => none
  | _ + 1, ']' :: rest => some ([], rest)
  | limit + 1, text => do
    let (item, rest) ← value? limit text
    match ← afterGap? false rest with
    | ',' :: rest => do
      let (items, rest) ← items? limit (← afterGap? false rest)
      return (item :: items, rest)
    | ']' :: rest => return ([item], rest)
    | _ => none

/-- The members of a mapping up to its closing brace; a name comes first. -/
def members? : Nat → List Char → Option (List (List String × Datum) × List Char)
  | 0, _ => none
  | limit + 1, text => do
    let (path, rest) ← path? limit text
    let (datum, rest) ← value? limit (afterBlanks (← Numeral.afterMark? '=' rest))
    match afterBlanks rest with
    | ',' :: rest => do
      let (members, rest) ← members? limit (afterBlanks rest)
      return ((path, datum) :: members, rest)
    | '\x7d' :: rest => return ([(path, datum)], rest)
    | _ => none

end

/-- The datum that a whole text spells; a comment may stand behind it. -/
def datum? (text : List Char) : Option Datum := do
  let (datum, rest) ← value? (text.length + 1) (afterBlanks text)
  if (← afterGap? false rest).isEmpty then return datum else none

end Multigraph.Literal
