import Multigraph.Table
import Multigraph.Template.Conversion

/-!
Filling templates. The directives of a template take its arguments in order; a single argument
that is a mapping with something in it also answers keys. All arguments have to be taken, unless
they are such a mapping. A template without arguments is not read at all: its percent signs are
plain text.
-/
namespace Multigraph.Template

/-- The arguments that are still to be taken, and the mapping that answers keys. -/
structure Arguments where
  pending : List Datum
  mapping : Option (List (Scalar × Datum)) := none

/-- The arguments of a template. -/
def Arguments.ofList (arguments : List Datum) : Arguments :=
  match arguments with
  | [.mapping (entry :: rest)] => { pending := arguments, mapping := some (entry :: rest) }
  | _ => { pending := arguments }

/-- A step that fills a part of a template, or finds a fault. -/
abbrev Filling := StateT Arguments (Except Fault)

/-- Takes the next argument. -/
def take : Filling Datum := do
  match (← get).pending with
  | datum :: rest =>
    modify fun arguments => { arguments with pending := rest }
    return datum
  | [] => throw .tooFewArguments

/-- Makes the value of a key the next argument and the only one. -/
def select (key : Key) : Filling Unit := do
  match (← get).mapping, key with
  | none, _ => throw .keyWithoutMapping
  | some _, .unclosed => throw .unclosedKey
  | some entries, .named text =>
    let name := String.ofList text
    match Table.lookup (.text name) entries with
    | some datum => modify fun arguments => { arguments with pending := [datum] }
    | none => throw (.missingKey name)

/-- The limits of an extent: every number below the bound is one, and so is every argument that is
not below its negation. -/
structure Limits where
  bound : Nat
  tooBig : Fault
  outOfRange : Fault

/-- The limits of a width. -/
def widthLimits : Limits := ⟨9223372036854775808, .widthTooBig, .widthOutOfRange⟩

/-- The limits of a precision. -/
def precisionLimits : Limits := ⟨2147483648, .precisionTooBig, .precisionOutOfRange⟩

/-- The number of an extent, which an argument may give. -/
def measure (limits : Limits) : Option Extent → Filling (Option Int)
  | none => return none
  | some (.given n) => if n < limits.bound then return some n else throw limits.tooBig
  | some .argument => do
    match integerOf? (← take) with
    | some i =>
      if -limits.bound ≤ i ∧ i < limits.bound then return some i else throw limits.outOfRange
    | none => throw .extentNotInteger

/-- The text of a directive. A negative width aligns it to the left, and a negative precision is
no precision but zero. -/
def fillDirective (d : Directive) : Filling (List Char) := do
  d.key.forM select
  let width := (← measure widthLimits d.width).getD 0
  let precision := (← measure precisionLimits d.precision).map Int.toNat
  match d.conversion with
  | some letter =>
    let body ← convert letter d.position d.flags precision (← take)
    return body.layout (d.flags.contains '-' || width < 0) (d.flags.contains '0') width.natAbs
  | none => throw .unfinished

/-- The text of pieces, which have to take all arguments. -/
def fill : List Piece → Filling (List Char)
  | [] => do
    let arguments ← get
    if arguments.mapping.isNone && !arguments.pending.isEmpty then throw .tooManyArguments
    else return []
  | .literal c :: rest => return c :: (← fill rest)
  | .directive d :: rest => return (← fillDirective d) ++ (← fill rest)

/-- The text of a template under its arguments. -/
def format (template : String) (arguments : List Datum) : Except Fault String :=
  if arguments.isEmpty then .ok template
  else
    let text := template.toList
    (fill (pieces text.length text)).run' (Arguments.ofList arguments) |>.map String.ofList

/-- Without arguments a template is its own text. -/
theorem format_nil (template : String) : format template [] = .ok template := rfl

end Multigraph.Template
