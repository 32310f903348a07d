import Multigraph.Document.Token
import Multigraph.Table

/-!
Nesting. A document is one datum. Collections in brackets and braces are read from their tokens
with a stack of open ones. In lines, names and dashes are nested by their columns: what stands
further right below a name or a dash belongs to it, and so do the dashes of a list directly below
its name. A document whose lines are names is a mapping, one of dashes is a list, and other lines
are a scalar.
-/
namespace Multigraph.Document

/-! ## Collections in brackets and braces -/

/-- A collection that is open: its column, whether it is a mapping, its items so far, the last
first, and the name and the value of the item that is being read. -/
structure Collection where
  column : Nat
  isMapping : Bool
  items : List (Scalar × Datum) := []
  name : Option Scalar := none
  value : Option Datum := none
  deriving Inhabited

namespace Collection

/-- A scalar that serves as a name; a collection would serve by its spelling. -/
def nameOf : Datum → Scalar
  | .scalar s => s
  | datum => .text datum.quoted

/-- A collection after a colon: what was read is a name. -/
def nameRead (c : Collection) : Collection :=
  { c with name := some ((c.value.map nameOf).getD .null), value := none }

/-- A collection with the item that was read put among the others. An item of a list that has a
name is a mapping of its own. -/
def itemRead (c : Collection) : Collection :=
  let item := match c.isMapping, c.name, c.value with
    | true, some name, value => some (name, value.getD .null)
    | true, none, value => value.map fun datum => (nameOf datum, .null)
    | false, some name, value => some (.null, .mapping [(name, value.getD .null)])
    | false, none, value => value.map fun datum => (.null, datum)
  { c with items := item.toList ++ c.items, name := none, value := none }

/-- The datum of a collection that is complete. -/
def toDatum (c : Collection) : Datum :=
  if c.isMapping then .mapping (Table.ofList c.items.reverse).entries
  else .list (c.items.reverse.map Prod.snd)

end Collection

/-! ## Lines -/

/-- What a line is, or a part of a line. -/
inductive Mark.Kind where
  | dash
  | name (s : Scalar)
  /-- Words of a plain scalar, which may go on in the next line. -/
  | words (text : List Char)
  | datum (d : Datum)

structure Mark where
  column : Nat
  kind : Mark.Kind

/-- A datum put into the innermost open collection, or as a mark if there is none. -/
def place (column : Nat) (datum : Datum) : List Collection → List Mark × List Collection
  | [] => ([⟨column, .datum datum⟩], [])
  | inner :: outer => ([], { inner with value := some datum } :: outer)

/-- Reads a token inside a collection. -/
def insideCollection (inner : Collection) (outer : List Collection) (token : Token) :
    List Mark × List Collection :=
  match token.kind with
  | .openMapping => ([], { column := token.column, isMapping := true } :: inner :: outer)
  | .openList => ([], { column := token.column, isMapping := false } :: inner :: outer)
  | .closeMapping | .closeList => place inner.column inner.itemRead.toDatum outer
  | .comma => ([], inner.itemRead :: outer)
  | .colon => ([], inner.nameRead :: outer)
  | .dash => ([], inner :: outer)
  | .plain text => ([], { inner with value := some (.scalar (PlainScalar.read text)) } :: outer)
  | .quoted text => ([], { inner with value := some (.text (String.ofList text)) } :: outer)

/-- The marks of tokens, where some collections are open. A colon without a name before it stands
behind the name null. -/
def marks : List Collection → List Token → List Mark
  | _, [] => []
  | inner :: outer, token :: rest =>
    let (read, collections) := insideCollection inner outer token
    read ++ marks collections rest
  | [], ⟨column, .plain text⟩ :: ⟨_, .colon⟩ :: rest =>
    ⟨column, .name (PlainScalar.read text)⟩ :: marks [] rest
  | [], ⟨column, .quoted text⟩ :: ⟨_, .colon⟩ :: rest =>
    ⟨column, .name (.text (String.ofList text))⟩ :: marks [] rest
  | [], ⟨column, kind⟩ :: rest =>
    match kind with
    | .plain text => ⟨column, .words text⟩ :: marks [] rest
    | .quoted text => ⟨column, .datum (.text (String.ofList text))⟩ :: marks [] rest
    | .dash => ⟨column, .dash⟩ :: marks [] rest
    | .colon => ⟨column, .name .null⟩ :: marks [] rest
    | .openMapping => marks [{ column := column, isMapping := true }] rest
    | .openList => marks [{ column := column, isMapping := false }] rest
    | _ => marks [] rest

/-! ## Blocks -/

/-- A part of a block: an element of a list, an entry of a mapping, or what is left of a scalar. -/
inductive Part.Kind where
  | element (d : Datum)
  | entry (name : Scalar) (d : Datum)
  | words (text : List Char)
  | datum (d : Datum)

structure Part where
  column : Nat
  kind : Part.Kind

namespace Part

def element? (part : Part) : Option Datum :=
  match part.kind with
  | .element d => some d
  | _ => none

def entry? (part : Part) : Option (Scalar × Datum) :=
  match part.kind with
  | .entry name d => some (name, d)
  | _ => none

def words? (part : Part) : Option (List Char) :=
  match part.kind with
  | .words text => some text
  | _ => none

/-- Whether a part stands below a name in the same column and still belongs to it. -/
def isElementAt (column : Nat) (part : Part) : Bool :=
  part.column = column && part.element?.isSome

end Part

/-- The datum of a block, by the kind of its first part. -/
def ofParts (parts : List Part) : Datum :=
  match parts.head?.map Part.kind with
  | none => .null
  | some (.datum d) => d
  | some (.words _) =>
    .scalar (PlainScalar.read ([' '].intercalate (parts.filterMap Part.words?)))
  | some (.element _) => .list (parts.filterMap Part.element?)
  | some (.entry _ _) => .mapping (Table.ofList (parts.filterMap Part.entry?)).entries

/-- Puts a mark before the parts that follow it and takes those that belong to it. -/
def attach (mark : Mark) (below : List Part) : List Part :=
  let deeper := below.takeWhile fun part => mark.column < part.column
  let owned := below.takeWhile fun part =>
    mark.column < part.column || part.isElementAt mark.column
  match mark.kind with
  | .dash => ⟨mark.column, .element (ofParts deeper)⟩ :: below.drop deeper.length
  | .name s => ⟨mark.column, .entry s (ofParts owned)⟩ :: below.drop owned.length
  | .words text => ⟨mark.column, .words text⟩ :: below
  | .datum d => ⟨mark.column, .datum d⟩ :: below

/-- The datum of a document. -/
def read (text : String) : Datum := ofParts ((marks [] (tokens text)).foldr attach [])

end Multigraph.Document
