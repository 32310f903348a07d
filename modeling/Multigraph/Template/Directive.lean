/-!
Message templates. A template is a text with directives. A directive begins with a percent sign
and ends with the letter of its conversion; between them it may have a key in parentheses, flags,
a width, and a precision after a point. A doubled percent sign stands for one. The main statement
is `length_read_le`: reading a directive only takes characters away, so that a template has finitely
many pieces.
-/
namespace Multigraph.Template

/-- The key of a directive. -/
inductive Key where
  | named (text : List Char)
  /-- The template ends before the closing parenthesis. -/
  | unclosed
  deriving DecidableEq

/-- A width or a precision: a number, or one that an argument gives. -/
inductive Extent where
  | given (n : Nat)
  | argument
  deriving DecidableEq

structure Directive where
  key : Option Key
  flags : List Char
  width : Option Extent
  precision : Option Extent
  /-- The letter, unless the template ends before it. -/
  conversion : Option Char
  /-- The place of the letter in the template. -/
  position : Nat
  deriving DecidableEq

/-- A piece of a template. -/
inductive Piece where
  | literal (c : Char)
  | directive (d : Directive)
  deriving DecidableEq

/-! ## Parts of a directive -/

/-- The text up to the parenthesis that closes the given number of open ones, and what follows. -/
def closeKey : Nat → List Char → Key × List Char
  | _, [] => (.unclosed, [])
  | depth, c :: rest =>
    if c = ')' && depth = 1 then (.named [], rest)
    else
      let depth := if c = ')' then depth - 1 else if c = '(' then depth + 1 else depth
      match closeKey depth rest with
      | (.named text, after) => (.named (c :: text), after)
      | (.unclosed, after) => (.unclosed, after)

/-- A key, if there is one, and what follows. -/
def readKey : List Char → Option Key × List Char
  | '(' :: rest => (some (closeKey 1 rest).1, (closeKey 1 rest).2)
  | text => (none, text)

def isFlag (c : Char) : Bool := c = '-' || c = '+' || c = ' ' || c = '#' || c = '0'

/-- The number that decimal digits spell. -/
def decimalNumber (digits : List Char) : Nat :=
  digits.foldl (fun n c => 10 * n + (c.toNat - '0'.toNat)) 0

/-- A width or a precision, if there is one, and what follows. -/
def readExtent : List Char → Option Extent × List Char
  | '*' :: rest => (some .argument, rest)
  | text =>
    let digits := text.takeWhile Char.isDigit
    (if digits.isEmpty then none else some (.given (decimalNumber digits)),
      text.dropWhile Char.isDigit)

/-- A precision, if there is one, and what follows. A point alone is a precision of zero. -/
def readPrecision : List Char → Option Extent × List Char
  | '.' :: rest => (some ((readExtent rest).1.getD (.given 0)), (readExtent rest).2)
  | text => (none, text)

/-- A letter for the size of the argument says nothing; at most one is passed over. -/
def skipSize : List Char → List Char
  | c :: rest => if c = 'h' || c = 'l' || c = 'L' then rest else c :: rest
  | [] => []

/-- The directive after a percent sign in a template of the given length, and what follows. -/
def Directive.read (length : Nat) (text : List Char) : Directive × List Char :=
  let key := readKey text
  let width := readExtent (key.2.dropWhile isFlag)
  let precision := readPrecision width.2
  let letter := skipSize precision.2
  ({ key := key.1
     flags := key.2.takeWhile isFlag
     width := width.1
     precision := precision.1
     conversion := letter.head?
     position := length - letter.length }, letter.tail)

/-! ## What a directive takes -/

theorem length_closeKey_le (depth : Nat) (text : List Char) :
    (closeKey depth text).2.length ≤ text.length := by
  induction text generalizing depth with
  | nil => simp [closeKey]
  | cons c rest ih =>
    unfold closeKey
    split
    · simp
    · dsimp only
      have shorter := ih (if c = ')' then depth - 1 else if c = '(' then depth + 1 else depth)
      split
      · next read =>
        rw [read] at shorter
        exact Nat.le_succ_of_le shorter
      · next read =>
        rw [read] at shorter
        exact Nat.le_succ_of_le shorter

theorem length_dropWhile_le (keep : Char → Bool) (text : List Char) :
    (text.dropWhile keep).length ≤ text.length :=
  (List.dropWhile_sublist keep).length_le

theorem length_readKey_le (text : List Char) : (readKey text).2.length ≤ text.length := by
  unfold readKey
  split
  · exact Nat.le_succ_of_le (length_closeKey_le 1 _)
  · exact Nat.le_refl _

theorem length_readExtent_le (text : List Char) : (readExtent text).2.length ≤ text.length := by
  unfold readExtent
  split
  · exact Nat.le_succ _
  · exact length_dropWhile_le _ _

theorem length_readPrecision_le (text : List Char) :
    (readPrecision text).2.length ≤ text.length := by
  unfold readPrecision
  split
  · exact Nat.le_succ_of_le (length_readExtent_le _)
  · exact Nat.le_refl _

theorem length_skipSize_le (text : List Char) : (skipSize text).length ≤ text.length := by
  unfold skipSize
  split
  · split <;> simp
  · simp

/-- What follows a directive is no longer than the text it was read from. -/
theorem length_read_le (length : Nat) (text : List Char) :
    (Directive.read length text).2.length ≤ text.length := by
  unfold Directive.read
  dsimp only
  rw [List.length_tail]
  have key := length_readKey_le text
  have flags := length_dropWhile_le isFlag (readKey text).2
  have width := length_readExtent_le ((readKey text).2.dropWhile isFlag)
  have precision := length_readPrecision_le (readExtent ((readKey text).2.dropWhile isFlag)).2
  have size := length_skipSize_le
    (readPrecision (readExtent ((readKey text).2.dropWhile isFlag)).2).2
  omega

/-! ## Pieces -/

/-- The pieces of the rest of a template of the given length. -/
def pieces (length : Nat) : List Char → List Piece
  | [] => []
  | '%' :: '%' :: rest => .literal '%' :: pieces length rest
  | '%' :: rest =>
    .directive (Directive.read length rest).1 :: pieces length (Directive.read length rest).2
  | c :: rest => .literal c :: pieces length rest
termination_by text => text.length
decreasing_by
  · simp only [List.length_cons]
    omega
  · exact Nat.lt_succ_of_le (length_read_le length rest)
  · exact Nat.lt_succ_self _

end Multigraph.Template
