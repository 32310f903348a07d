/-!
Spaces. These are the characters that separate words: the blanks, the characters that end lines or
other parts of a text, and the spaces of all widths, after Unicode 14.
-/
namespace Multigraph.Text

/-- The ranges of the spaces. -/
def spaceRanges : List (Nat × Nat) :=
  [(0x9, 0xd), (0x1c, 0x20), (0x85, 0x85), (0xa0, 0xa0), (0x1680, 0x1680), (0x2000, 0x200a),
    (0x2028, 0x2029), (0x202f, 0x202f), (0x205f, 0x205f), (0x3000, 0x3000)]

/-- Whether a character is a space. -/
def isSpace (c : Char) : Bool :=
  spaceRanges.any fun (first, last) => first ≤ c.toNat && c.toNat ≤ last

/-- Whether a character is a space within a line of a plain format: a space or a tab. -/
def isBlank (c : Char) : Bool := c = ' ' || c = '\t'

/-- A text without the spaces at its ends. -/
def strip (text : List Char) : List Char :=
  ((text.dropWhile isSpace).reverse.dropWhile isSpace).reverse

/-- The characters that are usually meant by white space are all spaces. -/
theorem isSpace_of_isWhitespace (c : Char) (white : c.isWhitespace) : isSpace c := by
  simp only [Char.isWhitespace, Bool.or_eq_true, decide_eq_true_eq] at white
  rcases white with ((rfl | rfl) | rfl) | rfl <;> decide

/-- Every blank is a space. -/
theorem isSpace_of_isBlank (c : Char) (blank : isBlank c) : isSpace c := by
  simp only [isBlank, Bool.or_eq_true, decide_eq_true_eq] at blank
  rcases blank with rfl | rfl <;> decide

end Multigraph.Text
