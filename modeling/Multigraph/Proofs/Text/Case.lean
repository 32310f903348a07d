import Mathlib.Data.List.Basic
import Multigraph.Settings.Merge
import Multigraph.Text.Case
import Multigraph.Text.Space

/-!
Letter case of plain texts. The tables of letter case cover every letter there is, and one letter
may become several. Texts of plain characters know nothing of this: they change case character by
character, and there is nothing to strip from them. Whether a text is plain can be seen from its
lower case (`plain_of_toLower`), so the names that settings declare are plain however they are
spelled.
-/
namespace Multigraph.Text

/-- Whether a character is one of the first hundred and twenty-eight and no space. -/
def isPlain (c : Char) : Bool := c.toNat < 128 && !isSpace c

/-- A text of plain characters. -/
def Plain (s : String) : Prop := ∀ c ∈ s.toList, isPlain c

instance (s : String) : Decidable (Plain s) := List.decidableBAll (isPlain ·) s.toList

/-! ## Characters -/

section Characters

variable {c : Char}

/-- What holds of the first hundred and twenty-eight codes holds of their characters. -/
@[elab_as_elim]
theorem char_of_codes {P : Char → Prop} (codes : ∀ code < 128, P (Char.ofNat code))
    (low : c.toNat < 128) : P c := by
  have found := codes c.toNat low
  rwa [Char.ofNat_toNat] at found

theorem code_lt_of_isPlain (plain : isPlain c) : c.toNat < 128 := by
  simp only [isPlain, Bool.and_eq_true, decide_eq_true_eq] at plain
  exact plain.1

theorem not_isSpace_of_isPlain (plain : isPlain c) : isSpace c = false := by
  simp only [isPlain, Bool.and_eq_true, Bool.not_eq_true'] at plain
  exact plain.2

/-- Among the first hundred and twenty-eight characters only the first range of a table matters. -/
theorem changeCase_low {first : CaseRange} {others : List CaseRange}
    {special : List (Nat × List Nat)} (low : c.toNat < 128)
    (highRanges : ∀ range ∈ others, 128 ≤ range.first)
    (highSpecial : ∀ entry ∈ special, 128 ≤ entry.1) :
    changeCase (first :: others) special c =
      if first.holds c.toNat then [Char.ofNat (c.toNat + first.shift).toNat] else [c] := by
  have regular : special.find? (fun entry => entry.1 = c.toNat) = none :=
    List.find?_eq_none.mpr fun entry listed => by
      have := highSpecial entry listed
      simp only [decide_eq_true_eq]
      omega
  have outside : others.find? (fun range => range.holds c.toNat) = none :=
    List.find?_eq_none.mpr fun range listed => by
      have := highRanges range listed
      simp only [CaseRange.holds, Bool.and_eq_true, decide_eq_true_eq]
      omega
  rw [changeCase, regular, List.find?_cons, outside]
  cases first.holds c.toNat <;> rfl

theorem changeCase_upper (plain : isPlain c) :
    changeCase upperRanges upperSpecial c = [c.toUpper] := by
  have low := code_lt_of_isPlain plain
  have letters : changeCase upperRanges upperSpecial c =
      if CaseRange.holds ⟨0x61, 0x7a, 1, -32⟩ c.toNat then [Char.ofNat (c.toNat + -32 : Int).toNat]
      else [c] :=
    changeCase_low low (by decide +kernel) (by decide +kernel)
  rw [letters]
  refine char_of_codes ?_ low
  decide +kernel

theorem changeCase_lower (plain : isPlain c) :
    changeCase lowerRanges lowerSpecial c = [c.toLower] := by
  have low := code_lt_of_isPlain plain
  have letters : changeCase lowerRanges lowerSpecial c =
      if CaseRange.holds ⟨0x41, 0x5a, 1, 32⟩ c.toNat then [Char.ofNat (c.toNat + 32 : Int).toNat]
      else [c] :=
    changeCase_low low (by decide +kernel) (by decide +kernel)
  rw [letters]
  refine char_of_codes ?_ low
  decide +kernel

theorem char_toUpper_toLower (plain : isPlain c) : c.toLower.toUpper = c.toUpper :=
  char_of_codes (by decide +kernel) (code_lt_of_isPlain plain)

/-- A character beyond the first hundred and twenty-eight is its own lower case here. -/
theorem char_toLower_of_not_lt (high : ¬ c.toNat < 128) : c.toLower = c := by
  refine dif_neg fun letter => high ?_
  have last : c.toNat ≤ 'Z'.toNat := letter.2
  exact Nat.lt_of_le_of_lt last (by decide)

/-- The marks between the names on a path are no letters. -/
theorem char_toLower_eq_mark_iff {mark : Char} (among : mark = '_' ∨ mark = '.') :
    c.toLower = mark ↔ c = mark := by
  by_cases low : c.toNat < 128
  · rcases among with rfl | rfl <;> refine char_of_codes ?_ low <;> decide +kernel
  · rw [char_toLower_of_not_lt low]

theorem isPlain_of_toLower (plain : isPlain c.toLower) : isPlain c := by
  by_cases low : c.toNat < 128
  · exact char_of_codes (P := fun c => isPlain c.toLower → isPlain c) (by decide +kernel) low plain
  · rwa [char_toLower_of_not_lt low] at plain

end Characters

/-! ## Texts -/

section Texts

variable {s : String}

theorem toList_toLower (s : String) : s.toLower.toList = s.toList.map Char.toLower :=
  String.toList_map

theorem toList_toUpper (s : String) : s.toUpper.toList = s.toList.map Char.toUpper :=
  String.toList_map

theorem plain_of_toLower (plain : Plain s.toLower) : Plain s := by
  intro c here
  refine isPlain_of_toLower (plain c.toLower ?_)
  rw [toList_toLower]
  exact List.mem_map_of_mem here

theorem toUpper_toLower (plain : Plain s) : s.toLower.toUpper = s.toUpper := by
  refine String.toList_injective ?_
  rw [toList_toUpper, toList_toUpper, toList_toLower, List.map_map]
  exact List.map_congr_left fun c here => char_toUpper_toLower (plain c here)

theorem upperCase_of_plain (plain : Plain s) : upperCase s = s.toUpper := by
  refine String.toList_injective ?_
  rw [upperCase, toList_toUpper, String.toList_ofList, List.map_eq_flatMap]
  exact List.flatMap_congr fun c here => changeCase_upper (plain c here)

/-- Among plain characters there is no letter with two lower-case forms. -/
theorem lowerFrom_of_plain (afterCased : Bool) {text : List Char} (plain : ∀ c ∈ text, isPlain c) :
    lowerFrom afterCased text = text.map Char.toLower := by
  induction text generalizing afterCased with
  | nil => rfl
  | cons c rest ih =>
    have here : isPlain c := plain c (List.mem_cons_self ..)
    have single : c ≠ capitalSigma := by
      rintro rfl
      exact absurd here (by decide)
    rw [lowerFrom, if_neg (fun final => single final.1), changeCase_lower here,
      ih _ fun c later => plain c (List.mem_cons_of_mem _ later)]
    rfl

theorem lowerCase_of_plain (plain : Plain s) : lowerCase s = s.toLower := by
  rw [lowerCase, lowerFrom_of_plain false plain, ← toList_toLower, String.ofList_toList]

theorem strip_of_plain (plain : Plain s) : strip s.toList = s.toList := by
  have unstripped : ∀ text : List Char, (∀ c ∈ text, isPlain c) →
      text.dropWhile isSpace = text := by
    intro text plain
    cases text with
    | nil => rfl
    | cons c rest =>
      exact List.dropWhile_cons_of_neg (by
        simp [not_isSpace_of_isPlain (plain c (List.mem_cons_self ..))])
  rw [strip, unstripped _ plain, unstripped _ fun c here => plain c (List.mem_reverse.mp here),
    List.reverse_reverse]

/-- A plain text has no spaces to turn into underscores. -/
theorem joinedLower_of_plain (plain : Plain s) : Datum.joinedLower s = s.toLower := by
  have same : s.toList.map (fun c => if c = ' ' then '_' else c) = s.toList := by
    refine (List.map_congr_left fun c here => ?_).trans (List.map_id s.toList)
    refine if_neg ?_
    rintro rfl
    exact absurd (plain ' ' here) (by decide)
  rw [Datum.joinedLower, same, String.ofList_toList, lowerCase_of_plain plain]

end Texts

end Multigraph.Text
