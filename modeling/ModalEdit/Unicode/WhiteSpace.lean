import ModalEdit.Unicode.CodeRanges

/-! # White space

The characters with the property `White_Space` of Unicode 17.0: the blanks that separate
words, line breaks among them.  The joiner-like "zero width" spaces are not part of it.
-/

namespace ModalEdit.Unicode

/-- The ranges of `White_Space`. -/
def whiteSpaceRanges : CodeRanges :=
  [(0x0009, 0x000D), (0x0020, 0x0020), (0x0085, 0x0085), (0x00A0, 0x00A0), (0x1680, 0x1680),
   (0x2000, 0x200A), (0x2028, 0x2029), (0x202F, 0x202F), (0x205F, 0x205F), (0x3000, 0x3000)]

/-- Whether a character separates words. -/
def isWhiteSpace (c : Char) : Bool := whiteSpaceRanges.covers c.toNat

theorem whiteSpaceRanges_ascending : whiteSpaceRanges.Ascending := by decide

/-- The blanks of ASCII that the core library knows are white space here. -/
theorem isWhiteSpace_of_isWhitespace {c : Char} (h : c.isWhitespace = true) :
    isWhiteSpace c = true := by
  simp only [Char.isWhitespace, Bool.or_eq_true, decide_eq_true_eq] at h
  rcases h with ((h | h) | h) | h <;> subst h <;> decide

end ModalEdit.Unicode
