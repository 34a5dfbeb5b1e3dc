/-
Blank characters, and text without them at its ends. Signatures may
carry blanks around every name; property values may carry them around
the word they hold.
-/
import TestDraft.Text.Ranges

namespace TestDraft.Text

/-- The blank characters: the Unicode white space, and the four
separators U+001C to U+001F. -/
def blankRanges : Ranges :=
  [(0x09, 0x0D), (0x1C, 0x20), (0x85, 0x85), (0xA0, 0xA0), (0x1680, 0x1680),
   (0x2000, 0x200A), (0x2028, 0x2029), (0x202F, 0x202F), (0x205F, 0x205F),
   (0x3000, 0x3000)]

/-- Whether a character is blank. -/
def isBlank (c : Char) : Bool := blankRanges.covers c.toNat

/-- The text without the blanks at its end. -/
def trimEnd (l : List Char) : List Char :=
  (l.reverse.dropWhile isBlank).reverse

/-- The text without the blanks at either end. -/
def trim (l : List Char) : List Char :=
  trimEnd (l.dropWhile isBlank)

/-- Every character that the core library calls white space is blank. -/
theorem isBlank_of_isWhitespace {c : Char} (h : c.isWhitespace = true) :
    isBlank c = true := by
  simp only [Char.isWhitespace, Bool.or_eq_true, decide_eq_true_eq] at h
  rcases h with ((h | h) | h) | h <;> subst h <;> decide

example : blankRanges.apart = true ∧ blankRanges.size = 29 := by decide

-- A zero-width space is no blank.
example : isBlank '\u200b' = false := by decide

end TestDraft.Text
