import Automation.Text.Ranges

/-!
# Blank characters

The characters that text processing treats as white space: the Unicode spaces and separators,
the line controls, and the four information separators `U+001C` to `U+001F`.  `trim` removes
them from both ends of a text.
-/

namespace Automation.Text

/-- The ranges of the blank characters. -/
def blankRanges : List (Nat × Nat) :=
  [(0x0009, 0x000D), (0x001C, 0x0020), (0x0085, 0x0085), (0x00A0, 0x00A0), (0x1680, 0x1680),
    (0x2000, 0x200A), (0x2028, 0x2029), (0x202F, 0x202F), (0x205F, 0x205F), (0x3000, 0x3000)]

/-- White space. -/
def isBlank (c : Char) : Bool := inRanges blankRanges c

/-- White space around numbers: the information separators are none. -/
def isSpace (c : Char) : Bool := isBlank c && !(0x1C ≤ c.toNat && c.toNat ≤ 0x1F)

/-- The characters of a text without those of a class at both ends. -/
def trimWhere (outer : Char → Bool) (cs : List Char) : List Char :=
  ((cs.dropWhile outer).reverse.dropWhile outer).reverse

/-- The characters of a text without the blank ones at both ends. -/
def trimChars (cs : List Char) : List Char := trimWhere isBlank cs

/-- A text without the blank characters at both ends. -/
def trim (s : String) : String := String.ofList (trimChars s.toList)

/-- Whether a text has no character but blank ones. -/
def blank (s : String) : Bool := s.toList.all isBlank

end Automation.Text
