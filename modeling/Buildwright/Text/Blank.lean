-- SUMMARY: White space as Unicode defines it, and trimming.

/-!
# Blank characters

The characters with the property `White_Space`, and texts without the blanks at their ends.
-/
namespace Buildwright.Text

/-- Whether a character has the Unicode property `White_Space`. -/
def isBlank (c : Char) : Bool :=
  let n := c.toNat
  (9 ≤ n && n ≤ 13) || n == 0x20 || n == 0x85 || n == 0xA0 || n == 0x1680 ||
  (0x2000 ≤ n && n ≤ 0x200A) || n == 0x2028 || n == 0x2029 || n == 0x202F || n == 0x205F ||
  n == 0x3000

/-- The characters of a text from the first that is not blank. -/
def trimStart (s : List Char) : List Char :=
  s.dropWhile isBlank

/-- The characters of a text up to the last that is not blank. -/
def trimEnd (s : List Char) : List Char :=
  (s.reverse.dropWhile isBlank).reverse

/-- The characters of a text without blanks at either end. -/
def trimmed (s : List Char) : List Char :=
  trimEnd (trimStart s)

/-- A text without blanks at either end. -/
def trim (s : String) : String :=
  String.ofList (trimmed s.toList)

/-- White space of the library's own class is blank. -/
theorem isBlank_of_isWhitespace {c : Char} (h : c.isWhitespace = true) : isBlank c = true := by
  simp only [Char.isWhitespace, Bool.or_eq_true, decide_eq_true_eq] at h
  rcases h with ((rfl | rfl) | rfl) | rfl <;> decide

end Buildwright.Text
