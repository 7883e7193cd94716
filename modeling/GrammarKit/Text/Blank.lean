/-!
# Blank text

A text is blank when nothing is left of it after its white space is cut off both ends, that is when
it holds white space alone. White space is the Unicode property of that name.
-/

namespace GrammarKit.Text

/-- The characters of the property White_Space. -/
def isWhiteSpace (c : Char) : Bool :=
  let n := c.toNat
  (9 ≤ n && n ≤ 13) || n == 0x20 || n == 0x85 || n == 0xA0 || n == 0x1680 ||
    (0x2000 ≤ n && n ≤ 0x200A) || n == 0x2028 || n == 0x2029 || n == 0x202F || n == 0x205F ||
    n == 0x3000

/-- White space alone, or nothing at all. -/
def isBlank (s : String) : Bool :=
  s.toList.all isWhiteSpace

/-- The white space that core knows is white space here. -/
theorem isWhiteSpace_of_isWhitespace {c : Char} (h : c.isWhitespace = true) :
    isWhiteSpace c = true := by
  simp only [Char.isWhitespace, Bool.or_eq_true, decide_eq_true_eq] at h
  rcases h with ((h | h) | h) | h <;> subst h <;> decide

end GrammarKit.Text
