/-!
# Padding

Columns of a listing are filled up with blanks to a width that counts characters. A text that is
wider keeps its full length.
-/

namespace GrammarKit.Text

/-- The text with blanks behind it up to the width. -/
def padRight (width : Nat) (s : String) : String :=
  s ++ String.ofList (List.replicate (width - s.length) ' ')

/-- The text with blanks before it up to the width. -/
def padLeft (width : Nat) (s : String) : String :=
  String.ofList (List.replicate (width - s.length) ' ') ++ s

theorem padRight_of_le {width : Nat} {s : String} (h : width ≤ s.length) :
    padRight width s = s := by
  simp [padRight, Nat.sub_eq_zero_of_le h]

theorem length_padRight (width : Nat) (s : String) :
    (padRight width s).length = max width s.length := by
  simp [padRight, String.length_append]; omega

end GrammarKit.Text
