import GrammarKit.Pattern.Flags
import GrammarKit.Text.Blank
import GrammarKit.Text.Reader

/-!
# Space in verbose patterns

In verbose patterns white space and comments separate the signs and mean nothing. A comment runs from
a hash to the end of its line.
-/

namespace GrammarKit.Pattern

open GrammarKit.Text

/-- The text after white space and comments; the flag tells whether a comment is open. -/
def dropSpace (inComment : Bool) : List Char → List Char
  | [] => []
  | c :: cs =>
    if inComment then dropSpace (c != '\n') cs
    else if isWhiteSpace c then dropSpace false cs
    else if c = '#' then dropSpace true cs
    else c :: cs

theorem dropSpace_length_le (inComment : Bool) (cs : List Char) :
    (dropSpace inComment cs).length ≤ cs.length := by
  induction cs generalizing inComment with
  | nil => simp [dropSpace]
  | cons c cs ih =>
    rw [dropSpace]
    split
    · exact Nat.le_succ_of_le (ih _)
    · split
      · exact Nat.le_succ_of_le (ih _)
      · split
        · exact Nat.le_succ_of_le (ih _)
        · exact Nat.le_refl _

/-- The text after the space at its front, where the pattern is verbose. -/
def skipSpace (verbose : Bool) (cs : List Char) : List Char :=
  if verbose then dropSpace false cs else cs

theorem skipSpace_length_le (verbose : Bool) (cs : List Char) :
    (skipSpace verbose cs).length ≤ cs.length := by
  cases verbose with
  | true => exact dropSpace_length_le false cs
  | false => exact Nat.le_refl _

/-- The characters with the property `p` at the front of a text, each passed over with the space
behind it, and the text from the first other character on. -/
def spanSpaced (verbose : Bool) (p : Char → Bool) (cs : List Char) : List Char × List Char :=
  match cs with
  | [] => ([], [])
  | c :: cs =>
    if p c then
      have := skipSpace_length_le verbose cs
      let r := spanSpaced verbose p (skipSpace verbose cs)
      (c :: r.1, r.2)
    else ([], c :: cs)
  termination_by cs.length

theorem spanSpaced_length_le (verbose : Bool) (p : Char → Bool) (cs : List Char) :
    (spanSpaced verbose p cs).2.length ≤ cs.length := by
  fun_induction spanSpaced verbose p cs with
  | case1 => exact Nat.le_refl _
  | case2 c cs hc hle r ih => exact Nat.le_succ_of_le (Nat.le_trans ih hle)
  | case3 c cs hc => exact Nat.le_refl _

/-- A reader of parts of patterns. -/
abbrev PatternReader := Reader PatternError

namespace PatternReader

/-- Failure: the pattern is badly written. -/
def malformed {α : Type} : PatternReader α := Reader.fail .malformed

/-- Passes over space, where the pattern is verbose. -/
def space (f : Flags) : PatternReader Unit where
  run cs := .ok ((), skipSpace f.verbose cs)
  shrinks {cs _ _} h := by cases h; exact skipSpace_length_le f.verbose cs

/-- The next character, which must be there. -/
def char : PatternReader Char := do
  match ← Reader.next with
  | some c => pure c
  | none => malformed

/-- The next character and the space behind it. -/
def charThenSpace (f : Flags) : PatternReader Char := do
  let c ← char
  space f
  pure c

/-- The next character, which must be there and stays. -/
def peekChar : PatternReader Char := do
  match ← Reader.peek with
  | some c => pure c
  | none => malformed

/-- Takes the character `c`, which must come next. -/
def expect (c : Char) : PatternReader Unit := do
  if (← char) ≠ c then malformed

/-- Characters with the property `p`, each with the space behind it, up to the first other one. -/
def charsThenSpace (f : Flags) (p : Char → Bool) : PatternReader (List Char) where
  run cs := .ok (spanSpaced f.verbose p cs)
  shrinks {cs _ _} h := by
    have hle := spanSpaced_length_le f.verbose p cs
    rw [Except.ok.inj h] at hle
    exact hle

/-- A decimal number below 2 to the 32nd. White space may stand around it, and in verbose patterns
space may stand between its digits. -/
def number (f : Flags) : PatternReader Nat := do
  let _ ← Reader.takeWhile isWhiteSpace
  let digits ← charsThenSpace f Char.isDigit
  let _ ← charsThenSpace f isWhiteSpace
  let n := Nat.ofDigitChars 10 digits 0
  if digits.isEmpty ∨ Nat.pow 2 32 ≤ n then malformed else pure n

end PatternReader

end GrammarKit.Pattern
