import GrammarKit.Pattern.Assembly
import GrammarKit.Pattern.Search

/-!
# Compiled patterns

A pattern compiles when its text is well written, nested within bounds, and small enough. What comes
out is its regular expression; the number of captures is that of the highest one that survives.
-/

namespace GrammarKit.Pattern

/-- The regular expression of a pattern. -/
def compile (pattern : List Char) : Except PatternError Regex := do
  let tree ← Tree.ofPattern pattern
  if Tree.depthLimit < tree.depth then throw .malformed
  let regex := tree.toRegex
  if Regex.sizeLimit < regex.size then throw .tooBig
  return regex

/-- The pattern that matches at the very start of a text only, as long as `pattern` closes no group
that it does not open. -/
def anchored (pattern : List Char) : List Char :=
  "\\A(?:".toList ++ pattern ++ [')']

/-- The characters of an anchored pattern, one by one. -/
theorem anchored_eq (pattern : List Char) :
    anchored pattern = '\\' :: 'A' :: '(' :: '?' :: ':' :: (pattern ++ [')']) := by
  change "\\A(?:".toList ++ pattern ++ [')'] = _
  simp

/-- The characters of a text from one place up to another. -/
def slice (text : Array Char) (start stop : Nat) : String :=
  String.ofList (text.toList.extract start stop)

/-- What each capture of a match holds, in order of their numbers up to `last`. The whole match
comes first; a capture that took no part holds nothing. -/
def Match.texts (m : Match) (text : Array Char) (last : Nat) : List (Option String) :=
  some (slice text m.start m.stop) ::
    (List.range last).map fun i => (m.capture? (i + 1)).map fun (start, stop) => slice text start stop

end GrammarKit.Pattern
