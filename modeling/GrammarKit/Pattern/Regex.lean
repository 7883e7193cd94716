import GrammarKit.Pattern.Look

/-!
# Regular expressions

The meaning of a pattern, with every flag resolved: sets of characters, conditions on places,
captures, and the three ways to put expressions together. Repetitions carry their bounds and whether
they take as much or as little as they can.
-/

namespace GrammarKit.Pattern

open GrammarKit.Unicode

/-- A regular expression. -/
inductive Regex where
  /-- Takes nothing. -/
  | empty
  /-- Takes one character of the set. -/
  | chars (set : CharSet)
  /-- Takes nothing, where the condition holds. -/
  | look (condition : Look)
  /-- Takes what the body takes, and keeps it as the capture of that number. -/
  | capture (index : Nat) (body : Regex)
  /-- One after the other. -/
  | concat (first second : Regex)
  /-- One or the other; the first is preferred. -/
  | alt (first second : Regex)
  /-- The body at least `min` and, where given, at most `max` times. -/
  | repeated (min : Nat) (max : Option Nat) (greedy : Bool) (body : Regex)
  deriving Repr, DecidableEq

namespace Regex

/-- The least number of characters that a match takes. -/
def minLength : Regex → Nat
  | .empty => 0
  | .chars _ => 1
  | .look _ => 0
  | .capture _ r => r.minLength
  | .concat r s => r.minLength + s.minLength
  | .alt r s => min r.minLength s.minLength
  | .repeated n _ _ r => n * r.minLength

/-- Whether no match takes a character. -/
def takesNothing : Regex → Bool
  | .empty => true
  | .chars _ => false
  | .look _ => true
  | .capture _ r => r.takesNothing
  | .concat r s => r.takesNothing && s.takesNothing
  | .alt r s => r.takesNothing && s.takesNothing
  | .repeated _ max _ r => max == some 0 || r.takesNothing

/-- The highest number of a capture; zero where there is none. -/
def lastCapture : Regex → Nat
  | .empty => 0
  | .chars _ => 0
  | .look _ => 0
  | .capture i r => max i r.lastCapture
  | .concat r s => max r.lastCapture s.lastCapture
  | .alt r s => max r.lastCapture s.lastCapture
  | .repeated _ _ _ r => r.lastCapture

/-- A repetition in its simplest form. To repeat what takes no text more than once changes nothing;
what is to come no time at all is dropped, captures included; what is to come once stands by
itself. -/
def mkRepeated (min : Nat) (max : Option Nat) (greedy : Bool) (body : Regex) : Regex :=
  let (min, max) :=
    if body.takesNothing then (Nat.min min 1, some ((max.map (Nat.min · 1)).getD 1)) else (min, max)
  if max = some 0 then .empty
  else if min = 1 ∧ max = some 1 then body
  else .repeated min max greedy body

/-- Expressions one after another. -/
def concatList : List Regex → Regex
  | [] => .empty
  | [r] => r
  | r :: rs => .concat r (concatList rs)

/-- Expressions to choose from, in order of preference. -/
def altList : List Regex → Regex
  | [] => .empty
  | [r] => r
  | r :: rs => .alt r (altList rs)

/-- The room that a matching machine needs for a set, in bytes: little for each ASCII range, and more
for the byte sequences of every other range. -/
def setSize (s : CharSet) : Nat :=
  s.ranges.foldl (fun n r => n + if r.hi ≤ 0x7F then 8 else 60) 32

/-- The room that a matching machine needs, in bytes. Each round of a bounded repetition is built
anew. -/
def size : Regex → Nat
  | .empty => 32
  | .chars s => setSize s
  | .look _ => 32
  | .capture _ r => 64 + r.size
  | .concat r s => r.size + s.size
  | .alt r s => 40 + r.size + s.size
  | .repeated n max _ r =>
    match max with
    | some m => n * r.size + (m - n) * (40 + r.size)
    | none => (if n ≤ 1 then r.size else n * r.size) + 40

/-- The room beyond which a pattern is refused: ten mebibytes. -/
def sizeLimit : Nat := 10 * 1024 * 1024

end Regex

end GrammarKit.Pattern
