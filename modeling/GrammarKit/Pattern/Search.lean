import GrammarKit.Pattern.Regex
import Std.Data.HashSet

/-!
# Matching

A match is looked for from one place at a time, the leftmost first. From a place the ways through the
expression are tried in order of preference, and the first that reaches its end is the match. At a
fork, where the ways part, nothing new can come of passing the same place again, so every fork is
passed once a place: this ends the loops whose body takes nothing, and bounds the work.

The ways are followed in continuation style: what stands behind an expression is a function of the
place that is reached, the captures so far and the forks passed.
-/

namespace GrammarKit.Pattern

/-- A capture: its number and the places where it begins and ends. -/
structure Capture where
  index : Nat
  start : Nat
  stop : Nat
  deriving Repr, DecidableEq

/-- Where a match begins and ends, and its captures, the latest first. -/
structure Match where
  start : Nat
  stop : Nat
  captures : List Capture
  deriving Repr, DecidableEq

/-- The text of the last capture with a given number, as the places of its ends. -/
def Match.capture? (m : Match) (index : Nat) : Option (Nat × Nat) :=
  (m.captures.find? (·.index == index)).map fun c => (c.start, c.stop)

/-- The forks that have been passed, each with the place where it was. -/
abbrev Passed := Std.HashSet (Nat × Nat)

/-- What is done at a place: the place that the text is left at and the captures, if a way through
is found, and the forks passed by then. -/
abbrev Way := Nat → List Capture → Passed → Option (Nat × List Capture) × Passed

namespace Way

/-- No way. -/
def none : Way := fun _ _ passed => (.none, passed)

/-- The end of the expression. -/
def done : Way := fun place captures passed => (some (place, captures), passed)

/-- The first way, or the second where the first fails. -/
def orElse (first second : Way) : Way := fun place captures passed =>
  match first place captures passed with
  | (some r, passed) => (some r, passed)
  | (.none, passed) => second place captures passed

/-- The fork with the given number: two ways in order of preference, once at each place. -/
def fork (number : Nat) (first second : Way) : Way := fun place captures passed =>
  if passed.contains (number, place) then (.none, passed)
  else orElse first second place captures (passed.insert (number, place))

/-- A fork that prefers to go on if it is greedy, and to leave if it is not. -/
def choose (number : Nat) (greedy : Bool) (on leave : Way) : Way :=
  if greedy then fork number on leave else fork number leave on

end Way

namespace Regex

/-- The number of forks of the expression. -/
def forks : Regex → Nat
  | .empty => 0
  | .chars _ => 0
  | .look _ => 0
  | .capture _ r => r.forks
  | .concat r s => r.forks + s.forks
  | .alt r s => r.forks + s.forks + 1
  | .repeated n max _ r =>
    match max with
    | some m => n * r.forks + (m - n) * (r.forks + 1)
    | none => Nat.max n 1 * r.forks + 2

/-- `n` rounds of a body, each with forks of its own; `width` is the number of forks of a round. -/
def rounds (body : Nat → Way → Way) (width : Nat) : (n : Nat) → (number : Nat) → Way → Way
  | 0, _, k => k
  | n + 1, number, k => body number (rounds body width n (number + width) k)

/-- At most `n` rounds of a body, where each may be the last. -/
def upTo (body : Nat → Way → Way) (width : Nat) (greedy : Bool) :
    (n : Nat) → (number : Nat) → Way → Way
  | 0, _, k => k
  | n + 1, number, k =>
    Way.choose number greedy
      (body (number + 1) (upTo body width greedy n (number + 1 + width) k)) k

/-- Rounds without a bound, from the fork that decides on another one. The fork is passed once a
place, so `fuel` need only exceed the number of places. -/
def again (body : Way → Way) (number : Nat) (greedy : Bool) (k : Way) : (fuel : Nat) → Way
  | 0 => Way.none
  | fuel + 1 => Way.choose number greedy (body (again body number greedy k fuel)) k

/-- The ways through the expression on a text, with `k` behind it. The forks are numbered from
`number` on. -/
def ways (text : Array Char) : Regex → (number : Nat) → Way → Way
  | .empty, _, k => k
  | .chars s, _, k => fun place captures passed =>
    match text[place]? with
    | some c => if s.contains c then k (place + 1) captures passed else (none, passed)
    | none => (none, passed)
  | .look l, _, k => fun place captures passed =>
    let before := if place = 0 then none else text[place - 1]?
    if l.holds before text[place]? then k place captures passed else (none, passed)
  | .capture i r, number, k => fun place captures passed =>
    ways text r number (fun stop captures => k stop (⟨i, place, stop⟩ :: captures))
      place captures passed
  | .concat r s, number, k => ways text r number (ways text s (number + r.forks) k)
  | .alt r s, number, k =>
    Way.fork number (ways text r (number + 1) k) (ways text s (number + 1 + r.forks) k)
  | .repeated n (some m) greedy r, number, k =>
    rounds (ways text r) r.forks n number
      (upTo (ways text r) r.forks greedy (m - n) (number + n * r.forks) k)
  | .repeated 0 none greedy r, number, k =>
    if 0 < r.minLength then
      again (ways text r (number + 1)) number greedy k (text.size + 2)
    else
      -- A body that may take nothing runs at least once, or not at all.
      Way.choose number greedy
        (ways text r (number + 2)
          (again (ways text r (number + 2)) (number + 1) greedy k (text.size + 2))) k
  | .repeated (n + 1) none greedy r, number, k =>
    rounds (ways text r) r.forks n number
      (ways text r (number + n * r.forks + 1)
        (again (ways text r (number + n * r.forks + 1)) (number + n * r.forks) greedy k
          (text.size + 2)))

/-- The match that begins at a given place. -/
def matchAt (r : Regex) (text : Array Char) (start : Nat) : Option Match :=
  (ways text r 0 Way.done start [] ∅).1.map fun (stop, captures) => ⟨start, stop, captures⟩

/-- The leftmost match. -/
def search (r : Regex) (text : Array Char) : Option Match :=
  (List.range (text.size + 1)).findSome? (r.matchAt text)

end Regex

end GrammarKit.Pattern
