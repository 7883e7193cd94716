import GrammarKit.Pattern.Regex

/-!
# Syntax trees

The tree of a pattern shows how its text is nested. Flags are resolved in its leaves, but a change of
flags keeps its place, because it counts as a part and cannot be repeated. The tree serves to limit
the nesting of a pattern; its meaning is a regular expression.
-/

namespace GrammarKit.Pattern

open GrammarKit.Unicode

/-- The syntax tree of a pattern. -/
inductive Tree where
  /-- No text at all. -/
  | empty
  /-- A change of the flags that apply from here on. -/
  | flagChange
  /-- One character of the set; `depth` is the nesting of the brackets that wrote it. -/
  | chars (set : CharSet) (depth : Nat)
  /-- A condition on the place. -/
  | look (condition : Look)
  /-- A repetition of the body. -/
  | repeated (min : Nat) (max : Option Nat) (greedy : Bool) (body : Tree)
  /-- A group, with the number of its capture if it has one. -/
  | group (index : Option Nat) (body : Tree)
  /-- Two or more branches, the first preferred. -/
  | alternation (branches : List Tree)
  /-- Two or more parts, one after another. -/
  | concat (parts : List Tree)
  deriving Repr

namespace Tree

/-- How deep the tree is nested. Single characters, conditions and flags add nothing. -/
def depth : Tree → Nat
  | .empty => 0
  | .flagChange => 0
  | .chars _ d => d
  | .look _ => 0
  | .repeated _ _ _ t => t.depth + 1
  | .group _ t => t.depth + 1
  | .alternation ts => depthOfList ts + 1
  | .concat ts => depthOfList ts + 1
where
  /-- The deepest nesting among some trees. -/
  depthOfList : List Tree → Nat
    | [] => 0
    | t :: ts => max t.depth (depthOfList ts)

/-- The nesting beyond which a pattern is refused. -/
def depthLimit : Nat := 250

/-- The parts of a sequence as one tree. -/
def ofParts : List Tree → Tree
  | [] => .empty
  | [t] => t
  | ts => .concat ts

/-- The branches of a choice as one tree. -/
def ofBranches : List Tree → Tree
  | [t] => t
  | ts => .alternation ts

/-- What the tree stands for. -/
def toRegex : Tree → Regex
  | .empty => .empty
  | .flagChange => .empty
  | .chars s _ => .chars s
  | .look l => .look l
  | .repeated n m g t => .mkRepeated n m g t.toRegex
  | .group none t => t.toRegex
  | .group (some i) t => .capture i t.toRegex
  | .alternation ts => .altList (toRegexList ts)
  | .concat ts => .concatList (toRegexList ts)
where
  /-- What each of some trees stands for. -/
  toRegexList : List Tree → List Regex
    | [] => []
    | t :: ts => t.toRegex :: toRegexList ts

/-- Whether a repetition may follow: there must be something to repeat. -/
def isRepeatable : Tree → Bool
  | .empty => false
  | .flagChange => false
  | _ => true

end Tree

end GrammarKit.Pattern
