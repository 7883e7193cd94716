import GrammarKit.Pattern.Bracket
import GrammarKit.Pattern.Tree

/-!
# From text to tree

A pattern is read sign by sign. What has been read so far is kept as the parts of the branch at
hand, the finished branches of the innermost open group, and the groups around it, each with the
flags that come back when it closes. A closing parenthesis must find an open group, and none may be
open at the end.
-/

namespace GrammarKit.Pattern

open GrammarKit.Unicode GrammarKit.Text

/-- A group that is still open: its capture, and what stood before it. -/
structure OpenGroup where
  /-- The number of its capture, if it has one. -/
  index : Option Nat
  /-- The flags around the group. -/
  flags : Flags
  /-- The parts before the group in its branch, the latest first. -/
  parts : List Tree
  /-- The branches before that one, the latest first. -/
  branches : List Tree

/-- What has been read of a pattern. -/
structure Assembly where
  /-- The flags in force. -/
  flags : Flags := {}
  /-- The parts of the branch at hand, the latest first. -/
  parts : List Tree := []
  /-- The finished branches of the innermost group, the latest first. -/
  branches : List Tree := []
  /-- The groups that are open, the innermost first. -/
  groups : List OpenGroup := []
  /-- The number of captures so far. -/
  captures : Nat := 0
  /-- The names of captures so far. -/
  names : List (List Char) := []

/-- A sign of a pattern, as it acts on what was read before. -/
inductive Sign where
  /-- A part that stands by itself. -/
  | part (t : Tree)
  /-- A repetition of the part before. -/
  | repetition (min : Nat) (max : Option Nat) (lazyMark : Bool)
  /-- A change of flags up to the end of the group. -/
  | flagChange (signs : List FlagSign)
  /-- The start of a group without a capture, with flags for the group alone. -/
  | openPlain (signs : List FlagSign)
  /-- The start of a group with a capture, which may have a name. -/
  | openCapture (name : Option (List Char))
  /-- The end of a group. -/
  | close
  /-- The end of a branch. -/
  | bar

namespace Assembly

/-- The branch at hand. -/
def branch (a : Assembly) : Tree :=
  .ofParts a.parts.reverse

/-- The content of the innermost group so far, all branches together. -/
def content (a : Assembly) : Tree :=
  .ofBranches (a.branch :: a.branches).reverse

/-- What has been read, with one sign more. -/
def push (a : Assembly) : Sign → Except PatternError Assembly
  | .part t => .ok { a with parts := t :: a.parts }
  | .repetition min max lazyMark =>
    match a.parts with
    | t :: rest =>
      if t.isRepeatable then
        .ok { a with parts := .repeated min max (lazyMark == a.flags.swapGreed) t :: rest }
      else .error .malformed
    | [] => .error .malformed
  | .flagChange signs =>
    .ok { a with flags := a.flags.change signs, parts := .flagChange :: a.parts }
  | .openPlain signs =>
    .ok { a with
      flags := a.flags.change signs
      parts := []
      branches := []
      groups := ⟨none, a.flags, a.parts, a.branches⟩ :: a.groups }
  | .openCapture name =>
    if name.any a.names.contains then .error .malformed
    else .ok { a with
      parts := []
      branches := []
      groups := ⟨some (a.captures + 1), a.flags, a.parts, a.branches⟩ :: a.groups
      captures := a.captures + 1
      names := name.toList ++ a.names }
  | .close =>
    match a.groups with
    | g :: outer =>
      .ok { a with
        flags := g.flags
        parts := .group g.index a.content :: g.parts
        branches := g.branches
        groups := outer }
    | [] => .error .malformed
  | .bar => .ok { a with parts := [], branches := a.branch :: a.branches }

/-- The tree of a pattern that has been read to its end. -/
def finish (a : Assembly) : Except PatternError Tree :=
  if a.groups.isEmpty then .ok a.content else .error .malformed

end Assembly

namespace PatternReader

/-- Whether a lazy mark follows directly. -/
def lazyMark : PatternReader Bool :=
  Reader.eat ['?']

/-- The upper bound of a repetition, given the lower: none behind a bare comma, the lower one where
no comma comes. -/
def upperBound (f : Flags) (least : Nat) : PatternReader (Option Nat) := do
  if ← Reader.eat [','] then
    space f
    if (← peekChar) = '\x7d' then pure none
    else return some (← number f)
  else pure (some least)

/-- A repetition with its bounds in braces, after the opening brace. -/
def countedRepetition (f : Flags) : PatternReader Sign := do
  space f
  let least ← number f
  let most ← upperBound f least
  expect '\x7d'
  space f
  let isLazy ← lazyMark
  if most.any (· < least) then malformed else pure (.repetition least most isLazy)

/-- Whether a character can stand in the name of a capture. -/
def isNameChar (first : Bool) (c : Char) : Bool :=
  c == '_' || alphabetic.contains c ||
    (!first && (c == '.' || c == '[' || c == ']' || numbers.contains c))

/-- The name of a capture, up to its closing angle bracket. -/
def captureName : PatternReader (List Char) := do
  let name ← Reader.takeWhile (· ≠ '>')
  expect '>'
  match name with
  | [] => malformed
  | c :: cs => if isNameChar true c && cs.all (isNameChar false) then pure name else malformed

/-- The letters of a change of flags, and the sign that ends them: a colon where the flags are for
the group alone, a closing parenthesis where they are for what follows. -/
def flagHead : PatternReader Sign := do
  let letters ← Reader.takeWhile fun c => c ≠ ':' && c ≠ ')'
  let signs ← Reader.ofExcept (flagSigns letters)
  if (← char) = ':' then pure (.openPlain signs)
  else if signs.isEmpty then malformed
  else pure (.flagChange signs)

/-- The head of a group, after its opening parenthesis: a capture, a name, flags for the group, or
flags for what follows. Conditions on the text around are not part of the language. -/
def groupHead (f : Flags) : PatternReader Sign := do
  space f
  match ← Reader.rest with
  | '?' :: '=' :: _ => malformed
  | '?' :: '!' :: _ => malformed
  | '?' :: '<' :: '=' :: _ => malformed
  | '?' :: '<' :: '!' :: _ => malformed
  | '?' :: 'P' :: '<' :: _ =>
    Reader.drop 3
    return .openCapture (some (← captureName))
  | '?' :: '<' :: _ =>
    Reader.drop 2
    return .openCapture (some (← captureName))
  | '?' :: _ =>
    Reader.drop 1
    flagHead
  | _ => pure (.openCapture none)

/-- What a backslash outside brackets stands for. -/
def escapePart (f : Flags) : PatternReader Sign := do
  match ← escape f with
  | .literal c asByte => return .part (.chars (← Reader.ofExcept (f.literalSet c asByte)) 0)
  | .set s => pure (.part (.chars s 0))
  | .look l => pure (.part (.look l))

/-- The sign that begins with the character `c`. -/
def sign (f : Flags) (c : Char) : PatternReader Sign :=
  match c with
  | '(' => groupHead f
  | ')' => pure .close
  | '|' => pure .bar
  | '[' => do
    let v ← bracket f
    pure (.part (.chars v.set v.depth))
  | '?' => do return .repetition 0 (some 1) (← lazyMark)
  | '*' => do return .repetition 0 none (← lazyMark)
  | '+' => do return .repetition 1 none (← lazyMark)
  | '\x7b' => countedRepetition f
  | '\\' => escapePart f
  | '.' => do return .part (.chars (← Reader.ofExcept f.dotSet) 0)
  | '^' => pure (.part (.look f.caret))
  | '$' => pure (.part (.look f.dollar))
  | c => do return .part (.chars (← Reader.ofExcept (f.literalSet c false)) 0)

/-- What has been read, after the sign that begins with the character `c`. In verbose patterns white
space and comments are no signs. -/
def assemblyStep (a : Assembly) (c : Char) : PatternReader (Assembly ⊕ Tree) :=
  if a.flags.verbose && isWhiteSpace c then pure (.inl a)
  else if a.flags.verbose && c == '#' then do
    let _ ← Reader.takeWhile (· ≠ '\n')
    pure (.inl a)
  else do
    let s ← sign a.flags c
    return .inl (← Reader.ofExcept (a.push s))

/-- The tree of the text that remains, read to its end after what has been read before. -/
def assembleFrom (a : Assembly) : PatternReader Tree :=
  Reader.loop assemblyStep Assembly.finish a

end PatternReader

/-- The syntax tree of a pattern. -/
def Tree.ofPattern (pattern : List Char) : Except PatternError Tree :=
  ((PatternReader.assembleFrom {}).run pattern).map (·.1)

end GrammarKit.Pattern
