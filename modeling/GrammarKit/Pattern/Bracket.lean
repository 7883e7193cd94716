import GrammarKit.Pattern.Escape

/-!
# Bracketed classes

A class in brackets lists characters, ranges and other classes, and may combine such lists by
intersection, difference and symmetric difference, all of one precedence and grouped to the left.
Reading yields the set and the depth of the nesting.
-/

namespace GrammarKit.Pattern

open GrammarKit.Unicode GrammarKit.Text

/-- The operations between the lists of a class. -/
inductive SetOperation where
  | intersection
  | difference
  | symmetricDifference
  deriving Repr, DecidableEq

/-- The set that an operation yields. -/
def SetOperation.apply : SetOperation → CharSet → CharSet → CharSet
  | .intersection => CharSet.inter
  | .difference => CharSet.diff
  | .symmetricDifference => CharSet.symmDiff

/-- The operation whose sign is a character written twice. -/
def SetOperation.ofSign? : Char → Option SetOperation
  | '&' => some .intersection
  | '-' => some .difference
  | '~' => some .symmetricDifference
  | _ => none

/-- A list of members being read: their ranges, their number and the deepest nesting among them. -/
structure MemberList where
  ranges : List CodeRange := []
  count : Nat := 0
  depth : Nat := 0

/-- A set with the depth of its nesting. -/
structure NestedSet where
  set : CharSet
  depth : Nat

namespace MemberList

/-- One more member. -/
def push (m : MemberList) (s : CharSet) (depth : Nat) : MemberList :=
  ⟨s.ranges ++ m.ranges, m.count + 1, max m.depth depth⟩

/-- The set of all members. A list of two or more is one level of its own. -/
def toNestedSet (m : MemberList) : NestedSet :=
  ⟨.ofRanges m.ranges, if m.count ≤ 1 then m.depth else m.depth + 1⟩

end MemberList

/-- An open bracket: whether it is complemented, what stands left of the last operation, and the list
that is being read. -/
structure OpenBracket where
  negated : Bool
  left : Option (SetOperation × NestedSet) := none
  members : MemberList := {}

namespace OpenBracket

/-- The set read so far: the operation waiting, if any, is done. Both sides are folded first. -/
def value (f : Flags) (b : OpenBracket) : NestedSet :=
  let right := b.members.toNestedSet
  match b.left with
  | none => right
  | some (op, l) => ⟨op.apply (f.fold l.set) (f.fold right.set), max l.depth right.depth + 1⟩

/-- The bracket after the sign of an operation. -/
def operate (f : Flags) (b : OpenBracket) (op : SetOperation) : OpenBracket :=
  { negated := b.negated, left := some (op, b.value f) }

/-- The class of a bracket that closes. -/
def close (f : Flags) (b : OpenBracket) : Except PatternError NestedSet :=
  let v := b.value f
  (f.finishSet b.negated v.set).map (⟨·, v.depth + 1⟩)

/-- The bracket with one more member. -/
def push (b : OpenBracket) (s : CharSet) (depth : Nat) : OpenBracket :=
  { b with members := b.members.push s depth }

end OpenBracket

/-- The classes of ASCII that have names. -/
def asciiClass? (name : String) : Option CharSet :=
  match name with
  | "alnum" => some (.ofRanges [⟨0x30, 0x39⟩, ⟨0x41, 0x5A⟩, ⟨0x61, 0x7A⟩])
  | "alpha" => some (.ofRanges [⟨0x41, 0x5A⟩, ⟨0x61, 0x7A⟩])
  | "ascii" => some .ascii
  | "blank" => some (.ofCodes [0x9, 0x20])
  | "cntrl" => some (.ofRanges [⟨0, 0x1F⟩, ⟨0x7F, 0x7F⟩])
  | "digit" => some (.range 0x30 0x39)
  | "graph" => some (.range 0x21 0x7E)
  | "lower" => some (.range 0x61 0x7A)
  | "print" => some (.range 0x20 0x7E)
  | "punct" => some (.ofRanges [⟨0x21, 0x2F⟩, ⟨0x3A, 0x40⟩, ⟨0x5B, 0x60⟩, ⟨0x7B, 0x7E⟩])
  | "space" => some (.ofRanges [⟨0x9, 0xD⟩, ⟨0x20, 0x20⟩])
  | "upper" => some (.range 0x41 0x5A)
  | "word" => some (.ofRanges [⟨0x30, 0x39⟩, ⟨0x41, 0x5A⟩, ⟨0x5F, 0x5F⟩, ⟨0x61, 0x7A⟩])
  | "xdigit" => some (.ofRanges [⟨0x30, 0x39⟩, ⟨0x41, 0x46⟩, ⟨0x61, 0x66⟩])
  | _ => none

namespace PatternReader

/-- A named class of ASCII, after its opening bracket. -/
def namedClass (f : Flags) : PatternReader CharSet := do
  expect ':'
  let negated ← Reader.eat ['^']
  let name ← Reader.takeWhile (· ≠ ':')
  expect ':'
  expect ']'
  match asciiClass? (String.ofList name) with
  | some s => Reader.ofExcept (f.finishSet negated s)
  | none => malformed

/-- A single member of a class that begins with the character `c`. -/
def classSign (f : Flags) (c : Char) : PatternReader Escape :=
  if c = '\\' then escape f else pure (.literal c false)

/-- The character that a sign of a class stands for: ASCII alone without the Unicode flag. -/
def classLiteral (f : Flags) : Escape → PatternReader Char
  | .literal c _ => if !f.unicode && 0x7F < c.toNat then malformed else pure c
  | _ => malformed

/-- The first character that counts in a text, as a hyphen sees it: past white space and the hash of
one comment. -/
def afterHyphen (verbose : Bool) (cs : List Char) : Option Char :=
  if verbose then
    match cs.dropWhile isWhiteSpace with
    | '#' :: rest => (rest.dropWhile isWhiteSpace).head?
    | rest => rest.head?
  else cs.head?

/-- Whether the hyphen that begins a text makes a range with what follows. -/
def makesRange (verbose : Bool) : List Char → Bool
  | '-' :: cs => afterHyphen verbose cs != some ']' && afterHyphen verbose cs != some '-'
  | _ => false

/-- A member that begins with the character `c`: a range, a class or a character. -/
def classMember (f : Flags) (c : Char) : PatternReader CharSet := do
  let first ← classSign f c
  space f
  if makesRange f.verbose (← Reader.rest) then
    Reader.drop 1
    space f
    let last ← classSign f (← char)
    let lo ← classLiteral f first
    let hi ← classLiteral f last
    if lo ≤ hi then pure (.range lo.toNat hi.toNat) else malformed
  else
    match first with
    | .set s => pure s
    | sign => return .singleton (← classLiteral f sign)

/-- The head of a bracket: its complement sign, hyphens, and a closing bracket that stands for
itself because it comes first. -/
def bracketHead (f : Flags) : PatternReader OpenBracket := do
  space f
  let negated ← Reader.eat ['^']
  space f
  let hyphens ← charsThenSpace f (· = '-')
  let b : OpenBracket := hyphens.foldl (fun b c => b.push (.singleton c) 0) { negated }
  if hyphens.isEmpty then
    if ← Reader.eat [']'] then
      space f
      pure (b.push (.singleton ']') 0)
    else pure b
  else pure b

/-- What follows the character `c` inside the bracket `b`, with the brackets `outer` around it. -/
def bracketStep (f : Flags) (state : OpenBracket × List OpenBracket) (c : Char) :
    PatternReader ((OpenBracket × List OpenBracket) ⊕ NestedSet) := do
  let (b, outer) := state
  if f.verbose && isWhiteSpace c then pure (.inl state)
  else if f.verbose && c == '#' then
    let _ ← Reader.takeWhile (· ≠ '\n')
    pure (.inl state)
  else if c = '[' then
    match ← Reader.attempt (namedClass f) with
    | some s => pure (.inl (b.push s 0, outer))
    | none => return .inl (← bracketHead f, b :: outer)
  else if c = ']' then
    let v ← Reader.ofExcept (b.close f)
    match outer with
    | [] => pure (.inr v)
    | o :: outer => pure (.inl (o.push v.set v.depth, outer))
  else
    match SetOperation.ofSign? c, (← Reader.peek) == some c with
    | some op, true =>
      Reader.drop 1
      pure (.inl (b.operate f op, outer))
    | _, _ => return .inl (b.push (← classMember f c) 0, outer)

/-- A bracketed class, after its opening bracket. -/
def bracket (f : Flags) : PatternReader NestedSet := do
  let b ← bracketHead f
  Reader.loop (bracketStep f) (fun _ => .error .malformed) (b, [])

end PatternReader

end GrammarKit.Pattern
