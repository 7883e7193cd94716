import GrammarKit.Pattern.Look
import GrammarKit.Pattern.Spacing
import GrammarKit.Unicode.CaseFolding

/-!
# Single signs of a pattern

A sign outside brackets stands for a set of characters or for a condition on the place. Without the
Unicode flag only ASCII can be told apart, so a sign that would take part of a longer character is
refused.
-/

namespace GrammarKit.Pattern

open GrammarKit.Unicode GrammarKit.Text

/-- What a backslash and the signs behind it stand for. -/
inductive Escape where
  /-- One character; the flag marks a byte written with two digits. -/
  | literal (c : Char) (asByte : Bool)
  /-- A class of characters. -/
  | set (s : CharSet)
  /-- A condition on the place. -/
  | look (l : Look)

/-- The set with both cases of its letters, where case is ignored. -/
def Flags.fold (f : Flags) (s : CharSet) : CharSet :=
  if f.ignoreCase then (if f.unicode then s.foldCase else s.foldAsciiCase) else s

/-- A written class under the flags: folded, then complemented, and ASCII alone without the Unicode
flag. -/
def Flags.finishSet (f : Flags) (negated : Bool) (s : CharSet) : Except PatternError CharSet :=
  let folded := f.fold s
  let result := if negated then folded.compl else folded
  if f.unicode || result.isAscii then .ok result else .error .malformed

/-- The set of a single character. A byte beyond ASCII needs the Unicode flag. -/
def Flags.literalSet (f : Flags) (c : Char) (asByte : Bool) : Except PatternError CharSet :=
  if !f.unicode && asByte && 0x7F < c.toNat then .error .malformed
  else .ok (f.fold (.singleton c))

/-- What the dot takes: any character, short of line ends unless the flag says so. -/
def Flags.dotSet (f : Flags) : Except PatternError CharSet :=
  if !f.unicode then .error .malformed
  else if f.dotAll then .ok .all
  else if f.crlf then .ok (CharSet.ofCodes [0xA, 0xD]).compl
  else .ok (CharSet.singleton '\n').compl

/-- The condition that a caret states. -/
def Flags.caret (f : Flags) : Look :=
  if f.multiLine then (if f.crlf then .crlfLineStart else .lineStart) else .textStart

/-- The condition that a dollar sign states. -/
def Flags.dollar (f : Flags) : Look :=
  if f.multiLine then (if f.crlf then .crlfLineEnd else .lineEnd) else .textEnd

/-- The digits, the white space and the word characters of ASCII, by the letter that names them. -/
def asciiPerlSet : Char → CharSet
  | 'd' => .range 0x30 0x39
  | 's' => .ofRanges [⟨0x9, 0xD⟩, ⟨0x20, 0x20⟩]
  | _ => .ofRanges [⟨0x30, 0x39⟩, ⟨0x41, 0x5A⟩, ⟨0x5F, 0x5F⟩, ⟨0x61, 0x7A⟩]

/-- The digits, the white space and the word characters, by the letter that names them. -/
def perlSet : Char → CharSet
  | 'd' => digits
  | 's' => spaces
  | _ => wordCharacters

/-- The class that a letter names; a capital letter stands for the complement. Case never matters to
these classes. -/
def Flags.perlClass (f : Flags) (letter : Char) : Except PatternError CharSet :=
  let negated := letter.isUpper
  let s := (if f.unicode then perlSet else asciiPerlSet) letter.toLower
  let result := if negated then s.compl else s
  if f.unicode || result.isAscii then .ok result else .error .malformed

/-- The value of hexadecimal digits, as a character. -/
def charOfHex? (digits : List Char) : Option Char :=
  let n := digits.foldl (fun n d => 16 * n + CharSet.hexValue d) 0
  if n.isValidChar then some (Char.ofNat n) else none

/-- Whether a character is a hexadecimal digit. -/
def isHexDigit (c : Char) : Bool :=
  c.isDigit || ('a' ≤ c && c ≤ 'f') || ('A' ≤ c && c ≤ 'F')

/-- The characters that have a meaning of their own somewhere in a pattern. -/
def metaCharacters : List Char :=
  "\\.+*?()|[]\x7b\x7d^$#&-~".toList

/-- Whether a backslash before the character makes it stand for itself: punctuation of ASCII, except
for the angle brackets. -/
def isEscapable (c : Char) : Bool :=
  metaCharacters.contains c ||
    (c.toNat ≤ 0x7F && !c.isAlphanum && c != '<' && c != '>')

namespace PatternReader

/-- A given number of hexadecimal digits. -/
def hexDigits (f : Flags) : Nat → PatternReader (List Char)
  | 0 => pure []
  | n + 1 => do
    let c ← charThenSpace f
    if !isHexDigit c then malformed
    else
      let cs ← hexDigits f n
      pure (c :: cs)

/-- A character by its number: in braces, or with a fixed count of digits. -/
def hexEscape (f : Flags) (count : Nat) : PatternReader Escape := do
  space f
  let braced ← Reader.eat ['\x7b']
  let digits ← if braced then do
      space f
      let digits ← charsThenSpace f (· ≠ '\x7d')
      expect '\x7d'
      pure digits
    else hexDigits f count
  if digits.isEmpty || !digits.all isHexDigit then malformed
  else
    match charOfHex? digits with
    | some c => pure (.literal c (count == 2 && !braced))
    | none => malformed

/-- Splits at the first place where the text `mark` stands. -/
def splitAt? (mark : List Char) : List Char → Option (List Char × List Char)
  | [] => none
  | c :: cs =>
    if mark.isPrefixOf (c :: cs) then some ([], (c :: cs).drop mark.length)
    else (splitAt? mark cs).map fun (a, b) => (c :: a, b)

/-- The characters with a property that is written in braces. -/
def namedProperty (name : List Char) : Option CharSet :=
  match splitAt? ['!', '='] name <|> splitAt? [':'] name <|> splitAt? ['='] name with
  | some (property, value) => propertyValue? (String.ofList property) (String.ofList value)
  | none => property? (String.ofList name)

/-- A property: one letter, or a name in braces. -/
def propertyEscape (f : Flags) (negated : Bool) : PatternReader Escape := do
  space f
  let c ← char
  let found ← if c = '\x7b' then do
      space f
      let name ← charsThenSpace f (· ≠ '\x7d')
      expect '\x7d'
      pure (namedProperty name)
    else if c = '\\' then malformed
    else pure (property? (String.singleton c))
  match found with
  | none => malformed
  | some s =>
    if !f.unicode then malformed
    else return .set (← Reader.ofExcept (f.finishSet negated s))

/-- Whether a character can stand in the name of a kind of word boundary. -/
def isBoundaryLetter (c : Char) : Bool :=
  c.isAlpha || c == '-'

/-- The boundary that a name in braces asks for. -/
def boundaryNamed? (unicode : Bool) (name : List Char) : Option Look :=
  match String.ofList name with
  | "start" => some (.wordStart unicode)
  | "end" => some (.wordEnd unicode)
  | "start-half" => some (.wordStartHalf unicode)
  | "end-half" => some (.wordEndHalf unicode)
  | _ => none

/-- A word boundary, whose kind may follow in braces. Braces that do not begin with a letter or a
hyphen belong to a repetition. -/
def boundaryEscape (f : Flags) : PatternReader Escape := do
  match ← Reader.rest with
  | '\x7b' :: cs =>
    match (skipSpace f.verbose cs).head? with
    | none => malformed
    | some c =>
      if isBoundaryLetter c then
        Reader.drop 1
        space f
        let name ← charsThenSpace f isBoundaryLetter
        expect '\x7d'
        match boundaryNamed? f.unicode name with
        | some l => pure (.look l)
        | none => malformed
      else pure (.look (.wordBoundary f.unicode))
  | _ => pure (.look (.wordBoundary f.unicode))

/-- The signs behind a backslash. -/
def escape (f : Flags) : PatternReader Escape := do
  let c ← char
  match c with
  | 'x' => hexEscape f 2
  | 'u' => hexEscape f 4
  | 'U' => hexEscape f 8
  | 'p' => propertyEscape f false
  | 'P' => propertyEscape f true
  | 'd' | 's' | 'w' | 'D' | 'S' | 'W' => return .set (← Reader.ofExcept (f.perlClass c))
  | 'a' => pure (.literal '\x07' false)
  | 'f' => pure (.literal '\x0C' false)
  | 't' => pure (.literal '\t' false)
  | 'n' => pure (.literal '\n' false)
  | 'r' => pure (.literal '\r' false)
  | 'v' => pure (.literal '\x0B' false)
  | 'A' => pure (.look .textStart)
  | 'z' => pure (.look .textEnd)
  | 'b' => boundaryEscape f
  | 'B' => pure (.look (.notWordBoundary f.unicode))
  | '<' => pure (.look (.wordStart f.unicode))
  | '>' => pure (.look (.wordEnd f.unicode))
  | _ => if isEscapable c then pure (.literal c false) else malformed

end PatternReader

end GrammarKit.Pattern
