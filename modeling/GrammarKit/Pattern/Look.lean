import GrammarKit.Unicode.Property

/-!
# Conditions on a place

Some parts of a pattern take no text but ask about the place where they stand: whether it is an end
of the text or of a line, or a boundary of a word. The answer depends on the neighbours of the place
alone.
-/

namespace GrammarKit.Pattern

open GrammarKit.Unicode

/-- A condition on a place of a text. For words, the flag tells whether the word characters are those
of the whole standard or of ASCII. -/
inductive Look where
  | textStart
  | textEnd
  | lineStart
  | lineEnd
  | crlfLineStart
  | crlfLineEnd
  | wordBoundary (unicode : Bool)
  | notWordBoundary (unicode : Bool)
  | wordStart (unicode : Bool)
  | wordEnd (unicode : Bool)
  | wordStartHalf (unicode : Bool)
  | wordEndHalf (unicode : Bool)
  deriving Repr, DecidableEq

/-- The word characters of ASCII: letters, digits and the underscore. -/
def isAsciiWord (c : Char) : Bool :=
  c.isAlphanum || c = '_'

/-- Whether there is a neighbour and it is a word character. -/
def isWordAt (unicode : Bool) : Option Char → Bool
  | none => false
  | some c => isAsciiWord c || (unicode && 0x7F < c.toNat && wordCharacters.contains c)

/-- Whether the condition holds between the neighbours `before` and `after`. -/
def Look.holds (before after : Option Char) : Look → Bool
  | .textStart => before.isNone
  | .textEnd => after.isNone
  | .lineStart => before.isNone || before == some '\n'
  | .lineEnd => after.isNone || after == some '\n'
  | .crlfLineStart =>
    before.isNone || before == some '\n' || (before == some '\r' && after != some '\n')
  | .crlfLineEnd =>
    after.isNone || after == some '\r' || (after == some '\n' && before != some '\r')
  | .wordBoundary u => isWordAt u before != isWordAt u after
  | .notWordBoundary u => isWordAt u before == isWordAt u after
  | .wordStart u => !isWordAt u before && isWordAt u after
  | .wordEnd u => isWordAt u before && !isWordAt u after
  | .wordStartHalf u => !isWordAt u before
  | .wordEndHalf u => !isWordAt u after

/-- Only the start of a text has no character before it. -/
theorem Look.holds_textStart (before after : Option Char) :
    Look.textStart.holds before after = before.isNone := rfl

end GrammarKit.Pattern
