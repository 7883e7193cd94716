import GrammarKit.Count
import GrammarKit.Decimal
import GrammarKit.Text.ByteLength

/-!
# Keys of texts

What texts can be counted by: the texts themselves, their first characters, their lengths, or their
places in a list.
-/

namespace GrammarKit

/-- What texts are counted by. -/
inductive CountKey where
  | self
  /-- The text with its ASCII letters in lower case. -/
  | lower
  /-- The first character, or nothing. -/
  | first
  /-- The number of bytes. -/
  | bytes
  /-- The place in the list, counted round and round up to a modulus. -/
  | place (modulus : Nat)
  deriving Repr, DecidableEq

namespace CountKey

/-- The key of a text at a place of a list. -/
def keyOf (place : Nat) (s : String) : CountKey → String
  | .self => s
  | .lower => String.ofList (s.toList.map Char.toLower)
  | .first => String.ofList (s.toList.take 1)
  | .bytes => String.ofList (Decimal.natChars (Text.byteLength s.toList))
  | .place modulus => String.ofList (Decimal.natChars (place % modulus))

/-- The counts of the keys of some texts. -/
def counts (key : CountKey) (items : List String) : List Count :=
  Count.countBy (fun item => key.keyOf item.2 item.1) items.zipIdx

end CountKey

end GrammarKit
