/-!
# Decimal numbers

A decimal number with a point, as it stands in a document: sign, digits and the number of places
behind the point. Its text always has a place behind the point, so that it cannot be taken for an
integer.
-/

namespace GrammarKit

/-- The number `digits / 10 ^ places`, negative if the sign says so. Zero has a sign too. -/
structure Decimal where
  negative : Bool
  digits : Nat
  places : Nat
  deriving Repr, DecidableEq

namespace Decimal

/-- The digits of a natural number. -/
def natChars (n : Nat) : List Char :=
  Nat.toDigits 10 n

/-- The digits with zeros before them up to a width. -/
def padded (width : Nat) (n : Nat) : List Char :=
  let cs := natChars n
  List.replicate (width - cs.length) '0' ++ cs

/-- The number in positional form; at least one place stands behind the point. -/
def chars (d : Decimal) : List Char :=
  let whole := natChars (d.digits / Nat.pow 10 d.places)
  let part := if d.places = 0 then ['0'] else padded d.places (d.digits % Nat.pow 10 d.places)
  (if d.negative then ['-'] else []) ++ whole ++ '.' :: part

end Decimal

end GrammarKit
