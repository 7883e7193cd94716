import GrammarKit.Unicode.CharSet

/-!
# Rows of property tables

A property of characters, or a value of one, is a row of a table: its names in loose form and its
members in writing. Loose matching of names ignores case, blanks, hyphens, underscores and a leading
`is`.
-/

namespace GrammarKit.Unicode

/-- A property or a property value: its names in loose form, and its members in writing. -/
structure PropertyRow where
  names : List String
  members : String

namespace PropertyRow

/-- The characters that the row names. -/
def toCharSet (r : PropertyRow) : CharSet :=
  .ofTable r.members

/-- The first row of a table with the given name. -/
def find? (rows : List PropertyRow) (name : String) : Option PropertyRow :=
  rows.find? (·.names.contains name)

end PropertyRow

/-- The loose form of a property name. What lies outside ASCII is dropped, and so are blanks, hyphens
and underscores; a leading `is` goes in any case, unless `c` alone would be left of `isc`, which is
a name of its own. -/
def looseName (name : String) : String :=
  let cs := name.toList
  let isFirst := ((cs.take 2).map Char.toLower) == ['i', 's']
  let kept := (if isFirst then cs.drop 2 else cs).filter fun c =>
    c != ' ' && c != '_' && c != '-' && c.toNat ≤ 0x7F
  let lower := kept.map Char.toLower
  String.ofList (if isFirst && lower == ['c'] then ['i', 's', 'c'] else lower)

end GrammarKit.Unicode
