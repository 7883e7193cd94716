/-!
# TOML values

The values of a TOML document, as far as descriptions of grammars need them: strings, arrays and
tables. Numbers, truth values and dates are checked for their form and kept as plain scalars.

Tables grow while a document is read, and how one came to be decides who may add to it: a header
opens a table once, a dotted key opens tables for other dotted keys, and an inline table is closed.
-/

namespace GrammarKit

/-- Why a text does not denote a value of the type that is wanted. -/
inductive TomlError where
  /-- The text is badly written, or defines something twice. -/
  | malformed
  /-- The text denotes something else. -/
  | mismatch
  deriving Repr, DecidableEq

namespace Toml

/-- How a table came to be. -/
inductive TableKind where
  /-- It has a header, or it is the document. -/
  | headed
  /-- It stands on the way to a table that has a header. -/
  | implied
  /-- It stands on the way to a value, in a dotted key. -/
  | dotted
  /-- It is written in braces. -/
  | inline
  deriving Repr, DecidableEq

/-- A TOML value. -/
inductive Value where
  | string (s : String)
  /-- A number, a truth value, or a date or time. -/
  | scalar
  | array (items : List Value)
  | table (kind : TableKind) (entries : List (String × Value))
  /-- The tables that share a header in double brackets, the latest first. -/
  | tables (items : List (List (String × Value)))
  deriving Repr

/-- The entries of a table, in the order in which they came. -/
abbrev Entries := List (String × Value)

/-- The entries with the value of a key made anew from the one it has, if any; `none` where `f`
refuses. A new key comes last. -/
def Entries.alter (key : String) (f : Option Value → Option Value) : Entries → Option Entries
  | [] => (f none).map fun v => [(key, v)]
  | (k, v) :: rest =>
    if k = key then (f (some v)).map fun v => (k, v) :: rest
    else (alter key f rest).map ((k, v) :: ·)

/-- The kind of a table that a path makes on its way. -/
def wayKind (isDotted : Bool) : TableKind := if isDotted then .dotted else .implied

/-- Changes the table at the end of a path. Tables that are missing are made; the last of some tables
with one header stands for them. No path leads into values and inline tables, and no dotted key leads
into a table with a header. -/
def Entries.changeAt (isDotted : Bool) (change : TableKind → Entries → Option Entries) :
    List String → TableKind → Entries → Option Entries
  | [], kind, es => change kind es
  | key :: path, _, es =>
    es.alter key fun
      | none =>
        let kind := wayKind isDotted
        (changeAt isDotted change path kind []).map (.table kind)
      | some (.table kind inner) =>
        if kind = .inline ∨ (isDotted = true ∧ kind = .headed) then none
        else (changeAt isDotted change path kind inner).map (.table kind)
      | some (.tables (last :: earlier)) =>
        (changeAt isDotted change path .headed last).map fun es => .tables (es :: earlier)
      | some _ => none

/-- Adds a value under a key that has none. -/
def Entries.add (key : String) (v : Value) (es : Entries) : Option Entries :=
  es.alter key fun
    | none => some v
    | some _ => none

/-- Adds a value under a dotted key, within a table of the given kind. The table that the key ends in
must be one that only dotted keys have made, or the given table itself. -/
def Entries.addDotted (path : List String) (key : String) (v : Value) (kind : TableKind)
    (es : Entries) : Option Entries :=
  es.changeAt true (fun kind inner =>
    if (kind = .dotted) = (path = []) then none else inner.add key v) path kind

/-- Opens the table of a header in single brackets. -/
def Entries.openTable (path : List String) (key : String) (es : Entries) : Option Entries :=
  es.changeAt false (fun _ inner => inner.alter key fun
    | none => some (.table .headed [])
    | some (.table .implied entries) => some (.table .headed entries)
    | some _ => none) path .headed

/-- Opens one more table of a header in double brackets. -/
def Entries.openTables (path : List String) (key : String) (es : Entries) : Option Entries :=
  es.changeAt false (fun _ inner => inner.alter key fun
    | none => some (.tables [[]])
    | some (.tables items) => some (.tables ([] :: items))
    | some _ => none) path .headed

/-- The value of a key. -/
def Entries.find? (key : String) (es : Entries) : Option Value :=
  (List.find? (·.1 == key) es).map (·.2)

end Toml

end GrammarKit
