import GrammarKit.Description
import GrammarKit.Toml.Document
import GrammarKit.Toml.StringForm

/-!
# Descriptions in TOML

A description is a document with a name and, under the header `[[tokens]]`, one table for each token
with its kind and its pattern. The kind may also be called `type` and the pattern `regex`, but not
both. A token may be written as an array of its kind and its pattern too.
-/

namespace GrammarKit

open Toml

namespace TokenDescription

/-- The string under one of two keys; `none` where both are there, or neither, or no string. -/
def stringUnder? (key other : String) (es : Entries) : Option String :=
  match es.find? key, es.find? other with
  | some (.string s), none => some s
  | none, some (.string s) => some s
  | _, _ => none

/-- The token definition of a table. -/
def ofEntries? (es : Entries) : Option TokenDescription := do
  return ⟨← stringUnder? "kind" "type" es, ← stringUnder? "pattern" "regex" es⟩

/-- The token definition that a value denotes. -/
def ofValue? : Value → Option TokenDescription
  | .table _ es => ofEntries? es
  | .array (.string kind :: .string pattern :: _) => some ⟨kind, pattern⟩
  | _ => none

/-- The lines of a token definition in TOML, with a blank line before them. -/
def tomlChars (t : TokenDescription) : List Char :=
  "\n[[tokens]]\nkind = ".toList ++ stringChars t.kind ++
    "\npattern = ".toList ++ stringChars t.pattern ++ ['\n']

end TokenDescription

namespace GrammarDescription

/-- The token definitions that the value of the key `tokens` denotes. -/
def tokensOfValue? : Option Value → Option (List TokenDescription)
  | none => some []
  | some (.array items) => items.mapM TokenDescription.ofValue?
  | some (.tables items) => items.reverse.mapM TokenDescription.ofEntries?
  | some _ => none

/-- The description of a document. -/
def ofEntries? (es : Entries) : Option GrammarDescription :=
  match es.find? "name", tokensOfValue? (es.find? "tokens") with
  | some (.string name), some tokens => some ⟨name, tokens⟩
  | _, _ => none

/-- The description that a TOML text denotes. -/
def ofToml (text : String) : Except TomlError GrammarDescription :=
  match Entries.ofText text with
  | .error e => .error e
  | .ok es =>
    match ofEntries? es with
    | some d => .ok d
    | none => .error .mismatch

/-- The characters of a description in TOML. -/
def tomlChars (d : GrammarDescription) : List Char :=
  "name = ".toList ++ stringChars d.name ++ '\n' ::
    match d.tokens with
    | [] => "tokens = []\n".toList
    | t :: ts => (t :: ts).flatMap TokenDescription.tomlChars

/-- The TOML text of a description. -/
def writeToml (d : GrammarDescription) : String := String.ofList d.tomlChars

end GrammarDescription

end GrammarKit
