import GrammarKit.Description
import GrammarKit.Json.Decoder
import GrammarKit.Json.Value

/-!
# Descriptions in JSON

A description is an object with a name and a list of tokens, each with its kind and its pattern. The
kind of a token may also be called `type` and its pattern `regex`.
-/

namespace GrammarKit

namespace TokenDescription

/-- A token definition as JSON. -/
def toJson (t : TokenDescription) : Json :=
  .object [("kind", .string t.kind), ("pattern", .string t.pattern)]

/-- A token definition, as far as it has been read. -/
structure Draft where
  kind : Option String := none
  pattern : Option String := none

/-- A token definition in JSON. -/
def form : JsonDecoder.Form Draft TokenDescription where
  fields := [
    ⟨["kind", "type"], (·.kind.isSome), fun d c => do
      return { d with kind := some (← JsonDecoder.string c) }⟩,
    ⟨["pattern", "regex"], (·.pattern.isSome), fun d c => do
      return { d with pattern := some (← JsonDecoder.string c) }⟩]
  blank := {}
  finish d := do return ⟨← d.kind, ← d.pattern⟩

end TokenDescription

namespace GrammarDescription

/-- A description as JSON. -/
def toJson (d : GrammarDescription) : Json :=
  .object [("name", .string d.name), ("tokens", .array (d.tokens.map TokenDescription.toJson))]

/-- A description, as far as it has been read. -/
structure Draft where
  name : Option String := none
  tokens : Option (List TokenDescription) := none

/-- A description in JSON. The tokens may be left out where there are none. -/
def form : JsonDecoder.Form Draft GrammarDescription where
  fields := [
    ⟨["name"], (·.name.isSome), fun d c => do
      return { d with name := some (← JsonDecoder.string c) }⟩,
    ⟨["tokens"], (·.tokens.isSome), fun d c => do
      return { d with tokens := some (← JsonDecoder.list TokenDescription.form.decode c) }⟩]
  blank := {}
  finish d := do return ⟨← d.name, d.tokens.getD []⟩

/-- The description that a JSON text denotes. -/
def ofJson (text : String) : Except JsonError GrammarDescription :=
  JsonDecoder.run form.decode text

/-- The JSON text of a description, with one element a line. -/
def writeJson (d : GrammarDescription) : String := d.toJson.pretty

end GrammarDescription

end GrammarKit
