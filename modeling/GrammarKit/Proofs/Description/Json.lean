import GrammarKit.Description.Format
import GrammarKit.Proofs.Json.Pretty

/-!
# Descriptions survive JSON

A description that is written in JSON is read back as it was, whatever its texts hold and however
many tokens it has.
-/

namespace GrammarKit

open JsonDecoder

/-- A written token definition is decoded at any depth. -/
theorem TokenDescription.decodes_toJson (depth : Nat) (t : TokenDescription) :
    Decodes TokenDescription.form.decode (Json.prettyChars depth t.toJson) t := by
  have hkind := (decodes_string t.kind).map fun s => ({ kind := some s } : Draft)
  have hpattern := (decodes_string t.pattern).map fun s =>
    ({ kind := some t.kind, pattern := some s } : Draft)
  exact Form.Fills.decodes (.cons rfl rfl hkind (.cons rfl rfl hpattern .nil)) rfl

/-- A written description is decoded at any depth. -/
theorem GrammarDescription.decodes_toJson (depth : Nat) (d : GrammarDescription) :
    Decodes GrammarDescription.form.decode (Json.prettyChars depth d.toJson) d := by
  have hname := (decodes_string d.name).map fun s => ({ name := some s } : Draft)
  have htokens := (decodes_prettyArray fun t (_ : t ∈ d.tokens) => t.decodes_toJson (depth + 2)).map
    fun ts => ({ name := some d.name, tokens := some ts } : Draft)
  exact Form.Fills.decodes (.cons rfl rfl hname (.cons rfl rfl htokens .nil)) rfl

/-- A description is read back from its JSON text, whatever white space comes behind. -/
theorem GrammarDescription.ofJson_append {ws : List Char} (d : GrammarDescription)
    (hws : JsonReader.Spaces ws) :
    ofJson (String.ofList (Json.prettyChars 0 d.toJson ++ ws)) = .ok d := by
  have hrun := (d.decodes_toJson 0).run_append JsonReader.spaces_nil hws
  rwa [List.nil_append] at hrun

/-- Every description is written in JSON as a text that is read back as the same description. -/
theorem DescriptionFormat.parse_write_json (d : GrammarDescription) :
    DescriptionFormat.json.parse (DescriptionFormat.json.write d) = .ok d := by
  have hdecodes : Decodes GrammarDescription.form.decode d.writeJson.toList d := by
    rw [GrammarDescription.writeJson, Json.pretty, String.toList_ofList]
    exact d.decodes_toJson 0
  have hread : GrammarDescription.ofJson d.writeJson = .ok d := hdecodes.run_eq
  simp only [DescriptionFormat.parse, DescriptionFormat.write, hread]
  rfl

end GrammarKit
