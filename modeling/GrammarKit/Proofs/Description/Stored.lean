import GrammarKit.GrammarFile
import GrammarKit.Proofs.Description.Json
import GrammarKit.Proofs.Description.Toml

/-!
# Descriptions as they are stored

A description that is written in a format is read back in that format, also where line ends come
behind it, and is refused in the other one: a JSON text begins with a brace, with which no line of
TOML begins, and a TOML text begins with a word that JSON does not have. A text is stored in a file
as its bytes in UTF-8, and the bytes are decoded as that text.
-/

namespace GrammarKit

/-- The errors of a text that is no description in a format. -/
inductive DescriptionFormat.Refusal : DescriptionFormat → DescriptionError → Prop
  | toml : Refusal .toml .toml
  | json (cause : JsonError) : Refusal .json (.json cause)

namespace GrammarDescription

open Toml TomlReader

/-- Line ends lead nowhere in a document. -/
theorem leads_lineEnds {tail : List Char} (htail : ∀ c ∈ tail, c = '\n') (doc : Progress) :
    Leads doc tail doc := by
  intro finish rest
  refine Reader.run_loop_skip tail fun c hc => ?_
  rw [htail c hc]
  rfl

/-- A text that begins with a brace is no TOML document. -/
theorem ofToml_brace (rest : List Char) :
    ofToml (String.ofList ('\x7b' :: rest)) = .error .malformed := by
  have hmark : ('\x7b' :: rest).head? ≠ some '\ufeff' := by
    rw [List.head?_cons]
    decide
  have hdocument : Entries.ofText (String.ofList ('\x7b' :: rest)) = .error .malformed := by
    rw [Entries.ofText, String.toList_ofList, Reader.whole, document,
      Reader.run_bind_ok (Reader.run_eat_of_head_ne hmark), Reader.loop_cons]
    rfl
  rw [ofToml, hdocument]

/-- No JSON text is a TOML document. -/
theorem ofToml_writeJson (d : GrammarDescription) : ofToml d.writeJson = .error .malformed :=
  ofToml_brace _

/-- A text that begins with `na` is no JSON. -/
theorem ofJson_word (rest : List Char) :
    ofJson (String.ofList ('n' :: 'a' :: rest)) = .error .malformed := by
  rw [ofJson, JsonDecoder.run, String.toList_ofList]
  rfl

/-- No TOML text is JSON. -/
theorem ofJson_writeToml (d : GrammarDescription) : ofJson d.writeToml = .error .malformed :=
  ofJson_word _

end GrammarDescription

namespace DescriptionFormat

/-- A written description is read back, whatever line ends come behind it. -/
theorem parse_write_append {tail : List Char} (htail : ∀ c ∈ tail, c = '\n')
    (format : DescriptionFormat) (d : GrammarDescription) :
    format.parse (format.write d ++ String.ofList tail) = .ok d := by
  cases format with
  | toml =>
    have hread : GrammarDescription.ofToml (d.writeToml ++ String.ofList tail) = .ok d := by
      rw [GrammarDescription.writeToml, ← String.ofList_append]
      exact d.ofToml_append fun doc => GrammarDescription.leads_lineEnds htail doc
    simp only [parse, write, hread]
    rfl
  | json =>
    have hspaces : JsonReader.Spaces tail := fun c hc => by rw [htail c hc]; rfl
    have hread : GrammarDescription.ofJson (d.writeJson ++ String.ofList tail) = .ok d := by
      rw [GrammarDescription.writeJson, Json.pretty, ← String.ofList_append]
      exact d.ofJson_append hspaces
    simp only [parse, write, hread]
    rfl

/-- A written description is read back. -/
theorem parse_write (format : DescriptionFormat) (d : GrammarDescription) :
    format.parse (format.write d) = .ok d := by
  simpa using parse_write_append (List.forall_mem_nil _) format d

/-- A written description is read back where it stands on a line of its own. -/
theorem parse_write_line (format : DescriptionFormat) (d : GrammarDescription) :
    format.parse (format.write d ++ "\n") = .ok d :=
  parse_write_append (List.forall_mem_singleton.2 rfl) format d

/-- A description that is written in one format is refused in the other. -/
theorem exists_refusal_of_ne {format written : DescriptionFormat} (h : written ≠ format)
    (d : GrammarDescription) : ∃ e, format.parse (written.write d) = .error e ∧ format.Refusal e := by
  cases format <;> cases written
  · exact absurd rfl h
  · exact ⟨.toml, by simp only [parse, write, d.ofToml_writeJson]; rfl, .toml⟩
  · exact ⟨.json .malformed, by simp only [parse, write, d.ofJson_writeToml]; rfl, .json .malformed⟩
  · exact absurd rfl h

end DescriptionFormat

namespace GrammarFile

/-- The bytes of a text denote that text. -/
theorem textOf_toUTF8 (text : String) : textOf text.toUTF8 = .ok text := by
  have hread : String.fromUTF8? text.toUTF8 = some text := by
    rw [String.fromUTF8?, String.toUTF8_eq_toByteArray, dif_pos text.isValidUTF8]
    rfl
  rw [textOf, hread]

/-- What a file holds is decoded as the text that was stored in it. -/
theorem decode_toUTF8 (f : GrammarFile) (text : String) :
    f.decode (.ok text.toUTF8) = f.format.parse text := by
  have htext : (Except.ok text.toUTF8 : Except FileError ByteArray).bind textOf = .ok text :=
    textOf_toUTF8 text
  rw [decode, htext]

/-- A file that holds a written description holds that description. -/
theorem decode_write (f : GrammarFile) (d : GrammarDescription) :
    f.decode (.ok (f.format.write d).toUTF8) = .ok d := by
  rw [decode_toUTF8, DescriptionFormat.parse_write]

end GrammarFile

end GrammarKit
