import GrammarKit.Description.Format
import GrammarKit.Proofs.Toml.Lines

/-!
# Descriptions survive TOML

A description that is written in TOML is read back as it was, whatever its texts hold and however
many tokens it has. Each token of the text opens one more table under the header that all of them
share, so the induction over the tokens carries the tables that are there already.
-/

namespace GrammarKit

open Toml TomlReader

namespace TokenDescription

/-- The lines of a token definition: a blank one, the header and the two entries. -/
theorem tomlChars_eq (t : TokenDescription) :
    t.tomlChars = "\n[[tokens]]\nkind = ".toList ++ stringChars t.kind ++
      "\npattern = ".toList ++ stringChars t.pattern ++ ['\n'] := rfl

/-- The table of a token definition. -/
def tomlEntries (t : TokenDescription) : Entries :=
  [("kind", .string t.kind), ("pattern", .string t.pattern)]

/-- The table of a token definition is read as that definition. -/
theorem ofEntries?_tomlEntries (t : TokenDescription) : ofEntries? t.tomlEntries = some t := by
  cases t
  rfl

end TokenDescription

namespace GrammarDescription

/-- The lines of a description without tokens. -/
theorem tomlChars_nil (name : String) :
    tomlChars ⟨name, []⟩ = "name = ".toList ++ stringChars name ++ '\n' :: "tokens = []\n".toList := rfl

/-- The lines of a description with tokens. -/
theorem tomlChars_cons (name : String) (t : TokenDescription) (ts : List TokenDescription) :
    tomlChars ⟨name, t :: ts⟩ = "name = ".toList ++ stringChars name ++
      '\n' :: (t :: ts).flatMap TokenDescription.tomlChars := rfl

/-- The entries of a document with a name and some tables of tokens, the latest first. -/
def namedTables (name : String) (items : List Entries) : Entries :=
  [("name", .string name), ("tokens", .tables items)]

variable {name : String}

/-- The name is the first entry of its document. -/
theorem leads_name (name : String) :
    Leads {} ("name = ".toList ++ stringChars name ++ ['\n']) ⟨[("name", .string name)], []⟩ := by
  have hkey : BareKey "name" 'n' ['a', 'm', 'e'] := ⟨rfl, rfl⟩
  exact Leads.entry hkey (writtenValue_string name) rfl

/-- A written token adds its table to those that are there. -/
theorem leads_token {doc : Progress} {items : List Entries} (t : TokenDescription)
    (hopen : doc.root.openTables [] "tokens" = some (namedTables name ([] :: items))) :
    Leads doc t.tomlChars ⟨namedTables name (t.tomlEntries :: items), ["tokens"]⟩ := by
  have htokens : BareKey "tokens" 't' ['o', 'k', 'e', 'n', 's'] := ⟨rfl, rfl⟩
  have hkind : BareKey "kind" 'k' ['i', 'n', 'd'] := ⟨rfl, rfl⟩
  have hpattern : BareKey "pattern" 'p' ['a', 't', 't', 'e', 'r', 'n'] := ⟨rfl, rfl⟩
  have hfirst : Leads ⟨namedTables name ([] :: items), ["tokens"]⟩
      (['k', 'i', 'n', 'd'] ++ [' ', '=', ' '] ++ stringChars t.kind ++ ['\n'])
      ⟨namedTables name ([("kind", .string t.kind)] :: items), ["tokens"]⟩ :=
    Leads.entry hkind (writtenValue_string t.kind) rfl
  have hsecond : Leads ⟨namedTables name ([("kind", .string t.kind)] :: items), ["tokens"]⟩
      (['p', 'a', 't', 't', 'e', 'r', 'n'] ++ [' ', '=', ' '] ++ stringChars t.pattern ++ ['\n'])
      ⟨namedTables name (t.tomlEntries :: items), ["tokens"]⟩ :=
    Leads.entry hpattern (writtenValue_string t.pattern) rfl
  have hlines := (((Leads.lineEnd doc).append (Leads.tables htokens hopen)).append hfirst).append hsecond
  simpa [TokenDescription.tomlChars_eq] using hlines

/-- Written tokens add their tables one after the other. -/
theorem leads_tokens (ts : List TokenDescription) (items : List Entries) :
    Leads ⟨namedTables name items, ["tokens"]⟩ (ts.flatMap TokenDescription.tomlChars)
      ⟨namedTables name ((ts.map TokenDescription.tomlEntries).reverse ++ items), ["tokens"]⟩ := by
  induction ts generalizing items with
  | nil => exact fun _ _ => rfl
  | cons t ts ih =>
    have hopen : (namedTables name items).openTables [] "tokens" =
        some (namedTables name ([] :: items)) := rfl
    have hfirst : Leads ⟨namedTables name items, ["tokens"]⟩ t.tomlChars
        ⟨namedTables name (t.tomlEntries :: items), ["tokens"]⟩ := leads_token t hopen
    simpa using hfirst.append (ih (t.tomlEntries :: items))

/-- The tables of tokens are read as those tokens. -/
theorem ofEntries?_namedTables (name : String) (ts : List TokenDescription) :
    ofEntries? (namedTables name (ts.map TokenDescription.tomlEntries).reverse) = some ⟨name, ts⟩ := by
  have htokens : (ts.map TokenDescription.tomlEntries).mapM TokenDescription.ofEntries? = some ts := by
    induction ts with
    | nil => rfl
    | cons t ts ih =>
      rw [List.map_cons, List.mapM_cons, TokenDescription.ofEntries?_tomlEntries, ih]
      rfl
  have hread : tokensOfValue? ((namedTables name (ts.map TokenDescription.tomlEntries).reverse).find?
      "tokens") = some ts := by
    change tokensOfValue? (some (.tables (ts.map TokenDescription.tomlEntries).reverse)) = some ts
    rw [tokensOfValue?, List.reverse_reverse, htokens]
  rw [ofEntries?, hread]
  rfl

/-- The lines of a description lead to a document that is read as the description. -/
theorem exists_leads (d : GrammarDescription) :
    ∃ doc, Leads {} d.tomlChars doc ∧ ofEntries? doc.root = some d := by
  obtain ⟨name, tokens⟩ := d
  cases tokens with
  | nil =>
    have hkey : BareKey "tokens" 't' ['o', 'k', 'e', 'n', 's'] := ⟨rfl, rfl⟩
    have hempty : Leads ⟨[("name", .string name)], []⟩
        (['t', 'o', 'k', 'e', 'n', 's'] ++ [' ', '=', ' '] ++ ['[', ']'] ++ ['\n'])
        ⟨[("name", .string name), ("tokens", .array [])], []⟩ :=
      Leads.entry hkey writtenValue_empty rfl
    refine ⟨⟨[("name", .string name), ("tokens", .array [])], []⟩, ?_, rfl⟩
    simpa [tomlChars_nil] using (leads_name name).append hempty
  | cons t ts =>
    have hopen : Entries.openTables [] "tokens" [("name", .string name)] =
        some (namedTables name [[]]) := rfl
    have hfirst : Leads ⟨[("name", .string name)], []⟩ t.tomlChars
        ⟨namedTables name [t.tomlEntries], ["tokens"]⟩ := leads_token t hopen
    have hlines := ((leads_name name).append hfirst).append (leads_tokens ts [t.tomlEntries])
    refine ⟨_, by simpa [tomlChars_cons] using hlines, ?_⟩
    simpa using ofEntries?_namedTables name (t :: ts)

/-- A description is read back from its TOML text, whatever comes behind that leads nowhere. -/
theorem ofToml_append {tail : List Char} (d : GrammarDescription)
    (htail : ∀ doc, Leads doc tail doc) : ofToml (String.ofList (d.tomlChars ++ tail)) = .ok d := by
  obtain ⟨doc, hleads, hread⟩ := exists_leads d
  have hmark : (d.tomlChars ++ tail).head? ≠ some '\ufeff' := by
    have hhead : (d.tomlChars ++ tail).head? = some 'n' := by
      obtain ⟨name, tokens⟩ := d
      cases tokens with
      | nil => simp [tomlChars_nil]
      | cons t ts => simp [tomlChars_cons]
    rw [hhead]
    decide
  rw [ofToml, (hleads.append (htail doc)).ofText hmark]
  simp only [hread]

/-- A description is read back from its TOML text. -/
theorem ofToml_writeToml (d : GrammarDescription) : ofToml d.writeToml = .ok d := by
  have hread : ofToml (String.ofList (d.tomlChars ++ [])) = .ok d :=
    d.ofToml_append fun _ _ _ => rfl
  rwa [List.append_nil] at hread

end GrammarDescription

/-- Every description is written in TOML as a text that is read back as the same description. -/
theorem DescriptionFormat.parse_write_toml (d : GrammarDescription) :
    DescriptionFormat.toml.parse (DescriptionFormat.toml.write d) = .ok d := by
  simp only [DescriptionFormat.parse, DescriptionFormat.write, GrammarDescription.ofToml_writeToml]
  rfl

end GrammarKit
