import GrammarKit.Description.Format
import GrammarKit.Proofs.Json.Fields
import GrammarKit.Proofs.Json.Written

/-!
# Spellings of descriptions

The texts of a description in JSON, by whomever they have been written. The fields of an object
stand in any order among others that nobody knows, the kind of a token is also called its type and
its pattern its regex, and each token is spelled for itself. Every such text is read as the
description, and a token that has a field twice, or not at all, makes the whole text unreadable.
-/

namespace GrammarKit

open JsonReader JsonText JsonDecoder

namespace TokenDescription

/-- The names that the kind of a token goes by. -/
def kindNames : List String := ["kind", "type"]

/-- The names that the pattern of a token goes by. -/
def patternNames : List String := ["pattern", "regex"]

/-- The texts of a token: objects that give its kind once and its pattern once. -/
def IsText (t : TokenDescription) (text : List Char) : Prop :=
  ∃ members, ObjectText members text ∧ (∀ m ∈ members, ValueText m.2) ∧
    GivenOnce kindNames (StringText · t.kind) members ∧
    GivenOnce patternNames (StringText · t.pattern) members

/-- The texts that give a field of a token more than once, or not at all. -/
def IsFlawed (text : List Char) : Prop :=
  ∃ members, ObjectText members text ∧ (∀ m ∈ members, ValueText m.2) ∧
    ∃ names ∈ [kindNames, patternNames], (membersNamed names members).length ≠ 1

theorem isPair_form : IsPair form Draft.mk kindNames string patternNames string := by
  have hfields : form.fields = [form.fields[0], form.fields[1]] := rfl
  exact .of_fields hfields rfl (by decide) (fun _ _ => ⟨rfl, rfl⟩) fun _ _ => ⟨rfl, rfl⟩

theorem settlesValues_read : ∀ field ∈ form.fields, ∀ d, SettlesValues (field.read d) := by
  simp only [form, List.mem_cons, List.not_mem_nil, or_false]
  rintro _ (rfl | rfl) d
  · exact settlesValues_string.map _
  · exact settlesValues_string.map _

/-- A token is read from an object exactly if its kind and its pattern are each given once. -/
theorem decodes_iff {members : List (String × List Char)} {text : List Char}
    (hobject : ObjectText members text) (hvalues : ∀ m ∈ members, ValueText m.2)
    {t : TokenDescription} :
    Decodes form.decode text t ↔ GivenOnce kindNames (Decodes string · t.kind) members ∧
      GivenOnce patternNames (Decodes string · t.pattern) members := by
  rw [isPair_form.decodes_iff settlesValues_read settlesValues_string settlesValues_string hobject
    hvalues, ← gives_none_some_iff, ← gives_none_some_iff]
  constructor
  · rintro ⟨_ | kind, _ | pattern, hkind, hpattern, ⟨⟩⟩
    exact ⟨hkind, hpattern⟩
  · rintro ⟨hkind, hpattern⟩
    exact ⟨some t.kind, some t.pattern, hkind, hpattern, rfl⟩

/-- Every text of a token is read as the token. -/
theorem IsText.decodes {t : TokenDescription} {text : List Char} (h : t.IsText text) :
    Decodes form.decode text t := by
  obtain ⟨members, hobject, hvalues, hkind, hpattern⟩ := h
  exact (decodes_iff hobject hvalues).2
    ⟨hkind.imp fun _ => decodes_of_stringText, hpattern.imp fun _ => decodes_of_stringText⟩

/-- No token is read from a flawed text. -/
theorem IsFlawed.not_decodes {text : List Char} (h : IsFlawed text) (t : TokenDescription) :
    ¬ Decodes form.decode text t := by
  obtain ⟨members, hobject, hvalues, names, hnames, hlength⟩ := h
  intro ht
  obtain ⟨⟨kind, hkind, -⟩, pattern, hpattern, -⟩ := (decodes_iff hobject hvalues).1 ht
  simp only [List.mem_cons, List.not_mem_nil, or_false] at hnames
  obtain rfl | rfl := hnames
  · exact hlength (by rw [hkind, List.length_singleton])
  · exact hlength (by rw [hpattern, List.length_singleton])

end TokenDescription

namespace GrammarDescription

/-- The texts of a list of tokens. -/
def IsListing (ts : List TokenDescription) (text : List Char) : Prop :=
  ∃ items, ArrayText items text ∧ List.Forall₂ (fun item t => t.IsText item) items ts

/-- The texts of a description: objects that give its name once and its tokens once. The tokens may
be left out where there are none. -/
def IsText (d : GrammarDescription) (text : List Char) : Prop :=
  ∃ members, ObjectText members text ∧ (∀ m ∈ members, ValueText m.2) ∧
    GivenOnce ["name"] (StringText · d.name) members ∧
    (GivenOnce ["tokens"] (IsListing d.tokens) members ∨
      membersNamed ["tokens"] members = [] ∧ d.tokens = [])

/-- The well-formed objects that list, among whatever else, a flawed token. -/
def HasFlawedToken (text : List Char) : Prop :=
  ∃ members listing items item, ObjectText members text ∧ (∀ m ∈ members, ValueText m.2) ∧
    ("tokens", listing) ∈ members ∧ ArrayText items listing ∧ (∀ item ∈ items, ValueText item) ∧
    item ∈ items ∧ TokenDescription.IsFlawed item

theorem settlesValues_token : SettlesValues TokenDescription.form.decode :=
  Form.settlesValues_decode TokenDescription.settlesValues_read

theorem isPair_form :
    IsPair form Draft.mk ["name"] string ["tokens"] (list TokenDescription.form.decode) := by
  have hfields : form.fields = [form.fields[0], form.fields[1]] := rfl
  exact .of_fields hfields rfl (by decide) (fun _ _ => ⟨rfl, rfl⟩) fun _ _ => ⟨rfl, rfl⟩

theorem settlesValues_read : ∀ field ∈ form.fields, ∀ d, SettlesValues (field.read d) := by
  simp only [form, List.mem_cons, List.not_mem_nil, or_false]
  rintro _ (rfl | rfl) d
  · exact settlesValues_string.map _
  · exact settlesValues_token.list.map _

/-- A description is read from an object exactly if its name is given once and its tokens are, too,
unless there are none. -/
theorem decodes_iff {members : List (String × List Char)} {text : List Char}
    (hobject : ObjectText members text) (hvalues : ∀ m ∈ members, ValueText m.2)
    {d : GrammarDescription} :
    Decodes form.decode text d ↔ GivenOnce ["name"] (Decodes string · d.name) members ∧
      (GivenOnce ["tokens"] (Decodes (list TokenDescription.form.decode) · d.tokens) members ∨
        membersNamed ["tokens"] members = [] ∧ d.tokens = []) := by
  rw [isPair_form.decodes_iff settlesValues_read settlesValues_string settlesValues_token.list
    hobject hvalues]
  constructor
  · rintro ⟨_ | name, _ | tokens, hname, htokens, ⟨⟩⟩
    · exact ⟨gives_none_some_iff.1 hname, .inr ⟨gives_none_none_iff.1 htokens, rfl⟩⟩
    · exact ⟨gives_none_some_iff.1 hname, .inl (gives_none_some_iff.1 htokens)⟩
  · rintro ⟨hname, htokens | ⟨htokens, hnone⟩⟩
    · exact ⟨some d.name, some d.tokens, gives_none_some_iff.2 hname,
        gives_none_some_iff.2 htokens, rfl⟩
    · refine ⟨some d.name, none, gives_none_some_iff.2 hname, gives_none_none_iff.2 htokens, ?_⟩
      change some (⟨d.name, []⟩ : GrammarDescription) = some d
      rw [← hnone]

/-- Every text of a description is read as the description. -/
theorem IsText.decodes {d : GrammarDescription} {text : List Char} (h : d.IsText text) :
    Decodes form.decode text d := by
  obtain ⟨members, hobject, hvalues, hname, htokens⟩ := h
  refine (decodes_iff hobject hvalues).2 ⟨hname.imp fun _ => decodes_of_stringText, ?_⟩
  obtain htokens | hnone := htokens
  · refine .inl (htokens.imp ?_)
    rintro listing ⟨items, harray, hitems⟩
    exact decodes_list harray (hitems.imp fun _ _ => TokenDescription.IsText.decodes)
  · exact .inr hnone

/-- No description is read where a token is flawed: the text is refused. -/
theorem HasFlawedToken.settles {text : List Char} (h : HasFlawedToken text) :
    Settles form.decode text none := by
  obtain ⟨members, listing, items, item, hobject, hvalues, hlisting, harray, hitems, hitem,
    hflawed⟩ := h
  obtain ⟨_ | d, hd⟩ := Form.settlesValues_decode settlesValues_read text (.object hobject hvalues)
  · exact hd
  · exfalso
    obtain ⟨-, htokens | ⟨hnone, -⟩⟩ := (decodes_iff hobject hvalues).1 hd
    · have hlist := htokens.of_mem hlisting (List.mem_singleton.2 rfl)
      obtain ⟨t, ht⟩ := exists_decodes_item settlesValues_token harray hitems hlist hitem
      exact hflawed.not_decodes t ht
    · have hmem : ("tokens", listing) ∈ membersNamed ["tokens"] members :=
        List.mem_filter.2 ⟨hlisting, by simp⟩
      rw [hnone] at hmem
      cases hmem

end GrammarDescription

namespace DescriptionFormat

/-- Every text of a description is read as the description, whatever white space stands around it:
whichever names the fields go by, in whichever order they stand and whatever other fields there are.
If a token gives a field more than once, under one of its names or under both, or not at all, then
the text is refused. -/
theorem parse_json_spelling {before text behind : List Char} (hbefore : Spaces before)
    (hbehind : Spaces behind) :
    (∀ d : GrammarDescription, d.IsText text →
      json.parse (String.ofList (before ++ (text ++ behind))) = .ok d) ∧
    (GrammarDescription.HasFlawedToken text →
      ∃ cause, json.parse (String.ofList (before ++ (text ++ behind))) = .error (.json cause)) := by
  have hparse (s : String) : json.parse s =
      (run GrammarDescription.form.decode s).mapError .json := rfl
  refine ⟨fun d hd => ?_, fun hflawed => ?_⟩
  · rw [hparse, hd.decodes.run_append hbefore hbehind]
    rfl
  · have hrefused := hflawed.settles.toOption_run hbefore hbehind
    rw [hparse]
    cases hrun : run GrammarDescription.form.decode (String.ofList (before ++ (text ++ behind))) with
    | error cause => exact ⟨cause, rfl⟩
    | ok d =>
      rw [hrun] at hrefused
      cases hrefused

/-- Two tokens that are spelled in different ways, among fields that nobody knows. -/
def mixedSpelling : Json := .object [("x", .array [.null, .decimal ⟨true, 15, 1⟩]),
  ("tokens", .array [
    .object [("regex", .string "\\d"), ("kinds", .object []), ("type", .string "é")],
    .object [("kind", .string "b"), ("pattern", .string "\n")]]),
  ("x", .bool false), ("name", .string "g")]

/-- A token that has its kind twice. -/
def repeatedSpelling : Json := .object [("name", .string "g"), ("tokens", .array [
  .object [("kind", .string "b"), ("pattern", .string "b"), ("type", .string "b")]])]

theorem isText_mixedSpelling : GrammarDescription.IsText ⟨"g", [⟨"é", "\\d"⟩, ⟨"b", "\n"⟩]⟩
    (Json.prettyChars 0 mixedSpelling) := by
  have hfirst : TokenDescription.IsText ⟨"é", "\\d"⟩ (Json.prettyChars 2 (.object
      [("regex", .string "\\d"), ("kinds", .object []), ("type", .string "é")])) :=
    ⟨_, objectText_prettyChars 2 _, valueText_prettyMembers 2 _,
      ⟨_, rfl, stringText_stringChars "é"⟩, _, rfl, stringText_stringChars "\\d"⟩
  have hsecond : TokenDescription.IsText ⟨"b", "\n"⟩ (Json.prettyChars 2 (.object
      [("kind", .string "b"), ("pattern", .string "\n")])) :=
    ⟨_, objectText_prettyChars 2 _, valueText_prettyMembers 2 _,
      ⟨_, rfl, stringText_stringChars "b"⟩, _, rfl, stringText_stringChars "\n"⟩
  exact ⟨_, objectText_prettyChars 0 _, valueText_prettyMembers 0 _,
    ⟨_, rfl, stringText_stringChars "g"⟩,
    .inl ⟨_, rfl, _, arrayText_prettyChars 1 _, .cons hfirst (.cons hsecond .nil)⟩⟩

theorem hasFlawedToken_repeatedSpelling :
    GrammarDescription.HasFlawedToken (Json.prettyChars 0 repeatedSpelling) := by
  have hflawed : TokenDescription.IsFlawed (Json.prettyChars 2 (.object
      [("kind", .string "b"), ("pattern", .string "b"), ("type", .string "b")])) :=
    ⟨_, objectText_prettyChars 2 _, valueText_prettyMembers 2 _, _, List.mem_cons_self, by decide⟩
  exact ⟨_, _, _, _, objectText_prettyChars 0 _, valueText_prettyMembers 0 _,
    List.mem_cons_of_mem _ List.mem_cons_self, arrayText_prettyChars 1 _,
    valueText_prettyItems 1 _, List.mem_cons_self, hflawed⟩

/-- The two tokens are read, and the text with the kind given twice is refused. -/
theorem parse_json_mixedSpelling :
    (Spaces [' '] ∧ Spaces [] ∧
      GrammarDescription.IsText ⟨"g", [⟨"é", "\\d"⟩, ⟨"b", "\n"⟩]⟩ (Json.prettyChars 0 mixedSpelling) ∧
      json.parse (String.ofList ([' '] ++ (Json.prettyChars 0 mixedSpelling ++ []))) =
        .ok ⟨"g", [⟨"é", "\\d"⟩, ⟨"b", "\n"⟩]⟩) ∧
    GrammarDescription.HasFlawedToken (Json.prettyChars 0 repeatedSpelling) ∧
    ∃ cause, json.parse (String.ofList ([' '] ++ (Json.prettyChars 0 repeatedSpelling ++ []))) =
      .error (.json cause) :=
  ⟨⟨spaces_blank, spaces_nil, isText_mixedSpelling,
      (parse_json_spelling spaces_blank spaces_nil).1 _ isText_mixedSpelling⟩,
    hasFlawedToken_repeatedSpelling,
    (parse_json_spelling spaces_blank spaces_nil).2 hasFlawedToken_repeatedSpelling⟩

end DescriptionFormat

end GrammarKit
