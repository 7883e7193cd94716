import GrammarKit.Proofs.Json.Pretty
import GrammarKit.Report

/-!
# Listings of tokens are lossless

The report of some tokens as JSON is a well-formed object, and its tokens are read back from it one
by one, in order: whatever their kinds, entries and captures hold, with the captures that took no
part, and with every place that a machine word of 64 bits can tell.
-/

namespace GrammarKit

open JsonDecoder JsonText

namespace Token

/-- A written span is decoded at any depth. -/
theorem decodes_spanJson (depth : Nat) {s : Span} (hstart : s.start < Nat.pow 2 64)
    (hstop : s.stop < Nat.pow 2 64) :
    Decodes spanForm.decode (Json.prettyChars depth (spanJson s)) s := by
  have hfirst := (decodes_nat64 hstart).map fun n => ({ start := some n } : SpanDraft)
  have hsecond := (decodes_nat64 hstop).map fun n =>
    ({ start := some s.start, stop := some n } : SpanDraft)
  exact Form.Fills.decodes (.cons rfl rfl hfirst (.cons rfl rfl hsecond .nil)) rfl

/-- A written token is decoded at any depth. -/
theorem decodes_toJson (depth : Nat) {t : Token} (hstart : t.span.start < Nat.pow 2 64)
    (hstop : t.span.stop < Nat.pow 2 64) : Decodes form.decode (Json.prettyChars depth t.toJson) t := by
  have hkind := (decodes_string t.kind).map fun s => ({ kind := some s } : Draft)
  have hentry := (decodes_string t.entry).map fun s =>
    ({ kind := some t.kind, entry := some s } : Draft)
  have hcaptures := (decodes_prettyArray fun s (_ : s ∈ t.captures) =>
      decodes_option_string (depth + 2) s).map fun ss =>
    ({ kind := some t.kind, entry := some t.entry, captures := some ss } : Draft)
  have hspan := (decodes_spanJson (depth + 1) hstart hstop).map fun s =>
    ({ kind := some t.kind, entry := some t.entry, captures := some t.captures, span := some s } :
      Draft)
  exact Form.Fills.decodes
    (.cons rfl rfl hkind (.cons rfl rfl hentry (.cons rfl rfl hcaptures (.cons rfl rfl hspan .nil))))
    rfl

end Token

namespace TokenReport

/-- The report of some tokens as JSON is a line with an object, which holds the name of the grammar
and an array. The items of the array are the tokens in order: each item by itself is read as its
token. -/
theorem render_json (r : TokenReport)
    (hspans : ∀ t ∈ r.tokens, t.span.start < Nat.pow 2 64 ∧ t.span.stop < Nat.pow 2 64) :
    ∃ text grammar listing items, r.render .json = String.ofList text ++ "\n" ∧
      ValueText text ∧ ObjectText [("grammar", grammar), ("tokens", listing)] text ∧
      StringText grammar r.grammar ∧ ArrayText items listing ∧
      List.Forall₂ (fun item t => Token.ofJson (String.ofList item) = .ok t) items r.tokens := by
  refine ⟨Json.prettyChars 0 r.toJson, _, _, _, linesText_singleton _, valueText_prettyChars 0 _,
    objectText_prettyChars 0 _, stringText_stringChars r.grammar, arrayText_prettyChars 1 _, ?_⟩
  rw [List.map_map, List.forall₂_map_left_iff, List.forall₂_same]
  intro t ht
  obtain ⟨hstart, hstop⟩ := hspans t ht
  refine (?_ : Decodes Token.form.decode _ t).run_eq
  rw [String.toList_ofList]
  exact Token.decodes_toJson 2 hstart hstop

/-- Two tokens, one at the end of the range of places with a capture that took no part, are read back
from their listing. -/
theorem render_json_pair : ∃ (r : TokenReport) (text grammar listing : List Char)
    (items : List (List Char)),
    r = ⟨"g\"", [⟨"a\\", "é\n", [some "é\n", none, some ""], ⟨0, 18446744073709551615⟩⟩,
      ⟨"", "", [], ⟨7, 3⟩⟩]⟩ ∧
    r.render .json = String.ofList text ++ "\n" ∧
    ValueText text ∧ ObjectText [("grammar", grammar), ("tokens", listing)] text ∧
    StringText grammar r.grammar ∧ ArrayText items listing ∧
    List.Forall₂ (fun item t => Token.ofJson (String.ofList item) = .ok t) items r.tokens := by
  obtain ⟨text, grammar, listing, items, h⟩ := render_json
    ⟨"g\"", [⟨"a\\", "é\n", [some "é\n", none, some ""], ⟨0, 18446744073709551615⟩⟩,
      ⟨"", "", [], ⟨7, 3⟩⟩]⟩ (by decide)
  exact ⟨_, text, grammar, listing, items, rfl, h⟩

end TokenReport

end GrammarKit
