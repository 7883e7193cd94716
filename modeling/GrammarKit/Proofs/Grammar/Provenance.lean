import GrammarKit.Grammar
import GrammarKit.Proofs.Engine.Nesting
import GrammarKit.Proofs.Lexer.Tiling
import GrammarKit.Proofs.Pattern.Anchoring
import GrammarKit.Rule.Window

/-!
# Where the entries of a text come from

The tokens of a text lie in it in order, and the windows of a parse lie in the tokens. Together
this traces every entry, at any depth, to its place in the text: its window is a run of tokens that
is behind those of the entries before it and between the first and the last token of its parent.
What an entry without a transform holds is text of the input, and no token stands in two entries
unless one is inside of the other.
-/

namespace GrammarKit

open Placement

/-- The entries of a parse are those of some matches, whose windows lie in the tokens of the text and
in each other in order. Entries and matches are found by their addresses. -/
structure Provenance (text : String) (rules : List Rule) (tokens : List Token)
    (es : List ParseEntry) (ps : List Placement) : Prop where
  /-- Each entry is that of the match at the same address. -/
  entry_eq : ∀ path, atAddress ParseEntry.children es path =
    (atAddress Placement.children ps path).map (entry tokens)
  /-- Each window is a run of tokens that is not empty. -/
  window_isInfix : ∀ path p, atAddress Placement.children ps path = some p →
    p.window tokens ≠ [] ∧ p.window tokens <:+: tokens ∧ p.stop ≤ tokens.length
  /-- It is the one that the rule of the match takes at its place. -/
  window_eq : ∀ path p, atAddress Placement.children ps path = some p → p.rule ∈ rules ∧
    ∃ hi ≤ tokens.length, p.rule.test (stretch tokens p.start hi) =
      some ⟨p.length, p.rule.resultOn (p.window tokens)⟩
  /-- Windows beside each other share no token and are in order. -/
  beside : ∀ path i j p q, i < j → atAddress Placement.children ps (path ++ [i]) = some p →
    atAddress Placement.children ps (path ++ [j]) = some q → p.stop ≤ q.start ∧
      ∀ t ∈ p.window tokens, ∀ u ∈ q.window tokens, t.span.stop ≤ u.span.start
  /-- The window of a child lies between the first and the last token of its parent. -/
  inside : ∀ path i p q, atAddress Placement.children ps path = some p →
    atAddress Placement.children ps (path ++ [i]) = some q → p.start < q.start ∧ q.stop < p.stop ∧
      ∃ first last, (p.window tokens).head? = some first ∧ (p.window tokens).getLast? = some last ∧
        ∀ t ∈ q.window tokens, first.span.stop ≤ t.span.start ∧ t.span.stop ≤ last.span.start
  /-- The tokens in an entry have the text that stands at their places. -/
  standsAt : ∀ path e, atAddress ParseEntry.children es path = some e → ∀ ts,
    e.result = .tokens ts → ∀ t ∈ ts, t ∈ tokens ∧ Text.StandsAt text t.span t.entry
  /-- Of two matches that share a token, one is inside of the other. -/
  isPrefix_of_claims : ∀ path path' p q k, atAddress Placement.children ps path = some p →
    atAddress Placement.children ps path' = some q → p.Claims k → q.Claims k →
      path <+: path' ∨ path' <+: path

/-- A stretch is a run of the tokens. -/
theorem stretch_isInfix (tokens : List Token) (start stop : Nat) :
    stretch tokens start stop <:+: tokens :=
  (List.drop_suffix _ _).isInfix.trans (List.take_prefix _ _).isInfix

/-- A stretch of at least one token has a first and a last one. -/
theorem exists_first_last {tokens : List Token} {start stop : Nat} (hlt : start < stop)
    (hstop : stop ≤ tokens.length) :
    ∃ first last, first ∈ stretch tokens start (start + 1) ∧ last ∈ stretch tokens (stop - 1) stop ∧
      (stretch tokens start stop).head? = some first ∧
      (stretch tokens start stop).getLast? = some last := by
  have hone {k : Nat} (hk : k < stop) : ∃ t, stretch tokens k (k + 1) = [t] :=
    exists_stretch_eq_singleton (by omega)
  obtain ⟨first, hfirst⟩ := hone hlt
  obtain ⟨last, hlast⟩ := hone (Nat.sub_one_lt_of_lt hlt)
  rw [Nat.sub_one_add_one (by omega)] at hlast
  refine ⟨first, last, by rw [hfirst]; exact List.mem_singleton_self first,
    by rw [hlast]; exact List.mem_singleton_self last, ?_, ?_⟩
  · rw [← stretch_append (Nat.le_succ start) hlt, hfirst]
    rfl
  · rw [← stretch_append (Nat.le_sub_one_of_lt hlt) (Nat.sub_le stop 1), hlast, List.getLast?_concat]

namespace ScanStep

/-- The tokens of steps that lie end to end are in order and do not overlap. -/
theorem EndToEnd.tokens_pairwise {offset : Nat} {steps : List ScanStep} (h : EndToEnd offset steps) :
    (steps.filterMap token?).Pairwise fun t u => t.span.stop ≤ u.span.start := by
  refine List.pairwise_filterMap.2 (h.pairwise.imp ?_)
  rintro (t | _) (u | _) hle t' ht u' hu <;> cases ht <;> cases hu
  exact hle

/-- The entry of each token stands at its place in the joined text. -/
theorem EndToEnd.token_standsAt {steps : List ScanStep} (h : EndToEnd 0 steps) {t : Token}
    (ht : t ∈ steps.filterMap token?) : Text.StandsAt (joined steps) t.span t.entry := by
  obtain ⟨s, hs, htoken⟩ := List.mem_filterMap.1 ht
  cases s with
  | token t' => cases htoken; exact h.standsAt hs
  | skip offset c => cases htoken

end ScanStep

/-- In a list of tokens that lie in a text in order, the windows of a parse lie in order. -/
theorem provenance_parse {text : String} {tokens : List Token} (rules : List Rule)
    (hstands : ∀ t ∈ tokens, Text.StandsAt text t.span t.entry)
    (horder : tokens.Pairwise fun t u => t.span.stop ≤ u.span.start) :
    Provenance text rules tokens (Engine.parse rules tokens) (Engine.placements rules tokens) := by
  have hfits := Engine.fits_placements rules tokens
  have hentry (path : List Nat) : atAddress ParseEntry.children (Engine.parse rules tokens) path =
      (atAddress Placement.children (Engine.placements rules tokens) path).map (entry tokens) := by
    rw [← Engine.entries_placements, atAddress_entries]
  have hmatches {path : List Nat} {p : Placement}
      (hp : atAddress Placement.children (Engine.placements rules tokens) path = some p) :
      ∃ hi ≤ tokens.length, MatchesUpTo rules tokens hi p :=
    hfits.matchesUpTo_of_atAddress (Nat.le_refl _) hp
  have hbounds {path : List Nat} {p : Placement}
      (hp : atAddress Placement.children (Engine.placements rules tokens) path = some p) :
      p.start < p.stop ∧ p.stop ≤ tokens.length := by
    obtain ⟨hi, hhi, hmatch⟩ := hmatches hp
    obtain ⟨hpos, hstop⟩ := hmatch.bounds hhi
    exact ⟨Nat.lt_add_of_pos_right hpos, Nat.le_trans hstop hhi⟩
  refine ⟨hentry, ?_, ?_, ?_, ?_, ?_, ?_⟩
  · intro path p hp
    obtain ⟨hlt, hstop⟩ := hbounds hp
    refine ⟨List.length_pos_iff.1 ?_, stretch_isInfix _ _ _, hstop⟩
    rw [window, length_stretch hstop]
    omega
  · intro path p hp
    obtain ⟨hi, hhi, hmatch⟩ := hmatches hp
    exact ⟨hmatch.rule_mem, hi, hhi, hmatch.test_eq⟩
  · intro path i j p q hij hp hq
    have hle := hfits.stop_le_start_of_atAddress (Nat.le_refl _) hij hp hq
    exact ⟨hle, fun t ht u hu => rel_of_mem_stretch horder hle ht hu⟩
  · intro path i p q hp hq
    obtain ⟨hstart, hstop⟩ := hfits.lt_of_atAddress (Nat.le_refl _) hp hq
    obtain ⟨hlt, hlen⟩ := hbounds hp
    obtain ⟨first, last, hfirst, hlast, hhead, hgetLast⟩ := exists_first_last hlt hlen
    refine ⟨hstart, hstop, first, last, hhead, hgetLast, fun t ht => ⟨?_, ?_⟩⟩
    · exact rel_of_mem_stretch horder hstart hfirst ht
    · exact rel_of_mem_stretch horder (Nat.le_sub_one_of_lt hstop) ht hlast
  · intro path e he ts hts t ht
    rw [hentry, Option.map_eq_some_iff] at he
    obtain ⟨p, -, rfl⟩ := he
    have hmem : t ∈ tokens := by
      rw [result_entry, Rule.resultOn] at hts
      split at hts
      · cases hts
      · cases hts; exact (stretch_isInfix tokens _ _).subset ht
    exact ⟨hmem, hstands t hmem⟩
  · intro path path' p q k hp hq hpk hqk
    exact hfits.isPrefix_of_claims (Nat.le_refl _) hp hq hpk hqk

namespace Grammar

/-- With honest matchers every text is parsed, and each entry, at any depth, comes from a window of
the tokens of the text. -/
theorem parse_provenance (g : Grammar) (hhonest : ∀ m ∈ g.matchers, m.Honest) (text : String) :
    ∃ tokens es, g.tokenize text = .ok tokens ∧ g.parse text = .ok es ∧
      Provenance text g.rules tokens es (Engine.placements g.rules tokens) := by
  obtain ⟨steps, hsteps, hend, hjoined⟩ := Lexer.exists_scanFrom hhonest 0 text.toList
  have hjoined : ScanStep.joined steps = text := String.toList_inj.1 hjoined
  have htokens : g.tokenize text = .ok (steps.filterMap ScanStep.token?) := by
    change (Lexer.scanFrom g.matchers 0 text.toList).map _ = _
    rw [hsteps]
    rfl
  refine ⟨_, _, htokens, by rw [parse, htokens]; rfl, provenance_parse g.rules ?_ ?_⟩
  · intro t ht
    rw [← hjoined]
    exact hend.token_standsAt ht
  · exact hend.tokens_pairwise

/-- Angles and words, with a rule for a block that looks inside of its window and one for a word
that keeps its tokens. -/
theorem parse_provenance_blocks : ∃ g : Grammar,
    g.tokens.map TokenMatcher.describe = [⟨"angle", "<|>"⟩, ⟨"word", "[a-z]+"⟩] ∧
    g.rules.map (fun r => (r.name, r.hasSubRules)) = [("block", true), ("word", false)] ∧
    (∀ m ∈ g.matchers, m.Honest) ∧
    ∃ tokens es, g.tokenize "<é<or>>" = .ok tokens ∧ g.parse "<é<or>>" = .ok es ∧
      Provenance "<é<or>>" g.rules tokens es (Engine.placements g.rules tokens) := by
  obtain ⟨angle, -, hkind, hpattern⟩ :=
    TokenMatcher.exists_define "angle" "<|>" (by decide) (by decide +kernel)
  obtain ⟨word, -, hkind', hpattern'⟩ :=
    TokenMatcher.exists_define "word" "[a-z]+" (by decide) (by decide +kernel)
  let g : Grammar := {
    tokens := [angle, word]
    rules := [
      { name := "block", recognizer := .predicate (isBlock "<" ">"), hasSubRules := true,
        name_ne_blank := by decide, not_emptySequence := rfl },
      { name := "word", recognizer := .sequence ["word"], name_ne_blank := by decide,
        not_emptySequence := rfl }] }
  have hhonest : ∀ m ∈ g.matchers, m.Honest := by
    intro m hm
    simp only [g, matchers, List.map_cons, List.map_nil, List.mem_cons, List.not_mem_nil,
      or_false] at hm
    rcases hm with rfl | rfl
    · exact TokenMatcher.isPrefix_of_find (by rw [hpattern]; decide +kernel)
    · exact TokenMatcher.isPrefix_of_find (by rw [hpattern']; decide +kernel)
  refine ⟨g, ?_, rfl, hhonest, parse_provenance g hhonest "<é<or>>"⟩
  simp [g, TokenMatcher.describe, hkind, hpattern, hkind', hpattern']

end Grammar

end GrammarKit
