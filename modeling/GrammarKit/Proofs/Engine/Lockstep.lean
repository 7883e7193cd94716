import Mathlib.Data.List.Forall2
import GrammarKit.Proofs.Block.Parsing
import GrammarKit.Proofs.Engine.Nesting

/-!
# Rules that recognize alike

What a rule takes is decided by its recognizer alone. Two lists of rules with the same recognizers
in the same order go through the tokens in step: they try, match and skip at the same places, and
the matches at one place have the same window. What is made of the windows has no part in this, and
whether the inside of a window is parsed again changes nothing outside of it.

So other transforms leave the whole tree of names and windows as it is, and other wishes for the
inside leave the entries at the top as they are.
-/

namespace GrammarKit

namespace Rule

/-- Two rules have the same name and recognize the same windows. -/
structure Alike (r r' : Rule) : Prop where
  name_eq : r.name = r'.name
  recognizer_eq : r.recognizer = r'.recognizer

/-- The rule without its transform. -/
def plain (r : Rule) : Rule := { r with transform := none }

/-- Alike rules with the same wish for the inside of windows are the same but for the transform. -/
theorem Alike.plain_eq {r r' : Rule} (h : r.Alike r') (hsub : r.hasSubRules = r'.hasSubRules) :
    r.plain = r'.plain := by
  obtain ⟨name, recognizer, transform, hasSubRules, _, _⟩ := r
  obtain ⟨name', recognizer', transform', hasSubRules', _, _⟩ := r'
  obtain ⟨hname, hrecognizer⟩ := h
  cases hname
  cases hrecognizer
  cases hsub
  rfl

/-- The length of a match is found by the recognizer. -/
theorem map_length_test (r : Rule) (tokens : List Token) :
    (r.test tokens).map (·.length) = r.recognizer.smallestWindow? tokens := by
  rw [test, Option.map_map]
  exact congrFun Option.map_id _

/-- Alike rules match the same windows. -/
theorem Alike.map_length_test_eq {r r' : Rule} (h : r.Alike r') (tokens : List Token) :
    (r.test tokens).map (·.length) = (r'.test tokens).map (·.length) := by
  rw [map_length_test, map_length_test, h.recognizer_eq]

end Rule

namespace Placement

/-- The name of the rule of a match, and its window. -/
def site (p : Placement) : String × Nat × Nat := (p.rule.name, p.start, p.length)

mutual

/-- The match as it is without the transforms of the rules. -/
def plain : Placement → Placement
  | .mk rule start length none => .mk rule.plain start length none
  | .mk rule start length (some ps) => .mk rule.plain start length (some (plains ps))

/-- The matches as they are without the transforms of the rules. -/
def plains : List Placement → List Placement
  | [] => []
  | p :: ps => p.plain :: plains ps

end

/-- Without the transforms a match has the rule without its own, the same window and the same matches
inside but for theirs. -/
theorem plain_mk (r : Rule) (start length : Nat) (sub : Option (List Placement)) :
    plain (.mk r start length sub) = .mk r.plain start length (sub.map plains) := by
  cases sub <;> rfl

theorem plains_eq_map (ps : List Placement) : plains ps = ps.map plain := by
  induction ps with
  | nil => rfl
  | cons p ps ih => rw [plains, ih, List.map_cons]

end Placement

namespace ParseEntry

mutual

/-- The entry without what the transforms made. -/
def withoutResult : ParseEntry → ParseEntry
  | .mk rule _ none => .mk rule (.tokens []) none
  | .mk rule _ (some es) => .mk rule (.tokens []) (some (withoutResults es))

/-- The entries without what the transforms made. -/
def withoutResults : List ParseEntry → List ParseEntry
  | [] => []
  | e :: es => e.withoutResult :: withoutResults es

end

end ParseEntry

namespace Placement

mutual

/-- Without the transforms a match makes the same entry but for the results. -/
theorem withoutResult_entry_plain (tokens : List Token) :
    ∀ p : Placement, (p.plain.entry tokens).withoutResult = (p.entry tokens).withoutResult
  | .mk rule start length none => rfl
  | .mk rule start length (some ps) => by
    rw [plain, entry, entry, ParseEntry.withoutResult, ParseEntry.withoutResult,
      withoutResults_entries_plains tokens ps]
    rfl

/-- Without the transforms matches make the same entries but for the results. -/
theorem withoutResults_entries_plains (tokens : List Token) :
    ∀ ps : List Placement, ParseEntry.withoutResults (entries tokens (plains ps)) =
      ParseEntry.withoutResults (entries tokens ps)
  | [] => rfl
  | p :: ps => by
    rw [plains, entries, entries, ParseEntry.withoutResults, ParseEntry.withoutResults,
      withoutResult_entry_plain tokens p, withoutResults_entries_plains tokens ps]

end

end Placement

/-- Lists that agree in the images of their elements have the same image. -/
theorem map_eq_map_iff_forall₂ {α β γ : Type} {f : α → γ} {g : β → γ} {as : List α} {bs : List β} :
    as.map f = bs.map g ↔ List.Forall₂ (fun a b => f a = g b) as bs := by
  rw [← List.forall₂_eq_eq_eq, List.forall₂_map_left_iff, List.forall₂_map_right_iff]

namespace Engine

open Placement

variable {rules rules' pending pending' : List Rule}

/-- Rules that recognize alike go through the tokens in step: what holds of a match and the one at
the same place, if it holds inside of them, holds of all matches. -/
theorem forall₂_placementsFrom {R : Rule → Rule → Prop} {P : Placement → Placement → Prop}
    (halike : ∀ r r', R r r' → r.Alike r')
    (hmatch : ∀ r r' start length window, R r r' →
      (∀ inner, interior window = some inner →
        List.Forall₂ P (placementsFrom rules rules false (start + 1) inner)
          (placementsFrom rules' rules' false (start + 1) inner)) →
      P (.mk r start length (placementsInside rules r start window))
        (.mk r' start length (placementsInside rules' r' start window)))
    (hrules : List.Forall₂ R rules rules') (hpending : List.Forall₂ R pending pending')
    (matched : Bool) (place : Nat) (tokens : List Token) :
    List.Forall₂ P (placementsFrom rules pending matched place tokens)
      (placementsFrom rules' pending' matched place tokens) := by
  induction pending, matched, place, tokens using placementsFrom.induct rules
    generalizing pending' with
  | case1 pending matched place =>
    rw [placementsFrom_nil, placementsFrom_nil]
    exact .nil
  | case2 place t ts ih =>
    cases hpending
    rw [placementsFrom_again, placementsFrom_again]
    exact ih hrules
  | case3 matched place t ts hmatched ih =>
    cases hpending
    cases matched with
    | true => exact absurd rfl hmatched
    | false =>
      rw [placementsFrom_skip, placementsFrom_skip]
      exact ih hrules
  | case4 matched place t ts r rs htest ih =>
    cases hpending with
    | @cons _ r' _ rs' hr hrest =>
      have hsame := (halike r r' hr).map_length_test_eq (t :: ts)
      rw [htest, Option.map_none] at hsame
      have htest' : r'.test (t :: ts) = none := Option.map_eq_none_iff.1 hsame.symm
      rw [placementsFrom_pass htest, placementsFrom_pass htest']
      exact ih hrest
  | case5 matched place t ts r rs found htest _ window hshorter ihinner =>
    rename_i ih
    cases hpending with
    | @cons _ r' _ rs' hr hrest =>
      have hsame := (halike r r' hr).map_length_test_eq (t :: ts)
      rw [htest, Option.map_some] at hsame
      obtain ⟨found', htest', hlength⟩ := Option.map_eq_some_iff.1 hsame.symm
      rw [placementsFrom_take htest, placementsFrom_take htest', hlength]
      exact .cons (hmatch r r' place found.length window hr fun inner hinner =>
        ihinner inner hinner hrules) (ih hrest)

/-- The matches of a parse by rules that recognize alike are in step. -/
theorem forall₂_placements {R : Rule → Rule → Prop} {P : Placement → Placement → Prop}
    (halike : ∀ r r', R r r' → r.Alike r')
    (hmatch : ∀ r r' start length window, R r r' →
      (∀ inner, interior window = some inner →
        List.Forall₂ P (placementsFrom rules rules false (start + 1) inner)
          (placementsFrom rules' rules' false (start + 1) inner)) →
      P (.mk r start length (placementsInside rules r start window))
        (.mk r' start length (placementsInside rules' r' start window)))
    (hrules : List.Forall₂ R rules rules') (tokens : List Token) :
    List.Forall₂ P (placements rules tokens) (placements rules' tokens) :=
  forall₂_placementsFrom halike hmatch hrules hrules false 0 tokens

/-- The names and the windows at the top are the same, whatever is made of the windows and whatever
is asked for inside of them. -/
theorem map_site_placements (h : List.Forall₂ Rule.Alike rules rules') (tokens : List Token) :
    (placements rules tokens).map site = (placements rules' tokens).map site := by
  refine map_eq_map_iff_forall₂.2 (forall₂_placements (fun _ _ => id) ?_ h tokens)
  intro r r' start length window hr _
  rw [site, site, rule, rule, hr.name_eq]
  rfl

/-- Where the same insides are asked for, the matches are the same at every depth but for the
transforms. -/
theorem plains_placements
    (h : List.Forall₂ (fun r r' => r.Alike r' ∧ r.hasSubRules = r'.hasSubRules) rules rules')
    (tokens : List Token) :
    plains (placements rules tokens) = plains (placements rules' tokens) := by
  rw [plains_eq_map, plains_eq_map]
  refine map_eq_map_iff_forall₂.2 (forall₂_placements (fun _ _ hr => hr.1) ?_ h tokens)
  rintro r r' start length window ⟨hr, hsub⟩ hinner
  have hinside : (placementsInside rules r start window).map plains =
      (placementsInside rules' r' start window).map plains := by
    unfold placementsInside
    rw [hsub]
    split
    · rw [Option.map_map, Option.map_map]
      refine Option.map_congr fun inner hinterior => ?_
      rw [Function.comp_apply, Function.comp_apply, plains_eq_map, plains_eq_map]
      exact map_eq_map_iff_forall₂.2 (hinner inner hinterior)
    · rfl
  rw [plain_mk, plain_mk, hr.plain_eq hsub, hinside]

/-- Where the transforms are the same, so are the results at the top. -/
theorem map_result_parse
    (h : List.Forall₂ (fun r r' => r.Alike r' ∧ r.transform = r'.transform) rules rules')
    (tokens : List Token) :
    (parse rules tokens).map (fun e => (e.rule, e.result)) =
      (parse rules' tokens).map (fun e => (e.rule, e.result)) := by
  rw [← entries_placements, ← entries_placements, entries_eq_map, entries_eq_map, List.map_map,
    List.map_map]
  refine map_eq_map_iff_forall₂.2 (forall₂_placements (fun _ _ hr => hr.1) ?_ h tokens)
  rintro r r' start length window ⟨hr, htransform⟩ _
  have hresult (w : List Token) : r.resultOn w = r'.resultOn w := by
    rw [Rule.resultOn, Rule.resultOn, htransform]
  rw [Function.comp_apply, Function.comp_apply, entry_mk, entry_mk, hresult, hr.name_eq]
  rfl

/-- Two lists of rules that have the same names and recognize the same windows, rule by rule, match
the same windows at the top. If they ask for the same insides, their matches have the same names and
windows at every depth and their entries differ only in the results. If they have the same
transforms, their entries at the top differ only in what is found inside. -/
theorem parse_of_alike (h : List.Forall₂ Rule.Alike rules rules') (tokens : List Token) :
    Recorded rules tokens (placements rules tokens) ∧
      Recorded rules' tokens (placements rules' tokens) ∧
      (placements rules tokens).map site = (placements rules' tokens).map site ∧
      (rules.map (·.hasSubRules) = rules'.map (·.hasSubRules) →
        plains (placements rules tokens) = plains (placements rules' tokens) ∧
          ParseEntry.withoutResults (parse rules tokens) =
            ParseEntry.withoutResults (parse rules' tokens)) ∧
      (rules.map (·.transform) = rules'.map (·.transform) →
        (parse rules tokens).map (fun e => (e.rule, e.result)) =
          (parse rules' tokens).map (fun e => (e.rule, e.result))) := by
  refine ⟨recorded_placements rules tokens, recorded_placements rules' tokens,
    map_site_placements h tokens, fun hsub => ?_, fun htransform => ?_⟩
  · have hboth := List.Forall₂.mp (fun _ _ => And.intro) h (map_eq_map_iff_forall₂.1 hsub)
    have hplains := plains_placements hboth tokens
    refine ⟨hplains, ?_⟩
    rw [← entries_placements, ← entries_placements, ← withoutResults_entries_plains, hplains,
      withoutResults_entries_plains]
  · have hboth := List.Forall₂.mp (fun _ _ => And.intro) h (map_eq_map_iff_forall₂.1 htransform)
    exact map_result_parse hboth tokens

/-- The rules for nested blocks, with others that make other values of the windows, and with others
that do not look inside of a block. -/
theorem parse_of_alike_blocks :
    let rules := blockRules (fun _ => .object []) (fun window => .nat window.length)
    let others := blockRules (fun window => .nat window.length) (fun _ => .null)
    let shallow := [(blockRule fun _ => .object []).acceptsSubRules false,
      textRule fun window => .nat window.length]
    let tokens : List Token := [.ofEntry "block" "\x7b" ⟨0, 1⟩, .ofEntry "text" "a" ⟨1, 2⟩,
      .ofEntry "block" "\x7d" ⟨2, 3⟩]
    (List.Forall₂ Rule.Alike rules others ∧
      rules.map (·.hasSubRules) = others.map (·.hasSubRules) ∧
      plains (placements rules tokens) = plains (placements others tokens) ∧
      ParseEntry.withoutResults (parse rules tokens) =
        ParseEntry.withoutResults (parse others tokens)) ∧
    (List.Forall₂ Rule.Alike rules shallow ∧
      rules.map (·.transform) = shallow.map (·.transform) ∧
      (placements rules tokens).map site = (placements shallow tokens).map site ∧
      (parse rules tokens).map (fun e => (e.rule, e.result)) =
        (parse shallow tokens).map (fun e => (e.rule, e.result))) := by
  intro rules others shallow tokens
  have hothers : List.Forall₂ Rule.Alike rules others := .cons ⟨rfl, rfl⟩ (.cons ⟨rfl, rfl⟩ .nil)
  have hshallow : List.Forall₂ Rule.Alike rules shallow := .cons ⟨rfl, rfl⟩ (.cons ⟨rfl, rfl⟩ .nil)
  obtain ⟨-, -, -, hplains, -⟩ := parse_of_alike hothers tokens
  obtain ⟨-, -, hsite, -, hresult⟩ := parse_of_alike hshallow tokens
  exact ⟨⟨hothers, rfl, hplains rfl⟩, hshallow, rfl, hsite, hresult rfl⟩

end Engine

end GrammarKit
