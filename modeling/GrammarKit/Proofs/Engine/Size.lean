import Mathlib.Algebra.Ring.Nat
import GrammarKit.Proofs.Engine.Nesting
import GrammarKit.Rule.Window

/-!
# The size of a parse

The inside of a window is parsed again, so a token can stand in many windows. Still there are no more
entries than tokens, at all depths together: an entry stands for the first token of its window, which
no other window at its level has and from which all those inside of it are kept away. The last token
is kept from them as well, so that each level down has two tokens fewer.

Both bounds hold of all matches that fit between two places of a list of tokens, where the number of
tokens is the distance of the places.
-/

namespace GrammarKit

namespace ParseEntry

/-- The number of entries in some trees is the sum of the numbers in each. -/
theorem forestSize_eq_sum (es : List ParseEntry) : forestSize es = (es.map subtreeSize).sum := by
  induction es with
  | nil => rfl
  | cons e es ih => rw [forestSize, ih, List.map_cons, List.sum_cons]

end ParseEntry

namespace Placement

variable {rules : List Rule} {tokens : List Token} {lo hi : Nat} {ps : List Placement}
  {p : Placement}

/-- The entry of a match counts itself and the entries of the matches inside. -/
theorem subtreeSize_entry (tokens : List Token) (p : Placement) :
    (p.entry tokens).subtreeSize = 1 + ParseEntry.forestSize (entries tokens p.children) := by
  rw [ParseEntry.subtreeSize_eq, children_entry, entries_eq_map]

/-- Matches that fit between two places make no more entries, at all depths together, than there are
tokens between the places. -/
theorem Fits.forestSize_entries_le (h : Fits rules tokens lo hi ps) (hhi : hi ≤ tokens.length) :
    ParseEntry.forestSize (entries tokens ps) ≤ hi - lo := by
  induction h with
  | nil => exact Nat.zero_le _
  | @cons lo hi start r found sub ps hrule hle htest hsub hrest ihsub ihrest =>
    have hpos := (Rule.test_bounds htest).1
    have hend := Engine.add_length_le_of_test hhi rfl htest
    have hbehind := ihrest hhi
    have hinside : ParseEntry.forestSize (entries tokens (sub.getD [])) ≤
        start + found.length - 1 - (start + 1) := by
      cases sub with
      | none => exact Nat.zero_le _
      | some inner => exact ihsub inner rfl (by omega)
    rw [entries, ParseEntry.forestSize, subtreeSize_entry]
    change 1 + ParseEntry.forestSize (entries tokens (sub.getD [])) + _ ≤ hi - lo
    omega

/-- Of matches that fit between two places, those at an address of some steps need room for two tokens
at each step but the last. -/
theorem Fits.two_mul_length_le {path : List Nat} (h : Fits rules tokens lo hi ps)
    (hhi : hi ≤ tokens.length) (hp : atAddress children ps path = some p) :
    2 * path.length ≤ hi - lo + 1 := by
  induction path generalizing ps lo hi with
  | nil => exact Nat.zero_le _
  | cons i path ih =>
    obtain ⟨root, hroot, hp⟩ := Option.bind_eq_some_iff.1 hp
    obtain ⟨hstart, hmatches⟩ := h.matchesUpTo hhi (List.mem_of_getElem? hroot)
    obtain ⟨hpos, hstop⟩ := hmatches.bounds hhi
    have hlength : root.stop = root.start + root.length := rfl
    rw [List.length_cons]
    cases path with
    | nil => rw [List.length_nil]; omega
    | cons j path =>
      have hbelow : 2 * (j :: path).length ≤ root.stop - 1 - (root.start + 1) + 1 :=
        ih hmatches.inside (by omega) hp
      -- Something is inside of the root, so its window has more than its first and last token.
      rw [List.length_cons] at hbelow ⊢
      omega

end Placement

namespace Engine

open Placement

/-- The entries of a parse, at all depths together, are no more than its tokens. No address of an entry
has more steps, of which an entry at the top has one, than half the tokens and one allow. -/
theorem parse_within_tokens (rules : List Rule) (tokens : List Token) :
    ((parse rules tokens).map ParseEntry.subtreeSize).sum ≤ tokens.length ∧
      ∀ path e, atAddress ParseEntry.children (parse rules tokens) path = some e →
        path.length ≤ (tokens.length + 1) / 2 := by
  have hfits := fits_placements rules tokens
  constructor
  · rw [← ParseEntry.forestSize_eq_sum, ← entries_placements]
    exact hfits.forestSize_entries_le (Nat.le_refl _)
  · intro path e he
    rw [← entries_placements, atAddress_entries] at he
    obtain ⟨p, hp, -⟩ := Option.map_eq_some_iff.1 he
    have hroom := hfits.two_mul_length_le (Nat.le_refl _) hp
    omega

/-- A word within two blocks: there are three entries, and none could be deeper than the word. -/
theorem parse_within_tokens_nested :
    let rules : List Rule := [
      { name := "block", recognizer := .predicate (isBlock "<" ">"), hasSubRules := true,
        name_ne_blank := by decide, not_emptySequence := rfl },
      { name := "word", recognizer := .sequence ["word"], name_ne_blank := by decide,
        not_emptySequence := rfl }]
    let tokens : List Token := [.ofEntry "angle" "<" ⟨0, 1⟩, .ofEntry "angle" "<" ⟨1, 2⟩,
      .ofEntry "word" "or" ⟨2, 4⟩, .ofEntry "angle" ">" ⟨4, 5⟩, .ofEntry "angle" ">" ⟨5, 6⟩]
    ((parse rules tokens).map ParseEntry.subtreeSize).sum ≤ tokens.length ∧
      ((parse rules tokens).map ParseEntry.subtreeSize).sum = 3 ∧
      ∃ e, atAddress ParseEntry.children (parse rules tokens) [0, 0, 0] = some e ∧
        e.rule = "word" ∧ [0, 0, 0].length ≤ (tokens.length + 1) / 2 := by
  intro rules tokens
  obtain ⟨hsize, hdepth⟩ := parse_within_tokens rules tokens
  have hword : (atAddress ParseEntry.children (parse rules tokens) [0, 0, 0]).map (·.rule) =
      some "word" := by cbv
  obtain ⟨e, he, hrule⟩ := Option.map_eq_some_iff.1 hword
  exact ⟨hsize, by cbv, e, he, hrule, hdepth _ e he⟩

end Engine

end GrammarKit
