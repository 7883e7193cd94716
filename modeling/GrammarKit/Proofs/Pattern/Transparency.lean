import GrammarKit.Proofs.Pattern.Numbering
import GrammarKit.Proofs.Pattern.Wrapping

/-!
# What a token matcher adds to its pattern

A token matcher adds the condition on the start of the text to its pattern, and nothing else. Where
the pattern is well written by itself, the token matcher finds what the pattern matches at the start
of the text, with the same captures under the same numbers, whatever flags and branches the pattern
has.

The captures that are handed out end with the highest live one. A group that captures may stand in a
part that is repeated no time at all; such a part is dropped from the regular expression, and the
groups in it never take part. They are handed out as empty only where a live one comes behind them.
-/

namespace GrammarKit

open Pattern

/-- A piece of a text that shows a match of a pattern at the start of the text: the text that is
taken and what the groups of the pattern hold. -/
structure PrefixMatch.Shows (piece : PrefixMatch) (tree : Tree) (text : List Char)
    (found : Match) : Prop where
  /-- The piece is what the match takes. -/
  text_eq : piece.text.toList = text.take found.stop
  /-- The captures end with the highest one that is live. -/
  length_captures : piece.captures.length = tree.liveCaptures.foldr max 0 + 1
  /-- The whole match comes first. -/
  whole : piece.captures[0]? = some (some piece.text)
  /-- Every group holds what it holds in the match, and nothing where it took no part. -/
  captured : ∀ i, 0 < i → piece.captures[i]?.join =
    (found.capture? i).map fun (start, stop) => slice text.toArray start stop

namespace Pattern

/-- What a match of an expression hands out as captures, up to a number beyond which the expression
has none: each group with what it holds. -/
theorem join_getElem?_texts {r : Regex} {text : Array Char} {start : Nat} {found : Match}
    (h : r.matchAt text start = some found) {i : Nat} (hi : 0 < i) :
    (found.texts text r.lastCapture)[i]?.join =
      (found.capture? i).map fun (start, stop) => slice text start stop := by
  obtain ⟨j, rfl⟩ := Nat.exists_eq_add_of_lt hi
  rw [Nat.zero_add, Match.texts, List.getElem?_cons_succ, List.getElem?_map]
  by_cases hj : j < r.lastCapture
  · rw [List.getElem?_range hj]
    rfl
  · have hnone : found.capture? (j + 1) = none := Regex.capture?_eq_none h (by omega)
    rw [List.getElem?_eq_none (by simpa using hj), hnone]
    rfl

end Pattern

namespace TokenMatcher

/-- A token matcher finds what its pattern by itself matches at the start of the text. -/
theorem find_shows_match (m : TokenMatcher) {own : Regex}
    (hown : compile m.pattern.toList = .ok own) (text : List Char) :
    ∃ tree, Tree.ofPattern m.pattern.toList = .ok tree ∧ own = tree.toRegex ∧
      tree.captures = List.range' 1 tree.captures.length ∧
      ((m.find text).isSome ↔ (own.matchAt text.toArray 0).isSome) ∧
      ∀ found, own.matchAt text.toArray 0 = some found →
        ∃ piece, m.find text = some piece ∧ piece.Shows tree text found ∧
          (tree.liveCaptures = tree.captures →
            piece.captures.length = tree.captures.length + 1) := by
  obtain ⟨tree, htree, rfl⟩ := exists_tree_of_compile hown
  have hnumbers := captures_ofPattern htree
  have hfind := find_of_regex_eq (eq_concat_of_compile hown m.compile_eq) text
  refine ⟨tree, htree, rfl, hnumbers, by rw [hfind, Option.isSome_map], fun found hfound => ?_⟩
  rw [hfound, Option.map_some] at hfind
  have hlength : (found.texts text.toArray tree.toRegex.lastCapture).length =
      tree.liveCaptures.foldr max 0 + 1 := by
    rw [Match.texts, List.length_cons, List.length_map, List.length_range, tree.lastCapture_toRegex]
  refine ⟨_, hfind, ⟨?_, hlength, ?_, fun i hi => join_getElem?_texts hfound hi⟩, fun hlive => ?_⟩
  · simp [slice, List.extract]
  · rw [Match.texts, Regex.start_of_matchAt hfound]
    rfl
  · rw [hlength, hlive, hnumbers, Tree.foldr_max_range', List.length_range']

/-- A pattern with a flag, branches, and a group that takes no part. -/
theorem find_shows_match_branches : ∃ m own, define "k" "(?U)(a)?b|c" = .ok m ∧
    compile m.pattern.toList = .ok own ∧ own.matchAt #['b', 'x'] 0 = some ⟨0, 1, []⟩ ∧
    ∃ tree piece, Tree.ofPattern m.pattern.toList = .ok tree ∧ m.find ['b', 'x'] = some piece ∧
      piece.Shows tree ['b', 'x'] ⟨0, 1, []⟩ ∧ piece.text = "b" := by
  obtain ⟨m, hm, -, hpattern⟩ := exists_define "k" "(?U)(a)?b|c" (by decide) (by decide +kernel)
  let own : Regex := .alt
    (.concat .empty (.concat
      (.repeated 0 (some 1) false (.capture 1 (.chars (.singleton 'a'))))
      (.chars (.singleton 'b'))))
    (.chars (.singleton 'c'))
  have hown : compile m.pattern.toList = .ok own := by
    rw [hpattern]
    exact eq_ok_of_toOption (by decide +kernel)
  have hmatch : own.matchAt #['b', 'x'] 0 = some ⟨0, 1, []⟩ := by
    simp [own, Regex.matchAt, Regex.ways, Regex.rounds, Regex.upTo, Regex.forks, Way.choose,
      Way.fork, Way.orElse, Way.done, Unicode.CharSet.contains_singleton]
  obtain ⟨tree, htree, -, -, -, hfound⟩ := find_shows_match m hown ['b', 'x']
  obtain ⟨piece, hpiece, hshows, -⟩ := hfound _ hmatch
  refine ⟨m, _, hm, hown, hmatch, tree, piece, htree, hpiece, hshows, ?_⟩
  rw [← String.toList_inj, hshows.text_eq]
  simp

/-- A group in a part that is repeated no time at all is not handed out behind the last live one. -/
theorem length_captures_of_dropped : ∃ m own tree piece, define "k" "(a)\x7b0\x7db" = .ok m ∧
    compile m.pattern.toList = .ok own ∧ Tree.ofPattern m.pattern.toList = .ok tree ∧
    own.matchAt #['b'] 0 = some ⟨0, 1, []⟩ ∧ m.find ['b'] = some piece ∧
    tree.captures = [1] ∧ piece.captures = [some "b"] ∧
    piece.captures.length ≠ tree.captures.length + 1 := by
  let own : Regex := .concat .empty (.chars (.singleton 'b'))
  have hown : compile "(a)\x7b0\x7db".toList = .ok own :=
    eq_ok_of_toOption (by decide +kernel)
  have hcompile : compile (anchored "(a)\x7b0\x7db".toList) =
      .ok (.concat (.look .textStart) own) :=
    eq_ok_of_toOption (by decide +kernel)
  have hcaptures : (Tree.ofPattern "(a)\x7b0\x7db".toList).toOption.map Tree.captures =
      some [1] := by
    decide +kernel
  obtain ⟨tree, htree, hone⟩ := Option.map_eq_some_iff.1 hcaptures
  have hmatch : own.matchAt #['b'] 0 = some ⟨0, 1, []⟩ := by
    decide +kernel
  let m : TokenMatcher := ⟨"k", "(a)\x7b0\x7db", _, by decide, hcompile⟩
  have hfind : m.find ['b'] = some ⟨"b", [some "b"]⟩ := by
    rw [find_of_regex_eq (m := m) rfl, hmatch]
    rfl
  refine ⟨m, own, tree, _, ofDescription_describe m, hown, eq_ok_of_toOption htree, hmatch, hfind,
    hone, rfl, ?_⟩
  rw [hone]
  decide

end TokenMatcher

end GrammarKit
