import GrammarKit.Rule

/-!
# The smallest window

A rule takes the smallest window that its recognizer is for, among those of at least one token. A
test is asked about longer and longer windows until it answers yes. Of a sequence the window of its
own length is the only one that is tried, and its tokens are compared with the kinds in pairs; yet
this finds what the search through all lengths would find. It would not for a sequence of no kinds,
which is for the empty window: therefore no rule has one.

Whether a window is taken is decided by its tokens alone. What stands behind them does not matter,
so a match stays the same wherever its window is at the head of the tokens.
-/

namespace GrammarKit

namespace Recognizer

variable {r : Recognizer} {tokens tokens' : List Token} {n : Nat}

/-- The windows that a recognizer is for: a sequence is for those with as many tokens as it has kinds,
each of the kind at its place, and a test for those to which it answers yes. -/
inductive Recognizes : Recognizer → List Token → Prop
  | sequence {kinds : List String} {window : List Token} (hlength : window.length = kinds.length)
      (hkinds : ∀ i (hwindow : i < window.length) (hkind : i < kinds.length),
        window[i].kind = kinds[i]) : Recognizes (.sequence kinds) window
  | predicate {test : List Token → Bool} {window : List Token} (hyes : test window = true) :
      Recognizes (.predicate test) window

/-- A window is the smallest at the head of some tokens that a recognizer is for: it has at least one
token, and the recognizer is for none of the shorter ones that have. -/
structure IsSmallestWindow (r : Recognizer) (tokens : List Token) (n : Nat) : Prop where
  one_le : 1 ≤ n
  le_length : n ≤ tokens.length
  recognizes : r.Recognizes (tokens.take n)
  least : ∀ k, 1 ≤ k → k < n → ¬ r.Recognizes (tokens.take k)

/-- A recognizer accepts the windows that it is for. -/
theorem accepts_iff_recognizes {window : List Token} :
    r.accepts window = true ↔ r.Recognizes window := by
  constructor
  · intro h
    cases r with
    | sequence kinds =>
      have heq : window.map (·.kind) = kinds := beq_iff_eq.1 h
      subst heq
      exact .sequence (List.length_map _).symm fun i _ _ => (List.getElem_map _).symm
    | predicate test => exact .predicate h
  · intro h
    cases h with
    | sequence hlength hkinds =>
      refine beq_iff_eq.2 (List.ext_getElem ((List.length_map _).trans hlength) fun i hi hk => ?_)
      rw [List.getElem_map]
      exact hkinds i _ hk
    | predicate hyes => exact hyes

/-- A sequence is for windows of its own length only. -/
theorem Recognizes.length_eq {kinds : List String} {window : List Token}
    (h : (Recognizer.sequence kinds).Recognizes window) : window.length = kinds.length := by
  cases h with
  | sequence hlength => exact hlength

/-- The lengths that can be tried go from one to the number of tokens. -/
theorem windowLengths_eq (tokens : List Token) :
    windowLengths tokens = List.range' 1 tokens.length := by
  rw [windowLengths, List.range_eq_range', ← Nat.add_zero 1,
    ← List.map_add_range' (a := 1) 0 tokens.length 1]
  exact List.map_congr_left fun k _ => Nat.add_comm k 1

/-- The search through growing windows finds the smallest. -/
theorem find?_windowLengths_eq_some_iff :
    ((windowLengths tokens).find? fun k => r.accepts (tokens.take k)) = some n ↔
      r.IsSmallestWindow tokens n := by
  rw [windowLengths_eq, List.find?_range'_eq_some, List.mem_range'_1, accepts_iff_recognizes]
  have hrejects (k : Nat) : (!r.accepts (tokens.take k)) = true ↔ ¬ r.Recognizes (tokens.take k) := by
    rw [Bool.not_eq_true', ← Bool.not_eq_true, accepts_iff_recognizes]
  simp only [hrejects]
  constructor
  · rintro ⟨hrecognizes, hrange, hleast⟩
    exact ⟨hrange.1, by omega, hrecognizes, hleast⟩
  · rintro ⟨hone, hlength, hrecognizes, hleast⟩
    exact ⟨hrecognizes, ⟨hone, by omega⟩, hleast⟩

/-- The only window of a sequence that is tried is taken if the sequence is for it. -/
theorem smallestWindow?_sequence (kinds : List String) (tokens : List Token) :
    (Recognizer.sequence kinds).smallestWindow? tokens =
      if (Recognizer.sequence kinds).accepts (tokens.take kinds.length) then some kinds.length
      else none := by
  simp only [smallestWindow?, accepts, beq_iff_eq]

/-- If a sequence has kinds, the only window that is tried is the smallest that the sequence is for, if
there is one at all. -/
theorem smallestWindow?_sequence_eq_some_iff {kinds : List String}
    (hkinds : (Recognizer.sequence kinds).isEmptySequence = false) :
    (Recognizer.sequence kinds).smallestWindow? tokens = some n ↔
      (Recognizer.sequence kinds).IsSmallestWindow tokens n := by
  constructor
  · intro h
    obtain ⟨hone, hle⟩ := smallestWindow?_bounds hkinds h
    rw [smallestWindow?_sequence] at h
    split at h
    · next haccepts =>
      cases h
      refine ⟨hone, hle, accepts_iff_recognizes.1 haccepts, fun k _ hk hshorter => ?_⟩
      have hlength := hshorter.length_eq
      rw [List.length_take] at hlength
      omega
    · cases h
  · rintro ⟨-, hle, hrecognizes, -⟩
    have hlength := hrecognizes.length_eq
    rw [List.length_take, Nat.min_eq_left hle] at hlength
    subst hlength
    rw [smallestWindow?_sequence, if_pos (accepts_iff_recognizes.2 hrecognizes)]

/-- What is found is the smallest window, unless the recognizer is an empty sequence. -/
theorem smallestWindow?_eq_some_iff (hr : r.isEmptySequence = false) :
    r.smallestWindow? tokens = some n ↔ r.IsSmallestWindow tokens n := by
  cases r with
  | sequence kinds => exact smallestWindow?_sequence_eq_some_iff hr
  | predicate test => exact find?_windowLengths_eq_some_iff (r := .predicate test)

-- An empty sequence would find a window without tokens.
example : (Recognizer.sequence []).smallestWindow? [] = some 0 := rfl

/-- The tokens of the smallest window are enough to tell that it is the smallest. -/
theorem IsSmallestWindow.of_isPrefix (h : r.IsSmallestWindow tokens n)
    (hhead : tokens.take n <+: tokens') : r.IsSmallestWindow tokens' n := by
  obtain ⟨rest, rfl⟩ := hhead
  have hlength : (tokens.take n).length = n := by rw [List.length_take, Nat.min_eq_left h.le_length]
  have htake (k : Nat) (hk : k ≤ n) : (tokens.take n ++ rest).take k = tokens.take k := by
    rw [List.take_append_of_le_length (hlength.symm ▸ hk), List.take_take, Nat.min_eq_left hk]
  refine ⟨h.one_le, ?_, ?_, fun k hone hk => ?_⟩
  · rw [List.length_append, hlength]
    exact Nat.le_add_right n rest.length
  · rw [htake n (Nat.le_refl n)]
    exact h.recognizes
  · rw [htake k (Nat.le_of_lt hk)]
    exact h.least k hone hk

/-- Comparing tokens and kinds in pairs looks no further than the shorter of the two lists reaches; in
a window of the right length this is enough. -/
theorem all_zip_iff {window : List Token} {kinds : List String}
    (hlength : window.length = kinds.length) :
    ((window.zip kinds).all fun pair => pair.1.kind == pair.2) = true ↔
      window.map (·.kind) = kinds := by
  induction window generalizing kinds with
  | nil => simpa using hlength.symm
  | cons t ts ih =>
    cases kinds with
    | nil => cases hlength
    | cons k ks => simp [ih (Nat.succ.inj hlength)]

/-- The only window of a sequence that is tried is taken if there are enough tokens for it and they have
the kinds of the sequence, pair by pair. -/
theorem smallestWindow?_sequence_eq_zip (kinds : List String) (tokens : List Token) :
    (Recognizer.sequence kinds).smallestWindow? tokens =
      if kinds.length ≤ tokens.length ∧
        ((tokens.take kinds.length).zip kinds).all (fun pair => pair.1.kind == pair.2)
      then some kinds.length else none := by
  rw [smallestWindow?]
  by_cases hle : kinds.length ≤ tokens.length
  · have hwindow : (tokens.take kinds.length).length = kinds.length := by
      rw [List.length_take, Nat.min_eq_left hle]
    simp only [hle, true_and, all_zip_iff hwindow]
  · rw [if_neg (mt length_le_of_map_kind_take_eq hle), if_neg fun h => hle h.1]

end Recognizer

namespace Rule

/-- A match takes the smallest window that the recognizer accepts, and yields the result on it. -/
theorem test_eq_some_iff {r : Rule} {tokens : List Token} {found : RuleMatch} :
    r.test tokens = some found ↔ r.recognizer.smallestWindow? tokens = some found.length ∧
      found.result = r.resultOn (tokens.take found.length) := by
  rw [test, Option.map_eq_some_iff]
  constructor
  · rintro ⟨n, hn, rfl⟩
    exact ⟨hn, rfl⟩
  · rintro ⟨hn, hresult⟩
    exact ⟨found.length, hn, by rw [← hresult]⟩

/-- The window of a match is as long as the match says. -/
theorem length_take_of_test {r : Rule} {tokens : List Token} {found : RuleMatch}
    (h : r.test tokens = some found) : (tokens.take found.length).length = found.length := by
  rw [List.length_take, Nat.min_eq_left (test_bounds h).2]

/-- A rule matches wherever the window of a match is at the head of the tokens, in the same way. -/
theorem test_of_isPrefix {r : Rule} {tokens tokens' : List Token} {found : RuleMatch}
    (h : r.test tokens = some found) (hhead : tokens.take found.length <+: tokens') :
    r.test tokens' = some found := by
  obtain ⟨hlength, hresult⟩ := test_eq_some_iff.1 h
  have hwindow := List.prefix_iff_eq_take.1 hhead
  rw [length_take_of_test h] at hwindow
  rw [hwindow] at hresult
  rw [Recognizer.smallestWindow?_eq_some_iff r.not_emptySequence] at hlength
  exact test_eq_some_iff.2 ⟨(Recognizer.smallestWindow?_eq_some_iff r.not_emptySequence).2
    (hlength.of_isPrefix hhead), hresult⟩

/-- A rule that is defined has the recognizer that it is defined with, which is no empty sequence. -/
theorem isEmptySequence_of_define {name : String} {m : Recognizer} {made : Rule}
    (h : define name m = .ok made) : made.recognizer = m ∧ m.isEmptySequence = false := by
  unfold define at h
  split at h
  · split at h
    · next hm => cases h; exact ⟨rfl, hm⟩
    · cases h
  · cases h

/-- A recognizer with which a rule can be defined finds the smallest window at the head of some tokens
that it is for: the same as the search through the windows of all lengths. Of a sequence one window
is tried, in which tokens and kinds are compared in pairs. A rule with this recognizer that matches
has the same match, with the same result, on all tokens that begin with its window. -/
theorem smallestWindow?_of_define {name : String} {m : Recognizer} {made : Rule}
    (hmade : define name m = .ok made) (tokens : List Token) :
    (∀ n, m.smallestWindow? tokens = some n ↔ m.IsSmallestWindow tokens n) ∧
      (∀ window, m.accepts window = true ↔ m.Recognizes window) ∧
      m.smallestWindow? tokens =
        (List.range' 1 tokens.length).find? (fun n => m.accepts (tokens.take n)) ∧
      (∀ kinds, m = .sequence kinds → m.smallestWindow? tokens =
        if kinds.length ≤ tokens.length ∧
          ((tokens.take kinds.length).zip kinds).all (fun pair => pair.1.kind == pair.2)
        then some kinds.length else none) ∧
      ∀ r : Rule, r.recognizer = m → ∀ found, r.test tokens = some found →
        ∀ tokens', tokens.take found.length <+: tokens' → r.test tokens' = some found := by
  have hm := (isEmptySequence_of_define hmade).2
  refine ⟨fun n => Recognizer.smallestWindow?_eq_some_iff hm, fun window =>
    Recognizer.accepts_iff_recognizes, ?_, ?_, fun r _ found h tokens' => test_of_isPrefix h⟩
  · refine Option.ext fun n => ?_
    rw [Recognizer.smallestWindow?_eq_some_iff hm, ← Recognizer.windowLengths_eq,
      Recognizer.find?_windowLengths_eq_some_iff]
  · rintro kinds rfl
    exact Recognizer.smallestWindow?_sequence_eq_zip kinds tokens

/-- A pair of kinds at the head of three tokens, and at the head of the first two with another one
behind them. -/
theorem smallestWindow?_of_define_pair :
    let m : Recognizer := .sequence ["a", "b"]
    let tokens : List Token := [.ofEntry "a" "1" ⟨0, 1⟩, .ofEntry "b" "2" ⟨1, 2⟩,
      .ofEntry "a" "3" ⟨2, 3⟩]
    let tokens' : List Token := tokens.take 2 ++ [.ofEntry "c" "4" ⟨2, 3⟩]
    ∃ made, define "pair" m = .ok made ∧ m.IsSmallestWindow tokens 2 ∧
      (List.range' 1 3).find? (fun n => m.accepts (tokens.take n)) = some 2 ∧
      (made.withTransform fun window => .nat window.length).test tokens =
        some ⟨2, .value (.nat 2)⟩ ∧
      (made.withTransform fun window => .nat window.length).test tokens' =
        some ⟨2, .value (.nat 2)⟩ := by
  intro m tokens tokens'
  have hmade : define "pair" m = .ok ⟨"pair", m, none, false, by decide, rfl⟩ := rfl
  obtain ⟨hsmallest, -, hsearch, -, hhead⟩ := smallestWindow?_of_define hmade tokens
  have htest : (Rule.withTransform ⟨"pair", m, none, false, by decide, rfl⟩ fun window =>
      .nat window.length).test tokens = some ⟨2, .value (.nat 2)⟩ := rfl
  exact ⟨_, hmade, (hsmallest 2).1 rfl, hsearch.symm, htest,
    hhead _ rfl _ htest tokens' (List.prefix_append (tokens.take 2) _)⟩

end Rule

end GrammarKit
