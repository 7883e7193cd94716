import GrammarKit.Entry
import GrammarKit.Error
import GrammarKit.Text.Blank

/-!
# Rules

A rule recognises a window at the head of a list of tokens, by the kinds of its tokens in order or by a
test on the window. The smallest window that is accepted counts, and it is never empty. A rule may
have a transform, which makes a value of the window, and may ask for the inside of its window to be
parsed again.
-/

namespace GrammarKit

/-- How a rule recognises its window. -/
inductive Recognizer where
  /-- By the kinds of the tokens, one by one. -/
  | sequence (kinds : List String)
  /-- By a test of the window. -/
  | predicate (accepts : List Token → Bool)

namespace Recognizer

/-- The lengths of windows that can be tried on some tokens, the smallest first. -/
def windowLengths (tokens : List Token) : List Nat :=
  (List.range tokens.length).map (· + 1)

/-- Whether a window is accepted. -/
def accepts (window : List Token) : Recognizer → Bool
  | .sequence kinds => window.map (·.kind) == kinds
  | .predicate p => p window

/-- The length of the smallest window at the head of some tokens that is accepted. Of a sequence only
the window of its own length is tried. -/
def smallestWindow? (tokens : List Token) : Recognizer → Option Nat
  | .sequence kinds =>
    if (tokens.take kinds.length).map (·.kind) = kinds then some kinds.length else none
  | .predicate p => (windowLengths tokens).find? fun n => p (tokens.take n)

/-- A sequence of no kinds would accept the empty window. -/
def isEmptySequence : Recognizer → Bool
  | .sequence kinds => kinds.isEmpty
  | .predicate _ => false

/-- The lengths that can be tried are those of at least one token and at most all of them. -/
theorem mem_windowLengths {tokens : List Token} {n : Nat} :
    n ∈ windowLengths tokens ↔ 0 < n ∧ n ≤ tokens.length := by
  rw [windowLengths, List.mem_map]
  constructor
  · rintro ⟨k, hk, rfl⟩
    exact ⟨Nat.succ_pos k, List.mem_range.1 hk⟩
  · rintro ⟨hpos, hle⟩
    exact ⟨n - 1, List.mem_range.2 (by omega), Nat.sub_add_cancel hpos⟩

/-- Tokens with the kinds of a sequence at their head are no fewer than the kinds. -/
theorem length_le_of_map_kind_take_eq {tokens : List Token} {kinds : List String}
    (h : (tokens.take kinds.length).map (·.kind) = kinds) : kinds.length ≤ tokens.length := by
  have hlength := congrArg List.length h
  rw [List.length_map, List.length_take] at hlength
  omega

/-- Only a window of at least one token and at most all of them is found. -/
theorem smallestWindow?_bounds {tokens : List Token} {r : Recognizer} {n : Nat}
    (hr : r.isEmptySequence = false) (h : r.smallestWindow? tokens = some n) :
    0 < n ∧ n ≤ tokens.length := by
  cases r with
  | sequence kinds =>
    have hne : kinds ≠ [] := by
      rintro rfl
      cases hr
    rw [smallestWindow?] at h
    split at h
    · next heq =>
      cases h
      exact ⟨List.length_pos_iff.2 hne, length_le_of_map_kind_take_eq heq⟩
    · cases h
  | predicate p => exact mem_windowLengths.1 (List.mem_of_find?_eq_some h)

end Recognizer

/-- A call of the test or of the transform of a rule, on a window. -/
inductive Call where
  /-- The test of a rule, and its answer. -/
  | predicate (rule : String) (window : List Token) (answer : Bool)
  /-- The transform of a rule. -/
  | transform (rule : String) (window : List Token)
  deriving Repr, DecidableEq

/-- What a rule makes of the tokens: the length of its window, and its result. -/
structure RuleMatch where
  length : Nat
  result : RuleResult

/-- A rule with a name. Neither is the name blank nor the sequence empty. -/
structure Rule where
  name : String
  recognizer : Recognizer
  transform : Option (List Token → Json) := none
  /-- Whether the inside of the window is parsed again. -/
  hasSubRules : Bool := false
  name_ne_blank : Text.isBlank name = false
  not_emptySequence : recognizer.isEmptySequence = false

namespace Rule

/-- Defines a rule. The name is looked at before the sequence. -/
def define (name : String) (recognizer : Recognizer) : Except DefinitionError Rule :=
  if hname : Text.isBlank name = false then
    if hseq : recognizer.isEmptySequence = false then
      .ok { name, recognizer, name_ne_blank := hname, not_emptySequence := hseq }
    else .error (.emptySequence name)
  else .error .emptyName

/-- The rule with a transform. -/
def withTransform (r : Rule) (f : List Token → Json) : Rule := { r with transform := some f }

/-- The rule with the inside of its window parsed again, or not. -/
def acceptsSubRules (r : Rule) (enabled : Bool) : Rule := { r with hasSubRules := enabled }

/-- The rule with the inside of its window parsed again. -/
def withSubRules (r : Rule) : Rule := r.acceptsSubRules true

/-- What the rule yields on a window. -/
def resultOn (r : Rule) (window : List Token) : RuleResult :=
  match r.transform with
  | some f => .value (f window)
  | none => .tokens window

/-- The match of the rule at the head of some tokens. -/
def test (r : Rule) (tokens : List Token) : Option RuleMatch :=
  (r.recognizer.smallestWindow? tokens).map fun n => ⟨n, r.resultOn (tokens.take n)⟩

/-- The calls of the test of a rule while its window is looked for: on each length up to the first
that is accepted. -/
def predicateCalls (name : String) (accepts : List Token → Bool) (tokens : List Token) :
    List Nat → List Call
  | [] => []
  | n :: ns =>
    let window := tokens.take n
    if accepts window then [.predicate name window true]
    else .predicate name window false :: predicateCalls name accepts tokens ns

/-- All calls that a test of the rule makes, in order. -/
def calls (r : Rule) (tokens : List Token) : List Call :=
  let tests := match r.recognizer with
    | .sequence _ => []
    | .predicate p => predicateCalls r.name p tokens (Recognizer.windowLengths tokens)
  let transforms := match r.recognizer.smallestWindow? tokens, r.transform with
    | some n, some _ => [.transform r.name (tokens.take n)]
    | _, _ => []
  tests ++ transforms

/-- The recognizer of the rule on one line. -/
def recognizerText : Recognizer → String
  | .sequence kinds => "Sequence(" ++ Text.quoteList kinds ++ ")"
  | .predicate _ => "Predicate(..)"

/-- The rule on one line. -/
def display (r : Rule) : String :=
  "Rule \x7b name: " ++ Text.quote r.name ++ ", matcher: " ++ recognizerText r.recognizer ++
    ", transform: " ++ (if r.transform.isSome then "true" else "false") ++
    ", sub_rules: " ++ (if r.hasSubRules then "true" else "false") ++ " \x7d"

/-- A match takes at least one token, and no more than there are. -/
theorem test_bounds {r : Rule} {tokens : List Token} {m : RuleMatch}
    (h : r.test tokens = some m) : 0 < m.length ∧ m.length ≤ tokens.length := by
  obtain ⟨n, hn, rfl⟩ := Option.map_eq_some_iff.1 h
  exact Recognizer.smallestWindow?_bounds r.not_emptySequence hn

end Rule

end GrammarKit
