import GrammarKit.CommandLine.Outcome
import GrammarKit.Proofs.Description.Stored
import GrammarKit.Proofs.Grammar.Loading

/-!
# Checking agrees with loading

The check of a description goes over its tokens with the kinds that it has seen, those of tokens at
fault included, and goes on behind a fault. Loading compares with the tokens that it has registered,
and ends at the first fault. Both are compared here with the description itself: a token is reported
for the fault that it has, and for an earlier token with its kind. So nothing is reported exactly if
loading neither fails nor passes anything over.
-/

namespace GrammarKit

namespace GrammarDescription

/-- What is wrong with the token at a place among some tokens: the fault that it has, if it has one,
and then that an earlier token has its kind, if one does. -/
def problemsAt (ts : List TokenDescription) (i : Nat) : List GrammarError :=
  ts[i]?.toList.flatMap fun t =>
    t.fault?.toList.map .definition ++
      if (ts.take i).any (·.kind == t.kind) then [.duplicate (.token t.kind)] else []

variable {before : List TokenDescription} {kinds : List String}

/-- The first token is compared with those before it, and the others with it as well. -/
theorem problemsAfter_cons (hkinds : ∀ k, k ∈ kinds ↔ before.any (·.kind == k) = true)
    (t : TokenDescription) (ts : List TokenDescription) :
    problemsAfter kinds (t :: ts) = t.fault?.toList.map .definition ++
      (if before.any (·.kind == t.kind) then [.duplicate (.token t.kind)] else []) ++
      problemsAfter (t.kind :: kinds) ts := by
  simp only [problemsAfter, hkinds, TokenDescription.fault?]
  cases TokenMatcher.ofDescription t <;> rfl

/-- The kinds that have been seen are those of the tokens that have come. -/
theorem mem_kinds_concat (hkinds : ∀ k, k ∈ kinds ↔ before.any (·.kind == k) = true)
    (t : TokenDescription) (k : String) :
    k ∈ t.kind :: kinds ↔ (before ++ [t]).any (·.kind == k) = true := by
  rw [List.mem_cons, hkinds, List.any_append, List.any_cons, List.any_nil, Bool.or_false,
    Bool.or_eq_true, beq_iff_eq, or_comm, @eq_comm _ k]

/-- What is wrong with some tokens is wrong with one of them, in their order. -/
theorem problemsAfter_eq_flatMap (hkinds : ∀ k, k ∈ kinds ↔ before.any (·.kind == k) = true)
    (ts : List TokenDescription) :
    problemsAfter kinds ts =
      (List.range ts.length).flatMap fun i => problemsAt (before ++ ts) (before.length + i) := by
  induction ts generalizing before kinds with
  | nil => rfl
  | cons t ts ih =>
    have hfirst : problemsAt (before ++ t :: ts) before.length = t.fault?.toList.map .definition ++
        if before.any (·.kind == t.kind) then [.duplicate (.token t.kind)] else [] := by
      simp [problemsAt]
    have hrest (i : Nat) : problemsAt (before ++ t :: ts) (before.length + (i + 1)) =
        problemsAt (before ++ [t] ++ ts) ((before ++ [t]).length + i) := by
      rw [List.append_assoc, List.singleton_append, List.length_append, List.length_singleton,
        Nat.add_assoc, Nat.add_comm i 1]
    rw [problemsAfter_cons hkinds, ih (mem_kinds_concat hkinds t), List.length_cons,
      List.range_succ_eq_map, List.flatMap_cons, List.flatMap_map]
    simp only [Nat.add_zero, Nat.succ_eq_add_one, hfirst, hrest]

/-- There are as many problems as tokens at fault and tokens with a repeated kind. -/
theorem length_problemsAfter (hkinds : ∀ k, k ∈ kinds ↔ before.any (·.kind == k) = true)
    (ts : List TokenDescription) :
    (problemsAfter kinds ts).length =
      ts.countP (·.Faulty) + (latecomers (·.kind) before ts).length := by
  induction ts generalizing before kinds with
  | nil => rfl
  | cons t ts ih =>
    have hfault : t.fault?.toList.length = if t.Faulty then 1 else 0 := by
      simp only [← TokenDescription.isSome_fault?_iff]
      cases t.fault? <;> rfl
    rw [problemsAfter_cons hkinds, List.length_append, List.length_append,
      ih (mem_kinds_concat hkinds t), List.length_map, hfault, List.countP_cons, latecomers_eq,
      latecomers_eq, offersThat_cons, List.length_append]
    cases before.any (·.kind == t.kind) <;> simp <;> omega

/-- Before the first token no kind has been seen. -/
theorem mem_kinds_nil (k : String) :
    k ∈ [] ↔ ([] : List TokenDescription).any (·.kind == k) = true := by
  simp

/-- Nothing is wrong with a description exactly if it is loaded whole. -/
theorem problems_eq_nil_iff (d : GrammarDescription) :
    d.problems = [] ↔ ∃ g, Grammar.ofDescription d = .ok g ∧ g.describe = d := by
  have hlength := length_problemsAfter mem_kinds_nil d.tokens
  have hwhole : d.problems = [] ↔
      (∀ t ∈ d.tokens, ¬ t.Faulty) ∧ newcomers (·.kind) [] d.tokens = d.tokens := by
    rw [newcomers_eq_self_iff, ← List.length_eq_zero_iff, problems, hlength, Nat.add_eq_zero_iff,
      List.countP_eq_zero, List.length_eq_zero_iff]
    simp only [decide_eq_true_eq]
  rw [hwhole]
  constructor
  · rintro ⟨hsound, hnew⟩
    obtain ⟨g, hg, hdescribe⟩ := Grammar.exists_ofDescription hsound
    exact ⟨g, hg, by rw [hdescribe, hnew]⟩
  · rintro ⟨g, hg, hdescribe⟩
    obtain ⟨hsound, hfirst⟩ := Grammar.describe_of_ofDescription hg
    exact ⟨hsound, congrArg GrammarDescription.tokens (hfirst.symm.trans hdescribe)⟩

end GrammarDescription

namespace Command

/-- The check of a file that holds a description reports, token by token, the fault of each token at
fault and the repetition of each kind that has come before; there are as many errors as such tokens
and such repetitions. It ends well exactly if there are none, and there are none exactly if the
description is loaded as a grammar with that description. -/
theorem outcome_check {s : Surroundings} {path : String} {d : GrammarDescription}
    (hfile : (GrammarFile.ofPath path).decode (s.file path) = .ok d) (mode : OutputMode) :
    ∃ errors : List String,
      errors = ((List.range d.tokens.length).flatMap
        (GrammarDescription.problemsAt d.tokens)).map GrammarError.message ∧
      errors.length = d.tokens.countP (·.Faulty) + (latecomers (·.kind) [] d.tokens).length ∧
      (errors = [] ↔ ∃ g, Grammar.ofDescription d = .ok g ∧ g.describe = d) ∧
      ((Command.check path).outcome s mode).output =
        CheckReport.render mode ⟨decide (errors = []), d.name, d.tokens, errors⟩ ∧
      ((Command.check path).outcome s mode).ending =
        (if errors = [] then .success
        else .failure ⟨"grammar '" ++ d.name ++ "' has " ++ toString errors.length ++ " problem(s)",
          none⟩) ∧
      (((Command.check path).outcome s mode).ending.exitCode = 0 ↔ errors = []) := by
  have hproblems : d.problems =
      (List.range d.tokens.length).flatMap (GrammarDescription.problemsAt d.tokens) := by
    rw [GrammarDescription.problems,
      GrammarDescription.problemsAfter_eq_flatMap GrammarDescription.mem_kinds_nil]
    simp only [List.nil_append, List.length_nil, Nat.zero_add]
  have houtcome : (Command.check path).outcome s mode = checkFile s mode path := rfl
  have hvalid : (d.problems.map GrammarError.message).isEmpty =
      decide (d.problems.map GrammarError.message = []) := by
    cases d.problems.map GrammarError.message <;> rfl
  rw [houtcome, ← hproblems]
  simp only [checkFile, withDescription, hfile, CheckReport.ofDescription, hvalid]
  refine ⟨_, rfl, ?_, ?_, rfl, ?_, ?_⟩
  · rw [List.length_map, GrammarDescription.problems,
      GrammarDescription.length_problemsAfter GrammarDescription.mem_kinds_nil]
  · rw [List.map_eq_nil_iff, GrammarDescription.problems_eq_nil_iff]
  · simp only [decide_eq_true_eq]
    rfl
  · simp only [decide_eq_true_eq]
    split
    · next hnone => exact iff_of_true rfl hnone
    · next hsome => exact iff_of_false Nat.one_ne_zero hsome

/-- A token that is at fault and repeats a kind is reported twice, and a fault hides no other. -/
theorem outcome_check_broken : ∃ (s : Surroundings) (d : GrammarDescription),
    d = ⟨"g", [⟨"a", "a"⟩, ⟨"a", "("⟩, ⟨" ", "b"⟩, ⟨"a", "c"⟩]⟩ ∧
    (GrammarFile.ofPath "g.json").decode (s.file "g.json") = .ok d ∧
    ∃ errors : List String,
      errors = ["invalid pattern for token `a`: <source>", "token `a` already registered",
        "definition name must not be empty", "token `a` already registered"] ∧
      ((Command.check "g.json").outcome s .json).output =
        CheckReport.render .json ⟨false, d.name, d.tokens, errors⟩ ∧
      ((Command.check "g.json").outcome s .json).ending =
        .failure ⟨"grammar 'g' has 4 problem(s)", none⟩ := by
  let d : GrammarDescription := ⟨"g", [⟨"a", "a"⟩, ⟨"a", "("⟩, ⟨" ", "b"⟩, ⟨"a", "c"⟩]⟩
  let s : Surroundings := ⟨fun _ => .ok (DescriptionFormat.json.write d).toUTF8, .empty⟩
  have hfile : (GrammarFile.ofPath "g.json").decode (s.file "g.json") = .ok d :=
    (GrammarFile.ofPath "g.json").decode_write d
  obtain ⟨errors, herrors, -, -, houtput, hending, -⟩ := outcome_check hfile .json
  have hlist : errors = ["invalid pattern for token `a`: <source>",
      "token `a` already registered", "definition name must not be empty",
      "token `a` already registered"] := by
    rw [herrors]
    decide +kernel
  subst hlist
  exact ⟨s, d, rfl, hfile, _, rfl, houtput, hending⟩

end Command

end GrammarKit
