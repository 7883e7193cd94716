import GrammarKit.Proofs.Engine.Pass

/-!
# Repeated rules

A pass is described here on its own: what it does with the rules that it has still to try, and where
it ends. Whether a token is skipped behind it depends only on whether it made an entry. A pass over
two lists of rules, one behind the other, is a pass over the first and then one over the second.

So rules that are repeated some times are tried as in that many passes in a row. The first of these
makes no entry only if none of them does, and then the token is skipped that is skipped behind the
first alone; otherwise the passes that follow are those that come anyway. Nothing is changed but the
calls: the entries, the matches and the skipped tokens are the same, inside of every window too.
-/

namespace GrammarKit

/-- Whether a rule matched or a token was skipped. -/
def ParseEvent.isMove : ParseEvent → Bool
  | .called _ => false
  | .matched .. => true
  | .skipped .. => true

namespace ParseRun

/-- The run without the calls that were made in it. -/
def moves (r : ParseRun) : ParseRun := ⟨r.entries, r.events.filter ParseEvent.isMove⟩

/-- Leaving the calls out goes through a cut of the run. -/
theorem moves_append (r s : ParseRun) : (r ++ s).moves = r.moves ++ s.moves := by
  rw [moves, events_append, List.filter_append]
  rfl

theorem append_assoc (r s u : ParseRun) : r ++ s ++ u = r ++ (s ++ u) := by
  change mk (r.entries ++ s.entries ++ u.entries) (r.events ++ s.events ++ u.events) = _
  rw [List.append_assoc, List.append_assoc]
  rfl

theorem empty_append (r : ParseRun) : .empty ++ r = r := rfl

/-- The log of a run does not tell of its calls. -/
theorem filterMap_record?_moves (r : ParseRun) :
    r.moves.events.filterMap ParseEvent.record? = r.events.filterMap ParseEvent.record? := by
  rw [moves, List.filterMap_filter]
  congr 1
  funext e
  cases e <;> rfl

end ParseRun

namespace Engine

/-- A pass: its run, the place where it ends, and the tokens that are left there. -/
structure Pass where
  run : ParseRun
  place : Nat
  rest : List Token

namespace Pass

/-- The pass with a run before it. -/
def after (r : ParseRun) (p : Pass) : Pass := { p with run := r ++ p.run }

/-- The pass without the calls that were made in it. -/
def moves (p : Pass) : Pass := { p with run := p.run.moves }

/-- Whether no entry was made in the pass. -/
def isIdle (p : Pass) : Bool := p.run.entries.isEmpty

theorem after_append (r s : ParseRun) (p : Pass) : p.after (r ++ s) = (p.after s).after r :=
  congrArg (Pass.mk · p.place p.rest) (ParseRun.append_assoc r s p.run)

theorem moves_after (r : ParseRun) (p : Pass) : (p.after r).moves = p.moves.after r.moves :=
  congrArg (Pass.mk · p.place p.rest) (ParseRun.moves_append r p.run)

/-- Passes with the same moves end at the same place, and an entry is made in both or in none. -/
theorem eq_of_moves_eq {p q : Pass} (h : p.moves = q.moves) :
    p.run.moves = q.run.moves ∧ p.place = q.place ∧ p.rest = q.rest ∧ p.isIdle = q.isIdle := by
  obtain ⟨hrun, hplace, hrest⟩ := Pass.mk.inj h
  have hentries : p.run.entries = q.run.entries := (ParseRun.mk.inj hrun).1
  exact ⟨hrun, hplace, hrest, congrArg List.isEmpty hentries⟩

/-- No entry is made in a pass without moves. -/
theorem isIdle_of_moves_eq_empty {p : Pass} (h : p.run.moves = .empty) : p.isIdle :=
  List.isEmpty_iff.2 (ParseRun.mk.inj h).1

end Pass

/-- The pass that tries some rules from a place on. -/
def passFrom (rules : List Rule) : List Rule → Nat → List Token → Pass
  | [], place, tokens => ⟨.empty, place, tokens⟩
  | r :: pending, place, tokens =>
    match r.test tokens with
    | none => (passFrom rules pending place tokens).after (missRun r tokens)
    | some found =>
      (passFrom rules pending (place + found.length) (tokens.drop found.length)).after
        (matchRun rules r place tokens found)

variable {rules pending : List Rule} {matched : Bool} {place : Nat} {r : Rule} {tokens : List Token}
  {found : RuleMatch}

theorem passFrom_miss (htest : r.test tokens = none) :
    passFrom rules (r :: pending) place tokens =
      (passFrom rules pending place tokens).after (missRun r tokens) := by
  rw [passFrom, htest]

theorem passFrom_match (htest : r.test tokens = some found) :
    passFrom rules (r :: pending) place tokens =
      (passFrom rules pending (place + found.length) (tokens.drop found.length)).after
        (matchRun rules r place tokens found) := by
  rw [passFrom, htest]

/-- Without tokens a pass does nothing. -/
theorem passFrom_nil (rules pending : List Rule) (place : Nat) :
    passFrom rules pending place [] = ⟨.empty, place, []⟩ := by
  induction pending with
  | nil => rfl
  | cons r pending ih =>
    have htest : r.test [] = none := by
      rw [Option.eq_none_iff_forall_ne_some]
      intro found hfound
      have hbounds := Rule.test_bounds hfound
      rw [List.length_nil] at hbounds
      omega
    have hcalls : r.calls [] = [] := by
      have hwindow := Option.map_eq_none_iff.1 htest
      rw [Rule.calls, hwindow]
      cases r.recognizer <;> rfl
    rw [passFrom_miss htest, ih, Pass.after, missRun, hcalls]
    rfl

/-- A run is a pass and what follows it: another at the same place if an entry was made in this one
or before, and otherwise one behind the next token. -/
theorem runFrom_eq_passFrom (rules pending : List Rule) (matched : Bool) (place : Nat)
    (tokens : List Token) :
    runFrom rules pending matched place tokens =
      (passFrom rules pending place tokens).run ++
        runFrom rules [] (matched || !(passFrom rules pending place tokens).isIdle)
          (passFrom rules pending place tokens).place (passFrom rules pending place tokens).rest := by
  induction pending generalizing matched place tokens with
  | nil =>
    change _ = runFrom rules [] (matched || false) place tokens
    rw [Bool.or_false]
  | cons r pending ih =>
    cases tokens with
    | nil => rw [passFrom_nil, runFrom_nil, runFrom_nil]; rfl
    | cons t ts =>
      cases htest : r.test (t :: ts) with
      | none =>
        rw [runFrom_pass htest, passFrom_miss htest, ih]
        exact (ParseRun.append_assoc ..).symm
      | some found =>
        rw [runFrom_take htest, passFrom_match htest, ih, Bool.true_or]
        change _ = _ ++ runFrom rules [] (matched || true) _ _
        rw [Bool.or_true]
        exact (ParseRun.append_assoc ..).symm

/-- A pass over two lists of rules is one over the first and then one over the second. -/
theorem passFrom_append (rules front back : List Rule) (place : Nat) (tokens : List Token) :
    passFrom rules (front ++ back) place tokens =
      (passFrom rules back (passFrom rules front place tokens).place
        (passFrom rules front place tokens).rest).after (passFrom rules front place tokens).run := by
  induction front generalizing place tokens with
  | nil => rfl
  | cons r front ih =>
    rw [List.cons_append]
    cases htest : r.test tokens with
    | none =>
      rw [passFrom_miss htest, passFrom_miss htest, ih]
      exact (Pass.after_append ..).symm
    | some found =>
      rw [passFrom_match htest, passFrom_match htest, ih]
      exact (Pass.after_append ..).symm

/-- A pass leaves no more tokens than there were. -/
theorem length_rest_passFrom_le (rules pending : List Rule) (place : Nat) (tokens : List Token) :
    (passFrom rules pending place tokens).rest.length ≤ tokens.length := by
  induction pending generalizing place tokens with
  | nil => exact Nat.le_refl _
  | cons r pending ih =>
    cases htest : r.test tokens with
    | none => rw [passFrom_miss htest]; exact ih place tokens
    | some found =>
      rw [passFrom_match htest]
      refine Nat.le_trans (ih _ _) ?_
      rw [List.length_drop]
      exact Nat.sub_le _ _

/-- A pass in which an entry is made leaves fewer tokens. -/
theorem length_rest_passFrom_lt (h : (passFrom rules pending place tokens).isIdle = false) :
    (passFrom rules pending place tokens).rest.length < tokens.length := by
  induction pending generalizing place tokens with
  | nil => cases h
  | cons r pending ih =>
    cases htest : r.test tokens with
    | none => rw [passFrom_miss htest] at h ⊢; exact ih h
    | some found =>
      rw [passFrom_match htest]
      refine Nat.lt_of_le_of_lt (length_rest_passFrom_le ..) ?_
      have hbounds := Rule.test_bounds htest
      rw [List.length_drop]
      omega

/-- The run of a rule without a match is calls alone. -/
theorem moves_missRun (r : Rule) (tokens : List Token) : (missRun r tokens).moves = .empty := by
  rw [missRun, ParseRun.moves, filter_map_called fun _ => rfl]
  rfl

/-- The moves of a match are the match and the moves inside of its window. -/
theorem moves_matchRun (rules : List Rule) (r : Rule) (place : Nat) (tokens : List Token)
    (found : RuleMatch) :
    (matchRun rules r place tokens found).moves =
      let inside := (runInside rules r (tokens.take found.length)).map ParseRun.moves
      ⟨[.mk r.name found.result (inside.map (·.entries))],
        .matched r.name found.length place :: inside.elim [] (·.events)⟩ := by
  rw [matchRun, ParseRun.moves, List.filter_append, filter_map_called fun _ => rfl, List.nil_append,
    List.filter_cons_of_pos rfl]
  cases runInside rules r (tokens.take found.length) <;> rfl

/-- A pass in which no entry is made leaves the place and the tokens as they are. -/
theorem passFrom_of_isIdle (h : (passFrom rules pending place tokens).isIdle) :
    (passFrom rules pending place tokens).run.moves = .empty ∧
      (passFrom rules pending place tokens).place = place ∧
      (passFrom rules pending place tokens).rest = tokens := by
  induction pending generalizing place tokens with
  | nil => exact ⟨rfl, rfl, rfl⟩
  | cons r pending ih =>
    cases htest : r.test tokens with
    | none =>
      rw [passFrom_miss htest] at h ⊢
      obtain ⟨hrun, hplace, hrest⟩ := ih h
      exact ⟨by rw [Pass.after, ParseRun.moves_append, moves_missRun, hrun]; rfl, hplace, hrest⟩
    | some found => rw [passFrom_match htest] at h; cases h

/-- A pass makes the same moves with other rules, if these make the same moves of all that can be
inside of a window. -/
theorem moves_passFrom_congr {rules' : List Rule} (pending : List Rule) (place : Nat)
    (h : ∀ inner : List Token, inner.length < tokens.length →
      (run rules inner).moves = (run rules' inner).moves) :
    (passFrom rules pending place tokens).moves = (passFrom rules' pending place tokens).moves := by
  induction pending generalizing place tokens with
  | nil => rfl
  | cons r pending ih =>
    cases htest : r.test tokens with
    | none => rw [passFrom_miss htest, passFrom_miss htest, Pass.moves_after, Pass.moves_after, ih place h]
    | some found =>
      have hbounds := Rule.test_bounds htest
      have hinside : (runInside rules r (tokens.take found.length)).map ParseRun.moves =
          (runInside rules' r (tokens.take found.length)).map ParseRun.moves := by
        unfold runInside
        split
        · rw [Option.map_map, Option.map_map]
          refine Option.map_congr fun inner hinner => h inner ?_
          have hlen := length_of_interior hinner
          rw [Rule.length_take_of_test htest] at hlen
          omega
        · rfl
      have hrest : (passFrom rules pending (place + found.length) (tokens.drop found.length)).moves =
          (passFrom rules' pending (place + found.length) (tokens.drop found.length)).moves := by
        refine ih _ fun inner hlt => h inner ?_
        rw [List.length_drop] at hlt
        omega
      rw [passFrom_match htest, passFrom_match htest, Pass.moves_after, Pass.moves_after,
        moves_matchRun, moves_matchRun, hinside, hrest]

/-- Some passes in a row, without a token skipped between them. -/
def passes (rules : List Rule) : Nat → Nat → List Token → Pass
  | 0, place, tokens => ⟨.empty, place, tokens⟩
  | k + 1, place, tokens =>
    (passes rules k (passFrom rules rules place tokens).place
      (passFrom rules rules place tokens).rest).after (passFrom rules rules place tokens).run

/-- A pass over repeated rules is that many passes in a row. -/
theorem passFrom_replicate (rules : List Rule) (k place : Nat) (tokens : List Token) :
    passFrom rules (List.replicate k rules).flatten place tokens = passes rules k place tokens := by
  induction k generalizing place tokens with
  | zero => rfl
  | succ k ih => rw [List.replicate_succ, List.flatten_cons, passFrom_append, ih, passes]

/-- If no entry is made in the first of some passes, none is made in any. -/
theorem passes_of_isIdle (h : (passFrom rules rules place tokens).isIdle) (k : Nat) :
    (passes rules k place tokens).run.moves = .empty ∧
      (passes rules k place tokens).place = place ∧ (passes rules k place tokens).rest = tokens := by
  obtain ⟨hrun, hplace, hrest⟩ := passFrom_of_isIdle h
  induction k with
  | zero => exact ⟨rfl, rfl, rfl⟩
  | succ k ih =>
    rw [passes, hplace, hrest, Pass.after, ParseRun.moves_append, hrun, ih.1]
    exact ⟨rfl, ih.2⟩

/-- If an entry is made in the first of some passes, one is made in all of them together. -/
theorem isIdle_passes_succ (h : (passFrom rules rules place tokens).isIdle = false) (k : Nat) :
    (passes rules (k + 1) place tokens).isIdle = false := by
  have hne := List.isEmpty_eq_false_iff.1 h
  rw [passes, Pass.isIdle, Pass.after, ParseRun.entries_append, List.isEmpty_eq_false_iff]
  exact List.append_ne_nil_of_left_ne_nil hne _

/-- A run makes the moves of a pass first, whether it skips a token behind it or not. -/
theorem moves_runFrom_eq_passFrom (rules : List Rule) (place : Nat) (tokens : List Token) :
    (runFrom rules rules false place tokens).moves =
      (passFrom rules rules place tokens).run.moves ++
        (runFrom rules rules false (passFrom rules rules place tokens).place
          (passFrom rules rules place tokens).rest).moves := by
  cases hidle : (passFrom rules rules place tokens).isIdle with
  | true =>
    obtain ⟨hrun, hplace, hrest⟩ := passFrom_of_isIdle hidle
    rw [hrun, hplace, hrest, ParseRun.empty_append]
  | false =>
    rw [runFrom_eq_passFrom, hidle, Bool.not_false, Bool.or_true, runFrom_over,
      ParseRun.moves_append]

/-- A run makes the moves of any number of passes in a row first. -/
theorem moves_runFrom_eq_passes (rules : List Rule) (k place : Nat) (tokens : List Token) :
    (runFrom rules rules false place tokens).moves =
      (passes rules k place tokens).run.moves ++
        (runFrom rules rules false (passes rules k place tokens).place
          (passes rules k place tokens).rest).moves := by
  induction k generalizing place tokens with
  | zero => rfl
  | succ k ih =>
    rw [moves_runFrom_eq_passFrom, ih, ← ParseRun.append_assoc, ← ParseRun.moves_append]
    rfl

/-- If no entry is made in a pass, the run goes on behind the next token. -/
theorem moves_runFrom_of_isIdle (h : (passFrom rules rules place tokens).isIdle) :
    (runFrom rules rules false place tokens).moves = (runFrom rules [] false place tokens).moves := by
  obtain ⟨hrun, hplace, hrest⟩ := passFrom_of_isIdle h
  rw [runFrom_eq_passFrom, ParseRun.moves_append, h, hrun, hplace, hrest]
  rfl

/-- Repeated rules make the moves of the rules. -/
theorem moves_runFrom_replicate {repeated : List Rule} {k : Nat}
    (hrepeated : repeated = (List.replicate (k + 1) rules).flatten) (place : Nat)
    (tokens : List Token) :
    (runFrom repeated repeated false place tokens).moves =
      (runFrom rules rules false place tokens).moves := by
  induction hlen : tokens.length using Nat.strongRecOn generalizing place tokens with
  | ind n ih =>
    subst hlen
    have hpass : (passFrom repeated repeated place tokens).moves =
        (passes rules (k + 1) place tokens).moves := by
      rw [moves_passFrom_congr repeated place fun inner hlt => ih inner.length hlt 0 inner rfl,
        hrepeated, passFrom_replicate]
    obtain ⟨hrun, hplace, hrest, hsame⟩ := Pass.eq_of_moves_eq hpass
    cases hidle : (passFrom rules rules place tokens).isIdle with
    | true =>
      -- No entry is made in any pass, and both runs skip the same token.
      have hnone : (passFrom repeated repeated place tokens).isIdle :=
        hsame.trans (Pass.isIdle_of_moves_eq_empty (passes_of_isIdle hidle (k + 1)).1)
      rw [moves_runFrom_of_isIdle hnone, moves_runFrom_of_isIdle hidle]
      cases tokens with
      | nil => rw [runFrom_nil, runFrom_nil]
      | cons t ts =>
        rw [runFrom_skip, runFrom_skip, ParseRun.moves_append, ParseRun.moves_append,
          ih ts.length (Nat.lt_succ_self _) (place + 1) ts rfl]
    | false =>
      have hmade := hsame.trans (isIdle_passes_succ hidle k)
      have hlt := length_rest_passFrom_lt hmade
      rw [moves_runFrom_eq_passFrom repeated, ih _ hlt _ _ rfl, hrun, hplace, hrest,
        ← moves_runFrom_eq_passes]

/-- Rules that are repeated, all of them in order and any number of times, make the entries that they
make once, and match and skip at the same places, inside of every window too. A pass over the
repeated rules makes the moves of that many passes in a row. -/
theorem moves_run_replicate (rules : List Rule) (k : Nat) (tokens : List Token) :
    parse (List.replicate (k + 1) rules).flatten tokens = parse rules tokens ∧
      (run (List.replicate (k + 1) rules).flatten tokens).moves = (run rules tokens).moves ∧
      log (List.replicate (k + 1) rules).flatten tokens = log rules tokens ∧
      ∀ place ts, (passFrom (List.replicate (k + 1) rules).flatten
          (List.replicate (k + 1) rules).flatten place ts).moves =
        (passes rules (k + 1) place ts).moves := by
  have hmoves : ∀ ts, (run (List.replicate (k + 1) rules).flatten ts).moves = (run rules ts).moves :=
    fun ts => moves_runFrom_replicate rfl 0 ts
  refine ⟨(ParseRun.mk.inj (hmoves tokens)).1, hmoves tokens, ?_, fun place ts => ?_⟩
  · rw [log, log, ← ParseRun.filterMap_record?_moves, hmoves, ParseRun.filterMap_record?_moves]
  · rw [moves_passFrom_congr _ place fun inner _ => hmoves inner, passFrom_replicate]

end Engine

end GrammarKit
