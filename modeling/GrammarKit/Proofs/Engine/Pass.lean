import GrammarKit.Engine
import GrammarKit.Proofs.Rule.SmallestWindow

/-!
# The moves of a run

A run makes one of five moves: it ends with the tokens, begins a new pass, skips a token, passes
over a rule or lets a rule take its window. Each move has an equation here, which tells the run by
what the move leaves behind and by the rest of the run. The entries of the run have equations of
their own; none of them depends on what the run has noted as events or on how its places are
counted.
-/

namespace GrammarKit

namespace ParseRun

/-- One run and then another. -/
instance : Append ParseRun := ⟨fun r s => ⟨r.entries ++ s.entries, r.events ++ s.events⟩⟩

/-- The entries of one run come before those of the other. -/
theorem entries_append (r s : ParseRun) : (r ++ s).entries = r.entries ++ s.entries := rfl

/-- The events of one run come before those of the other. -/
theorem events_append (r s : ParseRun) : (r ++ s).events = r.events ++ s.events := rfl

end ParseRun

namespace Engine

variable {rules pending : List Rule} {matched : Bool} {place : Nat} {r : Rule} {t : Token}
  {ts : List Token} {found : RuleMatch}

/-- The run inside a window of a rule, if the rule asks for it and there is an inside. -/
def runInside (rules : List Rule) (r : Rule) (window : List Token) : Option ParseRun :=
  if r.hasSubRules then (interior window).map (run rules) else none

/-- The run of a rule that has been tried without a match: its calls. -/
def missRun (r : Rule) (tokens : List Token) : ParseRun :=
  ⟨[], (r.calls tokens).map .called⟩

/-- The run of a rule that has matched at a place: its calls, the match and what happens inside of
the window, and the entry that is made of this. -/
def matchRun (rules : List Rule) (r : Rule) (place : Nat) (tokens : List Token) (found : RuleMatch) :
    ParseRun :=
  let inside := runInside rules r (tokens.take found.length)
  ⟨[.mk r.name found.result (inside.map (·.entries))],
    (r.calls tokens).map .called ++ .matched r.name found.length place :: inside.elim [] (·.events)⟩

/-- Where calls are left out, nothing stays of calls alone. -/
theorem filter_map_called {p : ParseEvent → Bool} (hcalled : ∀ c, p (.called c) = false)
    (cs : List Call) : (cs.map ParseEvent.called).filter p = [] := by
  rw [List.filter_eq_nil_iff]
  intro e he
  obtain ⟨c, -, rfl⟩ := List.mem_map.1 he
  exact Bool.eq_false_iff.1 (hcalled c)

/-- Without tokens a run ends. -/
theorem runFrom_nil (rules pending : List Rule) (matched : Bool) (place : Nat) :
    runFrom rules pending matched place [] = .empty := by
  rw [runFrom]

/-- A pass in which a rule matched is followed by another at the same place. -/
theorem runFrom_again (rules : List Rule) (place : Nat) (t : Token) (ts : List Token) :
    runFrom rules [] true place (t :: ts) = runFrom rules rules false place (t :: ts) := by
  rw [runFrom, if_pos rfl]

/-- Behind a pass in which a rule matched the run goes on as at the beginning of one, whether tokens
remain or not. -/
theorem runFrom_over (rules : List Rule) (place : Nat) (tokens : List Token) :
    runFrom rules [] true place tokens = runFrom rules rules false place tokens := by
  cases tokens with
  | nil => rw [runFrom_nil, runFrom_nil]
  | cons t ts => rw [runFrom_again]

/-- A pass in which no rule matched is followed by another behind the next token. -/
theorem runFrom_skip (rules : List Rule) (place : Nat) (t : Token) (ts : List Token) :
    runFrom rules [] false place (t :: ts) =
      ⟨[], [.skipped place t]⟩ ++ runFrom rules rules false (place + 1) ts := by
  rw [runFrom, if_neg Bool.false_ne_true]
  rfl

/-- A rule that does not match is passed over. -/
theorem runFrom_pass (htest : r.test (t :: ts) = none) :
    runFrom rules (r :: pending) matched place (t :: ts) =
      missRun r (t :: ts) ++ runFrom rules pending matched place (t :: ts) := by
  rw [runFrom]
  split
  · rfl
  · next found hfound => rw [htest] at hfound; cases hfound

/-- A rule that matches takes its window and makes an entry of it. -/
theorem runFrom_take (htest : r.test (t :: ts) = some found) :
    runFrom rules (r :: pending) matched place (t :: ts) =
      matchRun rules r place (t :: ts) found ++
        runFrom rules pending true (place + found.length) ((t :: ts).drop found.length) := by
  rw [runFrom]
  split
  · next hnone => rw [htest] at hnone; cases hnone
  · next found' hfound =>
    cases htest.symm.trans hfound
    unfold matchRun runInside
    by_cases hsub : r.hasSubRules = true
    · simp only [hsub, if_true]
      cases interior ((t :: ts).take found.length) <;> rfl
    · simp only [hsub]
      rfl

/-- The entries inside a window of a rule: those of its inside, if the rule asks for them and there
is one. -/
def entriesInside (rules : List Rule) (r : Rule) (window : List Token) :
    Option (List ParseEntry) :=
  if r.hasSubRules then (interior window).map (parse rules) else none

/-- The entries of the run inside a window are those inside of it. -/
theorem map_entries_runInside (rules : List Rule) (r : Rule) (window : List Token) :
    (runInside rules r window).map (·.entries) = entriesInside rules r window := by
  unfold runInside entriesInside
  split
  · rw [Option.map_map]
    rfl
  · rfl

/-- The entry of a match has the name of its rule, the result on its window, and the entries inside
of it. -/
theorem entries_matchRun {tokens : List Token} (htest : r.test tokens = some found) :
    (matchRun rules r place tokens found).entries =
      [.mk r.name (r.resultOn (tokens.take found.length))
        (entriesInside rules r (tokens.take found.length))] := by
  rw [← (Rule.test_eq_some_iff.1 htest).2, ← map_entries_runInside]
  rfl

/-- Without tokens no entry is made. -/
theorem entries_runFrom_nil (rules pending : List Rule) (matched : Bool) (place : Nat) :
    (runFrom rules pending matched place []).entries = [] := by
  rw [runFrom_nil, ParseRun.empty]

/-- Another pass at the same place makes the same entries. -/
theorem entries_runFrom_again (rules : List Rule) (place : Nat) (t : Token) (ts : List Token) :
    (runFrom rules [] true place (t :: ts)).entries =
      (runFrom rules rules false place (t :: ts)).entries := by
  rw [runFrom_again]

/-- No entry is made of a token that is skipped. -/
theorem entries_runFrom_skip (rules : List Rule) (place : Nat) (t : Token) (ts : List Token) :
    (runFrom rules [] false place (t :: ts)).entries =
      (runFrom rules rules false (place + 1) ts).entries := by
  rw [runFrom_skip, ParseRun.entries_append, List.nil_append]

/-- No entry is made by a rule that does not match. -/
theorem entries_runFrom_pass (htest : r.test (t :: ts) = none) :
    (runFrom rules (r :: pending) matched place (t :: ts)).entries =
      (runFrom rules pending matched place (t :: ts)).entries := by
  rw [runFrom_pass htest, ParseRun.entries_append, missRun, List.nil_append]

/-- A rule that matches makes an entry of its window. -/
theorem entries_runFrom_take (htest : r.test (t :: ts) = some found) :
    (runFrom rules (r :: pending) matched place (t :: ts)).entries =
      .mk r.name (r.resultOn ((t :: ts).take found.length))
          (entriesInside rules r ((t :: ts).take found.length)) ::
        (runFrom rules pending true (place + found.length) ((t :: ts).drop found.length)).entries := by
  rw [runFrom_take htest, ParseRun.entries_append, entries_matchRun htest, List.singleton_append]

end Engine

end GrammarKit
