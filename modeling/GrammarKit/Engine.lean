import GrammarKit.Log
import GrammarKit.Rule

/-!
# The rule engine

Tokens are folded into entries in passes. A pass tries every rule once, in order, each at the place
that the rules before it have reached; a rule that matches takes its window, and the next one goes on
behind it. A pass in which no rule matched skips one token. The inside of a window, without its first
and last token, is parsed in the same way where the rule asks for it.

A run keeps the events beside the entries: the calls of tests and transforms, the matches and the
skipped tokens, in the order in which they happened.
-/

namespace GrammarKit

/-- Something that happened while tokens were parsed. Places count the tokens of the list at hand. -/
inductive ParseEvent where
  /-- A test or a transform was called. -/
  | called (c : Call)
  /-- A rule matched some tokens at a place. -/
  | matched (rule : String) (length place : Nat)
  /-- No rule matched at a place, and the token there was skipped. -/
  | skipped (place : Nat) (t : Token)
  deriving Repr, DecidableEq

namespace ParseEvent

/-- The call of an event, if it is one. -/
def call? : ParseEvent → Option Call
  | .called c => some c
  | _ => none

/-- What an event leaves in the log. -/
def record? : ParseEvent → Option LogRecord
  | .called _ => none
  | .matched rule length place => some (.engine .debug ("rule `" ++ rule ++ "` matched " ++
      toString length ++ " token(s) at " ++ toString place))
  | .skipped place t => some (.engine .trace ("no rule matches at token " ++ toString place ++
      ", skipping " ++ t.display))

end ParseEvent

/-- The entries of a run, and what happened in it. -/
structure ParseRun where
  entries : List ParseEntry
  events : List ParseEvent

namespace ParseRun

/-- The run of nothing. -/
def empty : ParseRun := ⟨[], []⟩

/-- The run with events before it. -/
def after (events : List ParseEvent) (r : ParseRun) : ParseRun :=
  { r with events := events ++ r.events }

/-- The run with an entry before its own. -/
def cons (e : ParseEntry) (r : ParseRun) : ParseRun :=
  { r with entries := e :: r.entries }

end ParseRun

namespace Engine

/-- The tokens of a window between its first and its last, if there are any. -/
def interior (window : List Token) : Option (List Token) :=
  match window.tail.dropLast with
  | [] => none
  | t :: ts => some (t :: ts)

/-- The inside of a window is two tokens shorter. -/
theorem length_of_interior {window inner : List Token} (h : interior window = some inner) :
    inner.length + 2 = window.length := by
  have hne : window.tail.dropLast = inner ∧ inner ≠ [] := by
    simp only [interior] at h
    split at h
    · cases h
    · next heq => cases h; exact ⟨heq, List.cons_ne_nil _ _⟩
  have hlen : window.tail.dropLast.length = window.length - 1 - 1 := by simp
  have hpos := List.length_pos_iff.2 hne.2
  rw [hne.1] at hlen
  omega

/-- The run over the tokens from a place on: `pending` are the rules that the pass has still to try,
and `matched` tells whether one before them matched. -/
def runFrom (rules pending : List Rule) (matched : Bool) (place : Nat) (tokens : List Token) :
    ParseRun :=
  match tokens, pending with
  | [], _ => .empty
  | t :: ts, [] =>
    if matched then runFrom rules rules false place (t :: ts)
    else (runFrom rules rules false (place + 1) ts).after [.skipped place t]
  | t :: ts, r :: rs =>
    let calls := (r.calls (t :: ts)).map ParseEvent.called
    match htest : r.test (t :: ts) with
    | none => (runFrom rules rs matched place (t :: ts)).after calls
    | some found =>
      have hbounds := Rule.test_bounds htest
      let window := (t :: ts).take found.length
      let inside : Option ParseRun :=
        if r.hasSubRules then
          match hinner : interior window with
          | some inner =>
            have : inner.length < (t :: ts).length := by
              have hlen := length_of_interior hinner
              simp only [window, List.length_take] at hlen
              omega
            some (runFrom rules rules false 0 inner)
          | none => none
        else none
      have : ((t :: ts).drop found.length).length < (t :: ts).length := by
        simp only [List.length_drop]
        omega
      let next := runFrom rules rs true (place + found.length) ((t :: ts).drop found.length)
      let entry := ParseEntry.mk r.name found.result (inside.map (·.entries))
      let events := calls ++ .matched r.name found.length place :: (inside.elim [] (·.events))
      (next.cons entry).after events
  termination_by (tokens.length, matched.toNat, pending.length)

/-- The run of some rules over some tokens. -/
def run (rules : List Rule) (tokens : List Token) : ParseRun :=
  runFrom rules rules false 0 tokens

/-- The entries that some rules make of some tokens. -/
def parse (rules : List Rule) (tokens : List Token) : List ParseEntry :=
  (run rules tokens).entries

/-- The calls of tests and transforms of a run, in order. -/
def calls (rules : List Rule) (tokens : List Token) : List Call :=
  (run rules tokens).events.filterMap ParseEvent.call?

/-- The log of a run. -/
def log (rules : List Rule) (tokens : List Token) : List LogRecord :=
  (run rules tokens).events.filterMap ParseEvent.record?

theorem parse_nil (rules : List Rule) : parse rules [] = [] := by
  simp [parse, run, runFrom, ParseRun.empty]

end Engine

end GrammarKit
