import GrammarKit.Proofs.Engine.Placement

/-!
# The calls of a parse

A parse calls the tests and the transforms of its rules, and does so more often than its entries tell:
a rule is tried at many places where it does not match, and the tokens inside a window are tried
again. A trial of a rule makes all its calls in a row. One that fails asks the test about the windows
of every length up to the end of the tokens at hand; one that succeeds asks only up to the window
that is taken, and then calls the transform on it.

`Tries` says which trials there are, in order: in each pass one of every rule, and behind one that
succeeds those inside of its window. Nothing is left open by this, so the calls of a parse, which are
those of its trials one after the other, are determined. The trials that succeed are the matches of
the parse in pre-order.
-/

namespace GrammarKit

namespace Call

/-- The window on which a test or a transform is called. -/
def window : Call → List Token
  | .predicate _ window _ => window
  | .transform _ window => window

/-- Whether it is a transform that is called. -/
def isTransform : Call → Bool
  | .predicate .. => false
  | .transform .. => true

end Call

namespace ParseEntry

mutual

/-- An entry and all that are found inside of it, each before those inside. -/
def subtree : ParseEntry → List ParseEntry
  | .mk rule result none => [.mk rule result none]
  | .mk rule result (some es) => .mk rule result (some es) :: preorder es

/-- Some entries and all that are found inside of them, each before those inside. -/
def preorder : List ParseEntry → List ParseEntry
  | [] => []
  | e :: es => e.subtree ++ preorder es

end

end ParseEntry

namespace Placement

mutual

/-- A match and all that are inside of it, each before those inside. -/
def subtree : Placement → List Placement
  | .mk rule start length none => [.mk rule start length none]
  | .mk rule start length (some ps) => .mk rule start length (some ps) :: preorder ps

/-- Some matches and all that are inside of them, each before those inside. -/
def preorder : List Placement → List Placement
  | [] => []
  | p :: ps => p.subtree ++ preorder ps

end

mutual

/-- The entries of a match and of those inside come in the order of the matches. -/
theorem subtree_entry (tokens : List Token) :
    ∀ p : Placement, (p.entry tokens).subtree = p.subtree.map (entry tokens)
  | .mk rule start length none => rfl
  | .mk rule start length (some ps) => by
    rw [entry, ParseEntry.subtree, subtree, List.map_cons, entry, preorder_entries tokens ps]

/-- The entries in pre-order are those of the matches in pre-order. -/
theorem preorder_entries (tokens : List Token) :
    ∀ ps : List Placement, ParseEntry.preorder (entries tokens ps) = (preorder ps).map (entry tokens)
  | [] => rfl
  | p :: ps => by
    rw [entries, ParseEntry.preorder, preorder, List.map_append, subtree_entry tokens p,
      preorder_entries tokens ps]

end

end Placement

namespace Rule

variable {r : Rule} {tokens : List Token} {start stop n : Nat}

/-- The calls of the test of a rule on the windows of one up to `n` tokens from a place on, of which
none but the last can be accepted. -/
def testCalls (r : Rule) (tokens : List Token) (start n : Nat) (accepted : Bool) : List Call :=
  match r.recognizer with
  | .sequence _ => []
  | .predicate _ => (List.range' 1 n).map fun k =>
      .predicate r.name (stretch tokens start (start + k)) (accepted && k == n)

/-- The call of the transform of a rule on a window, if it has one. -/
def transformCalls (r : Rule) (window : List Token) : List Call :=
  if r.transform.isSome then [.transform r.name window] else []

/-- Where no window is accepted, the test is called on each. -/
theorem predicateCalls_of_find?_eq_none {accepts : List Token → Bool} {ns : List Nat} (name : String)
    (h : (ns.find? fun n => accepts (tokens.take n)) = none) :
    predicateCalls name accepts tokens ns =
      ns.map fun n => .predicate name (tokens.take n) false := by
  induction ns with
  | nil => rfl
  | cons n ns ih =>
    rw [List.find?_cons] at h
    cases haccepts : accepts (tokens.take n) with
    | true => rw [haccepts] at h; cases h
    | false =>
      rw [haccepts] at h
      simp only [predicateCalls, haccepts, Bool.false_eq_true, if_false, List.map_cons, ih h]

/-- The test is not called any more behind the first window that is accepted. -/
theorem predicateCalls_append {accepts : List Token → Bool} {front back : List Nat} (name : String)
    (hfront : ∀ k ∈ front, accepts (tokens.take k) = false) (hn : accepts (tokens.take n) = true) :
    predicateCalls name accepts tokens (front ++ n :: back) =
      (front.map fun k => .predicate name (tokens.take k) false) ++
        [.predicate name (tokens.take n) true] := by
  induction front with
  | nil => simp only [List.nil_append, predicateCalls, hn, if_true, List.map_nil]
  | cons k front ih =>
    have hk := hfront k List.mem_cons_self
    simp only [List.cons_append, predicateCalls, hk, Bool.false_eq_true, if_false, List.map_cons,
      ih fun j hj => hfront j (List.mem_cons_of_mem k hj)]

/-- Up to the first length that is accepted the test is called on the windows of all lengths. -/
theorem predicateCalls_of_find?_eq_some {accepts : List Token → Bool} (name : String)
    (h : ((Recognizer.windowLengths tokens).find? fun n => accepts (tokens.take n)) = some n) :
    predicateCalls name accepts tokens (Recognizer.windowLengths tokens) =
      (List.range' 1 n).map fun k => .predicate name (tokens.take k) (k == n) := by
  obtain ⟨haccepted, front, back, hlengths, hfront⟩ := List.find?_eq_some_iff_append.1 h
  -- The lengths before the accepted one are those that are smaller.
  obtain ⟨m, -, rfl, hback⟩ :=
    List.range'_eq_append_iff.1 ((Recognizer.windowLengths_eq _).symm.trans hlengths)
  obtain ⟨hn, -, -⟩ := List.range'_eq_cons_iff.1 hback.symm
  rw [Nat.mul_one, Nat.add_comm] at hn
  have hrejected : ∀ k ∈ List.range' 1 m, accepts (tokens.take k) = false :=
    fun k hk => by simpa using hfront k hk
  have hbefore : ∀ k ∈ List.range' 1 m, (k == n) = false := fun k hk =>
    beq_eq_false_iff_ne.2 (by have := List.mem_range'_1.1 hk; omega)
  rw [hlengths, predicateCalls_append name hrejected haccepted, ← hn, List.range'_1_concat,
    List.map_append, List.map_singleton, Nat.add_comm 1 m, beq_self_eq_true]
  congr 1
  exact List.map_congr_left fun k hk => by rw [hn, hbefore k hk]

/-- A trial that fails calls the test on the windows of all lengths. -/
theorem calls_of_test_eq_none (hstop : stop ≤ tokens.length)
    (htest : r.test (stretch tokens start stop) = none) :
    r.calls (stretch tokens start stop) = r.testCalls tokens start (stop - start) false := by
  have hnone : r.recognizer.smallestWindow? (stretch tokens start stop) = none :=
    Option.map_eq_none_iff.1 htest
  rw [calls, testCalls, hnone]
  cases hr : r.recognizer with
  | sequence kinds => rfl
  | predicate accepts =>
    rw [hr, Recognizer.smallestWindow?] at hnone
    dsimp only
    rw [List.append_nil, predicateCalls_of_find?_eq_none r.name hnone,
      Recognizer.windowLengths_eq, length_stretch hstop]
    refine List.map_congr_left fun k hk => ?_
    rw [take_stretch (by have := List.mem_range'_1.1 hk; omega), Bool.false_and]

/-- A trial that succeeds calls the test up to the window that is taken, and the transform on it. -/
theorem calls_of_test_eq_some {found : RuleMatch} (hstop : stop ≤ tokens.length)
    (htest : r.test (stretch tokens start stop) = some found) :
    r.calls (stretch tokens start stop) = r.testCalls tokens start found.length true ++
      r.transformCalls (stretch tokens start (start + found.length)) := by
  have hend := Engine.add_length_le_of_test hstop rfl htest
  obtain ⟨hsome, -⟩ := test_eq_some_iff.1 htest
  rw [calls, hsome]
  congr 1
  · rw [testCalls]
    cases hr : r.recognizer with
    | sequence kinds => rfl
    | predicate accepts =>
      rw [hr, Recognizer.smallestWindow?] at hsome
      dsimp only
      rw [predicateCalls_of_find?_eq_some r.name hsome]
      refine List.map_congr_left fun k hk => ?_
      rw [take_stretch (by have := List.mem_range'_1.1 hk; omega), Bool.true_and]
  · rw [transformCalls, ← take_stretch hend]
    cases r.transform <;> rfl

/-- The test is called on windows that are not empty. -/
theorem window_ne_nil_of_mem_testCalls {accepted : Bool} {c : Call} (hend : start + n ≤ tokens.length)
    (hc : c ∈ r.testCalls tokens start n accepted) : c.window ≠ [] := by
  rw [testCalls] at hc
  cases hr : r.recognizer with
  | sequence kinds => rw [hr] at hc; cases hc
  | predicate accepts =>
    rw [hr] at hc
    obtain ⟨k, hk, rfl⟩ := List.mem_map.1 hc
    have hk := List.mem_range'_1.1 hk
    refine List.ne_nil_of_length_pos ?_
    rw [Call.window, length_stretch (by omega)]
    omega

/-- The tests are no transforms. -/
theorem filter_testCalls (r : Rule) (tokens : List Token) (start n : Nat) (accepted : Bool) :
    (r.testCalls tokens start n accepted).filter Call.isTransform = [] := by
  rw [testCalls]
  cases r.recognizer with
  | sequence kinds => rfl
  | predicate accepts => exact List.filter_eq_nil_iff.2 (List.forall_mem_map.2 fun k _ => nofun)

/-- All calls of transforms are calls of transforms. -/
theorem filter_transformCalls (r : Rule) (window : List Token) :
    (r.transformCalls window).filter Call.isTransform = r.transformCalls window := by
  rw [transformCalls]
  split <;> rfl

end Rule

/-- A trial of a rule in a parse: a match, or none from a place up to the end of the tokens at
hand. -/
inductive Trial where
  | miss (rule : Rule) (start stop : Nat)
  | hit (p : Placement)

namespace Trial

/-- The match, if the trial has succeeded. -/
def placement? : Trial → Option Placement
  | .miss .. => none
  | .hit p => some p

theorem filterMap_miss (r : Rule) (start stop : Nat) (trials : List Trial) :
    (miss r start stop :: trials).filterMap placement? = trials.filterMap placement? := rfl

theorem filterMap_hit (p : Placement) (trials : List Trial) :
    (hit p :: trials).filterMap placement? = p :: trials.filterMap placement? := rfl

/-- The calls of a trial. -/
def calls (tokens : List Token) : Trial → List Call
  | .miss r start stop => r.testCalls tokens start (stop - start) false
  | .hit p => p.rule.testCalls tokens p.start p.length true ++ p.rule.transformCalls (p.window tokens)

/-- The trial has been made on the tokens up to some place, and with this result. -/
def Holds (tokens : List Token) : Trial → Prop
  | .miss r start stop =>
    start < stop ∧ stop ≤ tokens.length ∧ r.test (stretch tokens start stop) = none
  | .hit p => ∃ stop ≤ tokens.length, ∃ found,
      p.rule.test (stretch tokens p.start stop) = some found ∧ p.length = found.length

variable {tokens : List Token} {trial : Trial} {p : Placement}

/-- A match does not end beyond the tokens, and its window is not empty. -/
theorem Holds.bounds (h : (hit p).Holds tokens) : 0 < p.length ∧ p.stop ≤ tokens.length := by
  obtain ⟨stop, hstop, found, htest, hlength⟩ := h
  have hend := Engine.add_length_le_of_test hstop rfl htest
  have hpos := (Rule.test_bounds htest).1
  rw [Placement.stop, hlength]
  exact ⟨hpos, Nat.le_trans hend hstop⟩

/-- A match has the tokens in its window that the sequence of its rule asks for. -/
theorem Holds.map_kind_window (h : (hit p).Holds tokens) {kinds : List String}
    (hkinds : p.rule.recognizer = .sequence kinds) : (p.window tokens).map (·.kind) = kinds := by
  obtain ⟨stop, hstop, found, htest, hlength⟩ := h
  obtain ⟨hwindow, -⟩ := Rule.test_eq_some_iff.1 htest
  rw [hkinds, Recognizer.smallestWindow?] at hwindow
  split at hwindow
  · next hmap =>
    rw [Placement.window, Placement.stop, hlength, Engine.stretch_eq_take_of_test hstop rfl htest,
      ← Option.some.inj hwindow, hmap]
  · cases hwindow

/-- No window of a call is empty. -/
theorem Holds.window_ne_nil (h : trial.Holds tokens) {c : Call} (hc : c ∈ trial.calls tokens) :
    c.window ≠ [] := by
  cases trial with
  | miss r start stop =>
    obtain ⟨hlt, hstop, -⟩ := h
    exact Rule.window_ne_nil_of_mem_testCalls (by omega) hc
  | hit p =>
    obtain ⟨hpos, hend⟩ := h.bounds
    rcases List.mem_append.1 hc with htest | htransform
    · exact Rule.window_ne_nil_of_mem_testCalls hend htest
    · rw [Rule.transformCalls] at htransform
      split at htransform
      · rw [List.mem_singleton.1 htransform, Call.window, Placement.window]
        refine List.ne_nil_of_length_pos ?_
        rw [length_stretch hend, Placement.stop]
        omega
      · cases htransform

/-- The calls of transforms are those of the matches. -/
theorem filter_flatMap_calls (tokens : List Token) (trials : List Trial) :
    (trials.flatMap (calls tokens)).filter Call.isTransform =
      (trials.filterMap placement?).flatMap fun p => p.rule.transformCalls (p.window tokens) := by
  induction trials with
  | nil => rfl
  | cons trial trials ih =>
    rw [List.flatMap_cons, List.filter_append, ih]
    cases trial with
    | miss r start stop =>
      rw [calls, Rule.filter_testCalls, List.nil_append, filterMap_miss]
    | hit p =>
      rw [calls, List.filter_append, Rule.filter_testCalls, Rule.filter_transformCalls,
        List.nil_append, filterMap_hit, List.flatMap_cons]

end Trial

/-- The trials of a run make its matches. The tokens at hand are those from a place up to the end; the
run has still to try some rules in its pass, and knows whether one before them has matched.

Each rule of a pass is tried once, at the place that the rules before it have reached. If it matches,
the trials inside of its window come next, those of a parse of the tokens between the first and the
last, and then those of the other rules behind the window. When no rule is left there is another pass:
at the place that has been reached, or behind the next token if no rule has matched. It is over when
no token is left. -/
inductive Tries (rules : List Rule) (tokens : List Token) :
    List Rule → Bool → Nat → Nat → List Placement → List Trial → Prop
  | done {pending : List Rule} {matched : Bool} {place stop : Nat} (hend : stop ≤ place) :
      Tries rules tokens pending matched place stop [] []
  | again {place stop : Nat} {ps : List Placement} {trials : List Trial} (hlt : place < stop)
      (hpass : Tries rules tokens rules false place stop ps trials) :
      Tries rules tokens [] true place stop ps trials
  | skip {place stop : Nat} {ps : List Placement} {trials : List Trial} (hlt : place < stop)
      (hpass : Tries rules tokens rules false (place + 1) stop ps trials) :
      Tries rules tokens [] false place stop ps trials
  | miss {r : Rule} {pending : List Rule} {matched : Bool} {place stop : Nat} {ps : List Placement}
      {trials : List Trial} (hlt : place < stop)
      (htest : r.test (stretch tokens place stop) = none)
      (hrest : Tries rules tokens pending matched place stop ps trials) :
      Tries rules tokens (r :: pending) matched place stop ps (.miss r place stop :: trials)
  | leaf {r : Rule} {pending : List Rule} {matched : Bool} {place stop : Nat} {ps : List Placement}
      {trials : List Trial} {found : RuleMatch} (hlt : place < stop)
      (htest : r.test (stretch tokens place stop) = some found)
      (hleaf : r.hasSubRules = true → found.length ≤ 2)
      (hrest : Tries rules tokens pending true (place + found.length) stop ps trials) :
      Tries rules tokens (r :: pending) matched place stop (.mk r place found.length none :: ps)
        (.hit (.mk r place found.length none) :: trials)
  | nest {r : Rule} {pending : List Rule} {matched : Bool} {place stop : Nat}
      {inner ps : List Placement} {inside trials : List Trial} {found : RuleMatch}
      (hlt : place < stop) (htest : r.test (stretch tokens place stop) = some found)
      (hsub : r.hasSubRules = true) (hlong : 2 < found.length)
      (hinside : Tries rules tokens rules false (place + 1) (place + found.length - 1) inner inside)
      (hrest : Tries rules tokens pending true (place + found.length) stop ps trials) :
      Tries rules tokens (r :: pending) matched place stop
        (.mk r place found.length (some inner) :: ps)
        (.hit (.mk r place found.length (some inner)) :: (inside ++ trials))

namespace Tries

variable {rules pending : List Rule} {tokens : List Token} {matched : Bool} {place stop : Nat}
  {ps ps' : List Placement} {trials trials' : List Trial}

/-- The trials are determined, and so are the matches that they make. -/
theorem unique (h : Tries rules tokens pending matched place stop ps trials)
    (h' : Tries rules tokens pending matched place stop ps' trials') :
    ps = ps' ∧ trials = trials' := by
  induction h generalizing ps' trials' with
  | done hend =>
    cases h' with
    | done => exact ⟨rfl, rfl⟩
    | again hlt | skip hlt | miss hlt | leaf hlt | nest hlt => omega
  | again hlt _ ih =>
    cases h' with
    | done hend => omega
    | again _ hpass => exact ih hpass
  | skip hlt _ ih =>
    cases h' with
    | done hend => omega
    | skip _ hpass => exact ih hpass
  | miss hlt htest _ ih =>
    cases h' with
    | done hend => omega
    | miss _ _ hrest =>
      obtain ⟨rfl, rfl⟩ := ih hrest
      exact ⟨rfl, rfl⟩
    | leaf _ htest' | nest _ htest' => cases htest.symm.trans htest'
  | leaf hlt htest hleaf _ ih =>
    cases h' with
    | done hend => omega
    | miss _ htest' => cases htest.symm.trans htest'
    | leaf _ htest' _ hrest =>
      cases htest.symm.trans htest'
      obtain ⟨rfl, rfl⟩ := ih hrest
      exact ⟨rfl, rfl⟩
    | nest _ htest' hsub hlong =>
      cases htest.symm.trans htest'
      exact absurd (hleaf hsub) (Nat.not_le_of_lt hlong)
  | nest hlt htest hsub hlong _ _ ihinside ih =>
    cases h' with
    | done hend => omega
    | miss _ htest' => cases htest.symm.trans htest'
    | leaf _ htest' hleaf =>
      cases htest.symm.trans htest'
      exact absurd (hleaf hsub) (Nat.not_le_of_lt hlong)
    | nest _ htest' _ _ hinside hrest =>
      cases htest.symm.trans htest'
      obtain ⟨rfl, rfl⟩ := ihinside hinside
      obtain ⟨rfl, rfl⟩ := ih hrest
      exact ⟨rfl, rfl⟩

/-- The trials that succeed are the matches in pre-order. -/
theorem filterMap_placement? (h : Tries rules tokens pending matched place stop ps trials) :
    trials.filterMap Trial.placement? = Placement.preorder ps := by
  induction h with
  | done => rfl
  | again _ _ ih | skip _ _ ih => exact ih
  | miss _ _ _ ih => rw [Trial.filterMap_miss, ih]
  | leaf _ _ _ _ ih =>
    rw [Trial.filterMap_hit, ih, Placement.preorder, Placement.subtree, List.singleton_append]
  | nest _ _ _ _ _ _ ihinside ih =>
    rw [Trial.filterMap_hit, List.filterMap_append, ihinside, ih, Placement.preorder,
      Placement.subtree, List.cons_append]

/-- Each of the trials is made on the tokens up to some place, and with the result that it has. -/
theorem holds (h : Tries rules tokens pending matched place stop ps trials)
    (hstop : stop ≤ tokens.length) : ∀ trial ∈ trials, trial.Holds tokens := by
  induction h with
  | done => exact List.forall_mem_nil _
  | again _ _ ih | skip _ _ ih => exact ih hstop
  | miss hlt htest _ ih => exact List.forall_mem_cons.2 ⟨⟨hlt, hstop, htest⟩, ih hstop⟩
  | leaf _ htest _ _ ih =>
    exact List.forall_mem_cons.2 ⟨⟨_, hstop, _, htest, rfl⟩, ih hstop⟩
  | nest _ htest _ _ _ _ ihinside ih =>
    have hend := Engine.add_length_le_of_test hstop rfl htest
    have hbehind := List.forall_mem_append.2 ⟨ihinside (by omega), ih hstop⟩
    exact List.forall_mem_cons.2 ⟨⟨_, hstop, _, htest, rfl⟩, hbehind⟩

end Tries

namespace Engine

variable {rules pending : List Rule} {matched : Bool} {place : Nat} {r : Rule} {t : Token}
  {ts : List Token}

/-- The calls of a run over the tokens from a place on. -/
def callsFrom (rules pending : List Rule) (matched : Bool) (place : Nat) (tokens : List Token) :
    List Call :=
  (runFrom rules pending matched place tokens).events.filterMap ParseEvent.call?

/-- The calls inside a window of a rule: those of its inside, if the rule asks for it and there is
one. -/
def callsInside (rules : List Rule) (r : Rule) (window : List Token) : List Call :=
  if r.hasSubRules then ((interior window).map (calls rules)).getD [] else []

/-- Inside of a window that is parsed again there are the calls of its inside. -/
theorem callsInside_of_interior {window inner : List Token} (hsub : r.hasSubRules = true)
    (hinner : interior window = some inner) : callsInside rules r window = calls rules inner := by
  rw [callsInside, if_pos hsub, hinner, Option.map_some, Option.getD_some]

/-- No calls are made inside of a window that is not parsed again or has no inside. -/
theorem callsInside_eq_nil {window : List Token}
    (hnone : r.hasSubRules = true → interior window = none) : callsInside rules r window = [] := by
  rw [callsInside]
  split
  · next hsub => rw [hnone hsub, Option.map_none, Option.getD_none]
  · rfl

/-- Calls are kept among the events as they were made. -/
theorem filterMap_call?_map_called (cs : List Call) :
    (cs.map ParseEvent.called).filterMap ParseEvent.call? = cs := by
  rw [List.filterMap_map]
  exact List.filterMap_some

/-- The calls of a match are those of its trial, and then those inside of its window. -/
theorem filterMap_events_matchRun (rules : List Rule) (r : Rule) (place : Nat) (tokens : List Token)
    (found : RuleMatch) : (matchRun rules r place tokens found).events.filterMap ParseEvent.call? =
      r.calls tokens ++ callsInside rules r (tokens.take found.length) := by
  have hmatched : ParseEvent.call? (.matched r.name found.length place) = none := rfl
  rw [matchRun, List.filterMap_append, filterMap_call?_map_called, List.filterMap_cons_none hmatched]
  unfold callsInside runInside
  split
  · cases interior (tokens.take found.length) <;> rfl
  · rfl

/-- Without tokens nothing is called. -/
theorem callsFrom_nil (rules pending : List Rule) (matched : Bool) (place : Nat) :
    callsFrom rules pending matched place [] = [] := by
  rw [callsFrom, runFrom_nil, ParseRun.empty, List.filterMap_nil]

/-- Another pass begins without a call. -/
theorem callsFrom_again (rules : List Rule) (place : Nat) (t : Token) (ts : List Token) :
    callsFrom rules [] true place (t :: ts) = callsFrom rules rules false place (t :: ts) := by
  rw [callsFrom, runFrom_again, callsFrom]

/-- A token is skipped without a call. -/
theorem callsFrom_skip (rules : List Rule) (place : Nat) (t : Token) (ts : List Token) :
    callsFrom rules [] false place (t :: ts) = callsFrom rules rules false (place + 1) ts := by
  rw [callsFrom, runFrom_skip, ParseRun.events_append]
  rfl

/-- A rule that does not match makes its calls before the others. -/
theorem callsFrom_pass (htest : r.test (t :: ts) = none) :
    callsFrom rules (r :: pending) matched place (t :: ts) =
      r.calls (t :: ts) ++ callsFrom rules pending matched place (t :: ts) := by
  rw [callsFrom, runFrom_pass htest, ParseRun.events_append, List.filterMap_append, missRun,
    filterMap_call?_map_called, callsFrom]

/-- A rule that matches makes its calls before those inside of its window. -/
theorem callsFrom_take {found : RuleMatch} (htest : r.test (t :: ts) = some found) :
    callsFrom rules (r :: pending) matched place (t :: ts) =
      r.calls (t :: ts) ++ callsInside rules r ((t :: ts).take found.length) ++
        callsFrom rules pending true (place + found.length) ((t :: ts).drop found.length) := by
  rw [callsFrom, runFrom_take htest, ParseRun.events_append, List.filterMap_append,
    filterMap_events_matchRun, callsFrom]

variable {tokens rest : List Token} {stop : Nat}

/-- The calls of a run are those of the trials that make its matches. -/
theorem exists_tries_placementsFrom (hstop : stop ≤ tokens.length)
    (hrest : stretch tokens place stop = rest) (place' : Nat) :
    ∃ trials,
      Tries rules tokens pending matched place stop (placementsFrom rules pending matched place rest)
        trials ∧
      callsFrom rules pending matched place' rest = trials.flatMap (Trial.calls tokens) := by
  induction pending, matched, place, rest using placementsFrom.induct rules
    generalizing stop place' with
  | case1 pending matched place =>
    rw [placementsFrom_nil, callsFrom_nil]
    have hempty : stop - place = 0 := by rw [← length_stretch hstop, hrest, List.length_nil]
    exact ⟨[], .done (Nat.sub_eq_zero_iff_le.1 hempty), rfl⟩
  | case2 place t ts ih =>
    obtain ⟨trials, htries, hcalls⟩ := ih hstop hrest place'
    rw [placementsFrom_again, callsFrom_again]
    exact ⟨trials, .again (lt_of_stretch_eq_cons hstop hrest) htries, hcalls⟩
  | case3 matched place t ts hmatched ih =>
    cases matched with
    | true => exact absurd rfl hmatched
    | false =>
      have hbehind : stretch tokens (place + 1) stop = ts := by
        rw [← drop_stretch, hrest, List.drop_one, List.tail_cons]
      obtain ⟨trials, htries, hcalls⟩ := ih hstop hbehind (place' + 1)
      rw [placementsFrom_skip, callsFrom_skip]
      exact ⟨trials, .skip (lt_of_stretch_eq_cons hstop hrest) htries, hcalls⟩
  | case4 matched place t ts r rs htest ih =>
    have htest' : r.test (stretch tokens place stop) = none := by rw [hrest, htest]
    obtain ⟨trials, htries, hcalls⟩ := ih hstop hrest place'
    rw [placementsFrom_pass htest, callsFrom_pass htest]
    refine ⟨.miss r place stop :: trials,
      .miss (lt_of_stretch_eq_cons hstop hrest) htest' htries, ?_⟩
    rw [hcalls, ← hrest, Rule.calls_of_test_eq_none hstop htest', List.flatMap_cons, Trial.calls]
  | case5 matched place t ts r rs found htest _ window hshorter ihinner =>
    rename_i ih
    have hlt := lt_of_stretch_eq_cons hstop hrest
    have htest' : r.test (stretch tokens place stop) = some found := by rw [hrest, htest]
    have hend := add_length_le_of_test hstop hrest htest
    have hinterior : interior window = if place + 2 < place + found.length then
        some (stretch tokens (place + 1) (place + found.length - 1)) else none := by
      rw [← interior_stretch (by omega), stretch_eq_take_of_test hstop hrest htest]
    have hbehind : stretch tokens (place + found.length) stop = (t :: ts).drop found.length := by
      rw [← drop_stretch, hrest]
    obtain ⟨trials, htries, hcalls⟩ := ih hstop hbehind (place' + found.length)
    rw [placementsFrom_take htest, callsFrom_take htest, hcalls, ← hrest,
      Rule.calls_of_test_eq_some hstop htest', hrest]
    -- A window that is parsed again has trials inside of it if more than two tokens are in it.
    by_cases hnest : r.hasSubRules = true ∧ 2 < found.length
    · obtain ⟨hsub, hlong⟩ := hnest
      rw [if_pos (Nat.add_lt_add_left hlong place)] at hinterior
      obtain ⟨inside, htriesInside, hcallsInside⟩ := ihinner _ hinterior (by omega) rfl 0
      rw [placementsInside_of_interior hsub hinterior, callsInside_of_interior hsub hinterior]
      refine ⟨_, .nest hlt htest' hsub hlong htriesInside htries, ?_⟩
      rw [List.flatMap_cons, List.flatMap_append, ← hcallsInside, List.append_assoc]
      rfl
    · have hleaf (hsub : r.hasSubRules = true) : found.length ≤ 2 :=
        Nat.le_of_not_lt fun hlong => hnest ⟨hsub, hlong⟩
      have hnone (hsub : r.hasSubRules = true) : interior window = none := by
        rw [hinterior, if_neg (by have := hleaf hsub; omega)]
      rw [placementsInside_eq_none hnone, callsInside_eq_nil hnone, List.append_nil]
      exact ⟨_, .leaf hlt htest' hleaf htries, rfl⟩

/-- The calls of a parse are those of its trials, which are determined: each rule of a pass is tried
once, where the rules before it have arrived. One that does not match asks its test about the windows
of one token up to all that are left, without success; one that matches asks about those up to its
window, of which only that one is accepted, and calls its transform on it. The matches are the trials
that succeed, in pre-order, and the entries of the parse are made of them. So the transforms are
called once for each entry that has one, in pre-order. No call is made on an empty window, and a
sequence finds its kinds in the window. -/
theorem calls_eq_flatMap_trials (rules : List Rule) (tokens : List Token) :
    ∃ (ps : List Placement) (trials : List Trial),
      Placement.entries tokens ps = parse rules tokens ∧
      Tries rules tokens rules false 0 tokens.length ps trials ∧
      (∀ ps' trials', Tries rules tokens rules false 0 tokens.length ps' trials' →
        ps' = ps ∧ trials' = trials) ∧
      calls rules tokens = trials.flatMap (Trial.calls tokens) ∧
      trials.filterMap Trial.placement? = Placement.preorder ps ∧
      (Placement.preorder ps).map (Placement.entry tokens) =
        ParseEntry.preorder (parse rules tokens) ∧
      (calls rules tokens).filter Call.isTransform =
        (Placement.preorder ps).flatMap (fun p => p.rule.transformCalls (p.window tokens)) ∧
      (∀ c ∈ calls rules tokens, c.window ≠ []) ∧
      ∀ p ∈ Placement.preorder ps, ∀ kinds, p.rule.recognizer = .sequence kinds →
        (p.window tokens).map (·.kind) = kinds := by
  obtain ⟨trials, htries, hcalls⟩ : ∃ trials,
      Tries rules tokens rules false 0 tokens.length (placements rules tokens) trials ∧
        calls rules tokens = trials.flatMap (Trial.calls tokens) :=
    exists_tries_placementsFrom (Nat.le_refl _) (stretch_all tokens) 0
  have hentries := entries_placements rules tokens
  have hhits := htries.filterMap_placement?
  have hholds := htries.holds (Nat.le_refl _)
  refine ⟨placements rules tokens, trials, hentries, htries, fun _ _ h => h.unique htries,
    hcalls, hhits, ?_, ?_, ?_, ?_⟩
  · rw [← hentries, Placement.preorder_entries]
  · rw [hcalls, Trial.filter_flatMap_calls, hhits]
  · intro c hc
    rw [hcalls] at hc
    obtain ⟨trial, htrial, hc⟩ := List.mem_flatMap.1 hc
    exact (hholds trial htrial).window_ne_nil hc
  · intro p hp kinds hkinds
    rw [← hhits] at hp
    obtain ⟨trial, htrial, hplacement⟩ := List.mem_filterMap.1 hp
    cases trial with
    | miss => cases hplacement
    | hit q =>
      cases hplacement
      exact (hholds _ htrial).map_kind_window hkinds

-- The test of a rule that never matches is asked about both windows at the first token, and about the
-- one at the second when the first has been skipped.
example :
    let never : Rule := { name := "never", recognizer := .predicate fun _ => false,
                          name_ne_blank := by decide, not_emptySequence := rfl }
    let a : Token := .ofEntry "a" "1" ⟨0, 1⟩
    let b : Token := .ofEntry "b" "2" ⟨1, 2⟩
    calls [never] [a, b] = [.predicate "never" [a] false, .predicate "never" [a, b] false,
      .predicate "never" [b] false] := by cbv

end Engine

end GrammarKit
