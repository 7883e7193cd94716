import Mathlib.Logic.Relation
import GrammarKit.Proofs.Engine.Placement

/-!
# The progress of a run

The engine is a loop of passes that cuts windows out of its tokens and calls itself on what is
inside of them. Here it is a machine that takes one step after the other: the calls that wait for
the inside of a window are a stack, and each stretch of tokens is checked before it is cut out; one
beyond the tokens ends the machine with an error.

From tokens it comes to an end with the entries of their parse, and never with an error. A match
takes at least one token and no more than there are, and a pass in which no rule matched skips one,
so each pass ends behind the place where it began and not beyond the tokens. The tokens of a call
are two fewer than those of the window in which they are.
-/

namespace GrammarKit

/-- A stretch that was asked for does not lie in the list. -/
structure OutOfRange where
  start : Nat
  stop : Nat
  length : Nat

/-- The tokens from one place up to another, if this stretch lies in the list. -/
def checkedStretch (tokens : List Token) (start stop : Nat) : Except OutOfRange (List Token) :=
  if start ≤ stop ∧ stop ≤ tokens.length then .ok (stretch tokens start stop)
  else .error ⟨start, stop, tokens.length⟩

section CheckedStretch

variable {tokens : List Token}

/-- A stretch that lies in the tokens is cut out. -/
theorem checkedStretch_eq_ok {start stop : Nat} (hstart : start ≤ stop)
    (hstop : stop ≤ tokens.length) :
    checkedStretch tokens start stop = .ok (stretch tokens start stop) := if_pos ⟨hstart, hstop⟩

/-- The first tokens can be cut out. -/
theorem checkedStretch_zero {n : Nat} (hn : n ≤ tokens.length) :
    checkedStretch tokens 0 n = .ok (tokens.take n) :=
  checkedStretch_eq_ok (Nat.zero_le n) hn

/-- The tokens from a place on can be cut out. -/
theorem checkedStretch_length {n : Nat} (hn : n ≤ tokens.length) :
    checkedStretch tokens n tokens.length = .ok (tokens.drop n) := by
  rw [checkedStretch_eq_ok hn (Nat.le_refl _), stretch, List.take_length]

end CheckedStretch

namespace Recognizer

/-- The first of some lengths whose window is accepted, where each window is checked. -/
def firstAccepted (accepts : List Token → Bool) (tokens : List Token) :
    List Nat → Except OutOfRange (Option Nat)
  | [] => .ok none
  | n :: ns => do
    let window ← checkedStretch tokens 0 n
    if accepts window then return some n else firstAccepted accepts tokens ns

/-- The length of the smallest window that is accepted, where each window is checked. A sequence that
is longer than the tokens is no error, but accepts no window. -/
def search (tokens : List Token) : Recognizer → Except OutOfRange (Option Nat)
  | .sequence kinds =>
    match checkedStretch tokens 0 kinds.length with
    | .ok window => .ok (if window.map (·.kind) = kinds then some kinds.length else none)
    | .error _ => .ok none
  | .predicate accepts => firstAccepted accepts tokens (windowLengths tokens)

/-- Lengths that the tokens have are searched without an error. -/
theorem firstAccepted_eq_ok {accepts : List Token → Bool} {tokens : List Token} {lengths : List Nat}
    (h : ∀ n ∈ lengths, n ≤ tokens.length) :
    firstAccepted accepts tokens lengths = .ok (lengths.find? fun n => accepts (tokens.take n)) := by
  induction lengths with
  | nil => rfl
  | cons n ns ih =>
    obtain ⟨hn, hns⟩ := List.forall_mem_cons.1 h
    rw [firstAccepted, checkedStretch_zero hn, List.find?_cons, ih hns]
    change (if accepts (tokens.take n) then _ else _) = _
    cases accepts (tokens.take n) <;> rfl

/-- A search comes to no error, and finds the smallest window. -/
theorem search_eq_ok (tokens : List Token) (r : Recognizer) :
    r.search tokens = .ok (r.smallestWindow? tokens) := by
  cases r with
  | sequence kinds =>
    rw [search, smallestWindow?]
    by_cases hlen : kinds.length ≤ tokens.length
    · rw [checkedStretch_zero hlen]
    · rw [checkedStretch, if_neg (fun h => hlen h.2), if_neg (mt length_le_of_map_kind_take_eq hlen)]
  | predicate accepts => exact firstAccepted_eq_ok fun n hn => (mem_windowLengths.1 hn).2

end Recognizer

namespace Rule

/-- The test of the rule, where its windows are checked. -/
def probe (r : Rule) (tokens : List Token) : Except OutOfRange (Option RuleMatch) := do
  match ← r.recognizer.search tokens with
  | none => return none
  | some n => return some ⟨n, r.resultOn (← checkedStretch tokens 0 n)⟩

/-- A rule is tested without an error. -/
theorem probe_eq_ok (r : Rule) (tokens : List Token) : r.probe tokens = .ok (r.test tokens) := by
  rw [probe, Recognizer.search_eq_ok, test]
  cases hn : r.recognizer.smallestWindow? tokens with
  | none => rfl
  | some n =>
    have hbounds := Recognizer.smallestWindow?_bounds r.not_emptySequence hn
    change (checkedStretch tokens 0 n >>= fun window => _) = _
    rw [checkedStretch_zero hbounds.2]
    rfl

/-- The tokens of a window that are parsed again, if there are any. -/
def inside? (r : Rule) (window : List Token) : Option (List Token) :=
  if r.hasSubRules then Engine.interior window else none

/-- Only the interior of a window is parsed again. -/
theorem interior_of_inside? {r : Rule} {window inner : List Token}
    (h : r.inside? window = some inner) : Engine.interior window = some inner := by
  rw [inside?] at h
  split at h
  · exact h
  · cases h

end Rule

namespace Engine

/-- A pass under way. -/
structure PassState where
  tokens : List Token
  /-- Where it began. -/
  start : Nat
  /-- The place that it has reached. -/
  cursor : Nat
  /-- The rules that it has still to try. -/
  pending : List Rule
  /-- Whether a rule has matched in it. -/
  matched : Bool
  /-- The entries of this parse, with those of the passes before. -/
  entries : List ParseEntry

/-- A pass that waits for the inside of the window that a rule has found. -/
structure Waiting where
  pass : PassState
  rule : Rule
  found : RuleMatch

/-- A state of the machine. The passes that wait are a stack, each for the one before it. -/
inductive State where
  /-- Between two passes. -/
  | loop (tokens : List Token) (cursor : Nat) (entries : List ParseEntry) (callers : List Waiting)
  /-- In a pass. -/
  | pass (p : PassState) (callers : List Waiting)
  /-- At the end. -/
  | finished (entries : List ParseEntry)
  /-- After a stretch that does not lie in its tokens. -/
  | failed (e : OutOfRange)

namespace PassState

/-- A pass that begins. -/
def begin (rules : List Rule) (tokens : List Token) (cursor : Nat) (entries : List ParseEntry) :
    PassState where
  tokens := tokens
  start := cursor
  cursor := cursor
  pending := rules
  matched := false
  entries := entries

/-- The pass with other rules to try. -/
def trying (p : PassState) (pending : List Rule) : PassState := { p with pending := pending }

/-- The pass behind the window of a match. -/
def take (p : PassState) (r : Rule) (found : RuleMatch) (sub : Option (List ParseEntry)) :
    PassState :=
  { p with
    cursor := p.cursor + found.length
    matched := true
    entries := p.entries ++ [.mk r.name found.result sub] }

/-- Where the next pass begins. If no rule matched in this one, the token at hand is read and
skipped. -/
def stop (p : PassState) : Except OutOfRange Nat := do
  if p.matched then return p.cursor
  let _ ← checkedStretch p.tokens p.cursor (p.cursor + 1)
  return p.cursor + 1

/-- Tries a rule on the tokens that remain. -/
def attempt (p : PassState) (callers : List Waiting) (r : Rule) (rest : List Token) :
    Except OutOfRange State := do
  match ← r.probe rest with
  | none => return .pass p callers
  | some found =>
    let window ← checkedStretch rest 0 found.length
    match r.inside? window with
    | none => return .pass (p.take r found none) callers
    | some inner => return .loop inner 0 [] (⟨p, r, found⟩ :: callers)

/-- A step in a pass: it tries the next rule. It ends with the rules, and also where no tokens
remain. -/
def step (p : PassState) (callers : List Waiting) : Except OutOfRange State :=
  match p.pending with
  | [] => return .loop p.tokens (← p.stop) p.entries callers
  | r :: rs =>
    match checkedStretch p.tokens p.cursor p.tokens.length with
    | .ok (t :: ts) => (p.trying rs).attempt callers r (t :: ts)
    | _ => .ok (.pass (p.trying []) callers)

end PassState

/-- A parse is over: its entries go to the pass that waits for them, if there is one. -/
def State.over (entries : List ParseEntry) : List Waiting → State
  | [] => .finished entries
  | w :: callers => .pass (w.pass.take w.rule w.found (some entries)) callers

/-- A step of the machine. -/
def step (rules : List Rule) : State → Option State
  | .loop tokens cursor entries callers =>
    if cursor < tokens.length then some (.pass (.begin rules tokens cursor entries) callers)
    else some (.over entries callers)
  | .pass p callers =>
    match p.step callers with
    | .ok s => some s
    | .error e => some (.failed e)
  | .finished _ => none
  | .failed _ => none

/-- One state leads to another in some steps. -/
def Steps (rules : List Rule) : State → State → Prop :=
  Relation.ReflTransGen fun s s' => step rules s = some s'

variable {rules : List Rule} {p : PassState} {callers : List Waiting} {r : Rule} {rs : List Rule}
  {t : Token} {ts : List Token}

/-- The entries inside a window are those of the tokens that are parsed again. -/
theorem entriesInside_eq (rules : List Rule) (r : Rule) (window : List Token) :
    entriesInside rules r window = (r.inside? window).map (parse rules) := by
  unfold entriesInside Rule.inside?
  split <;> rfl

/-- A pass goes on only behind the place where it began, and not beyond the tokens. -/
structure PassState.Sound (p : PassState) : Prop where
  start_lt : p.start < p.tokens.length
  cursor_le : p.cursor ≤ p.tokens.length
  start_lt_cursor : p.matched = true → p.start < p.cursor
  cursor_eq : p.matched = false → p.cursor = p.start

namespace PassState

/-- Behind a pass in which a rule matched the next one begins where it has come to. -/
theorem step_again (hpending : p.pending = []) (hmatched : p.matched = true) :
    p.step callers = .ok (.loop p.tokens p.cursor p.entries callers) := by
  rw [step, hpending, stop, if_pos hmatched]
  rfl

/-- Behind a pass in which no rule matched the next one begins behind the next token. -/
theorem Sound.step_skip (hp : p.Sound) (hpending : p.pending = []) (hmatched : p.matched = false) :
    p.step callers = .ok (.loop p.tokens (p.cursor + 1) p.entries callers) := by
  have hcursor : p.cursor < p.tokens.length := by
    rw [hp.cursor_eq hmatched]
    exact hp.start_lt
  rw [step, hpending, stop, hmatched, checkedStretch_eq_ok (Nat.le_succ _) hcursor]
  rfl

/-- Behind the last rule a pass ends, at a place behind its beginning and not beyond the tokens. -/
theorem Sound.exists_step_end (hp : p.Sound) (hpending : p.pending = []) (callers : List Waiting) :
    ∃ cursor, p.step callers = .ok (.loop p.tokens cursor p.entries callers) ∧
      p.start < cursor ∧ cursor ≤ p.tokens.length := by
  cases hmatched : p.matched with
  | true =>
    exact ⟨p.cursor, step_again hpending hmatched, hp.start_lt_cursor hmatched, hp.cursor_le⟩
  | false =>
    refine ⟨p.cursor + 1, hp.step_skip hpending hmatched, ?_⟩
    rw [hp.cursor_eq hmatched]
    exact ⟨Nat.lt_succ_self _, hp.start_lt⟩

/-- Where no tokens remain, the pass tries no other rule. -/
theorem Sound.step_of_rest_nil (hp : p.Sound) (hpending : p.pending = r :: rs)
    (hrest : p.tokens.drop p.cursor = []) : p.step callers = .ok (.pass (p.trying []) callers) := by
  rw [step, hpending, checkedStretch_length hp.cursor_le, hrest]

/-- Where tokens remain, the next rule is tried on them. -/
theorem Sound.step_eq_attempt (hp : p.Sound) (hpending : p.pending = r :: rs)
    (hrest : p.tokens.drop p.cursor = t :: ts) (callers : List Waiting) :
    p.step callers = (p.trying rs).attempt callers r (t :: ts) := by
  rw [step, hpending, checkedStretch_length hp.cursor_le, hrest]

/-- A rule that does not match is passed over. -/
theorem attempt_of_none {rest : List Token} (htest : r.test rest = none) :
    p.attempt callers r rest = .ok (.pass p callers) := by
  rw [attempt, Rule.probe_eq_ok, htest]
  rfl

/-- A rule that matches takes its window, or waits for what is inside of it. -/
theorem attempt_of_some {rest : List Token} {found : RuleMatch} (htest : r.test rest = some found) :
    p.attempt callers r rest = .ok (match r.inside? (rest.take found.length) with
      | none => .pass (p.take r found none) callers
      | some inner => .loop inner 0 [] (⟨p, r, found⟩ :: callers)) := by
  rw [attempt, Rule.probe_eq_ok, htest]
  change (checkedStretch rest 0 found.length >>= fun window => _) = _
  rw [checkedStretch_zero (Rule.test_bounds htest).2]
  change (match r.inside? (rest.take found.length) with | none => _ | some inner => _) = _
  cases r.inside? (rest.take found.length) <;> rfl

/-- A pass begins where tokens remain. -/
theorem sound_begin {tokens : List Token} {cursor : Nat} (hcursor : cursor < tokens.length)
    (rules : List Rule) (entries : List ParseEntry) : (begin rules tokens cursor entries).Sound where
  start_lt := hcursor
  cursor_le := Nat.le_of_lt hcursor
  start_lt_cursor := fun h => absurd h Bool.false_ne_true
  cursor_eq := fun _ => rfl

theorem Sound.trying (hp : p.Sound) (pending : List Rule) : (p.trying pending).Sound :=
  ⟨hp.start_lt, hp.cursor_le, hp.start_lt_cursor, hp.cursor_eq⟩

/-- A window of at least one token and of those that remain brings the pass forward. -/
theorem Sound.take {found : RuleMatch} (hp : p.Sound) (hpos : 0 < found.length)
    (hle : p.cursor + found.length ≤ p.tokens.length) (r : Rule) (sub : Option (List ParseEntry)) :
    (p.take r found sub).Sound where
  start_lt := hp.start_lt
  cursor_le := hle
  start_lt_cursor := fun _ => by
    have hstart : p.start ≤ p.cursor := by
      cases hmatched : p.matched with
      | true => exact Nat.le_of_lt (hp.start_lt_cursor hmatched)
      | false => exact Nat.le_of_eq (hp.cursor_eq hmatched).symm
    exact Nat.lt_of_le_of_lt hstart (Nat.lt_add_of_pos_right hpos)
  cursor_eq := fun h => absurd h.symm Bool.false_ne_true

/-- A match on the tokens that remain does not go beyond them. -/
theorem cursor_add_length_le {found : RuleMatch} (hrest : p.tokens.drop p.cursor = t :: ts)
    (htest : r.test (t :: ts) = some found) :
    p.cursor + found.length ≤ p.tokens.length :=
  add_length_le_of_test (Nat.le_refl _) (by rw [stretch, List.take_length, hrest]) htest

end PassState

/-- A window for whose inside a pass waits lies in the tokens of the pass. -/
structure Waiting.Sound (w : Waiting) (inner : List Token) : Prop where
  pass : w.pass.Sound
  stop_le : w.pass.cursor + w.found.length ≤ w.pass.tokens.length
  interior_eq : interior (stretch w.pass.tokens w.pass.cursor (w.pass.cursor + w.found.length)) =
    some inner

/-- The inside for which a pass waits is two tokens shorter than the window. -/
theorem Waiting.Sound.length_inner {w : Waiting} {inner : List Token} (h : w.Sound inner) :
    inner.length + 2 = w.found.length := by
  rw [length_of_interior h.interior_eq, length_stretch h.stop_le, Nat.add_sub_cancel_left]

/-- Each of the passes that wait does so for the inside of a window of the next. -/
def CallersSound : List Token → List Waiting → Prop
  | _, [] => True
  | inner, w :: callers => w.Sound inner ∧ CallersSound w.pass.tokens callers

/-- No place in a state is beyond its tokens, and no stretch was. -/
def State.Sound : State → Prop
  | .loop tokens cursor _ callers => cursor ≤ tokens.length ∧ CallersSound tokens callers
  | .pass p callers => p.Sound ∧ CallersSound p.tokens callers
  | .finished _ => True
  | .failed _ => False

/-- A pass goes on without an error. -/
theorem PassState.Sound.exists_step (hp : p.Sound) (hcallers : CallersSound p.tokens callers) :
    ∃ s : State, p.step callers = .ok s ∧ s.Sound := by
  cases hpending : p.pending with
  | nil =>
    obtain ⟨cursor, hstep, -, hcursor⟩ := hp.exists_step_end hpending callers
    exact ⟨_, hstep, hcursor, hcallers⟩
  | cons r rs =>
    cases hrest : p.tokens.drop p.cursor with
    | nil => exact ⟨_, hp.step_of_rest_nil hpending hrest, hp.trying [], hcallers⟩
    | cons t ts =>
      rw [hp.step_eq_attempt hpending hrest]
      cases htest : r.test (t :: ts) with
      | none => exact ⟨_, attempt_of_none htest, hp.trying rs, hcallers⟩
      | some found =>
        have hstop := PassState.cursor_add_length_le hrest htest
        refine ⟨_, attempt_of_some htest, ?_⟩
        cases hinside : r.inside? ((t :: ts).take found.length) with
        | none => exact ⟨(hp.trying rs).take (Rule.test_bounds htest).1 hstop r none, hcallers⟩
        | some inner =>
          refine ⟨Nat.zero_le _, ⟨hp.trying rs, hstop, ?_⟩, hcallers⟩
          have hinterior := Rule.interior_of_inside? hinside
          rwa [← hrest, List.take_drop] at hinterior

/-- The end of a parse leaves the passes that wait as they should be. -/
theorem State.sound_over {inner : List Token} (h : CallersSound inner callers)
    (entries : List ParseEntry) : (State.over entries callers).Sound := by
  cases callers with
  | nil => trivial
  | cons w callers =>
    obtain ⟨hw, hcallers⟩ := h
    have hpos : 0 < w.found.length := by
      rw [← hw.length_inner]
      omega
    exact ⟨hw.pass.take hpos hw.stop_le w.rule _, hcallers⟩

/-- A step keeps all places within their tokens, and comes to no error. -/
theorem State.Sound.step {s s' : State} (hs : s.Sound) (hstep : step rules s = some s') :
    s'.Sound := by
  cases s with
  | loop tokens cursor entries callers =>
    obtain ⟨-, hcallers⟩ := hs
    rw [Engine.step] at hstep
    split at hstep
    · next hcursor =>
      cases hstep
      exact ⟨PassState.sound_begin hcursor rules entries, hcallers⟩
    · cases hstep
      exact State.sound_over hcallers entries
  | pass p callers =>
    obtain ⟨hp, hcallers⟩ := hs
    obtain ⟨s, hpass, hsound⟩ := hp.exists_step hcallers
    rw [Engine.step, hpass] at hstep
    cases hstep
    exact hsound
  | finished entries => cases hstep
  | failed e => exact hs.elim

/-- All places stay within their tokens as long as the machine runs, and it comes to no error. -/
theorem State.Sound.steps {s s' : State} (hs : s.Sound) (hsteps : Steps rules s s') : s'.Sound := by
  induction hsteps with
  | refl => exact hs
  | tail _ hstep ih => exact ih.step hstep

/-- A step of a pass is one of the machine. -/
theorem steps_pass {s : State} (hstep : p.step callers = .ok s) : Steps rules (.pass p callers) s :=
  .single (by rw [step, hstep])

/-- Between two passes a new one begins where tokens remain, and otherwise the parse is over. -/
theorem steps_loop {tokens : List Token} {cursor : Nat} {entries : List ParseEntry}
    (hcursor : cursor < tokens.length) : Steps rules (.loop tokens cursor entries callers)
      (.pass (.begin rules tokens cursor entries) callers) :=
  .single (by rw [step, if_pos hcursor])

theorem steps_over (rules : List Rule) (tokens : List Token) (entries : List ParseEntry)
    (callers : List Waiting) :
    Steps rules (.loop tokens tokens.length entries callers) (.over entries callers) :=
  .single (by rw [step, if_neg (Nat.lt_irrefl _)])

/-- Where no tokens remain, a pass ends its parse. -/
theorem PassState.Sound.steps_end (hp : p.Sound) (hrest : p.tokens.drop p.cursor = []) :
    Steps rules (.pass p callers) (.loop p.tokens p.tokens.length p.entries callers) := by
  have hend : p.cursor = p.tokens.length :=
    Nat.le_antisymm hp.cursor_le (List.drop_eq_nil_iff.1 hrest)
  have hmatched : p.matched = true := by
    cases hmatched : p.matched with
    | true => rfl
    | false => exact absurd (hend.symm.trans (hp.cursor_eq hmatched)) (Nat.ne_of_gt hp.start_lt)
  rw [← hend]
  cases hpending : p.pending with
  | nil => exact steps_pass (step_again hpending hmatched)
  | cons r rs =>
    exact (steps_pass (hp.step_of_rest_nil hpending hrest)).trans
      (steps_pass (step_again (p := p.trying []) rfl hmatched))

/-- A parse that has come to a place goes on from there as a pass that begins does. -/
theorem steps_of_begin {tokens : List Token} {cursor : Nat} {entries made : List ParseEntry}
    (hcursor : cursor ≤ tokens.length) (hnone : tokens.drop cursor = [] → made = [])
    (hsome : (PassState.begin rules tokens cursor entries).Sound →
      Steps rules (.pass (.begin rules tokens cursor entries) callers)
        (.loop tokens tokens.length (entries ++ made) callers)) :
    Steps rules (.loop tokens cursor entries callers)
      (.loop tokens tokens.length (entries ++ made) callers) := by
  rcases Nat.lt_or_eq_of_le hcursor with hlt | rfl
  · exact (steps_loop hlt).trans (hsome (PassState.sound_begin hlt rules entries))
  · rw [hnone List.drop_length, List.append_nil]
    exact .refl

/-- A parse goes on as its first pass does, if there are tokens for one. -/
theorem steps_parse_of {tokens : List Token}
    (h : (PassState.begin rules tokens 0 []).Sound →
      Steps rules (.pass (.begin rules tokens 0 []) callers)
        (.loop tokens tokens.length (parse rules tokens) callers)) :
    Steps rules (.loop tokens 0 [] callers)
      (.loop tokens tokens.length (parse rules tokens) callers) := by
  refine steps_of_begin (Nat.zero_le _) (fun hnil => ?_) h
  obtain rfl : tokens = [] := hnil
  exact parse_nil rules

/-- A pass leads to the end of its tokens, with the entries that the run makes from there on. -/
theorem steps_runFrom {pending : List Rule} {matched : Bool} {place : Nat} {rest : List Token}
    (hp : p.Sound) (hpending : p.pending = pending) (hmatched : p.matched = matched)
    (hrest : p.tokens.drop p.cursor = rest) :
    Steps rules (.pass p callers) (.loop p.tokens p.tokens.length
      (p.entries ++ (runFrom rules pending matched place rest).entries) callers) := by
  induction pending, matched, place, rest using runFrom.induct rules generalizing p callers with
  | case1 pending matched place =>
    rw [entries_runFrom_nil, List.append_nil]
    exact hp.steps_end hrest
  | case2 place t ts ih =>
    rw [entries_runFrom_again]
    refine (steps_pass (PassState.step_again hpending hmatched)).trans <|
      steps_of_begin hp.cursor_le (fun hnil => ?_) fun hbegin => ih hbegin rfl rfl hrest
    rw [hrest] at hnil
    cases hnil
  | case3 matched place t ts hfalse ih =>
    obtain rfl := Bool.eq_false_iff.2 hfalse
    have hts : p.tokens.drop (p.cursor + 1) = ts := by
      rw [← List.drop_drop, hrest]
      rfl
    have hcursor : p.cursor + 1 ≤ p.tokens.length := by
      rw [hp.cursor_eq hmatched]
      exact hp.start_lt
    rw [entries_runFrom_skip]
    refine (steps_pass (hp.step_skip hpending hmatched)).trans <|
      steps_of_begin hcursor (fun hnil => ?_) fun hbegin => ih hbegin rfl rfl hts
    rw [← hts, hnil, entries_runFrom_nil]
  | case4 matched place t ts r rs htest ih =>
    rw [entries_runFrom_pass htest]
    have hstep := (hp.step_eq_attempt hpending hrest callers).trans (PassState.attempt_of_none htest)
    exact (steps_pass hstep).trans (ih (hp.trying rs) rfl hmatched hrest)
  | case5 matched place t ts r rs found htest hbounds window hshorter ihinner =>
    rename_i ih
    have hstop := PassState.cursor_add_length_le hrest htest
    have hafter : p.tokens.drop (p.cursor + found.length) = (t :: ts).drop found.length := by
      rw [← hrest, List.drop_drop]
    -- Behind the window the pass goes on, whatever was found inside of it.
    have hbehind (sub : Option (List ParseEntry)) :
        Steps rules (.pass ((p.trying rs).take r found sub) callers)
          (.loop p.tokens p.tokens.length (((p.trying rs).take r found sub).entries ++
            (runFrom rules rs true (place + found.length) ((t :: ts).drop found.length)).entries)
            callers) :=
      ih ((hp.trying rs).take hbounds.1 hstop r sub) rfl rfl hafter
    have hstep := (hp.step_eq_attempt hpending hrest callers).trans (PassState.attempt_of_some htest)
    rw [entries_runFrom_take htest, entriesInside_eq, ← (Rule.test_eq_some_iff.1 htest).2,
      List.append_cons]
    cases hinside : r.inside? ((t :: ts).take found.length) with
    | none =>
      rw [hinside] at hstep
      exact (steps_pass hstep).trans (hbehind none)
    | some inner =>
      rw [hinside] at hstep
      have hinner : Steps rules (.loop inner 0 [] (⟨p.trying rs, r, found⟩ :: callers))
          (.loop inner inner.length (parse rules inner) (⟨p.trying rs, r, found⟩ :: callers)) :=
        steps_parse_of fun hbegin =>
          ihinner inner (Rule.interior_of_inside? hinside) hbegin rfl rfl rfl
      exact (steps_pass hstep).trans <| hinner.trans <|
        (steps_over rules inner _ _).trans (hbehind (some (parse rules inner)))

/-- A parse leads to the end of its tokens, with their entries. -/
theorem steps_parse (rules : List Rule) (tokens : List Token) (callers : List Waiting) :
    Steps rules (.loop tokens 0 [] callers)
      (.loop tokens tokens.length (parse rules tokens) callers) :=
  steps_parse_of fun hbegin => steps_runFrom hbegin rfl rfl rfl

/-- Where a state leads to one without a step, all ways from it are finite. -/
theorem acc_of_steps {s s' : State} (hsteps : Steps rules s s') (hlast : step rules s' = none) :
    Acc (fun s' s => step rules s = some s') s := by
  induction hsteps using Relation.ReflTransGen.head_induction_on with
  | refl => exact ⟨_, fun s hs => by rw [hlast] at hs; cases hs⟩
  | head hstep _ ih =>
    refine ⟨_, fun s hs => ?_⟩
    obtain rfl := Option.some.inj (hstep.symm.trans hs)
    exact ih

/-- The machine comes to an end with the entries of a parse, and no way of it is infinite. Rules are
tested without an error, and a match takes at least one token and no more than there are. In all
states in between there is no error, and all places are within their tokens. Each pass ends behind
the place where it began and not beyond the tokens, and the tokens of a call are the inside of a
window, which has two more. -/
theorem steps_finished (rules : List Rule) (tokens : List Token) :
    Steps rules (.loop tokens 0 [] []) (.finished (parse rules tokens)) ∧
      Acc (fun s' s => step rules s = some s') (.loop tokens 0 [] []) ∧
      (∀ (r : Rule) (rest : List Token), r.probe rest = .ok (r.test rest) ∧
        ∀ found ∈ r.test rest, 1 ≤ found.length ∧ found.length ≤ rest.length) ∧
      ∀ s, Steps rules (.loop tokens 0 [] []) s → s.Sound ∧ (∀ e, s ≠ .failed e) ∧
        (∀ p callers, s = .pass p callers → p.pending = [] → ∃ cursor,
          step rules s = some (.loop p.tokens cursor p.entries callers) ∧
            p.start < cursor ∧ cursor ≤ p.tokens.length) ∧
        ∀ inner cursor entries w callers, s = .loop inner cursor entries (w :: callers) →
          w.Sound inner ∧ inner.length + 2 = w.found.length := by
  have hrun : Steps rules (.loop tokens 0 [] []) (.finished (parse rules tokens)) :=
    (steps_parse rules tokens []).trans (steps_over rules tokens (parse rules tokens) [])
  refine ⟨hrun, acc_of_steps hrun rfl,
    fun r rest => ⟨r.probe_eq_ok rest, fun found htest => Rule.test_bounds htest⟩, ?_⟩
  intro s hs
  have hfirst : (State.loop tokens 0 [] []).Sound := ⟨Nat.zero_le _, trivial⟩
  have hsound := hfirst.steps hs
  refine ⟨hsound, ?_, ?_, ?_⟩
  · rintro e rfl
    exact hsound
  · rintro p callers rfl hpending
    obtain ⟨cursor, hstep, hcursor⟩ := hsound.1.exists_step_end hpending callers
    exact ⟨cursor, by rw [step, hstep], hcursor⟩
  · rintro inner cursor entries w callers rfl
    exact ⟨hsound.2.1, hsound.2.1.length_inner⟩

end Engine

end GrammarKit
