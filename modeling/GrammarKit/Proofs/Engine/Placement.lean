import GrammarKit.Proofs.Engine.Pass

/-!
# The windows of a parse

An entry does not tell from which tokens it was made. Here the moves of a run are followed once
more, and each match is noted with its rule and its window, by the places in the whole list of
tokens; the windows inside a window are counted in the same list. The notes have the shape of the
entries, and the entries are made of them. They are also what the events of the run tell of its
matches, but for the places inside of windows, which the run counts from the first token there.

Every match is one on the tokens that were at hand: those up to the end of the list, or inside a
window those before its last token. `Fits` says this of a match and of all that are inside of it.
-/

namespace GrammarKit

/-- The tokens from one place up to another. -/
def stretch (tokens : List Token) (start stop : Nat) : List Token := (tokens.take stop).drop start

section Stretch

variable {tokens : List Token} {start stop : Nat}

/-- A stretch up to a place that there is has as many tokens as it should. -/
theorem length_stretch (hstop : stop ≤ tokens.length) :
    (stretch tokens start stop).length = stop - start := by
  rw [stretch, List.length_drop, List.length_take, Nat.min_eq_left hstop]

/-- A stretch in which there is a token ends behind its start. -/
theorem lt_of_stretch_eq_cons {t : Token} {ts : List Token} (hstop : stop ≤ tokens.length)
    (h : stretch tokens start stop = t :: ts) : start < stop := by
  have hlength : (stretch tokens start stop).length = stop - start := length_stretch hstop
  rw [h, List.length_cons] at hlength
  omega

/-- Behind the first tokens of a stretch there is the stretch from there. -/
theorem drop_stretch (tokens : List Token) (start stop n : Nat) :
    (stretch tokens start stop).drop n = stretch tokens (start + n) stop := by
  rw [stretch, List.drop_drop, stretch]

/-- The first tokens of a stretch are a stretch. -/
theorem take_stretch {n : Nat} (hn : start + n ≤ stop) :
    (stretch tokens start stop).take n = stretch tokens start (start + n) := by
  rw [stretch, List.take_drop, List.take_take, Nat.min_eq_left hn, stretch]

/-- A stretch is cut in two at a place between its ends. -/
theorem stretch_append {mid : Nat} (hstart : start ≤ mid) (hmid : mid ≤ stop) :
    stretch tokens start mid ++ stretch tokens mid stop = stretch tokens start stop := by
  have hcut := List.take_append_drop (mid - start) (stretch tokens start stop)
  rwa [take_stretch (by omega), drop_stretch, show start + (mid - start) = mid by omega] at hcut

/-- At each place there is one token. -/
theorem exists_stretch_eq_singleton (hstart : start < tokens.length) :
    ∃ t, stretch tokens start (start + 1) = [t] := by
  refine List.length_eq_one_iff.1 ?_
  rw [length_stretch (Nat.succ_le_of_lt hstart)]
  omega

/-- The whole list is a stretch. -/
theorem stretch_all (tokens : List Token) : stretch tokens 0 tokens.length = tokens := by
  rw [stretch, List.take_length, List.drop_zero]

/-- A stretch without its last token is a stretch. -/
theorem dropLast_stretch (hstop : stop ≤ tokens.length) :
    (stretch tokens start stop).dropLast = stretch tokens start (stop - 1) := by
  rw [List.dropLast_eq_take, length_stretch hstop]
  by_cases hlt : start < stop
  · rw [take_stretch (by omega), show start + (stop - start - 1) = stop - 1 by omega]
  · have hnil : stretch tokens start (stop - 1) = [] :=
      List.drop_eq_nil_iff.2 (Nat.le_trans (List.length_take_le _ _) (by omega))
    rw [hnil, show stop - start - 1 = 0 by omega, List.take_zero]

/-- The inside of a stretch is a stretch, if there are more than two tokens. -/
theorem interior_stretch (hstop : stop ≤ tokens.length) :
    Engine.interior (stretch tokens start stop) =
      if start + 2 < stop then some (stretch tokens (start + 1) (stop - 1)) else none := by
  have hinside : (stretch tokens start stop).tail.dropLast =
      stretch tokens (start + 1) (stop - 1) := by
    rw [← List.drop_one, drop_stretch, dropLast_stretch hstop]
  have hlen : (stretch tokens (start + 1) (stop - 1)).length = stop - 1 - (start + 1) :=
    length_stretch (by omega)
  rw [Engine.interior, hinside]
  cases hcase : stretch tokens (start + 1) (stop - 1) with
  | nil => rw [hcase] at hlen; rw [if_neg (by simp at hlen; omega)]
  | cons t ts => rw [hcase] at hlen; rw [if_pos (by simp at hlen; omega)]

end Stretch

/-- Whether a rule matched. -/
def ParseEvent.isMatch : ParseEvent → Bool
  | .called _ => false
  | .matched .. => true
  | .skipped .. => false

/-- A match in a list of tokens: its rule, the place where its window starts, the number of tokens,
and the matches inside of it if they were looked for. -/
inductive Placement where
  | mk (rule : Rule) (start length : Nat) (sub : Option (List Placement))

namespace Placement

/-- The rule that matched. -/
def rule : Placement → Rule
  | .mk rule _ _ _ => rule

/-- The place of the first token of the window. -/
def start : Placement → Nat
  | .mk _ start _ _ => start

/-- The number of tokens of the window. -/
def length : Placement → Nat
  | .mk _ _ length _ => length

/-- The matches inside, if they were looked for. -/
def sub : Placement → Option (List Placement)
  | .mk _ _ _ sub => sub

/-- The place behind the window. -/
def stop (p : Placement) : Nat := p.start + p.length

/-- The matches inside; none where they were not looked for. -/
def children (p : Placement) : List Placement := p.sub.getD []

/-- The tokens of the window. -/
def window (tokens : List Token) (p : Placement) : List Token := stretch tokens p.start p.stop

mutual

/-- The entry of a match. -/
def entry (tokens : List Token) : Placement → ParseEntry
  | .mk rule start length none =>
    .mk rule.name (rule.resultOn (stretch tokens start (start + length))) none
  | .mk rule start length (some ps) =>
    .mk rule.name (rule.resultOn (stretch tokens start (start + length))) (some (entries tokens ps))

/-- The entries of some matches. -/
def entries (tokens : List Token) : List Placement → List ParseEntry
  | [] => []
  | p :: ps => p.entry tokens :: entries tokens ps

end

/-- The entry of a match has the name of its rule, the result on its window, and the entries of the
matches inside. -/
theorem entry_mk (tokens : List Token) (r : Rule) (start length : Nat)
    (sub : Option (List Placement)) :
    entry tokens (.mk r start length sub) = .mk r.name
      (r.resultOn (stretch tokens start (start + length))) (sub.map (entries tokens)) := by
  cases sub <;> rfl

mutual

/-- What a run notes of a match, and of those inside of it, if it counts its places from one of the
list. -/
def note (origin : Nat) : Placement → List ParseEvent
  | .mk rule start length none => [.matched rule.name length (start - origin)]
  | .mk rule start length (some ps) =>
    .matched rule.name length (start - origin) :: notes (start + 1) ps

/-- What a run notes of some matches. -/
def notes (origin : Nat) : List Placement → List ParseEvent
  | [] => []
  | p :: ps => p.note origin ++ notes origin ps

end

/-- A match is noted before those inside of it, whose places count from behind its first token. -/
theorem note_mk (origin : Nat) (r : Rule) (start length : Nat) (sub : Option (List Placement)) :
    note origin (.mk r start length sub) =
      .matched r.name length (start - origin) :: (sub.map (notes (start + 1))).getD [] := by
  cases sub <;> rfl

/-- The matches fit between two places of a list of tokens: they come one behind the other, each
is one on the tokens up to the second place, and the matches inside of it fit between the first
and the last token of its window. -/
inductive Fits (rules : List Rule) (tokens : List Token) : Nat → Nat → List Placement → Prop
  | nil {lo hi : Nat} : Fits rules tokens lo hi []
  | cons {lo hi start : Nat} {r : Rule} {found : RuleMatch} {sub : Option (List Placement)}
      {ps : List Placement} (hrule : r ∈ rules) (hle : lo ≤ start)
      (htest : r.test (stretch tokens start hi) = some found)
      (hsub : ∀ inner, sub = some inner →
        Fits rules tokens (start + 1) (start + found.length - 1) inner)
      (hrest : Fits rules tokens (start + found.length) hi ps) :
      Fits rules tokens lo hi (.mk r start found.length sub :: ps)

/-- What fits from a place on fits from an earlier one on. -/
theorem Fits.of_le {rules : List Rule} {tokens : List Token} {lo lo' hi : Nat}
    {ps : List Placement} (h : Fits rules tokens lo hi ps) (hle : lo' ≤ lo) :
    Fits rules tokens lo' hi ps := by
  cases h with
  | nil => exact .nil
  | cons hrule hstart htest hsub hrest =>
    exact .cons hrule (Nat.le_trans hle hstart) htest hsub hrest

end Placement

namespace Engine

open Placement

/-- The matches of a run over the tokens from a place on, with their windows. -/
def placementsFrom (rules pending : List Rule) (matched : Bool) (place : Nat)
    (tokens : List Token) : List Placement :=
  match tokens, pending with
  | [], _ => []
  | t :: ts, [] =>
    if matched then placementsFrom rules rules false place (t :: ts)
    else placementsFrom rules rules false (place + 1) ts
  | t :: ts, r :: rs =>
    match htest : r.test (t :: ts) with
    | none => placementsFrom rules rs matched place (t :: ts)
    | some found =>
      have hbounds := Rule.test_bounds htest
      let window := (t :: ts).take found.length
      let inside : Option (List Placement) :=
        if r.hasSubRules then
          match hinner : interior window with
          | some inner =>
            have : inner.length < (t :: ts).length := by
              have hlen := length_of_interior hinner
              simp only [window, List.length_take] at hlen
              omega
            some (placementsFrom rules rules false (place + 1) inner)
          | none => none
        else none
      have : ((t :: ts).drop found.length).length < (t :: ts).length := by
        simp only [List.length_drop]
        omega
      .mk r place found.length inside ::
        placementsFrom rules rs true (place + found.length) ((t :: ts).drop found.length)
  termination_by (tokens.length, matched.toNat, pending.length)

/-- The matches of a parse, with their windows. -/
def placements (rules : List Rule) (tokens : List Token) : List Placement :=
  placementsFrom rules rules false 0 tokens

variable {rules pending : List Rule} {matched : Bool} {place : Nat} {r : Rule} {t : Token}
  {ts : List Token}

/-- The matches inside a window that starts at a place: those of its inside, if the rule asks for
them and there is one. -/
def placementsInside (rules : List Rule) (r : Rule) (place : Nat) (window : List Token) :
    Option (List Placement) :=
  if r.hasSubRules then (interior window).map (placementsFrom rules rules false (place + 1)) else none

/-- Inside of a window that is parsed again there are the matches of its inside. -/
theorem placementsInside_of_interior {window inner : List Token} (hsub : r.hasSubRules = true)
    (hinner : interior window = some inner) :
    placementsInside rules r place window =
      some (placementsFrom rules rules false (place + 1) inner) := by
  rw [placementsInside, if_pos hsub, hinner, Option.map_some]

/-- No matches are looked for inside of a window that is not parsed again or has no inside. -/
theorem placementsInside_eq_none {window : List Token}
    (hnone : r.hasSubRules = true → interior window = none) :
    placementsInside rules r place window = none := by
  rw [placementsInside]
  split
  · next hsub => rw [hnone hsub, Option.map_none]
  · rfl

/-- Without tokens there are no more matches. -/
theorem placementsFrom_nil (rules pending : List Rule) (matched : Bool) (place : Nat) :
    placementsFrom rules pending matched place [] = [] := by
  rw [placementsFrom]

/-- A pass with a match is followed by another at the same place. -/
theorem placementsFrom_again (rules : List Rule) (place : Nat) (t : Token) (ts : List Token) :
    placementsFrom rules [] true place (t :: ts) =
      placementsFrom rules rules false place (t :: ts) := by
  rw [placementsFrom, if_pos rfl]

/-- A pass without a match is followed by another behind the next token. -/
theorem placementsFrom_skip (rules : List Rule) (place : Nat) (t : Token) (ts : List Token) :
    placementsFrom rules [] false place (t :: ts) =
      placementsFrom rules rules false (place + 1) ts := by
  rw [placementsFrom, if_neg Bool.false_ne_true]

/-- A rule that does not match is passed over. -/
theorem placementsFrom_pass (htest : r.test (t :: ts) = none) :
    placementsFrom rules (r :: pending) matched place (t :: ts) =
      placementsFrom rules pending matched place (t :: ts) := by
  rw [placementsFrom]
  split
  · rfl
  · next found hfound => rw [htest] at hfound; cases hfound

/-- A rule that matches is noted with its window. -/
theorem placementsFrom_take {found : RuleMatch} (htest : r.test (t :: ts) = some found) :
    placementsFrom rules (r :: pending) matched place (t :: ts) =
      .mk r place found.length (placementsInside rules r place ((t :: ts).take found.length)) ::
        placementsFrom rules pending true (place + found.length) ((t :: ts).drop found.length) := by
  rw [placementsFrom]
  split
  · next hnone => rw [htest] at hnone; cases hnone
  · next found' hfound =>
    cases htest.symm.trans hfound
    dsimp only
    congr 2
    unfold placementsInside
    split
    · cases interior ((t :: ts).take found.length) <;> rfl
    · rfl

variable {tokens rest : List Token} {stop : Nat} {found : RuleMatch}

/-- A match in a stretch of the tokens ends where the stretch does, at the latest. -/
theorem add_length_le_of_test (hstop : stop ≤ tokens.length)
    (hrest : stretch tokens place stop = rest) (htest : r.test rest = some found) :
    place + found.length ≤ stop := by
  have hbounds := Rule.test_bounds htest
  rw [← hrest, length_stretch hstop] at hbounds
  omega

/-- The window of a match in a stretch is a stretch. -/
theorem stretch_eq_take_of_test (hstop : stop ≤ tokens.length)
    (hrest : stretch tokens place stop = rest) (htest : r.test rest = some found) :
    stretch tokens place (place + found.length) = rest.take found.length := by
  rw [← hrest, take_stretch (add_length_le_of_test hstop hrest htest)]

/-- The inside of the window of a match in a stretch is a stretch. -/
theorem stretch_eq_of_interior (hstop : stop ≤ tokens.length)
    (hrest : stretch tokens place stop = rest) (htest : r.test rest = some found)
    {inner : List Token} (hinner : interior (rest.take found.length) = some inner) :
    stretch tokens (place + 1) (place + found.length - 1) = inner := by
  have hend := add_length_le_of_test hstop hrest htest
  rw [← stretch_eq_take_of_test hstop hrest htest, interior_stretch (by omega)] at hinner
  split at hinner
  · exact Option.some.inj hinner
  · cases hinner

/-- The entries of a run are those of its matches. -/
theorem entries_placementsFrom (hstop : stop ≤ tokens.length)
    (hrest : stretch tokens place stop = rest) (place' : Nat) :
    Placement.entries tokens (placementsFrom rules pending matched place rest) =
      (runFrom rules pending matched place' rest).entries := by
  induction pending, matched, place, rest using placementsFrom.induct rules
    generalizing stop place' with
  | case1 pending matched place =>
    rw [placementsFrom_nil, entries_runFrom_nil, Placement.entries]
  | case2 place t ts ih =>
    rw [placementsFrom_again, entries_runFrom_again]
    exact ih hstop hrest place'
  | case3 matched place t ts hmatched ih =>
    cases matched with
    | true => exact absurd rfl hmatched
    | false =>
      rw [placementsFrom_skip, entries_runFrom_skip]
      refine ih hstop ?_ (place' + 1)
      rw [← drop_stretch, hrest, List.drop_one, List.tail_cons]
  | case4 matched place t ts r rs htest ih =>
    rw [placementsFrom_pass htest, entries_runFrom_pass htest]
    exact ih hstop hrest place'
  | case5 matched place t ts r rs found htest _ window hshorter ihinner =>
    rename_i ih
    have hend := add_length_le_of_test hstop hrest htest
    have hinside : (placementsInside rules r place ((t :: ts).take found.length)).map
        (Placement.entries tokens) = entriesInside rules r ((t :: ts).take found.length) := by
      unfold placementsInside entriesInside
      split
      · rw [Option.map_map]
        exact Option.map_congr fun inner hinner =>
          ihinner inner hinner (by omega) (stretch_eq_of_interior hstop hrest htest hinner) 0
      · rfl
    rw [placementsFrom_take htest, entries_runFrom_take htest, Placement.entries, entry_mk,
      stretch_eq_take_of_test hstop hrest htest, hinside]
    congr 1
    exact ih hstop (by rw [← drop_stretch, hrest]) _

/-- A run notes its matches, and nothing else as a match. -/
theorem notes_placementsFrom (rules pending : List Rule) (matched : Bool) (origin place : Nat)
    (rest : List Token) :
    notes origin (placementsFrom rules pending matched (origin + place) rest) =
      (runFrom rules pending matched place rest).events.filter ParseEvent.isMatch := by
  induction pending, matched, place, rest using runFrom.induct rules generalizing origin with
  | case1 pending matched place =>
    rw [placementsFrom_nil, runFrom_nil]
    rfl
  | case2 place t ts ih =>
    rw [placementsFrom_again, runFrom_again]
    exact ih origin
  | case3 matched place t ts hmatched ih =>
    obtain rfl := Bool.eq_false_iff.2 hmatched
    rw [placementsFrom_skip, runFrom_skip]
    exact ih origin
  | case4 matched place t ts r rs htest ih =>
    rw [placementsFrom_pass htest, runFrom_pass htest, ParseRun.events_append, List.filter_append,
      missRun, filter_map_called fun _ => rfl]
    exact ih origin
  | case5 matched place t ts r rs found htest _ window hshorter ihinner =>
    rename_i ih
    have hinside : ((placementsInside rules r (origin + place) window).map
        (notes (origin + place + 1))).getD [] =
          ((runInside rules r window).elim [] (·.events)).filter ParseEvent.isMatch := by
      unfold placementsInside runInside
      split
      · cases hinner : interior window with
        | none => rfl
        | some inner => exact ihinner inner hinner (origin + place + 1)
      · rfl
    rw [placementsFrom_take htest, runFrom_take htest, notes, note_mk, hinside,
      Nat.add_sub_cancel_left, ParseRun.events_append, List.filter_append, Nat.add_assoc, ih origin,
      matchRun, List.filter_append, filter_map_called fun _ => rfl, List.nil_append,
      List.filter_cons_of_pos rfl]

/-- The matches of a run fit between its place and the end of its tokens. -/
theorem fits_placementsFrom (hstop : stop ≤ tokens.length)
    (hrest : stretch tokens place stop = rest) (hpending : ∀ r ∈ pending, r ∈ rules) :
    Fits rules tokens place stop (placementsFrom rules pending matched place rest) := by
  induction pending, matched, place, rest using placementsFrom.induct rules
    generalizing stop with
  | case1 pending matched place =>
    rw [placementsFrom_nil]
    exact .nil
  | case2 place t ts ih =>
    rw [placementsFrom_again]
    exact ih hstop hrest fun r hr => hr
  | case3 matched place t ts hmatched ih =>
    cases matched with
    | true => exact absurd rfl hmatched
    | false =>
      rw [placementsFrom_skip]
      refine Fits.of_le (ih hstop ?_ fun r hr => hr) (Nat.le_succ place)
      rw [← drop_stretch, hrest, List.drop_one, List.tail_cons]
  | case4 matched place t ts r rs htest ih =>
    rw [placementsFrom_pass htest]
    exact ih hstop hrest fun r hr => hpending r (List.mem_cons_of_mem _ hr)
  | case5 matched place t ts r rs found htest _ window hshorter ihinner =>
    rename_i ih
    have hend := add_length_le_of_test hstop hrest htest
    rw [placementsFrom_take htest]
    refine .cons (hpending r List.mem_cons_self) (Nat.le_refl place) (by rw [hrest, htest]) ?_
      (ih hstop (by rw [← drop_stretch, hrest]) fun r hr => hpending r (List.mem_cons_of_mem _ hr))
    intro ps hps
    unfold placementsInside at hps
    split at hps
    · obtain ⟨inner, hinner, rfl⟩ := Option.map_eq_some_iff.1 hps
      exact ihinner inner hinner (by omega) (stretch_eq_of_interior hstop hrest htest hinner)
        fun r hr => hr
    · cases hps

/-- The entries of a parse are those of its matches. -/
theorem entries_placements (rules : List Rule) (tokens : List Token) :
    Placement.entries tokens (placements rules tokens) = parse rules tokens :=
  entries_placementsFrom (Nat.le_refl _) (stretch_all tokens) 0

/-- Some matches are those of a parse: its entries are made of them, and its run noted just them. -/
structure Recorded (rules : List Rule) (tokens : List Token) (ps : List Placement) : Prop where
  entries_eq : Placement.entries tokens ps = parse rules tokens
  notes_eq : notes 0 ps = (run rules tokens).events.filter ParseEvent.isMatch

/-- The matches of a parse are recorded in it. -/
theorem recorded_placements (rules : List Rule) (tokens : List Token) :
    Recorded rules tokens (placements rules tokens) where
  entries_eq := entries_placements rules tokens
  notes_eq := by
    have hnotes := notes_placementsFrom rules rules false 0 0 tokens
    rwa [Nat.add_zero] at hnotes

/-- The matches of a parse fit into the tokens. -/
theorem fits_placements (rules : List Rule) (tokens : List Token) :
    Fits rules tokens 0 tokens.length (placements rules tokens) :=
  fits_placementsFrom (Nat.le_refl _) (stretch_all tokens) fun _ hr => hr

/-- The entries of a run do not depend on how its places are counted. -/
theorem entries_runFrom_place (rules pending : List Rule) (matched : Bool) (place : Nat)
    (ts : List Token) : (runFrom rules pending matched place ts).entries =
      (runFrom rules pending matched 0 ts).entries :=
  (entries_placementsFrom (Nat.le_refl ts.length) (stretch_all ts) place).symm.trans
    (entries_placementsFrom (Nat.le_refl ts.length) (stretch_all ts) 0)

/-- Behind the last rule of a pass that made an entry the parse goes on as at the beginning. -/
theorem entries_runFrom_over (rules : List Rule) (place : Nat) (ts : List Token) :
    (runFrom rules [] true place ts).entries = parse rules ts := by
  rw [runFrom_over, entries_runFrom_place]
  rfl

end Engine

end GrammarKit
