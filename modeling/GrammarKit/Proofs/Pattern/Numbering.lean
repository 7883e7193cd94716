import GrammarKit.Proofs.Pattern.Anchoring

/-!
# The numbers of captures

The groups of a pattern that capture are numbered from one on, in the order in which they open.
What is being read keeps this order: the captures of the groups that are open, of the branches that
are finished and of the parts at hand are, from the outside to the inside and from the left to the
right, all captures so far.

The regular expression has no part that is to come no time at all, nor the captures in it. The
others keep their numbers, and a match keeps no capture with another number.
-/

namespace GrammarKit.Pattern

namespace Tree

/-- The numbers of the captures in a tree, in the order in which their groups open. Repetitions are
entered where their upper bound allows it. -/
def capturesWithin (enters : Option Nat → Bool) : Tree → List Nat
  | .empty => []
  | .flagChange => []
  | .chars _ _ => []
  | .look _ => []
  | .repeated _ max _ t => if enters max then t.capturesWithin enters else []
  | .group index t => index.toList ++ t.capturesWithin enters
  | .alternation ts => ofList enters ts
  | .concat ts => ofList enters ts
where
  /-- The numbers of the captures in some trees. -/
  ofList (enters : Option Nat → Bool) : List Tree → List Nat
    | [] => []
    | t :: ts => t.capturesWithin enters ++ ofList enters ts

/-- The numbers of all captures that are written. -/
def captures (t : Tree) : List Nat :=
  t.capturesWithin fun _ => true

/-- The numbers of the captures that stand in no part which is repeated no time at all. -/
def liveCaptures (t : Tree) : List Nat :=
  t.capturesWithin (· ≠ some 0)

theorem capturesWithin_ofList (enters : Option Nat → Bool) (ts : List Tree) :
    capturesWithin.ofList enters ts = ts.flatMap (capturesWithin enters) := by
  induction ts with
  | nil => rfl
  | cons t ts ih => rw [capturesWithin.ofList, ih, List.flatMap_cons]

theorem captures_ofParts (ts : List Tree) : (ofParts ts).captures = ts.flatMap captures := by
  match ts with
  | [] => rfl
  | [t] => exact (List.append_nil _).symm
  | t :: u :: ts => exact capturesWithin_ofList _ _

theorem captures_ofBranches (ts : List Tree) : (ofBranches ts).captures = ts.flatMap captures := by
  match ts with
  | [] => rfl
  | [t] => exact (List.append_nil _).symm
  | t :: u :: ts => exact capturesWithin_ofList _ _

end Tree

/-- Whether a sign that stands for a part of its own has no captures in it. -/
def Sign.IsLeaf : Sign → Prop
  | .part t => t.captures = []
  | _ => True

/-- The numbers of the captures of a group that is open, and of what stands before it. -/
def OpenGroup.captures (g : OpenGroup) : List Nat :=
  g.branches.reverse.flatMap Tree.captures ++ g.parts.reverse.flatMap Tree.captures ++
    g.index.toList

namespace Assembly

/-- The numbers of all captures that have been read, from the left to the right. -/
def captureNumbers (a : Assembly) : List Nat :=
  a.groups.reverse.flatMap OpenGroup.captures ++
    (a.branches.reverse.flatMap Tree.captures ++ a.parts.reverse.flatMap Tree.captures)

/-- The captures are numbered in the order in which their groups open. -/
def Numbered (a : Assembly) : Prop :=
  a.captureNumbers = List.range' 1 a.captures

theorem captures_content (a : Assembly) : a.content.captures =
    a.branches.reverse.flatMap Tree.captures ++ a.parts.reverse.flatMap Tree.captures := by
  rw [content, Tree.captures_ofBranches, List.reverse_cons, List.flatMap_append,
    List.flatMap_singleton, branch, Tree.captures_ofParts]

/-- Every sign keeps the numbers in order. -/
theorem Numbered.push {a a' : Assembly} {s : Sign} (h : a.Numbered) (hs : s.IsLeaf)
    (hpush : a.push s = .ok a') : a'.Numbered := by
  cases s with
  | part t =>
    cases hpush
    have ht : t.captures = [] := hs
    simpa [Numbered, captureNumbers, ht] using h
  | repetition min max lazyMark =>
    simp only [Assembly.push] at hpush
    split at hpush
    · next t rest hparts =>
      split at hpush
      · cases hpush
        have ht (greedy : Bool) : (Tree.repeated min max greedy t).captures = t.captures := rfl
        simpa [Numbered, captureNumbers, hparts, ht] using h
      · cases hpush
    · cases hpush
  | flagChange signs =>
    cases hpush
    have ht : Tree.flagChange.captures = [] := rfl
    simpa [Numbered, captureNumbers, ht] using h
  | openPlain signs =>
    cases hpush
    simpa [Numbered, captureNumbers, OpenGroup.captures] using h
  | openCapture name =>
    simp only [Assembly.push] at hpush
    split at hpush
    · cases hpush
    · cases hpush
      rw [Numbered] at h ⊢
      rw [List.range'_1_concat, ← h, Nat.add_comm]
      simp [captureNumbers, OpenGroup.captures]
  | close =>
    simp only [Assembly.push] at hpush
    split at hpush
    · next g outer hgroups =>
      cases hpush
      have hgroup : (Tree.group g.index a.content).captures =
          g.index.toList ++ a.content.captures := rfl
      rw [captures_content] at hgroup
      simpa [Numbered, captureNumbers, OpenGroup.captures, hgroups, hgroup] using h
    · cases hpush
  | bar =>
    cases hpush
    simpa [Numbered, captureNumbers, branch, Tree.captures_ofParts] using h

/-- Where the last group has been closed, the tree has all captures that have been read. -/
theorem Numbered.finish {a : Assembly} {t : Tree} (h : a.Numbered) (hfinish : a.finish = .ok t) :
    t.captures = List.range' 1 a.captures := by
  unfold Assembly.finish at hfinish
  split at hfinish
  · next hgroups =>
    cases hfinish
    rw [Numbered, captureNumbers, List.isEmpty_iff.1 hgroups] at h
    rw [captures_content]
    exact h
  · cases hfinish

end Assembly

namespace PatternReader

variable {α β : Type}

/-- Whether all values of a reader have a property. -/
def Gives (P : α → Prop) (p : PatternReader α) : Prop :=
  ∀ ⦃cs a rest⦄, p.run cs = .ok (a, rest) → P a

theorem Gives.pure {P : α → Prop} {a : α} (h : P a) : Gives P (pure a) := by
  intro cs b rest hrun
  cases hrun
  exact h

theorem Gives.malformed {P : α → Prop} : Gives P malformed := nofun

theorem Gives.bind {P : β → Prop} {p : PatternReader α} {f : α → PatternReader β}
    (h : ∀ a, Gives P (f a)) : Gives P (p >>= f) := by
  intro cs b rest hrun
  obtain ⟨a, cs', -, hf⟩ := Reader.run_bind_eq_ok_iff.1 hrun
  exact h a hf

theorem Gives.ite {P : α → Prop} {c : Prop} [Decidable c] {p q : PatternReader α} (hp : Gives P p)
    (hq : Gives P q) : Gives P (if c then p else q) := by
  split
  · exact hp
  · exact hq

theorem isLeaf_groupHead (f : Flags) : Gives Sign.IsLeaf (groupHead f) := by
  refine .bind fun _ => .bind fun cs => ?_
  split
  · exact .malformed
  · exact .malformed
  · exact .malformed
  · exact .malformed
  · exact .bind fun _ => .bind fun _ => .pure trivial
  · exact .bind fun _ => .bind fun _ => .pure trivial
  · exact .bind fun _ => .bind fun _ => .bind fun _ => .bind fun _ =>
      .ite (.pure trivial) (.ite .malformed (.pure trivial))
  · exact .pure trivial

theorem isLeaf_escapePart (f : Flags) : Gives Sign.IsLeaf (escapePart f) := by
  refine .bind fun e => ?_
  cases e with
  | literal c asByte => exact .bind fun _ => .pure rfl
  | set s => exact .pure rfl
  | look l => exact .pure rfl

theorem isLeaf_countedRepetition (f : Flags) : Gives Sign.IsLeaf (countedRepetition f) :=
  .bind fun _ => .bind fun _ => .bind fun _ => .bind fun _ => .bind fun _ => .bind fun _ =>
    .ite .malformed (.pure trivial)

/-- No sign that is read brings captures with it: a group opens and closes by signs of its own. -/
theorem isLeaf_sign (f : Flags) (c : Char) : Gives Sign.IsLeaf (sign f c) := by
  unfold sign
  split
  · exact isLeaf_groupHead f
  · exact .pure trivial
  · exact .pure trivial
  · exact .bind fun v => .pure rfl
  · exact .bind fun _ => .pure trivial
  · exact .bind fun _ => .pure trivial
  · exact .bind fun _ => .pure trivial
  · exact isLeaf_countedRepetition f
  · exact isLeaf_escapePart f
  · exact .bind fun _ => .pure rfl
  · exact .pure rfl
  · exact .pure rfl
  · exact .bind fun _ => .pure rfl

end PatternReader

/-- The captures of a pattern are numbered from one on, in the order in which their groups open. -/
theorem captures_ofPattern {pattern : List Char} {t : Tree} (h : Tree.ofPattern pattern = .ok t) :
    t.captures = List.range' 1 t.captures.length := by
  obtain ⟨rest, hrun⟩ := exists_run_of_ofPattern h
  have hstart : Assembly.Numbered {} := rfl
  obtain ⟨a, ha, hfinish⟩ := PatternReader.exists_finish_of_run
    (fun ha hsign hpush => ha.push (PatternReader.isLeaf_sign _ _ hsign) hpush) hstart hrun
  rw [ha.finish hfinish, List.length_range']

/-! ### The captures of the regular expression -/

namespace Regex

/-- What is to come no time at all has no captures; other repetitions have those of their body. -/
theorem lastCapture_mkRepeated (min : Nat) (max : Option Nat) (greedy : Bool) (r : Regex) :
    (mkRepeated min max greedy r).lastCapture = if max = some 0 then 0 else r.lastCapture := by
  have hbound : some ((max.map (Nat.min · 1)).getD 1) = some 0 ↔ max = some 0 := by
    cases max with
    | none => simp
    | some m => cases m <;> simp
  unfold mkRepeated
  cases r.takesNothing with
  | true =>
    simp only [if_true, hbound]
    split
    · rfl
    · split <;> rfl
  | false =>
    simp only [Bool.false_eq_true, if_false]
    split
    · rfl
    · split <;> rfl

theorem lastCapture_concatList (rs : List Regex) :
    (concatList rs).lastCapture = (rs.map lastCapture).foldr max 0 := by
  induction rs with
  | nil => rfl
  | cons r rs ih =>
    cases rs with
    | nil => exact (Nat.max_zero _).symm
    | cons s rs => exact congrArg (max r.lastCapture) ih

theorem lastCapture_altList (rs : List Regex) :
    (altList rs).lastCapture = (rs.map lastCapture).foldr max 0 := by
  induction rs with
  | nil => rfl
  | cons r rs ih =>
    cases rs with
    | nil => exact (Nat.max_zero _).symm
    | cons s rs => exact congrArg (max r.lastCapture) ih

end Regex

/-- The highest number in two lists is the higher one of the two highest. -/
theorem foldr_max_append (is js : List Nat) :
    (is ++ js).foldr max 0 = max (is.foldr max 0) (js.foldr max 0) := by
  induction is with
  | nil => exact (Nat.zero_max _).symm
  | cons i is ih => rw [List.cons_append, List.foldr_cons, List.foldr_cons, ih, Nat.max_assoc]

namespace Tree

mutual

/-- The captures of a regular expression are the live ones of the tree that it is the meaning of. -/
theorem lastCapture_toRegex : (t : Tree) →
    t.toRegex.lastCapture = t.liveCaptures.foldr max 0
  | .empty => rfl
  | .flagChange => rfl
  | .chars _ _ => rfl
  | .look _ => rfl
  | .repeated min max greedy t => by
    have ht := lastCapture_toRegex t
    rw [toRegex, Regex.lastCapture_mkRepeated, ht, liveCaptures, liveCaptures, capturesWithin]
    by_cases hmax : max = some 0 <;> simp [hmax]
  | .group none t => lastCapture_toRegex t
  | .group (some i) t => by
    have ht := lastCapture_toRegex t
    rw [toRegex, Regex.lastCapture, ht]
    rfl
  | .alternation ts => by
    rw [toRegex, Regex.lastCapture_altList, lastCapture_toRegexList ts]
    rfl
  | .concat ts => by
    rw [toRegex, Regex.lastCapture_concatList, lastCapture_toRegexList ts]
    rfl

/-- The same for the parts or branches of a tree. -/
theorem lastCapture_toRegexList : (ts : List Tree) →
    ((toRegex.toRegexList ts).map Regex.lastCapture).foldr max 0 =
      (capturesWithin.ofList (· ≠ some 0) ts).foldr max 0
  | [] => rfl
  | t :: ts => by
    rw [toRegex.toRegexList, List.map_cons, List.foldr_cons, lastCapture_toRegex t,
      lastCapture_toRegexList ts, capturesWithin.ofList, foldr_max_append, liveCaptures]

end

/-- Where all of the captures one to n are live, the highest one has the number n. -/
theorem foldr_max_range' (n : Nat) : (List.range' 1 n).foldr max 0 = n := by
  induction n with
  | zero => rfl
  | succ n ih =>
    rw [List.range'_1_concat, foldr_max_append, ih]
    simp [Nat.add_comm]

end Tree

/-! ### The captures of a match -/

namespace Way

/-- Whether a way that is found keeps no captures with numbers beyond `last`, other than those that
were there before. -/
def KeepsUpTo (last : Nat) (k : Way) : Prop :=
  ∀ ⦃place captures passed stop captures' passed'⦄, (∀ c ∈ captures, c.index ≤ last) →
    k place captures passed = (some (stop, captures'), passed') → ∀ c ∈ captures', c.index ≤ last

namespace KeepsUpTo

variable {last : Nat} {k l : Way}

theorem none : KeepsUpTo last Way.none := by
  intro place captures passed stop captures' passed' _ h
  cases h

theorem done : KeepsUpTo last Way.done := by
  intro place captures passed stop captures' passed' hbefore h
  cases h
  exact hbefore

theorem orElse (hk : KeepsUpTo last k) (hl : KeepsUpTo last l) :
    KeepsUpTo last (Way.orElse k l) := by
  intro place captures passed stop captures' passed' hbefore h
  unfold Way.orElse at h
  split at h
  · next hfirst =>
    cases h
    exact hk hbefore hfirst
  · exact hl hbefore h

theorem fork (number : Nat) (hk : KeepsUpTo last k) (hl : KeepsUpTo last l) :
    KeepsUpTo last (Way.fork number k l) := by
  intro place captures passed stop captures' passed' hbefore h
  unfold Way.fork at h
  split at h
  · cases h
  · exact hk.orElse hl hbefore h

theorem choose (number : Nat) (greedy : Bool) (hk : KeepsUpTo last k) (hl : KeepsUpTo last l) :
    KeepsUpTo last (Way.choose number greedy k l) := by
  cases greedy with
  | true => exact hk.fork number hl
  | false => exact hl.fork number hk

section Rounds

variable {body : Nat → Way → Way}
  (hbody : ∀ number k, KeepsUpTo last k → KeepsUpTo last (body number k))

include hbody

theorem rounds (width n number : Nat) (hk : KeepsUpTo last k) :
    KeepsUpTo last (Regex.rounds body width n number k) := by
  induction n generalizing number with
  | zero => exact hk
  | succ n ih => exact hbody _ _ (ih _)

theorem upTo (width : Nat) (greedy : Bool) (n number : Nat) (hk : KeepsUpTo last k) :
    KeepsUpTo last (Regex.upTo body width greedy n number k) := by
  induction n generalizing number with
  | zero => exact hk
  | succ n ih => exact choose _ _ (hbody _ _ (ih _)) hk

theorem again (inner number : Nat) (greedy : Bool) (fuel : Nat) (hk : KeepsUpTo last k) :
    KeepsUpTo last (Regex.again (body inner) number greedy k fuel) := by
  induction fuel with
  | zero => exact none
  | succ fuel ih => exact choose _ _ (hbody _ _ ih) hk

end Rounds

/-- The ways through an expression keep its own captures and those of what stands behind. -/
theorem ways (text : Array Char) {r : Regex} (hr : r.lastCapture ≤ last) (number : Nat)
    (hk : KeepsUpTo last k) : KeepsUpTo last (Regex.ways text r number k) := by
  induction r generalizing number k with
  | empty => exact hk
  | chars s =>
    intro place captures passed stop captures' passed' hbefore h
    simp only [Regex.ways] at h
    split at h
    · split at h
      · exact hk hbefore h
      · cases h
    · cases h
  | look l =>
    intro place captures passed stop captures' passed' hbefore h
    simp only [Regex.ways] at h
    generalize (if place = 0 then Option.none else text[place - 1]?) = previous at h
    split at h
    · exact hk hbefore h
    · cases h
  | capture i r ih =>
    obtain ⟨hi, hr⟩ := Nat.max_le.1 hr
    intro place captures passed stop captures' passed' hbefore h
    refine ih hr number ?_ hbefore h
    intro stop captures passed stop' captures' passed' hinside h
    refine hk (fun c hc => ?_) h
    obtain rfl | hc := List.mem_cons.1 hc
    · exact hi
    · exact hinside c hc
  | concat r s ihr ihs =>
    obtain ⟨hr, hs⟩ := Nat.max_le.1 hr
    exact ihr hr _ (ihs hs _ hk)
  | alt r s ihr ihs =>
    obtain ⟨hr, hs⟩ := Nat.max_le.1 hr
    exact fork _ (ihr hr _ hk) (ihs hs _ hk)
  | repeated n max greedy r ih =>
    have hbody (number : Nat) (k : Way) (hk : KeepsUpTo last k) :
        KeepsUpTo last (Regex.ways text r number k) := ih hr number hk
    cases max with
    | some m => exact rounds hbody _ _ _ (upTo hbody _ _ _ _ hk)
    | none =>
      cases n with
      | zero =>
        simp only [Regex.ways]
        split
        · exact again hbody _ _ _ _ hk
        · exact choose _ _ (hbody _ _ (again hbody _ _ _ _ hk)) hk
      | succ n => exact rounds hbody _ _ _ (hbody _ _ (again hbody _ _ _ _ hk))

end KeepsUpTo

end Way

/-- A match has no capture with a number beyond the last one of its expression. -/
theorem Regex.capture?_eq_none {r : Regex} {text : Array Char} {start i : Nat} {found : Match}
    (h : r.matchAt text start = some found) (hi : r.lastCapture < i) : found.capture? i = none := by
  obtain ⟨⟨stop, captures⟩, hfound, rfl⟩ := Option.map_eq_some_iff.1 h
  have hkeeps := Way.KeepsUpTo.ways text (Nat.le_refl r.lastCapture) 0 Way.KeepsUpTo.done
  have hbefore : ∀ c ∈ ([] : List Capture), c.index ≤ r.lastCapture := nofun
  have hall : ∀ c ∈ captures, c.index ≤ r.lastCapture := hkeeps hbefore (Prod.ext hfound rfl)
  have hnone : captures.find? (·.index == i) = none := by
    rw [List.find?_eq_none]
    intro c hc heq
    have hle := hall c hc
    rw [eq_of_beq heq] at hle
    omega
  rw [Match.capture?, hnone, Option.map_none]

end GrammarKit.Pattern
