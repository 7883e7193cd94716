import GrammarKit.Proofs.Pattern.RefusedSigns
import GrammarKit.Proofs.Pattern.Wrapping

/-!
# Which patterns are accepted

A token is defined by a pattern exactly if the pattern is well written by itself, with two
exceptions, since what is compiled is a text around the pattern. A pattern that closes a group which
it does not open closes the group around it, and may be accepted. A pattern that ends in a comment
takes the parenthesis behind it into the comment, and is refused.
-/

namespace GrammarKit

namespace Pattern

open GrammarKit.Text

namespace PatternReader

open Assembly

variable {f : Flags} {cs rest : List Char} {c : Char}

/-! ### Closing parentheses -/

/-- What is read from what comes before. -/
theorem exists_eq_of_run_bind_pure {α β : Type} {p : PatternReader α} {g : α → β} {b : β}
    (h : (p >>= fun a => pure (g a)).run cs = .ok (b, rest)) : ∃ a, b = g a := by
  obtain ⟨a, cs', -, h⟩ := Reader.run_bind_eq_ok_iff.1 h
  cases h
  exact ⟨a, rfl⟩

theorem ne_close_of_flagHead {s : Sign} (h : flagHead.run cs = .ok (s, rest)) : s ≠ .close := by
  obtain ⟨letters, cs₁, -, h⟩ := Reader.run_bind_eq_ok_iff.1 h
  obtain ⟨signs, cs₂, -, h⟩ := Reader.run_bind_eq_ok_iff.1 h
  obtain ⟨c, cs₃, -, h⟩ := Reader.run_bind_eq_ok_iff.1 h
  split at h
  · cases h; exact nofun
  · split at h
    · cases h
    · cases h; exact nofun

theorem ne_close_of_groupHead {s : Sign} (h : (groupHead f).run cs = .ok (s, rest)) :
    s ≠ .close := by
  rw [groupHead_eq] at h
  obtain ⟨_, cs₁, -, h⟩ := Reader.run_bind_eq_ok_iff.1 h
  obtain ⟨ds, cs₂, -, h⟩ := Reader.run_bind_eq_ok_iff.1 h
  unfold headOf at h
  split at h
  · cases h
  · cases h
  · cases h
  · cases h
  · obtain ⟨_, cs₃, -, h⟩ := Reader.run_bind_eq_ok_iff.1 h
    obtain ⟨name, rfl⟩ := exists_eq_of_run_bind_pure h
    exact nofun
  · obtain ⟨_, cs₃, -, h⟩ := Reader.run_bind_eq_ok_iff.1 h
    obtain ⟨name, rfl⟩ := exists_eq_of_run_bind_pure h
    exact nofun
  · obtain ⟨_, cs₃, -, h⟩ := Reader.run_bind_eq_ok_iff.1 h
    exact ne_close_of_flagHead h
  · cases h; exact nofun

theorem ne_close_of_countedRepetition {s : Sign} (h : (countedRepetition f).run cs = .ok (s, rest)) :
    s ≠ .close := by
  obtain ⟨_, cs₁, -, h⟩ := Reader.run_bind_eq_ok_iff.1 h
  obtain ⟨least, cs₂, -, h⟩ := Reader.run_bind_eq_ok_iff.1 h
  obtain ⟨most, cs₃, -, h⟩ := Reader.run_bind_eq_ok_iff.1 h
  obtain ⟨_, cs₄, -, h⟩ := Reader.run_bind_eq_ok_iff.1 h
  obtain ⟨_, cs₅, -, h⟩ := Reader.run_bind_eq_ok_iff.1 h
  obtain ⟨isLazy, cs₆, -, h⟩ := Reader.run_bind_eq_ok_iff.1 h
  split at h
  · cases h
  · cases h; exact nofun

theorem ne_close_of_escapePart {s : Sign} (h : (escapePart f).run cs = .ok (s, rest)) :
    s ≠ .close := by
  obtain ⟨e, cs₁, -, h⟩ := Reader.run_bind_eq_ok_iff.1 h
  cases e with
  | literal c asByte =>
    obtain ⟨set, rfl⟩ := exists_eq_of_run_bind_pure h
    exact nofun
  | set set => cases h; exact nofun
  | look look => cases h; exact nofun

/-- Only a closing parenthesis is read as the end of a group. -/
theorem eq_close_of_sign (h : (sign f c).run cs = .ok (.close, rest)) : c = ')' := by
  unfold sign at h
  split at h
  · exact absurd rfl (ne_close_of_groupHead h)
  · rfl
  · cases h
  · obtain ⟨_, h⟩ := exists_eq_of_run_bind_pure h; cases h
  · obtain ⟨_, h⟩ := exists_eq_of_run_bind_pure h; cases h
  · obtain ⟨_, h⟩ := exists_eq_of_run_bind_pure h; cases h
  · obtain ⟨_, h⟩ := exists_eq_of_run_bind_pure h; cases h
  · exact absurd rfl (ne_close_of_countedRepetition h)
  · exact absurd rfl (ne_close_of_escapePart h)
  · obtain ⟨_, h⟩ := exists_eq_of_run_bind_pure h; cases h
  · cases h
  · cases h
  · obtain ⟨_, h⟩ := exists_eq_of_run_bind_pure h; cases h

/-- A reading comes to a closing parenthesis while no group is open. -/
def MeetsStrayClose (a : Assembly) (cs : List Char) : Prop :=
  ∃ a' back, Reader.Rounds assemblyStep a cs a' (')' :: back) ∧ a'.groups = []

/-- A stray parenthesis is refused. -/
theorem MeetsStrayClose.run_assembleFrom {a : Assembly} (h : MeetsStrayClose a cs) :
    (assembleFrom a).run cs = .error .malformed := by
  obtain ⟨a', back, hrounds, ha'⟩ := h
  rw [assembleFrom, hrounds.run_loop]
  exact run_assembleFrom_close_error ha' back

theorem MeetsStrayClose.here {a : Assembly} (ha : a.groups = []) (back : List Char) :
    MeetsStrayClose a (')' :: back) :=
  ⟨a, back, .none, ha⟩

theorem MeetsStrayClose.next {a a' : Assembly} {cs' : List Char}
    (hstep : (assemblyStep a c).run cs = .ok (.inl a', cs')) (h : MeetsStrayClose a' cs') :
    MeetsStrayClose a (c :: cs) := by
  obtain ⟨a'', back, hrounds, ha''⟩ := h
  exact ⟨a'', back, .next hstep hrounds, ha''⟩

/-! ### Reading inside of a group and by itself -/

/-- A sign that can be read inside of a further group can be read without it, unless it closes that
group. -/
theorem push_of_inside {a b : Assembly} {s : Sign} (g : OpenGroup) (h : (a.inside g).push s = .ok b) :
    (∃ a', a.push s = .ok a' ∧ b = a'.inside g) ∨ s = .close ∧ a.groups = [] := by
  cases hpush : a.push s with
  | ok a' =>
    rw [push_inside g hpush] at h
    cases h
    exact .inl ⟨a', rfl, rfl⟩
  | error e =>
    right
    cases s with
    | close =>
      cases hgroups : a.groups with
      | nil => exact ⟨rfl, rfl⟩
      | cons g' outer => simp [push, hgroups] at hpush
    | repetition min max lazyMark =>
      obtain ⟨flags, parts, branches, groups, captures, names⟩ := a
      cases parts with
      | nil => cases h
      | cons t rest =>
        simp only [push, inside] at h hpush
        split at h
        · next hrepeatable =>
          rw [if_pos hrepeatable] at hpush
          cases hpush
        · cases h
    | openCapture name =>
      by_cases hname : name.any a.names.contains = true
      · have hrefused : (a.inside g).push (.openCapture name) = .error .malformed := if_pos hname
        rw [hrefused] at h
        cases h
      · rw [push, if_neg hname] at hpush
        cases hpush
    | part t => cases hpush
    | flagChange signs => cases hpush
    | openPlain signs => cases hpush
    | bar => cases hpush

/-- Behind a part an empty brace is refused. -/
theorem run_assembleFrom_emptyBrace {a : Assembly} {ds : List Char}
    (hds : skipSpace a.flags.verbose ds = []) (r : Tree × List Char) :
    (assembleFrom a).run ('\x7b' :: (ds ++ [')'])) ≠ .ok r := by
  intro h
  rw [assembleFrom, Reader.loop_cons, assemblyStep_eq_sign a (by decide) (by decide)] at h
  have hrepetition {r' : Assembly ⊕ Tree} {cs' : List Char} :
      (sign a.flags '\x7b' >>= fun s => do return .inl (← Reader.ofExcept (a.push s))).run
        (ds ++ [')']) ≠ .ok (r', cs') := by
    intro hrun
    obtain ⟨s, cs'', hsign, -⟩ := Reader.run_bind_eq_ok_iff.1 hrun
    exact run_countedRepetition_emptyBrace hds _ hsign
  split at h
  · cases h
  · next hrun => exact hrepetition hrun
  · next hrun => exact hrepetition hrun

/-- A sign that is refused by itself, and inside of a group leads to the end of the pattern, closes
that group. -/
theorem eq_close_of_sign_refused {a b : Assembly} {s : Sign} (g : OpenGroup) {mid : List Char}
    {e : PatternError} {r : Tree × List Char} (herror : (sign a.flags c).run cs = .error e)
    (hsign : (sign a.flags c).run (cs ++ [')']) = .ok (s, mid)) (hpush : (a.inside g).push s = .ok b)
    (hend : (assembleFrom b).run mid = .ok r) : s = .close ∧ a.groups = [] := by
  obtain ⟨a', ha', rfl⟩ | hclose := push_of_inside g hpush
  · -- Nothing is left to close the group, or an empty brace that is refused.
    exfalso
    obtain rfl | ⟨⟨t, rfl⟩, ds, rfl, hds⟩ := sign_refused herror hsign
    · cases (run_assembleFrom_inside_nil g a').symm.trans hend
    · cases ha'
      refine absurd hend (run_assembleFrom_emptyBrace ?_ r)
      exact hds
  · exact hclose

/-- A sign that by itself is refused, or has no place, and inside of a group leads to the end of the
pattern, closes that group. -/
theorem eq_close_of_round_refused {a b : Assembly} {s : Sign} (g : OpenGroup) {mid : List Char}
    {e : PatternError} {r : Tree × List Char}
    (herror : (sign a.flags c >>= fun s => do
      return (.inl (← Reader.ofExcept (a.push s)) : Assembly ⊕ Tree)).run cs = .error e)
    (hsign : (sign a.flags c).run (cs ++ [')']) = .ok (s, mid)) (hpush : (a.inside g).push s = .ok b)
    (hend : (assembleFrom b).run mid = .ok r) : s = .close ∧ a.groups = [] := by
  cases hown : (sign a.flags c).run cs with
  | error e' => exact eq_close_of_sign_refused g hown hsign hpush hend
  | ok r' =>
    have hs : s = r'.1 := by
      obtain hsame | ⟨-, hsame⟩ := enclosable_sign a.flags c cs hown
      all_goals exact congrArg Prod.fst (Except.ok.inj (hsign.symm.trans hsame))
    obtain ⟨a', ha', -⟩ | hclose := push_of_inside g hpush
    · rw [Reader.run_bind_ok hown, ← hs, ha'] at herror
      cases herror
    · exact hclose

/-- A round that is refused by itself, and inside of a group leads to the end of the pattern, has come
to a stray parenthesis. -/
theorem eq_close_of_step_refused {a : Assembly} (g : OpenGroup) {e : PatternError}
    {r : Tree × List Char} (herror : (assemblyStep a c).run cs = .error e)
    (hok : (assembleFrom (a.inside g)).run (c :: cs ++ [')']) = .ok r) : c = ')' ∧ a.groups = [] := by
  have hflags : (a.inside g).flags = a.flags := rfl
  unfold assemblyStep at herror
  split at herror
  · cases herror
  · next hspace =>
    split at herror
    · cases herror
    · next hcomment =>
      rw [List.cons_append, assembleFrom, Reader.loop_cons, assemblyStep, hflags, if_neg hspace,
        if_neg hcomment] at hok
      split at hok
      · cases hok
      · next b mid hstep =>
        obtain ⟨s, cs', hsign, hstep⟩ := Reader.run_bind_eq_ok_iff.1 hstep
        obtain ⟨b', cs'', hread, hstep⟩ := Reader.run_bind_eq_ok_iff.1 hstep
        obtain ⟨hpush, rfl⟩ := Reader.run_ofExcept_eq_ok_iff.1 hread
        cases hstep
        obtain ⟨rfl, hgroups⟩ := eq_close_of_round_refused g herror hsign hpush hok
        exact ⟨eq_close_of_sign hsign, hgroups⟩
      · next t mid hstep =>
        -- A round over a pattern never ends the loop.
        obtain ⟨s, cs', -, hstep⟩ := Reader.run_bind_eq_ok_iff.1 hstep
        obtain ⟨b', cs'', -, hstep⟩ := Reader.run_bind_eq_ok_iff.1 hstep
        cases hstep

/-- A pattern that is refused by itself and accepted inside of a group meets a stray parenthesis. -/
theorem meetsStrayClose_of_refused {a : Assembly} (g : OpenGroup) {e : PatternError}
    {r : Tree × List Char} (herror : (assembleFrom a).run cs = .error e)
    (hok : (assembleFrom (a.inside g)).run (cs ++ [')']) = .ok r) : MeetsStrayClose a cs := by
  change Reader.loopOn assemblyStep finish a cs = .error e at herror
  fun_induction Reader.loopOn assemblyStep finish a cs with
  | case1 a =>
    -- A group of the pattern is open at its end; the parenthesis closes that one and not the other.
    exfalso
    obtain ⟨a', hpush⟩ : ∃ a', a.push .close = .ok a' := by
      cases hgroups : a.groups with
      | nil =>
        rw [finish, hgroups] at herror
        cases herror
      | cons g' outer =>
        simp only [push, hgroups]
        exact ⟨_, rfl⟩
    have hstep : (assemblyStep (a.inside g) ')').run [] = .ok (.inl (a'.inside g), []) := by
      rw [assemblyStep_close, push_inside g hpush]
      rfl
    rw [List.nil_append, assembleFrom, Reader.run_loop_next hstep] at hok
    cases (run_assembleFrom_inside_nil g a').symm.trans hok
  | case2 a c cs e' hstep =>
    obtain ⟨rfl, hgroups⟩ := eq_close_of_step_refused g hstep hok
    exact .here hgroups cs
  | case3 a c cs a' cs' hstep hle ih =>
    rw [List.cons_append, assembleFrom] at hok
    obtain hsame | ⟨rfl, hlost⟩ := enclosable_assemblyStep _ _ _ (run_assemblyStep_inside g hstep)
    · rw [Reader.run_loop_next hsame] at hok
      exact .next hstep (ih hok herror)
    · rw [Reader.run_loop_next hlost] at hok
      cases (run_assembleFrom_inside_nil g a').symm.trans hok
  | case4 a c cs t cs' hstep => cases herror

end PatternReader

/-! ### Well-written patterns -/

/-- The pattern closes a group that it does not open. -/
def HasStrayClose (pattern : List Char) : Prop := PatternReader.MeetsStrayClose {} pattern

/-- A pattern with a stray parenthesis is not well written by itself. -/
theorem HasStrayClose.ofPattern {pattern : List Char} (h : HasStrayClose pattern) :
    Tree.ofPattern pattern = .error .malformed := by
  rw [Tree.ofPattern, PatternReader.MeetsStrayClose.run_assembleFrom h]
  rfl

/-- A pattern that is well written only inside of the group around it closes that group. -/
theorem hasStrayClose_of_refused {pattern : List Char} {e : PatternError} {t : Tree}
    (herror : Tree.ofPattern pattern = .error e) (h : Tree.ofPattern (anchored pattern) = .ok t) :
    HasStrayClose pattern := by
  obtain ⟨rest, hrun⟩ := exists_run_of_ofPattern h
  rw [PatternReader.run_assembleFrom_anchored] at hrun
  cases hown : (PatternReader.assembleFrom {}).run pattern with
  | error e' => exact PatternReader.meetsStrayClose_of_refused Assembly.anchorGroup hown hrun
  | ok r =>
    rw [Tree.ofPattern, hown] at herror
    cases herror

/-! ### Patterns within the limits -/

/-- What the pattern stands for, if it is well written, is nested no deeper and takes no more room
than is allowed. -/
def WithinLimits (pattern : List Char) : Prop :=
  ∀ t, Tree.ofPattern pattern = .ok t → t.depth ≤ Tree.depthLimit ∧ t.toRegex.size ≤ Regex.sizeLimit

/-- Within the limits the well-written patterns compile. -/
theorem exists_compile_iff {pattern : List Char} (hlimits : WithinLimits pattern) :
    (∃ r, compile pattern = .ok r) ↔ ∃ t, Tree.ofPattern pattern = .ok t := by
  constructor
  · rintro ⟨r, hr⟩
    obtain ⟨t, ht, -⟩ := exists_tree_of_compile hr
    exact ⟨t, ht⟩
  · rintro ⟨t, ht⟩
    exact ⟨_, compile_eq_ok_iff.2 ⟨t, ht, hlimits t ht, rfl⟩⟩

/-- A pattern that compiles is within the limits. -/
theorem WithinLimits.of_compile {pattern : List Char} (h : ∃ r, compile pattern = .ok r) :
    WithinLimits pattern := by
  obtain ⟨r, hr⟩ := h
  obtain ⟨t, ht, hlimits, -⟩ := compile_eq_ok_iff.1 hr
  intro u hu
  rw [ht] at hu
  cases hu
  exact hlimits

/-- A pattern that is not well written goes beyond no limit. -/
theorem WithinLimits.of_refused {pattern : List Char} (h : ¬ ∃ t, Tree.ofPattern pattern = .ok t) :
    WithinLimits pattern :=
  fun t ht => absurd ⟨t, ht⟩ h

/-- The group around a pattern needs its own share of what is allowed: within the limits there, the
pattern is within the limits. -/
theorem WithinLimits.of_anchored {pattern : List Char} (hcomment : ¬ EndsInComment pattern)
    (h : WithinLimits (anchored pattern)) : WithinLimits pattern := by
  intro t ht
  obtain ⟨-, hanchored⟩ | ⟨hends, -⟩ := ofPattern_anchored ht
  · obtain ⟨hdepth, hsize⟩ := h _ hanchored
    have hdepth' : t.depth ≤ (Tree.concat [.look .textStart, .group none t]).depth := by
      simp only [Tree.depth, Tree.depth.depthOfList]
      omega
    have hsize' : t.toRegex.size ≤ (Tree.concat [.look .textStart, .group none t]).toRegex.size :=
      Nat.le_add_left _ _
    exact ⟨Nat.le_trans hdepth' hdepth, Nat.le_trans hsize' hsize⟩
  · exact absurd hends hcomment

/-! ### Anchored patterns -/

/-- A pattern that closes no group of others and does not end in a comment compiles inside of the
group around it exactly if it compiles by itself. -/
theorem exists_compile_anchored_iff {pattern : List Char} (hlimits : WithinLimits (anchored pattern))
    (hclose : ¬ HasStrayClose pattern) (hcomment : ¬ EndsInComment pattern) :
    (∃ r, compile (anchored pattern) = .ok r) ↔ ∃ r, compile pattern = .ok r := by
  rw [exists_compile_iff hlimits, exists_compile_iff (hlimits.of_anchored hcomment)]
  cases ht : Tree.ofPattern pattern with
  | error e =>
    constructor
    · rintro ⟨t, hanchored⟩
      exact absurd (hasStrayClose_of_refused ht hanchored) hclose
    · rintro ⟨t, h⟩
      cases h
  | ok t =>
    obtain ⟨-, hanchored⟩ | ⟨hends, -⟩ := ofPattern_anchored ht
    · exact ⟨fun _ => ⟨t, rfl⟩, fun _ => ⟨_, hanchored⟩⟩
    · exact absurd hends hcomment

/-- Inside of the group around it a pattern that ends in a comment does not compile. -/
theorem EndsInComment.compile_anchored {pattern : List Char} (h : EndsInComment pattern) (r : Regex) :
    compile (anchored pattern) ≠ .ok r := by
  intro hr
  obtain ⟨u, hu, -⟩ := exists_tree_of_compile hr
  obtain ⟨t, ht, hsame⟩ := h
  obtain ⟨hends, -⟩ | ⟨-, hrefused⟩ := ofPattern_anchored ht
  · exact hends ⟨t, ht, hsame⟩
  · rw [hu] at hrefused
    cases hrefused

end Pattern

namespace TokenMatcher

open Pattern

/-- A kind that is not blank is defined exactly if the anchored pattern compiles, and otherwise the
pattern is named as the fault. -/
theorem define_of_compile {kind : String} (pattern : String) (hkind : Text.isBlank kind = false) :
    ((∃ m, define kind pattern = .ok m) ↔ ∃ r, compile (anchored pattern.toList) = .ok r) ∧
      ∀ e, define kind pattern = .error e → ∃ cause, e = .invalidPattern kind cause := by
  rw [define, dif_pos hkind]
  split
  · next r hr => exact ⟨⟨fun _ => ⟨r, hr⟩, fun _ => ⟨_, rfl⟩⟩, nofun⟩
  · next cause hcause =>
    refine ⟨⟨nofun, ?_⟩, fun e he => ⟨cause, (Except.error.inj he).symm⟩⟩
    rintro ⟨r, hr⟩
    rw [hr] at hcause
    cases hcause

/-- Within the limits, a kind is defined exactly if its pattern compiles by itself, as long as the
pattern neither closes a group that it does not open nor ends in a comment. The first never compiles
by itself, and may be accepted; the second compiles by itself, and is never accepted. What is not
accepted is refused for its pattern, under the name of the kind. -/
theorem exists_define_iff_compile (kind pattern : String) (hkind : Text.isBlank kind = false)
    (hown : WithinLimits pattern.toList) (hanchored : WithinLimits (anchored pattern.toList)) :
    (¬ HasStrayClose pattern.toList → ¬ EndsInComment pattern.toList →
      ((∃ m, define kind pattern = .ok m) ↔ ∃ r, compile pattern.toList = .ok r)) ∧
    (HasStrayClose pattern.toList → ¬ ∃ r, compile pattern.toList = .ok r) ∧
    (EndsInComment pattern.toList →
      (∃ r, compile pattern.toList = .ok r) ∧ ¬ ∃ m, define kind pattern = .ok m) ∧
    ((∃ m, define kind pattern = .ok m) ∨
      ∃ cause, define kind pattern = .error (.invalidPattern kind cause)) := by
  obtain ⟨hdefine, hrefused⟩ := define_of_compile pattern hkind
  refine ⟨fun hclose hcomment => ?_, ?_, fun hcomment => ⟨?_, ?_⟩, ?_⟩
  · exact hdefine.trans (exists_compile_anchored_iff hanchored hclose hcomment)
  · rintro hclose ⟨r, hr⟩
    obtain ⟨t, ht, -⟩ := exists_tree_of_compile hr
    rw [hclose.ofPattern] at ht
    cases ht
  · obtain ⟨t, ht, -⟩ := hcomment
    exact (exists_compile_iff hown).2 ⟨t, ht⟩
  · rw [hdefine]
    rintro ⟨r, hr⟩
    exact hcomment.compile_anchored r hr
  · cases h : define kind pattern with
    | ok m => exact .inl ⟨m, rfl⟩
    | error e =>
      obtain ⟨cause, rfl⟩ := hrefused e h
      exact .inr ⟨cause, rfl⟩

/-- A pattern with parentheses in a class and in a comment, which ends before the pattern does. -/
theorem exists_define_iff_compile_commented :
    Text.isBlank "k" = false ∧ WithinLimits "(?x)[)]+ # )\n(a)".toList ∧
      WithinLimits (anchored "(?x)[)]+ # )\n(a)".toList) ∧
      ¬ HasStrayClose "(?x)[)]+ # )\n(a)".toList ∧ ¬ EndsInComment "(?x)[)]+ # )\n(a)".toList ∧
      ((∃ m, define "k" "(?x)[)]+ # )\n(a)" = .ok m) ↔
        ∃ r, compile "(?x)[)]+ # )\n(a)".toList = .ok r) ∧
      ∃ m, define "k" "(?x)[)]+ # )\n(a)" = .ok m := by
  have hkind : Text.isBlank "k" = false := by decide
  have hcompiles : ∃ r, compile "(?x)[)]+ # )\n(a)".toList = .ok r :=
    isOk_iff_exists.1 (by decide +kernel)
  have hown := WithinLimits.of_compile hcompiles
  have hanchored : WithinLimits (anchored "(?x)[)]+ # )\n(a)".toList) :=
    .of_compile (isOk_iff_exists.1 (by decide +kernel))
  obtain ⟨m, hm, -⟩ := exists_define "k" "(?x)[)]+ # )\n(a)" hkind (by decide +kernel)
  obtain ⟨hiff, hclose, hcomment, -⟩ :=
    exists_define_iff_compile "k" "(?x)[)]+ # )\n(a)" hkind hown hanchored
  have hstray : ¬ HasStrayClose "(?x)[)]+ # )\n(a)".toList := fun h => hclose h hcompiles
  have hends : ¬ EndsInComment "(?x)[)]+ # )\n(a)".toList := fun h => (hcomment h).2 ⟨m, hm⟩
  exact ⟨hkind, hown, hanchored, hstray, hends, hiff hstray hends, m, hm⟩

/-- A pattern that ends in a comment compiles and is not accepted, and one that closes the group
around it does not compile and is accepted. -/
theorem define_differs_from_compile :
    (WithinLimits "(?x)a#".toList ∧ WithinLimits (anchored "(?x)a#".toList) ∧
      (∃ r, compile "(?x)a#".toList = .ok r) ∧ ¬ ∃ m, define "k" "(?x)a#" = .ok m) ∧
    WithinLimits "a)(?:b".toList ∧ WithinLimits (anchored "a)(?:b".toList) ∧
      (¬ ∃ r, compile "a)(?:b".toList = .ok r) ∧ ∃ m, define "k" "a)(?:b" = .ok m := by
  refine ⟨?commented, ?stray⟩
  case commented =>
    have hcompiles : ∃ r, compile "(?x)a#".toList = .ok r := isOk_iff_exists.1 (by decide +kernel)
    have hrefused : ¬ ∃ t, Tree.ofPattern (anchored "(?x)a#".toList) = .ok t :=
      mt isOk_iff_exists.2 (by decide +kernel)
    have hanchored := WithinLimits.of_refused hrefused
    refine ⟨.of_compile hcompiles, hanchored, hcompiles, ?_⟩
    rw [(define_of_compile _ (by decide)).1, exists_compile_iff hanchored]
    exact hrefused
  case stray =>
    have hrefused : ¬ ∃ t, Tree.ofPattern "a)(?:b".toList = .ok t :=
      mt isOk_iff_exists.2 (by decide +kernel)
    have hown := WithinLimits.of_refused hrefused
    have hcompiles : ∃ r, compile (anchored "a)(?:b".toList) = .ok r :=
      isOk_iff_exists.1 (by decide +kernel)
    refine ⟨hown, .of_compile hcompiles, ?_, (define_of_compile _ (by decide)).1.2 hcompiles⟩
    rw [exists_compile_iff hown]
    exact hrefused

end TokenMatcher

end GrammarKit
