import GrammarKit.Proofs.Pattern.Anchoring
import GrammarKit.Proofs.Pattern.EnclosedSigns

/-!
# The tree of an anchored pattern

A pattern that is well written by itself is read inside of the group of the anchored pattern as it
is read alone, sign by sign: no sign of it looks at the groups that are open around it, and a closing
parenthesis of its own always finds a group of its own. At the end of the pattern only the group
around it is open, and the parenthesis that was put behind the pattern closes that group. So the
tree of the anchored pattern is the condition on the start of the text and the tree of the pattern.

This fails in one case, where the pattern ends in a comment. The parenthesis behind it is then part
of the comment, the group is never closed, and the anchored pattern is refused.
-/

namespace GrammarKit.Pattern

open GrammarKit.Text

namespace Assembly

/-- What has been read, inside of a further group around all of it. -/
def inside (g : OpenGroup) (a : Assembly) : Assembly :=
  { a with groups := a.groups ++ [g] }

/-- A sign that can be read can be read inside of a further group, and does the same there. -/
theorem push_inside {a a' : Assembly} {s : Sign} (g : OpenGroup) (h : a.push s = .ok a') :
    (a.inside g).push s = .ok (a'.inside g) := by
  cases s with
  | part t => cases h; rfl
  | repetition min max lazyMark =>
    obtain ⟨flags, parts, branches, groups, captures, names⟩ := a
    cases parts with
    | nil => cases h
    | cons t rest =>
      simp only [push, inside] at h ⊢
      split at h
      · next hrepeatable =>
        cases h
        exact if_pos hrepeatable
      · cases h
  | flagChange signs => cases h; rfl
  | openPlain signs => cases h; rfl
  | openCapture name =>
    simp only [push, inside] at h ⊢
    split at h
    · cases h
    · next hname =>
      cases h
      exact if_neg hname
  | close =>
    simp only [push, inside] at h ⊢
    split at h
    · next g' outer hgroups =>
      cases h
      rw [hgroups]
      rfl
    · cases h
  | bar => cases h; rfl

end Assembly

namespace PatternReader

open Assembly

theorem enclosable_assemblyStep (a : Assembly) (c : Char) : Enclosable (assemblyStep a c) := by
  refine .ite (.pure _) (.ite (enclosable_comment _) ?_)
  exact (enclosable_sign a.flags c).bind fun s => (Enclosable.ofExcept _).bind fun a' => .pure _

/-- A round over a pattern is the same inside of a further group. -/
theorem run_assemblyStep_inside {a a' : Assembly} {c : Char} {cs rest : List Char} (g : OpenGroup)
    (h : (assemblyStep a c).run cs = .ok (.inl a', rest)) :
    (assemblyStep (a.inside g) c).run cs = .ok (.inl (a'.inside g), rest) := by
  have hflags : (a.inside g).flags = a.flags := rfl
  unfold assemblyStep at h ⊢
  rw [hflags]
  split at h
  · next hspace =>
    cases h
    rw [if_pos hspace]
    rfl
  · next hspace =>
    rw [if_neg hspace]
    split at h
    · next hcomment =>
      cases h
      rw [if_pos hcomment]
      rfl
    · next hcomment =>
      obtain ⟨s, cs', hsign, h⟩ := Reader.run_bind_eq_ok_iff.1 h
      obtain ⟨a'', cs'', hread, h⟩ := Reader.run_bind_eq_ok_iff.1 h
      obtain ⟨hpush, rfl⟩ := Reader.run_ofExcept_eq_ok_iff.1 hread
      cases h
      rw [if_neg hcomment, Reader.run_bind_ok hsign, push_inside g hpush]
      rfl

/-- A pattern that ends while a group is open is refused. -/
theorem run_assembleFrom_inside_nil (g : OpenGroup) (a : Assembly) :
    (assembleFrom (a.inside g)).run [] = .error .malformed := by
  have hopen : (a.inside g).groups.isEmpty = false := by simp [inside]
  rw [assembleFrom, Reader.loop_nil, finish, hopen]
  rfl

/-- A pattern that is well written by itself is read to its end where a closing parenthesis comes
behind it, inside of a further group as well as by itself. If a comment has taken the parenthesis, by
itself the pattern is none the worse for it, but the group is never closed. -/
theorem run_assembleFrom_inside {a : Assembly} {cs rest : List Char} {t : Tree} (g : OpenGroup)
    (h : (assembleFrom a).run cs = .ok (t, rest)) :
    (∃ a' : Assembly, a'.finish = .ok t ∧
        (assembleFrom a).run (cs ++ [')']) = (assembleFrom a').run [')'] ∧
        (assembleFrom (a.inside g)).run (cs ++ [')']) = (assembleFrom (a'.inside g)).run [')']) ∨
      (assembleFrom a).run (cs ++ [')']) = .ok (t, rest) ∧
        (assembleFrom (a.inside g)).run (cs ++ [')']) = .error .malformed := by
  change Reader.loopOn assemblyStep finish a cs = .ok (t, rest) at h
  fun_induction Reader.loopOn assemblyStep finish a cs with
  | case1 a =>
    refine .inl ⟨a, ?_, rfl, rfl⟩
    cases hfinish : a.finish with
    | error e => rw [hfinish] at h; cases h
    | ok t' => rw [hfinish] at h; cases h; rfl
  | case2 a c cs e hstep => cases h
  | case3 a c cs a' cs' hstep hle ih =>
    rw [List.cons_append, assembleFrom, assembleFrom]
    obtain hsame | ⟨rfl, hlost⟩ := enclosable_assemblyStep a c cs hstep
    · rw [Reader.run_loop_next hsame, Reader.run_loop_next (run_assemblyStep_inside g hsame)]
      exact ih h
    · rw [Reader.run_loop_next hlost, Reader.run_loop_next (run_assemblyStep_inside g hlost)]
      exact .inr ⟨h, run_assembleFrom_inside_nil g a'⟩
  | case4 a c cs t' cs' hstep =>
    -- A round over a pattern never ends the loop.
    obtain ⟨a', ha', -⟩ := exists_push_of_run_step hstep
    cases ha'

/-- What is no space and begins no comment is the beginning of a sign. -/
theorem assemblyStep_eq_sign (a : Assembly) {c : Char} (hspace : isWhiteSpace c = false)
    (hcomment : (c == '#') = false) :
    assemblyStep a c =
      sign a.flags c >>= fun s => do return .inl (← Reader.ofExcept (a.push s)) := by
  rw [assemblyStep, hspace, hcomment, Bool.and_false, if_neg Bool.false_ne_true,
    if_neg Bool.false_ne_true]

theorem assemblyStep_close (a : Assembly) :
    assemblyStep a ')' = (do return .inl (← Reader.ofExcept (a.push .close))) := by
  rw [assemblyStep_eq_sign a (by decide) (by decide)]
  rfl

/-- A closing parenthesis is refused where no group is open. -/
theorem run_assembleFrom_close_error {a : Assembly} (ha : a.groups = []) (cs : List Char) :
    (assembleFrom a).run (')' :: cs) = .error .malformed := by
  have hpush : a.push .close = .error .malformed := by
    simp only [push, ha]
  rw [assembleFrom, Reader.loop_cons, assemblyStep_close, hpush]
  rfl

/-- The parenthesis behind a pattern that is read to its end closes the group around it. -/
theorem run_assembleFrom_close {a : Assembly} {t : Tree} (h : a.finish = .ok t) :
    (assembleFrom (a.inside anchorGroup)).run [')'] =
      .ok (.concat [.look .textStart, .group none t], []) := by
  obtain ⟨flags, parts, branches, groups, captures, names⟩ := a
  cases groups with
  | cons g outer => cases h
  | nil =>
    cases h
    have hstep :
        (assemblyStep ⟨flags, parts, branches, [anchorGroup], captures, names⟩ ')').run [] =
          .ok (.inl ⟨{}, [.group none (content ⟨flags, parts, branches, [], captures, names⟩),
            .look .textStart], [], [], captures, names⟩, []) := by
      rw [assemblyStep_close]
      rfl
    change (assembleFrom ⟨flags, parts, branches, [anchorGroup], captures, names⟩).run [')'] = _
    rw [assembleFrom, Reader.run_loop_next hstep, Reader.loop_nil]
    rfl

/-- Where a pattern has been read to its end no group is open. -/
theorem groups_eq_nil_of_finish {a : Assembly} {t : Tree} (h : a.finish = .ok t) : a.groups = [] := by
  rw [finish] at h
  split at h
  · next hgroups => exact List.isEmpty_iff.1 hgroups
  · cases h

end PatternReader

/-- A pattern is well written, and nothing changes if a closing parenthesis is put behind it. The
parenthesis is then part of a comment, since no group is open. -/
def EndsInComment (pattern : List Char) : Prop :=
  ∃ t, Tree.ofPattern pattern = .ok t ∧ Tree.ofPattern (pattern ++ [')']) = .ok t

/-- The tree of an anchored pattern, where the pattern has one by itself. -/
theorem ofPattern_anchored {pattern : List Char} {t : Tree} (h : Tree.ofPattern pattern = .ok t) :
    ¬ EndsInComment pattern ∧
        Tree.ofPattern (anchored pattern) = .ok (.concat [.look .textStart, .group none t]) ∨
      EndsInComment pattern ∧ Tree.ofPattern (anchored pattern) = .error .malformed := by
  obtain ⟨rest, hrun⟩ := exists_run_of_ofPattern h
  have hanchored : Tree.ofPattern (anchored pattern) =
      ((PatternReader.assembleFrom (Assembly.inside Assembly.anchorGroup {})).run
        (pattern ++ [')'])).map Prod.fst := by
    rw [Tree.ofPattern, PatternReader.run_assembleFrom_anchored]
    rfl
  rw [hanchored]
  obtain ⟨a, hfinish, hclose, hend⟩ | ⟨hsame, hrefused⟩ :=
    PatternReader.run_assembleFrom_inside Assembly.anchorGroup hrun
  · refine .inl ⟨?_, by rw [hend, PatternReader.run_assembleFrom_close hfinish]; rfl⟩
    rintro ⟨u, -, hu⟩
    rw [Tree.ofPattern, hclose, PatternReader.run_assembleFrom_close_error
      (PatternReader.groups_eq_nil_of_finish hfinish)] at hu
    cases hu
  · refine .inr ⟨⟨t, h, by rw [Tree.ofPattern, hsame]; rfl⟩, by rw [hrefused]; rfl⟩

/-- A pattern that compiles by itself is the whole of what stands behind the condition in the
anchored pattern. -/
theorem eq_concat_of_compile {pattern : List Char} {own r : Regex}
    (hown : compile pattern = .ok own) (h : compile (anchored pattern) = .ok r) :
    r = .concat (.look .textStart) own := by
  obtain ⟨t, ht, rfl⟩ := exists_tree_of_compile hown
  obtain ⟨u, hu, rfl⟩ := exists_tree_of_compile h
  obtain ⟨-, hsame⟩ | ⟨-, hrefused⟩ := ofPattern_anchored ht
  · rw [hu] at hsame
    cases hsame
    rfl
  · rw [hu] at hrefused
    cases hrefused

/-- A pattern that is well written by itself has no stray bar. -/
theorem hasStrayBar_eq_false {pattern : List Char} {t : Tree} (h : Tree.ofPattern pattern = .ok t) :
    hasStrayBar pattern = false := by
  rw [hasStrayBar]
  obtain ⟨-, hsame⟩ | ⟨-, hrefused⟩ := ofPattern_anchored h
  · rw [hsame]
  · rw [hrefused]

end GrammarKit.Pattern
