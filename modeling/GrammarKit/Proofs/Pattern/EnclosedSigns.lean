import GrammarKit.Pattern.Assembly
import GrammarKit.Proofs.Pattern.Enclosing

/-!
# The signs of a pattern inside of a group

Every sign of a pattern is read inside of a group as by itself: escapes, bracketed classes,
repetitions and the heads of groups. A sign that looks at what comes behind it, without taking it,
asks only for characters other than a closing parenthesis.

Inside of a class two questions have to be answered the same way: an opening bracket tries a named
class first and goes on otherwise if that fails, and a hyphen asks whether it makes a range.
-/

namespace GrammarKit.Pattern

open GrammarKit.Text

namespace PatternReader

/-! ### Escapes -/

theorem enclosable_number (f : Flags) : Enclosable (number f) := by
  have hspace : isWhiteSpace ')' = false := by decide
  refine (enclosable_takeWhile hspace).bind fun _ => ?_
  refine (enclosable_charsThenSpace f (by decide)).bind fun digits => ?_
  exact (enclosable_charsThenSpace f hspace).bind fun _ => .ite .malformed (.pure _)

theorem enclosable_hexDigits (f : Flags) (n : Nat) : Enclosable (hexDigits f n) := by
  induction n with
  | zero => exact .pure []
  | succ n ih =>
    exact (enclosable_charThenSpace f).bind fun c =>
      .ite .malformed (ih.bind fun cs => .pure (c :: cs))

theorem enclosable_hexEscape (f : Flags) (count : Nat) : Enclosable (hexEscape f count) := by
  unfold hexEscape
  refine (enclosable_space f).bind fun _ =>
    (unaware_eat (by decide)).enclosable.bind fun braced => ?_
  extract_lets value
  have hvalue (digits : List Char) : Enclosable (value digits) := by
    refine .ite .malformed ?_
    split
    · exact .pure _
    · exact .malformed
  refine .ite ?_ ((enclosable_hexDigits f count).bind hvalue)
  exact (enclosable_space f).bind fun _ =>
    (enclosableBeforeMore_charsThenSpace f _).bind_expect fun digits =>
      (Enclosable.pure digits).bind hvalue

theorem enclosable_propertyEscape (f : Flags) (negated : Bool) :
    Enclosable (propertyEscape f negated) := by
  unfold propertyEscape
  refine (enclosable_space f).bind fun _ => enclosable_char.bind fun c => ?_
  extract_lets value
  have hvalue (found : Option Unicode.CharSet) : Enclosable (value found) := by
    cases found with
    | none => exact .malformed
    | some s => exact .ite .malformed ((Enclosable.ofExcept _).bind fun _ => .pure _)
  refine .ite ?_ (.ite ?_ ((Enclosable.pure _).bind hvalue))
  · exact (enclosable_space f).bind fun _ =>
      (enclosableBeforeMore_charsThenSpace f _).bind_expect fun name =>
        (Enclosable.pure _).bind hvalue
  · exact Enclosable.malformed.bind hvalue

theorem enclosable_boundaryEscape (f : Flags) : Enclosable (boundaryEscape f) := by
  intro cs
  refine EnclosableOn.rest_bind ?_ ?_
  · split
    · next cs =>
      split
      · exact Enclosable.malformed _
      · next c hc =>
        split
        · refine EnclosableOn.drop_bind (Nat.succ_le_succ (Nat.zero_le _)) ?_
          refine (enclosable_space f).bind fun _ =>
            (enclosableBeforeMore_charsThenSpace f _).bind_expect fun name => ?_
          split
          · exact .pure _
          · exact .malformed
        · exact Enclosable.pure _ _
    · exact Enclosable.pure _ _
  · -- Behind a brace something must follow, and it hides the parenthesis from the boundary.
    intro b rest h
    split at h
    · next cs =>
      split at h
      · cases h
      · next c hc =>
        simp only [List.cons_append, head?_skipSpace_append_close hc]
    · next hne =>
      split
      · next t ht =>
        cases cs with
        | nil => exact absurd (List.head_eq_of_cons_eq ht) (by decide)
        | cons d cs =>
          obtain ⟨rfl, -⟩ := List.cons.inj ht
          exact absurd rfl (hne cs)
      · rfl

/-- What stands behind a backslash is read inside of a group as by itself. -/
theorem enclosable_escape (f : Flags) : Enclosable (escape f) := by
  refine enclosable_char.bind fun c => ?_
  split
  · exact enclosable_hexEscape f 2
  · exact enclosable_hexEscape f 4
  · exact enclosable_hexEscape f 8
  · exact enclosable_propertyEscape f false
  · exact enclosable_propertyEscape f true
  all_goals try exact .pure _
  all_goals try exact (Enclosable.ofExcept _).bind fun _ => .pure _
  · exact enclosable_boundaryEscape f
  · exact .ite (.pure _) .malformed

/-! ### Brackets -/

/-- A named class is tried with the same outcome inside of a group. -/
theorem unaware_namedClass (f : Flags) : Unaware (namedClass f) := by
  refine (unaware_expect (by decide)).bind fun _ => (unaware_eat (by decide)).bind fun negated => ?_
  refine Unaware.takeWhile_bind_expect (by decide) fun name => ?_
  refine (unaware_expect (by decide)).bind fun _ => ?_
  split
  · exact .ofExcept _
  · exact fun cs => rfl

theorem enclosable_classSign (f : Flags) (c : Char) : Enclosable (classSign f c) :=
  .ite (enclosable_escape f) (.pure _)

theorem enclosable_classLiteral (f : Flags) (e : Escape) : Enclosable (classLiteral f e) := by
  cases e with
  | literal c asByte => exact .ite .malformed (.pure c)
  | set s => exact .malformed
  | look l => exact .malformed

/-- A hyphen sees a closing parenthesis only where it sees nothing else. -/
theorem afterHyphen_append_close (verbose : Bool) (cs : List Char) :
    afterHyphen verbose (cs ++ [')']) = (afterHyphen verbose cs).or (some ')') := by
  have hdrop (ds : List Char) : (ds ++ [')']).dropWhile isWhiteSpace =
      ds.dropWhile isWhiteSpace ++ [')'] :=
    (takeWhile_append_close isWhiteSpace ds (.inl (by decide))).2
  cases verbose with
  | false => exact List.head?_append
  | true =>
    simp only [afterHyphen, if_true, hdrop]
    cases hcs : cs.dropWhile isWhiteSpace with
    | nil => rfl
    | cons c ds =>
      by_cases hc : c = '#'
      · subst hc
        change ((ds ++ [')']).dropWhile isWhiteSpace).head? = _
        rw [hdrop, List.head?_append]
        rfl
      · simp [hc]

/-- A closing parenthesis is neither of the signs that keep a hyphen from making a range. -/
theorem makesRange_append_close (verbose : Bool) (cs : List Char) :
    makesRange verbose (cs ++ [')']) = makesRange verbose cs := by
  have hor (o : Option Char) (d : Char) (hd : ')' ≠ d) :
      (o.or (some ')') != some d) = (o != some d) := by
    cases o with
    | none => simpa [bne] using hd
    | some c => rfl
  cases cs with
  | nil => rfl
  | cons c cs =>
    by_cases hc : c = '-'
    · subst hc
      change (afterHyphen verbose (cs ++ [')']) != _ && afterHyphen verbose (cs ++ [')']) != _) = _
      rw [afterHyphen_append_close, hor _ _ (by decide), hor _ _ (by decide)]
      rfl
    · simp [makesRange, hc]

theorem enclosable_classMember (f : Flags) (c : Char) : Enclosable (classMember f c) := by
  refine (enclosable_classSign f c).bind fun first => (enclosable_space f).bind fun _ cs => ?_
  refine EnclosableOn.rest_bind ?_ fun _ _ _ => by rw [makesRange_append_close]
  split
  · next hrange =>
    have hlength : 1 ≤ cs.length := by
      cases cs with
      | nil => cases hrange
      | cons d cs => exact Nat.succ_le_succ (Nat.zero_le _)
    refine EnclosableOn.drop_bind hlength ?_
    refine (enclosable_space f).bind fun _ => enclosable_char.bind fun d => ?_
    refine (enclosable_classSign f d).bind fun last => ?_
    refine (enclosable_classLiteral f first).bind fun lo => ?_
    exact (enclosable_classLiteral f last).bind fun hi => .ite (.pure _) .malformed
  · split
    · exact Enclosable.pure _ _
    · exact (enclosable_classLiteral f _).bind (fun _ => .pure _) _

theorem enclosable_bracketHead (f : Flags) : Enclosable (bracketHead f) := by
  unfold bracketHead
  refine (enclosable_space f).bind fun _ =>
    (unaware_eat (by decide)).enclosable.bind fun negated => ?_
  refine (enclosable_space f).bind fun _ =>
    (enclosable_charsThenSpace f (by decide)).bind fun hyphens => ?_
  refine .ite ((unaware_eat (by decide)).enclosable.bind fun closes => ?_) (.pure _)
  exact .ite ((enclosable_space f).bind fun _ => .pure _) (.pure _)

theorem enclosable_bracketStep (f : Flags) (state : OpenBracket × List OpenBracket) (c : Char) :
    Enclosable (bracketStep f state c) := by
  obtain ⟨b, outer⟩ := state
  unfold bracketStep
  refine .ite (.pure _) (.ite (enclosable_comment _) (.ite ?_ (.ite ?_ ?_)))
  · refine (unaware_namedClass f).attempt.enclosable.bind fun named => ?_
    cases named with
    | some s => exact .pure _
    | none => exact (enclosable_bracketHead f).bind fun _ => .pure _
  · refine (Enclosable.ofExcept _).bind fun v => ?_
    cases outer with
    | nil => exact .pure _
    | cons o outer => exact .pure _
  · intro cs
    refine EnclosableOn.peek_bind ?_ ?_
    · split
      · next op hop hsame =>
        have hlength : 1 ≤ cs.length := by
          cases cs with
          | nil => cases hsame
          | cons d cs => exact Nat.succ_le_succ (Nat.zero_le _)
        exact EnclosableOn.drop_bind hlength (.pure _)
      · exact (enclosable_classMember f c).bind (fun _ => .pure _) cs
    · -- A closing parenthesis is the sign of no operation, so it is never doubled into one.
      by_cases hc : c = ')'
      · subst hc
        rfl
      · have hne : (some ')' == some c) = false := by simpa using Ne.symm hc
        rw [hne]
        rfl

/-- A bracketed class is read inside of a group as by itself. -/
theorem enclosable_bracket (f : Flags) : Enclosable (bracket f) :=
  (enclosable_bracketHead f).bind fun b => .loop (enclosable_bracketStep f) (b, [])

/-! ### Signs -/

theorem enclosable_lazyMark : Enclosable lazyMark :=
  (unaware_eat (by decide)).enclosable

theorem enclosable_upperBound (f : Flags) (least : Nat) : Enclosable (upperBound f least) := by
  refine (unaware_eat (by decide)).enclosable.bind fun comma => .ite ?_ (.pure _)
  refine (enclosable_space f).bind fun _ => enclosable_peekChar.bind fun c => .ite (.pure _) ?_
  exact (enclosable_number f).bind fun n => .pure _

theorem enclosable_countedRepetition (f : Flags) : Enclosable (countedRepetition f) := by
  refine (enclosable_space f).bind fun _ => (enclosable_number f).bind fun least => ?_
  refine (enclosable_upperBound f least).bind fun most => (enclosable_expect _).bind fun _ => ?_
  refine (enclosable_space f).bind fun _ => enclosable_lazyMark.bind fun isLazy => ?_
  exact .ite .malformed (.pure _)

theorem enclosable_captureName : Enclosable captureName := by
  refine (enclosableBeforeMore_takeWhile _).bind_expect fun name => ?_
  split
  · exact .malformed
  · exact .ite (.pure _) .malformed

theorem enclosable_flagHead : Enclosable flagHead := by
  refine (enclosable_takeWhile (by decide)).bind fun letters => ?_
  refine (Enclosable.ofExcept _).bind fun signs => ?_
  exact enclosable_char.bind fun c => .ite (.pure _) (.ite .malformed (.pure _))

/-- The head of a group, behind the space before it. -/
def headOf : List Char → PatternReader Sign
  | '?' :: '=' :: _ => malformed
  | '?' :: '!' :: _ => malformed
  | '?' :: '<' :: '=' :: _ => malformed
  | '?' :: '<' :: '!' :: _ => malformed
  | '?' :: 'P' :: '<' :: _ => do
    Reader.drop 3
    return .openCapture (some (← captureName))
  | '?' :: '<' :: _ => do
    Reader.drop 2
    return .openCapture (some (← captureName))
  | '?' :: _ => do
    Reader.drop 1
    flagHead
  | _ => pure (.openCapture none)

theorem groupHead_eq (f : Flags) : groupHead f = space f >>= fun _ => Reader.rest >>= headOf := rfl

/-- The heads that are told apart have no closing parenthesis in them. -/
theorem headOf_append_close (cs : List Char) : headOf (cs ++ [')']) = headOf cs := by
  rcases cs with - | ⟨c, cs⟩
  · rfl
  by_cases hmark : c = '?'
  · subst hmark
    rcases cs with - | ⟨d, cs⟩
    · rfl
    by_cases heq : d = '='
    · subst heq; rfl
    by_cases hbang : d = '!'
    · subst hbang; rfl
    by_cases hangle : d = '<'
    · subst hangle
      rcases cs with - | ⟨e, cs⟩
      · rfl
      by_cases heq : e = '='
      · subst heq; rfl
      by_cases hbang : e = '!'
      · subst hbang; rfl
      · simp [headOf, heq, hbang]
    by_cases hnamed : d = 'P'
    · subst hnamed
      rcases cs with - | ⟨e, cs⟩
      · rfl
      by_cases hangle : e = '<'
      · subst hangle; rfl
      · simp [headOf, hangle]
    · simp [headOf, heq, hbang, hangle, hnamed]
  · simp [headOf, hmark]

theorem enclosable_groupHead (f : Flags) : Enclosable (groupHead f) := by
  rw [groupHead_eq]
  refine (enclosable_space f).bind fun _ cs =>
    EnclosableOn.rest_bind ?_ fun _ _ _ => headOf_append_close cs
  unfold headOf
  split
  · exact Enclosable.malformed _
  · exact Enclosable.malformed _
  · exact Enclosable.malformed _
  · exact Enclosable.malformed _
  · refine EnclosableOn.drop_bind (by simp) ?_
    exact enclosable_captureName.bind fun name => .pure _
  · refine EnclosableOn.drop_bind (by simp) ?_
    exact enclosable_captureName.bind fun name => .pure _
  · exact EnclosableOn.drop_bind (by simp) enclosable_flagHead
  · exact Enclosable.pure _ _

theorem enclosable_escapePart (f : Flags) : Enclosable (escapePart f) := by
  refine (enclosable_escape f).bind fun e => ?_
  cases e with
  | literal c asByte => exact (Enclosable.ofExcept _).bind fun _ => .pure _
  | set s => exact .pure _
  | look l => exact .pure _

/-- Every sign is read inside of a group as by itself. -/
theorem enclosable_sign (f : Flags) (c : Char) : Enclosable (sign f c) := by
  unfold sign
  split
  · exact enclosable_groupHead f
  · exact .pure _
  · exact .pure _
  · exact (enclosable_bracket f).bind fun v => .pure _
  · exact enclosable_lazyMark.bind fun _ => .pure _
  · exact enclosable_lazyMark.bind fun _ => .pure _
  · exact enclosable_lazyMark.bind fun _ => .pure _
  · exact enclosable_countedRepetition f
  · exact enclosable_escapePart f
  · exact (Enclosable.ofExcept _).bind fun _ => .pure _
  · exact .pure _
  · exact .pure _
  · exact (Enclosable.ofExcept _).bind fun _ => .pure _

end PatternReader

end GrammarKit.Pattern
