import GrammarKit.Proofs.Pattern.Refusing

/-!
# The signs of a pattern that are refused

Every sign of a pattern is firm: where it is refused by itself it is refused inside of a group, or
takes the closing parenthesis. Only a word boundary before an empty brace is not. It cannot be a
member of a class, and so it is the one exception among the signs.
-/

namespace GrammarKit.Pattern

open GrammarKit.Text

namespace PatternReader

variable {f : Flags} {cs rest : List Char} {e : PatternError}

/-! ### Escapes -/

theorem firm_number (f : Flags) : Firm (number f) := by
  have hspace : isWhiteSpace ')' = false := by decide
  refine .bind (enclosable_takeWhile hspace) (firm_takeWhile _) fun _ => ?_
  refine .bind (enclosable_charsThenSpace f (by decide)) (firm_charsThenSpace f _) fun digits => ?_
  exact .bind (enclosable_charsThenSpace f hspace) (firm_charsThenSpace f _) fun _ =>
    .ite .malformed (.pure _)

theorem firm_hexDigits (f : Flags) (n : Nat) : Firm (hexDigits f n) := by
  induction n with
  | zero => exact .pure []
  | succ n ih =>
    exact .bind (enclosable_charThenSpace f) (firm_charThenSpace f) fun c =>
      .ite .malformed (.bind (enclosable_hexDigits f n) ih fun cs => .pure (c :: cs))

theorem firm_hexEscape (f : Flags) (count : Nat) : Firm (hexEscape f count) := by
  unfold hexEscape
  refine .bind (enclosable_space f) (firm_space f) fun _ =>
    .bind (unaware_eat (by decide)).enclosable (firm_eat (by decide)) fun braced => ?_
  extract_lets value
  have hvalue (digits : List Char) : Firm (value digits) := by
    refine .ite .malformed ?_
    split
    · exact .pure _
    · exact .malformed
  refine .ite ?_ (.bind (enclosable_hexDigits f count) (firm_hexDigits f count) hvalue)
  exact .bind (enclosable_space f) (firm_space f) fun _ =>
    firm_charsThenSpace_expect f (by decide) fun digits =>
      .bind (.pure digits) (.pure digits) hvalue

theorem firm_propertyEscape (f : Flags) (negated : Bool) : Firm (propertyEscape f negated) := by
  unfold propertyEscape
  refine .bind (enclosable_space f) (firm_space f) fun _ =>
    .bind enclosable_char firm_char fun c => ?_
  extract_lets value
  have hvalue (found : Option Unicode.CharSet) : Firm (value found) := by
    cases found with
    | none => exact .malformed
    | some s => exact .ite .malformed (.bind (.ofExcept _) (.ofExcept _) fun _ => .pure _)
  refine .ite ?_ (.ite ?_ (.bind (.pure _) (.pure _) hvalue))
  · exact .bind (enclosable_space f) (firm_space f) fun _ =>
      firm_charsThenSpace_expect f (by decide) fun name => .bind (.pure _) (.pure _) hvalue
  · exact .bind .malformed .malformed hvalue

/-- What is left begins with a brace and holds nothing else before the closing parenthesis. -/
def IsEmptyBrace (f : Flags) (rest : List Char) : Prop :=
  ∃ ds, rest = '\x7b' :: (ds ++ [')']) ∧ skipSpace f.verbose ds = []

/-- A word boundary that is refused by itself and not inside of a group stands before an empty
brace. -/
theorem boundaryEscape_refused {l : Escape} (herror : (boundaryEscape f).run cs = .error e)
    (hok : (boundaryEscape f).run (cs ++ [')']) = .ok (l, rest)) :
    rest = [] ∨ (∃ look, l = .look look) ∧ IsEmptyBrace f rest := by
  rw [boundaryEscape, Reader.run_bind_ok (Reader.run_rest _)] at herror hok
  by_cases hbrace : ∃ ds, cs = '\x7b' :: ds
  · obtain ⟨ds, rfl⟩ := hbrace
    simp only [List.cons_append] at herror hok
    cases hhead : (skipSpace f.verbose ds).head? with
    | none =>
      have hnil : skipSpace f.verbose ds = [] := List.head?_eq_none_iff.1 hhead
      obtain hskip | ⟨-, hskip⟩ := skipSpace_append_close f.verbose ds
      · rw [hskip, hnil] at hok
        have hletter : isBoundaryLetter ')' = false := by decide
        simp only [List.nil_append, List.head?_cons, hletter] at hok
        cases hok
        exact .inr ⟨⟨_, rfl⟩, ds, rfl, hnil⟩
      · rw [hskip] at hok
        cases hok
    | some c =>
      rw [head?_skipSpace_append_close hhead] at hok
      rw [hhead] at herror
      simp only at herror hok
      split at hok
      · next hletter =>
        rw [if_pos hletter] at herror
        refine .inl (Firm.drop_bind (Nat.succ_le_succ (Nat.zero_le ds.length)) ?_ herror hok)
        refine .bind (enclosable_space f) (firm_space f) fun _ => ?_
        refine .bind (enclosable_charsThenSpace f (by decide)) (firm_charsThenSpace f _) fun name => ?_
        refine .bind (enclosable_expect _) (firm_expect _) fun _ => ?_
        split
        · exact .pure _
        · exact .malformed
      · next hletter =>
        rw [if_neg hletter] at herror
        cases herror
  · -- A boundary before anything else than a brace is refused nowhere.
    split at herror
    · next ds => exact absurd ⟨ds, rfl⟩ hbrace
    · cases herror

/-- Of the signs behind a backslash all but a word boundary are firm. -/
theorem exists_escape_eq (f : Flags) : ∃ behind : Char → PatternReader Escape,
    escape f = char >>= behind ∧ behind 'b' = boundaryEscape f ∧ ∀ c, c ≠ 'b' → Firm (behind c) := by
  refine ⟨_, rfl, rfl, fun c hc => ?_⟩
  split
  · exact firm_hexEscape f 2
  · exact firm_hexEscape f 4
  · exact firm_hexEscape f 8
  · exact firm_propertyEscape f false
  · exact firm_propertyEscape f true
  all_goals try exact .pure _
  all_goals try exact .bind (.ofExcept _) (.ofExcept _) fun _ => .pure _
  · exact absurd rfl hc
  · exact .ite (.pure _) .malformed

/-- What stands behind a backslash is refused inside of a group as by itself, unless it is a word
boundary before an empty brace. -/
theorem escape_refused {s : Escape} (herror : (escape f).run cs = .error e)
    (hok : (escape f).run (cs ++ [')']) = .ok (s, rest)) :
    rest = [] ∨ (∃ look, s = .look look) ∧ IsEmptyBrace f rest := by
  obtain ⟨behind, hescape, hboundary, hfirm⟩ := exists_escape_eq f
  rw [hescape] at herror hok
  cases cs with
  | nil => exact .inl (rest_eq_nil (p := behind ')') hok)
  | cons c cs =>
    change (behind c).run cs = _ at herror
    change (behind c).run (cs ++ [')']) = _ at hok
    by_cases hc : c = 'b'
    · subst hc
      rw [hboundary] at herror hok
      exact boundaryEscape_refused herror hok
    · exact .inl (hfirm c hc cs herror hok)

/-! ### Brackets -/

theorem firm_classLiteral (f : Flags) (s : Escape) : Firm (classLiteral f s) := by
  cases s with
  | literal c asByte => exact .ite .malformed (.pure c)
  | set s => exact .malformed
  | look l => exact .malformed

/-- What is refused as the first character of a member of a class is refused, too, if it is a word
boundary: a class has no conditions on a place. -/
theorem classSign_refused {c : Char} {s : Escape} (herror : (classSign f c).run cs = .error e)
    (hok : (classSign f c).run (cs ++ [')']) = .ok (s, rest)) :
    rest = [] ∨ ∃ look, s = .look look := by
  unfold classSign at herror hok
  split at herror
  · next hc =>
    rw [if_pos hc] at hok
    exact (escape_refused herror hok).imp_right fun h => h.1
  · cases herror

/-- The end of a range is no condition on a place. -/
theorem firm_classSign_bind {β : Type} (c : Char) {g : Escape → PatternReader β}
    (hlook : ∀ look cs r, (g (.look look)).run cs ≠ .ok r) (hg : ∀ s, Firm (g s)) :
    Firm (classSign f c >>= g) := by
  intro cs e b rest herror hok
  obtain hnil | ⟨e', s, mid, hserror, hsok, hgok⟩ :=
    Firm.exists_of_bind (enclosable_classSign f c cs) hg herror hok
  · exact hnil
  · obtain rfl | ⟨look, rfl⟩ := classSign_refused hserror hsok
    · exact rest_eq_nil hgok
    · exact absurd hgok (hlook look mid _)

/-- A condition on a place stands for no character. -/
theorem run_classLiteral_look_bind {β : Type} (look : Look) (g : Char → PatternReader β)
    (cs : List Char) (r : β × List Char) :
    (classLiteral f (.look look) >>= g).run cs ≠ .ok r := fun h => nomatch h

theorem firm_classMember (f : Flags) (c : Char) : Firm (classMember f c) := by
  refine firm_classSign_bind c (fun look cs r hok => ?_) fun first => ?_
  · -- Neither a range nor a single member begins with a condition on a place.
    obtain ⟨-, cs₁, -, hok⟩ := Reader.run_bind_eq_ok_iff.1 hok
    obtain ⟨ds, cs₂, -, hok⟩ := Reader.run_bind_eq_ok_iff.1 hok
    split at hok
    · obtain ⟨-, cs₃, -, hok⟩ := Reader.run_bind_eq_ok_iff.1 hok
      obtain ⟨-, cs₄, -, hok⟩ := Reader.run_bind_eq_ok_iff.1 hok
      obtain ⟨d, cs₅, -, hok⟩ := Reader.run_bind_eq_ok_iff.1 hok
      obtain ⟨last, cs₆, -, hok⟩ := Reader.run_bind_eq_ok_iff.1 hok
      exact run_classLiteral_look_bind look _ _ _ hok
    · exact run_classLiteral_look_bind look _ _ _ hok
  · refine .bind (enclosable_space f) (firm_space f) fun _ cs => ?_
    refine Firm.rest_bind ?_ (by rw [makesRange_append_close])
    split
    · next hrange =>
      have hlength : 1 ≤ cs.length := by
        cases cs with
        | nil => cases hrange
        | cons d cs => exact Nat.succ_le_succ (Nat.zero_le _)
      refine Firm.drop_bind hlength ?_
      refine .bind (enclosable_space f) (firm_space f) fun _ =>
        .bind enclosable_char firm_char fun d => ?_
      refine firm_classSign_bind d (fun look cs r hok => ?_) fun last => ?_
      · obtain ⟨lo, cs', -, hok⟩ := Reader.run_bind_eq_ok_iff.1 hok
        exact run_classLiteral_look_bind look _ _ _ hok
      · refine .bind (enclosable_classLiteral f first) (firm_classLiteral f first) fun lo => ?_
        exact .bind (enclosable_classLiteral f last) (firm_classLiteral f last) fun hi =>
          .ite (.pure _) .malformed
    · split
      · exact Firm.pure _ _
      · exact Firm.bind (enclosable_classLiteral f _) (firm_classLiteral f _) (fun _ => .pure _) _

/-- The head of a bracket refuses nothing. -/
theorem firm_bracketHead (f : Flags) : Firm (bracketHead f) := by
  unfold bracketHead
  refine .bind (enclosable_space f) (firm_space f) fun _ =>
    .bind (unaware_eat (by decide)).enclosable (firm_eat (by decide)) fun negated => ?_
  refine .bind (enclosable_space f) (firm_space f) fun _ =>
    .bind (enclosable_charsThenSpace f (by decide)) (firm_charsThenSpace f _) fun hyphens => ?_
  refine .ite (.bind (unaware_eat (by decide)).enclosable (firm_eat (by decide)) fun closes => ?_)
    (.pure _)
  exact .ite (.bind (enclosable_space f) (firm_space f) fun _ => .pure _) (.pure _)

theorem firm_bracketStep (f : Flags) (state : OpenBracket × List OpenBracket) (c : Char) :
    Firm (bracketStep f state c) := by
  obtain ⟨b, outer⟩ := state
  unfold bracketStep
  refine .ite (.pure _) (.ite (.of_total fun _ => ⟨_, rfl⟩) (.ite ?_ (.ite ?_ ?_)))
  · have hnamed := (unaware_namedClass f).attempt
    refine .bind hnamed.enclosable (.of_unaware hnamed) fun named => ?_
    cases named with
    | some s => exact .pure _
    | none => exact .bind (enclosable_bracketHead f) (firm_bracketHead f) fun _ => .pure _
  · refine .bind (.ofExcept _) (.ofExcept _) fun v => ?_
    cases outer with
    | nil => exact .pure _
    | cons o outer => exact .pure _
  · intro cs
    refine Firm.peek_bind ?_ ?_
    · split
      · next op hop hsame =>
        have hlength : 1 ≤ cs.length := by
          cases cs with
          | nil => cases hsame
          | cons d cs => exact Nat.succ_le_succ (Nat.zero_le _)
        exact Firm.drop_bind hlength (.pure _)
      · exact Firm.bind (enclosable_classMember f c) (firm_classMember f c) (fun _ => .pure _) cs
    · by_cases hc : c = ')'
      · subst hc
        rfl
      · have hne : (some ')' == some c) = false := by simpa using Ne.symm hc
        rw [hne]
        rfl

/-- A bracketed class is refused inside of a group as by itself. -/
theorem firm_bracket (f : Flags) : Firm (bracket f) :=
  .bind (enclosable_bracketHead f) (firm_bracketHead f) fun b =>
    .loop (enclosable_bracketStep f) (firm_bracketStep f) (b, [])

/-! ### Signs -/

theorem firm_lazyMark : Firm lazyMark := firm_eat (by decide)

theorem firm_captureName : Firm captureName := by
  have hnil : ∀ ⦃cs a⦄, (Reader.takeWhile (· ≠ '>') : PatternReader _).run cs = .ok (a, []) →
      ∃ a', (Reader.takeWhile (· ≠ '>') : PatternReader _).run (cs ++ [')']) = .ok (a', []) := by
    intro cs a h
    have hdrop : cs.dropWhile (· ≠ '>') = [] := congrArg Prod.snd (Except.ok.inj h)
    refine ⟨(cs ++ [')']).takeWhile (· ≠ '>'), ?_⟩
    change Except.ok (_, (cs ++ [')']).dropWhile (· ≠ '>')) = _
    rw [List.dropWhile_append, if_pos (List.isEmpty_iff.2 hdrop)]
    rfl
  refine .bind_expect (fun _ => ⟨_, rfl⟩) (enclosableBeforeMore_takeWhile _) hnil fun name => ?_
  split
  · exact .malformed
  · exact .ite (.pure _) .malformed

theorem firm_flagHead : Firm flagHead := by
  refine .bind (enclosable_takeWhile (by decide)) (firm_takeWhile _) fun letters => ?_
  refine .bind (.ofExcept _) (.ofExcept _) fun signs => ?_
  exact .bind enclosable_char firm_char fun c => .ite (.pure _) (.ite .malformed (.pure _))

theorem firm_groupHead (f : Flags) : Firm (groupHead f) := by
  rw [groupHead_eq]
  refine .bind (enclosable_space f) (firm_space f) fun _ cs =>
    Firm.rest_bind ?_ (headOf_append_close cs)
  unfold headOf
  split
  · exact Firm.malformed _
  · exact Firm.malformed _
  · exact Firm.malformed _
  · exact Firm.malformed _
  · refine Firm.drop_bind (by simp) ?_
    exact .bind enclosable_captureName firm_captureName fun name => .pure _
  · refine Firm.drop_bind (by simp) ?_
    exact .bind enclosable_captureName firm_captureName fun name => .pure _
  · exact Firm.drop_bind (by simp) firm_flagHead
  · exact Firm.pure _ _

/-- No characters of a kind are taken where none comes. -/
theorem run_charsThenSpace_stops {p : Char → Bool} (hcs : Reader.Stops p cs) :
    (charsThenSpace f p).run cs = .ok ([], cs) := by
  change Except.ok (spanSpaced f.verbose p cs) = _
  cases cs with
  | nil => rw [spanSpaced]
  | cons c cs => rw [spanSpaced, if_neg (by rw [hcs c rfl]; exact Bool.false_ne_true)]

/-- No number begins with a closing parenthesis, nor at the end of a text. -/
theorem run_number_ne (hcs : ∀ c, cs.head? = some c → c = ')') (r : Nat × List Char) :
    (number f).run cs ≠ .ok r := by
  have hstops {p : Char → Bool} (hp : p ')' = false) : Reader.Stops p cs :=
    fun c hc => by rwa [hcs c hc]
  rw [number, Reader.run_bind_ok (Reader.run_takeWhile_nil (hstops (by decide))),
    Reader.run_bind_ok (run_charsThenSpace_stops (hstops (by decide))),
    Reader.run_bind_ok (run_charsThenSpace_stops (hstops (by decide)))]
  intro h
  cases h

/-- Behind the comma of a repetition a closing parenthesis is no bound. -/
theorem firm_upperBound (f : Flags) (least : Nat) : Firm (upperBound f least) := by
  refine .bind (unaware_eat (by decide)).enclosable (firm_eat (by decide)) fun comma =>
    .ite (.bind (enclosable_space f) (firm_space f) fun _ cs => ?_) (.pure _)
  intro e b rest herror hok
  cases cs with
  | nil =>
    change (number f >>= fun n => pure (some n)).run [')'] = _ at hok
    obtain ⟨n, cs, hnumber, -⟩ := Reader.run_bind_eq_ok_iff.1 hok
    exact absurd hnumber (run_number_ne (by simp) _)
  | cons c cs =>
    have hrest : Firm (if c = '\x7d' then pure none else number f >>= fun n => pure (some n)) :=
      .ite (.pure _) (.bind (enclosable_number f) (firm_number f) fun n => .pure _)
    exact hrest (c :: cs) herror hok

theorem firm_countedRepetition (f : Flags) : Firm (countedRepetition f) := by
  refine .bind (enclosable_space f) (firm_space f) fun _ =>
    .bind (enclosable_number f) (firm_number f) fun least => ?_
  refine .bind (enclosable_upperBound f least) (firm_upperBound f least) fun most =>
    .bind (enclosable_expect _) (firm_expect _) fun _ => ?_
  refine .bind (enclosable_space f) (firm_space f) fun _ =>
    .bind enclosable_lazyMark firm_lazyMark fun isLazy => ?_
  exact .ite .malformed (.pure _)

/-- Nothing is repeated as an empty brace says. -/
theorem run_countedRepetition_emptyBrace {ds : List Char} (hds : skipSpace f.verbose ds = [])
    (r : Sign × List Char) : (countedRepetition f).run (ds ++ [')']) ≠ .ok r := by
  intro h
  obtain ⟨_, cs, hspace, h⟩ := Reader.run_bind_eq_ok_iff.1 h
  obtain ⟨least, cs', hnumber, -⟩ := Reader.run_bind_eq_ok_iff.1 h
  have hcs : cs = skipSpace f.verbose (ds ++ [')']) := (congrArg Prod.snd (Except.ok.inj hspace)).symm
  obtain hskip | ⟨-, hskip⟩ := skipSpace_append_close f.verbose ds
  · rw [hcs, hskip, hds] at hnumber
    exact run_number_ne (by simp) _ hnumber
  · rw [hcs, hskip] at hnumber
    exact run_number_ne (by simp) _ hnumber

theorem escapePart_refused {s : Sign} (herror : (escapePart f).run cs = .error e)
    (hok : (escapePart f).run (cs ++ [')']) = .ok (s, rest)) :
    rest = [] ∨ (∃ t, s = .part t) ∧ IsEmptyBrace f rest := by
  unfold escapePart at herror hok
  obtain hnil | ⟨e', l, mid, hlerror, hlok, hsok⟩ :=
    Firm.exists_of_bind (enclosable_escape f cs) (by
      intro s
      cases s with
      | literal c asByte => exact .bind (.ofExcept _) (.ofExcept _) fun _ => .pure _
      | set s => exact .pure _
      | look l => exact .pure _) herror hok
  · exact .inl hnil
  · obtain rfl | ⟨⟨look, rfl⟩, hbrace⟩ := escape_refused hlerror hlok
    · exact .inl (rest_eq_nil hsok)
    · cases hsok
      exact .inr ⟨⟨_, rfl⟩, hbrace⟩

theorem firm_sign (f : Flags) {c : Char} (hc : c ≠ '\\') : Firm (sign f c) := by
  unfold sign
  split
  · exact firm_groupHead f
  · exact .pure _
  · exact .pure _
  · exact .bind (enclosable_bracket f) (firm_bracket f) fun v => .pure _
  · exact .bind enclosable_lazyMark firm_lazyMark fun _ => .pure _
  · exact .bind enclosable_lazyMark firm_lazyMark fun _ => .pure _
  · exact .bind enclosable_lazyMark firm_lazyMark fun _ => .pure _
  · exact firm_countedRepetition f
  · exact absurd rfl hc
  · exact .bind (.ofExcept _) (.ofExcept _) fun _ => .pure _
  · exact .pure _
  · exact .pure _
  · exact .bind (.ofExcept _) (.ofExcept _) fun _ => .pure _

/-- A sign that is refused by itself is refused inside of a group or takes all that is left of it,
unless it is a condition on a place and an empty brace comes behind. -/
theorem sign_refused {c : Char} {s : Sign} (herror : (sign f c).run cs = .error e)
    (hok : (sign f c).run (cs ++ [')']) = .ok (s, rest)) :
    rest = [] ∨ (∃ t, s = .part t) ∧ IsEmptyBrace f rest := by
  by_cases hc : c = '\\'
  · subst hc
    exact escapePart_refused herror hok
  · exact .inl (firm_sign f hc cs herror hok)

end PatternReader

end GrammarKit.Pattern
