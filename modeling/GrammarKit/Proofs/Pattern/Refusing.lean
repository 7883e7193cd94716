import GrammarKit.Proofs.Pattern.EnclosedSigns

/-!
# Refusing inside of a group

What a reader of patterns refuses by itself it also refuses inside of a group, where a closing
parenthesis stands behind the text, or it takes the parenthesis, too. So no reader is helped by a
parenthesis that it leaves. There is one exception: a word boundary before a brace asks what stands
in the brace, and must see something there. If nothing does, it takes the parenthesis for it, and the
repetition that the brace begins is refused instead.
-/

namespace GrammarKit.Pattern

open GrammarKit.Text

/-- Characters that are taken up to the end of a text, with the space between them, are taken with a
closing parenthesis behind if that may be one of them. -/
theorem spanSpaced_append_close_eq_nil (verbose : Bool) {p : Char → Bool} (hp : p ')' = true)
    {cs : List Char} (h : (spanSpaced verbose p cs).2 = []) :
    (spanSpaced verbose p (cs ++ [')'])).2 = [] := by
  fun_induction spanSpaced verbose p cs with
  | case1 =>
    cases verbose <;> simp [spanSpaced, hp, skipSpace, dropSpace]
  | case2 c cs hc hle r ih =>
    rw [List.cons_append, spanSpaced, if_pos hc]
    obtain hskip | ⟨-, hskip⟩ := skipSpace_append_close verbose cs
    · rw [hskip]
      exact ih h
    · rw [hskip, spanSpaced]
  | case3 c cs hc => cases h

namespace PatternReader

variable {α β σ : Type}

/-- What the reader refuses in the text it refuses with a closing parenthesis behind, too, unless it
takes all of it. -/
def FirmOn (p : PatternReader α) (cs : List Char) : Prop :=
  ∀ ⦃e a rest⦄, p.run cs = .error e → p.run (cs ++ [')']) = .ok (a, rest) → rest = []

/-- What the reader refuses it refuses inside of a group, too, unless it takes all of that. -/
def Firm (p : PatternReader α) : Prop := ∀ cs, FirmOn p cs

/-- A reader leaves nothing of nothing. -/
theorem rest_eq_nil {p : PatternReader α} {a : α} {rest : List Char} (h : p.run [] = .ok (a, rest)) :
    rest = [] :=
  List.eq_nil_of_length_eq_zero (Nat.le_zero.1 (p.shrinks h))

namespace Firm

protected theorem pure (a : α) : Firm (pure a) := fun _ _ _ _ h => nomatch h

protected theorem malformed : Firm (malformed : PatternReader α) := fun _ _ _ _ _ h => nomatch h

/-- A reader that refuses nothing. -/
protected theorem of_total {p : PatternReader α} (h : ∀ cs, ∃ r, p.run cs = .ok r) : Firm p := by
  intro cs e a rest herror
  obtain ⟨r, hr⟩ := h cs
  rw [hr] at herror
  cases herror

protected theorem of_unaware {p : PatternReader α} (h : Unaware p) : Firm p := by
  intro cs e a rest herror hok
  rw [h cs, herror] at hok
  cases hok

protected theorem ofExcept (x : Except PatternError α) : Firm (Reader.ofExcept x) :=
  .of_unaware (.ofExcept x)

/-- Where one reader after another is refused by itself and not inside of a group, it is the first
that the parenthesis has helped. -/
theorem exists_of_bind {p : PatternReader α} {f : α → PatternReader β} {cs : List Char}
    (henclosable : EnclosableOn p cs) (hf : ∀ a, Firm (f a)) {e : PatternError} {b : β}
    {rest : List Char} (herror : (p >>= f).run cs = .error e)
    (hok : (p >>= f).run (cs ++ [')']) = .ok (b, rest)) :
    rest = [] ∨ ∃ e' a mid, p.run cs = .error e' ∧ p.run (cs ++ [')']) = .ok (a, mid) ∧
      (f a).run mid = .ok (b, rest) := by
  obtain ⟨a, mid, hpok, hfok⟩ := Reader.run_bind_eq_ok_iff.1 hok
  cases hcs : p.run cs with
  | error e' => exact .inr ⟨e', a, mid, rfl, hpok, hfok⟩
  | ok r =>
    rw [Reader.run_bind_ok hcs] at herror
    obtain hsame | ⟨hnil, hlost⟩ := henclosable hcs
    · rw [hpok] at hsame
      cases hsame
      exact .inl (hf _ _ herror hfok)
    · rw [hpok] at hlost
      cases hlost
      rw [hnil, hfok] at herror
      cases herror

/-- One reader after another. -/
protected theorem bind {p : PatternReader α} {f : α → PatternReader β} (henclosable : Enclosable p)
    (hp : Firm p) (hf : ∀ a, Firm (f a)) : Firm (p >>= f) := by
  intro cs e b rest herror hok
  obtain hnil | ⟨e', a, mid, hperror, hpok, hfok⟩ := exists_of_bind (henclosable cs) hf herror hok
  · exact hnil
  · rw [hp cs hperror hpok] at hfok
    exact rest_eq_nil hfok

protected theorem ite {c : Prop} [Decidable c] {p q : PatternReader α} (hp : Firm p) (hq : Firm q) :
    Firm (if c then p else q) := by
  split
  · exact hp
  · exact hq

/-- A loop that does not end with its text. -/
protected theorem loop {step : σ → Char → PatternReader (σ ⊕ α)} {e : PatternError}
    (henclosable : ∀ s c, Enclosable (step s c)) (h : ∀ s c, Firm (step s c)) (s : σ) :
    Firm (Reader.loop step (fun _ => .error e) s) := by
  intro cs e' a rest herror hok
  change Reader.loopOn step _ s cs = .error e' at herror
  fun_induction Reader.loopOn step _ s cs with
  | case1 s =>
    rw [List.nil_append, Reader.loop_cons] at hok
    split at hok
    · cases hok
    · next s' cs' hstep =>
      rw [rest_eq_nil hstep, Reader.loop_nil] at hok
      cases hok
    · next b cs' hstep =>
      cases hok
      exact rest_eq_nil hstep
  | case2 s c cs e'' hstep =>
    rw [List.cons_append, Reader.loop_cons] at hok
    split at hok
    · cases hok
    · next s' cs' hstep' =>
      rw [h s c cs hstep hstep', Reader.loop_nil] at hok
      cases hok
    · next b cs' hstep' =>
      cases hok
      exact h s c cs hstep hstep'
  | case3 s c cs s' cs' hstep hle ih =>
    rw [List.cons_append] at hok
    obtain hsame | ⟨-, hlost⟩ := henclosable s c cs hstep
    · rw [Reader.run_loop_next hsame] at hok
      exact ih hok herror
    · rw [Reader.run_loop_next hlost, Reader.loop_nil] at hok
      cases hok
  | case4 s c cs b cs' hstep => cases herror

/-- A reader that looks at all that is left. -/
theorem rest_bind {f : List Char → PatternReader β} {cs : List Char} (hf : FirmOn (f cs) cs)
    (hsame : f (cs ++ [')']) = f cs) : FirmOn (Reader.rest >>= f) cs := by
  intro e b rest herror hok
  rw [Reader.run_bind_ok (Reader.run_rest _)] at herror hok
  rw [hsame] at hok
  exact hf herror hok

/-- A reader that looks at the next character. -/
theorem peek_bind {f : Option Char → PatternReader β} {cs : List Char} (hf : FirmOn (f cs.head?) cs)
    (hsame : f (some ')') = f none) : FirmOn (Reader.peek >>= f) cs := by
  intro e b rest herror hok
  rw [Reader.run_bind_ok (Reader.run_peek _)] at herror hok
  cases cs with
  | nil =>
    change (f (some ')')).run _ = _ at hok
    rw [hsame] at hok
    exact hf herror hok
  | cons c cs => exact hf herror hok

/-- A reader that drops characters which are there. -/
theorem drop_bind {n : Nat} {f : Unit → PatternReader β} {cs : List Char} (hn : n ≤ cs.length)
    (hf : Firm (f ())) : FirmOn (Reader.drop n >>= f) cs := by
  intro e b rest herror hok
  rw [Reader.run_bind_ok (Reader.run_drop _ _)] at herror hok
  rw [List.drop_append_of_le_length hn] at hok
  exact hf _ herror hok

end Firm

/-! ### Readers of characters and space -/

theorem firm_char : Firm char := by
  intro cs e a rest herror hok
  cases cs with
  | nil => cases hok; rfl
  | cons c cs => cases herror

theorem firm_expect (c : Char) : Firm (expect c) :=
  .bind enclosable_char firm_char fun _ => .ite .malformed (.pure ())

theorem firm_space (f : Flags) : Firm (space f) := .of_total fun _ => ⟨_, rfl⟩

theorem firm_charThenSpace (f : Flags) : Firm (charThenSpace f) :=
  .bind enclosable_char firm_char fun c => .bind (enclosable_space f) (firm_space f) fun _ => .pure c

theorem firm_charsThenSpace (f : Flags) (p : Char → Bool) : Firm (charsThenSpace f p) :=
  .of_total fun _ => ⟨_, rfl⟩

theorem firm_takeWhile (p : Char → Bool) : Firm (Reader.takeWhile p) := .of_total fun _ => ⟨_, rfl⟩

theorem firm_eat {c : Char} (hc : c ≠ ')') : Firm (Reader.eat [c]) := .of_unaware (unaware_eat hc)

/-- Text that has to end with a mark. Without the mark the parenthesis is taken with the text, and
the mark is not found behind it either. -/
theorem Firm.bind_expect {p : PatternReader α} {c : Char} {f : α → PatternReader β}
    (htotal : ∀ cs, ∃ r, p.run cs = .ok r) (hp : EnclosableBeforeMore p)
    (hnil : ∀ ⦃cs a⦄, p.run cs = .ok (a, []) → ∃ a', p.run (cs ++ [')']) = .ok (a', []))
    (hf : ∀ a, Firm (f a)) : Firm (p >>= fun a => expect c >>= fun _ => f a) := by
  intro cs e b rest herror hok
  obtain ⟨⟨a, mid⟩, ha⟩ := htotal cs
  cases mid with
  | nil =>
    obtain ⟨a', ha'⟩ := hnil ha
    rw [Reader.run_bind_ok ha'] at hok
    cases hok
  | cons d mid =>
    rw [Reader.run_bind_ok ha] at herror
    rw [Reader.run_bind_ok (hp ha (List.cons_ne_nil d mid))] at hok
    exact Firm.bind (enclosable_expect c) (firm_expect c) (fun _ => hf a) _ herror hok

/-- Characters up to a mark, with the space between them. -/
theorem firm_charsThenSpace_expect (f : Flags) {p : Char → Bool} (hp : p ')' = true) {c : Char}
    {g : List Char → PatternReader β} (hg : ∀ a, Firm (g a)) :
    Firm (charsThenSpace f p >>= fun a => expect c >>= fun _ => g a) := by
  refine .bind_expect (fun _ => ⟨_, rfl⟩) (enclosableBeforeMore_charsThenSpace f p) ?_ hg
  intro cs a h
  have hnil : (spanSpaced f.verbose p cs).2 = [] := by rw [Except.ok.inj h]
  exact ⟨_, congrArg Except.ok (Prod.ext rfl (spanSpaced_append_close_eq_nil f.verbose hp hnil))⟩

end PatternReader

end GrammarKit.Pattern
