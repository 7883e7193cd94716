import GrammarKit.Pattern.Spacing
import GrammarKit.Proofs.Text.Reading

/-!
# Reading inside of a group

A pattern may be put inside of a group, where a closing parenthesis stands behind it. What the
readers of patterns take from the pattern by itself they also take from it there, because none of
them looks beyond the signs that it takes, other than to see that they do not go on. What is left
is the same with the parenthesis behind. There is one exception: where a comment is open at the end
of the pattern, the parenthesis is lost in it.

Nothing is said of a reader that fails on the pattern by itself. It may go on to the parenthesis.
-/

namespace GrammarKit.Pattern

open GrammarKit.Text

/-- A closing parenthesis behind a text stays there when the space is dropped, or is lost in a
comment that takes the end of the text. -/
theorem dropSpace_append_close (inComment : Bool) (cs : List Char) :
    dropSpace inComment (cs ++ [')']) = dropSpace inComment cs ++ [')'] ∨
      dropSpace inComment cs = [] ∧ dropSpace inComment (cs ++ [')']) = [] := by
  induction cs generalizing inComment with
  | nil =>
    cases inComment with
    | false => exact .inl (by decide)
    | true => exact .inr (by decide)
  | cons c cs ih =>
    rw [List.cons_append, dropSpace, dropSpace]
    split
    · exact ih _
    · split
      · exact ih _
      · split
        · exact ih _
        · exact .inl rfl

/-- The space at the front of a text is the same with a closing parenthesis behind. -/
theorem skipSpace_append_close (verbose : Bool) (cs : List Char) :
    skipSpace verbose (cs ++ [')']) = skipSpace verbose cs ++ [')'] ∨
      skipSpace verbose cs = [] ∧ skipSpace verbose (cs ++ [')']) = [] := by
  cases verbose with
  | false => exact .inl rfl
  | true => exact dropSpace_append_close false cs

/-- The first character behind the space is the same with a closing parenthesis behind the text. -/
theorem head?_skipSpace_append_close {verbose : Bool} {cs : List Char} {c : Char}
    (h : (skipSpace verbose cs).head? = some c) :
    (skipSpace verbose (cs ++ [')'])).head? = some c := by
  obtain hskip | ⟨hnil, -⟩ := skipSpace_append_close verbose cs
  · rw [hskip, List.head?_append, h, Option.some_or]
  · rw [hnil] at h
    cases h

/-- Characters with the space between them are the same with a closing parenthesis behind, as long
as the parenthesis is not one of them. -/
theorem spanSpaced_append_close (verbose : Bool) (p : Char → Bool) (cs : List Char)
    (h : p ')' = false ∨ (spanSpaced verbose p cs).2 ≠ []) :
    spanSpaced verbose p (cs ++ [')']) =
        ((spanSpaced verbose p cs).1, (spanSpaced verbose p cs).2 ++ [')']) ∨
      (spanSpaced verbose p cs).2 = [] ∧
        spanSpaced verbose p (cs ++ [')']) = ((spanSpaced verbose p cs).1, []) := by
  fun_induction spanSpaced verbose p cs with
  | case1 =>
    have hclose : p ')' = false := h.resolve_right fun hne => hne rfl
    refine .inl ?_
    rw [List.nil_append, spanSpaced, if_neg (by rw [hclose]; exact Bool.false_ne_true)]
  | case2 c cs hc hle r ih =>
    rw [List.cons_append, spanSpaced, if_pos hc]
    obtain hskip | ⟨hnil, hskip⟩ := skipSpace_append_close verbose cs
    · rw [hskip]
      obtain hspan | ⟨hrest, hspan⟩ := ih h
      · exact .inl (by rw [hspan])
      · exact .inr ⟨hrest, by rw [hspan]⟩
    · have hr : r = ([], []) := by
        simp only [r, hnil, spanSpaced]
      rw [hskip, spanSpaced, hr]
      exact .inr ⟨rfl, rfl⟩
  | case3 c cs hc =>
    rw [List.cons_append, spanSpaced, if_neg hc]
    exact .inl rfl

/-- A run of characters that does not take a closing parenthesis, or ends before it, is the same
with the parenthesis behind. -/
theorem takeWhile_append_close (p : Char → Bool) (cs : List Char)
    (h : p ')' = false ∨ cs.dropWhile p ≠ []) :
    (cs ++ [')']).takeWhile p = cs.takeWhile p ∧
      (cs ++ [')']).dropWhile p = cs.dropWhile p ++ [')'] := by
  induction cs with
  | nil =>
    have hclose : p ')' = false := h.resolve_right fun hne => hne rfl
    simp [hclose]
  | cons c cs ih =>
    cases hc : p c with
    | false => simp [hc]
    | true =>
      rw [List.dropWhile_cons_of_pos hc] at h
      simp [hc, ih h]

namespace PatternReader

variable {α β σ : Type}

/-- What is read from the text is also read from it with a closing parenthesis behind. The
parenthesis is left, unless a comment takes it that takes the end of the text. -/
def EnclosableOn (p : PatternReader α) (cs : List Char) : Prop :=
  ∀ ⦃a rest⦄, p.run cs = .ok (a, rest) →
    p.run (cs ++ [')']) = .ok (a, rest ++ [')']) ∨ rest = [] ∧ p.run (cs ++ [')']) = .ok (a, [])

/-- What is read from a text is also read from it inside of a group. -/
def Enclosable (p : PatternReader α) : Prop :=
  ∀ cs, EnclosableOn p cs

/-- What is read from a text is also read from it inside of a group, provided that something of the
text is left. -/
def EnclosableBeforeMore (p : PatternReader α) : Prop :=
  ∀ ⦃cs a rest⦄, p.run cs = .ok (a, rest) → rest ≠ [] →
    p.run (cs ++ [')']) = .ok (a, rest ++ [')'])

/-- Inside of a group a reader does the same, also where it fails. -/
def Unaware (p : PatternReader α) : Prop :=
  ∀ cs, p.run (cs ++ [')']) = (p.run cs).map fun r => (r.1, r.2 ++ [')'])

/-! ### Putting readers together -/

namespace Enclosable

protected theorem pure (a : α) : Enclosable (pure a) := by
  intro cs b rest h
  cases h
  exact .inl rfl

protected theorem malformed : Enclosable (malformed : PatternReader α) := nofun

protected theorem ofExcept (x : Except PatternError α) : Enclosable (Reader.ofExcept x) := by
  cases x with
  | error e => exact nofun
  | ok a => exact Enclosable.pure a

/-- One reader after another. Where the first leaves nothing, nor does the second. -/
protected theorem bind {p : PatternReader α} {f : α → PatternReader β} (hp : Enclosable p)
    (hf : ∀ a, Enclosable (f a)) : Enclosable (p >>= f) := by
  intro cs b rest h
  obtain ⟨a, cs', hpcs, hfcs⟩ := Reader.run_bind_eq_ok_iff.1 h
  obtain hsame | ⟨rfl, hlost⟩ := hp cs hpcs
  · rw [Reader.run_bind_ok hsame]
    exact hf a cs' hfcs
  · rw [Reader.run_bind_ok hlost]
    have hrest : rest = [] := List.eq_nil_of_length_eq_zero (Nat.le_zero.1 ((f a).shrinks hfcs))
    subst hrest
    exact .inr ⟨rfl, hfcs⟩

protected theorem ite {c : Prop} [Decidable c] {p q : PatternReader α} (hp : Enclosable p)
    (hq : Enclosable q) : Enclosable (if c then p else q) := by
  split
  · exact hp
  · exact hq

/-- A loop that does not end with its text. -/
protected theorem loop {step : σ → Char → PatternReader (σ ⊕ α)} {e : PatternError}
    (h : ∀ s c, Enclosable (step s c)) (s : σ) :
    Enclosable (Reader.loop step (fun _ => .error e) s) := by
  intro cs a rest hrun
  change Reader.loopOn step _ s cs = .ok (a, rest) at hrun
  fun_induction Reader.loopOn step _ s cs with
  | case1 s => cases hrun
  | case2 s c cs e hstep => cases hrun
  | case3 s c cs s' cs' hstep hle ih =>
    rw [List.cons_append]
    obtain hsame | ⟨rfl, hlost⟩ := h s c cs hstep
    · rw [Reader.run_loop_next hsame]
      exact ih hrun
    · change (Reader.loop step _ s').run [] = _ at hrun
      rw [Reader.loop_nil] at hrun
      cases hrun
  | case4 s c cs b cs' hstep =>
    cases hrun
    rw [List.cons_append]
    obtain hsame | ⟨rfl, hlost⟩ := h s c cs hstep
    · exact .inl (Reader.run_loop_done hsame)
    · exact .inr ⟨rfl, Reader.run_loop_done hlost⟩

end Enclosable

namespace EnclosableOn

variable {cs : List Char}

/-- A reader that looks at all that is left. -/
theorem rest_bind {f : List Char → PatternReader β} (hf : EnclosableOn (f cs) cs)
    (hsame : ∀ b rest, (f cs).run cs = .ok (b, rest) → f (cs ++ [')']) = f cs) :
    EnclosableOn (Reader.rest >>= f) cs := by
  intro b rest h
  rw [Reader.run_bind_ok (Reader.run_rest _)] at h ⊢
  rw [hsame b rest h]
  exact hf h

/-- A reader that looks at the next character. -/
theorem peek_bind {f : Option Char → PatternReader β} (hf : EnclosableOn (f cs.head?) cs)
    (hsame : f (some ')') = f none) : EnclosableOn (Reader.peek >>= f) cs := by
  intro b rest h
  rw [Reader.run_bind_ok (Reader.run_peek _)] at h ⊢
  cases cs with
  | nil =>
    change EnclosableOn (f none) [] at hf
    change (f (some ')')).run _ = _ ∨ _ ∧ (f (some ')')).run _ = _
    rw [hsame]
    exact hf h
  | cons c cs => exact hf h

/-- A reader that drops characters which are there. -/
theorem drop_bind {n : Nat} {f : Unit → PatternReader β} (hn : n ≤ cs.length)
    (hf : Enclosable (f ())) : EnclosableOn (Reader.drop n >>= f) cs := by
  intro b rest h
  rw [Reader.run_bind_ok (Reader.run_drop _ _)] at h ⊢
  rw [List.drop_append_of_le_length hn]
  exact hf _ h

end EnclosableOn

namespace Unaware

protected theorem enclosable {p : PatternReader α} (h : Unaware p) : Enclosable p := by
  intro cs a rest hp
  rw [h cs, hp]
  exact .inl rfl

protected theorem ofExcept (x : Except PatternError α) : Unaware (Reader.ofExcept x) := by
  cases x <;> exact fun cs => rfl

protected theorem bind {p : PatternReader α} {f : α → PatternReader β} (hp : Unaware p)
    (hf : ∀ a, Unaware (f a)) : Unaware (p >>= f) := by
  intro cs
  rw [Reader.run_bind, Reader.run_bind, hp cs]
  cases p.run cs with
  | error e => rfl
  | ok r => exact hf r.1 r.2

protected theorem attempt {p : PatternReader α} (h : Unaware p) : Unaware (Reader.attempt p) := by
  intro cs
  simp only [Reader.attempt, h cs]
  cases p.run cs <;> rfl

end Unaware

/-! ### Readers of characters and space -/

theorem enclosable_char : Enclosable char := by
  intro cs a rest h
  cases cs with
  | nil => exact nomatch h
  | cons c cs => cases h; exact .inl rfl

theorem enclosable_peekChar : Enclosable peekChar := by
  intro cs a rest h
  cases cs with
  | nil => exact nomatch h
  | cons c cs => cases h; exact .inl rfl

theorem unaware_expect {c : Char} (hc : c ≠ ')') : Unaware (expect c) := by
  intro cs
  cases cs with
  | nil =>
    have hne : ¬ ')' = c := hc.symm
    change (if ')' ≠ c then malformed else pure () : PatternReader Unit).run [] = _
    rw [if_pos hne]
    rfl
  | cons d cs =>
    change (if d ≠ c then malformed else pure () : PatternReader Unit).run (cs ++ [')']) =
      ((if d ≠ c then malformed else pure () : PatternReader Unit).run cs).map _
    split <;> rfl

theorem enclosable_expect (c : Char) : Enclosable (expect c) :=
  enclosable_char.bind fun _ => .ite .malformed (.pure ())

theorem unaware_eat {c : Char} (hc : c ≠ ')') : Unaware (Reader.eat [c]) := by
  intro cs
  by_cases hhead : cs.head? = some c
  · obtain ⟨cs, rfl⟩ := List.head?_eq_some_iff.1 hhead
    have htaken (ds : List Char) :
        (Reader.eat [c] : PatternReader Bool).run (c :: ds) = .ok (true, ds) :=
      Reader.run_eat [c] ds
    rw [List.cons_append, htaken, htaken]
    rfl
  · have hclose : (cs ++ [')']).head? ≠ some c := by
      cases cs with
      | nil => exact fun h => hc (Option.some.inj h).symm
      | cons d cs => exact hhead
    rw [Reader.run_eat_of_head_ne hhead, Reader.run_eat_of_head_ne hclose]
    rfl

theorem enclosable_space (f : Flags) : Enclosable (space f) := by
  intro cs a rest h
  cases h
  obtain hskip | ⟨hnil, hskip⟩ := skipSpace_append_close f.verbose cs
  · exact .inl (by rw [space]; simp only [hskip])
  · exact .inr ⟨hnil, by rw [space]; simp only [hskip]⟩

theorem enclosable_charThenSpace (f : Flags) : Enclosable (charThenSpace f) :=
  enclosable_char.bind fun c => (enclosable_space f).bind fun _ => .pure c

theorem enclosable_charsThenSpace (f : Flags) {p : Char → Bool} (h : p ')' = false) :
    Enclosable (charsThenSpace f p) := by
  intro cs a rest hrun
  have hspan := spanSpaced_append_close f.verbose p cs (.inl h)
  rw [Except.ok.inj hrun] at hspan
  exact hspan.imp (congrArg Except.ok) (And.imp_right (congrArg Except.ok))

theorem enclosableBeforeMore_charsThenSpace (f : Flags) (p : Char → Bool) :
    EnclosableBeforeMore (charsThenSpace f p) := by
  intro cs a rest hrun hmore
  have hspan := spanSpaced_append_close f.verbose p cs
  rw [Except.ok.inj hrun] at hspan
  obtain hsame | ⟨hnil, -⟩ := hspan (.inr hmore)
  · exact congrArg Except.ok hsame
  · exact absurd hnil hmore

theorem enclosable_takeWhile {p : Char → Bool} (h : p ')' = false) :
    Enclosable (Reader.takeWhile p) := by
  intro cs a rest hrun
  cases hrun
  obtain ⟨htake, hdrop⟩ := takeWhile_append_close p cs (.inl h)
  left
  change Except.ok (_, _) = _
  rw [htake, hdrop]

theorem enclosableBeforeMore_takeWhile (p : Char → Bool) :
    EnclosableBeforeMore (Reader.takeWhile p) := by
  intro cs a rest hrun hmore
  cases hrun
  obtain ⟨htake, hdrop⟩ := takeWhile_append_close p cs (.inr hmore)
  change Except.ok (_, _) = _
  rw [htake, hdrop]

/-- A reader that must leave something, before one that takes a character of it. -/
theorem EnclosableBeforeMore.bind_expect {p : PatternReader α} {c : Char}
    {f : α → PatternReader β} (hp : EnclosableBeforeMore p) (hf : ∀ a, Enclosable (f a)) :
    Enclosable (p >>= fun a => expect c >>= fun _ => f a) := by
  intro cs b rest h
  obtain ⟨a, cs', hpcs, htail⟩ := Reader.run_bind_eq_ok_iff.1 h
  cases cs' with
  | nil => exact nomatch htail
  | cons d cs' =>
    rw [Reader.run_bind_ok (hp hpcs (List.cons_ne_nil d cs'))]
    exact (enclosable_expect c).bind (fun _ => hf a) _ htail

/-- A comment is passed over to its end. -/
theorem enclosable_comment (b : β) :
    Enclosable (Reader.takeWhile (· ≠ '\n') >>= fun _ => pure b) := by
  intro cs a rest h
  cases h
  by_cases hend : cs.dropWhile (· ≠ '\n') = []
  · have hclose : (cs ++ [')']).dropWhile (· ≠ '\n') = [] := by
      rw [List.dropWhile_append, if_pos (List.isEmpty_iff.2 hend)]
      decide
    exact .inr ⟨hend, congrArg (fun rest => Except.ok (b, rest)) hclose⟩
  · obtain ⟨-, hdrop⟩ := takeWhile_append_close _ cs (.inr hend)
    exact .inl (congrArg (fun rest => Except.ok (b, rest)) hdrop)

/-- Text up to a mark is the same inside of a group, and without the mark it fails. -/
theorem Unaware.takeWhile_bind_expect {c : Char} {f : List Char → PatternReader β} (hc : c ≠ ')')
    (hf : ∀ a, Unaware (f a)) :
    Unaware (Reader.takeWhile (· ≠ c) >>= fun a => expect c >>= fun _ => f a) := by
  intro cs
  change (expect c >>= fun _ => f _).run ((cs ++ [')']).dropWhile (· ≠ c)) =
    ((expect c >>= fun _ => f _).run (cs.dropWhile (· ≠ c))).map _
  by_cases hend : cs.dropWhile (· ≠ c) = []
  · have hclose : (cs ++ [')']).dropWhile (· ≠ c) = [] := by
      rw [List.dropWhile_append, if_pos (List.isEmpty_iff.2 hend),
        List.dropWhile_cons_of_pos (by simpa using hc.symm), List.dropWhile_nil]
    rw [hclose, hend]
    rfl
  · obtain ⟨htake, hdrop⟩ := takeWhile_append_close _ cs (.inr hend)
    rw [htake, hdrop]
    exact (unaware_expect hc).bind (fun _ => hf _) _

end PatternReader

end GrammarKit.Pattern
