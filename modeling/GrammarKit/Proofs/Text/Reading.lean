import GrammarKit.Text.Reader

/-!
# Readers on texts that are known to come next

What the readers do on a text whose beginning is known: each takes just that beginning, and
leaves the rest as it was. A loop is followed one round at a time, or over a whole run of
characters that leave its state alone.
-/

namespace GrammarKit

/-- What a computation gives, if it gives something, is its value. -/
theorem eq_ok_of_toOption {ε α : Type} {x : Except ε α} {a : α} (h : x.toOption = some a) :
    x = .ok a := by
  cases x with
  | error e => cases h
  | ok b => cases h; rfl

/-- Whether a computation gives something. -/
theorem isOk_iff_exists {ε α : Type} {x : Except ε α} : x.isOk = true ↔ ∃ a, x = .ok a := by
  cases x with
  | error e => exact ⟨nofun, nofun⟩
  | ok a => exact ⟨fun _ => ⟨a, rfl⟩, fun _ => rfl⟩

namespace Reader

variable {ε α β σ : Type}

/-- Where the rest of the text does not go on with a run of characters. -/
def Stops (p : Char → Bool) (rest : List Char) : Prop :=
  ∀ c, rest.head? = some c → p c = false

/-- Nothing goes on at the end of the text. -/
theorem stops_nil (p : Char → Bool) : Stops p [] := fun _ h => nomatch h

/-- A character without the property stops the run. -/
theorem stops_cons {p : Char → Bool} {c : Char} (cs : List Char) (h : p c = false) :
    Stops p (c :: cs) := by
  intro d hd
  cases hd
  exact h

/-- Another character stops a run of one character. -/
theorem stops_of_ne {q c : Char} (cs : List Char) (h : c ≠ q) : Stops (· == q) (c :: cs) :=
  stops_cons cs (beq_eq_false_iff_ne.2 h)

/-- Two readers succeed together where the first succeeds and the second does on what it leaves. -/
theorem run_bind_eq_ok_iff {p : Reader ε α} {f : α → Reader ε β} {cs rest : List Char} {b : β} :
    (p >>= f).run cs = .ok (b, rest) ↔
      ∃ a cs', p.run cs = .ok (a, cs') ∧ (f a).run cs' = .ok (b, rest) := by
  rw [run_bind]
  constructor
  · intro h
    split at h
    · cases h
    · next a cs' hp => exact ⟨a, cs', hp, h⟩
  · rintro ⟨a, cs', hp, hf⟩
    rw [hp]
    exact hf

/-- A computation that needs no text takes none. -/
theorem run_ofExcept_eq_ok_iff {x : Except ε α} {cs rest : List Char} {a : α} :
    (ofExcept x).run cs = .ok (a, rest) ↔ x = .ok a ∧ cs = rest := by
  cases x with
  | error e => simp [ofExcept, fail]
  | ok b => simp [ofExcept, run_pure]

theorem run_rest (cs : List Char) : (rest : Reader ε (List Char)).run cs = .ok (cs, cs) := rfl

theorem run_peek (cs : List Char) : (peek : Reader ε (Option Char)).run cs = .ok (cs.head?, cs) := rfl

theorem run_drop (n : Nat) (cs : List Char) :
    (drop n : Reader ε Unit).run cs = .ok ((), cs.drop n) := rfl

/-- The run that is taken ends where the rest stops it. -/
theorem run_takeWhile {p : Char → Bool} {cs rest : List Char} (hcs : ∀ c ∈ cs, p c = true)
    (hrest : Stops p rest) :
    (takeWhile p : Reader ε (List Char)).run (cs ++ rest) = .ok (cs, rest) := by
  have hstop : rest.takeWhile p = [] ∧ rest.dropWhile p = rest := by
    cases rest with
    | nil => exact ⟨rfl, rfl⟩
    | cons c cs => simp [hrest c rfl]
  change Except.ok ((cs ++ rest).takeWhile p, (cs ++ rest).dropWhile p) = _
  rw [List.takeWhile_append_of_pos hcs, List.dropWhile_append_of_pos hcs, hstop.1, hstop.2,
    List.append_nil]

/-- No characters are taken where the run does not begin. -/
theorem run_takeWhile_nil {p : Char → Bool} {rest : List Char} (hrest : Stops p rest) :
    (takeWhile p : Reader ε (List Char)).run rest = .ok ([], rest) := by
  have hnone : ∀ c ∈ ([] : List Char), p c = true := fun c hc => nomatch hc
  exact run_takeWhile hnone hrest

/-- A text that comes next is taken. -/
theorem run_eat (s rest : List Char) : (eat s : Reader ε Bool).run (s ++ rest) = .ok (true, rest) := by
  have hprefix : s.isPrefixOf (s ++ rest) = true :=
    List.isPrefixOf_iff_prefix.2 (List.prefix_append s rest)
  rw [eat, run_bind_ok (run_rest _), if_pos hprefix, run_bind_ok (run_drop _ _), List.drop_left,
    run_pure]

/-- A text that does not come next is left. -/
theorem run_eat_false {s cs : List Char} (h : s.isPrefixOf cs = false) :
    (eat s : Reader ε Bool).run cs = .ok (false, cs) := by
  rw [eat, run_bind_ok (run_rest _), if_neg (by rw [h]; exact Bool.false_ne_true), run_pure]

/-- A text that begins with another character does not come next. -/
theorem run_eat_of_head_ne {c : Char} {s cs : List Char} (h : cs.head? ≠ some c) :
    (eat (c :: s) : Reader ε Bool).run cs = .ok (false, cs) := by
  apply run_eat_false
  cases cs with
  | nil => rfl
  | cons d cs =>
    have hne : c ≠ d := fun hc => h (congrArg some hc.symm)
    rw [List.isPrefixOf, beq_eq_false_iff_ne.2 hne, Bool.false_and]

/-! ### What a reader makes of a text -/

/-- What a reader takes off a text and what it leaves, unless it fails. -/
def outcome (p : Reader ε α) (cs : List Char) : Option (α × List Char) := (p.run cs).toOption

theorem outcome_eq_some_iff {p : Reader ε α} {cs : List Char} {r : α × List Char} :
    p.outcome cs = some r ↔ p.run cs = .ok r := by
  unfold outcome
  cases p.run cs <;> simp [Except.toOption]

theorem outcome_eq_none_iff {p : Reader ε α} {cs : List Char} :
    p.outcome cs = none ↔ ∃ e, p.run cs = .error e := by
  unfold outcome
  cases p.run cs <;> simp [Except.toOption]

/-- Readers that do the same on two texts make the same of them. -/
theorem outcome_congr {p q : Reader ε α} {cs cs' : List Char} (h : p.run cs = q.run cs') :
    p.outcome cs = q.outcome cs' :=
  congrArg Except.toOption h

theorem outcome_bind (p : Reader ε α) (f : α → Reader ε β) (cs : List Char) :
    (p >>= f).outcome cs = (p.outcome cs).bind fun r => (f r.1).outcome r.2 := by
  unfold outcome
  rw [run_bind]
  cases p.run cs <;> rfl

/-- A first reader that succeeds hands its value and rest to the second. -/
theorem outcome_bind_of_run {p : Reader ε α} {f : α → Reader ε β} {cs rest : List Char} {a : α}
    (h : p.run cs = .ok (a, rest)) : (p >>= f).outcome cs = (f a).outcome rest :=
  outcome_congr (run_bind_ok h)

section Loops

variable {step : σ → Char → Reader ε (σ ⊕ α)} {atEnd : σ → Except ε α} {s s' : σ} {c : Char}
  {cs cs' : List Char}

/-- A round that goes on hands its state to the next one. -/
theorem run_loop_next (h : (step s c).run cs = .ok (.inl s', cs')) :
    (loop step atEnd s).run (c :: cs) = (loop step atEnd s').run cs' := by
  rw [loop_cons, h]

/-- A round that gives a value ends the loop. -/
theorem run_loop_done {a : α} (h : (step s c).run cs = .ok (.inr a, cs')) :
    (loop step atEnd s).run (c :: cs) = .ok (a, cs') := by
  rw [loop_cons, h]

/-- What holds at the start of a loop and is kept by every round holds where the loop ends. -/
theorem exists_end_of_run_loop {P : σ → Prop} {a : α} {rest : List Char}
    (hround : ∀ {s c cs s' cs'}, P s → (step s c).run cs = .ok (.inl s', cs') → P s') (hs : P s)
    (h : (loop step atEnd s).run cs = .ok (a, rest)) :
    ∃ s', P s' ∧ (atEnd s' = .ok a ∨ ∃ c cs, (step s' c).run cs = .ok (.inr a, rest)) := by
  change loopOn step atEnd s cs = .ok (a, rest) at h
  fun_induction loopOn step atEnd s cs with
  | case1 s =>
    refine ⟨s, hs, .inl ?_⟩
    cases hend : atEnd s with
    | error e => rw [hend] at h; cases h
    | ok b => rw [hend] at h; cases h; rfl
  | case2 s c cs e hstep => cases h
  | case3 s c cs s' cs' hstep hle ih => exact ih (hround hs hstep) h
  | case4 s c cs b cs' hstep => cases h; exact ⟨s, hs, .inr ⟨c, cs, hstep⟩⟩

/-- Some rounds of a loop lead from one state and text to another. -/
inductive Rounds (step : σ → Char → Reader ε (σ ⊕ α)) : σ → List Char → σ → List Char → Prop where
  | none {s : σ} {cs : List Char} : Rounds step s cs s cs
  | next {s s' s'' : σ} {c : Char} {cs cs' cs'' : List Char}
      (h : (step s c).run cs = .ok (.inl s', cs')) (hmore : Rounds step s' cs' s'' cs'') :
      Rounds step s (c :: cs) s'' cs''

/-- A loop goes on where some of its rounds lead. -/
theorem Rounds.run_loop (h : Rounds step s cs s' cs') :
    (loop step atEnd s).run cs = (loop step atEnd s').run cs' := by
  induction h with
  | none => rfl
  | next h _ ih => rw [run_loop_next h, ih]

/-- What a loop makes of a text is what its first round and then the further ones make of it. -/
theorem outcome_loop_cons (step : σ → Char → Reader ε (σ ⊕ α)) (atEnd : σ → Except ε α) (s : σ)
    (c : Char) (cs : List Char) :
    (loop step atEnd s).outcome (c :: cs) = ((step s c).outcome cs).bind fun r =>
      match r with
      | (.inl s', cs') => (loop step atEnd s').outcome cs'
      | (.inr a, cs') => some (a, cs') := by
  unfold outcome
  rw [loop_cons]
  rcases (step s c).run cs with e | ⟨s' | a, cs'⟩ <;> rfl

/-- Characters that leave the state alone are passed over. -/
theorem run_loop_skip (ws : List Char) (h : ∀ w ∈ ws, step s w = pure (.inl s)) :
    (loop step atEnd s).run (ws ++ cs) = (loop step atEnd s).run cs := by
  induction ws with
  | nil => rfl
  | cons w ws ih =>
    have hround : (step s w).run (ws ++ cs) = .ok (.inl s, ws ++ cs) := by
      rw [h w List.mem_cons_self, run_pure]
    rw [List.cons_append, run_loop_next hround, ih fun v hv => h v (List.mem_cons_of_mem w hv)]

/-- Characters that are each written as a text which adds them to the state are all added. -/
theorem run_loop_flatMap {step : List Char → Char → Reader ε (List Char ⊕ α)}
    {atEnd : List Char → Except ε α} {write : Char → List Char} {cs : List Char}
    (hwrite : ∀ c ∈ cs, ∀ soFar rest, (loop step atEnd soFar).run (write c ++ rest) =
      (loop step atEnd (c :: soFar)).run rest) (soFar rest : List Char) :
    (loop step atEnd soFar).run (cs.flatMap write ++ rest) =
      (loop step atEnd (cs.reverse ++ soFar)).run rest := by
  induction cs generalizing soFar with
  | nil => rfl
  | cons c cs ih =>
    rw [List.flatMap_cons, List.append_assoc, hwrite c List.mem_cons_self,
      ih fun d hd => hwrite d (List.mem_cons_of_mem c hd), List.reverse_cons, List.append_assoc,
      List.singleton_append]

end Loops

/-- A reader that takes the whole text gives its value. -/
theorem whole_of_run {p : Reader ε α} {junk : ε} {cs : List Char} {a : α}
    (h : p.run cs = .ok (a, [])) : whole p junk cs = .ok a := by
  rw [whole, h]

end Reader

end GrammarKit
