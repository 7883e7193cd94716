/-!
# Readers

A reader takes a value off the front of a text, or fails with a cause. What it leaves is never
longer than what it was given, and that bound is part of the type. A loop that takes at least one
character per round therefore ends, and `Reader.loop` is the only recursion that the formats of
this library need.
-/

namespace GrammarKit

/-- Takes a value off the front of a text; what remains is never longer than the text. -/
structure Reader (ε α : Type) where
  /-- The value and the rest of the text, or the cause of the failure. -/
  run : List Char → Except ε (α × List Char)
  /-- Nothing is put back that was not there. -/
  shrinks : ∀ {cs : List Char} {a : α} {rest : List Char},
    run cs = .ok (a, rest) → rest.length ≤ cs.length

namespace Reader

variable {ε α β σ : Type}

/-- The value `a`, with nothing taken. -/
protected def pure (a : α) : Reader ε α where
  run cs := .ok (a, cs)
  shrinks h := by cases h; exact Nat.le_refl _

/-- One reader after another, the second chosen by the value of the first. -/
protected def bind (p : Reader ε α) (f : α → Reader ε β) : Reader ε β where
  run cs :=
    match p.run cs with
    | .error e => .error e
    | .ok (a, rest) => (f a).run rest
  shrinks {cs _ _} h := by
    cases hp : p.run cs with
    | error e => rw [hp] at h; cases h
    | ok r =>
      rw [hp] at h
      exact Nat.le_trans ((f r.1).shrinks h) (p.shrinks (a := r.1) hp)

instance : Monad (Reader ε) where
  pure := Reader.pure
  bind := Reader.bind

theorem run_pure (a : α) (cs : List Char) : (pure a : Reader ε α).run cs = .ok (a, cs) := rfl

theorem run_bind (p : Reader ε α) (f : α → Reader ε β) (cs : List Char) :
    (p >>= f).run cs =
      match p.run cs with
      | .error e => .error e
      | .ok (a, rest) => (f a).run rest := rfl

/-- A first reader that succeeds hands its value and rest to the second. -/
theorem run_bind_ok {p : Reader ε α} {f : α → Reader ε β} {cs rest : List Char} {a : α}
    (h : p.run cs = .ok (a, rest)) : (p >>= f).run cs = (f a).run rest := by
  rw [run_bind, h]

/-- A first reader that fails is the end of both. -/
theorem run_bind_error {p : Reader ε α} {f : α → Reader ε β} {cs : List Char} {e : ε}
    (h : p.run cs = .error e) : (p >>= f).run cs = .error e := by
  rw [run_bind, h]

/-- Failure with the cause `e`. -/
def fail (e : ε) : Reader ε α where
  run _ := .error e
  shrinks h := nomatch h

/-- The value of a computation that needs no text. -/
def ofExcept : Except ε α → Reader ε α
  | .ok a => pure a
  | .error e => fail e

/-- The text that remains, with nothing taken. -/
def rest : Reader ε (List Char) where
  run cs := .ok (cs, cs)
  shrinks h := by cases h; exact Nat.le_refl _

/-- The next character, with nothing taken. -/
def peek : Reader ε (Option Char) where
  run cs := .ok (cs.head?, cs)
  shrinks h := by cases h; exact Nat.le_refl _

/-- The next character, taken; `none` at the end of the text. -/
def next : Reader ε (Option Char) where
  run cs := .ok (cs.head?, cs.tail)
  shrinks h := by cases h; simp

/-- The first `n` characters, dropped. -/
def drop (n : Nat) : Reader ε Unit where
  run cs := .ok ((), cs.drop n)
  shrinks h := by cases h; simp

/-- The longest run of characters with the property `p`, taken. -/
def takeWhile (p : Char → Bool) : Reader ε (List Char) where
  run cs := .ok (cs.takeWhile p, cs.dropWhile p)
  shrinks {cs _ _} h := by cases h; exact (List.dropWhile_sublist p).length_le

/-- Takes the text `s` if it comes next, and tells whether it did. -/
def eat (s : List Char) : Reader ε Bool := do
  if s.isPrefixOf (← rest) then
    drop s.length
    pure true
  else
    pure false

/-- The value of `p`, or `none` with nothing taken where `p` fails. -/
def attempt (p : Reader ε α) : Reader ε (Option α) where
  run cs :=
    match p.run cs with
    | .error _ => .ok (none, cs)
    | .ok (a, rest) => .ok (some a, rest)
  shrinks {cs _ _} h := by
    cases hp : p.run cs with
    | error e => rw [hp] at h; cases h; exact Nat.le_refl _
    | ok r => rw [hp] at h; cases h; exact p.shrinks (a := r.1) hp

/-- The rounds of a loop on a given text: each takes a character and then what it wants more. -/
def loopOn (step : σ → Char → Reader ε (σ ⊕ α)) (atEnd : σ → Except ε α) (s : σ) :
    List Char → Except ε (α × List Char)
  | [] => (atEnd s).map (·, [])
  | c :: cs =>
    match h : (step s c).run cs with
    | .error e => .error e
    | .ok (.inl s', cs') =>
      have : cs'.length ≤ cs.length := (step s c).shrinks h
      loopOn step atEnd s' cs'
    | .ok (.inr a, cs') => .ok (a, cs')
  termination_by cs => cs.length

theorem loopOn_length_le (step : σ → Char → Reader ε (σ ⊕ α)) (atEnd : σ → Except ε α) (s : σ)
    (cs : List Char) {a : α} {cs' : List Char} (h : loopOn step atEnd s cs = .ok (a, cs')) :
    cs'.length ≤ cs.length := by
  fun_induction loopOn step atEnd s cs with
  | case1 s =>
    cases hs : atEnd s with
    | error e => rw [hs] at h; cases h
    | ok b => rw [hs] at h; cases h; exact Nat.le_refl _
  | case2 s c cs e hstep => cases h
  | case3 s c cs s' cs'' hstep hle ih => exact Nat.le_trans (ih h) (Nat.le_succ_of_le hle)
  | case4 s c cs b cs'' hstep =>
    cases h
    exact Nat.le_succ_of_le ((step s c).shrinks hstep)

/-- Rounds of `step`, each on the next character, until one gives a value. At the end of the text
`atEnd` decides. -/
def loop (step : σ → Char → Reader ε (σ ⊕ α)) (atEnd : σ → Except ε α) (s : σ) : Reader ε α where
  run := loopOn step atEnd s
  shrinks {cs _ _} h := loopOn_length_le step atEnd s cs h

theorem loop_nil (step : σ → Char → Reader ε (σ ⊕ α)) (atEnd : σ → Except ε α) (s : σ) :
    (loop step atEnd s).run [] = (atEnd s).map (·, []) := by
  simp [loop, loopOn]

theorem loop_cons (step : σ → Char → Reader ε (σ ⊕ α)) (atEnd : σ → Except ε α) (s : σ)
    (c : Char) (cs : List Char) :
    (loop step atEnd s).run (c :: cs) =
      match (step s c).run cs with
      | .error e => .error e
      | .ok (.inl s', cs') => (loop step atEnd s').run cs'
      | .ok (.inr a, cs') => .ok (a, cs') := by
  simp only [loop]
  rw [loopOn]
  split <;> simp_all

/-- The value of a reader that must take the whole text; `junk` is the cause where text is left. -/
def whole (p : Reader ε α) (junk : ε) (cs : List Char) : Except ε α :=
  match p.run cs with
  | .error e => .error e
  | .ok (a, []) => .ok a
  | .ok (_, _ :: _) => .error junk

end Reader

end GrammarKit
