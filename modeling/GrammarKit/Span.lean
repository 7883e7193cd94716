/-!
# Spans

A span is a stretch of a text, from one byte offset up to another.
-/

namespace GrammarKit

/-- The stretch of a text from the byte offset `start` up to the byte offset `stop`. -/
structure Span where
  start : Nat
  stop : Nat
  deriving Repr, DecidableEq

namespace Span

/-- The number of bytes of a span that ends no earlier than it starts. -/
def length (s : Span) : Nat := s.stop - s.start

/-- Whether the span starts where it ends. -/
def isEmpty (s : Span) : Bool := s.start == s.stop

/-- Whether the span `t` starts and ends within the span `s`. -/
def contains (s t : Span) : Bool := s.start ≤ t.start && t.stop ≤ s.stop

/-- The span moved on by `n` bytes. -/
def shift (n : Nat) (s : Span) : Span := ⟨s.start + n, s.stop + n⟩

theorem contains_refl (s : Span) : s.contains s = true := by simp [contains]

theorem contains_trans {s t u : Span} (hst : s.contains t = true) (htu : t.contains u = true) :
    s.contains u = true := by
  simp only [contains, Bool.and_eq_true, decide_eq_true_eq] at *
  omega

theorem length_shift (n : Nat) (s : Span) : (s.shift n).length = s.length := by
  simp [length, shift, Nat.add_sub_add_right]

end Span

end GrammarKit
