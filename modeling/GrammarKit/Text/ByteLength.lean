/-!
# Lengths and cuts in bytes

Positions in a text count the bytes of its UTF-8 form. `dropBytes` cuts a given number of bytes off
the front of a text, and refuses to cut through a character.
-/

namespace GrammarKit.Text

/-- The number of bytes of a text in UTF-8. -/
def byteLength : List Char → Nat
  | [] => 0
  | c :: cs => c.utf8Size + byteLength cs

theorem byteLength_append (as bs : List Char) :
    byteLength (as ++ bs) = byteLength as + byteLength bs := by
  induction as with
  | nil => simp [byteLength]
  | cons a as ih => simp [byteLength, ih, Nat.add_assoc]

/-- Only the empty text has no bytes. -/
theorem byteLength_eq_zero {cs : List Char} : byteLength cs = 0 ↔ cs = [] := by
  cases cs with
  | nil => simp [byteLength]
  | cons c cs => have := c.utf8Size_pos; simp [byteLength]; omega

/-- The text after its first `n` bytes; `none` where the cut falls inside a character. A cut beyond
the end leaves nothing. -/
def dropBytes : Nat → List Char → Option (List Char)
  | 0, cs => some cs
  | _ + 1, [] => some []
  | n + 1, c :: cs => if c.utf8Size ≤ n + 1 then dropBytes (n + 1 - c.utf8Size) cs else none
  termination_by _ cs => cs.length

/-- A cut as long as a text that comes first leaves the rest. -/
theorem dropBytes_append (as bs : List Char) : dropBytes (byteLength as) (as ++ bs) = some bs := by
  induction as with
  | nil => simp [byteLength, dropBytes]
  | cons a as ih =>
    have ha := a.utf8Size_pos
    obtain ⟨n, hn⟩ : ∃ n, byteLength (a :: as) = n + 1 :=
      ⟨byteLength (a :: as) - 1, by simp [byteLength]; omega⟩
    rw [hn, List.cons_append, dropBytes]
    simp only [byteLength] at hn
    rw [if_pos (by omega), show n + 1 - a.utf8Size = byteLength as by omega, ih]

theorem length_le_of_dropBytes {n : Nat} {cs rest : List Char} (h : dropBytes n cs = some rest) :
    rest.length ≤ cs.length := by
  fun_induction dropBytes n cs with
  | case1 cs => cases h; exact Nat.le_refl _
  | case2 n => cases h; exact Nat.le_refl _
  | case3 n c cs hc ih => exact Nat.le_succ_of_le (ih h)
  | case4 n c cs hc => cases h

/-- Cutting at least one byte off a text that is not empty shortens it. -/
theorem length_lt_of_dropBytes {n : Nat} {cs rest : List Char} (hn : 0 < n) (hcs : cs ≠ [])
    (h : dropBytes n cs = some rest) : rest.length < cs.length := by
  match n, cs with
  | n + 1, c :: cs =>
    rw [dropBytes] at h
    split at h
    · exact Nat.lt_succ_of_le (length_le_of_dropBytes h)
    · cases h

end GrammarKit.Text
