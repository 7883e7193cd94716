import GrammarKit.Span
import GrammarKit.Text.ByteLength

/-!
# Stretches of a text

A span is a stretch of a text when both its ends fall between characters. What stands there
is compared byte by byte in UTF-8, so that no notion of this library enters the comparison.
A text that is put together from pieces has each of them at the place that the pieces before
it leave.
-/

namespace GrammarKit

/-- A span covers the byte with the given number. -/
def Span.Covers (s : Span) (i : Nat) : Prop := s.start ≤ i ∧ i < s.stop

namespace Text

/-- The lengths of this library are those of the UTF-8 form. -/
theorem byteLength_toList (s : String) : byteLength s.toList = s.utf8ByteSize := by
  suffices h : ∀ cs : List Char, byteLength cs = (String.ofList cs).utf8ByteSize by
    simpa using h s.toList
  intro cs
  induction cs with
  | nil => rfl
  | cons c cs ih =>
    rw [byteLength, ih, ← List.singleton_append, String.ofList_append, String.utf8ByteSize_append,
      ← String.singleton_eq_ofList, String.utf8ByteSize_singleton]

/-- The place behind the front of a text falls between characters. -/
theorem isValid_byteLength (front rest : List Char) :
    String.Pos.Raw.IsValid (String.ofList (front ++ rest)) ⟨byteLength front⟩ := by
  refine String.Pos.Raw.isValid_iff_exists_append.2
    ⟨String.ofList front, String.ofList rest, String.ofList_append, ?_⟩
  rw [String.Pos.Raw.ext_iff]
  change byteLength front = (String.ofList front).utf8ByteSize
  rw [← byteLength_toList, String.toList_ofList]

/-- A piece of a text is no longer than the text. -/
theorem byteLength_le_of_isInfix {piece cs : List Char} (h : piece <:+: cs) :
    byteLength piece ≤ byteLength cs := by
  obtain ⟨front, rest, rfl⟩ := h
  rw [byteLength_append, byteLength_append]
  omega

/-- A cut that is not beyond the end splits the text. -/
theorem exists_append_of_dropBytes {n : Nat} {cs rest : List Char} (hn : n ≤ byteLength cs)
    (h : dropBytes n cs = some rest) : ∃ taken, cs = taken ++ rest ∧ byteLength taken = n := by
  fun_induction dropBytes n cs with
  | case1 cs => cases h; exact ⟨[], rfl, rfl⟩
  | case2 n => exact absurd hn (by simp [byteLength])
  | case3 n c cs hc ih =>
    rw [byteLength] at hn
    obtain ⟨taken, rfl, htaken⟩ := ih (by omega) h
    exact ⟨c :: taken, rfl, by rw [byteLength, htaken]; omega⟩
  | case4 n c cs hc => cases h

/-- Among characters of one byte each, no cut falls inside one of them. -/
theorem dropBytes_of_ascii {cs : List Char} (h : ∀ c ∈ cs, c.utf8Size = 1) (n : Nat) :
    dropBytes n cs = some (cs.drop n) := by
  induction cs generalizing n with
  | nil => cases n <;> simp [dropBytes]
  | cons c cs ih =>
    cases n with
    | zero => simp [dropBytes]
    | succ n =>
      have hc := h c List.mem_cons_self
      rw [dropBytes, hc, if_pos (by omega), Nat.add_sub_cancel, List.drop_succ_cons,
        ih fun d hd => h d (List.mem_cons_of_mem c hd)]

/-- A text that is not empty takes a byte. -/
theorem utf8ByteSize_pos {s : String} (h : s ≠ "") : 0 < s.utf8ByteSize :=
  Nat.pos_of_ne_zero fun hzero => h (String.utf8ByteSize_eq_zero_iff.1 hzero)

/-- The span is a stretch of the text, and the piece is what stands there. -/
structure StandsAt (text : String) (s : Span) (piece : String) : Prop where
  /-- The stretch begins between two characters. -/
  start_isValid : String.Pos.Raw.IsValid text ⟨s.start⟩
  /-- The stretch ends between two characters. -/
  stop_isValid : String.Pos.Raw.IsValid text ⟨s.stop⟩
  /-- The bytes of the stretch are those of the piece. -/
  extract_eq : text.toByteArray.extract s.start s.stop = piece.toByteArray

/-- A piece stands behind what comes before it, whatever follows. -/
theorem standsAt_append (before piece after : String) :
    StandsAt (before ++ piece ++ after)
      ⟨before.utf8ByteSize, before.utf8ByteSize + piece.utf8ByteSize⟩ piece where
  start_isValid := String.Pos.Raw.isValid_iff_exists_append.2
    ⟨before, piece ++ after, String.append_assoc, rfl⟩
  stop_isValid := String.Pos.Raw.isValid_iff_exists_append.2
    ⟨before ++ piece, after, rfl, by simp [String.Pos.Raw.ext_iff]⟩
  extract_eq := by
    rw [String.append_assoc, String.toByteArray_append, String.toByteArray_append]
    simp only [← String.size_toByteArray]
    rw [← Nat.add_zero before.toByteArray.size, Nat.add_assoc, ByteArray.extract_append_size_add,
      Nat.zero_add, ByteArray.extract_append_eq_left rfl]

/-- A stretch does not end beyond the text. -/
theorem StandsAt.stop_le {text piece : String} {s : Span} (h : StandsAt text s piece) :
    s.stop ≤ text.utf8ByteSize :=
  h.stop_isValid.le_utf8ByteSize

end Text

end GrammarKit
