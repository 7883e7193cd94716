import GrammarKit.Json.Reader
import GrammarKit.Json.Value
import GrammarKit.Proofs.Text.Reading

/-!
# Strings in JSON texts

The texts that denote a string in JSON. A character stands for itself or is escaped: some by a
letter, each by its number in four hexadecimal digits, and one with a longer number by a pair of
them. A half of such a pair by itself denotes no character.

Whichever text of a string it is, the string is read from it. The text that this library writes is
one of them.
-/

namespace GrammarKit

namespace JsonText

/-- A hexadecimal digit in either case, with its value. -/
def HexDigit (c : Char) (n : Nat) : Prop :=
  n < 16 ∧ (c = Nat.digitChar n ∨ c = (Nat.digitChar n).toUpper)

/-- Four hexadecimal digits, with their number. -/
inductive HexFour : List Char → Nat → Prop where
  | digits {a b c d : Char} {i j k l : Nat} (ha : HexDigit a i) (hb : HexDigit b j)
      (hc : HexDigit c k) (hd : HexDigit d l) :
      HexFour [a, b, c, d] (((16 * i + j) * 16 + k) * 16 + l)

/-- The characters that a letter behind a backslash stands for. -/
def letterEscapes : List (Char × Char) :=
  [('"', '"'), ('\\', '\\'), ('/', '/'), ('b', Char.ofNat 8), ('f', Char.ofNat 12), ('n', '\n'),
    ('r', '\r'), ('t', '\t')]

/-- The texts of a character within a string. -/
inductive CharText : List Char → Char → Prop where
  /-- The character itself, unless it has to be escaped. -/
  | plain {c : Char} (hquote : c ≠ '"') (hbackslash : c ≠ '\\') (hcontrol : 32 ≤ c.toNat) :
      CharText [c] c
  | letter {l c : Char} (h : (l, c) ∈ letterEscapes) : CharText ['\\', l] c
  | number {ds : List Char} {c : Char} (h : HexFour ds c.toNat) : CharText ('\\' :: 'u' :: ds) c
  /-- Two numbers of ten bits each, which count from the end of the first plane on. -/
  | pair {ds es : List Char} {i j : Nat} {c : Char} (hi : i < 0x400) (hj : j < 0x400)
      (hds : HexFour ds (0xD800 + i)) (hes : HexFour es (0xDC00 + j))
      (hc : c.toNat = 0x10000 + i * 0x400 + j) :
      CharText ('\\' :: 'u' :: (ds ++ '\\' :: 'u' :: es)) c

/-- The texts of some characters, one after the other. -/
inductive CharTexts : List Char → List Char → Prop where
  | nil : CharTexts [] []
  | cons {text texts : List Char} {c : Char} {cs : List Char} (hc : CharText text c)
      (hcs : CharTexts texts cs) : CharTexts (text ++ texts) (c :: cs)

/-- The texts of a string. -/
def StringText (text : List Char) (s : String) : Prop :=
  ∃ body, text = '"' :: (body ++ ['"']) ∧ CharTexts body s.toList

/-- A written hexadecimal digit has its value. -/
theorem hexDigit_hexDigit {n : Nat} (h : n < 16) : HexDigit (Json.hexDigit n) n := by
  have hall : ∀ n < 16, Json.hexDigit n = Nat.digitChar n := by decide
  exact ⟨h, .inl (hall n h)⟩

/-- A character is written within a string as one of its texts. -/
theorem charText_escapeChar (c : Char) : CharText (Json.escapeChar c) c := by
  have hnumber {n : Nat} (h : c.toNat = n) : c = Char.ofNat n := by rw [← h, Char.ofNat_toNat]
  unfold Json.escapeChar
  split
  · next h => subst h; exact .letter (by decide)
  split
  · next h => subst h; exact .letter (by decide)
  split
  · next h => rw [hnumber h]; exact .letter (by decide)
  split
  · next h => subst h; exact .letter (by decide)
  split
  · next h => subst h; exact .letter (by decide)
  split
  · next h => rw [hnumber h]; exact .letter (by decide)
  split
  · next h => subst h; exact .letter (by decide)
  split
  · next h =>
    have hzero : HexDigit '0' 0 := ⟨by decide, .inl rfl⟩
    have hdigits := HexFour.digits hzero hzero (hexDigit_hexDigit (n := c.toNat / 16) (by omega))
      (hexDigit_hexDigit (n := c.toNat % 16) (by omega))
    refine .number ?_
    rwa [show ((16 * 0 + 0) * 16 + c.toNat / 16) * 16 + c.toNat % 16 = c.toNat by omega]
      at hdigits
  · next hquote hbackslash _ _ _ _ _ hprintable =>
    exact .plain hquote hbackslash (Nat.le_of_not_lt hprintable)

/-- Characters are written within a string as some of their texts. -/
theorem charTexts_flatMap (cs : List Char) : CharTexts (cs.flatMap Json.escapeChar) cs := by
  induction cs with
  | nil => exact .nil
  | cons c cs ih =>
    rw [List.flatMap_cons]
    exact .cons (charText_escapeChar c) ih

/-- A string is written as one of its texts. -/
theorem stringText_stringChars (s : String) : StringText (Json.stringChars s) s :=
  ⟨s.toList.flatMap Json.escapeChar, rfl, charTexts_flatMap s.toList⟩

end JsonText

namespace JsonReader

open Reader JsonText

theorem run_char (c : Char) (cs : List Char) : char.run (c :: cs) = .ok (c, cs) := rfl

/-- A hexadecimal digit is read in either case. -/
theorem hexValue?_of_hexDigit {c : Char} {n : Nat} (h : HexDigit c n) : hexValue? c = some n := by
  have hall : ∀ n < 16, hexValue? (Nat.digitChar n) = some n ∧
      hexValue? (Nat.digitChar n).toUpper = some n := by decide
  obtain ⟨hn, rfl | rfl⟩ := h
  · exact (hall n hn).1
  · exact (hall n hn).2

/-- Four hexadecimal digits are read as their number. -/
theorem run_hexFour {ds : List Char} {n : Nat} (h : HexFour ds n) (rest : List Char) :
    hexFour.run (ds ++ rest) = .ok (n, rest) := by
  cases h with
  | @digits a b c d i j k l ha hb hc hd =>
    have hbytes : ¬ Text.byteLength (([a, b, c, d] ++ rest).take 4) < 4 := by
      have hpos (c : Char) := c.utf8Size_pos
      have hpos₁ := hpos a
      have hpos₂ := hpos b
      have hpos₃ := hpos c
      have hpos₄ := hpos d
      simp only [List.cons_append, List.nil_append, List.take_succ_cons, List.take_zero,
        Text.byteLength]
      omega
    rw [hexFour, run_bind_ok (run_rest _), if_neg hbytes]
    simp only [List.cons_append, List.nil_append, hexValue?_of_hexDigit ha,
      hexValue?_of_hexDigit hb, hexValue?_of_hexDigit hc, hexValue?_of_hexDigit hd]
    rw [run_bind_ok (run_drop _ _), run_pure]
    rfl

/-- A letter behind a backslash stands for its character. -/
theorem letterEscape?_of_mem {l c : Char} (h : (l, c) ∈ letterEscapes) :
    l ≠ 'u' ∧ letterEscape? l = some c := by
  have hall : ∀ e ∈ letterEscapes, e.1 ≠ 'u' ∧ letterEscape? e.1 = some e.2 := by decide
  exact hall _ h

theorem run_escape_letter {l c : Char} (h : (l, c) ∈ letterEscapes) (rest : List Char) :
    escape.run (l :: rest) = .ok (c, rest) := by
  obtain ⟨hu, hletter⟩ := letterEscape?_of_mem h
  rw [escape, run_bind_ok (run_char _ _), if_neg hu]
  simp only [hletter]
  rw [run_pure]

/-- The number behind a backslash and `u` stands for its character. -/
theorem run_escape_number {ds : List Char} {c : Char} (h : HexFour ds c.toNat) (rest : List Char) :
    escape.run ('u' :: (ds ++ rest)) = .ok (c, rest) := by
  have hvalid : c.toNat < 0xD800 ∨ 0xDFFF < c.toNat ∧ c.toNat < 0x110000 := c.valid
  have htrailing : isTrailing c.toNat = false := by
    simp only [isTrailing, Bool.and_eq_false_iff, decide_eq_false_iff_not]
    omega
  have hleading : isLeading c.toNat = false := by
    simp only [isLeading, Bool.and_eq_false_iff, decide_eq_false_iff_not]
    omega
  rw [escape, run_bind_ok (run_char _ _), if_pos rfl, unicodeEscape, run_bind_ok (run_hexFour h _),
    htrailing, hleading]
  simp only [Bool.false_eq_true, if_false, Char.ofNat_toNat]
  rw [run_pure]

/-- A pair of numbers stands for one character. -/
theorem run_escape_pair {ds es : List Char} {i j : Nat} {c : Char} (hi : i < 0x400)
    (hj : j < 0x400) (hds : HexFour ds (0xD800 + i)) (hes : HexFour es (0xDC00 + j))
    (hc : c.toNat = 0x10000 + i * 0x400 + j) (rest : List Char) :
    escape.run ('u' :: (ds ++ '\\' :: 'u' :: (es ++ rest))) = .ok (c, rest) := by
  have hnot : isTrailing (0xD800 + i) = false := by
    simp only [isTrailing, Bool.and_eq_false_iff, decide_eq_false_iff_not]
    omega
  have hleading : isLeading (0xD800 + i) = true := by
    simp only [isLeading, Bool.and_eq_true, decide_eq_true_eq]
    omega
  have htrailing : isTrailing (0xDC00 + j) = true := by
    simp only [isTrailing, Bool.and_eq_true, decide_eq_true_eq]
    omega
  have hchar : Char.ofNat (0x10000 + (0xD800 + i - 0xD800) * 0x400 + (0xDC00 + j - 0xDC00)) = c := by
    rw [Nat.add_sub_cancel_left, Nat.add_sub_cancel_left, ← hc, Char.ofNat_toNat]
  rw [escape, run_bind_ok (run_char _ _), if_pos rfl, unicodeEscape,
    run_bind_ok (run_hexFour hds _), hnot, hleading, if_neg Bool.false_ne_true, if_pos rfl,
    run_bind_ok (run_char _ _), if_neg (by decide), run_bind_ok (run_char _ _),
    if_neg (by decide), run_bind_ok (run_hexFour hes _), htrailing, if_pos rfl, hchar, run_pure]

/-- An escape within a string adds the character that it stands for. -/
theorem run_loop_escape {c : Char} {cs rest : List Char} (soFar : List Char)
    (h : escape.run cs = .ok (c, rest)) :
    (loop stringStep atEnd soFar).run ('\\' :: cs) = (loop stringStep atEnd (c :: soFar)).run rest := by
  apply run_loop_next
  rw [stringStep, if_neg (by decide), if_pos rfl, run_bind_ok h, run_pure]

/-- Whichever text of a character it is, reading adds the character. -/
theorem run_loop_charText {text : List Char} {c : Char} (h : CharText text c)
    (soFar rest : List Char) :
    (loop stringStep atEnd soFar).run (text ++ rest) =
      (loop stringStep atEnd (c :: soFar)).run rest := by
  cases h with
  | plain hquote hbackslash hcontrol =>
    apply run_loop_next
    rw [stringStep, if_neg hquote, if_neg hbackslash, if_neg (Nat.not_lt.2 hcontrol), run_pure]
    rfl
  | letter h => exact run_loop_escape soFar (run_escape_letter h rest)
  | number h => exact run_loop_escape soFar (run_escape_number h rest)
  | pair hi hj hds hes hc =>
    have hescape := run_escape_pair hi hj hds hes hc rest
    rw [List.cons_append, List.cons_append, List.append_assoc]
    exact run_loop_escape soFar hescape

/-- Whichever texts of some characters they are, reading adds the characters. -/
theorem run_loop_charTexts {texts cs : List Char} (h : CharTexts texts cs) (soFar rest : List Char) :
    (loop stringStep atEnd soFar).run (texts ++ rest) =
      (loop stringStep atEnd (cs.reverse ++ soFar)).run rest := by
  induction h generalizing soFar with
  | nil => rfl
  | cons hc _ ih =>
    rw [List.append_assoc, run_loop_charText hc, ih, List.reverse_cons, List.append_assoc,
      List.singleton_append]

/-- A string is read from behind its opening quote. -/
theorem run_string {body : List Char} {s : String} (h : CharTexts body s.toList)
    (rest : List Char) : string.run (body ++ '"' :: rest) = .ok (s, rest) := by
  rw [string, run_loop_charTexts h, List.append_nil]
  apply run_loop_done
  rw [stringStep, if_pos rfl, run_pure, List.reverse_reverse, String.ofList_toList]

end JsonReader

end GrammarKit
