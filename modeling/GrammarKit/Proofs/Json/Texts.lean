import GrammarKit.Proofs.Json.Strings

/-!
# The texts of JSON

What a well-formed text of JSON is, whoever has written it: numbers, strings in any of their texts,
and arrays and objects with white space wherever it may stand. Arrays are told by the texts of their
items and objects by the names and the texts of their members, in order and with repetitions, so
that it can be said what a text holds without reading it.
-/

namespace GrammarKit

namespace JsonReader

open Reader

/-! ### White space and the ends of values -/

/-- White space alone. -/
def Spaces (ws : List Char) : Prop := ∀ c ∈ ws, isSpace c = true

/-- Lines begin with white space. -/
theorem spaces_newLine (depth : Nat) : Spaces (Json.newLine depth) := by
  intro c hc
  rcases List.mem_cons.1 hc with rfl | hc
  · rfl
  · rw [List.eq_of_mem_replicate hc]
    rfl

/-- A blank stands between a colon and the value behind it. -/
theorem spaces_blank : Spaces [' '] := by
  intro c hc
  rw [List.mem_singleton.1 hc]
  rfl

theorem spaces_nil : Spaces [] := fun _ h => nomatch h

/-- White space is passed over. -/
theorem run_space {ws rest : List Char} (hws : Spaces ws) (hrest : Stops isSpace rest) :
    space.run (ws ++ rest) = .ok ((), rest) := by
  rw [space, run_bind_ok (run_takeWhile hws hrest), run_pure]

/-- A sign is found behind white space. -/
theorem run_signChar {ws : List Char} {c : Char} (cs : List Char) (hws : Spaces ws)
    (hc : isSpace c = false) : signChar.run (ws ++ c :: cs) = .ok (c, cs) := by
  rw [signChar, run_bind_ok (run_space hws (stops_cons cs hc)), run_char]

/-- What may come behind a value: white space, a comma or the end of a container. -/
def EndsValue (rest : List Char) : Prop :=
  ∀ c, rest.head? = some c → isSpace c = true ∨ c = ',' ∨ c = ']' ∨ c = '\x7d'

theorem endsValue_nil : EndsValue [] := fun _ h => nomatch h

/-- A comma and the end of a container end a value. -/
theorem endsValue_cons {c : Char} (hc : c = ',' ∨ c = ']' ∨ c = '\x7d') (cs : List Char) :
    EndsValue (c :: cs) := by
  intro d hd
  cases hd
  exact Or.inr hc

/-- White space ends a value, whatever comes behind it. -/
theorem endsValue_append {ws rest : List Char} (hws : Spaces ws) (hrest : EndsValue rest) :
    EndsValue (ws ++ rest) := by
  cases ws with
  | nil => exact hrest
  | cons w ws =>
    intro c hc
    cases hc
    exact Or.inl (hws w List.mem_cons_self)

end JsonReader

namespace JsonText

open JsonReader

/-! ### Numbers -/

/-- One or more digits. -/
def Digits (ds : List Char) : Prop := ds ≠ [] ∧ ∀ d ∈ ds, d.isDigit = true

/-- The whole part of a number: digits, of which the first is no zero unless it is the only one. -/
def WholeText (ds : List Char) : Prop := Digits ds ∧ (ds.head? = some '0' → ds = ['0'])

/-- The fraction of a number, if it has one. -/
def FractionText (text : List Char) : Prop := text = [] ∨ ∃ ds, Digits ds ∧ text = '.' :: ds

/-- The exponent of a number, if it has one. -/
def ExponentText (text : List Char) : Prop :=
  text = [] ∨ ∃ e sign ds, (e = 'e' ∨ e = 'E') ∧ (sign = [] ∨ sign = ['+'] ∨ sign = ['-']) ∧
    Digits ds ∧ text = e :: (sign ++ ds)

/-- The texts of numbers. -/
def NumberText (text : List Char) : Prop :=
  ∃ sign whole fraction exponent, (sign = [] ∨ sign = ['-']) ∧ WholeText whole ∧
    FractionText fraction ∧ ExponentText exponent ∧
    text = sign ++ (whole ++ (fraction ++ exponent))

/-! ### Containers and values -/

section Parts

variable {π : Type} {closing : Char} {PartText : π → List Char → Prop}

/-- The text of a container behind one of its parts: further parts, each after a comma, and then
the closing sign. -/
inductive MoreParts (closing : Char) (PartText : π → List Char → Prop) :
    List π → List Char → Prop where
  | close {ws : List Char} (hws : Spaces ws) : MoreParts closing PartText [] (ws ++ [closing])
  | part {p : π} {ps : List π} {before behind text more : List Char} (hbefore : Spaces before)
      (hbehind : Spaces behind) (hpart : PartText p text)
      (hmore : MoreParts closing PartText ps more) :
      MoreParts closing PartText (p :: ps) (before ++ ',' :: (behind ++ (text ++ more)))

/-- The text of a container behind its opening sign. -/
inductive Parts (closing : Char) (PartText : π → List Char → Prop) : List π → List Char → Prop where
  | empty {ws : List Char} (hws : Spaces ws) : Parts closing PartText [] (ws ++ [closing])
  | first {p : π} {ps : List π} {ws text more : List Char} (hws : Spaces ws)
      (hpart : PartText p text) (hmore : MoreParts closing PartText ps more) :
      Parts closing PartText (p :: ps) (ws ++ (text ++ more))

/-- A part ends where further parts begin. -/
theorem MoreParts.endsValue {ps : List π} {text : List Char} (h : MoreParts closing PartText ps text)
    (hclosing : closing = ']' ∨ closing = '\x7d') (rest : List Char) : EndsValue (text ++ rest) := by
  cases h with
  | close hws =>
    rw [List.append_assoc, List.singleton_append]
    exact endsValue_append hws (endsValue_cons (Or.inr hclosing) rest)
  | part hbefore =>
    rw [List.append_assoc, List.cons_append]
    exact endsValue_append hbefore (endsValue_cons (Or.inl rfl) _)

end Parts

/-- The texts of an array with the given texts of items. -/
def ArrayText (items : List (List Char)) (text : List Char) : Prop :=
  ∃ inner, text = '[' :: inner ∧ Parts ']' Eq items inner

/-- The texts of a member of an object, given by its name and the text of its value. -/
def MemberText (m : String × List Char) (text : List Char) : Prop :=
  ∃ nameText before behind, StringText nameText m.1 ∧ Spaces before ∧ Spaces behind ∧
    text = nameText ++ (before ++ ':' :: (behind ++ m.2))

/-- The texts of an object with the given members. -/
def ObjectText (members : List (String × List Char)) (text : List Char) : Prop :=
  ∃ inner, text = '\x7b' :: inner ∧ Parts '\x7d' MemberText members inner

/-- The well-formed texts of values. -/
inductive ValueText : List Char → Prop where
  | null : ValueText ['n', 'u', 'l', 'l']
  | bool (b : Bool) : ValueText (Json.boolChars b)
  | number {text : List Char} (h : NumberText text) : ValueText text
  | string {text : List Char} {s : String} (h : StringText text s) : ValueText text
  | array {items : List (List Char)} {text : List Char} (h : ArrayText items text)
      (hitems : ∀ item ∈ items, ValueText item) : ValueText text
  | object {members : List (String × List Char)} {text : List Char} (h : ObjectText members text)
      (hvalues : ∀ m ∈ members, ValueText m.2) : ValueText text

/-- A number begins with a minus sign or with a digit. -/
theorem NumberText.exists_cons {text : List Char} (h : NumberText text) :
    ∃ c cs, text = c :: cs ∧ (c = '-' ∨ c.isDigit = true) := by
  obtain ⟨sign, whole, fraction, exponent, hsign, ⟨⟨hne, hdigits⟩, -⟩, -, -, rfl⟩ := h
  obtain rfl | rfl := hsign
  · cases whole with
    | nil => exact absurd rfl hne
    | cons d ds => exact ⟨d, _, rfl, .inr (hdigits d List.mem_cons_self)⟩
  · exact ⟨'-', _, rfl, .inl rfl⟩

/-- A digit is none of the signs around values. -/
theorem isSpace_of_isDigit {c : Char} (h : c.isDigit = true) :
    isSpace c = false ∧ c ≠ ']' ∧ c ≠ ',' := by
  have hne {d : Char} (hd : d.isDigit = false) : c ≠ d := by
    rintro rfl
    rw [h] at hd
    cases hd
  refine ⟨?_, hne (by decide), hne (by decide)⟩
  simp only [isSpace, Bool.or_eq_false_iff, beq_eq_false_iff_ne]
  exact ⟨⟨⟨hne (by decide), hne (by decide)⟩, hne (by decide)⟩, hne (by decide)⟩

/-- A value begins with a sign of its own. -/
theorem ValueText.exists_cons {text : List Char} (h : ValueText text) :
    ∃ c cs, text = c :: cs ∧ isSpace c = false ∧ c ≠ ']' ∧ c ≠ ',' := by
  cases h with
  | null => exact ⟨'n', _, rfl, by decide, by decide, by decide⟩
  | bool b => cases b <;> exact ⟨_, _, rfl, by decide, by decide, by decide⟩
  | number h =>
    obtain ⟨c, cs, rfl, rfl | hdigit⟩ := h.exists_cons
    · exact ⟨'-', cs, rfl, by decide, by decide, by decide⟩
    · exact ⟨c, cs, rfl, isSpace_of_isDigit hdigit⟩
  | string h =>
    obtain ⟨body, rfl, -⟩ := h
    exact ⟨'"', _, rfl, by decide, by decide, by decide⟩
  | array h _ =>
    obtain ⟨inner, rfl, -⟩ := h
    exact ⟨'[', inner, rfl, by decide, by decide, by decide⟩
  | object h _ =>
    obtain ⟨inner, rfl, -⟩ := h
    exact ⟨'\x7b', inner, rfl, by decide, by decide, by decide⟩

end JsonText

end GrammarKit
