import GrammarKit.Proofs.Json.Texts

/-!
# What is written is well formed

The pretty text of every JSON value is a well-formed text. Arrays and objects are told by their
parts: the items of a written array are the written items, one level deeper, and so are the members
of a written object, under their names and in their order.
-/

namespace GrammarKit.JsonText

open JsonReader

/-! ### Numbers -/

theorem digits_natChars (n : Nat) : Digits (Decimal.natChars n) :=
  ⟨Nat.toDigits_ne_nil, fun _ hd => Nat.isDigit_of_mem_toDigits (by decide) (by decide) hd⟩

/-- A natural number is written without needless zeros. -/
theorem wholeText_natChars (n : Nat) : WholeText (Decimal.natChars n) := by
  refine ⟨digits_natChars n, ?_⟩
  rw [Decimal.natChars]
  induction n using Nat.strongRecOn with
  | ind n ih =>
    by_cases hn : n < 10
    · rw [Nat.toDigits_of_lt_base hn]
      intro hzero
      rw [List.head?_cons, Option.some.injEq] at hzero
      rw [hzero]
    · -- The first digit is that of a tenth of the number, which is not zero.
      obtain ⟨d, ds, hds⟩ := List.exists_cons_of_ne_nil (Nat.toDigits_ne_nil (n := n / 10) (b := 10))
      have hhead (cs : List Char) :
          (Nat.toDigits 10 (n / 10) ++ cs).head? = (Nat.toDigits 10 (n / 10)).head? := by
        rw [hds]
        rfl
      rw [Nat.toDigits_of_base_le (by decide) (Nat.not_lt.1 hn), hhead]
      intro hzero
      have htenth := ih (n / 10) (by omega) hzero
      have hvalue : Nat.ofDigitChars 10 (Nat.toDigits 10 (n / 10)) 0 = n / 10 :=
        Nat.ofDigitChars_toDigits (by decide) (by decide)
      rw [htenth] at hvalue
      have hnone : Nat.ofDigitChars 10 ['0'] 0 = 0 := rfl
      omega

/-- An integer is written as a number. -/
theorem numberText_intChars (n : Int) : NumberText (Json.intChars n) := by
  cases n with
  | ofNat n =>
    exact ⟨[], Decimal.natChars n, [], [], .inl rfl, wholeText_natChars n, .inl rfl, .inl rfl,
      by simp [Json.intChars]⟩
  | negSucc n =>
    exact ⟨['-'], Decimal.natChars (n + 1), [], [], .inr rfl, wholeText_natChars (n + 1), .inl rfl,
      .inl rfl, by simp [Json.intChars]⟩

/-- Digits with zeros before them are digits. -/
theorem digits_padded (width n : Nat) : Digits (Decimal.padded width n) := by
  obtain ⟨hne, hdigits⟩ := digits_natChars n
  refine ⟨List.append_ne_nil_of_right_ne_nil _ hne, fun d hd => ?_⟩
  rcases List.mem_append.1 hd with hd | hd
  · rw [List.eq_of_mem_replicate hd]
    rfl
  · exact hdigits d hd

/-- A decimal number is written as a number with a fraction. -/
theorem numberText_chars (d : Decimal) : NumberText d.chars := by
  have hpart : Digits (if d.places = 0 then ['0']
      else Decimal.padded d.places (d.digits % Nat.pow 10 d.places)) := by
    split
    · exact ⟨by simp, by simp⟩
    · exact digits_padded _ _
  refine ⟨if d.negative then ['-'] else [], Decimal.natChars (d.digits / Nat.pow 10 d.places), _, [],
    ?_, wholeText_natChars _, .inr ⟨_, hpart, rfl⟩, .inl rfl, by simp [Decimal.chars]⟩
  split
  · exact .inr rfl
  · exact .inl rfl

/-! ### Arrays and objects -/

/-- A written member has the name and the text of the value. -/
theorem memberText_prettyChars (depth : Nat) (name : String) (v : Json) :
    MemberText (name, Json.prettyChars depth v)
      (Json.stringChars name ++ ':' :: ' ' :: Json.prettyChars depth v) :=
  ⟨Json.stringChars name, [], [' '], stringText_stringChars name, spaces_nil, spaces_blank, rfl⟩

/-- The further items of a written array are the written items. -/
theorem moreParts_prettyItems (depth : Nat) (vs : List Json) :
    MoreParts ']' Eq (vs.map (Json.prettyChars (depth + 1))) (Json.prettyItems depth vs) := by
  induction vs with
  | nil => exact .close (spaces_newLine depth)
  | cons v vs ih => exact .part spaces_nil (spaces_newLine (depth + 1)) rfl ih

/-- The items of a written array are the written items. -/
theorem arrayText_prettyChars (depth : Nat) (vs : List Json) :
    ArrayText (vs.map (Json.prettyChars (depth + 1))) (Json.prettyChars depth (.array vs)) := by
  cases vs with
  | nil => exact ⟨[']'], rfl, .empty spaces_nil⟩
  | cons v vs =>
    rw [Json.prettyChars]
    exact ⟨_, rfl, .first (spaces_newLine (depth + 1)) rfl (moreParts_prettyItems depth vs)⟩

/-- The members that are written for the fields of an object. -/
def prettyMembers (depth : Nat) (fs : List (String × Json)) : List (String × List Char) :=
  fs.map fun f => (f.1, Json.prettyChars (depth + 1) f.2)

/-- The further members of a written object are the written fields. -/
theorem moreParts_prettyFields (depth : Nat) (fs : List (String × Json)) :
    MoreParts '\x7d' MemberText (prettyMembers depth fs) (Json.prettyFields depth fs) := by
  induction fs with
  | nil => exact .close (spaces_newLine depth)
  | cons f fs ih =>
    have hmember := memberText_prettyChars (depth + 1) f.1 f.2
    have hmore := MoreParts.part spaces_nil (spaces_newLine (depth + 1)) hmember ih
    simpa only [Json.prettyFields, prettyMembers, List.nil_append, List.append_assoc,
      List.cons_append, List.map_cons] using hmore

/-- The members of a written object are the written fields. -/
theorem objectText_prettyChars (depth : Nat) (fs : List (String × Json)) :
    ObjectText (prettyMembers depth fs) (Json.prettyChars depth (.object fs)) := by
  cases fs with
  | nil => exact ⟨['\x7d'], rfl, .empty spaces_nil⟩
  | cons f fs =>
    have hmember := memberText_prettyChars (depth + 1) f.1 f.2
    have hparts := Parts.first (spaces_newLine (depth + 1)) hmember (moreParts_prettyFields depth fs)
    refine ⟨_, rfl, ?_⟩
    simpa only [prettyMembers, List.append_assoc, List.cons_append, List.map_cons] using hparts

/-- The pretty text of every value is well formed. -/
theorem valueText_prettyChars (depth : Nat) : (v : Json) → ValueText (Json.prettyChars depth v)
  | .null => .null
  | .bool b => .bool b
  | .int n => .number (numberText_intChars n)
  | .decimal d => .number (numberText_chars d)
  | .string s => .string (stringText_stringChars s)
  | .array vs => by
    refine .array (arrayText_prettyChars depth vs) fun item hitem => ?_
    obtain ⟨v, hv, rfl⟩ := List.mem_map.1 hitem
    exact valueText_prettyChars (depth + 1) v
  | .object fs => by
    refine .object (objectText_prettyChars depth fs) fun m hm => ?_
    obtain ⟨f, hf, rfl⟩ := List.mem_map.1 hm
    exact valueText_prettyChars (depth + 1) f.2
  termination_by v => sizeOf v
  decreasing_by
    · have hsmaller := List.sizeOf_lt_of_mem hv
      simp only [Json.array.sizeOf_spec]
      omega
    · have hsmaller := List.sizeOf_lt_of_mem hf
      cases f
      simp only [Json.object.sizeOf_spec, Prod.mk.sizeOf_spec] at hsmaller ⊢
      omega

/-- The values of written members are well formed. -/
theorem valueText_prettyMembers (depth : Nat) (fs : List (String × Json)) :
    ∀ m ∈ prettyMembers depth fs, ValueText m.2 := by
  intro m hm
  obtain ⟨f, -, rfl⟩ := List.mem_map.1 hm
  exact valueText_prettyChars (depth + 1) f.2

/-- The values of written items are well formed. -/
theorem valueText_prettyItems (depth : Nat) (vs : List Json) :
    ∀ item ∈ vs.map (Json.prettyChars (depth + 1)), ValueText item := by
  intro item hitem
  obtain ⟨v, -, rfl⟩ := List.mem_map.1 hitem
  exact valueText_prettyChars (depth + 1) v

end GrammarKit.JsonText
