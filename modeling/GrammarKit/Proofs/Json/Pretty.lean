import GrammarKit.Proofs.Json.Reading
import GrammarKit.Proofs.Json.Written

/-!
# Reading what is written

The pretty text of a value is one of its texts, and so it is decoded: an array if its items are, and
an object if its members fill the draft of a record one after the other. Natural numbers below 2 to
the 64th are read as they are written, and `null` is read as a missing value.
-/

namespace GrammarKit.JsonDecoder

open Reader JsonReader JsonText

variable {α δ : Type}

/-! ### Natural numbers and missing values -/

/-- A number without an exponent has none. -/
theorem run_exponent_none {rest : List Char} (hrest : EndsValue rest) :
    exponent.run rest = .ok (none, rest) := by
  rw [exponent, run_bind_ok (run_peek _)]
  split
  · next h => exact absurd h (hrest.head?_ne (by decide))
  · next h => exact absurd h (hrest.head?_ne (by decide))
  · rw [run_pure]

theorem isTooLarge_of_lt {n : Nat} (h : n < Nat.pow 2 64) : isTooLarge n 0 = false := by
  have hlarge : Nat.pow 2 64 ≤ Nat.pow 2 1024 - Nat.pow 2 970 := by decide +kernel
  have hbound : ¬ Nat.pow 2 1024 - Nat.pow 2 970 ≤ n * Nat.pow 10 0 := by
    rw [show Nat.pow 10 0 = 1 from rfl]
    omega
  by_cases hn : n = 0
  · rw [isTooLarge, if_pos hn]
  · rw [isTooLarge, if_neg hn, if_neg (by decide), if_pos (by decide)]
    exact decide_eq_false hbound

/-- Digits alone are read as an integer, from behind the first of them. -/
theorem run_number {d : Char} {ds rest : List Char} (hwhole : WholeText (d :: ds))
    (h : Nat.ofDigitChars 10 (d :: ds) 0 < Nat.pow 2 64) (hrest : EndsValue rest) :
    (number d).run (ds ++ rest) = .ok ((Nat.ofDigitChars 10 (d :: ds) 0, none), rest) := by
  have hzero : ¬ (d = '0' ∧ (!ds.isEmpty) = true) := by
    rintro ⟨rfl, hmore⟩
    rw [List.tail_eq_of_cons_eq (hwhole.2 rfl)] at hmore
    cases hmore
  have hdigits : ∀ c ∈ ds, c.isDigit = true := fun c hc => hwhole.1.2 c (List.mem_cons_of_mem d hc)
  rw [number, run_bind_ok (run_takeWhile hdigits hrest.stops_isDigit), if_neg hzero,
    run_bind_ok (run_eat_of_head_ne (hrest.head?_ne (by decide)))]
  simp only [Bool.false_eq_true, if_false]
  rw [run_bind_ok (run_pure _ _), run_bind_ok (run_exponent_none hrest), List.append_nil]
  change (if isTooLarge (Nat.ofDigitChars 10 (d :: ds) 0) 0 = true then malformed else _ :
    JsonReader _).run rest = _
  rw [isTooLarge_of_lt h, if_neg Bool.false_ne_true]
  rfl

/-- Written natural numbers are decoded if they have at most 64 bits. -/
theorem decodes_nat64 {n : Nat} (h : n < Nat.pow 2 64) : Decodes nat64 (Decimal.natChars n) n := by
  have hwhole := wholeText_natChars n
  have hvalue : Nat.ofDigitChars 10 (Decimal.natChars n) 0 = n :=
    Nat.ofDigitChars_toDigits (by decide) (by decide)
  cases hchars : Decimal.natChars n with
  | nil => exact absurd hchars hwhole.1.1
  | cons d ds =>
    rw [hchars] at hwhole hvalue
    have hdigit : d.isDigit = true := hwhole.1.2 d List.mem_cons_self
    obtain ⟨hspace, hclosing, -⟩ := isSpace_of_isDigit hdigit
    refine ⟨d, ds, rfl, hspace, hclosing, fun rest hrest => outcome_eq_some_iff.2 ?_⟩
    rw [nat64, if_pos hdigit, run_bind_ok (run_number hwhole (by rwa [hvalue]) hrest), hvalue]
    simp only [if_pos h]
    rfl

/-- What is missing is decoded from `null`. -/
theorem decodes_option_none (decode : JsonDecoder α) :
    Decodes (option decode) ['n', 'u', 'l', 'l'] none :=
  ⟨'n', ['u', 'l', 'l'], rfl, rfl, by decide, fun _ _ => rfl⟩

/-- What is there is decoded as itself, unless it begins like `null`. -/
theorem decodes_option_some {decode : JsonDecoder α} {text : List Char} {a : α}
    (h : Decodes decode text a) (hnull : text.head? ≠ some 'n') :
    Decodes (option decode) text (some a) := by
  obtain ⟨c, cs, rfl, hspace, hclosing, hsettles⟩ := h
  have hc : c ≠ 'n' := fun hc => hnull (congrArg some hc)
  refine ⟨c, cs, rfl, hspace, hclosing, fun rest hrest => ?_⟩
  rw [option, if_neg hc, outcome_bind, hsettles rest hrest]
  rfl

/-- Written strings are decoded, and so is a missing one. -/
theorem decodes_option_string (depth : Nat) (s : Option String) :
    Decodes (option string) (Json.prettyChars depth (Json.ofOption .string s)) s := by
  cases s with
  | none => exact decodes_option_none string
  | some s =>
    have hquote : (Json.stringChars s).head? ≠ some 'n' := by
      rw [Json.stringChars]
      simp
    exact decodes_option_some (decodes_string s) hquote

/-! ### Arrays and objects -/

/-- A written array is decoded if its items are. -/
theorem decodes_prettyArray {decode : JsonDecoder α} {f : α → Json} {depth : Nat} {as : List α}
    (h : ∀ a ∈ as, Decodes decode (Json.prettyChars (depth + 1) (f a)) a) :
    Decodes (list decode) (Json.prettyChars depth (.array (as.map f))) as := by
  refine decodes_list (arrayText_prettyChars depth (as.map f)) ?_
  rw [List.map_map]
  exact List.forall₂_map_left_iff.2 (List.forall₂_same.2 h)

namespace Form

/-- The fields of a written object fill a draft one after the other, each a field of the record that
has not come before. -/
inductive Fills (form : Form δ α) (depth : Nat) : δ → List (String × Json) → δ → Prop where
  | nil {draft : δ} : Fills form depth draft [] draft
  | cons {draft draft' draft'' : δ} {field : Field δ} {name : String} {v : Json}
      {fields : List (String × Json)}
      (hfield : form.fields.find? (·.names.contains name) = some field)
      (hnew : field.isSet draft = false)
      (hvalue : Decodes (field.read draft) (Json.prettyChars (depth + 1) v) draft')
      (hfills : Fills form depth draft' fields draft'') :
      Fills form depth draft ((name, v) :: fields) draft''

variable {form : Form δ α} {depth : Nat}

/-- The fields of a written object lead from one draft to the next. -/
theorem Fills.leads {draft draft' : δ} {fields : List (String × Json)}
    (h : form.Fills depth draft fields draft') :
    Leads form.TakesMember draft (prettyMembers depth fields) (some draft') := by
  induction h with
  | nil => exact .done
  | cons hfield hnew hvalue _ ih =>
    refine .taken ?_ ih
    rw [TakesMember, hfield]
    simp only [hnew, Bool.false_eq_true, if_false]
    exact hvalue

/-- A written object is decoded if its fields fill a draft that makes up a record. -/
theorem Fills.decodes {draft : δ} {fields : List (String × Json)} {a : α}
    (h : form.Fills depth form.blank fields draft) (hfinish : form.finish draft = some a) :
    Decodes form.decode (Json.prettyChars depth (.object fields)) a := by
  have hobject := settles_object (objectText_prettyChars depth fields) h.leads
  rwa [Option.bind_some, hfinish] at hobject

end Form

end GrammarKit.JsonDecoder
