import GrammarKit.Proofs.Json.Reading

/-!
# Well-formed texts are settled

Decoders of strings, lists and records settle every well-formed text: each either reads a value from
just this text or fails, and never goes astray in what comes behind. So a list is decoded exactly
if all of its items are, whatever else they hold.
-/

namespace GrammarKit

namespace JsonText

/-- A value is a string, an array or an object, or begins with another sign than these. -/
theorem ValueText.cases_sign {text : List Char} (h : ValueText text) :
    (∃ s, StringText text s) ∨ (∃ items, ArrayText items text ∧ ∀ item ∈ items, ValueText item) ∨
      (∃ members, ObjectText members text ∧ ∀ m ∈ members, ValueText m.2) ∨
      ∃ c cs, text = c :: cs ∧ c ≠ '"' ∧ c ≠ '[' ∧ c ≠ '\x7b' := by
  cases h with
  | null => exact .inr (.inr (.inr ⟨'n', _, rfl, by decide⟩))
  | bool b => cases b <;> exact .inr (.inr (.inr ⟨_, _, rfl, by decide⟩))
  | number h =>
    obtain ⟨c, cs, rfl, hsign⟩ := h.exists_cons
    refine .inr (.inr (.inr ⟨c, cs, rfl, ?_⟩))
    refine ⟨?_, ?_, ?_⟩ <;> rintro rfl <;> revert hsign <;> decide
  | string h => exact .inl ⟨_, h⟩
  | array h hitems => exact .inr (.inl ⟨_, h, hitems⟩)
  | object h hvalues => exact .inr (.inr (.inl ⟨_, h, hvalues⟩))

end JsonText

namespace JsonDecoder

open Reader JsonReader JsonText

variable {α β δ : Type}

/-- The decoder settles every well-formed text. -/
def SettlesValues (decode : JsonDecoder α) : Prop := ∀ text, ValueText text → ∃ o, Settles decode text o

theorem SettlesValues.map {decode : JsonDecoder α} (h : SettlesValues decode) (f : α → β) :
    SettlesValues fun c => do return f (← decode c) := by
  intro text htext
  obtain ⟨o, ho⟩ := h text htext
  exact ⟨_, ho.map f⟩

/-- What is made of a decoded value comes from the value. -/
theorem SettlesValues.exists_of_map {decode : JsonDecoder α} (h : SettlesValues decode) {f : α → β}
    {text : List Char} (htext : ValueText text) {b : β}
    (hb : Decodes (fun c => do return f (← decode c)) text b) :
    ∃ a, Decodes decode text a ∧ b = f a := by
  obtain ⟨_ | a, ho⟩ := h text htext
  · exact absurd ((ho.map f).unique hb) (Option.some_ne_none b).symm
  · exact ⟨a, ho, Option.some.inj (hb.unique (ho.map f))⟩

theorem outcome_bind_mismatch (p : JsonReader α) (cs : List Char) :
    (p >>= fun _ => (mismatch : JsonReader β)).outcome cs = none := by
  rw [outcome_bind]
  cases p.outcome cs <;> rfl

/-- What is of another type is refused, in whatever way it goes on. -/
theorem outcome_refuse (c : Char) (cs : List Char) : (refuse c : JsonReader α).outcome cs = none := by
  unfold refuse
  split
  case h_7 =>
    rw [outcome_bind]
    cases hchar : char.outcome cs with
    | none => rfl
    | some r =>
      simp only [Option.bind_some]
      split
      · exact outcome_bind_mismatch _ _
      · rfl
  case h_8 =>
    split
    · exact outcome_bind_mismatch _ _
    · rfl
  all_goals first | rfl | exact outcome_bind_mismatch _ _

/-- A decoder that refuses the sign of a value settles the value. -/
theorem settles_none_of_refuse {decode : JsonDecoder α} {text : List Char} (h : ValueText text)
    (hrefuse : ∀ c cs, text = c :: cs → decode c = refuse c) : Settles decode text none := by
  obtain ⟨c, cs, rfl, hspace, hclosing, -⟩ := h.exists_cons
  refine ⟨c, cs, rfl, hspace, hclosing, fun rest _ => ?_⟩
  rw [hrefuse c cs rfl, outcome_refuse]
  rfl

/-- Strings are decoded, and all else is refused. -/
theorem settlesValues_string : SettlesValues string := by
  intro text htext
  have hother {c : Char} {cs : List Char} (htext : ValueText (c :: cs)) (hc : c ≠ '"') :
      Settles string (c :: cs) none := by
    refine settles_none_of_refuse htext fun d ds hds => ?_
    rw [string, if_neg (by rw [← List.head_eq_of_cons_eq hds]; exact hc)]
  obtain ⟨s, hs⟩ | ⟨items, ⟨inner, rfl, -⟩, -⟩ | ⟨members, ⟨inner, rfl, -⟩, -⟩ | ⟨c, cs, rfl, hc, -⟩ :=
    htext.cases_sign
  · exact ⟨some s, decodes_of_stringText hs⟩
  · exact ⟨none, hother htext (by decide)⟩
  · exact ⟨none, hother htext (by decide)⟩
  · exact ⟨none, hother htext hc⟩

section Lists

variable {decode : JsonDecoder α} {items : List (List Char)}

/-- Something becomes of well-formed items. -/
theorem SettlesValues.exists_leads_items (h : SettlesValues decode)
    (hitems : ∀ item ∈ items, ValueText item) : ∃ o, Leads (TakesItem decode) [] items o := by
  refine exists_leads (fun item hitem soFar => ?_) []
  obtain ⟨oa, hoa⟩ := h item (hitems item hitem)
  exact ⟨_, oa, hoa, rfl⟩

/-- Arrays of well-formed items are settled, and all else is refused. -/
theorem SettlesValues.list (h : SettlesValues decode) : SettlesValues (list decode) := by
  intro text htext
  have hother {c : Char} {cs : List Char} (htext : ValueText (c :: cs)) (hc : c ≠ '[') :
      Settles (JsonDecoder.list decode) (c :: cs) none := by
    refine settles_none_of_refuse htext fun d ds hds => ?_
    rw [JsonDecoder.list, if_neg (by rw [← List.head_eq_of_cons_eq hds]; exact hc)]
  obtain ⟨s, body, rfl, -⟩ | ⟨items, harray, hitems⟩ | ⟨members, ⟨inner, rfl, -⟩, -⟩ |
    ⟨c, cs, rfl, -, hc, -⟩ := htext.cases_sign
  · exact ⟨none, hother htext (by decide)⟩
  · obtain ⟨o, ho⟩ := h.exists_leads_items hitems
    exact ⟨_, settles_list harray ho⟩
  · exact ⟨none, hother htext (by decide)⟩
  · exact ⟨none, hother htext hc⟩

/-- What has been collected has been decoded. -/
theorem exists_decodes_of_leads {soFar soFar' : List α}
    (h : Leads (TakesItem decode) soFar items (some soFar')) :
    ∃ as, List.Forall₂ (Decodes decode) items as ∧ soFar' = as.reverse ++ soFar := by
  induction items generalizing soFar with
  | nil =>
    cases h
    exact ⟨[], .nil, rfl⟩
  | cons item items ih =>
    cases h with
    | taken htakes hmore =>
      obtain ⟨_ | a, hitem, ho⟩ := htakes
      · cases ho
      · cases ho
        obtain ⟨as, has, rfl⟩ := ih hmore
        exact ⟨a :: as, .cons hitem has, by simp⟩

/-- A list is decoded exactly if all of its items are. -/
theorem decodes_list_iff (h : SettlesValues decode) {text : List Char} (harray : ArrayText items text)
    (hitems : ∀ item ∈ items, ValueText item) {as : List α} :
    Decodes (list decode) text as ↔ List.Forall₂ (Decodes decode) items as := by
  refine ⟨fun has => ?_, decodes_list harray⟩
  obtain ⟨o, ho⟩ := h.exists_leads_items hitems
  have hlist := (settles_list harray ho).unique has
  cases o with
  | none => cases hlist
  | some soFar =>
    obtain ⟨as', has', rfl⟩ := exists_decodes_of_leads ho
    rw [List.append_nil, Option.map_some, List.reverse_reverse, Option.some.injEq] at hlist
    rwa [← hlist]

/-- The items of a decoded list are decoded. -/
theorem exists_decodes_item (h : SettlesValues decode) {text : List Char}
    (harray : ArrayText items text) (hitems : ∀ item ∈ items, ValueText item) {as : List α}
    (has : Decodes (list decode) text as) {item : List Char} (hitem : item ∈ items) :
    ∃ a, Decodes decode item a := by
  have hread : List.Forall₂ (fun item a => (∃ a, Decodes decode item a) ∧ Decodes decode item a)
      items as := ((decodes_list_iff h harray hitems).1 has).imp fun _ a ha => ⟨⟨a, ha⟩, ha⟩
  exact ((List.forall₂_and_left _ _).1 hread).1 item hitem

end Lists

namespace Form

variable {form : Form δ α}

/-- What is left of an array behind some of its items: the next sign, which may be the end. -/
def IsLeft (inner : List Char) : Prop :=
  ∃ ws c cs, Spaces ws ∧ isSpace c = false ∧ (c = ']' → cs = []) ∧ inner = ws ++ c :: cs

theorem isLeft_of_moreParts {items : List (List Char)} {inner : List Char}
    (h : MoreParts ']' Eq items inner) : IsLeft inner := by
  cases h with
  | close hws => exact ⟨_, ']', [], hws, rfl, fun _ => rfl, rfl⟩
  | part hbefore => exact ⟨_, ',', _, hbefore, rfl, (nomatch ·), rfl⟩

theorem isLeft_of_parts {items : List (List Char)} {inner : List Char} (h : Parts ']' Eq items inner)
    (hitems : ∀ item ∈ items, ValueText item) : IsLeft inner := by
  cases h with
  | empty hws => exact ⟨_, ']', [], hws, rfl, fun _ => rfl, rfl⟩
  | first hws hpart hmore =>
    subst hpart
    obtain ⟨c, cs, rfl, hspace, hclosing, -⟩ := (hitems _ List.mem_cons_self).exists_cons
    exact ⟨_, c, _, hws, hspace, fun hc => absurd hc hclosing, by rw [List.cons_append]⟩

/-- The fields end where the array does. -/
theorem outcome_items_closing (field : Field δ) (fields : List (Field δ)) (isFirst : Bool) (draft : δ)
    {ws : List Char} (hws : Spaces ws) (rest : List Char) :
    (items (field :: fields) isFirst draft).outcome (ws ++ ']' :: rest) = some (draft, ']' :: rest) := by
  rw [items, outcome_bind_of_run (run_space hws (stops_cons rest rfl)),
    outcome_bind_of_run (run_peek _)]
  rfl

variable {field : Field δ} {fields : List (Field δ)} {draft : δ} {text : List Char} {o : Option δ}

/-- A field is read from an item behind a comma. -/
theorem outcome_items_comma (h : Settles (field.read draft) text o) {before behind rest : List Char}
    (hbefore : Spaces before) (hbehind : Spaces behind) (hrest : EndsValue rest) :
    (items (field :: fields) false draft).outcome (before ++ ',' :: (behind ++ (text ++ rest))) =
      o.bind fun draft' => (items fields false draft').outcome rest := by
  obtain ⟨c, cs, rfl, hspace, hclosing, hsettles⟩ := h
  rw [items, outcome_bind_of_run (run_space hbefore (stops_cons _ rfl)),
    outcome_bind_of_run (run_peek _)]
  change (drop 1 >>= fun _ => signChar >>= fun c => if c = ']' then malformed else
    field.read draft c >>= items fields false : JsonReader δ).outcome _ = _
  rw [outcome_bind_of_run (run_drop 1 _), List.drop_succ_cons, List.drop_zero, List.cons_append,
    outcome_bind_of_run (run_signChar _ hbehind hspace), if_neg hclosing, outcome_bind,
    hsettles rest hrest]
  cases o <;> rfl

/-- A field is read from the first item. -/
theorem outcome_items_first (h : Settles (field.read draft) text o) (hcomma : text.head? ≠ some ',')
    {ws rest : List Char} (hws : Spaces ws) (hrest : EndsValue rest) :
    (items (field :: fields) true draft).outcome (ws ++ (text ++ rest)) =
      o.bind fun draft' => (items fields false draft').outcome rest := by
  have hvalue := h.outcome_value spaces_nil hrest
  obtain ⟨c, cs, rfl, hspace, hclosing, -⟩ := h
  rw [items, List.cons_append, outcome_bind_of_run (run_space hws (stops_cons _ hspace)),
    outcome_bind_of_run (run_peek _)]
  split
  · next hc => cases hc
  · next hc => exact absurd (Option.some.inj hc) hclosing
  · next hc => exact absurd hc hcomma
  · rw [if_pos rfl, outcome_bind]
    rw [List.nil_append, List.cons_append] at hvalue
    rw [hvalue]
    cases o <;> rfl

/-- Fields are read from the items of an array as far as they go, or one of them is refused. -/
def SettlesItems (fields : List (Field δ)) (isFirst : Bool) (draft : δ) (inner : List Char) : Prop :=
  (∀ rest, (items fields isFirst draft).outcome (inner ++ rest) = none) ∨
    ∃ draft' inner', IsLeft inner' ∧
      ∀ rest, (items fields isFirst draft).outcome (inner ++ rest) = some (draft', inner' ++ rest)

/-- If one field has been read, the fields are read as the further ones are. -/
theorem SettlesItems.of_next {isFirst : Bool} {inner more : List Char}
    (hnext : ∀ rest, (items (field :: fields) isFirst draft).outcome (inner ++ rest) =
      o.bind fun draft' => (items fields false draft').outcome (more ++ rest))
    (hmore : ∀ draft', SettlesItems fields false draft' more) :
    SettlesItems (field :: fields) isFirst draft inner := by
  cases o with
  | none => exact .inl hnext
  | some draft' =>
    obtain hnone | ⟨draft'', inner', hleft, hsome⟩ := hmore draft'
    · exact .inl fun rest => (hnext rest).trans (hnone rest)
    · exact .inr ⟨draft'', inner', hleft, fun rest => (hnext rest).trans (hsome rest)⟩

theorem SettlesItems.of_closing (field : Field δ) (fields : List (Field δ)) (isFirst : Bool)
    (draft : δ) {ws : List Char} (hws : Spaces ws) :
    SettlesItems (field :: fields) isFirst draft (ws ++ [']']) := by
  refine .inr ⟨draft, [']'], ⟨[], ']', [], spaces_nil, rfl, fun _ => rfl, rfl⟩, fun rest => ?_⟩
  rw [List.append_assoc]
  exact outcome_items_closing field fields isFirst draft hws rest

/-- Behind an item the fields are read from the further ones. -/
theorem settlesItems_more (hfields : ∀ field ∈ fields, ∀ draft, SettlesValues (field.read draft))
    {texts : List (List Char)} {inner : List Char} (h : MoreParts ']' Eq texts inner)
    (htexts : ∀ text ∈ texts, ValueText text) (draft : δ) :
    SettlesItems fields false draft inner := by
  induction fields generalizing draft texts inner with
  | nil => exact .inr ⟨draft, inner, isLeft_of_moreParts h, fun _ => rfl⟩
  | cons field fields ih =>
    cases h with
    | close hws => exact .of_closing field fields false draft hws
    | @part text texts before behind _ more hbefore hbehind hpart hmore =>
      subst hpart
      obtain ⟨o, ho⟩ := hfields field List.mem_cons_self draft text (htexts text List.mem_cons_self)
      refine .of_next (o := o) (fun rest => ?_) (ih
        (fun f hf => hfields f (List.mem_cons_of_mem field hf)) hmore
        fun t ht => htexts t (List.mem_cons_of_mem text ht))
      simp only [List.append_assoc, List.cons_append]
      exact outcome_items_comma ho hbefore hbehind (hmore.endsValue (.inl rfl) rest)

/-- The fields are read from the items of an array, from behind its opening sign. -/
theorem settlesItems_parts (hfields : ∀ field ∈ fields, ∀ draft, SettlesValues (field.read draft))
    {texts : List (List Char)} {inner : List Char} (h : Parts ']' Eq texts inner)
    (htexts : ∀ text ∈ texts, ValueText text) (draft : δ) : SettlesItems fields true draft inner := by
  cases fields with
  | nil => exact .inr ⟨draft, inner, isLeft_of_parts h htexts, fun _ => rfl⟩
  | cons field fields =>
    cases h with
    | empty hws => exact .of_closing field fields true draft hws
    | @first text texts ws _ more hws hpart hmore =>
      subst hpart
      have htext := htexts text List.mem_cons_self
      have hcomma : text.head? ≠ some ',' := by
        obtain ⟨c, cs, rfl, -, -, hc⟩ := htext.exists_cons
        exact fun h => hc (Option.some.inj h)
      obtain ⟨o, ho⟩ := hfields field List.mem_cons_self draft text htext
      refine .of_next (o := o) (fun rest => ?_) (settlesItems_more
        (fun f hf => hfields f (List.mem_cons_of_mem field hf)) hmore
        fun t ht => htexts t (List.mem_cons_of_mem text ht))
      simp only [List.append_assoc]
      exact outcome_items_first ho hcomma hws (hmore.endsValue (.inl rfl) rest)

/-- A record in an array is settled: its items are the fields in order, and no item is left. -/
theorem exists_settles_array (hfields : ∀ field ∈ form.fields, ∀ draft, SettlesValues (field.read draft))
    {texts : List (List Char)} {text : List Char} (h : ArrayText texts text)
    (htexts : ∀ text ∈ texts, ValueText text) : ∃ o, Settles form.decode text o := by
  obtain ⟨inner, rfl, hparts⟩ := h
  have hdecode (cs : List Char) : (form.decode '[').outcome cs =
      ((items form.fields true form.blank).outcome cs).bind fun r =>
        (form.complete r.1 >>= fun a => signChar >>= fun c =>
          if c = ']' then pure a else malformed : JsonReader α).outcome r.2 := by
    rw [decode, if_neg (by decide), if_pos rfl, outcome_bind]
  obtain hnone | ⟨draft, inner', ⟨ws, c, cs, hws, hspace, hclosing, rfl⟩, hsome⟩ :=
    settlesItems_parts hfields hparts htexts form.blank
  · refine ⟨none, '[', inner, rfl, rfl, by decide, fun rest _ => ?_⟩
    rw [hdecode, hnone]
    rfl
  · refine ⟨if c = ']' then form.finish draft else none, '[', inner, rfl, rfl, by decide,
      fun rest _ => ?_⟩
    rw [hdecode, hsome, Option.bind_some, outcome_bind, outcome_complete]
    cases form.finish draft with
    | none =>
      rw [ite_self]
      rfl
    | some a =>
      rw [Option.map_some, Option.bind_some, List.append_assoc, List.cons_append,
        outcome_bind_of_run (run_signChar _ hws hspace)]
      split
      · next hc =>
        rw [hclosing hc]
        rfl
      · rfl

/-- Something becomes of well-formed members. -/
theorem exists_leads_members
    (hfields : ∀ field ∈ form.fields, ∀ draft, SettlesValues (field.read draft))
    {members : List (String × List Char)} (hvalues : ∀ m ∈ members, ValueText m.2) :
    ∃ o, Leads form.TakesMember form.blank members o := by
  refine exists_leads (fun m hm draft => ?_) form.blank
  unfold TakesMember
  split
  · next field hfield =>
    split
    · exact ⟨none, rfl⟩
    · exact hfields field (List.mem_of_find?_eq_some hfield) draft m.2 (hvalues m hm)
  · exact ⟨some draft, hvalues m hm, rfl⟩

/-- Records are settled whichever way they are written, and all else is refused. -/
theorem settlesValues_decode
    (hfields : ∀ field ∈ form.fields, ∀ draft, SettlesValues (field.read draft)) :
    SettlesValues form.decode := by
  intro text htext
  have hother {c : Char} {cs : List Char} (htext : ValueText (c :: cs)) (hc : c ≠ '\x7b')
      (hc' : c ≠ '[') : Settles form.decode (c :: cs) none := by
    refine settles_none_of_refuse htext fun d ds hds => ?_
    rw [← List.head_eq_of_cons_eq hds, decode, if_neg hc, if_neg hc']
  obtain ⟨s, body, rfl, -⟩ | ⟨items, harray, hitems⟩ | ⟨members, hobject, hvalues⟩ |
    ⟨c, cs, rfl, -, hc', hc⟩ := htext.cases_sign
  · exact ⟨none, hother htext (by decide) (by decide)⟩
  · exact exists_settles_array hfields harray hitems
  · obtain ⟨o, ho⟩ := exists_leads_members hfields hvalues
    exact ⟨_, settles_object hobject ho⟩
  · exact ⟨none, hother htext hc hc'⟩

end Form

end JsonDecoder

end GrammarKit
