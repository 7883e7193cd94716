import GrammarKit.Json.Decoder
import Mathlib.Data.List.Forall2
import GrammarKit.Proofs.Json.Skipping

/-!
# Reading JSON texts

What decoders make of the texts of strings, arrays and objects, whichever way these are written. A
decoder settles a text if it either reads a value from just this text or fails, no matter what comes
behind it. A container is settled if its parts are, one after the other: the parts that are taken
lead from one state to the next, and one that is refused is the end of all.
-/

namespace GrammarKit

namespace JsonReader

open Reader JsonText

section Containers

variable {σ π β : Type}

/-- What becomes of a state over some parts, one after the other: the state behind the last of them,
or none where a part is refused. -/
inductive Leads (take : σ → π → Option σ → Prop) : σ → List π → Option σ → Prop where
  | done {s : σ} : Leads take s [] (some s)
  | refused {s : σ} {p : π} {ps : List π} (h : take s p none) : Leads take s (p :: ps) none
  | taken {s s' : σ} {p : π} {ps : List π} {o : Option σ} (h : take s p (some s'))
      (hmore : Leads take s' ps o) : Leads take s (p :: ps) o

theorem leads_nil_iff {take : σ → π → Option σ → Prop} {s : σ} {o : Option σ} :
    Leads take s [] o ↔ o = some s :=
  ⟨fun h => by cases h; rfl, fun h => h ▸ .done⟩

theorem leads_cons_iff {take : σ → π → Option σ → Prop} {s s'' : σ} {p : π} {ps : List π} :
    Leads take s (p :: ps) (some s'') ↔ ∃ s', take s p (some s') ∧ Leads take s' ps (some s'') := by
  constructor
  · rintro (_ | _ | ⟨h, hmore⟩)
    exact ⟨_, h, hmore⟩
  · rintro ⟨s', h, hmore⟩
    exact .taken h hmore

/-- Where something becomes of every state over every part, it does over all of them. -/
theorem exists_leads {take : σ → π → Option σ → Prop} {ps : List π}
    (h : ∀ p ∈ ps, ∀ s, ∃ o, take s p o) (s : σ) : ∃ o, Leads take s ps o := by
  induction ps generalizing s with
  | nil => exact ⟨some s, .done⟩
  | cons p ps ih =>
    obtain ⟨_ | s', ho⟩ := h p List.mem_cons_self s
    · exact ⟨none, .refused ho⟩
    · obtain ⟨o, hmore⟩ := ih (fun q hq => h q (List.mem_cons_of_mem p hq)) s'
      exact ⟨o, .taken ho hmore⟩

/-- What the rounds of a loop have to do so that it reads a container: take the parts as `take`
says, and make a value of the state behind them as `finish` says. The flag tells that no part has
come. -/
structure TakesParts (closing : Char) (PartText : π → List Char → Prop)
    (take : σ → π → Option σ → Prop) (finish : σ → Option β)
    (step : Bool × σ → Char → JsonReader ((Bool × σ) ⊕ β)) : Prop where
  closing_eq : closing = ']' ∨ closing = '\x7d'
  space : ∀ s w, isSpace w = true → step s w = pure (.inl s)
  close : ∀ isFirst s rest,
    (step (isFirst, s) closing).outcome rest = (finish s).map fun b => (.inr b, rest)
  first : ∀ s p o text, take s p o → PartText p text → ∃ c cs, text = c :: cs ∧
    ∀ rest, EndsValue rest →
      (step (true, s) c).outcome (cs ++ rest) = o.map fun s' => (.inl (false, s'), rest)
  more : ∀ s p o text, take s p o → PartText p text → ∀ ws, Spaces ws → ∀ rest, EndsValue rest →
    (step (false, s) ',').outcome (ws ++ (text ++ rest)) = o.map fun s' => (.inl (false, s'), rest)

variable {closing : Char} {PartText : π → List Char → Prop} {take : σ → π → Option σ → Prop}
  {finish : σ → Option β} {step : Bool × σ → Char → JsonReader ((Bool × σ) ⊕ β)} {s : σ}
  {ps : List π} {inner : List Char} {o : Option σ}

/-- A container is left behind its closing sign. -/
theorem TakesParts.outcome_close (hstep : TakesParts closing PartText take finish step)
    {ws : List Char} (hws : Spaces ws) (isFirst : Bool) (s : σ) (rest : List Char) :
    (loop step atEnd (isFirst, s)).outcome (ws ++ closing :: rest) =
      (finish s).map fun b => (b, rest) := by
  rw [outcome_congr (run_loop_skip ws fun w hw => hstep.space _ w (hws w hw)), outcome_loop_cons,
    hstep.close]
  cases finish s <;> rfl

/-- Further parts are taken one after the other, up to the closing sign. -/
theorem TakesParts.outcome_more (hstep : TakesParts closing PartText take finish step)
    (htext : MoreParts closing PartText ps inner) (hleads : Leads take s ps o) (rest : List Char) :
    (loop step atEnd (false, s)).outcome (inner ++ rest) =
      (o.bind finish).map fun b => (b, rest) := by
  induction htext generalizing s with
  | close hws =>
    cases hleads
    rw [List.append_assoc]
    exact hstep.outcome_close hws false s rest
  | part hbefore hbehind hpart hmore ih =>
    have hends := hmore.endsValue hstep.closing_eq rest
    simp only [List.append_assoc, List.cons_append]
    rw [outcome_congr (run_loop_skip _ fun w hw => hstep.space _ w (hbefore w hw)), outcome_loop_cons]
    cases hleads with
    | refused h =>
      rw [hstep.more _ _ _ _ h hpart _ hbehind _ hends]
      rfl
    | taken h hleads =>
      rw [hstep.more _ _ _ _ h hpart _ hbehind _ hends]
      exact ih hleads

/-- The parts of a container are taken one after the other, from behind its opening sign. -/
theorem TakesParts.outcome_eq (hstep : TakesParts closing PartText take finish step)
    (htext : Parts closing PartText ps inner) (hleads : Leads take s ps o) (rest : List Char) :
    (loop step atEnd (true, s)).outcome (inner ++ rest) =
      (o.bind finish).map fun b => (b, rest) := by
  cases htext with
  | empty hws =>
    cases hleads
    rw [List.append_assoc]
    exact hstep.outcome_close hws true s rest
  | first hws hpart hmore =>
    have hends := hmore.endsValue hstep.closing_eq rest
    simp only [List.append_assoc]
    rw [outcome_congr (run_loop_skip _ fun w hw => hstep.space _ w (hws w hw))]
    cases hleads with
    | refused h =>
      obtain ⟨c, cs, rfl, hfirst⟩ := hstep.first _ _ _ _ h hpart
      rw [List.cons_append, outcome_loop_cons, hfirst _ hends]
      rfl
    | taken h hleads =>
      obtain ⟨c, cs, rfl, hfirst⟩ := hstep.first _ _ _ _ h hpart
      rw [List.cons_append, outcome_loop_cons, hfirst _ hends]
      exact hstep.outcome_more hmore hleads rest

end Containers

end JsonReader

namespace JsonDecoder

open Reader JsonReader JsonText

variable {α β δ : Type}

/-- What the decoder makes of the text, whatever comes behind it: it reads a value from just this
text, or it fails. The text begins with the sign of a value. -/
def Settles (decode : JsonDecoder α) (text : List Char) (o : Option α) : Prop :=
  ∃ c cs, text = c :: cs ∧ isSpace c = false ∧ c ≠ ']' ∧
    ∀ rest, EndsValue rest → (decode c).outcome (cs ++ rest) = o.map fun a => (a, rest)

/-- The decoder reads a value from the text. -/
def Decodes (decode : JsonDecoder α) (text : List Char) (a : α) : Prop :=
  Settles decode text (some a)

section Values

variable {decode : JsonDecoder α} {text : List Char} {o : Option α} {a : α}

/-- What a decoder makes of a text is one thing only. -/
theorem Settles.unique {o' : Option α} (h : Settles decode text o) (h' : Settles decode text o') :
    o = o' := by
  obtain ⟨c, cs, rfl, -, -, hsettles⟩ := h
  obtain ⟨_, _, ⟨⟩, -, -, hsettles'⟩ := h'
  have heq := (hsettles [] endsValue_nil).symm.trans (hsettles' [] endsValue_nil)
  exact Option.map_injective (fun a b hab => congrArg Prod.fst hab) heq

/-- A decoded value may be put into something else. -/
theorem Settles.map (f : α → β) (h : Settles decode text o) :
    Settles (fun c => do return f (← decode c)) text (o.map f) := by
  obtain ⟨c, cs, rfl, hspace, hclosing, hsettles⟩ := h
  refine ⟨c, cs, rfl, hspace, hclosing, fun rest hrest => ?_⟩
  rw [outcome_bind, hsettles rest hrest]
  cases o <;> rfl

theorem Decodes.map (f : α → β) (h : Decodes decode text a) :
    Decodes (fun c => do return f (← decode c)) text (f a) :=
  Settles.map f h

/-- A text is settled behind white space, too. -/
theorem Settles.outcome_value (h : Settles decode text o) {ws rest : List Char} (hws : Spaces ws)
    (hrest : EndsValue rest) :
    (value decode).outcome (ws ++ (text ++ rest)) = o.map fun a => (a, rest) := by
  obtain ⟨c, cs, rfl, hspace, -, hsettles⟩ := h
  rw [value, List.cons_append, outcome_bind_of_run (run_signChar _ hws hspace), hsettles rest hrest]

/-- A text is settled as a whole, too, whatever white space stands around it. -/
theorem Settles.toOption_run (h : Settles decode text o) {before behind : List Char}
    (hbefore : Spaces before) (hbehind : Spaces behind) :
    (run decode (String.ofList (before ++ (text ++ behind)))).toOption = o := by
  have hends : EndsValue behind := by simpa using endsValue_append hbehind endsValue_nil
  have hspace : space.run behind = .ok ((), []) := by simpa using run_space hbehind (stops_nil _)
  have hvalue := h.outcome_value hbefore hends
  rw [run, String.toList_ofList]
  cases o with
  | none =>
    obtain ⟨e, he⟩ := outcome_eq_none_iff.1 hvalue
    rw [whole, run_bind_error he]
    rfl
  | some a =>
    have hrun := outcome_eq_some_iff.1 hvalue
    rw [whole_of_run (by rw [run_bind_ok hrun, run_bind_ok hspace, run_pure])]
    rfl

/-- A text that denotes a value denotes it as a whole, too, whatever white space stands around it. -/
theorem Decodes.run_append (h : Decodes decode text a) {before behind : List Char}
    (hbefore : Spaces before) (hbehind : Spaces behind) :
    run decode (String.ofList (before ++ (text ++ behind))) = .ok a :=
  eq_ok_of_toOption (h.toOption_run hbefore hbehind)

/-- A text that denotes a value denotes it as a whole, too. -/
theorem Decodes.run_eq {text : String} (h : Decodes decode text.toList a) :
    run decode text = .ok a := by
  have hrun := h.run_append spaces_nil spaces_nil
  rwa [List.nil_append, List.append_nil, String.ofList_toList] at hrun

end Values

/-- Strings are decoded, whichever way they are written. -/
theorem decodes_of_stringText {text : List Char} {s : String} (h : StringText text s) :
    Decodes string text s := by
  obtain ⟨body, rfl, hbody⟩ := h
  refine ⟨'"', body ++ ['"'], rfl, rfl, by decide, fun rest _ => outcome_eq_some_iff.2 ?_⟩
  rw [string, if_pos rfl, List.append_assoc, List.singleton_append, run_string hbody]

/-- Written strings are decoded. -/
theorem decodes_string (s : String) : Decodes string (Json.stringChars s) s :=
  decodes_of_stringText (stringText_stringChars s)

section Lists

variable {decode : JsonDecoder α} {items : List (List Char)} {text : List Char}

/-- One more item is put before those that have come. -/
def TakesItem (decode : JsonDecoder α) (soFar : List α) (item : List Char) (o : Option (List α)) :
    Prop :=
  ∃ oa, Settles decode item oa ∧ o = oa.map (· :: soFar)

theorem takesParts_listStep (decode : JsonDecoder α) :
    TakesParts ']' Eq (TakesItem decode) (fun soFar => some soFar.reverse) (listStep decode) where
  closing_eq := Or.inl rfl
  space s w hw := by rw [listStep, if_pos hw]
  close isFirst soFar rest := by
    rw [listStep, if_neg (by decide), if_pos rfl]
    rfl
  first := by
    rintro soFar _ _ _ ⟨oa, ⟨c, cs, rfl, hspace, hclosing, hsettles⟩, rfl⟩ rfl
    refine ⟨c, cs, rfl, fun rest hrest => ?_⟩
    rw [listStep, if_neg (by rw [hspace]; exact Bool.false_ne_true), if_neg hclosing, if_pos rfl,
      outcome_bind, hsettles rest hrest]
    cases oa <;> rfl
  more := by
    rintro soFar _ _ _ ⟨oa, ⟨c, cs, rfl, hspace, hclosing, hsettles⟩, rfl⟩ rfl ws hws rest hrest
    rw [listStep, if_neg (by decide), if_neg (by decide), if_neg Bool.false_ne_true, if_pos rfl,
      List.cons_append, outcome_bind_of_run (run_signChar _ hws hspace), if_neg hclosing,
      outcome_bind, hsettles rest hrest]
    cases oa <;> rfl

/-- An array is settled if its items are; they are collected latest first. -/
theorem settles_list {o : Option (List α)} (h : ArrayText items text)
    (hitems : Leads (TakesItem decode) [] items o) :
    Settles (list decode) text (o.map List.reverse) := by
  obtain ⟨inner, rfl, hparts⟩ := h
  refine ⟨'[', inner, rfl, rfl, by decide, fun rest _ => ?_⟩
  rw [list, if_pos rfl, (takesParts_listStep decode).outcome_eq hparts hitems rest]
  cases o <;> rfl

/-- Items that are decoded are collected. -/
theorem leads_of_decodes {as : List α} (h : List.Forall₂ (Decodes decode) items as)
    (soFar : List α) : Leads (TakesItem decode) soFar items (some (as.reverse ++ soFar)) := by
  induction h generalizing soFar with
  | nil => exact .done
  | @cons item a items as ha _ ih =>
    rw [List.reverse_cons, List.append_assoc, List.singleton_append]
    exact .taken ⟨some a, ha, rfl⟩ (ih (a :: soFar))

/-- An array is decoded if its items are. -/
theorem decodes_list {as : List α} (h : ArrayText items text)
    (hitems : List.Forall₂ (Decodes decode) items as) : Decodes (list decode) text as := by
  have hlist := settles_list h (leads_of_decodes hitems [])
  rwa [List.append_nil, Option.map_some, List.reverse_reverse] at hlist

end Lists

namespace Form

variable {form : Form δ α} {text : List Char}

/-- What becomes of a draft over a member of an object. A member of the record must not have come
before, and one that nobody knows has to be well formed and is passed over. -/
def TakesMember (form : Form δ α) (draft : δ) (m : String × List Char) (o : Option δ) : Prop :=
  match form.fields.find? (·.names.contains m.1) with
  | some field =>
    if field.isSet draft then o = none else Settles (field.read draft) m.2 o
  | none => ValueText m.2 ∧ o = some draft

/-- A member is taken from behind the opening quote of its name. -/
theorem outcome_member {draft : δ} {m : String × List Char} {o : Option δ}
    (htakes : form.TakesMember draft m o) (htext : MemberText m text) :
    ∃ cs, text = '"' :: cs ∧ ∀ rest, EndsValue rest →
      (form.member draft).outcome (cs ++ rest) = o.map fun draft' => (draft', rest) := by
  obtain ⟨nameText, before, behind, ⟨body, rfl, hbody⟩, hbefore, hbehind, rfl⟩ := htext
  refine ⟨body ++ '"' :: (before ++ ':' :: (behind ++ m.2)), by simp, fun rest hrest => ?_⟩
  simp only [List.append_assoc, List.cons_append]
  rw [member, outcome_bind_of_run (run_string hbody _)]
  rw [TakesMember] at htakes
  cases hfield : form.fields.find? (·.names.contains m.1) with
  | some field =>
    simp only [hfield] at htakes
    change (if field.isSet draft then mismatch else signChar >>= fun c =>
      if c = ':' then value (field.read draft) else malformed).outcome _ = _
    split at htakes
    · next hset =>
      rw [if_pos hset, htakes]
      rfl
    · next hset =>
      rw [if_neg hset, outcome_bind_of_run (run_signChar _ hbefore rfl), if_pos rfl,
        htakes.outcome_value hbehind hrest]
  | none =>
    simp only [hfield] at htakes
    obtain ⟨hvalue, rfl⟩ := htakes
    change (signChar >>= fun c => if c = ':' then skipValue >>= fun _ => pure draft
      else malformed).outcome _ = _
    rw [outcome_bind_of_run (run_signChar _ hbefore rfl), if_pos rfl,
      outcome_bind_of_run (run_skipValue hvalue hbehind hrest)]
    rfl

theorem outcome_complete (draft : δ) (cs : List Char) :
    (form.complete draft).outcome cs = (form.finish draft).map fun a => (a, cs) := by
  rw [complete]
  cases form.finish draft <;> rfl

theorem takesParts_objectStep (form : Form δ α) :
    TakesParts '\x7d' MemberText form.TakesMember form.finish form.objectStep where
  closing_eq := Or.inr rfl
  space s w hw := by rw [objectStep, if_pos hw]
  close isFirst draft rest := by
    rw [objectStep, if_neg (by decide), if_pos rfl, outcome_bind, outcome_complete]
    cases form.finish draft <;> rfl
  first := by
    intro draft m o text htakes htext
    obtain ⟨cs, rfl, hmember⟩ := outcome_member htakes htext
    refine ⟨'"', cs, rfl, fun rest hrest => ?_⟩
    rw [objectStep, if_neg (by decide), if_neg (by decide), if_pos rfl, if_pos rfl, outcome_bind,
      hmember rest hrest]
    cases o <;> rfl
  more := by
    intro draft m o text htakes htext ws hws rest hrest
    obtain ⟨cs, rfl, hmember⟩ := outcome_member htakes htext
    rw [objectStep, if_neg (by decide), if_neg (by decide), if_neg Bool.false_ne_true, if_pos rfl,
      List.cons_append, outcome_bind_of_run (run_signChar _ hws rfl), if_pos rfl, outcome_bind,
      hmember rest hrest]
    cases o <;> rfl

/-- An object is settled if its members are, one after the other. -/
theorem settles_object {members : List (String × List Char)} {o : Option δ}
    (h : ObjectText members text) (hmembers : Leads form.TakesMember form.blank members o) :
    Settles form.decode text (o.bind form.finish) := by
  obtain ⟨inner, rfl, hparts⟩ := h
  refine ⟨'\x7b', inner, rfl, rfl, by decide, fun rest _ => ?_⟩
  rw [decode, if_pos rfl, (takesParts_objectStep form).outcome_eq hparts hmembers rest]

end Form

end JsonDecoder

end GrammarKit
