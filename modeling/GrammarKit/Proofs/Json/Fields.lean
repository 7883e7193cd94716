import GrammarKit.Proofs.Json.Deciding

/-!
# Records of two fields

An object is read as a record of two fields exactly if its members give both fields as the record
wants them: each at most once, under any of its names. Neither the order of the members nor what
others there are makes a difference.
-/

namespace GrammarKit

namespace JsonText

/-- The members of an object under some names. -/
def membersNamed (names : List String) (members : List (String × List Char)) :
    List (String × List Char) :=
  members.filter (·.1 ∈ names)

/-- Just one member has one of the names, and the text of its value is as wanted. -/
def GivenOnce (names : List String) (IsText : List Char → Prop) (members : List (String × List Char)) :
    Prop :=
  ∃ m, membersNamed names members = [m] ∧ IsText m.2

variable {names : List String} {m : String × List Char} {members : List (String × List Char)}

theorem GivenOnce.imp {P Q : List Char → Prop} (hPQ : ∀ text, P text → Q text)
    (h : GivenOnce names P members) : GivenOnce names Q members := by
  obtain ⟨m, hm, hP⟩ := h
  exact ⟨m, hm, hPQ m.2 hP⟩

/-- A member is the only one under its names if they are given once. -/
theorem GivenOnce.of_mem {P : List Char → Prop} (h : GivenOnce names P members) (hm : m ∈ members)
    (hname : m.1 ∈ names) : P m.2 := by
  obtain ⟨m', hm', hP⟩ := h
  have hmem : m ∈ membersNamed names members := List.mem_filter.2 ⟨hm, decide_eq_true hname⟩
  rw [hm', List.mem_singleton] at hmem
  rwa [hmem]

theorem membersNamed_cons_of_mem (h : m.1 ∈ names) :
    membersNamed names (m :: members) = m :: membersNamed names members :=
  List.filter_cons_of_pos (decide_eq_true h)

theorem membersNamed_cons_of_not_mem (h : m.1 ∉ names) :
    membersNamed names (m :: members) = membersNamed names members :=
  List.filter_cons_of_neg (by simpa using h)

end JsonText

namespace JsonDecoder

open JsonReader JsonText

variable {α β γ δ : Type}

/-- What some members make of a field: without a member of its names it is what it was, and with just
one it is the value of that member, unless it had one. -/
def Gives (names : List String) (decode : JsonDecoder β) (x : Option β)
    (members : List (String × List Char)) (x' : Option β) : Prop :=
  (membersNamed names members = [] ∧ x' = x) ∨
    ∃ b, GivenOnce names (Decodes decode · b) members ∧ x = none ∧ x' = some b

section Fields

variable {names : List String} {decode : JsonDecoder β} {x x' : Option β} {m : String × List Char}
  {members : List (String × List Char)}

/-- A member of another name changes nothing about a field. -/
theorem gives_cons_of_not_mem (h : m.1 ∉ names) :
    Gives names decode x (m :: members) x' ↔ Gives names decode x members x' := by
  simp only [Gives, GivenOnce, membersNamed_cons_of_not_mem h]

/-- A member of the name gives the field, and no other member does. -/
theorem gives_cons_of_mem (h : m.1 ∈ names) :
    Gives names decode x (m :: members) x' ↔
      ∃ b, x = none ∧ Decodes decode m.2 b ∧ Gives names decode (some b) members x' := by
  simp only [Gives, GivenOnce, membersNamed_cons_of_mem h, reduceCtorEq, false_and, false_or,
    and_false, exists_false, or_false, List.cons.injEq]
  constructor
  · rintro ⟨b, ⟨_, ⟨rfl, hnone⟩, hvalue⟩, hx, rfl⟩
    exact ⟨b, hx, hvalue, hnone, rfl⟩
  · rintro ⟨b, hx, hvalue, hnone, rfl⟩
    exact ⟨b, ⟨m, ⟨rfl, hnone⟩, hvalue⟩, hx, rfl⟩

/-- A field is given once if it was not there before and is there now. -/
theorem gives_none_some_iff {b : β} :
    Gives names decode none members (some b) ↔ GivenOnce names (Decodes decode · b) members := by
  simp [Gives]

theorem gives_none_none_iff :
    Gives names decode none members none ↔ membersNamed names members = [] := by
  simp [Gives]

end Fields

/-- A record of two fields, which are independent of each other in its draft. -/
structure IsPair (form : Form δ α) (draft : Option β → Option γ → δ) (names₁ : List String)
    (decode₁ : JsonDecoder β) (names₂ : List String) (decode₂ : JsonDecoder γ) : Prop where
  blank_eq : form.blank = draft none none
  disjoint : ∀ name ∈ names₁, name ∉ names₂
  first : ∀ name ∈ names₁, ∃ field, form.fields.find? (·.names.contains name) = some field ∧
    ∀ x y, field.isSet (draft x y) = x.isSome ∧
      field.read (draft x y) = fun c => do return draft (some (← decode₁ c)) y
  second : ∀ name ∈ names₂, ∃ field, form.fields.find? (·.names.contains name) = some field ∧
    ∀ x y, field.isSet (draft x y) = y.isSome ∧
      field.read (draft x y) = fun c => do return draft x (some (← decode₂ c))
  other : ∀ name, name ∉ names₁ → name ∉ names₂ →
    form.fields.find? (·.names.contains name) = none

namespace IsPair

variable {form : Form δ α} {draft : Option β → Option γ → δ} {names₁ names₂ : List String}
  {decode₁ : JsonDecoder β} {decode₂ : JsonDecoder γ}

/-- Two fields without a common name, each of which sets a part of the draft of its own. -/
theorem of_fields {field₁ field₂ : Field δ} (hfields : form.fields = [field₁, field₂])
    (hblank : form.blank = draft none none)
    (hdisjoint : ∀ name ∈ field₁.names, name ∉ field₂.names)
    (hfirst : ∀ x y, field₁.isSet (draft x y) = x.isSome ∧
      field₁.read (draft x y) = fun c => do return draft (some (← decode₁ c)) y)
    (hsecond : ∀ x y, field₂.isSet (draft x y) = y.isSome ∧
      field₂.read (draft x y) = fun c => do return draft x (some (← decode₂ c))) :
    IsPair form draft field₁.names decode₁ field₂.names decode₂ where
  blank_eq := hblank
  disjoint := hdisjoint
  first name hname := by
    refine ⟨field₁, ?_, hfirst⟩
    rw [hfields, List.find?_cons_of_pos (by simpa using hname)]
  second name hname := by
    refine ⟨field₂, ?_, hsecond⟩
    have hname' : name ∉ field₁.names := fun h => hdisjoint name h hname
    rw [hfields, List.find?_cons_of_neg (by simpa using hname'),
      List.find?_cons_of_pos (by simpa using hname)]
  other name hname hname' := by
    rw [hfields, List.find?_cons_of_neg (by simpa using hname),
      List.find?_cons_of_neg (by simpa using hname'), List.find?_nil]

/-- Neither of the two fields comes first. -/
theorem swap (h : IsPair form draft names₁ decode₁ names₂ decode₂) :
    IsPair form (fun y x => draft x y) names₂ decode₂ names₁ decode₁ where
  blank_eq := h.blank_eq
  disjoint name hname hname' := h.disjoint name hname' hname
  first name hname := by
    obtain ⟨field, hfield, hdraft⟩ := h.second name hname
    exact ⟨field, hfield, fun y x => hdraft x y⟩
  second name hname := by
    obtain ⟨field, hfield, hdraft⟩ := h.first name hname
    exact ⟨field, hfield, fun y x => hdraft x y⟩
  other name hname hname' := h.other name hname' hname

variable {m : String × List Char} {members : List (String × List Char)} {x : Option β} {y : Option γ}
  {d : δ}

/-- A member of the first field is taken if it is decoded and the field has not come before. -/
theorem takesMember_first (h : IsPair form draft names₁ decode₁ names₂ decode₂)
    (hdecode : SettlesValues decode₁) (hm : m.1 ∈ names₁) (hvalue : ValueText m.2) :
    form.TakesMember (draft x y) m (some d) ↔
      ∃ b, x = none ∧ Decodes decode₁ m.2 b ∧ d = draft (some b) y := by
  obtain ⟨field, hfield, hdraft⟩ := h.first m.1 hm
  obtain ⟨hset, hread⟩ := hdraft x y
  simp only [Form.TakesMember, hfield, hset, hread]
  cases x with
  | some b => simp
  | none =>
    simp only [Option.isSome_none, Bool.false_eq_true, if_false, true_and]
    constructor
    · exact fun hd => hdecode.exists_of_map hvalue hd
    · rintro ⟨b, hb, rfl⟩
      exact Settles.map (fun b => draft (some b) y) hb

/-- A member of neither field leaves the draft as it is. -/
theorem takesMember_other (h : IsPair form draft names₁ decode₁ names₂ decode₂)
    (hm : m.1 ∉ names₁) (hm' : m.1 ∉ names₂) (hvalue : ValueText m.2) :
    form.TakesMember (draft x y) m (some d) ↔ d = draft x y := by
  simp only [Form.TakesMember, h.other m.1 hm hm', hvalue, true_and, Option.some.injEq]

/-- A first member of the first field, and what comes after it. -/
theorem leads_cons_first (h : IsPair form draft names₁ decode₁ names₂ decode₂)
    (hdecode : SettlesValues decode₁) (hm : m.1 ∈ names₁) (hvalue : ValueText m.2)
    (ih : ∀ x y, Leads form.TakesMember (draft x y) members (some d) ↔ ∃ x' y', d = draft x' y' ∧
      Gives names₁ decode₁ x members x' ∧ Gives names₂ decode₂ y members y') :
    Leads form.TakesMember (draft x y) (m :: members) (some d) ↔ ∃ x' y', d = draft x' y' ∧
      Gives names₁ decode₁ x (m :: members) x' ∧ Gives names₂ decode₂ y (m :: members) y' := by
  simp only [leads_cons_iff, gives_cons_of_mem hm, gives_cons_of_not_mem (h.disjoint m.1 hm)]
  constructor
  · rintro ⟨d', htakes, hmore⟩
    obtain ⟨b, hx, hb, rfl⟩ := (h.takesMember_first hdecode hm hvalue).1 htakes
    obtain ⟨x', y', rfl, hx', hy'⟩ := (ih _ _).1 hmore
    exact ⟨x', y', rfl, ⟨b, hx, hb, hx'⟩, hy'⟩
  · rintro ⟨x', y', rfl, ⟨b, hx, hb, hx'⟩, hy'⟩
    exact ⟨_, (h.takesMember_first hdecode hm hvalue).2 ⟨b, hx, hb, rfl⟩,
      (ih _ _).2 ⟨x', y', rfl, hx', hy'⟩⟩

/-- Members lead to a draft exactly if they give both of its fields. -/
theorem leads_iff (h : IsPair form draft names₁ decode₁ names₂ decode₂)
    (hdecode₁ : SettlesValues decode₁) (hdecode₂ : SettlesValues decode₂)
    (hvalues : ∀ m ∈ members, ValueText m.2) (x : Option β) (y : Option γ) :
    Leads form.TakesMember (draft x y) members (some d) ↔ ∃ x' y', d = draft x' y' ∧
      Gives names₁ decode₁ x members x' ∧ Gives names₂ decode₂ y members y' := by
  induction members generalizing x y with
  | nil => simp [leads_nil_iff, Gives, GivenOnce, membersNamed]
  | cons m members ih =>
    have hvalue := hvalues m List.mem_cons_self
    have ih' := ih fun m' hm => hvalues m' (List.mem_cons_of_mem m hm)
    by_cases hm : m.1 ∈ names₁
    · exact h.leads_cons_first hdecode₁ hm hvalue ih'
    by_cases hm' : m.1 ∈ names₂
    · have ihswap (y : Option γ) (x : Option β) :
          Leads form.TakesMember (draft x y) members (some d) ↔ ∃ y' x', d = draft x' y' ∧
            Gives names₂ decode₂ y members y' ∧ Gives names₁ decode₁ x members x' := by
        rw [ih' x y, exists_comm]
        simp only [and_comm]
      rw [h.swap.leads_cons_first hdecode₂ hm' hvalue ihswap, exists_comm]
      simp only [and_comm]
    · simp only [leads_cons_iff, h.takesMember_other hm hm' hvalue, exists_eq_left,
        gives_cons_of_not_mem hm, gives_cons_of_not_mem hm', ih' x y]

/-- A record is decoded from an object exactly if the members give its fields. -/
theorem decodes_iff (h : IsPair form draft names₁ decode₁ names₂ decode₂)
    (hfields : ∀ field ∈ form.fields, ∀ d, SettlesValues (field.read d))
    (hdecode₁ : SettlesValues decode₁) (hdecode₂ : SettlesValues decode₂) {text : List Char}
    (hobject : ObjectText members text) (hvalues : ∀ m ∈ members, ValueText m.2) {a : α} :
    Decodes form.decode text a ↔ ∃ x y, Gives names₁ decode₁ none members x ∧
      Gives names₂ decode₂ none members y ∧ form.finish (draft x y) = some a := by
  have hleads {d : δ} := h.leads_iff (d := d) hdecode₁ hdecode₂ hvalues none none
  rw [← h.blank_eq] at hleads
  constructor
  · intro ha
    obtain ⟨o, ho⟩ := Form.exists_leads_members hfields hvalues
    obtain ⟨d, rfl, hfinish⟩ := Option.bind_eq_some_iff.1 ((Form.settles_object hobject ho).unique ha)
    obtain ⟨x, y, rfl, hx, hy⟩ := hleads.1 ho
    exact ⟨x, y, hx, hy, hfinish⟩
  · rintro ⟨x, y, hx, hy, hfinish⟩
    have hobject := Form.settles_object hobject (hleads.2 ⟨x, y, rfl, hx, hy⟩)
    rwa [Option.bind_some, hfinish] at hobject

end IsPair

end JsonDecoder

end GrammarKit
