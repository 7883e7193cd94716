import GrammarKit.Token

/-!
# Blocks of braces

Lists of braces and texts, and the forests of blocks in them. Braces belong together as on a stack:
an opening one is put on it, and a closing one takes the last opening one off. Of any list the braces
that find no partner in this way can be left out, and the rest denotes one forest.

`Sorts` goes through a list from its head and tells for each brace whether it has a partner. An
opening one has none if no tokens behind it close it; `closingLength?` counts how many they are.
-/

namespace GrammarKit

namespace Token

/-- A token of an opening brace. -/
def IsOpening (t : Token) : Prop := t.kind ≠ "text" ∧ t.entry = "\x7b"

/-- A token of a closing brace. -/
def IsClosing (t : Token) : Prop := t.kind ≠ "text" ∧ t.entry = "\x7d"

/-- A token of a text that is not a brace. -/
def IsText (t : Token) : Prop := t.kind = "text" ∧ t.entry ≠ "\x7b" ∧ t.entry ≠ "\x7d"

/-- A token of a brace or of a text. -/
def IsBraceOrText (t : Token) : Prop := t.IsOpening ∨ t.IsClosing ∨ t.IsText

instance (t : Token) : Decidable t.IsOpening := inferInstanceAs (Decidable (_ ∧ _))

instance (t : Token) : Decidable t.IsClosing := inferInstanceAs (Decidable (_ ∧ _))

instance (t : Token) : Decidable t.IsText := inferInstanceAs (Decidable (_ ∧ _))

instance (t : Token) : Decidable t.IsBraceOrText := inferInstanceAs (Decidable (_ ∨ _))

variable {t : Token}

/-- A closing brace is not an opening one. -/
theorem IsClosing.entry_ne (h : t.IsClosing) : t.entry ≠ "\x7b" := by
  rw [h.2]
  decide

theorem IsOpening.not_isClosing (h : t.IsOpening) : ¬ t.IsClosing := fun hc => hc.entry_ne h.2

theorem IsText.not_isOpening (h : t.IsText) : ¬ t.IsOpening := fun ho => ho.1 h.1

theorem IsText.not_isClosing (h : t.IsText) : ¬ t.IsClosing := fun hc => hc.1 h.1

end Token

/-- Texts and blocks in a row. A block lies between an opening and a closing brace, and its contents
are a row of their own. -/
inductive Forest where
  | nil
  | text (t : Token) (ht : t.IsText) (rest : Forest)
  | block (o c : Token) (ho : o.IsOpening) (hc : c.IsClosing) (contents rest : Forest)

namespace Forest

/-- The tokens of a forest, from left to right. -/
def tokens : Forest → List Token
  | .nil => []
  | .text t _ rest => t :: rest.tokens
  | .block o c _ _ contents rest => o :: (contents.tokens ++ c :: rest.tokens)

/-- A forest can be told by its tokens when nothing or a closing brace is behind it. -/
theorem eq_of_tokens_append_eq {f g : Forest} {ts us : List Token}
    (hts : ∀ t ∈ ts.head?, t.IsClosing) (hus : ∀ t ∈ us.head?, t.IsClosing)
    (h : f.tokens ++ ts = g.tokens ++ us) : f = g ∧ ts = us := by
  -- along the first forest, whose next token tells what the second one begins with
  induction f generalizing g ts us with
  | nil =>
    cases g with
    | nil => exact ⟨rfl, h⟩
    | text t ht rest =>
      cases (h : ts = _)
      exact absurd (hts t rfl) ht.not_isClosing
    | block o c ho hc contents rest =>
      cases (h : ts = _)
      exact absurd (hts o rfl) ho.not_isClosing
  | text t ht rest ih =>
    cases g with
    | nil =>
      cases (h : _ = us)
      exact absurd (hus t rfl) ht.not_isClosing
    | text t' ht' rest' =>
      obtain ⟨rfl, hrest⟩ := List.cons.inj h
      obtain ⟨rfl, rfl⟩ := ih hts hus hrest
      exact ⟨rfl, rfl⟩
    | block o c ho hc contents rest' =>
      obtain ⟨rfl, -⟩ := List.cons.inj h
      exact absurd ho ht.not_isOpening
  | block o c ho hc contents rest ihcontents ihrest =>
    cases g with
    | nil =>
      cases (h : _ = us)
      exact absurd (hus o rfl) ho.not_isClosing
    | text t ht rest' =>
      obtain ⟨rfl, -⟩ := List.cons.inj h
      exact absurd ho ht.not_isOpening
    | block o' c' ho' hc' contents' rest' =>
      simp only [tokens, List.cons_append, List.append_assoc] at h
      obtain ⟨rfl, hbehind⟩ := List.cons.inj h
      obtain ⟨rfl, hclosing⟩ :=
        ihcontents (by rintro _ ⟨⟩; exact hc) (by rintro _ ⟨⟩; exact hc') hbehind
      obtain ⟨rfl, hafter⟩ := List.cons.inj hclosing
      obtain ⟨rfl, rfl⟩ := ihrest hts hus hafter
      exact ⟨rfl, rfl⟩

/-- No two forests have the same tokens. -/
theorem tokens_injective {f g : Forest} (h : f.tokens = g.tokens) : f = g :=
  have hnil : ∀ t ∈ ([] : List Token).head?, t.IsClosing := fun _ ht => nomatch ht
  (eq_of_tokens_append_eq hnil hnil (congrArg (· ++ []) h)).1

end Forest

/-- How many tokens it takes to close a brace and the `depth` braces that were opened since: those
up to its partner. There may be no such number. -/
def closingLength? (depth : Nat) : List Token → Option Nat
  | [] => none
  | t :: ts =>
    if t.entry = "\x7b" then (closingLength? (depth + 1) ts).map (· + 1)
    else if t.entry = "\x7d" then
      match depth with
      | 0 => some 1
      | d + 1 => (closingLength? d ts).map (· + 1)
    else (closingLength? depth ts).map (· + 1)

/-- The places of the braces without a partner. The places in `opened` are those of the braces that
have been opened and not yet closed, the last one first, and `place` is that of the next token. -/
def unmatchedFrom (opened : List Nat) (place : Nat) : List Token → List Nat
  | [] => opened
  | t :: ts =>
    if t.entry = "\x7b" then unmatchedFrom (place :: opened) (place + 1) ts
    else if t.entry = "\x7d" then
      match opened with
      | [] => place :: unmatchedFrom [] (place + 1) ts
      | _ :: opened => unmatchedFrom opened (place + 1) ts
    else unmatchedFrom opened (place + 1) ts

/-- The tokens of a list from a place on whose places are not among the given ones. -/
def withoutPlaces (places : List Nat) (place : Nat) (tokens : List Token) : List Token :=
  ((tokens.zipIdx place).filter fun p => p.2 ∉ places).map (·.1)

/-- The tokens that are left when the braces without a partner are taken away. -/
def withoutUnmatched (tokens : List Token) : List Token :=
  withoutPlaces (unmatchedFrom [] 0 tokens) 0 tokens

section Moves

variable {t : Token} {ts : List Token} {opened : List Nat} {depth place : Nat}

theorem closingLength?_opening (h : t.IsOpening) :
    closingLength? depth (t :: ts) = (closingLength? (depth + 1) ts).map (· + 1) := by
  simp only [closingLength?, if_pos h.2]

theorem closingLength?_closing_zero (h : t.IsClosing) : closingLength? 0 (t :: ts) = some 1 := by
  simp only [closingLength?, if_neg h.entry_ne, if_pos h.2]

theorem closingLength?_closing_succ (h : t.IsClosing) :
    closingLength? (depth + 1) (t :: ts) = (closingLength? depth ts).map (· + 1) := by
  simp only [closingLength?, if_neg h.entry_ne, if_pos h.2]

theorem closingLength?_text (h : t.IsText) :
    closingLength? depth (t :: ts) = (closingLength? depth ts).map (· + 1) := by
  simp only [closingLength?, if_neg h.2.1, if_neg h.2.2]

theorem unmatchedFrom_opening (h : t.IsOpening) :
    unmatchedFrom opened place (t :: ts) = unmatchedFrom (place :: opened) (place + 1) ts := by
  simp only [unmatchedFrom, if_pos h.2]

theorem unmatchedFrom_closing_nil (h : t.IsClosing) :
    unmatchedFrom [] place (t :: ts) = place :: unmatchedFrom [] (place + 1) ts := by
  simp only [unmatchedFrom, if_neg h.entry_ne, if_pos h.2]

theorem unmatchedFrom_closing_cons (h : t.IsClosing) (p : Nat) :
    unmatchedFrom (p :: opened) place (t :: ts) = unmatchedFrom opened (place + 1) ts := by
  simp only [unmatchedFrom, if_neg h.entry_ne, if_pos h.2]

theorem unmatchedFrom_text (h : t.IsText) :
    unmatchedFrom opened place (t :: ts) = unmatchedFrom opened (place + 1) ts := by
  simp only [unmatchedFrom, if_neg h.2.1, if_neg h.2.2]

end Moves

/-- A forest neither opens nor closes anything for what is behind it. -/
theorem closingLength?_tokens_append (f : Forest) (depth : Nat) (ts : List Token) :
    closingLength? depth (f.tokens ++ ts) =
      (closingLength? depth ts).map (· + f.tokens.length) := by
  induction f generalizing depth ts with
  | nil => simp [Forest.tokens]
  | text t ht rest ih =>
    rw [Forest.tokens, List.cons_append, closingLength?_text ht, ih, Option.map_map]
    congr
  | block o c ho hc contents rest ihcontents ihrest =>
    rw [Forest.tokens, List.cons_append, List.append_assoc, List.cons_append,
      closingLength?_opening ho, ihcontents, closingLength?_closing_succ hc, ihrest]
    simp only [Option.map_map, List.length_cons, List.length_append]
    refine congrArg (Option.map · (closingLength? depth ts)) (funext fun n => ?_)
    simp only [Function.comp_apply]
    omega

/-- What does not close a brace does not close one more with it. -/
theorem closingLength?_succ_eq_none {ts : List Token} (depth : Nat)
    (h : closingLength? depth ts = none) : closingLength? (depth + 1) ts = none := by
  fun_induction closingLength? depth ts with
  | case1 => rfl
  | case2 depth t ts hopening ih =>
    simp only [closingLength?, if_pos hopening, ih (Option.map_eq_none_iff.1 h), Option.map_none]
  | case3 => cases h
  | case4 t ts hnot hclosing d ih =>
    simp only [closingLength?, if_neg hnot, if_pos hclosing, ih (Option.map_eq_none_iff.1 h),
      Option.map_none]
  | case5 depth t ts hnot hnot' ih =>
    simp only [closingLength?, if_neg hnot, if_neg hnot', ih (Option.map_eq_none_iff.1 h),
      Option.map_none]

/-- How the braces of a list are sorted out, and the forest that is left: at each place there is a
text, a block, a closing brace that closes nothing, or an opening one that nothing closes. -/
inductive Sorts : List Token → Forest → Prop
  | nil : Sorts [] .nil
  | text {t : Token} {ts : List Token} {f : Forest} (ht : t.IsText) (hrest : Sorts ts f) :
      Sorts (t :: ts) (.text t ht f)
  | block {o c : Token} {contents : Forest} {ts : List Token} {f : Forest} (ho : o.IsOpening)
      (hc : c.IsClosing) (hcontents : Sorts contents.tokens contents) (hrest : Sorts ts f) :
      Sorts (o :: (contents.tokens ++ c :: ts)) (.block o c ho hc contents f)
  | closing {c : Token} {ts : List Token} {f : Forest} (hc : c.IsClosing) (hrest : Sorts ts f) :
      Sorts (c :: ts) f
  | opening {o : Token} {ts : List Token} {f : Forest} (ho : o.IsOpening)
      (hnever : closingLength? 0 ts = none) (hrest : Sorts ts f) : Sorts (o :: ts) f

/-- In a forest all braces have partners. -/
theorem Forest.sorts (f : Forest) : Sorts f.tokens f := by
  induction f with
  | nil => exact .nil
  | text t ht rest ih => exact .text ht ih
  | block o c ho hc contents rest ihcontents ihrest => exact .block ho hc ihcontents ihrest

namespace Sorts

/-- At the head there is a brace or a text. -/
theorem isBraceOrText_of_mem_head? {ts : List Token} {f : Forest} (h : Sorts ts f) :
    ∀ t ∈ ts.head?, t.IsBraceOrText := by
  rintro t ht
  cases h with
  | nil => cases ht
  | text htext => cases ht; exact .inr (.inr htext)
  | block ho => cases ht; exact .inl ho
  | closing hc => cases ht; exact .inr (.inl hc)
  | opening ho => cases ht; exact .inl ho

/-- A brace before the list is closed by none of its tokens, or by the one behind a first forest. -/
theorem closes_or_never {ts : List Token} {f : Forest} (h : Sorts ts f) :
    closingLength? 0 ts = none ∨ ∃ (contents : Forest) (c : Token) (rest : List Token) (g : Forest),
      ts = contents.tokens ++ c :: rest ∧ c.IsClosing ∧ Sorts rest g := by
  induction h with
  | nil => exact .inl rfl
  | text ht hrest ih =>
    rcases ih with hnone | ⟨contents, c, rest, g, rfl, hc, hg⟩
    · exact .inl (by rw [closingLength?_text ht, hnone, Option.map_none])
    · exact .inr ⟨.text _ ht contents, c, rest, g, rfl, hc, hg⟩
  | @block o c inner ts f ho hc hinner hrest _ ih =>
    rcases ih with hnone | ⟨contents, c', rest, g, rfl, hc', hg⟩
    · refine .inl ?_
      rw [closingLength?_opening ho, closingLength?_tokens_append, closingLength?_closing_succ hc,
        hnone]
      rfl
    · exact .inr ⟨.block o c ho hc inner contents, c', rest, g, by simp [Forest.tokens], hc', hg⟩
  | closing hc hrest ih => exact .inr ⟨.nil, _, _, _, rfl, hc, hrest⟩
  | opening ho hnever hrest ih =>
    refine .inl ?_
    rw [closingLength?_opening ho, closingLength?_succ_eq_none 0 hnever, Option.map_none]

/-- Any list of braces and texts can be sorted out. -/
theorem exists_of_isBraceOrText {tokens : List Token} (h : ∀ t ∈ tokens, t.IsBraceOrText) :
    ∃ f, Sorts tokens f := by
  induction tokens with
  | nil => exact ⟨.nil, .nil⟩
  | cons t ts ih =>
    obtain ⟨ht, hts⟩ := List.forall_mem_cons.1 h
    obtain ⟨f, hf⟩ := ih hts
    rcases ht with ho | hc | htext
    · rcases hf.closes_or_never with hnever | ⟨contents, c, rest, g, rfl, hc, hg⟩
      · exact ⟨f, .opening ho hnever hf⟩
      · exact ⟨_, .block ho hc contents.sorts hg⟩
    · exact ⟨f, .closing hc hf⟩
    · exact ⟨_, .text htext hf⟩

end Sorts

/-- A forest leaves the opened braces as they are. -/
theorem unmatchedFrom_tokens_append (f : Forest) (opened : List Nat) (place : Nat)
    (ts : List Token) :
    unmatchedFrom opened place (f.tokens ++ ts) =
      unmatchedFrom opened (place + f.tokens.length) ts := by
  induction f generalizing opened place ts with
  | nil => rfl
  | text t ht rest ih =>
    rw [Forest.tokens, List.cons_append, unmatchedFrom_text ht, ih, List.length_cons,
      Nat.add_assoc, Nat.add_comm 1]
  | block o c ho hc contents rest ihcontents ihrest =>
    rw [Forest.tokens, List.cons_append, List.append_assoc, List.cons_append,
      unmatchedFrom_opening ho, ihcontents, unmatchedFrom_closing_cons hc, ihrest]
    congr 1
    simp only [List.length_cons, List.length_append]
    omega

/-- A brace that nothing closes stays at the bottom of the stack. -/
theorem unmatchedFrom_append_of_never {opened : List Nat} {place p : Nat} {ts : List Token}
    (h : closingLength? opened.length ts = none) :
    unmatchedFrom (opened ++ [p]) place ts = unmatchedFrom opened place ts ++ [p] := by
  fun_induction unmatchedFrom opened place ts with
  | case1 => rfl
  | case2 opened place t ts hopening ih =>
    simp only [closingLength?, if_pos hopening, Option.map_eq_none_iff] at h
    simp only [unmatchedFrom, if_pos hopening]
    exact ih h
  | case3 place t ts hnot hclosing ih =>
    simp only [List.length_nil, closingLength?, if_neg hnot, if_pos hclosing] at h
    cases h
  | case4 place t ts hnot hclosing p' opened ih =>
    simp only [List.length_cons, closingLength?, if_neg hnot, if_pos hclosing,
      Option.map_eq_none_iff] at h
    simp only [List.cons_append, unmatchedFrom, if_neg hnot, if_pos hclosing]
    exact ih h
  | case5 opened place t ts hnot hnot' ih =>
    simp only [closingLength?, if_neg hnot, if_neg hnot', Option.map_eq_none_iff] at h
    simp only [unmatchedFrom, if_neg hnot, if_neg hnot']
    exact ih h

/-- Only braces that were opened before or that come now are without a partner. -/
theorem mem_opened_or_le_of_mem_unmatchedFrom {opened : List Nat} {place p : Nat} {ts : List Token}
    (h : p ∈ unmatchedFrom opened place ts) : p ∈ opened ∨ place ≤ p := by
  fun_induction unmatchedFrom opened place ts <;> grind

/-- A token is left out if its place is one of the places, and kept otherwise. -/
theorem withoutPlaces_cons (places : List Nat) (place : Nat) (t : Token) (ts : List Token) :
    withoutPlaces places place (t :: ts) =
      if place ∈ places then withoutPlaces places (place + 1) ts
      else t :: withoutPlaces places (place + 1) ts := by
  rw [withoutPlaces, List.zipIdx_cons]
  by_cases hmem : place ∈ places
  · rw [List.filter_cons_of_neg (by simpa using hmem), if_pos hmem, withoutPlaces]
  · rw [List.filter_cons_of_pos (by simpa using hmem), if_neg hmem, List.map_cons, withoutPlaces]

/-- The first tokens are kept if none of their places is one of the places. -/
theorem withoutPlaces_append {places : List Nat} {place : Nat} {kept : List Token} (ts : List Token)
    (h : ∀ p, place ≤ p → p < place + kept.length → p ∉ places) :
    withoutPlaces places place (kept ++ ts) =
      kept ++ withoutPlaces places (place + kept.length) ts := by
  induction kept generalizing place with
  | nil => rfl
  | cons t kept ih =>
    rw [List.length_cons] at h
    rw [List.cons_append, withoutPlaces_cons, if_neg (h place (Nat.le_refl place) (by omega)),
      ih fun p hle hlt => h p (by omega) (by omega), List.length_cons, Nat.add_assoc, Nat.add_comm 1,
      List.cons_append]

namespace Sorts

/-- Without the places of the braces that have no partner the tokens of the forest are left. -/
theorem withoutPlaces_eq {ts : List Token} {f : Forest} (h : Sorts ts f) {places : List Nat}
    {place : Nat} (hplaces : ∀ p, place ≤ p → (p ∈ places ↔ p ∈ unmatchedFrom [] place ts)) :
    withoutPlaces places place ts = f.tokens := by
  -- the places before the one at hand may be any, so the hypothesis passes on to the rest
  have hlater : ∀ {p place ts}, p ∈ unmatchedFrom [] place ts → place ≤ p := fun hp =>
    (mem_opened_or_le_of_mem_unmatchedFrom hp).resolve_left List.not_mem_nil
  induction h generalizing place with
  | nil => rfl
  | @text t ts f ht hrest ih =>
    rw [unmatchedFrom_text ht] at hplaces
    have hkept : place ∉ places := fun hmem =>
      absurd (hlater ((hplaces place (Nat.le_refl place)).1 hmem)) (Nat.not_succ_le_self place)
    rw [withoutPlaces_cons, if_neg hkept, ih fun p hp => hplaces p (Nat.le_of_succ_le hp),
      Forest.tokens]
  | @block o c contents ts f ho hc hcontents hrest _ ih =>
    let window := o :: (contents.tokens ++ [c])
    have hwindow : o :: (contents.tokens ++ c :: ts) = window ++ ts := by simp [window]
    have hlength : window.length = contents.tokens.length + 2 := by simp [window]
    have hunmatched : unmatchedFrom [] place (o :: (contents.tokens ++ c :: ts)) =
        unmatchedFrom [] (place + window.length) ts := by
      rw [unmatchedFrom_opening ho, unmatchedFrom_tokens_append, unmatchedFrom_closing_cons hc,
        hlength]
      congr 1
      omega
    rw [hunmatched] at hplaces
    rw [hwindow, withoutPlaces_append ts, ih fun p hp => hplaces p (by omega)]
    · simp [Forest.tokens, window]
    · intro p hle hlt hmem
      exact absurd (hlater ((hplaces p hle).1 hmem)) (Nat.not_le.2 hlt)
  | @closing c ts f hc hrest ih =>
    rw [unmatchedFrom_closing_nil hc] at hplaces
    rw [withoutPlaces_cons, if_pos ((hplaces place (Nat.le_refl place)).2 List.mem_cons_self)]
    refine ih fun p hp => (hplaces p (Nat.le_of_succ_le hp)).trans ?_
    rw [List.mem_cons, or_iff_right (Nat.ne_of_gt hp)]
  | @opening o ts f ho hnever hrest ih =>
    have hbottom : unmatchedFrom ([] ++ [place]) (place + 1) ts =
        unmatchedFrom [] (place + 1) ts ++ [place] := unmatchedFrom_append_of_never hnever
    have hstack : unmatchedFrom [] place (o :: ts) = unmatchedFrom [] (place + 1) ts ++ [place] := by
      rw [unmatchedFrom_opening ho, ← hbottom, List.nil_append]
    rw [hstack] at hplaces
    rw [withoutPlaces_cons, if_pos ((hplaces place (Nat.le_refl place)).2 (by simp))]
    refine ih fun p hp => (hplaces p (Nat.le_of_succ_le hp)).trans ?_
    rw [List.mem_append, List.mem_singleton, or_iff_left (Nat.ne_of_gt hp)]

/-- What is left without the braces that have no partner is the forest. -/
theorem withoutUnmatched_eq {ts : List Token} {f : Forest} (h : Sorts ts f) :
    withoutUnmatched ts = f.tokens :=
  h.withoutPlaces_eq fun _ _ => Iff.rfl

end Sorts

end GrammarKit
