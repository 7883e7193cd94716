import Mathlib.Data.List.Induction
import Mathlib.Data.List.Nodup
import GrammarKit.Grammar

/-!
# What a run of changes makes of a grammar

Tokens and rules are registered alike: each has a key, its kind or its name, and is refused where
the key is taken. So what is held after a run of offers is what was held before, and behind it
every offer whose key neither was held nor had been offered before. Keys that were distinct stay
distinct.

A change of a grammar offers a token or a rule, unless its definition fails. A run of changes, of
which any may be refused, does to the tokens and to the rules what the run of its offers does.
-/

namespace GrammarKit

section Registration

variable {α : Type} (key : α → String)

/-- What is held after one more offer, which is refused where its key is taken. -/
def register (held : List α) (a : α) : List α :=
  if held.any (key · == key a) then held else held ++ [a]

/-- The offers, in order, of which neither what is held nor an earlier offer has the key. -/
def newcomers (held offers : List α) : List α :=
  (List.range offers.length).filterMap fun i =>
    offers[i]?.filter fun a => (held ++ offers.take i).all (key · != key a)

/-- The last offer is new where nothing before it has its key. -/
theorem newcomers_append_singleton (held offers : List α) (a : α) :
    newcomers key held (offers ++ [a]) =
      newcomers key held offers ++
        if (held ++ offers).any (key · == key a) then [] else [a] := by
  have hbefore : ∀ i ∈ List.range offers.length,
      ((offers ++ [a])[i]?.filter fun b =>
        (held ++ (offers ++ [a]).take i).all (key · != key b)) =
      offers[i]?.filter fun b => (held ++ offers.take i).all (key · != key b) := by
    intro i hi
    have hi := List.mem_range.1 hi
    rw [List.getElem?_append_left hi, List.take_append_of_le_length (Nat.le_of_lt hi)]
  have hnew : ((held ++ offers).all (key · != key a)) =
      !(held ++ offers).any (key · == key a) := by
    rw [List.not_any_eq_all_not]
    rfl
  rw [newcomers, List.length_append, List.length_singleton, List.range_succ,
    List.filterMap_append, List.filterMap_congr hbefore, ← newcomers]
  congr 1
  simp only [List.filterMap_cons, List.filterMap_nil, List.getElem?_concat_length,
    List.take_left', Option.filter_some, hnew]
  cases (held ++ offers).any (key · == key a) <;> rfl

/-- The keys of what is held and of the newcomers are those of all that was offered. -/
theorem any_append_newcomers (held offers : List α) (k : String) :
    (held ++ newcomers key held offers).any (key · == k) =
      (held ++ offers).any (key · == k) := by
  induction offers using List.reverseRecOn with
  | nil => rfl
  | append_singleton offers a ih =>
    have hlast : (held ++ (offers ++ [a])).any (key · == k) =
        ((held ++ offers).any (key · == k) || key a == k) := by
      rw [← List.append_assoc, List.any_append, List.any_cons, List.any_nil, Bool.or_false]
    rw [newcomers_append_singleton, ← List.append_assoc, List.any_append, ih, hlast]
    split
    · next htaken =>
      -- The key of an offer that is refused is held already, so the offer adds no key.
      by_cases hk : key a = k
      · rw [hk] at htaken
        rw [htaken, Bool.true_or, Bool.true_or]
      · simp [hk]
    · simp

/-- After a run of offers the newcomers stand behind what was held before. -/
theorem foldl_register (held offers : List α) :
    offers.foldl (register key) held = held ++ newcomers key held offers := by
  induction offers using List.reverseRecOn with
  | nil => exact (List.append_nil held).symm
  | append_singleton offers a ih =>
    rw [List.foldl_append, ih, List.foldl_cons, List.foldl_nil, register, any_append_newcomers,
      newcomers_append_singleton]
    split
    · rw [List.append_nil]
    · rw [List.append_assoc]

/-- Keys that are distinct stay distinct after one more offer. -/
theorem nodup_register {held : List α} (h : (held.map key).Nodup) (a : α) :
    ((register key held a).map key).Nodup := by
  unfold register
  split
  · exact h
  · next hfree =>
    have hfree : key a ∉ held.map key := by
      simpa only [List.mem_map, List.any_eq_true, beq_iff_eq] using hfree
    rw [List.map_append, List.map_singleton]
    exact List.Nodup.append h (List.nodup_singleton _) (List.disjoint_singleton.2 hfree)

/-- Keys that are distinct stay distinct over a run of offers. -/
theorem nodup_foldl_register {held : List α} (h : (held.map key).Nodup) (offers : List α) :
    ((offers.foldl (register key) held).map key).Nodup := by
  induction offers generalizing held with
  | nil => exact h
  | cons a offers ih => exact ih (nodup_register key h a)

end Registration

namespace GrammarEdit

/-- The definition that a change brings, made already or made now; or why it cannot be made. -/
def definition : GrammarEdit → Except DefinitionError (TokenMatcher ⊕ Rule)
  | .addToken m => .ok (.inl m)
  | .defineToken kind pattern => (TokenMatcher.define kind pattern).map .inl
  | .addRule r => .ok (.inr r)
  | .defineRule r => r.map .inr

/-- The token that a change offers, if it brings one. -/
def token? (e : GrammarEdit) : Option TokenMatcher :=
  match e.definition with
  | .ok (.inl m) => some m
  | _ => none

/-- The rule that a change offers, if it brings one. -/
def rule? (e : GrammarEdit) : Option Rule :=
  match e.definition with
  | .ok (.inr r) => some r
  | _ => none

end GrammarEdit

namespace Grammar

/-- Why a grammar refuses a change: the definition fails, or else its kind or its name is taken. -/
inductive Refuses (g : Grammar) (e : GrammarEdit) : GrammarError → Prop
  | definition {cause : DefinitionError} (h : e.definition = .error cause) :
    Refuses g e (.definition cause)
  | token {m : TokenMatcher} (h : e.definition = .ok (.inl m))
    (htaken : ∃ n ∈ g.tokens, n.kind = m.kind) : Refuses g e (.duplicate (.token m.kind))
  | rule {r : Rule} (h : e.definition = .ok (.inr r))
    (htaken : ∃ s ∈ g.rules, s.name = r.name) : Refuses g e (.duplicate (.rule r.name))

/-- Every change is an addition to which a definition comes. -/
theorem edit_eq (g : Grammar) (e : GrammarEdit) :
    g.edit e =
      match e.definition with
      | .error cause => .error (.definition cause)
      | .ok (.inl m) => (g.addToken m).mapError .duplicate
      | .ok (.inr r) => (g.addRule r).mapError .duplicate := by
  cases e with
  | addToken m => rfl
  | defineToken kind pattern =>
    simp only [edit, defineToken, define, GrammarEdit.definition]
    cases TokenMatcher.define kind pattern <;> rfl
  | addRule r => rfl
  | defineRule r => cases r <;> rfl

/-- A change is refused for the reasons that there are, and for no other. -/
theorem edit_eq_error_iff {g : Grammar} {e : GrammarEdit} {err : GrammarError} :
    g.edit e = .error err ↔ g.Refuses e err := by
  rw [edit_eq]
  constructor
  · intro h
    split at h
    · next hd => cases h; exact .definition hd
    · next m hd =>
      unfold addToken at h
      split at h
      · next htaken => cases h; exact .token hd (by simpa using htaken)
      · cases h
    · next r hd =>
      unfold addRule at h
      split at h
      · next htaken => cases h; exact .rule hd (by simpa using htaken)
      · cases h
  · intro h
    cases h with
    | definition hd => rw [hd]
    | token hd htaken =>
      rw [hd]
      change (g.addToken _).mapError GrammarError.duplicate = _
      rw [addToken, if_pos (by simpa using htaken)]
      rfl
    | rule hd htaken =>
      rw [hd]
      change (g.addRule _).mapError GrammarError.duplicate = _
      rw [addRule, if_pos (by simpa using htaken)]
      rfl

/-- A change, refused or not, registers what it offers and does nothing else. -/
theorem editOrKeep_eq (g : Grammar) (e : GrammarEdit) :
    g.editOrKeep e =
      { name := g.name
        tokens := e.token?.toList.foldl (register (·.kind)) g.tokens
        rules := e.rule?.toList.foldl (register (·.name)) g.rules } := by
  rw [editOrKeep, edit_eq, GrammarEdit.token?, GrammarEdit.rule?]
  cases e.definition with
  | error cause => rfl
  | ok d =>
    cases d with
    | inl m =>
      simp only [addToken, Option.toList, List.foldl_cons, List.foldl_nil, register]
      cases g.tokens.any (·.kind == m.kind) <;> rfl
    | inr r =>
      simp only [addRule, Option.toList, List.foldl_cons, List.foldl_nil, register]
      cases g.rules.any (·.name == r.name) <;> rfl

/-- A run of changes registers what the changes offer, in order, and does nothing else. -/
theorem editAll_eq (g : Grammar) (es : List GrammarEdit) :
    g.editAll es =
      { name := g.name
        tokens := (es.filterMap GrammarEdit.token?).foldl (register (·.kind)) g.tokens
        rules := (es.filterMap GrammarEdit.rule?).foldl (register (·.name)) g.rules } := by
  induction es generalizing g with
  | nil => rfl
  | cons e es ih =>
    change (g.editOrKeep e).editAll es = _
    rw [ih, editOrKeep_eq]
    cases ht : e.token? <;> cases hr : e.rule? <;> simp [ht, hr]

/-- The definitions of a grammar are in order: kinds and names are distinct and not blank, every
pattern has been compiled, and no sequence is empty. -/
structure WellFormed (g : Grammar) : Prop where
  kinds_nodup : (g.tokens.map (·.kind)).Nodup
  kind_ne_blank : ∀ m ∈ g.tokens, Text.isBlank m.kind = false
  compile_eq : ∀ m ∈ g.tokens, Pattern.compile (Pattern.anchored m.pattern.toList) = .ok m.regex
  names_nodup : (g.rules.map (·.name)).Nodup
  name_ne_blank : ∀ r ∈ g.rules, Text.isBlank r.name = false
  sequence_ne_nil : ∀ r ∈ g.rules, ∀ kinds, r.recognizer = .sequence kinds → kinds ≠ []

/-- Only distinct keys need proof: the rest is part of what tokens and rules are. -/
theorem wellFormed_of_nodup {g : Grammar} (hkinds : (g.tokens.map (·.kind)).Nodup)
    (hnames : (g.rules.map (·.name)).Nodup) : g.WellFormed where
  kinds_nodup := hkinds
  kind_ne_blank m _ := m.kind_ne_blank
  compile_eq m _ := m.compile_eq
  names_nodup := hnames
  name_ne_blank r _ := r.name_ne_blank
  sequence_ne_nil r _ kinds hr := by
    have hne := r.not_emptySequence
    rw [hr] at hne
    rintro rfl
    cases hne

/-- A run of changes keeps the definitions in order. -/
theorem WellFormed.editAll {g : Grammar} (h : g.WellFormed) (es : List GrammarEdit) :
    (g.editAll es).WellFormed := by
  rw [editAll_eq]
  exact wellFormed_of_nodup (nodup_foldl_register _ h.kinds_nodup _)
    (nodup_foldl_register _ h.names_nodup _)

/-- Where a grammar begins: with a name alone, or with a description that has been loaded. -/
inductive Initial : Grammar → Prop
  | named (name : String) : Initial { name }
  | loaded {d : GrammarDescription} {g : Grammar} (h : Grammar.ofDescription d = .ok g) : Initial g

/-- A change that brings a token leads where adding the token leads. -/
theorem editOrKeep_of_definition {g : Grammar} {e : GrammarEdit} {m : TokenMatcher}
    (h : e.definition = .ok (.inl m)) :
    g.editOrKeep e = match g.addToken m with
      | .ok g' => g'
      | .error _ => g := by
  rw [editOrKeep, edit_eq, h]
  cases hadd : g.addToken m <;> simp only [hadd, Except.mapError]

/-- To load token descriptions is to define each of them, as long as none is at fault. -/
theorem eq_editAll_of_load {g g' : Grammar} {ts : List TokenDescription}
    (h : (Loading.tokens g ts).result = .ok g') :
    g' = g.editAll (ts.map fun t => .defineToken t.kind t.pattern) := by
  induction ts generalizing g with
  | nil => cases h; rfl
  | cons t ts ih =>
    rw [Loading.tokens] at h
    split at h
    · cases h
    · next m hm =>
      have hdef : (GrammarEdit.defineToken t.kind t.pattern).definition = .ok (.inl m) :=
        congrArg (Except.map Sum.inl) hm
      change g' = (g.editOrKeep (.defineToken t.kind t.pattern)).editAll _
      rw [editOrKeep_of_definition hdef]
      cases hadd : g.addToken m with
      | ok g₁ =>
        rw [hadd] at h
        exact ih h
      | error e =>
        rw [hadd] at h
        exact ih h

/-- A grammar is in order from the start. -/
theorem Initial.wellFormed {g : Grammar} (h : g.Initial) : g.WellFormed := by
  have hnamed (name : String) : Grammar.WellFormed { name } :=
    wellFormed_of_nodup List.nodup_nil List.nodup_nil
  cases h with
  | named name => exact hnamed name
  | loaded h =>
    rw [eq_editAll_of_load h]
    exact (hnamed _).editAll _

/-- A grammar has grown out of another by a run of changes: it has the same name, and behind the
tokens and rules of the other stand the newcomers among those that the changes offer. -/
structure Grown (g₀ : Grammar) (es : List GrammarEdit) (g : Grammar) : Prop where
  name_eq : g.name = g₀.name
  tokens_eq : g.tokens = g₀.tokens ++ newcomers (·.kind) g₀.tokens (es.filterMap GrammarEdit.token?)
  rules_eq : g.rules = g₀.rules ++ newcomers (·.name) g₀.rules (es.filterMap GrammarEdit.rule?)

/-- Tokens and rules grow by the newcomers, whatever the grammar began with. -/
theorem grown_editAll (g : Grammar) (es : List GrammarEdit) : Grown g es (g.editAll es) := by
  rw [editAll_eq]
  exact ⟨rfl, foldl_register _ _ _, foldl_register _ _ _⟩

/-- A change that is refused leaves the run where it was. -/
theorem editAll_append_of_error {g : Grammar} {es : List GrammarEdit} {e : GrammarEdit}
    {err : GrammarError} (h : (g.editAll es).edit e = .error err) :
    g.editAll (es ++ [e]) = g.editAll es := by
  have hlast : g.editAll (es ++ [e]) = (g.editAll es).editOrKeep e := by
    simp only [editAll, List.foldl_append, List.foldl_cons, List.foldl_nil]
  rw [hlast, editOrKeep, h]

/-- Over every run of changes from a beginning, refused ones included, the definitions stay in
order, the first definition of each kind and each name stands, and the next change is refused for
the stated reasons alone and then changes nothing. -/
theorem editAll_invariant {g₀ : Grammar} (hstart : g₀.Initial) (es : List GrammarEdit) :
    (g₀.editAll es).WellFormed ∧ Grown g₀ es (g₀.editAll es) ∧
      ∀ e err, ((g₀.editAll es).edit e = .error err ↔ (g₀.editAll es).Refuses e err) ∧
        ((g₀.editAll es).edit e = .error err → g₀.editAll (es ++ [e]) = g₀.editAll es) :=
  ⟨hstart.wellFormed.editAll es, grown_editAll g₀ es,
    fun _ _ => ⟨edit_eq_error_iff, editAll_append_of_error⟩⟩

/-- A description with a repeated kind is loaded, and changes of all sorts follow: a new kind, a
kind that is taken, a blank kind and a pattern that does not compile, a rule, a rule without
tokens and a rule whose name is taken. -/
theorem editAll_invariant_loaded :
    ∃ g₀ : Grammar, Grammar.ofDescription ⟨"g", [⟨"a", "a"⟩, ⟨"a", "b"⟩]⟩ = .ok g₀ ∧
      g₀.Initial ∧
      ∃ es : List GrammarEdit, es = [.defineToken "b" "b|c", .defineToken "a" "c",
        .defineToken " " "c", .defineToken "c" "(", .defineRule (Rule.define "r" (.sequence ["a"])),
        .defineRule (Rule.define "s" (.sequence [])),
        .defineRule (Rule.define "r" (.predicate fun _ => true))] ∧
      (g₀.editAll es).WellFormed ∧ Grown g₀ es (g₀.editAll es) ∧
      ∀ e err, ((g₀.editAll es).edit e = .error err ↔ (g₀.editAll es).Refuses e err) ∧
        ((g₀.editAll es).edit e = .error err → g₀.editAll (es ++ [e]) = g₀.editAll es) := by
  obtain ⟨m, hm, hkind, -⟩ := TokenMatcher.exists_define "a" "a" (by decide)
    (by decide +kernel)
  obtain ⟨n, hn, hkind', -⟩ := TokenMatcher.exists_define "a" "b" (by decide)
    (by decide +kernel)
  have hload : Grammar.ofDescription ⟨"g", [⟨"a", "a"⟩, ⟨"a", "b"⟩]⟩ =
      .ok { name := "g", tokens := [m] } := by
    simp [Grammar.ofDescription, GrammarDescription.load, Loading.tokens,
      TokenMatcher.ofDescription, hm, hn, addToken, hkind, hkind', Loading.after]
  exact ⟨_, hload, .loaded hload, _, rfl, editAll_invariant (.loaded hload) _⟩

end Grammar

end GrammarKit
