import GrammarKit.Proofs.Grammar.History

/-!
# Loading a description

A description is at fault where one of its tokens is: its kind is blank or its pattern does not
compile, whether or not the kind has been taken before. The first token at fault decides the error.
Without a fault the tokens of the loaded grammar are the first ones of each kind, and the others,
of which each brings a warning, leave no trace in it.

A grammar that has been reached by definitions has one token of each kind, so that its description
is loaded whole. Kind and pattern of a token determine its regular expression; so what is loaded
again has not only the same description but the same tokens, and splits every text as before.
-/

namespace GrammarKit

section Repetition

variable {α : Type} (key : α → String)

/-- The offers, in order, of which what is held or an earlier offer has the key. -/
def latecomers (held offers : List α) : List α :=
  (List.range offers.length).filterMap fun i =>
    offers[i]?.filter fun a => (held ++ offers.take i).any (key · == key a)

/-- The offers, in order, that come late or those that do not. -/
def offersThat (late : Bool) (held offers : List α) : List α :=
  (List.range offers.length).filterMap fun i =>
    offers[i]?.filter fun a => (held ++ offers.take i).any (key · == key a) == late

/-- Latecomers are the offers that come late. -/
theorem latecomers_eq (held offers : List α) :
    latecomers key held offers = offersThat key true held offers := by
  simp only [latecomers, offersThat, beq_true]

/-- Newcomers are the offers that do not come late. -/
theorem newcomers_eq (held offers : List α) :
    newcomers key held offers = offersThat key false held offers := by
  simp only [newcomers, offersThat, beq_false, List.not_any_eq_all_not]
  rfl

/-- Whether the first offer comes late is decided by what is held; for the others it is held. -/
theorem offersThat_cons (late : Bool) (held : List α) (a : α) (offers : List α) :
    offersThat key late held (a :: offers) =
      (if held.any (key · == key a) == late then [a] else []) ++
        offersThat key late (held ++ [a]) offers := by
  have hbehind (i : Nat) : ((a :: offers)[i + 1]?.filter fun b =>
        (held ++ (a :: offers).take (i + 1)).any (key · == key b) == late) =
      offers[i]?.filter fun b => (held ++ [a] ++ offers.take i).any (key · == key b) == late := by
    rw [List.getElem?_cons_succ, List.take_succ_cons, List.append_assoc, List.singleton_append]
  rw [offersThat, List.length_cons, List.range_succ_eq_map, List.filterMap_cons,
    List.filterMap_map]
  simp only [Function.comp_def, Nat.succ_eq_add_one, hbehind, List.getElem?_cons_zero,
    List.take_zero, List.append_nil, Option.filter_some]
  rw [← offersThat]
  cases held.any (key · == key a) == late <;> rfl

/-- Which offers come late depends on the keys that are held, and on nothing else. -/
theorem offersThat_congr {held held' : List α}
    (h : ∀ k, held.any (key · == k) = held'.any (key · == k)) (late : Bool) (offers : List α) :
    offersThat key late held offers = offersThat key late held' offers := by
  simp only [offersThat, List.any_append, h]

/-- A first offer whose key is held comes late, and those behind it find the same keys held. -/
theorem offersThat_cons_of_taken {held : List α} {a : α}
    (htaken : held.any (key · == key a) = true) (late : Bool) (offers : List α) :
    offersThat key late held (a :: offers) =
      (if late then [a] else []) ++ offersThat key late held offers := by
  have hkeys (k : String) : (held ++ [a]).any (key · == k) = held.any (key · == k) := by
    rw [List.any_append, List.any_cons, List.any_nil, Bool.or_false]
    by_cases hk : key a = k
    · rw [← hk, htaken, Bool.true_or]
    · simp [hk]
  rw [offersThat_cons, htaken, offersThat_congr key hkeys]
  cases late <;> rfl

/-- A first offer whose key is free does not come late, and those behind it find its key held. -/
theorem offersThat_cons_of_free {held : List α} {a : α}
    (hfree : held.any (key · == key a) = false) (late : Bool) (offers : List α) :
    offersThat key late held (a :: offers) =
      (if late then [] else [a]) ++ offersThat key late (held ++ [a]) offers := by
  rw [offersThat_cons, hfree]
  cases late <;> rfl

/-- Where all keys are distinct, no offer comes late. -/
theorem offersThat_of_nodup {held offers : List α} (h : ((held ++ offers).map key).Nodup)
    (late : Bool) : offersThat key late held offers = if late then [] else offers := by
  induction offers generalizing held with
  | nil => cases late <;> rfl
  | cons a offers ih =>
    have hfree : held.any (key · == key a) = false := by
      rw [List.any_eq_false]
      intro b hb hk
      rw [List.map_append, List.map_cons] at h
      exact List.disjoint_of_nodup_append h (List.mem_map_of_mem hb)
        (by rw [beq_iff_eq.1 hk]; exact List.mem_cons_self)
    rw [List.append_cons] at h
    rw [offersThat_cons_of_free key hfree, ih h]
    cases late <;> rfl

/-- Every offer comes late or is new. -/
theorem length_offersThat (held offers : List α) :
    (offersThat key true held offers).length + (offersThat key false held offers).length =
      offers.length := by
  induction offers generalizing held with
  | nil => rfl
  | cons a offers ih =>
    have hrest := ih (held ++ [a])
    rw [offersThat_cons, offersThat_cons]
    cases held.any (key · == key a) <;> simp <;> omega

/-- All offers are new where none comes late. -/
theorem newcomers_eq_self_iff {held offers : List α} :
    newcomers key held offers = offers ↔ latecomers key held offers = [] := by
  rw [newcomers_eq, latecomers_eq]
  constructor
  · intro h
    have hlength := length_offersThat key held offers
    rw [h] at hlength
    exact List.length_eq_zero_iff.1 (by omega)
  · intro h
    induction offers generalizing held with
    | nil => rfl
    | cons a offers ih =>
      rw [offersThat_cons] at h ⊢
      obtain ⟨hfirst, hrest⟩ := List.append_eq_nil_iff.1 h
      rw [ih hrest]
      cases htaken : held.any (key · == key a) with
      | true => rw [htaken] at hfirst; cases hfirst
      | false => rfl

end Repetition

/-- Why a token cannot be defined: its kind is blank, or its pattern does not compile. -/
inductive TokenDescription.Fault (t : TokenDescription) : DefinitionError → Prop
  | blankKind (h : Text.isBlank t.kind = true) : Fault t .emptyName
  | badPattern {cause : Pattern.PatternError} (hkind : Text.isBlank t.kind = false)
    (h : Pattern.compile (Pattern.anchored t.pattern.toList) = .error cause) :
    Fault t (.invalidPattern t.kind cause)

/-- A token is at fault. -/
def TokenDescription.Faulty (t : TokenDescription) : Prop :=
  Text.isBlank t.kind = true ∨
    ∃ cause, Pattern.compile (Pattern.anchored t.pattern.toList) = .error cause

/-- The reason why the first of some tokens that is at fault cannot be defined. -/
def FirstFault (ts : List TokenDescription) (e : DefinitionError) : Prop :=
  ∃ before t after, ts = before ++ t :: after ∧ (∀ s ∈ before, ¬ s.Faulty) ∧ t.Fault e

namespace TokenMatcher

/-- The definition of a token fails for the reasons that there are, and for no other. -/
theorem ofDescription_eq_error_iff {t : TokenDescription} {e : DefinitionError} :
    ofDescription t = .error e ↔ t.Fault e := by
  rw [ofDescription, define]
  constructor
  · intro h
    split at h
    · next hkind =>
      split at h
      · cases h
      · next cause hcause => cases h; exact .badPattern hkind hcause
    · next hkind => cases h; exact .blankKind (by simpa using hkind)
  · intro h
    cases h with
    | blankKind hkind => rw [dif_neg (by simp [hkind])]
    | badPattern hkind hcause =>
      rw [dif_pos hkind]
      split
      · next regex hregex => rw [hcause] at hregex; cases hregex
      · next cause' hcause' => rw [hcause] at hcause'; cases hcause'; rfl

/-- A token is at fault where there is a reason why it cannot be defined. -/
theorem faulty_iff {t : TokenDescription} : t.Faulty ↔ ∃ e, t.Fault e := by
  constructor
  · rintro (hkind | ⟨cause, hcause⟩)
    · exact ⟨_, .blankKind hkind⟩
    · cases hkind : Text.isBlank t.kind with
      | true => exact ⟨_, .blankKind hkind⟩
      | false => exact ⟨_, .badPattern hkind hcause⟩
  · rintro ⟨e, h⟩
    cases h with
    | blankKind hkind => exact .inl hkind
    | badPattern hkind hcause => exact .inr ⟨_, hcause⟩

/-- A token that can be defined is not at fault. -/
theorem not_faulty_of_ofDescription {t : TokenDescription} {m : TokenMatcher}
    (h : ofDescription t = .ok m) : ¬ t.Faulty := by
  rw [faulty_iff]
  rintro ⟨e, he⟩
  rw [← ofDescription_eq_error_iff, h] at he
  cases he

/-- A token that is not at fault can be defined. -/
theorem exists_ofDescription {t : TokenDescription} (h : ¬ t.Faulty) :
    ∃ m, ofDescription t = .ok m := by
  cases hdef : ofDescription t with
  | ok m => exact ⟨m, rfl⟩
  | error e => exact absurd (faulty_iff.2 ⟨e, ofDescription_eq_error_iff.1 hdef⟩) h

/-- A token that is defined by a description is described by it. -/
theorem describe_of_ofDescription {t : TokenDescription} {m : TokenMatcher}
    (h : ofDescription t = .ok m) : m.describe = t := by
  rw [ofDescription, define] at h
  split at h
  · split at h
    · cases h; rfl
    · cases h
  · cases h

/-- Kind and pattern determine a token. -/
theorem describe_injective : Function.Injective describe := by
  intro m n h
  exact ext_of_kind_pattern (congrArg TokenDescription.kind h) (congrArg TokenDescription.pattern h)

end TokenMatcher

namespace TokenDescription

/-- Why a token cannot be defined, if it cannot. -/
def fault? (t : TokenDescription) : Option DefinitionError :=
  match TokenMatcher.ofDescription t with
  | .ok _ => none
  | .error e => some e

theorem fault?_eq_some_iff {t : TokenDescription} {e : DefinitionError} :
    t.fault? = some e ↔ t.Fault e := by
  rw [← TokenMatcher.ofDescription_eq_error_iff, fault?]
  cases TokenMatcher.ofDescription t <;> simp

theorem isSome_fault?_iff {t : TokenDescription} : t.fault?.isSome = true ↔ t.Faulty := by
  rw [TokenMatcher.faulty_iff, Option.isSome_iff_exists]
  exact exists_congr fun e => fault?_eq_some_iff

instance (t : TokenDescription) : Decidable t.Faulty :=
  decidable_of_iff (t.fault?.isSome = true) isSome_fault?_iff

end TokenDescription

/-- No token is no fault. -/
theorem firstFault_nil (e : DefinitionError) : FirstFault [] e ↔ False := by
  simp [FirstFault]

/-- The first fault is that of the first token, or else that of the others. -/
theorem firstFault_cons (t : TokenDescription) (ts : List TokenDescription) (e : DefinitionError) :
    FirstFault (t :: ts) e ↔ t.Fault e ∨ ¬ t.Faulty ∧ FirstFault ts e := by
  constructor
  · rintro ⟨_ | ⟨s, before⟩, u, after, hsplit, hbefore, hfault⟩
    · cases hsplit
      exact .inl hfault
    · cases hsplit
      obtain ⟨hs, hbefore⟩ := List.forall_mem_cons.1 hbefore
      exact .inr ⟨hs, before, u, after, rfl, hbefore, hfault⟩
  · rintro (hfault | ⟨hsound, before, u, after, rfl, hbefore, hfault⟩)
    · exact ⟨[], t, ts, rfl, fun s hs => absurd hs List.not_mem_nil, hfault⟩
    · exact ⟨t :: before, u, after, rfl, List.forall_mem_cons.2 ⟨hsound, hbefore⟩, hfault⟩

/-- There is a first fault where some token is at fault. -/
theorem exists_firstFault_iff {ts : List TokenDescription} :
    (∃ e, FirstFault ts e) ↔ ∃ t ∈ ts, t.Faulty := by
  induction ts with
  | nil => simp [firstFault_nil]
  | cons t ts ih =>
    simp only [firstFault_cons, exists_or, ← TokenMatcher.faulty_iff, exists_and_left, ih,
      List.exists_mem_cons_iff]
    by_cases ht : t.Faulty <;> simp [ht]

namespace Loading

/-- Loading fails with the fault of the first token that is at fault. -/
theorem result_eq_error_iff {g : Grammar} {ts : List TokenDescription} {e : DefinitionError} :
    (tokens g ts).result = .error e ↔ FirstFault ts e := by
  induction ts generalizing g with
  | nil =>
    rw [firstFault_nil]
    exact iff_of_false (fun h => nomatch h) id
  | cons t ts ih =>
    rw [firstFault_cons]
    cases hdef : TokenMatcher.ofDescription t with
    | error cause =>
      have hfault := TokenMatcher.ofDescription_eq_error_iff.1 hdef
      have hfaulty : t.Faulty := TokenMatcher.faulty_iff.2 ⟨cause, hfault⟩
      simp only [tokens, hdef, hfaulty, not_true, false_and, or_false, Except.error.injEq,
        ← TokenMatcher.ofDescription_eq_error_iff]
    | ok m =>
      have hsound := TokenMatcher.not_faulty_of_ofDescription hdef
      have hno : ¬ t.Fault e := fun h => hsound (TokenMatcher.faulty_iff.2 ⟨e, h⟩)
      cases hadd : g.addToken m <;>
        simp only [tokens, hdef, hadd, after, hsound, hno, not_false_eq_true, true_and, false_or, ih]

/-- Without a fault, loading adds the first token of each kind that the grammar does not have, and
passes over the others. -/
theorem tokens_of_sound (g : Grammar) {ts : List TokenDescription} (h : ∀ t ∈ ts, ¬ t.Faulty) :
    ∃ ms, tokens g ts = ⟨.ok { g with tokens := g.tokens ++ ms },
        (latecomers (·.kind) g.describe.tokens ts).map (.token ·.kind)⟩ ∧
      ms.map TokenMatcher.describe = newcomers (·.kind) g.describe.tokens ts := by
  induction ts generalizing g with
  | nil => exact ⟨[], by rw [tokens, List.append_nil]; rfl, rfl⟩
  | cons t ts ih =>
    obtain ⟨hsound, hrest⟩ := List.forall_mem_cons.1 h
    obtain ⟨m, hdef⟩ := TokenMatcher.exists_ofDescription hsound
    have ht := TokenMatcher.describe_of_ofDescription hdef
    have hkind : m.kind = t.kind := congrArg TokenDescription.kind ht
    have hkinds : g.describe.tokens.any (·.kind == t.kind) = g.tokens.any (·.kind == m.kind) := by
      rw [hkind]
      exact List.any_map
    cases htaken : g.tokens.any (·.kind == m.kind) with
    | true =>
      obtain ⟨ms, htokens, hms⟩ := ih g hrest
      refine ⟨ms, ?_, ?_⟩
      · simp only [tokens, hdef, Grammar.addToken, htaken, if_true, htokens, after]
        rw [latecomers_eq, latecomers_eq, offersThat_cons_of_taken _ (hkinds.trans htaken), hkind]
        rfl
      · rw [hms, newcomers_eq, newcomers_eq, offersThat_cons_of_taken _ (hkinds.trans htaken)]
        rfl
    | false =>
      obtain ⟨ms, htokens, hms⟩ := ih { g with tokens := g.tokens ++ [m] } hrest
      have hheld : ({ g with tokens := g.tokens ++ [m] } : Grammar).describe.tokens =
          g.describe.tokens ++ [t] := by
        simp [Grammar.describe, ht]
      rw [hheld] at htokens hms
      refine ⟨m :: ms, ?_, ?_⟩
      · simp only [tokens, hdef, Grammar.addToken, htaken, htokens, Bool.false_eq_true, if_false]
        rw [latecomers_eq, latecomers_eq, offersThat_cons_of_free _ (hkinds.trans htaken),
          List.append_assoc]
        rfl
      · rw [List.map_cons, ht, hms, newcomers_eq, newcomers_eq,
          offersThat_cons_of_free _ (hkinds.trans htaken)]
        rfl

end Loading

namespace Grammar

/-- The grammars that the operations of definition lead to from a beginning, by calls of which any
may be refused. -/
def Reachable (g : Grammar) : Prop :=
  ∃ (g₀ : Grammar) (es : List GrammarEdit), g₀.Initial ∧ g = g₀.editAll es

/-- A description without a fault is loaded as the first token of each kind. -/
theorem exists_ofDescription {d : GrammarDescription} (h : ∀ t ∈ d.tokens, ¬ t.Faulty) :
    ∃ g, ofDescription d = .ok g ∧ g.describe = ⟨d.name, newcomers (·.kind) [] d.tokens⟩ := by
  obtain ⟨ms, hload, hms⟩ := Loading.tokens_of_sound { name := d.name } h
  refine ⟨{ name := d.name, tokens := ms }, congrArg Loading.result hload, ?_⟩
  rw [describe, hms]
  rfl

/-- A description that is loaded has no fault, and what is loaded has the first token of each
kind. -/
theorem describe_of_ofDescription {d : GrammarDescription} {g : Grammar}
    (h : ofDescription d = .ok g) :
    (∀ t ∈ d.tokens, ¬ t.Faulty) ∧ g.describe = ⟨d.name, newcomers (·.kind) [] d.tokens⟩ := by
  have hsound : ∀ t ∈ d.tokens, ¬ t.Faulty := by
    intro t ht hfaulty
    obtain ⟨e, he⟩ := exists_firstFault_iff.2 ⟨t, ht, hfaulty⟩
    have herror : ofDescription d = .error e := Loading.result_eq_error_iff.2 he
    rw [h] at herror
    cases herror
  obtain ⟨g', hg', hdescribe⟩ := exists_ofDescription hsound
  cases h.symm.trans hg'
  exact ⟨hsound, hdescribe⟩

/-- The description of a reachable grammar is loaded whole. -/
theorem Reachable.load_describe {g : Grammar} (h : g.Reachable) :
    g.describe.load = ⟨.ok { name := g.name, tokens := g.tokens }, []⟩ := by
  obtain ⟨g₀, es, hstart, rfl⟩ := h
  have hnodup := (hstart.wellFormed.editAll es).kinds_nodup
  generalize g₀.editAll es = g at hnodup ⊢
  have hsound : ∀ t ∈ g.describe.tokens, ¬ t.Faulty := by
    intro t ht hfaulty
    obtain ⟨m, -, rfl⟩ := List.mem_map.1 ht
    exact TokenMatcher.not_faulty_of_ofDescription (TokenMatcher.ofDescription_describe m) hfaulty
  have hkinds : (([] ++ g.describe.tokens).map TokenDescription.kind).Nodup := by
    rw [List.nil_append, describe, List.map_map]
    exact hnodup
  obtain ⟨ms, hload, hms⟩ := Loading.tokens_of_sound { name := g.name } hsound
  change ms.map TokenMatcher.describe = newcomers (·.kind) [] g.describe.tokens at hms
  rw [newcomers_eq, offersThat_of_nodup _ hkinds] at hms
  change Loading.tokens { name := g.name } g.describe.tokens = _
  rw [hload, List.map_injective_iff.2 TokenMatcher.describe_injective hms]
  change Loading.mk _ ((latecomers (·.kind) [] g.describe.tokens).map _) = _
  rw [latecomers_eq, offersThat_of_nodup _ hkinds]
  rfl

/-- What a loaded grammar describes is loaded as the same description. -/
theorem exists_ofDescription_describe {d : GrammarDescription} {g : Grammar}
    (h : ofDescription d = .ok g) : ∃ g', ofDescription g.describe = .ok g' ∧
      g'.describe = g.describe := by
  have hreachable : g.Reachable := ⟨g, [], .loaded h, rfl⟩
  exact ⟨_, congrArg Loading.result hreachable.load_describe, rfl⟩

/-- A description is refused exactly for the first of its tokens that is at fault, and otherwise
loaded as the grammar of its name that has the first token of each kind and no rules, with a
warning for each of the others. What a loaded grammar describes is loaded as the same description.
A reachable grammar is loaded from its own description without warnings, and what is loaded has
its name and its tokens, and splits every text as it does. -/
theorem ofDescription_describes (d : GrammarDescription) :
    ((∃ e, ofDescription d = .error e) ↔ ∃ t ∈ d.tokens, t.Faulty) ∧
    (∀ e, ofDescription d = .error e ↔ FirstFault d.tokens e) ∧
    ((∀ t ∈ d.tokens, ¬ t.Faulty) → ∃ g, ofDescription d = .ok g ∧ g.name = d.name ∧
      g.rules = [] ∧ g.describe = ⟨d.name, newcomers (·.kind) [] d.tokens⟩ ∧
      d.loadLog = (latecomers (·.kind) [] d.tokens).map fun t =>
        .grammar .warn ("grammar `" ++ d.name ++ "`: " ++ (DuplicateError.token t.kind).message)) ∧
    (∀ g, ofDescription d = .ok g → ∃ g', ofDescription g.describe = .ok g' ∧
      g'.describe = g.describe) ∧
    ∀ g : Grammar, g.Reachable → g.describe.loadLog = [] ∧ ∃ g', ofDescription g.describe = .ok g' ∧
      g'.name = g.name ∧ g'.tokens = g.tokens ∧ ∀ text, g'.tokenize text = g.tokenize text := by
  have hreload {g : Grammar} (h : g.Reachable) :
      ofDescription g.describe = .ok { name := g.name, tokens := g.tokens } := by
    rw [ofDescription, h.load_describe]
  refine ⟨?_, fun e => Loading.result_eq_error_iff, ?_, ?_, ?_⟩
  · rw [← exists_firstFault_iff]
    exact exists_congr fun e => Loading.result_eq_error_iff
  · intro hsound
    obtain ⟨ms, hload, hms⟩ := Loading.tokens_of_sound { name := d.name } hsound
    refine ⟨{ name := d.name, tokens := ms }, congrArg Loading.result hload, rfl, rfl, ?_, ?_⟩
    · rw [describe, hms]
      rfl
    · rw [GrammarDescription.loadLog, GrammarDescription.load, hload, List.map_map]
      rfl
  · intro g hg
    exact ⟨_, hreload ⟨g, [], .loaded hg, rfl⟩, rfl⟩
  · intro g hg
    refine ⟨by rw [GrammarDescription.loadLog, hg.load_describe]; rfl, _, hreload hg, rfl, rfl, ?_⟩
    intro text
    rfl

end Grammar

end GrammarKit
