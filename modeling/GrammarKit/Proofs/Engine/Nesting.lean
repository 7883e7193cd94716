import GrammarKit.Proofs.Engine.Placement

/-!
# How the windows of a parse lie

A match at any depth is found by its address: the number of a match at the top, and at each level
below the number of a child. The address of an entry and that of its match are the same.

Windows are not empty. Those beside each other are in order and share no token, and a window keeps
its first and its last token from those inside of it. So two matches share a token only if the
address of the one continues that of the other.
-/

namespace GrammarKit

section Address

variable {α β : Type} {children : α → List α}

/-- What is reached from a root by the numbers of children. -/
def descend (children : α → List α) : α → List Nat → Option α
  | a, [] => some a
  | a, i :: path => (children a)[i]?.bind fun c => descend children c path

/-- What stands at an address: the number of a root, and a path from there. -/
def atAddress (children : α → List α) (roots : List α) : List Nat → Option α
  | [] => none
  | i :: path => roots[i]?.bind fun a => descend children a path

/-- Behind the first step of an address, the children of the root are the roots. -/
theorem atAddress_cons_cons (roots : List α) (i j : Nat) (path : List Nat) :
    atAddress children roots (i :: j :: path) =
      roots[i]?.bind fun a => atAddress children (children a) (j :: path) := rfl

/-- At an address of one step there is a root. -/
theorem atAddress_singleton (roots : List α) (i : Nat) :
    atAddress children roots [i] = roots[i]? := by
  rw [atAddress]
  cases roots[i]? <;> rfl

/-- The last step of an address leads to a child. -/
theorem atAddress_concat (roots : List α) (i : Nat) (path : List Nat) (j : Nat) :
    atAddress children roots (i :: path ++ [j]) =
      (atAddress children roots (i :: path)).bind fun a => (children a)[j]? := by
  induction path generalizing roots i with
  | nil =>
    rw [List.singleton_append, atAddress_cons_cons, atAddress_singleton]
    simp only [atAddress_singleton]
  | cons k path ih =>
    rw [List.cons_append, List.cons_append, atAddress_cons_cons, atAddress_cons_cons,
      Option.bind_assoc]
    exact Option.bind_congr fun a _ => ih (children a) k

/-- What respects children respects addresses. -/
theorem atAddress_map {children' : β → List β} {f : α → β}
    (h : ∀ a, children' (f a) = (children a).map f) (roots : List α) (path : List Nat) :
    atAddress children' (roots.map f) path = (atAddress children roots path).map f := by
  have hdescend (path : List Nat) (a : α) :
      descend children' (f a) path = (descend children a path).map f := by
    induction path generalizing a with
    | nil => rfl
    | cons i path ih =>
      rw [descend, descend, h, List.getElem?_map]
      cases (children a)[i]? with
      | none => rfl
      | some c => exact ih c
  cases path with
  | nil => rfl
  | cons i path =>
    rw [atAddress, atAddress, List.getElem?_map]
    cases roots[i]? with
    | none => rfl
    | some a => exact hdescend path a

end Address

/-- Tokens of two stretches, the first of which ends where the second starts or before, are in the
relation in which tokens in this order are. -/
theorem rel_of_mem_stretch {tokens : List Token} {R : Token → Token → Prop}
    (h : tokens.Pairwise R) {start stop start' stop' : Nat} (hle : stop ≤ start') {t u : Token}
    (ht : t ∈ stretch tokens start stop) (hu : u ∈ stretch tokens start' stop') : R t u := by
  have htake : t ∈ tokens.take stop := List.mem_of_mem_drop ht
  have hdrop : u ∈ tokens.drop stop := by
    rw [stretch, List.drop_take] at hu
    have := List.mem_of_mem_take hu
    rw [show start' = stop + (start' - stop) by omega, ← List.drop_drop] at this
    exact List.mem_of_mem_drop this
  rw [← List.take_append_drop stop tokens] at h
  exact (List.pairwise_append.1 h).2.2 t htake u hdrop

namespace Placement

variable {rules : List Rule} {tokens : List Token} {lo hi : Nat} {ps : List Placement}
  {p q : Placement}

/-- The entries of some matches are made one by one. -/
theorem entries_eq_map (tokens : List Token) (ps : List Placement) :
    entries tokens ps = ps.map (entry tokens) := by
  induction ps with
  | nil => rfl
  | cons p ps ih => rw [entries, ih, List.map_cons]

/-- The result of an entry is that of the rule on the window. -/
theorem result_entry (tokens : List Token) (p : Placement) :
    (p.entry tokens).result = p.rule.resultOn (p.window tokens) := by
  obtain ⟨r, start, length, sub⟩ := p
  rw [entry_mk]
  rfl

/-- The children of an entry are those of the matches inside. -/
theorem children_entry (tokens : List Token) (p : Placement) :
    (p.entry tokens).children = p.children.map (entry tokens) := by
  obtain ⟨r, start, length, sub⟩ := p
  rw [entry_mk]
  cases sub with
  | none => rfl
  | some ps => exact entries_eq_map tokens ps

/-- The address of an entry is that of its match. -/
theorem atAddress_entries (tokens : List Token) (ps : List Placement) (path : List Nat) :
    atAddress ParseEntry.children (entries tokens ps) path =
      (atAddress children ps path).map (entry tokens) := by
  rw [entries_eq_map, atAddress_map (children_entry tokens)]

/-- The match is one on the tokens from its start up to a place, and the matches inside of it fit
between the first and the last token of its window. -/
structure MatchesUpTo (rules : List Rule) (tokens : List Token) (hi : Nat) (p : Placement) :
    Prop where
  rule_mem : p.rule ∈ rules
  test_eq : p.rule.test (stretch tokens p.start hi) =
    some ⟨p.length, p.rule.resultOn (p.window tokens)⟩
  inside : Fits rules tokens (p.start + 1) (p.stop - 1) p.children

/-- The window of a match is not empty and ends where the tokens do, at the latest. -/
theorem MatchesUpTo.bounds (h : MatchesUpTo rules tokens hi p) (hhi : hi ≤ tokens.length) :
    0 < p.length ∧ p.stop ≤ hi :=
  ⟨(Rule.test_bounds h.test_eq).1, Engine.add_length_le_of_test hhi rfl h.test_eq⟩

/-- Each of the matches that fit is one on the tokens up to their end. -/
theorem Fits.matchesUpTo (h : Fits rules tokens lo hi ps) (hhi : hi ≤ tokens.length) (hp : p ∈ ps) :
    lo ≤ p.start ∧ MatchesUpTo rules tokens hi p := by
  induction h with
  | nil => cases hp
  | @cons lo hi start r found sub ps hrule hle htest hsub hrest _ ih =>
    cases hp with
    | head =>
      refine ⟨hle, hrule, ?_, ?_⟩
      · have hwindow : window tokens (.mk r start found.length sub) =
            (stretch tokens start hi).take found.length :=
          Engine.stretch_eq_take_of_test hhi rfl htest
        rw [hwindow]
        exact htest.trans (congrArg some (congrArg (RuleMatch.mk found.length)
          (Rule.test_eq_some_iff.1 htest).2))
      · cases hcase : sub with
        | none => exact .nil
        | some inner => exact hsub inner hcase
    | tail _ hp =>
      obtain ⟨hstart, hmatches⟩ := ih hhi hp
      exact ⟨by omega, hmatches⟩

/-- The windows of matches that fit are in order and share no token. -/
theorem Fits.pairwise (h : Fits rules tokens lo hi ps) (hhi : hi ≤ tokens.length) :
    ps.Pairwise fun p q => p.stop ≤ q.start := by
  induction h with
  | nil => exact List.Pairwise.nil
  | cons hrule hle htest hsub hrest _ ih =>
    exact List.Pairwise.cons (fun q hq => (hrest.matchesUpTo hhi hq).1) (ih hhi)

/-- The earlier of two matches that fit ends where the later starts, or before. -/
theorem Fits.stop_le_start (h : Fits rules tokens lo hi ps) (hhi : hi ≤ tokens.length) {i j : Nat}
    (hij : i < j) (hp : ps[i]? = some p) (hq : ps[j]? = some q) : p.stop ≤ q.start := by
  obtain ⟨hi', rfl⟩ := List.getElem?_eq_some_iff.1 hp
  obtain ⟨hj', rfl⟩ := List.getElem?_eq_some_iff.1 hq
  exact List.pairwise_iff_getElem.1 (h.pairwise hhi) i j hi' hj' hij

/-- A match at any address is one on the tokens up to some place, and its window lies in that of the
root. -/
theorem MatchesUpTo.of_descend {path : List Nat} (h : MatchesUpTo rules tokens hi p)
    (hhi : hi ≤ tokens.length) (hq : descend children p path = some q) :
    ∃ hi' ≤ hi, MatchesUpTo rules tokens hi' q ∧ p.start ≤ q.start ∧ q.stop ≤ p.stop := by
  induction path generalizing p hi with
  | nil =>
    cases hq
    exact ⟨hi, Nat.le_refl hi, h, Nat.le_refl _, Nat.le_refl _⟩
  | cons i path ih =>
    obtain ⟨c, hc, hq⟩ := Option.bind_eq_some_iff.1 hq
    have hstop := (h.bounds hhi).2
    obtain ⟨hstart, hmatches⟩ := h.inside.matchesUpTo (by omega) (List.mem_of_getElem? hc)
    have hcstop := (hmatches.bounds (by omega)).2
    obtain ⟨hi', hle, hmatches', hle', hle''⟩ := ih hmatches (by omega) hq
    exact ⟨hi', by omega, hmatches', by omega, by omega⟩

/-- A match at any address is one on the tokens up to some place. -/
theorem Fits.matchesUpTo_of_atAddress {path : List Nat} (h : Fits rules tokens lo hi ps)
    (hhi : hi ≤ tokens.length) (hp : atAddress children ps path = some p) :
    ∃ hi' ≤ hi, MatchesUpTo rules tokens hi' p := by
  cases path with
  | nil => cases hp
  | cons i path =>
    obtain ⟨a, ha, hp⟩ := Option.bind_eq_some_iff.1 hp
    obtain ⟨hi', hle, hmatches, -⟩ :=
      (h.matchesUpTo hhi (List.mem_of_getElem? ha)).2.of_descend hhi hp
    exact ⟨hi', hle, hmatches⟩

/-- Beside each other, the earlier match ends where the later starts, or before. -/
theorem Fits.stop_le_start_of_atAddress {path : List Nat} {i j : Nat}
    (h : Fits rules tokens lo hi ps) (hhi : hi ≤ tokens.length) (hij : i < j)
    (hp : atAddress children ps (path ++ [i]) = some p)
    (hq : atAddress children ps (path ++ [j]) = some q) : p.stop ≤ q.start := by
  cases path with
  | nil =>
    rw [List.nil_append, atAddress_singleton] at hp hq
    exact h.stop_le_start hhi hij hp hq
  | cons k path =>
    rw [atAddress_concat] at hp hq
    obtain ⟨a, ha, hp⟩ := Option.bind_eq_some_iff.1 hp
    rw [ha, Option.bind_some] at hq
    obtain ⟨hi', hle, hmatches⟩ := h.matchesUpTo_of_atAddress hhi ha
    have hstop := (hmatches.bounds (by omega)).2
    exact hmatches.inside.stop_le_start (by omega) hij hp hq

/-- A window keeps its first and its last token from those of its children. -/
theorem Fits.lt_of_atAddress {path : List Nat} {i : Nat} (h : Fits rules tokens lo hi ps)
    (hhi : hi ≤ tokens.length) (hp : atAddress children ps path = some p)
    (hq : atAddress children ps (path ++ [i]) = some q) : p.start < q.start ∧ q.stop < p.stop := by
  cases path with
  | nil => cases hp
  | cons k path =>
    rw [atAddress_concat, hp, Option.bind_some] at hq
    obtain ⟨hi', hle, hmatches⟩ := h.matchesUpTo_of_atAddress hhi hp
    have hbounds := hmatches.bounds (by omega)
    obtain ⟨hstart, hchild⟩ := hmatches.inside.matchesUpTo (by omega) (List.mem_of_getElem? hq)
    have hchildBounds := hchild.bounds (by omega)
    have hpos : 0 < p.stop := Nat.lt_of_lt_of_le hbounds.1 (Nat.le_add_left _ _)
    omega

/-- The token at a place belongs to a window. -/
def Claims (p : Placement) (k : Nat) : Prop := p.start ≤ k ∧ k < p.stop

/-- Two matches that share a token stand at addresses of which one continues the other. -/
theorem Fits.isPrefix_of_claims {path path' : List Nat} {k : Nat} (h : Fits rules tokens lo hi ps)
    (hhi : hi ≤ tokens.length) (hp : atAddress children ps path = some p)
    (hq : atAddress children ps path' = some q) (hpk : p.Claims k) (hqk : q.Claims k) :
    path <+: path' ∨ path' <+: path := by
  induction path generalizing path' ps lo hi with
  | nil => exact .inl List.nil_prefix
  | cons i path ih =>
    cases path' with
    | nil => exact .inr List.nil_prefix
    | cons j path' =>
      obtain ⟨a, ha, hp⟩ := Option.bind_eq_some_iff.1 hp
      obtain ⟨b, hb, hq⟩ := Option.bind_eq_some_iff.1 hq
      obtain ⟨-, ha'⟩ := h.matchesUpTo hhi (List.mem_of_getElem? ha)
      obtain ⟨-, hb'⟩ := h.matchesUpTo hhi (List.mem_of_getElem? hb)
      obtain ⟨-, -, -, hpa⟩ := ha'.of_descend hhi hp
      obtain ⟨-, -, -, hqb⟩ := hb'.of_descend hhi hq
      have hclaims : a.Claims k ∧ b.Claims k := by
        unfold Claims at *
        omega
      rcases Nat.lt_trichotomy i j with hij | rfl | hij
      · have := h.stop_le_start hhi hij ha hb
        unfold Claims at hclaims
        omega
      · -- Below the same root the search goes on with its children, until one address ends.
        cases ha.symm.trans hb
        cases path with
        | nil => exact .inl (List.prefix_append [i] path')
        | cons i' path =>
          cases path' with
          | nil => exact .inr (List.prefix_append [i] (i' :: path))
          | cons j' path' =>
            have hbounds := ha'.bounds hhi
            have hrest : i' :: path <+: j' :: path' ∨ j' :: path' <+: i' :: path :=
              ih ha'.inside (by omega) hp hq
            exact hrest.imp (List.prefix_cons_inj i).2 (List.prefix_cons_inj i).2
      · have := h.stop_le_start hhi hij hb ha
        unfold Claims at hclaims
        omega

end Placement

end GrammarKit
