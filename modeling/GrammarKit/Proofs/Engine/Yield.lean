import GrammarKit.Proofs.Engine.Pass

/-!
# What a parse yields

The entries of a parse, described without passes. After an entry the rules behind its own come
first, at the place where it ended; only when none of them matches there does the search begin
anew, with all rules, and go to the nearest place at which one matches. The inside of a window is
parsed from its beginning where the rule asks for it.

`Next` states this order of priority and `Yields` follows it from entry to entry. A pass of the
engine is somewhere on the way to the next entry, and `PassAt` says what it knows by then; from
this the entries of a run are exactly those that the relation allows.
-/

namespace GrammarKit.Engine

variable {rules : List Rule} {tokens : List Token}

/-- The rule with the index `j` matches the tokens from the place `p` on. -/
def MatchesAt (rules : List Rule) (tokens : List Token) (j p : Nat) : Prop :=
  ∃ r, rules[j]? = some r ∧ (r.test (tokens.drop p)).isSome

/-- The next entry comes from the rule `j` and begins at the place `q`, when the last one came
from the rule `last` and ended at the place `p`; a parse begins without a last entry. -/
inductive Next (rules : List Rule) (tokens : List Token) (last : Option Nat) (p : Nat) :
    Nat → Nat → Prop where
  /-- The first of the rules behind the last one that match at its end. -/
  | later {l j : Nat} (hlast : last = some l) (hlater : l < j) (hmatch : MatchesAt rules tokens j p)
      (hfirst : ∀ k, l < k → k < j → ¬ MatchesAt rules tokens k p) : Next rules tokens last p j p
  /-- If there is none, the first of all rules that match at the nearest place where any does. -/
  | anew {j q : Nat} (hnone : ∀ l, last = some l → ∀ k, l < k → ¬ MatchesAt rules tokens k p)
      (hle : p ≤ q) (hmatch : MatchesAt rules tokens j q)
      (hnearest : ∀ q', p ≤ q' → q' < q → ∀ k, ¬ MatchesAt rules tokens k q')
      (hfirst : ∀ k, k < j → ¬ MatchesAt rules tokens k q) : Next rules tokens last p j q

/-- The next entry with its rule and the window that the rule takes. -/
structure NextEntry (rules : List Rule) (tokens : List Token) (last : Option Nat) (p j q : Nat)
    (r : Rule) (window : List Token) : Prop where
  next : Next rules tokens last p j q
  rule_eq : rules[j]? = some r
  window_eq : ∃ found, r.test (tokens.drop q) = some found ∧
    window = (tokens.drop q).take found.length

/-- The inside of a window is what stands between its first and its last token, if anything
does. -/
def Inside (window inner : List Token) : Prop :=
  inner ≠ [] ∧ ∃ first last, window = first :: (inner ++ [last])

/-- The entries that follow a last entry, each with what is yielded inside of it. -/
inductive Yields (rules : List Rule) :
    List Token → Option Nat → Nat → List ParseEntry → Prop where
  /-- No entry comes next. -/
  | done {tokens : List Token} {last : Option Nat} {p : Nat}
      (hdone : ∀ j q, ¬ Next rules tokens last p j q) : Yields rules tokens last p []
  /-- The rule of the next entry does not ask for the inside, or there is none. -/
  | leaf {tokens window : List Token} {last : Option Nat} {p j q : Nat} {r : Rule}
      {rest : List ParseEntry} (hentry : NextEntry rules tokens last p j q r window)
      (hleaf : r.hasSubRules = false ∨ ∀ inner, ¬ Inside window inner)
      (hrest : Yields rules tokens (some j) (q + window.length) rest) :
      Yields rules tokens last p (.mk r.name (r.resultOn window) none :: rest)
  /-- The inside of the window yields entries of its own. -/
  | nested {tokens window inner : List Token} {last : Option Nat} {p j q : Nat} {r : Rule}
      {sub rest : List ParseEntry} (hentry : NextEntry rules tokens last p j q r window)
      (hasks : r.hasSubRules = true) (hinside : Inside window inner)
      (hsub : Yields rules inner none 0 sub)
      (hrest : Yields rules tokens (some j) (q + window.length) rest) :
      Yields rules tokens last p (.mk r.name (r.resultOn window) (some sub) :: rest)

/-- What may stand under an entry: nothing if its rule does not ask for the inside of the window
or there is none, and otherwise what the inside yields. -/
def YieldsInside (rules : List Rule) (r : Rule) (window : List Token) :
    Option (List ParseEntry) → Prop
  | none => r.hasSubRules = false ∨ ∀ inner, ¬ Inside window inner
  | some sub => r.hasSubRules = true ∧ ∃ inner, Inside window inner ∧ Yields rules inner none 0 sub

/-- The engine finds the inside of a window. -/
theorem interior_eq_some_iff {window inner : List Token} :
    interior window = some inner ↔ Inside window inner := by
  constructor
  · intro h
    have hlen := length_of_interior h
    match window, hlen with
    | first :: second :: rest, _ =>
      have hne : second :: rest ≠ [] := List.cons_ne_nil _ _
      have hinner : (second :: rest).dropLast = inner ∧ inner ≠ [] := by
        simp only [interior, List.tail_cons] at h
        split at h
        · cases h
        · next heq => cases h; exact ⟨heq, List.cons_ne_nil _ _⟩
      refine ⟨hinner.2, first, (second :: rest).getLast hne, ?_⟩
      rw [← hinner.1, List.dropLast_concat_getLast]
  · rintro ⟨hne, first, last, rfl⟩
    have htail : (first :: (inner ++ [last])).tail.dropLast = inner := by simp
    cases inner with
    | nil => exact absurd rfl hne
    | cons t ts => simp only [interior, htail]

/-- Windows have at most one inside. -/
theorem Inside.unique {window inner inner' : List Token} (h : Inside window inner)
    (h' : Inside window inner') : inner = inner' :=
  Option.some.inj ((interior_eq_some_iff.2 h).symm.trans (interior_eq_some_iff.2 h'))

/-- Rules match only where tokens are left. -/
theorem MatchesAt.lt_length {j p : Nat} (h : MatchesAt rules tokens j p) : p < tokens.length := by
  obtain ⟨r, -, htest⟩ := h
  obtain ⟨found, hfound⟩ := Option.isSome_iff_exists.1 htest
  have hbounds := Rule.test_bounds hfound
  rw [List.length_drop] at hbounds
  omega

/-- Only rules of the list match. -/
theorem MatchesAt.lt_rules {j p : Nat} (h : MatchesAt rules tokens j p) : j < rules.length := by
  obtain ⟨r, hr, -⟩ := h
  exact (List.getElem?_eq_some_iff.1 hr).1

/-- The first of the rules that are left is the one with their index. -/
theorem getElem?_of_drop_eq_cons {r : Rule} {rs : List Rule} {i : Nat}
    (h : rules.drop i = r :: rs) : rules[i]? = some r ∧ rules.drop (i + 1) = rs :=
  ⟨by rw [← List.head?_drop, h, List.head?_cons], by rw [← List.tail_drop, h, List.tail_cons]⟩

/-- Two numbers that are both the least with a property are the same. -/
private theorem eq_of_least {P : Nat → Prop} {j j' : Nat} (hj : P j) (hj' : P j')
    (hleast : ∀ k, k < j → ¬ P k) (hleast' : ∀ k, k < j' → ¬ P k) : j = j' := by
  rcases Nat.lt_trichotomy j j' with hlt | heq | hgt
  · exact absurd hj (hleast' j hlt)
  · exact heq
  · exact absurd hj' (hleast j' hgt)

/-- There is at most one rule and one place for the next entry. -/
theorem Next.unique {last : Option Nat} {p j q j' q' : Nat} (h : Next rules tokens last p j q)
    (h' : Next rules tokens last p j' q') : j = j' ∧ q = q' := by
  cases h with
  | @later l j hlast hlater hmatch hfirst =>
    cases h' with
    | later hlast' hlater' hmatch' hfirst' =>
      cases hlast.symm.trans hlast'
      exact ⟨eq_of_least (P := fun k => l < k ∧ MatchesAt rules tokens k p) ⟨hlater, hmatch⟩
        ⟨hlater', hmatch'⟩ (fun k hk h => hfirst k h.1 hk h.2) (fun k hk h => hfirst' k h.1 hk h.2), rfl⟩
    | anew hnone' => exact absurd hmatch (hnone' _ hlast _ hlater)
  | anew hnone hle hmatch hnearest hfirst =>
    cases h' with
    | later hlast' hlater' hmatch' => exact absurd hmatch' (hnone _ hlast' _ hlater')
    | anew hnone' hle' hmatch' hnearest' hfirst' =>
      have hplace : q = q' :=
        eq_of_least (P := fun q => p ≤ q ∧ ∃ k, MatchesAt rules tokens k q) ⟨hle, j, hmatch⟩
          ⟨hle', j', hmatch'⟩ (fun q'' hq ⟨hle, k, hk⟩ => hnearest q'' hle hq k hk)
          (fun q'' hq ⟨hle, k, hk⟩ => hnearest' q'' hle hq k hk)
      subst hplace
      exact ⟨eq_of_least hmatch hmatch' hfirst hfirst', rfl⟩

/-- The next entry has one rule and one window. -/
theorem NextEntry.unique {last : Option Nat} {p j q j' q' : Nat} {r r' : Rule}
    {window window' : List Token} (h : NextEntry rules tokens last p j q r window)
    (h' : NextEntry rules tokens last p j' q' r' window') :
    j = j' ∧ q = q' ∧ r = r' ∧ window = window' := by
  obtain ⟨rfl, rfl⟩ := h.next.unique h'.next
  cases h.rule_eq.symm.trans h'.rule_eq
  obtain ⟨found, hfound, rfl⟩ := h.window_eq
  obtain ⟨found', hfound', rfl⟩ := h'.window_eq
  cases hfound.symm.trans hfound'
  exact ⟨rfl, rfl, rfl, rfl⟩

/-- Where no entry comes next, nothing is yielded. -/
theorem yields_iff_of_no_next {last : Option Nat} {p : Nat} {es : List ParseEntry}
    (hdone : ∀ j q, ¬ Next rules tokens last p j q) : Yields rules tokens last p es ↔ es = [] := by
  constructor
  · intro h
    cases h with
    | done => rfl
    | leaf hentry => exact absurd hentry.next (hdone _ _)
    | nested hentry => exact absurd hentry.next (hdone _ _)
  · rintro rfl
    exact .done hdone

/-- Where an entry comes next, it is yielded with what its inside yields, and then what follows
it. -/
theorem yields_iff_of_nextEntry {last : Option Nat} {p j q : Nat} {r : Rule}
    {window : List Token} {es : List ParseEntry}
    (hentry : NextEntry rules tokens last p j q r window) :
    Yields rules tokens last p es ↔ ∃ sub rest,
      es = .mk r.name (r.resultOn window) sub :: rest ∧ YieldsInside rules r window sub ∧
        Yields rules tokens (some j) (q + window.length) rest := by
  constructor
  · intro h
    cases h with
    | done hdone => exact absurd hentry.next (hdone _ _)
    | leaf hentry' hleaf hrest =>
      obtain ⟨rfl, rfl, rfl, rfl⟩ := hentry'.unique hentry
      exact ⟨none, _, rfl, hleaf, hrest⟩
    | nested hentry' hasks hinside hsub hrest =>
      obtain ⟨rfl, rfl, rfl, rfl⟩ := hentry'.unique hentry
      exact ⟨some _, _, rfl, ⟨hasks, _, hinside, hsub⟩, hrest⟩
  · rintro ⟨sub, rest, rfl, hsub, hrest⟩
    cases sub with
    | none => exact .leaf hentry hsub hrest
    | some sub =>
      obtain ⟨hasks, inner, hinside, hyields⟩ := hsub
      exact .nested hentry hasks hinside hyields hrest

/-- What a pass knows when its next rule is the one with the index `i` and its place is `q`: how
far the way from the last entry to the next one has been searched. -/
inductive PassAt (rules : List Rule) (tokens : List Token) (last : Option Nat) (p : Nat) :
    Bool → Nat → Nat → Prop where
  /-- The last entry was made in this pass, and none of the rules since then matches at its end. -/
  | going {l i : Nat} (hlast : last = some l) (hlater : l < i)
      (hfirst : ∀ k, l < k → k < i → ¬ MatchesAt rules tokens k p) :
      PassAt rules tokens last p true i p
  /-- The search has begun anew, and neither does any rule match before the place of the pass nor
  one of those that have been tried there. -/
  | searching {i q : Nat} (hnone : ∀ l, last = some l → ∀ k, l < k → ¬ MatchesAt rules tokens k p)
      (hle : p ≤ q) (hnearest : ∀ q', p ≤ q' → q' < q → ∀ k, ¬ MatchesAt rules tokens k q')
      (hfirst : ∀ k, k < i → ¬ MatchesAt rules tokens k q) :
      PassAt rules tokens last p false i q

namespace PassAt

variable {last : Option Nat} {p i q : Nat} {matched : Bool}

/-- A parse begins with nothing searched. -/
theorem start (rules : List Rule) (tokens : List Token) : PassAt rules tokens none 0 false 0 0 :=
  .searching (fun _ hl => nomatch hl) (Nat.le_refl 0)
    (fun q' _ hq' => absurd hq' (Nat.not_lt_zero q')) (fun k hk => absurd hk (Nat.not_lt_zero k))

/-- After an entry the pass goes on with the rule behind it. -/
theorem after (rules : List Rule) (tokens : List Token) (i p : Nat) :
    PassAt rules tokens (some i) p true (i + 1) p :=
  .going rfl (Nat.lt_succ_self i) fun _ hlt hle => absurd hlt (Nat.not_lt.2 (Nat.le_of_lt_succ hle))

/-- A rule that does not match is passed over. -/
theorem pass (h : PassAt rules tokens last p matched i q) (hmiss : ¬ MatchesAt rules tokens i q) :
    PassAt rules tokens last p matched (i + 1) q := by
  cases h with
  | going hlast hlater hfirst =>
    refine .going hlast (Nat.lt_succ_of_lt hlater) fun k hlt hle => ?_
    rcases Nat.lt_succ_iff_lt_or_eq.1 hle with hk | rfl
    · exact hfirst k hlt hk
    · exact hmiss
  | searching hnone hle hnearest hfirst =>
    refine .searching hnone hle hnearest fun k hk => ?_
    rcases Nat.lt_succ_iff_lt_or_eq.1 hk with hk | rfl
    · exact hfirst k hk
    · exact hmiss

/-- A rule that matches makes the next entry. -/
theorem next (h : PassAt rules tokens last p matched i q) (hmatch : MatchesAt rules tokens i q) :
    Next rules tokens last p i q := by
  cases h with
  | going hlast hlater hfirst => exact .later hlast hlater hmatch hfirst
  | searching hnone hle hnearest hfirst => exact .anew hnone hle hmatch hnearest hfirst

/-- When a pass that made an entry is over, the search begins anew where the entry ended. -/
theorem again (h : PassAt rules tokens last p true i q) (hover : rules.length ≤ i) :
    PassAt rules tokens last p false 0 q := by
  cases h with
  | going hlast hlater hfirst =>
    refine .searching (fun l hl k hlt hmatch => ?_) (Nat.le_refl p)
      (fun q' hle hlt => absurd hle (Nat.not_le.2 hlt)) (fun k hk => absurd hk (Nat.not_lt_zero k))
    cases hlast.symm.trans hl
    exact hfirst k hlt (Nat.lt_of_lt_of_le hmatch.lt_rules hover) hmatch

/-- When a pass without an entry is over, no rule matches at its place, and the search goes on at
the next one. -/
theorem skip (h : PassAt rules tokens last p false i q) (hover : rules.length ≤ i) :
    PassAt rules tokens last p false 0 (q + 1) := by
  cases h with
  | searching hnone hle hnearest hfirst =>
    refine .searching hnone (Nat.le_succ_of_le hle) (fun q' hle' hlt k hmatch => ?_)
      (fun k hk => absurd hk (Nat.not_lt_zero k))
    rcases Nat.lt_succ_iff_lt_or_eq.1 hlt with hq | rfl
    · exact hnearest q' hle' hq k hmatch
    · exact hfirst k (Nat.lt_of_lt_of_le hmatch.lt_rules hover) hmatch

/-- At the end of the tokens no entry comes next. -/
theorem not_next (h : PassAt rules tokens last p matched i q) (hend : tokens.length ≤ q) (j q' : Nat) :
    ¬ Next rules tokens last p j q' := by
  intro hnext
  cases h with
  | going hlast hlater hfirst =>
    cases hnext with
    | later _ _ hmatch => exact absurd hmatch.lt_length (Nat.not_lt.2 hend)
    | anew _ hle hmatch => exact absurd hmatch.lt_length (Nat.not_lt.2 (Nat.le_trans hend hle))
  | searching hnone hle hnearest hfirst =>
    cases hnext with
    | later hlast hlater hmatch => exact hnone _ hlast _ hlater hmatch
    | anew _ hle' hmatch =>
      exact hnearest _ hle' (Nat.lt_of_lt_of_le hmatch.lt_length hend) _ hmatch

end PassAt

/-- If the inside of a window yields what its parse is, then that is what stands under an entry. -/
theorem yieldsInside_iff {r : Rule} {window : List Token} {sub : Option (List ParseEntry)}
    (hparse : ∀ inner, interior window = some inner →
      ∀ es, Yields rules inner none 0 es ↔ es = parse rules inner) :
    YieldsInside rules r window sub ↔ sub = entriesInside rules r window := by
  unfold entriesInside
  cases hasks : r.hasSubRules with
  | false => cases sub <;> simp [YieldsInside, hasks]
  | true =>
    cases hinterior : interior window with
    | none =>
      have hnone : ∀ inner, ¬ Inside window inner := by
        intro inner hinside
        rw [interior_eq_some_iff.2 hinside] at hinterior
        cases hinterior
      cases sub <;> simp [YieldsInside, hnone]
    | some inner =>
      have hinside : Inside window inner := interior_eq_some_iff.1 hinterior
      cases sub with
      | none =>
        have hno : ¬ YieldsInside rules r window none := by
          rintro (hfalse | hnone)
          · rw [hasks] at hfalse
            cases hfalse
          · exact hnone inner hinside
        simp [hno]
      | some es =>
        have hiff : (∃ inner', Inside window inner' ∧ Yields rules inner' none 0 es) ↔
            es = parse rules inner := by
          rw [← hparse inner hinterior es]
          constructor
          · rintro ⟨inner', hinside', hyields⟩
            rwa [← hinside'.unique hinside]
          · exact fun hyields => ⟨inner, hinside, hyields⟩
        simp [YieldsInside, hasks, hiff]

/-- From wherever a pass is, the run makes exactly the entries that are yielded behind the last
one. -/
theorem yields_iff_runFrom {pending : List Rule} {matched : Bool} {place : Nat} {ts : List Token}
    {last : Option Nat} {p i : Nat} {es : List ParseEntry} (hts : tokens.drop place = ts)
    (hpending : rules.drop i = pending) (hpass : PassAt rules tokens last p matched i place) :
    Yields rules tokens last p es ↔ es = (runFrom rules pending matched place ts).entries := by
  induction pending, matched, place, ts using runFrom.induct rules generalizing tokens last p i es with
  | case1 pending matched place =>
    rw [entries_runFrom_nil]
    exact yields_iff_of_no_next (hpass.not_next (List.drop_eq_nil_iff.1 hts))
  | case2 place t ts ih =>
    rw [entries_runFrom_again]
    exact ih hts rfl (hpass.again (List.drop_eq_nil_iff.1 hpending))
  | case3 matched place t ts hmatched ih =>
    cases matched with
    | true => exact absurd rfl hmatched
    | false =>
      have hrest : tokens.drop (place + 1) = ts := by
        rw [← List.tail_drop, hts, List.tail_cons]
      rw [entries_runFrom_skip]
      exact ih hrest rfl (hpass.skip (List.drop_eq_nil_iff.1 hpending))
  | case4 matched place t ts r rs htest ih =>
    obtain ⟨hrule, hrest⟩ := getElem?_of_drop_eq_cons hpending
    rw [entries_runFrom_pass htest]
    refine ih hts hrest (hpass.pass ?_)
    rintro ⟨r', hr', hmatch⟩
    cases hrule.symm.trans hr'
    rw [hts, htest] at hmatch
    cases hmatch
  | case5 matched place t ts r rs found htest _ window hshorter ihinner =>
    rename_i ih
    obtain ⟨hrule, hrest⟩ := getElem?_of_drop_eq_cons hpending
    have hentry : NextEntry rules tokens last p i place r window :=
      ⟨hpass.next ⟨r, hrule, by rw [hts, htest]; rfl⟩, hrule, found, by rw [hts, htest], by rw [hts]⟩
    have hbehind : tokens.drop (place + found.length) = (t :: ts).drop found.length := by
      rw [← List.drop_drop, hts]
    have hafter : ∀ rest, Yields rules tokens (some i) (place + window.length) rest ↔
        rest = (runFrom rules rs true (place + found.length) ((t :: ts).drop found.length)).entries := by
      intro rest
      rw [Rule.length_take_of_test htest]
      exact ih hbehind hrest (PassAt.after rules tokens i _)
    have hsub : ∀ sub, YieldsInside rules r window sub ↔ sub = entriesInside rules r window :=
      fun sub => yieldsInside_iff fun inner hinterior es =>
        ihinner inner hinterior rfl rfl (PassAt.start rules inner)
    rw [yields_iff_of_nextEntry hentry, entries_runFrom_take htest]
    constructor
    · rintro ⟨sub, rest, rfl, hyields, hrest⟩
      rw [(hsub sub).1 hyields, (hafter rest).1 hrest]
    · rintro rfl
      exact ⟨_, _, rfl, (hsub _).2 rfl, (hafter _).2 rfl⟩

/-- A parse makes exactly the entries that are yielded from the beginning of the tokens, without a
last entry. -/
theorem yields_iff_eq_parse (rules : List Rule) (tokens : List Token) (es : List ParseEntry) :
    Yields rules tokens none 0 es ↔ es = parse rules tokens :=
  yields_iff_runFrom rfl rfl (PassAt.start rules tokens)

end GrammarKit.Engine
