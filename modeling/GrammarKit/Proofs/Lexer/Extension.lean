import GrammarKit.Proofs.Lexer.FirstMatch
import GrammarKit.Proofs.Lexer.Resumption

/-!
# Further matchers behind the others

Matchers that are put behind others are asked only where all of those find nothing, which is where a
scan would skip a character. As long as none of them finds any text there, the scan takes the same
steps as before. At the first place where one does, a token begins that the text did not have: all
tokens that it had from there on begin behind the skipped character.

So further matchers leave the tokens of a text as they were exactly if they claim none of the
characters that are skipped without them, and they never touch a text that the others cover.
-/

namespace GrammarKit.Lexer

open ScanStep

variable {matchers further : List Matcher} {text : String}

/-- Some matcher finds some text at a place where the steps skip a character. -/
def ClaimsSkipped (further : List Matcher) (text : String) (steps : List ScanStep) : Prop :=
  ∃ offset c rest, .skip offset c ∈ steps ∧ RemainsAt text offset rest ∧
    ∃ m ∈ further, ∃ found, m.find rest = some found ∧ found.text ≠ ""

/-- The tokens cover every byte of the text. -/
def CoversAll (text : String) (tokens : List Token) : Prop :=
  ∀ i < text.utf8ByteSize, ∃ t ∈ tokens, t.span.Covers i

/-! ### One step with the further matchers -/

/-- The further matchers are asked where the first ones find nothing. -/
theorem firstMatch_append (rest : List Char) :
    firstMatch (matchers ++ further) rest =
      (firstMatch matchers rest).or (firstMatch further rest) :=
  List.findSome?_append

/-- A token that the first matchers make is made. -/
theorem stepAt_append_of_token {offset : Nat} {c : Char} {cs : List Char} {t : Token}
    (h : stepAt matchers offset c cs = .token t) :
    stepAt (matchers ++ further) offset c cs = .token t := by
  unfold stepAt at h ⊢
  rw [firstMatch_append]
  cases hfirst : firstMatch matchers (c :: cs) with
  | none => rw [hfirst] at h; cases h
  | some answer => rwa [hfirst] at h

/-- Where the first matchers would skip a character, the further ones decide. -/
theorem stepAt_append_of_skip {offset offset' : Nat} {c c' : Char} {cs : List Char}
    (h : stepAt matchers offset c cs = .skip offset' c') :
    stepAt (matchers ++ further) offset c cs = stepAt further offset c cs := by
  unfold stepAt at h ⊢
  rw [firstMatch_append]
  cases hfirst : firstMatch matchers (c :: cs) with
  | none => rfl
  | some answer => rw [hfirst] at h; cases h

/-- A step that skips a character skips the first one, at the place of the step. -/
theorem eq_of_stepAt_eq_skip {offset offset' : Nat} {c c' : Char} {cs : List Char}
    (h : stepAt matchers offset c cs = .skip offset' c') : offset' = offset ∧ c' = c := by
  unfold stepAt at h
  split at h <;> cases h
  exact ⟨rfl, rfl⟩

/-- A step makes a token exactly where some matcher finds some text. -/
theorem exists_stepAt_eq_token_iff {offset : Nat} {c : Char} {cs : List Char} :
    (∃ t, stepAt matchers offset c cs = .token t) ↔
      ∃ m ∈ matchers, ∃ found, m.find (c :: cs) = some found ∧ found.text ≠ "" := by
  cases hfirst : firstMatch matchers (c :: cs) with
  | none =>
    have hnothing := firstMatch_eq_none_iff.1 hfirst
    rw [stepAt_of_findsNothing hnothing]
    constructor
    · rintro ⟨t, ht⟩
      cases ht
    · rintro ⟨m, hm, found, hfind, hne⟩
      exact absurd (hnothing m hm found hfind) hne
  | some answer =>
    obtain ⟨m, hm, -⟩ := firstMatch_eq_some_iff.1 hfirst
    obtain ⟨before, after, rfl, -⟩ := hm.earliest
    rw [stepAt_of_firstToFind hm]
    exact iff_of_true ⟨_, rfl⟩
      ⟨m, List.mem_append_right before List.mem_cons_self, _, hm.find_eq, hm.text_ne⟩

/-! ### Two scans side by side -/

/-- A step that makes a token claims nothing that is skipped. -/
theorem claimsSkipped_cons_token {t : Token} {steps : List ScanStep} :
    ClaimsSkipped further text (.token t :: steps) ↔ ClaimsSkipped further text steps := by
  simp only [ClaimsSkipped, List.mem_cons, reduceCtorEq, false_or]

/-- What is claimed of a skipped character and of the steps behind it. -/
theorem claimsSkipped_cons_skip {offset : Nat} {c : Char} {cs : List Char} {steps : List ScanStep}
    (hrest : RemainsAt text offset (c :: cs)) :
    ClaimsSkipped further text (.skip offset c :: steps) ↔
      (∃ t, stepAt further offset c cs = .token t) ∨ ClaimsSkipped further text steps := by
  rw [exists_stepAt_eq_token_iff]
  constructor
  · rintro ⟨offset', c', rest, hskip, hrest', hfinds⟩
    rcases List.mem_cons.1 hskip with heq | hskip
    · cases heq
      obtain rfl := hrest.unique hrest'
      exact .inl hfinds
    · exact .inr ⟨offset', c', rest, hskip, hrest', hfinds⟩
  · rintro (hfinds | ⟨offset', c', rest, hskip, hrest', hfinds⟩)
    · exact ⟨offset, c, c :: cs, List.mem_cons_self, hrest, hfinds⟩
    · exact ⟨offset', c', rest, List.mem_cons_of_mem _ hskip, hrest', hfinds⟩

/-- A token that begins where a step skips a character is none of the tokens of these steps. -/
theorem filterMap_token?_ne_cons {offset : Nat} {c : Char} {steps : List ScanStep} {t : Token}
    {tokens : List Token} (hend : EndToEnd offset (.skip offset c :: steps))
    (ht : t.span.start = offset) : steps.filterMap token? ≠ t :: tokens := by
  intro heq
  have hmem : .token t ∈ steps :=
    mem_of_mem_filterMap_token? (by rw [heq]; exact List.mem_cons_self)
  have hbehind : offset + c.utf8Size ≤ t.span.start := hend.2.le_start hmem
  have hpos := c.utf8Size_pos
  omega

/-- The step of a scan with the first matchers makes it go on with the further ones, too. -/
theorem scanFrom_append_cons (hhonest : ∀ m ∈ matchers ++ further, m.Honest) {offset : Nat}
    {c : Char} {cs rest : List Char} {steps : List ScanStep}
    (hsplit : c :: cs = (stepAt (matchers ++ further) offset c cs).text.toList ++ rest)
    (h : scanFrom (matchers ++ further) offset (c :: cs) = .ok steps) :
    ∃ steps', steps = stepAt (matchers ++ further) offset c cs :: steps' ∧
      scanFrom (matchers ++ further) (stepAt (matchers ++ further) offset c cs).span.stop rest =
        .ok steps' := by
  cases steps with
  | nil => cases eq_nil_of_scanFrom hhonest h
  | cons s steps' =>
    obtain ⟨d, ds, rest', heq, rfl, hsplit', hbehind⟩ := exists_of_scanFrom_cons hhonest h
    cases heq
    obtain rfl : rest = rest' := List.append_cancel_left (hsplit.symm.trans hsplit')
    exact ⟨steps', rfl, hbehind⟩

/-- From wherever both scans are, the further matchers leave the tokens as they are exactly if they
claim no character that is skipped from there on. -/
theorem filterMap_token?_eq_iff (hhonest : ∀ m ∈ matchers ++ further, m.Honest) {offset : Nat}
    {cs : List Char} {steps steps' : List ScanStep} (hrest : RemainsAt text offset cs)
    (hend : EndToEnd offset steps) (h : scanFrom matchers offset cs = .ok steps)
    (h' : scanFrom (matchers ++ further) offset cs = .ok steps') :
    steps'.filterMap token? = steps.filterMap token? ↔ ¬ ClaimsSkipped further text steps := by
  have hfirst : ∀ m ∈ matchers, m.Honest := fun m hm => hhonest m (List.mem_append_left further hm)
  induction steps generalizing offset cs steps' with
  | nil =>
    obtain rfl := eq_nil_of_scanFrom hfirst h
    rw [scanFrom_nil] at h'
    cases h'
    simp [ClaimsSkipped]
  | cons s steps ih =>
    obtain ⟨c, cs, rest, rfl, hs, hsplit, hbehind⟩ := exists_of_scanFrom_cons hfirst h
    have hrest' : RemainsAt text s.span.stop rest := by
      rw [hend.1.stop_eq]
      exact RemainsAt.behind (hsplit ▸ hrest)
    -- Both scans go on alike where the further matchers leave the step as it is.
    have hsame (hstep : stepAt (matchers ++ further) offset c cs = s) : ∃ steps'',
        steps' = s :: steps'' ∧ (steps''.filterMap token? = steps.filterMap token? ↔
          ¬ ClaimsSkipped further text steps) := by
      obtain ⟨steps'', rfl, hbehind'⟩ :=
        scanFrom_append_cons hhonest (by rw [hstep]; exact hsplit) h'
      rw [hstep] at hbehind' ⊢
      exact ⟨steps'', rfl, ih hrest' hend.2 hbehind hbehind'⟩
    cases s with
    | token t =>
      obtain ⟨steps'', rfl, hiff⟩ := hsame (stepAt_append_of_token hs.symm)
      rw [claimsSkipped_cons_token, ← hiff]
      exact List.cons_inj_right t
    | skip offset' c' =>
      obtain ⟨rfl, rfl⟩ := eq_of_stepAt_eq_skip hs.symm
      have hfurther : stepAt (matchers ++ further) offset' c' cs = stepAt further offset' c' cs :=
        stepAt_append_of_skip hs.symm
      rw [claimsSkipped_cons_skip hrest]
      cases hstep : stepAt further offset' c' cs with
      | skip offset c =>
        obtain ⟨rfl, rfl⟩ := eq_of_stepAt_eq_skip hstep
        obtain ⟨steps'', rfl, hiff⟩ := hsame (hfurther.trans hstep)
        rw [or_iff_right (by rintro ⟨t, ht⟩; cases ht)]
        exact hiff
      | token t =>
        rw [hstep] at hfurther
        obtain ⟨rest', hsplit', -⟩ := scanFrom_cons hhonest offset' c' cs
        obtain ⟨steps'', rfl, -⟩ := scanFrom_append_cons hhonest hsplit' h'
        have hstart := (stepAt_fitsAt (matchers ++ further) offset' c' cs).start_eq
        rw [hfurther] at hstart ⊢
        refine iff_of_false (fun heq => ?_) (not_not_intro (.inl ⟨t, rfl⟩))
        exact filterMap_token?_ne_cons hend hstart heq.symm

/-- Where the tokens of a scan cover the text, nothing is skipped. -/
theorem not_mem_skip_of_coversAll {steps : List ScanStep} (hend : EndToEnd 0 steps)
    (hcovers : CoversAll (joined steps) (steps.filterMap token?)) (offset : Nat) (c : Char) :
    .skip offset c ∉ steps := by
  intro hskip
  have hbelow := (hend.standsAt hskip).stop_le
  have hpos := c.utf8Size_pos
  change offset + c.utf8Size ≤ _ at hbelow
  obtain ⟨t, ht, htcovers⟩ := hcovers offset (by omega)
  obtain ⟨k, hk⟩ := List.getElem?_of_mem hskip
  obtain ⟨l, hl⟩ := List.getElem?_of_mem (mem_of_mem_filterMap_token? ht)
  -- The byte would belong to a token and to a skipped character at once.
  have hunique := hend.existsUnique_covers (Nat.zero_le offset) (by omega)
  have hkl := hunique.unique ⟨_, hk, Nat.le_refl offset, by simp only [span]; omega⟩
    ⟨_, hl, htcovers⟩
  rw [hkl, hl] at hk
  cases hk

/-- Further matchers leave the tokens of a text as they are exactly if none of them finds any text
at a place where a character is skipped without them; and they do so where the tokens cover the
text. -/
theorem tokenize_append_eq_iff (hhonest : ∀ m ∈ matchers ++ further, m.Honest) (text : String) :
    ∃ steps tokens, scan matchers text = .ok steps ∧ tokenize matchers text = .ok tokens ∧
      tokens = steps.filterMap token? ∧
      (tokenize (matchers ++ further) text = tokenize matchers text ↔
        ¬ ClaimsSkipped further text steps) ∧
      (CoversAll text tokens → tokenize (matchers ++ further) text = tokenize matchers text) := by
  have hfirst : ∀ m ∈ matchers, m.Honest := fun m hm => hhonest m (List.mem_append_left further hm)
  obtain ⟨steps, hscan, hend, hjoined⟩ := exists_scanFrom hfirst 0 text.toList
  obtain ⟨steps', hscan', -, -⟩ := exists_scanFrom hhonest 0 text.toList
  have htokens : tokenize matchers text = .ok (steps.filterMap token?) := by
    rw [tokenize, scan, hscan]
    rfl
  have htokens' : tokenize (matchers ++ further) text = .ok (steps'.filterMap token?) := by
    rw [tokenize, scan, hscan']
    rfl
  have hiff : tokenize (matchers ++ further) text = tokenize matchers text ↔
      ¬ ClaimsSkipped further text steps := by
    rw [htokens, htokens', Except.ok.injEq]
    exact filterMap_token?_eq_iff hhonest (RemainsAt.start text) hend hscan hscan'
  refine ⟨steps, steps.filterMap token?, hscan, htokens, rfl, hiff, fun hcovers => hiff.2 ?_⟩
  rintro ⟨offset, c, -, hskip, -⟩
  rw [← String.toList_inj.1 hjoined] at hcovers
  exact not_mem_skip_of_coversAll hend hcovers offset c hskip

/-- A matcher of pairs behind a word, on a text where a skipped character is followed by another,
and one of three letters. -/
theorem tokenize_append_eq_iff_pairs :
    (∀ m ∈ [Matcher.literal "word" "or"] ++ [.characters "pair" 2, .characters "triple" 3],
      m.Honest) ∧
    ∃ steps tokens, scan [.literal "word" "or"] "orèor→" = .ok steps ∧
      tokenize [.literal "word" "or"] "orèor→" = .ok tokens ∧
      tokens = steps.filterMap token? ∧
      (tokenize ([.literal "word" "or"] ++ [.characters "pair" 2, .characters "triple" 3])
          "orèor→" = tokenize [.literal "word" "or"] "orèor→" ↔
        ¬ ClaimsSkipped [.characters "pair" 2, .characters "triple" 3] "orèor→" steps) ∧
      (CoversAll "orèor→" tokens →
        tokenize ([.literal "word" "or"] ++ [.characters "pair" 2, .characters "triple" 3])
          "orèor→" = tokenize [.literal "word" "or"] "orèor→") := by
  have hhonest : ∀ m ∈ [Matcher.literal "word" "or"] ++
      [.characters "pair" 2, .characters "triple" 3], m.Honest :=
    List.forall_mem_cons.2 ⟨Matcher.honest_literal "word" "or",
      List.forall_mem_cons.2 ⟨Matcher.honest_characters "pair" 2,
        List.forall_mem_singleton.2 (Matcher.honest_characters "triple" 3)⟩⟩
  exact ⟨hhonest, tokenize_append_eq_iff hhonest "orèor→"⟩

end GrammarKit.Lexer
