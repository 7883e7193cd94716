import GrammarKit.Proofs.Lexer.Tiling

/-!
# The first match wins

The steps of a scan, described without the search among the matchers. At each place there is the
earliest matcher that finds some text at the head of what remains, however little it finds and
whatever a later one would find; a matcher that finds the empty text does not count. It makes a
token, and only where there is none is a character skipped.

`FirstMatchWalk` follows such steps from a byte offset to the end of the text. With honest matchers
there is one walk from the beginning of a text and no other, and it is the scan.
-/

namespace GrammarKit.Lexer

open ScanStep

variable {matchers : List Matcher} {text : String}

/-- What remains of a text from a byte offset on. -/
def RemainsAt (text : String) (offset : Nat) (rest : List Char) : Prop :=
  ∃ front : String, text = front ++ String.ofList rest ∧ front.utf8ByteSize = offset

/-- A matcher finds no text at the head of a text, or only the empty one. -/
def FindsNothing (rest : List Char) (m : Matcher) : Prop :=
  ∀ found, m.find rest = some found → found.text = ""

/-- The matcher finds some text at the head of a text, and none of the matchers before it does. -/
structure FirstToFind (matchers : List Matcher) (rest : List Char) (m : Matcher)
    (found : PrefixMatch) : Prop where
  earliest : ∃ before after, matchers = before ++ m :: after ∧ ∀ m' ∈ before, FindsNothing rest m'
  find_eq : m.find rest = some found
  text_ne : found.text ≠ ""

/-- The steps lead from a byte offset to the end of the text, each with the first match at its
place, or over one character where nothing matches. -/
inductive FirstMatchWalk (matchers : List Matcher) (text : String) : Nat → List ScanStep → Prop
  | done : FirstMatchWalk matchers text text.utf8ByteSize []
  | token {offset : Nat} {rest : List Char} {m : Matcher} {found : PrefixMatch}
      {steps : List ScanStep} (hrest : RemainsAt text offset rest)
      (hfirst : FirstToFind matchers rest m found)
      (hsteps : FirstMatchWalk matchers text (offset + found.text.utf8ByteSize) steps) :
      FirstMatchWalk matchers text offset (.token ⟨m.kind, found.text, found.captures,
        ⟨offset, offset + found.text.utf8ByteSize⟩⟩ :: steps)
  | skip {offset : Nat} {c : Char} {rest : List Char} {steps : List ScanStep}
      (hrest : RemainsAt text offset (c :: rest)) (hnone : ∀ m ∈ matchers, FindsNothing (c :: rest) m)
      (hsteps : FirstMatchWalk matchers text (offset + c.utf8Size) steps) :
      FirstMatchWalk matchers text offset (.skip offset c :: steps)

namespace RemainsAt

variable {offset : Nat} {rest rest' : List Char}

/-- At the beginning the whole text remains. -/
theorem start (text : String) : RemainsAt text 0 text.toList :=
  ⟨"", by rw [String.ofList_toList, String.empty_append], String.utf8ByteSize_empty⟩

/-- What remains is found by a cut through the characters of the text. -/
theorem dropBytes_eq (h : RemainsAt text offset rest) :
    Text.dropBytes offset text.toList = some rest := by
  obtain ⟨front, rfl, rfl⟩ := h
  rw [String.toList_append, String.toList_ofList, ← Text.byteLength_toList, Text.dropBytes_append]

/-- At an offset only one thing can remain. -/
theorem unique (h : RemainsAt text offset rest) (h' : RemainsAt text offset rest') : rest = rest' :=
  Option.some.inj (h.dropBytes_eq.symm.trans h'.dropBytes_eq)

/-- Behind a piece that comes first, the rest remains. -/
theorem behind {piece : String} (h : RemainsAt text offset (piece.toList ++ rest)) :
    RemainsAt text (offset + piece.utf8ByteSize) rest := by
  obtain ⟨front, rfl, rfl⟩ := h
  refine ⟨front ++ piece, ?_, String.utf8ByteSize_append⟩
  rw [String.ofList_append, String.ofList_toList, String.append_assoc]

/-- Nothing remains at the end alone. -/
theorem eq_nil_iff (h : RemainsAt text offset rest) : rest = [] ↔ offset = text.utf8ByteSize := by
  obtain ⟨front, rfl, rfl⟩ := h
  rw [String.utf8ByteSize_append]
  constructor
  · rintro rfl
    rfl
  · intro hsize
    have hempty : (String.ofList rest).utf8ByteSize = 0 := by omega
    simpa using String.utf8ByteSize_eq_zero_iff.1 hempty

end RemainsAt

/-- What a matcher contributes to the search is nothing where it finds nothing. -/
theorem answer_eq_none_iff {rest : List Char} {m : Matcher} :
    ((m.find rest).filter fun found => !found.isEmpty).map (fun found => (m.kind, found)) = none ↔
      FindsNothing rest m := by
  rw [Option.map_eq_none_iff, Option.filter_eq_none_iff]
  refine forall_congr' fun found => imp_congr Iff.rfl ?_
  simp [PrefixMatch.isEmpty]

/-- The search among the matchers fails where none of them finds any text. -/
theorem firstMatch_eq_none_iff {rest : List Char} :
    firstMatch matchers rest = none ↔ ∀ m ∈ matchers, FindsNothing rest m := by
  rw [firstMatch, List.findSome?_eq_none_iff]
  exact forall₂_congr fun m _ => answer_eq_none_iff

/-- The search among the matchers comes to the first that finds some text. -/
theorem firstMatch_eq_some_iff {rest : List Char} {kind : String} {found : PrefixMatch} :
    firstMatch matchers rest = some (kind, found) ↔
      ∃ m, FirstToFind matchers rest m found ∧ m.kind = kind := by
  rw [firstMatch, List.findSome?_eq_some_iff]
  constructor
  · rintro ⟨before, m, after, hsplit, hanswer, hbefore⟩
    obtain ⟨found', hfound, heq⟩ := Option.map_eq_some_iff.1 hanswer
    obtain ⟨hfind, hsome⟩ := Option.filter_eq_some_iff.1 hfound
    cases heq
    exact ⟨m, ⟨⟨before, after, hsplit, fun m' hm' => answer_eq_none_iff.1 (hbefore m' hm')⟩, hfind,
      by simpa [PrefixMatch.isEmpty] using hsome⟩, rfl⟩
  · rintro ⟨m, ⟨⟨before, after, hsplit, hbefore⟩, hfind, hne⟩, rfl⟩
    refine ⟨before, m, after, hsplit, ?_, fun m' hm' => answer_eq_none_iff.2 (hbefore m' hm')⟩
    have hsome : (!found.isEmpty) = true := by simpa [PrefixMatch.isEmpty] using hne
    rw [hfind, Option.filter_some, if_pos hsome, Option.map_some]

/-- The first match at the head of a text is the step that a scan takes there. -/
theorem stepAt_of_firstToFind {offset : Nat} {c : Char} {cs : List Char} {m : Matcher}
    {found : PrefixMatch} (h : FirstToFind matchers (c :: cs) m found) :
    stepAt matchers offset c cs = .token ⟨m.kind, found.text, found.captures,
      ⟨offset, offset + found.text.utf8ByteSize⟩⟩ := by
  rw [stepAt, firstMatch_eq_some_iff.2 ⟨m, h, rfl⟩, ← Text.byteLength_toList]
  rfl

/-- Where no matcher finds any text, a scan skips a character. -/
theorem stepAt_of_findsNothing {offset : Nat} {c : Char} {cs : List Char}
    (h : ∀ m ∈ matchers, FindsNothing (c :: cs) m) :
    stepAt matchers offset c cs = .skip offset c := by
  rw [stepAt, firstMatch_eq_none_iff.2 h]

/-- From the end of the text no step leads on. -/
theorem firstMatchWalk_nil_iff (hhonest : ∀ m ∈ matchers, m.Honest) {offset : Nat}
    (hend : RemainsAt text offset []) {steps : List ScanStep} :
    FirstMatchWalk matchers text offset steps ↔ steps = [] := by
  constructor
  · intro h
    cases h with
    | done => rfl
    | token hrest hfirst hsteps =>
      -- An honest matcher finds nothing in the empty text.
      cases hrest.unique hend
      obtain ⟨before, after, rfl, -⟩ := hfirst.earliest
      have hprefix := hhonest _ (List.mem_append_right _ List.mem_cons_self) hfirst.find_eq
      exact absurd (String.toList_eq_nil_iff.1 (List.prefix_nil.1 hprefix)) hfirst.text_ne
    | skip hrest hnone hsteps => cases hrest.unique hend
  · rintro rfl
    rw [hend.eq_nil_iff.1 rfl]
    exact .done

/-- Before the end the walk takes the step of the scan there, and goes on behind it. -/
theorem firstMatchWalk_cons_iff {offset : Nat} {c : Char} {cs : List Char}
    (hrest : RemainsAt text offset (c :: cs)) {steps : List ScanStep} :
    FirstMatchWalk matchers text offset steps ↔ ∃ steps',
      steps = stepAt matchers offset c cs :: steps' ∧
        FirstMatchWalk matchers text (stepAt matchers offset c cs).span.stop steps' := by
  constructor
  · intro h
    cases h with
    | done => cases hrest.eq_nil_iff.2 rfl
    | token hrest' hfirst hsteps =>
      cases hrest'.unique hrest
      rw [stepAt_of_firstToFind hfirst]
      exact ⟨_, rfl, hsteps⟩
    | skip hrest' hnone hsteps =>
      cases hrest'.unique hrest
      rw [stepAt_of_findsNothing hnone]
      exact ⟨_, rfl, hsteps⟩
  · rintro ⟨steps', rfl, hsteps⟩
    cases hfirst : firstMatch matchers (c :: cs) with
    | none =>
      have hnone := firstMatch_eq_none_iff.1 hfirst
      rw [stepAt_of_findsNothing hnone] at hsteps ⊢
      exact .skip hrest hnone hsteps
    | some answer =>
      obtain ⟨m, hm, -⟩ := firstMatch_eq_some_iff.1 hfirst
      rw [stepAt_of_firstToFind hm] at hsteps ⊢
      exact .token hrest hm hsteps

/-- From wherever a scan with honest matchers is, it takes the steps of the walk from there. -/
theorem firstMatchWalk_iff_scanFrom (hhonest : ∀ m ∈ matchers, m.Honest) {offset : Nat}
    {rest : List Char} (hrest : RemainsAt text offset rest) {steps : List ScanStep} :
    FirstMatchWalk matchers text offset steps ↔ scanFrom matchers offset rest = .ok steps := by
  induction hlen : rest.length using Nat.strongRecOn generalizing offset rest steps with
  | ind n ih =>
    cases rest with
    | nil =>
      rw [firstMatchWalk_nil_iff hhonest hrest, scanFrom_nil, Except.ok.injEq, eq_comm]
    | cons c cs =>
      obtain ⟨rest', hsplit, hscan⟩ := scanFrom_cons hhonest offset c cs
      have hfits := stepAt_fitsAt matchers offset c cs
      have hbehind : RemainsAt text (stepAt matchers offset c cs).span.stop rest' := by
        rw [hfits.stop_eq]
        exact RemainsAt.behind (hsplit ▸ hrest)
      have hshorter : rest'.length < n := by
        have hpos := List.length_pos_iff.2 (mt String.toList_eq_nil_iff.1 hfits.text_ne)
        have hsum := congrArg List.length hsplit
        rw [List.length_append] at hsum
        omega
      rw [firstMatchWalk_cons_iff hrest, hscan]
      constructor
      · rintro ⟨steps', rfl, hsteps⟩
        rw [(ih _ hshorter hbehind rfl).1 hsteps]
        rfl
      · intro hmap
        cases hsteps : scanFrom matchers (stepAt matchers offset c cs).span.stop rest' with
        | error e => rw [hsteps] at hmap; cases hmap
        | ok steps' =>
          rw [hsteps] at hmap
          cases hmap
          exact ⟨steps', rfl, (ih _ hshorter hbehind rfl).2 hsteps⟩

/-- With honest matchers there is exactly one walk by first matches from the beginning of a text to
its end; a scan takes it, and its tokens are those of the text. -/
theorem tokenize_first_matches (hhonest : ∀ m ∈ matchers, m.Honest) (text : String) :
    ∃ steps, FirstMatchWalk matchers text 0 steps ∧
      (∀ steps', FirstMatchWalk matchers text 0 steps' → steps' = steps) ∧
      scan matchers text = .ok steps ∧ tokenize matchers text = .ok (steps.filterMap token?) := by
  obtain ⟨steps, hscan, -, -⟩ := exists_scanFrom hhonest 0 text.toList
  have hwalk (steps' : List ScanStep) : FirstMatchWalk matchers text 0 steps' ↔ steps' = steps := by
    rw [firstMatchWalk_iff_scanFrom hhonest (RemainsAt.start text), hscan, Except.ok.injEq, eq_comm]
  exact ⟨steps, (hwalk steps).2 rfl, fun steps' => (hwalk steps').1, hscan,
    by rw [tokenize, scan, hscan]; rfl⟩

/-- An earlier matcher that finds nothing, one that finds two bytes, and a later one that would find
three characters, on a text with a character of two bytes. -/
theorem tokenize_first_matches_order :
    (∀ m ∈ [Matcher.characters "nothing" 0, .literal "word" "or", .characters "triple" 3],
      m.Honest) ∧
    ∃ steps, FirstMatchWalk [.characters "nothing" 0, .literal "word" "or", .characters "triple" 3]
        "orderé!" 0 steps ∧
      (∀ steps', FirstMatchWalk
        [.characters "nothing" 0, .literal "word" "or", .characters "triple" 3] "orderé!" 0 steps' →
          steps' = steps) ∧
      scan [.characters "nothing" 0, .literal "word" "or", .characters "triple" 3] "orderé!" =
        .ok steps ∧
      tokenize [.characters "nothing" 0, .literal "word" "or", .characters "triple" 3] "orderé!" =
        .ok (steps.filterMap token?) := by
  have hhonest : ∀ m ∈ [Matcher.characters "nothing" 0, .literal "word" "or",
      .characters "triple" 3], m.Honest := by
    intro m hm
    simp only [List.mem_cons, List.not_mem_nil, or_false] at hm
    rcases hm with rfl | rfl | rfl
    · exact Matcher.honest_characters "nothing" 0
    · exact Matcher.honest_literal "word" "or"
    · exact Matcher.honest_characters "triple" 3
  exact ⟨hhonest, tokenize_first_matches hhonest "orderé!"⟩

end GrammarKit.Lexer
