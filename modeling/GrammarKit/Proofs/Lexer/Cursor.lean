import GrammarKit.Grammar
import GrammarKit.Proofs.Lexer.Tiling
import GrammarKit.Proofs.Pattern.Anchoring

/-!
# The cursor of a scan

A scan moves a cursor over the text, round by round, by the length of what has been found or by one
character. A round goes well if what is found at its place ends between two characters. It does so
where the matchers are honest, and it does so in a text of ASCII whatever piece of the text is
found. Then the cursor stands between two characters in every round, and comes to the end.

For the patterns of a grammar this means: a text is split into tokens without fail if no pattern
has a stray bar or if the text is ASCII alone. A stray bar and a longer character together can
lead the cursor into the character.
-/

namespace GrammarKit

/-- A matcher finds only pieces of the text, wherever they stand. -/
def Matcher.FindsPieces (m : Matcher) : Prop :=
  ∀ {text : List Char} {found : PrefixMatch},
    m.find text = some found → found.text.toList <:+: text

namespace Lexer

open ScanStep Text

variable {matchers : List Matcher}

/-- The steps move a cursor over a text from an offset on: in each round the cursor stands between
two characters before the end of the text, and the step leads from there to the place of the next
round. After the last round it stands at the end. -/
def Moves (text : String) : Nat → List ScanStep → Prop
  | offset, [] => offset = text.utf8ByteSize
  | offset, s :: steps =>
    String.Pos.Raw.IsValid text ⟨offset⟩ ∧ offset < text.utf8ByteSize ∧ s.FitsAt offset ∧
      Moves text s.span.stop steps

/-- What is found anywhere in the rest of a text, at the head of what remains there, ends between
two characters. -/
def EndsBetween (matchers : List Matcher) (cs : List Char) : Prop :=
  ∀ {rest : List Char} {kind : String} {found : PrefixMatch}, rest <:+ cs →
    firstMatch matchers rest = some (kind, found) → ∃ rest', dropBytes found.length rest = some rest'

/-- What holds in the rest of a text holds in the rest of that. -/
theorem EndsBetween.of_isSuffix {cs rest : List Char} (h : EndsBetween matchers cs)
    (hrest : rest <:+ cs) : EndsBetween matchers rest :=
  fun hsuffix hfirst => h (hsuffix.trans hrest) hfirst

/-- Honest matchers find what ends between two characters. -/
theorem endsBetween_of_honest (hhonest : ∀ m ∈ matchers, m.Honest) (cs : List Char) :
    EndsBetween matchers cs := by
  intro rest kind found _ hfirst
  obtain ⟨rest', rfl⟩ := isPrefix_of_firstMatch hhonest hfirst
  exact ⟨rest', dropBytes_append _ _⟩

/-- Among characters of one byte each, every place is between two characters. -/
theorem endsBetween_of_ascii {cs : List Char} (h : ∀ c ∈ cs, c.utf8Size = 1) :
    EndsBetween matchers cs := by
  intro rest kind found hsuffix _
  exact ⟨_, dropBytes_of_ascii (fun c hc => h c (hsuffix.subset hc)) _⟩

/-- With matchers that find pieces, a step takes no more than there is. -/
theorem byteLength_stepAt_le (hpieces : ∀ m ∈ matchers, m.FindsPieces) (offset : Nat) (c : Char)
    (cs : List Char) :
    byteLength (stepAt matchers offset c cs).text.toList ≤ byteLength (c :: cs) := by
  unfold stepAt
  split
  · next hfirst =>
    obtain ⟨m, hm, hfind⟩ := List.exists_of_findSome?_eq_some hfirst
    simp only [Option.map_eq_some_iff, Option.filter_eq_some_iff, Prod.mk.injEq] at hfind
    obtain ⟨found', ⟨hfound, -⟩, -, rfl⟩ := hfind
    exact byteLength_le_of_isInfix (hpieces m hm hfound)
  · simp [text, byteLength]

/-- A scan whose rounds all go well moves the cursor to the end. -/
theorem exists_moves (hpieces : ∀ m ∈ matchers, m.FindsPieces) (front : List Char)
    {cs : List Char} (hends : EndsBetween matchers cs) :
    ∃ steps, scanFrom matchers (byteLength front) cs = .ok steps ∧
      Moves (String.ofList (front ++ cs)) (byteLength front) steps := by
  have hsize (cs : List Char) : (String.ofList cs).utf8ByteSize = byteLength cs := by
    rw [← byteLength_toList, String.toList_ofList]
  induction hlen : cs.length using Nat.strongRecOn generalizing front cs with
  | ind n ih =>
    cases cs with
    | nil => exact ⟨[], scanFrom_nil _ _, by rw [Moves, List.append_nil, hsize]⟩
    | cons c cs =>
      have hfits := stepAt_fitsAt matchers (byteLength front) c cs
      obtain ⟨rest, hdrop, hscan⟩ := scanFrom_cons_of_cut (byteLength front) fun hfirst =>
        hends (List.suffix_refl _) hfirst
      obtain ⟨taken, hsplit, htaken⟩ :=
        exists_append_of_dropBytes (byteLength_stepAt_le hpieces (byteLength front) c cs) hdrop
      have hstop : (stepAt matchers (byteLength front) c cs).span.stop =
          byteLength (front ++ taken) := by
        rw [hfits.stop_eq, ← byteLength_toList, byteLength_append, htaken]
      have hshort : rest.length < n := by
        rw [← hlen]
        refine length_lt_of_dropBytes ?_ (List.cons_ne_nil c cs) hdrop
        rw [byteLength_toList]
        exact utf8ByteSize_pos hfits.text_ne
      obtain ⟨steps, hsteps, hmoves⟩ := ih rest.length hshort (front ++ taken)
        (hends.of_isSuffix ⟨taken, hsplit.symm⟩) rfl
      rw [List.append_assoc, ← hsplit] at hmoves
      refine ⟨stepAt matchers (byteLength front) c cs :: steps, by rw [hscan, hstop, hsteps]; rfl,
        isValid_byteLength _ _, ?_, hfits, ?_⟩
      · rw [hsize, byteLength_append, byteLength]
        have := c.utf8Size_pos
        omega
      · rw [hstop]
        exact hmoves

/-- A scan fails where what is found ends inside of a character. -/
theorem scanFrom_cons_eq_error {offset : Nat} {c : Char} {cs : List Char} {kind : String}
    {found : PrefixMatch} (hfirst : firstMatch matchers (c :: cs) = some (kind, found))
    (hdrop : dropBytes found.length (c :: cs) = none) :
    scanFrom matchers offset (c :: cs) = .error (.insideCharacter (offset + found.length)) := by
  rw [scanFrom]
  split
  · next hsome =>
    rw [hfirst] at hsome
    cases hsome
    split
    · next hdrop' => rw [hdrop] at hdrop'; cases hdrop'
    · rfl
  · next hnone => rw [hfirst] at hnone; cases hnone

end Lexer

namespace Grammar

open Lexer Pattern

/-- The patterns of a grammar find pieces of the text. -/
theorem findsPieces_matchers (g : Grammar) : ∀ m ∈ g.matchers, m.FindsPieces := by
  intro m hm
  obtain ⟨t, -, rfl⟩ := List.mem_map.1 hm
  exact TokenMatcher.isInfix_of_find

/-- A text is split into tokens, and its tokens into entries, without fail, if no pattern has a
stray bar or if the text is ASCII alone: the scan moves the cursor over the text to its end, from
one place between two characters to the next. -/
theorem tokenize_returns (g : Grammar) (text : String)
    (h : (∀ m ∈ g.tokens, hasStrayBar m.pattern.toList = false) ∨
      ∀ c ∈ text.toList, c.utf8Size = 1) :
    ∃ steps, g.scan text = .ok steps ∧ Moves text 0 steps ∧
      g.tokenize text = .ok (steps.filterMap ScanStep.token?) ∧
      g.parse text = .ok (Engine.parse g.rules (steps.filterMap ScanStep.token?)) := by
  have hends : EndsBetween g.matchers text.toList := by
    obtain hbars | hascii := h
    · refine endsBetween_of_honest ?_ _
      intro m hm
      obtain ⟨t, ht, rfl⟩ := List.mem_map.1 hm
      exact TokenMatcher.isPrefix_of_find (hbars t ht)
    · exact endsBetween_of_ascii hascii
  obtain ⟨steps, hsteps, hmoves⟩ := exists_moves g.findsPieces_matchers [] hends
  have htokens : g.tokenize text = .ok (steps.filterMap ScanStep.token?) := by
    change (scanFrom g.matchers 0 text.toList).map _ = _
    rw [show (0 : Nat) = Text.byteLength [] from rfl, hsteps]
    rfl
  refine ⟨steps, hsteps, by simpa [Text.byteLength] using hmoves, htokens, ?_⟩
  rw [parse, htokens]
  rfl

/-- Characters of one and two bytes, and a pattern that closes the group around it. -/
theorem tokenize_returns_accented : ∃ g : Grammar,
    g.tokens.map TokenMatcher.describe = [⟨"word", "or|and"⟩, ⟨"pair", "a)(?:b|c"⟩] ∧
    ((∀ m ∈ g.tokens, hasStrayBar m.pattern.toList = false) ∨
      ∀ c ∈ "é or ac".toList, c.utf8Size = 1) ∧
    ∃ steps, g.scan "é or ac" = .ok steps ∧ Moves "é or ac" 0 steps ∧
      g.tokenize "é or ac" = .ok (steps.filterMap ScanStep.token?) ∧
      g.parse "é or ac" = .ok (Engine.parse g.rules (steps.filterMap ScanStep.token?)) := by
  obtain ⟨m, -, hkind, hpattern⟩ :=
    TokenMatcher.exists_define "word" "or|and" (by decide) (by decide +kernel)
  obtain ⟨n, -, hkind', hpattern'⟩ :=
    TokenMatcher.exists_define "pair" "a)(?:b|c" (by decide) (by decide +kernel)
  have hbars : ∀ t ∈ [m, n], hasStrayBar t.pattern.toList = false := by
    intro t ht
    simp only [List.mem_cons, List.not_mem_nil, or_false] at ht
    obtain rfl | rfl := ht
    · rw [hpattern]; decide +kernel
    · rw [hpattern']; decide +kernel
  refine ⟨{ tokens := [m, n] }, ?_, .inl hbars, tokenize_returns _ _ (.inl hbars)⟩
  simp [TokenMatcher.describe, hkind, hpattern, hkind', hpattern']

/-- Behind a stray bar a letter is found after one of two bytes, and its length leads into that
one. -/
theorem tokenize_fails_inside_character : ∃ g : Grammar,
    ({ name := "g" } : Grammar).defineToken "k" "a)|(?:b" = .ok g ∧
    g.tokenize "éb" = .error (.insideCharacter 1) ∧ g.parse "éb" = .error (.insideCharacter 1) := by
  obtain ⟨m, hm, hregex⟩ := TokenMatcher.exists_define_stray_bar
  have hsearch : m.regex.search #['é', 'b'] = some ⟨1, 2, []⟩ := by
    rw [hregex]
    simp [Regex.search, List.range_succ, Regex.matchAt, Regex.ways, Way.fork, Way.orElse, Way.done,
      Unicode.CharSet.contains_singleton, Look.holds_textStart]
  have hfirst : firstMatch [m.toMatcher] ['é', 'b'] = some (m.kind, ⟨"b", [some "b"]⟩) := by
    have hfind : m.find ['é', 'b'] = some ⟨"b", [some "b"]⟩ := by
      rw [TokenMatcher.find, hsearch, hregex]
      rfl
    simp [firstMatch, TokenMatcher.toMatcher, hfind, PrefixMatch.isEmpty]
  have hscan : scanFrom [m.toMatcher] 0 ['é', 'b'] = .error (.insideCharacter 1) :=
    scanFrom_cons_eq_error hfirst (by decide +kernel)
  have htokens : ({ name := "g", tokens := [m] } : Grammar).tokenize "éb" =
      .error (.insideCharacter 1) := by
    change (scanFrom [m.toMatcher] 0 "éb".toList).map _ = _
    rw [show "éb".toList = ['é', 'b'] by simp, hscan]
    rfl
  refine ⟨{ name := "g", tokens := [m] }, ?_, htokens, by rw [parse, htokens]; rfl⟩
  rw [defineToken, hm]
  rfl

end Grammar

end GrammarKit
