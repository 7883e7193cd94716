import Mathlib.Logic.ExistsUnique
import GrammarKit.Lexer
import GrammarKit.Proofs.Text.Stretch

/-!
# The steps of a scan tile the text

With honest matchers a scan never fails, and its steps lie end to end: each begins where the
one before it ends, none is empty, and each takes the text that stands there. So every byte
belongs to exactly one step, which is a token or a skipped character, and the texts of the
steps make up the whole text again.

A step is described before the scan is: `stepAt` says what happens at the head of a text,
`scanFrom_cons` that a scan does this and goes on behind it.
-/

namespace GrammarKit

namespace ScanStep

/-- The stretch that a step takes. -/
def span : ScanStep → Span
  | .token t => t.span
  | .skip offset c => ⟨offset, offset + c.utf8Size⟩

/-- The text that a step takes. -/
def text : ScanStep → String
  | .token t => t.entry
  | .skip _ c => String.singleton c

/-- The step begins at an offset, takes some text and ends right behind it. -/
structure FitsAt (offset : Nat) (s : ScanStep) : Prop where
  start_eq : s.span.start = offset
  stop_eq : s.span.stop = offset + s.text.utf8ByteSize
  text_ne : s.text ≠ ""

/-- A step that fits somewhere takes at least one byte. -/
theorem FitsAt.start_lt_stop {offset : Nat} {s : ScanStep} (h : s.FitsAt offset) :
    s.span.start < s.span.stop := by
  have hpos := Text.utf8ByteSize_pos h.text_ne
  rw [h.start_eq, h.stop_eq]
  omega

/-- The texts of some steps, put together. -/
def joined (steps : List ScanStep) : String := String.join (steps.map text)

/-- The first step comes first in the joined text. -/
theorem joined_cons (s : ScanStep) (steps : List ScanStep) :
    joined (s :: steps) = s.text ++ joined steps := by
  rw [joined, List.map_cons, String.join_cons, joined]

/-- Joining goes through a split of the steps. -/
theorem joined_append (before after : List ScanStep) :
    joined (before ++ after) = joined before ++ joined after := by
  rw [joined, List.map_append, String.join_append, joined, joined]

/-- The steps begin at an offset and lie end to end. -/
def EndToEnd : Nat → List ScanStep → Prop
  | _, [] => True
  | offset, s :: steps => s.FitsAt offset ∧ EndToEnd s.span.stop steps

/-- Every step begins behind the texts of the steps before it. -/
theorem EndToEnd.fitsAt {offset : Nat} {before after : List ScanStep} {s : ScanStep}
    (h : EndToEnd offset (before ++ s :: after)) :
    s.FitsAt (offset + (joined before).utf8ByteSize) := by
  induction before generalizing offset with
  | nil => exact h.1
  | cons b before ih =>
    have hs := ih h.2
    rwa [h.1.stop_eq, Nat.add_assoc, ← String.utf8ByteSize_append, ← joined_cons] at hs

/-- No step begins before the offset from which they all lie end to end. -/
theorem EndToEnd.le_start {offset : Nat} {steps : List ScanStep} (h : EndToEnd offset steps)
    {s : ScanStep} (hs : s ∈ steps) : offset ≤ s.span.start := by
  obtain ⟨before, after, rfl⟩ := List.append_of_mem hs
  rw [h.fitsAt.start_eq]
  exact Nat.le_add_right _ _

/-- Steps that lie end to end do not overlap, and their places are in order. -/
theorem EndToEnd.pairwise {offset : Nat} {steps : List ScanStep} (h : EndToEnd offset steps) :
    steps.Pairwise fun s s' => s.span.stop ≤ s'.span.start := by
  induction steps generalizing offset with
  | nil => exact List.Pairwise.nil
  | cons s steps ih => exact List.Pairwise.cons (fun s' hs' => h.2.le_start hs') (ih h.2)

/-- Each step takes what stands at its place in the joined text. -/
theorem EndToEnd.standsAt {steps : List ScanStep} (h : EndToEnd 0 steps) {s : ScanStep}
    (hs : s ∈ steps) : Text.StandsAt (joined steps) s.span s.text := by
  obtain ⟨before, after, rfl⟩ := List.append_of_mem hs
  have hfits := h.fitsAt
  rw [Nat.zero_add] at hfits
  have hspan : s.span = ⟨(joined before).utf8ByteSize,
      (joined before).utf8ByteSize + s.text.utf8ByteSize⟩ := by
    rw [← hfits.stop_eq]
    exact congrArg (Span.mk · s.span.stop) hfits.start_eq
  rw [joined_append, joined_cons, ← String.append_assoc, hspan]
  exact Text.standsAt_append _ _ _

/-- Every byte of the joined text belongs to exactly one step. -/
theorem EndToEnd.existsUnique_covers {offset : Nat} {steps : List ScanStep}
    (h : EndToEnd offset steps) {i : Nat} (hle : offset ≤ i)
    (hlt : i < offset + (joined steps).utf8ByteSize) :
    ∃! k : Nat, ∃ s : ScanStep, steps[k]? = some s ∧ s.span.Covers i := by
  induction steps generalizing offset with
  | nil => simp [joined] at hlt; omega
  | cons s steps ih =>
    obtain ⟨hfits, hrest⟩ := h
    by_cases hi : i < s.span.stop
    · refine ⟨0, ⟨s, rfl, Nat.le_trans (Nat.le_of_eq hfits.start_eq) hle, hi⟩, ?_⟩
      rintro (_ | k) ⟨s', hk, hcovers⟩
      · rfl
      · have hbehind := hrest.le_start (List.mem_of_getElem? hk)
        exact absurd (Nat.le_trans hbehind hcovers.1) (Nat.not_le.2 hi)
    · have hi := Nat.not_lt.1 hi
      rw [joined_cons, String.utf8ByteSize_append, ← Nat.add_assoc, ← hfits.stop_eq] at hlt
      obtain ⟨k, ⟨s', hk, hcovers⟩, hunique⟩ := ih hrest hi hlt
      refine ⟨k + 1, ⟨s', hk, hcovers⟩, ?_⟩
      rintro (_ | l) ⟨t, hl, hcovers'⟩
      · cases hl
        exact absurd hcovers'.2 (Nat.not_lt.2 hi)
      · exact congrArg (· + 1) (hunique l ⟨t, hl, hcovers'⟩)

/-- A step that covers a byte which no token covers is a skipped character. -/
theorem exists_skip_of_covers {steps : List ScanStep} {s : ScanStep} (hs : s ∈ steps) {i : Nat}
    (hcovers : s.span.Covers i)
    (hout : ∀ t ∈ steps.filterMap token?, ¬ t.span.Covers i) : ∃ offset c, s = .skip offset c := by
  cases s with
  | token t => exact absurd hcovers (hout t (List.mem_filterMap.2 ⟨.token t, hs, rfl⟩))
  | skip offset c => exact ⟨offset, c, rfl⟩

end ScanStep

namespace Lexer

open ScanStep

variable {matchers : List Matcher}

/-- The step that a scan takes at the head of a text. -/
def stepAt (matchers : List Matcher) (offset : Nat) (c : Char) (cs : List Char) : ScanStep :=
  match firstMatch matchers (c :: cs) with
  | some (kind, found) => .token (tokenAt offset kind found)
  | none => .skip offset c

/-- A step at an offset fits there, whatever the matchers answer. -/
theorem stepAt_fitsAt (matchers : List Matcher) (offset : Nat) (c : Char) (cs : List Char) :
    (stepAt matchers offset c cs).FitsAt offset := by
  unfold stepAt
  split
  · next kind found hfirst =>
    refine ⟨rfl, ?_, ?_⟩
    · change offset + found.length = offset + found.text.utf8ByteSize
      rw [PrefixMatch.length, Text.byteLength_toList]
    · change found.text ≠ ""
      simpa [PrefixMatch.isEmpty] using isEmpty_of_firstMatch hfirst
  · exact ⟨rfl, by simp [span, text], by simp [text, ← String.toList_inj]⟩

/-- Honest matchers find only what comes first in the text. -/
theorem isPrefix_of_firstMatch (hhonest : ∀ m ∈ matchers, m.Honest) {text : List Char}
    {kind : String} {found : PrefixMatch} (h : firstMatch matchers text = some (kind, found)) :
    found.text.toList <+: text := by
  obtain ⟨m, hm, hfind⟩ := List.exists_of_findSome?_eq_some h
  simp only [Option.map_eq_some_iff, Option.filter_eq_some_iff, Prod.mk.injEq] at hfind
  obtain ⟨found', ⟨hfound, -⟩, -, rfl⟩ := hfind
  exact hhonest m hm hfound

/-- With honest matchers a step takes what comes first in the text. -/
theorem stepAt_text_isPrefix (hhonest : ∀ m ∈ matchers, m.Honest) (offset : Nat) (c : Char)
    (cs : List Char) : (stepAt matchers offset c cs).text.toList <+: c :: cs := by
  unfold stepAt
  split
  · next hfirst => exact isPrefix_of_firstMatch hhonest hfirst
  · simp [text]

/-- A scan takes the step at the head of the text and goes on behind it, if what is found there
ends between two characters. -/
theorem scanFrom_cons_of_cut (offset : Nat) {c : Char} {cs : List Char}
    (hcut : ∀ {kind found}, firstMatch matchers (c :: cs) = some (kind, found) →
      ∃ rest, Text.dropBytes found.length (c :: cs) = some rest) :
    ∃ rest, Text.dropBytes (Text.byteLength (stepAt matchers offset c cs).text.toList) (c :: cs) =
        some rest ∧
      scanFrom matchers offset (c :: cs) =
        (scanFrom matchers (stepAt matchers offset c cs).span.stop rest).map
          (stepAt matchers offset c cs :: ·) := by
  cases hfirst : firstMatch matchers (c :: cs) with
  | none =>
    have hstep : stepAt matchers offset c cs = .skip offset c := by simp [stepAt, hfirst]
    refine ⟨cs, by simpa [hstep, text] using Text.dropBytes_append [c] cs, ?_⟩
    rw [hstep, scanFrom]
    split
    · next hsome => rw [hfirst] at hsome; cases hsome
    · rfl
  | some answer =>
    obtain ⟨kind, found⟩ := answer
    have hstep : stepAt matchers offset c cs = .token (tokenAt offset kind found) := by
      simp [stepAt, hfirst]
    obtain ⟨rest, hdrop⟩ := hcut hfirst
    refine ⟨rest, by rw [hstep]; exact hdrop, ?_⟩
    rw [hstep, scanFrom]
    split
    · next hsome =>
      rw [hfirst] at hsome
      cases hsome
      split
      · next hdrop' => rw [hdrop] at hdrop'; cases hdrop'; rfl
      · next hdrop' => rw [hdrop] at hdrop'; cases hdrop'
    · next hnone => rw [hfirst] at hnone; cases hnone

/-- A scan with honest matchers takes the step at the head of the text and goes on behind it. -/
theorem scanFrom_cons (hhonest : ∀ m ∈ matchers, m.Honest) (offset : Nat) (c : Char)
    (cs : List Char) :
    ∃ rest, c :: cs = (stepAt matchers offset c cs).text.toList ++ rest ∧
      scanFrom matchers offset (c :: cs) =
        (scanFrom matchers (stepAt matchers offset c cs).span.stop rest).map
          (stepAt matchers offset c cs :: ·) := by
  have hcut : ∀ {kind found}, firstMatch matchers (c :: cs) = some (kind, found) →
      ∃ rest, Text.dropBytes found.length (c :: cs) = some rest := by
    intro kind found hfirst
    obtain ⟨rest, hrest⟩ := isPrefix_of_firstMatch hhonest hfirst
    exact ⟨rest, by rw [← hrest, PrefixMatch.length, Text.dropBytes_append]⟩
  obtain ⟨rest, hdrop, hscan⟩ := scanFrom_cons_of_cut offset hcut
  obtain ⟨rest', hrest'⟩ := stepAt_text_isPrefix hhonest offset c cs
  rw [← hrest', Text.dropBytes_append] at hdrop
  cases hdrop
  exact ⟨_, hrest'.symm, hscan⟩

/-- A scan with honest matchers comes to the end, and its steps lie end to end over the text. -/
theorem exists_scanFrom (hhonest : ∀ m ∈ matchers, m.Honest) (offset : Nat) (cs : List Char) :
    ∃ steps, scanFrom matchers offset cs = .ok steps ∧ EndToEnd offset steps ∧
      (joined steps).toList = cs := by
  induction hlen : cs.length using Nat.strongRecOn generalizing offset cs with
  | ind n ih =>
    cases cs with
    | nil => exact ⟨[], scanFrom_nil matchers offset, trivial, by simp [joined]⟩
    | cons c cs =>
      obtain ⟨rest, hsplit, hscan⟩ := scanFrom_cons hhonest offset c cs
      have hfits := stepAt_fitsAt matchers offset c cs
      have hshorter : rest.length < n := by
        have hpos := List.length_pos_iff.2 (mt String.toList_eq_nil_iff.1 hfits.text_ne)
        have hsum := congrArg List.length hsplit
        rw [List.length_append] at hsum
        omega
      obtain ⟨steps, hsteps, hend, hjoined⟩ :=
        ih rest.length hshorter (stepAt matchers offset c cs).span.stop rest rfl
      refine ⟨stepAt matchers offset c cs :: steps, ?_, ⟨hfits, hend⟩, ?_⟩
      · rw [hscan, hsteps]
        rfl
      · rw [joined_cons, String.toList_append, hjoined, ← hsplit]

/-- The tokens and the skipped characters of a scan tile the text. -/
structure Tiling (text : String) (steps : List ScanStep) (tokens : List Token) : Prop where
  /-- Each token takes a stretch of at least one byte, which holds its entry. -/
  token_standsAt : ∀ t ∈ tokens, t.span.start < t.span.stop ∧ t.span.stop ≤ text.utf8ByteSize ∧
    Text.StandsAt text t.span t.entry
  /-- The tokens are in order and do not overlap. -/
  tokens_pairwise : tokens.Pairwise fun t t' => t.span.stop ≤ t'.span.start
  /-- Each skipped character stands at its place. -/
  skip_standsAt : ∀ offset c, ScanStep.skip offset c ∈ steps →
    Text.StandsAt text ⟨offset, offset + c.utf8Size⟩ (String.singleton c)
  /-- Each byte outside all tokens belongs to exactly one skipped character. -/
  existsUnique_skip : ∀ i < text.utf8ByteSize, (∀ t ∈ tokens, ¬ t.span.Covers i) →
    ∃! k : Nat, ∃ offset c, steps[k]? = some (.skip offset c) ∧
      Span.Covers ⟨offset, offset + c.utf8Size⟩ i
  /-- The steps, which are in the order of their places, make up the text. -/
  steps_pairwise : steps.Pairwise fun s s' => s.span.stop ≤ s'.span.start
  join_eq : String.join (steps.map ScanStep.text) = text

/-- With honest matchers every text has tokens, and together with the characters that are skipped
they tile the text. -/
theorem tokenize_tiles (hhonest : ∀ m ∈ matchers, m.Honest) (text : String) :
    ∃ steps tokens, scan matchers text = .ok steps ∧ tokenize matchers text = .ok tokens ∧
      tokens = steps.filterMap token? ∧ Tiling text steps tokens := by
  obtain ⟨steps, hscan, hend, hjoined⟩ := exists_scanFrom hhonest 0 text.toList
  have hjoined : joined steps = text := String.toList_inj.1 hjoined
  have hstands : ∀ s ∈ steps, Text.StandsAt text s.span s.text := by
    intro s hs
    rw [← hjoined]
    exact hend.standsAt hs
  refine ⟨steps, steps.filterMap token?, hscan, by rw [tokenize, scan, hscan]; rfl, rfl, ?_, ?_,
    fun offset c hs => hstands _ hs, ?_, hend.pairwise, hjoined⟩
  · intro t ht
    obtain ⟨s, hs, htoken⟩ := List.mem_filterMap.1 ht
    cases s with
    | token t' =>
      cases htoken
      obtain ⟨before, after, rfl⟩ := List.append_of_mem hs
      exact ⟨hend.fitsAt.start_lt_stop, (hstands _ hs).stop_le, hstands _ hs⟩
    | skip offset c => cases htoken
  · refine List.pairwise_filterMap.2 (hend.pairwise.imp ?_)
    rintro (t | _) (t' | _) hle u hu u' hu' <;> cases hu <;> cases hu'
    exact hle
  · intro i hi hout
    obtain ⟨k, ⟨s, hk, hcovers⟩, hunique⟩ :=
      hend.existsUnique_covers (Nat.zero_le i) (by rwa [Nat.zero_add, hjoined])
    obtain ⟨offset, c, rfl⟩ := exists_skip_of_covers (List.mem_of_getElem? hk) hcovers hout
    refine ⟨k, ⟨offset, c, hk, hcovers⟩, ?_⟩
    rintro l ⟨offset', c', hl, hcovers'⟩
    exact hunique l ⟨_, hl, hcovers'⟩

/-- Matchers that find nothing, a word of two bytes a letter, and pairs of letters, on a text with
characters of one, two and three bytes. -/
theorem tokenize_tiles_accented :
    (∀ m ∈ [Matcher.characters "nothing" 0, .literal "word" "éà", .characters "pair" 2],
      m.Honest) ∧
    ∃ steps tokens,
      scan [.characters "nothing" 0, .literal "word" "éà", .characters "pair" 2] "→aéà!" =
        .ok steps ∧
      tokenize [.characters "nothing" 0, .literal "word" "éà", .characters "pair" 2] "→aéà!" =
        .ok tokens ∧
      tokens = steps.filterMap token? ∧ Tiling "→aéà!" steps tokens := by
  have hhonest : ∀ m ∈ [Matcher.characters "nothing" 0, .literal "word" "éà", .characters "pair" 2],
      m.Honest := by
    intro m hm
    simp only [List.mem_cons, List.not_mem_nil, or_false] at hm
    rcases hm with rfl | rfl | rfl
    · exact Matcher.honest_characters "nothing" 0
    · exact Matcher.honest_literal "word" "éà"
    · exact Matcher.honest_characters "pair" 2
  exact ⟨hhonest, tokenize_tiles hhonest "→aéà!"⟩

end Lexer

end GrammarKit
