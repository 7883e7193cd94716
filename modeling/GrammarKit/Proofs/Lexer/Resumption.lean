import GrammarKit.Proofs.Lexer.Tiling

/-!
# A scan goes on as it begins

A scan remembers nothing. A matcher sees only the text that remains, and the place that a scan has
reached enters nothing but the places of its steps. So the steps from another offset are the same
steps, moved on, and behind any step a scan goes on as a scan of the remaining text begins.

For the tokens this means that a text can be cut behind any token and any skipped character: those
in front of the cut stay, and those behind it are the tokens of the remaining text, moved on by the
bytes in front of it.
-/

namespace GrammarKit

namespace ScanStep

/-- A step that is moved on has its stretch moved on. -/
theorem span_shift (n : Nat) (s : ScanStep) : (s.shift n).span = s.span.shift n := by
  cases s with
  | token t => rfl
  | skip offset c => exact congrArg (Span.mk (offset + n)) (Nat.add_right_comm offset n c.utf8Size)

/-- A step that is moved on takes the same text. -/
theorem text_shift (n : Nat) (s : ScanStep) : (s.shift n).text = s.text := by
  cases s <;> rfl

/-- The tokens of steps that are moved on are moved on. -/
theorem filterMap_token?_map_shift (n : Nat) (steps : List ScanStep) :
    (steps.map (shift n)).filterMap token? = (steps.filterMap token?).map (Token.shift n) := by
  rw [List.filterMap_map, List.map_filterMap]
  congr 1
  funext s
  cases s <;> rfl

/-- A token among those of some steps is that of a step. -/
theorem mem_of_mem_filterMap_token? {steps : List ScanStep} {t : Token}
    (ht : t ∈ steps.filterMap token?) : .token t ∈ steps := by
  obtain ⟨s, hs, htoken⟩ := List.mem_filterMap.1 ht
  cases s with
  | token t' => cases htoken; exact hs
  | skip offset c => cases htoken

/-- Behind some of the steps the others lie end to end. -/
theorem EndToEnd.behind {offset : Nat} {before after : List ScanStep}
    (h : EndToEnd offset (before ++ after)) :
    EndToEnd (offset + (joined before).utf8ByteSize) after := by
  induction before generalizing offset with
  | nil => exact h
  | cons s before ih =>
    have hrest := ih h.2
    rwa [h.1.stop_eq, Nat.add_assoc, ← String.utf8ByteSize_append, ← joined_cons] at hrest

/-- The steps in front of a cut end there or before. -/
theorem EndToEnd.stop_le {offset : Nat} {before after : List ScanStep}
    (h : EndToEnd offset (before ++ after)) {s : ScanStep} (hs : s ∈ before) :
    s.span.stop ≤ offset + (joined before).utf8ByteSize := by
  obtain ⟨front, back, rfl⟩ := List.append_of_mem hs
  rw [List.append_assoc] at h
  rw [h.fitsAt.stop_eq, joined_append, joined_cons, String.utf8ByteSize_append,
    String.utf8ByteSize_append]
  omega

/-- The steps behind a cut end behind it. -/
theorem EndToEnd.lt_stop {offset : Nat} {steps : List ScanStep} (h : EndToEnd offset steps)
    {s : ScanStep} (hs : s ∈ steps) : offset < s.span.stop := by
  obtain ⟨before, after, rfl⟩ := List.append_of_mem hs
  exact Nat.lt_of_le_of_lt (h.le_start hs) h.fitsAt.start_lt_stop

/-- The tokens that end at a cut or before are those of the steps in front of it. -/
theorem EndToEnd.filter_stop_le {offset : Nat} {before after : List ScanStep}
    (h : EndToEnd offset (before ++ after)) :
    ((before ++ after).filterMap token?).filter
        (fun t => t.span.stop ≤ offset + (joined before).utf8ByteSize) =
      before.filterMap token? := by
  have hfront : ∀ t ∈ before.filterMap token?,
      t.span.stop ≤ offset + (joined before).utf8ByteSize := by
    intro t ht
    exact h.stop_le (mem_of_mem_filterMap_token? ht)
  have hback : ∀ t ∈ after.filterMap token?,
      ¬ t.span.stop ≤ offset + (joined before).utf8ByteSize := by
    intro t ht
    exact Nat.not_le.2 (h.behind.lt_stop (mem_of_mem_filterMap_token? ht))
  rw [List.filterMap_append, List.filter_append, List.filter_eq_self.2, List.filter_eq_nil_iff.2,
    List.append_nil]
  · simpa using hback
  · simpa using hfront

end ScanStep

namespace Lexer

open ScanStep

variable {matchers : List Matcher}

/-- A find makes the same token at another place, moved on. -/
theorem tokenAt_add (offset n : Nat) (kind : String) (found : PrefixMatch) :
    tokenAt (offset + n) kind found = (tokenAt offset kind found).shift n :=
  congrArg (fun stop => Token.mk kind found.text found.captures ⟨offset + n, stop⟩)
    (Nat.add_right_comm offset n found.length)

/-- The step at the head of a text is the same at another offset, moved on. -/
theorem stepAt_add (matchers : List Matcher) (offset n : Nat) (c : Char) (cs : List Char) :
    stepAt matchers (offset + n) c cs = (stepAt matchers offset c cs).shift n := by
  unfold stepAt
  split
  · next kind found _ => exact congrArg ScanStep.token (tokenAt_add offset n kind found)
  · rfl

/-- A scan without steps is one of nothing. -/
theorem eq_nil_of_scanFrom (hhonest : ∀ m ∈ matchers, m.Honest) {offset : Nat} {cs : List Char}
    (h : scanFrom matchers offset cs = .ok []) : cs = [] := by
  cases cs with
  | nil => rfl
  | cons c cs =>
    obtain ⟨rest, -, hscan⟩ := scanFrom_cons hhonest offset c cs
    rw [hscan] at h
    cases hbehind : scanFrom matchers (stepAt matchers offset c cs).span.stop rest <;>
      rw [hbehind] at h <;> cases h

/-- The first step of a scan is the one at the head of the text, and the others are the scan of what
it leaves. -/
theorem exists_of_scanFrom_cons (hhonest : ∀ m ∈ matchers, m.Honest) {offset : Nat} {cs : List Char}
    {s : ScanStep} {steps : List ScanStep} (h : scanFrom matchers offset cs = .ok (s :: steps)) :
    ∃ c cs' rest, cs = c :: cs' ∧ s = stepAt matchers offset c cs' ∧ cs = s.text.toList ++ rest ∧
      scanFrom matchers s.span.stop rest = .ok steps := by
  cases cs with
  | nil => rw [scanFrom_nil] at h; cases h
  | cons c cs =>
    obtain ⟨rest, hsplit, hscan⟩ := scanFrom_cons hhonest offset c cs
    rw [hscan] at h
    cases hbehind : scanFrom matchers (stepAt matchers offset c cs).span.stop rest with
    | error e => rw [hbehind] at h; cases h
    | ok steps' =>
      rw [hbehind] at h
      cases h
      exact ⟨c, cs, rest, rfl, rfl, hsplit, hbehind⟩

/-- The steps of a scan are the same from another offset on, moved on. -/
theorem scanFrom_add (hhonest : ∀ m ∈ matchers, m.Honest) {offset : Nat} {cs : List Char}
    {steps : List ScanStep} (h : scanFrom matchers offset cs = .ok steps) (n : Nat) :
    scanFrom matchers (offset + n) cs = .ok (steps.map (shift n)) := by
  induction steps generalizing offset cs with
  | nil =>
    obtain rfl := eq_nil_of_scanFrom hhonest h
    exact scanFrom_nil matchers (offset + n)
  | cons s steps ih =>
    obtain ⟨c, cs, rest, rfl, rfl, hsplit, hbehind⟩ := exists_of_scanFrom_cons hhonest h
    obtain ⟨rest', hsplit', hscan⟩ := scanFrom_cons hhonest (offset + n) c cs
    rw [stepAt_add] at hsplit' hscan
    rw [text_shift] at hsplit'
    obtain rfl : rest = rest' := List.append_cancel_left (hsplit.symm.trans hsplit')
    rw [hscan, span_shift]
    exact congrArg (Except.map _) (ih hbehind)

/-- Behind some of its steps a scan goes on with the text that they leave. -/
theorem exists_scanFrom_behind (hhonest : ∀ m ∈ matchers, m.Honest) {offset : Nat} {cs : List Char}
    {before after : List ScanStep} (h : scanFrom matchers offset cs = .ok (before ++ after)) :
    ∃ rest, cs = (joined before).toList ++ rest ∧
      scanFrom matchers (offset + (joined before).utf8ByteSize) rest = .ok after := by
  induction before generalizing offset cs with
  | nil => exact ⟨cs, rfl, h⟩
  | cons s before ih =>
    obtain ⟨c, cs, rest, rfl, rfl, hsplit, hbehind⟩ := exists_of_scanFrom_cons hhonest h
    obtain ⟨rest', rfl, hafter⟩ := ih hbehind
    refine ⟨rest', ?_, ?_⟩
    · rw [hsplit, joined_cons, String.toList_append, List.append_assoc]
    · rwa [(stepAt_fitsAt matchers offset c cs).stop_eq, Nat.add_assoc,
        ← String.utf8ByteSize_append, ← joined_cons] at hafter

/-- Behind each step of a scan, whether it made a token or skipped a character, the text goes on as a
text of its own: its tokens are those that end there or before, and then those of the remaining text,
moved on by the bytes in front of it. -/
theorem tokenize_resumes (hhonest : ∀ m ∈ matchers, m.Honest) (text : String) :
    ∃ steps tokens, scan matchers text = .ok steps ∧ tokenize matchers text = .ok tokens ∧
      tokens = steps.filterMap token? ∧
      ∀ s ∈ steps, ∃ (front rest : String) (tokens' : List Token),
        text = front ++ rest ∧ front.utf8ByteSize = s.span.stop ∧
        tokenize matchers rest = .ok tokens' ∧
        tokens = tokens.filter (fun t => t.span.stop ≤ s.span.stop) ++
          tokens'.map (Token.shift s.span.stop) := by
  obtain ⟨steps, hscan, hend, -⟩ := exists_scanFrom hhonest 0 text.toList
  refine ⟨steps, steps.filterMap token?, hscan, by rw [tokenize, scan, hscan]; rfl, rfl, ?_⟩
  intro s hs
  -- The step is the last of those in front of the cut.
  obtain ⟨before, after, rfl⟩ := List.append_of_mem hs
  have hstop : (joined (before ++ [s])).utf8ByteSize = s.span.stop := by
    rw [hend.fitsAt.stop_eq, joined_append, joined_cons, String.utf8ByteSize_append,
      String.utf8ByteSize_append]
    simp [joined]
  rw [List.append_cons] at hscan hend
  obtain ⟨rest, hsplit, hafter⟩ := exists_scanFrom_behind hhonest hscan
  obtain ⟨steps', hscan', -, -⟩ := exists_scanFrom hhonest 0 rest
  have hmoved := scanFrom_add hhonest hscan' s.span.stop
  have hfilter := hend.filter_stop_le
  rw [hstop] at hafter
  rw [hstop, Nat.zero_add] at hfilter
  obtain rfl : after = steps'.map (shift s.span.stop) := Except.ok.inj (hafter.symm.trans hmoved)
  refine ⟨joined (before ++ [s]), String.ofList rest, steps'.filterMap token?, ?_, hstop, ?_, ?_⟩
  · rw [← String.toList_inj, hsplit, String.toList_append, String.toList_ofList]
  · rw [tokenize, scan, String.toList_ofList, hscan']
    rfl
  · rw [List.append_cons, hfilter, List.filterMap_append, filterMap_token?_map_shift]

/-- A word and pairs of letters, on a text with characters of one, two and three bytes. -/
theorem tokenize_resumes_accented :
    (∀ m ∈ [Matcher.literal "word" "or", .characters "pair" 2], m.Honest) ∧
    ∃ steps tokens, scan [.literal "word" "or", .characters "pair" 2] "→oréà!" = .ok steps ∧
      tokenize [.literal "word" "or", .characters "pair" 2] "→oréà!" = .ok tokens ∧
      tokens = steps.filterMap token? ∧
      ∀ s ∈ steps, ∃ (front rest : String) (tokens' : List Token),
        "→oréà!" = front ++ rest ∧ front.utf8ByteSize = s.span.stop ∧
        tokenize [.literal "word" "or", .characters "pair" 2] rest = .ok tokens' ∧
        tokens = tokens.filter (fun t => t.span.stop ≤ s.span.stop) ++
          tokens'.map (Token.shift s.span.stop) := by
  have hhonest : ∀ m ∈ [Matcher.literal "word" "or", .characters "pair" 2], m.Honest :=
    List.forall_mem_cons.2 ⟨Matcher.honest_literal "word" "or",
      List.forall_mem_singleton.2 (Matcher.honest_characters "pair" 2)⟩
  exact ⟨hhonest, tokenize_resumes hhonest "→oréà!"⟩

end Lexer

end GrammarKit
