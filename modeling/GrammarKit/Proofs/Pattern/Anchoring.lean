import GrammarKit.Proofs.Text.Reading
import GrammarKit.TokenMatcher

/-!
# Where anchored patterns match

An anchored pattern is a text: the condition on the start of the text, and a group around the
pattern. The condition leads the first branch of the outermost level, and that branch is the whole
as long as no bar stands outside of all groups. Then every match begins at the start of the text,
and what is found comes first in it.

A pattern that closes the group around it, and goes on with a bar, has a stray bar: what stands
behind the bar is not led by the condition, and is looked for in the whole text.
-/

namespace GrammarKit.Pattern

open GrammarKit.Text GrammarKit.Unicode

/-- Whether a bar of the pattern stands outside of the group that the anchored pattern has around
it. -/
def hasStrayBar (pattern : List Char) : Bool :=
  match Tree.ofPattern (anchored pattern) with
  | .ok (.alternation _) => true
  | _ => false

namespace Regex

/-- Behind the condition on the start of the text a match begins there. -/
theorem matchAt_concat_textStart (r : Regex) (text : Array Char) {start : Nat}
    (hstart : start ≤ text.size) :
    (concat (.look .textStart) r).matchAt text start =
      if start = 0 then r.matchAt text 0 else none := by
  split
  · next hzero => subst hzero; rfl
  · next hpos =>
    have hbefore : text[start - 1]? = some text[start - 1] :=
      Array.getElem?_eq_getElem (by omega)
    simp [matchAt, ways, hpos, hbefore, Look.holds_textStart]

/-- Behind the condition on the start of the text, a match is looked for at that place only. -/
theorem search_concat_textStart (r : Regex) (text : Array Char) :
    (concat (.look .textStart) r).search text = r.matchAt text 0 := by
  have hlater : (List.range' 1 text.size).findSome?
      ((concat (.look .textStart) r).matchAt text) = none := by
    rw [List.findSome?_eq_none_iff]
    intro start hmem
    rw [List.mem_range'_1] at hmem
    rw [matchAt_concat_textStart r text (by omega), if_neg (by omega)]
  rw [search, List.range_eq_range', List.range'_succ, List.findSome?_cons, hlater,
    matchAt_concat_textStart r text (Nat.zero_le _), if_pos rfl]
  cases r.matchAt text 0 <;> rfl

/-- A match at a place begins there. -/
theorem start_of_matchAt {r : Regex} {text : Array Char} {start : Nat} {found : Match}
    (h : r.matchAt text start = some found) : found.start = start := by
  obtain ⟨_, -, rfl⟩ := Option.map_eq_some_iff.1 h
  rfl

end Regex

namespace Assembly

/-- The group around an anchored pattern, as it is opened behind the condition on the start. -/
def anchorGroup : OpenGroup := ⟨none, {}, [.look .textStart], []⟩

/-- At the outermost level the condition on the start of the text comes first, unless a bar has
ended the branch that it leads, and it does not stand there alone unless a group is open. -/
def IsLed (a : Assembly) : Prop :=
  match a.groups.getLast? with
  | some g => g.branches = [] → ∃ ts, g.parts = ts ++ [.look .textStart]
  | none => a.branches = [] → ∃ t ts, a.parts = t :: ts ++ [.look .textStart]

/-- What happens inside of a group does not touch the outermost level. -/
theorem IsLed.of_groups_eq {a b : Assembly} (h : a.IsLed) (hgroups : b.groups = a.groups)
    (hne : a.groups ≠ []) : b.IsLed := by
  obtain ⟨g, hg⟩ : ∃ g, a.groups.getLast? = some g := ⟨_, List.getLast?_eq_some_getLast hne⟩
  simp only [IsLed, hgroups, hg] at h ⊢
  exact h

/-- A change of the parts at hand keeps the lead if it leaves a part before what it leaves alone. -/
theorem IsLed.of_parts {a b : Assembly} (h : a.IsLed) (hgroups : b.groups = a.groups)
    (hbranches : b.branches = a.branches)
    (hparts : ∀ t ts last, a.parts = t :: ts ++ [last] → ∃ t' ts', b.parts = t' :: ts' ++ [last]) :
    b.IsLed := by
  by_cases hne : a.groups = []
  · simp only [IsLed, hgroups, hne, hbranches, List.getLast?_nil] at h ⊢
    intro hnil
    obtain ⟨t, ts, hts⟩ := h hnil
    exact hparts t ts _ hts
  · exact h.of_groups_eq hgroups hne

/-- A group that opens keeps what stood before it. -/
theorem IsLed.of_open {a b : Assembly} {g : OpenGroup} (h : a.IsLed)
    (hgroups : b.groups = g :: a.groups) (hparts : g.parts = a.parts)
    (hbranches : g.branches = a.branches) : b.IsLed := by
  simp only [IsLed, hgroups, List.getLast?_cons] at h ⊢
  cases hlast : a.groups.getLast? with
  | some g' =>
    rw [hlast] at h
    exact h
  | none =>
    rw [hlast] at h
    intro hnil
    obtain ⟨t, ts, hts⟩ := h (hbranches ▸ hnil)
    exact ⟨t :: ts, hparts.trans hts⟩

/-- Every sign keeps the lead. -/
theorem IsLed.push {a a' : Assembly} {s : Sign} (h : a.IsLed) (hpush : a.push s = .ok a') :
    a'.IsLed := by
  cases s with
  | part t =>
    cases hpush
    exact h.of_parts rfl rfl fun u ts last hts => ⟨t, u :: ts, congrArg (t :: ·) hts⟩
  | repetition min max lazyMark =>
    simp only [Assembly.push] at hpush
    split at hpush
    · next t rest hparts =>
      split at hpush
      · cases hpush
        refine h.of_parts rfl rfl fun u ts last hts => ?_
        rw [hparts] at hts
        cases hts
        exact ⟨_, ts, rfl⟩
      · cases hpush
    · cases hpush
  | flagChange signs =>
    cases hpush
    exact h.of_parts rfl rfl fun u ts last hts => ⟨.flagChange, u :: ts, congrArg (_ :: ·) hts⟩
  | openPlain signs => cases hpush; exact h.of_open rfl rfl rfl
  | openCapture name =>
    simp only [Assembly.push] at hpush
    split at hpush
    · cases hpush
    · cases hpush; exact h.of_open rfl rfl rfl
  | close =>
    simp only [Assembly.push] at hpush
    split at hpush
    · next g outer hgroups =>
      cases hpush
      simp only [IsLed, hgroups, List.getLast?_cons] at h ⊢
      cases hlast : outer.getLast? with
      | some g' =>
        rw [hlast] at h
        exact h
      | none =>
        -- The group that closes was the outermost one: it comes behind what leads.
        rw [hlast] at h
        intro hnil
        obtain ⟨ts, hts⟩ := h hnil
        exact ⟨_, ts, congrArg (_ :: ·) hts⟩
    · cases hpush
  | bar =>
    cases hpush
    by_cases hne : a.groups = []
    · simp only [IsLed, hne, List.getLast?_nil]
      intro hnil
      cases hnil
    · exact h.of_groups_eq rfl hne

/-- A pattern that is led by the condition to its end has a stray bar, or stands as a whole behind
the condition. -/
theorem IsLed.finish {a : Assembly} {t : Tree} (h : a.IsLed) (hfinish : a.finish = .ok t) :
    (∃ ts, t = .alternation ts) ∨ ∃ u us, t = .concat (.look .textStart :: u :: us) := by
  unfold Assembly.finish at hfinish
  split at hfinish
  · next hgroups =>
    cases hfinish
    simp only [IsLed, List.isEmpty_iff.1 hgroups, List.getLast?_nil] at h
    rw [content]
    cases hbranches : a.branches with
    | nil =>
      obtain ⟨u, us, hparts⟩ := h hbranches
      right
      rw [branch, hparts, List.reverse_append]
      cases hus : (u :: us).reverse with
      | nil => simp at hus
      | cons v vs => exact ⟨v, vs, rfl⟩
    | cons b bs =>
      left
      cases hbs : (b :: bs).reverse with
      | nil => simp at hbs
      | cons v vs =>
        rw [List.reverse_cons, hbs]
        cases vs <;> exact ⟨_, rfl⟩
  · cases hfinish

end Assembly

namespace PatternReader

open Assembly

/-- A round over a pattern adds a sign to what has been read, or passes over space. -/
theorem exists_push_of_run_step {a : Assembly} {c : Char} {cs rest : List Char}
    {r : Assembly ⊕ Tree} (h : (assemblyStep a c).run cs = .ok (r, rest)) :
    ∃ a', r = .inl a' ∧
      (a' = a ∨ ∃ s cs', (sign a.flags c).run cs = .ok (s, cs') ∧ a.push s = .ok a') := by
  unfold assemblyStep at h
  split at h
  · cases h; exact ⟨a, rfl, .inl rfl⟩
  · split at h
    · cases h; exact ⟨a, rfl, .inl rfl⟩
    · obtain ⟨s, cs', hsign, h⟩ := Reader.run_bind_eq_ok_iff.1 h
      obtain ⟨a', cs'', hread, h⟩ := Reader.run_bind_eq_ok_iff.1 h
      have hpush := (Reader.run_ofExcept_eq_ok_iff.1 hread).1
      cases h
      exact ⟨a', rfl, .inr ⟨s, cs', hsign, hpush⟩⟩

/-- What every sign that is read keeps holds at the end of a pattern. -/
theorem exists_finish_of_run {P : Assembly → Prop} {a : Assembly} {cs rest : List Char} {t : Tree}
    (hpush : ∀ {a a' c cs s rest}, P a → (sign a.flags c).run cs = .ok (s, rest) →
      a.push s = .ok a' → P a')
    (ha : P a) (h : (assembleFrom a).run cs = .ok (t, rest)) : ∃ a', P a' ∧ a'.finish = .ok t := by
  have hround : ∀ {b c cs b' cs'}, P b → (assemblyStep b c).run cs = .ok (.inl b', cs') → P b' := by
    intro b c cs b' cs' hb hstep
    obtain ⟨b'', hb'', hcases⟩ := exists_push_of_run_step hstep
    cases hb''
    obtain rfl | ⟨s, rest, hsign, hs⟩ := hcases
    · exact hb
    · exact hpush hb hsign hs
  obtain ⟨a', ha', hend | ⟨c, cs', hstep⟩⟩ := Reader.exists_end_of_run_loop hround ha h
  · exact ⟨a', ha', hend⟩
  · obtain ⟨b, hb, -⟩ := exists_push_of_run_step hstep
    cases hb

/-- The text before an anchored pattern is read as the condition and the opening of the group. -/
theorem run_assembleFrom_anchored (pattern : List Char) :
    (assembleFrom {}).run (anchored pattern) =
      (assembleFrom { groups := [anchorGroup] }).run (pattern ++ [')']) := by
  have hlook : (assemblyStep {} '\\').run ('A' :: '(' :: '?' :: ':' :: (pattern ++ [')'])) =
      .ok (.inl { parts := [.look .textStart] }, '(' :: '?' :: ':' :: (pattern ++ [')'])) := rfl
  have hopen : (assemblyStep { parts := [.look .textStart] } '(').run
      ('?' :: ':' :: (pattern ++ [')'])) =
      .ok (.inl { groups := [anchorGroup] }, pattern ++ [')']) := rfl
  rw [anchored_eq, assembleFrom, Reader.run_loop_next hlook, Reader.run_loop_next hopen,
    assembleFrom]

end PatternReader

/-- The tree of a pattern is what is read from the pattern to its end. -/
theorem exists_run_of_ofPattern {pattern : List Char} {t : Tree}
    (h : Tree.ofPattern pattern = .ok t) :
    ∃ rest, (PatternReader.assembleFrom {}).run pattern = .ok (t, rest) := by
  cases hrun : (PatternReader.assembleFrom {}).run pattern with
  | error e =>
    rw [Tree.ofPattern, hrun] at h
    cases h
  | ok answer =>
    rw [Tree.ofPattern, hrun] at h
    cases h
    exact ⟨answer.2, rfl⟩

/-- The well-written patterns within the limits are the ones that compile. -/
theorem compile_eq_ok_iff {pattern : List Char} {r : Regex} :
    compile pattern = .ok r ↔ ∃ t, Tree.ofPattern pattern = .ok t ∧
      (t.depth ≤ Tree.depthLimit ∧ t.toRegex.size ≤ Regex.sizeLimit) ∧ r = t.toRegex := by
  cases ht : Tree.ofPattern pattern with
  | error e => simp [compile, ht, bind, Except.bind]
  | ok t =>
    simp only [compile, ht, bind, Except.bind, throw, throwThe, MonadExceptOf.throw, pure,
      Except.pure, Except.ok.injEq, exists_eq_left']
    split
    · next hdepth => simp [Nat.not_le.2 hdepth]
    · next hdepth =>
      split
      · next hsize => simp [Nat.not_le.2 hsize]
      · next hsize => simp [Nat.not_lt.1 hdepth, Nat.not_lt.1 hsize, eq_comm]

/-- A pattern that compiles has a tree, whose meaning it is. -/
theorem exists_tree_of_compile {pattern : List Char} {r : Regex} (h : compile pattern = .ok r) :
    ∃ t, Tree.ofPattern pattern = .ok t ∧ r = t.toRegex := by
  obtain ⟨t, ht, -, hr⟩ := compile_eq_ok_iff.1 h
  exact ⟨t, ht, hr⟩

/-- A pattern without a stray bar is led as a whole by the condition on the start of the text. -/
theorem exists_eq_concat_of_compile {pattern : List Char} {r : Regex}
    (h : compile (anchored pattern) = .ok r) (hbar : hasStrayBar pattern = false) :
    ∃ s, r = .concat (.look .textStart) s := by
  obtain ⟨t, ht, rfl⟩ := exists_tree_of_compile h
  have hled : Assembly.IsLed { groups := [Assembly.anchorGroup] } := fun _ => ⟨[], rfl⟩
  obtain ⟨rest, hrun⟩ := exists_run_of_ofPattern ht
  rw [PatternReader.run_assembleFrom_anchored] at hrun
  obtain ⟨a, ha, hfinish⟩ :=
    PatternReader.exists_finish_of_run (fun ha _ hpush => ha.push hpush) hled hrun
  obtain ⟨ts, rfl⟩ | ⟨u, us, rfl⟩ := ha.finish hfinish
  · simp [hasStrayBar, ht] at hbar
  · exact ⟨_, rfl⟩

end Pattern

namespace TokenMatcher

open Pattern Unicode

/-- Behind the condition on the start of the text, what is found is the match at that place. -/
theorem find_of_regex_eq {m : TokenMatcher} {r : Regex}
    (h : m.regex = .concat (.look .textStart) r) (text : List Char) :
    m.find text = (r.matchAt text.toArray 0).map fun found =>
      ⟨slice text.toArray 0 found.stop, found.texts text.toArray r.lastCapture⟩ := by
  have hlast : (Regex.concat (.look .textStart) r).lastCapture = r.lastCapture := Nat.zero_max _
  rw [find]
  simp only [h, hlast, Regex.search_concat_textStart]
  refine Option.map_congr fun found hfound => ?_
  rw [Regex.start_of_matchAt hfound]

/-- The slice from the start of a text comes first in it. -/
theorem slice_zero_isPrefix (text : List Char) (stop : Nat) :
    (slice text.toArray 0 stop).toList <+: text := by
  simp [slice, List.extract, List.take_prefix]

/-- A pattern without a stray bar finds only what comes first in the text. -/
theorem isPrefix_of_find {m : TokenMatcher} (h : hasStrayBar m.pattern.toList = false)
    {text : List Char} {found : PrefixMatch} (hfind : m.find text = some found) :
    found.text.toList <+: text := by
  obtain ⟨r, hr⟩ := exists_eq_concat_of_compile m.compile_eq h
  rw [find_of_regex_eq hr] at hfind
  obtain ⟨_, -, rfl⟩ := Option.map_eq_some_iff.1 hfind
  exact slice_zero_isPrefix text _

/-- Every pattern finds a piece of the text. -/
theorem isInfix_of_find {m : TokenMatcher} {text : List Char} {found : PrefixMatch}
    (hfind : m.find text = some found) : found.text.toList <:+: text := by
  obtain ⟨_, -, rfl⟩ := Option.map_eq_some_iff.1 hfind
  simp only [slice, String.toList_ofList, List.extract_eq_take_drop]
  exact (List.take_prefix _ _).isInfix.trans (List.drop_suffix _ _).isInfix

/-- The matcher of a pattern without a stray bar is honest. -/
theorem honest_toMatcher (m : TokenMatcher) (h : hasStrayBar m.pattern.toList = false) :
    m.toMatcher.Honest :=
  fun hfind => isPrefix_of_find h hfind

/-- A pattern that closes the group around it and opens another, with a bar inside of that one. -/
theorem honest_toMatcher_reopened : ∃ m, define "k" "a)(?:b|c" = .ok m ∧
    hasStrayBar m.pattern.toList = false ∧ m.toMatcher.Honest := by
  obtain ⟨m, hm, -, hpattern⟩ := exists_define "k" "a)(?:b|c" (by decide) (by decide +kernel)
  have hbar : hasStrayBar m.pattern.toList = false := by
    rw [hpattern]
    decide +kernel
  exact ⟨m, hm, hbar, honest_toMatcher m hbar⟩

/-- Behind a stray bar the condition on the start of the text is lost. -/
theorem exists_define_stray_bar : ∃ m, define "k" "a)|(?:b" = .ok m ∧
    m.regex = .alt (.concat (.look .textStart) (.chars (.singleton 'a')))
      (.chars (.singleton 'b')) := by
  have hcompile : compile (anchored "a)|(?:b".toList) =
      .ok (.alt (.concat (.look .textStart) (.chars (.singleton 'a')))
        (.chars (.singleton 'b'))) :=
    eq_ok_of_toOption (by decide +kernel)
  exact ⟨⟨"k", "a)|(?:b", _, by decide, hcompile⟩,
    ofDescription_describe ⟨"k", "a)|(?:b", _, by decide, hcompile⟩, rfl⟩

/-- What stands behind a stray bar is found in the middle of a text. -/
theorem find_behind_stray_bar : ∃ m found, define "k" "a)|(?:b" = .ok m ∧
    m.find ['x', 'b'] = some found ∧ ¬ found.text.toList <+: ['x', 'b'] := by
  obtain ⟨m, hm, hregex⟩ := exists_define_stray_bar
  have hsearch : m.regex.search #['x', 'b'] = some ⟨1, 2, []⟩ := by
    rw [hregex]
    simp [Regex.search, List.range_succ, Regex.matchAt, Regex.ways, Way.fork, Way.orElse, Way.done,
      CharSet.contains_singleton, Look.holds_textStart]
  refine ⟨m, _, hm, by rw [find, hsearch]; rfl, ?_⟩
  simp [slice]

end TokenMatcher

end GrammarKit
