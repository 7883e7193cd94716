import GrammarKit.Proofs.Block.Forest
import GrammarKit.Proofs.Engine.Placement
import GrammarKit.Rule.Window

/-!
# Parsing blocks

The rules for nested blocks: one for a block between braces, whose inside is parsed again, and one
for a text. On any list of braces and texts the engine finds the forest that is left without the
braces that have no partner.

The test of a block is asked for longer and longer windows, so it first accepts the one that ends
with the partner of the opening brace. A brace without a partner is skipped, for neither of the
rules matches there.
-/

namespace GrammarKit

/-- The rule for a block. -/
def blockRule (onBlock : List Token → Json) : Rule where
  name := "text-block"
  recognizer := .predicate (isBlock "\x7b" "\x7d")
  transform := some onBlock
  hasSubRules := true
  name_ne_blank := by decide
  not_emptySequence := rfl

/-- The rule for a text. -/
def textRule (onText : List Token → Json) : Rule where
  name := "text"
  recognizer := .sequence ["text"]
  transform := some onText
  name_ne_blank := by decide
  not_emptySequence := rfl

/-- The rules for nested blocks, in order. -/
def blockRules (onBlock onText : List Token → Json) : List Rule := [blockRule onBlock, textRule onText]

/-- The entries of a forest. There is nothing under a text or under an empty block. -/
def Forest.entries (onBlock onText : List Token → Json) : Forest → List ParseEntry
  | .nil => []
  | .text t _ rest => .mk "text" (.value (onText [t])) none :: rest.entries onBlock onText
  | .block o c _ _ contents rest =>
    .mk "text-block" (.value (onBlock (o :: (contents.tokens ++ [c]))))
        (if contents.tokens = [] then none else some (contents.entries onBlock onText)) ::
      rest.entries onBlock onText

/-- The windows of a list are its first token alone, and that with a window of the rest. -/
theorem find?_windowLengths_cons (accepts : List Token → Bool) (t : Token) (ts : List Token) :
    ((Recognizer.windowLengths (t :: ts)).find? fun n => accepts ((t :: ts).take n)) =
      if accepts [t] then some 1
      else ((Recognizer.windowLengths ts).find? fun n => accepts (t :: ts.take n)).map (· + 1) := by
  have hlengths : Recognizer.windowLengths (t :: ts) =
      1 :: (Recognizer.windowLengths ts).map (· + 1) := by
    simp [Recognizer.windowLengths, List.range_succ_eq_map]
  rw [hlengths, List.find?_cons, List.find?_map, List.take_succ_cons, List.take_zero]
  cases accepts [t] <;> rfl

/-- A test that puts another one to what is behind the first token first accepts the window that the
other one does, and the token. -/
theorem find?_windowLengths_cons_of_eq {accepts later : List Token → Bool} {t : Token}
    (h : ∀ window, accepts (t :: window) = later window) (hnil : later [] = false)
    (ts : List Token) :
    ((Recognizer.windowLengths (t :: ts)).find? fun n => accepts ((t :: ts).take n)) =
      ((Recognizer.windowLengths ts).find? fun n => later (ts.take n)).map (· + 1) := by
  rw [find?_windowLengths_cons, h, hnil, if_neg Bool.false_ne_true]
  simp only [h]

/-- From inside a block the test first accepts the window up to the partner of its opening brace. -/
theorem find?_isBlockFrom (depth : Nat) (ts : List Token) :
    ((Recognizer.windowLengths ts).find? fun n =>
      isBlockFrom "\x7b" "\x7d" (depth + 1) (ts.take n)) = closingLength? depth ts := by
  fun_induction closingLength? depth ts with
  | case1 => rfl
  | case2 depth t ts hopening ih =>
    have hdeeper : ∀ window, isBlockFrom "\x7b" "\x7d" (depth + 1) (t :: window) =
        isBlockFrom "\x7b" "\x7d" (depth + 1 + 1) window := fun window => by
      simp only [isBlockFrom, if_pos hopening]
    rw [find?_windowLengths_cons_of_eq hdeeper rfl, ih]
  | case3 t ts hnot hclosing =>
    rw [find?_windowLengths_cons, if_pos]
    simp only [isBlockFrom, if_neg hnot, if_pos hclosing, List.isEmpty_nil]
  | case4 t ts hnot hclosing d ih =>
    have hhigher : ∀ window, isBlockFrom "\x7b" "\x7d" (d + 1 + 1) (t :: window) =
        isBlockFrom "\x7b" "\x7d" (d + 1) window := fun window => by
      simp only [isBlockFrom, if_neg hnot, if_pos hclosing]
    rw [find?_windowLengths_cons_of_eq hhigher rfl, ih]
  | case5 depth t ts hnot hnot' ih =>
    have hsame : ∀ window, isBlockFrom "\x7b" "\x7d" (depth + 1) (t :: window) =
        isBlockFrom "\x7b" "\x7d" (depth + 1) window := fun window => by
      cases depth <;> simp only [isBlockFrom, if_neg hnot, if_neg hnot']
    rw [find?_windowLengths_cons_of_eq hsame rfl, ih]

/-- At an opening brace the smallest block ends with the partner of the brace, if there is one. -/
theorem smallestWindow?_of_isOpening {o : Token} (ho : o.IsOpening) (ts : List Token) :
    (Recognizer.predicate (isBlock "\x7b" "\x7d")).smallestWindow? (o :: ts) =
      (closingLength? 0 ts).map (· + 1) := by
  have hinside : ∀ window, isBlock "\x7b" "\x7d" (o :: window) =
      isBlockFrom "\x7b" "\x7d" (0 + 1) window := fun window => by
    rw [isBlock, isBlockFrom, if_pos ho.2]
  rw [Recognizer.smallestWindow?, find?_windowLengths_cons_of_eq hinside rfl, find?_isBlockFrom]

/-- No block begins with another token. -/
theorem smallestWindow?_of_entry_ne {t : Token} (ht : t.entry ≠ "\x7b") (ts : List Token) :
    (Recognizer.predicate (isBlock "\x7b" "\x7d")).smallestWindow? (t :: ts) = none := by
  have hnever : ∀ window, isBlock "\x7b" "\x7d" (t :: window) = (fun _ => false) window :=
    fun window => by rw [isBlock, isBlockFrom, if_neg ht]
  rw [Recognizer.smallestWindow?, find?_windowLengths_cons_of_eq hnever rfl]
  simp

section Moves

variable {onBlock onText : List Token → Json} {t o c : Token} {ts : List Token}

/-- The window of a block at the head of a list. -/
theorem take_block (o c : Token) (contents : Forest) (ts : List Token) :
    (o :: (contents.tokens ++ c :: ts)).take (contents.tokens.length + 2) =
      o :: (contents.tokens ++ [c]) := by
  rw [List.take_succ_cons, List.take_length_add_append]
  rfl

/-- The rule for a block takes a block up to the partner of its opening brace. -/
theorem test_blockRule_block (ho : o.IsOpening) (hc : c.IsClosing) (contents : Forest) :
    (blockRule onBlock).test (o :: (contents.tokens ++ c :: ts)) =
      some ⟨contents.tokens.length + 2, .value (onBlock (o :: (contents.tokens ++ [c])))⟩ := by
  rw [Rule.test_eq_some_iff, take_block]
  refine ⟨?_, rfl⟩
  rw [blockRule, smallestWindow?_of_isOpening ho, closingLength?_tokens_append,
    closingLength?_closing_zero hc]
  simp only [Option.map_some]
  congr 1
  omega

/-- The rule for a block passes over an opening brace that nothing closes. -/
theorem test_blockRule_of_never (ho : o.IsOpening) (hnever : closingLength? 0 ts = none) :
    (blockRule onBlock).test (o :: ts) = none := by
  rw [Rule.test, blockRule, smallestWindow?_of_isOpening ho, hnever]
  rfl

/-- The rule for a block passes over all but opening braces. -/
theorem test_blockRule_of_entry_ne (ht : t.entry ≠ "\x7b") :
    (blockRule onBlock).test (t :: ts) = none := by
  rw [Rule.test, blockRule, smallestWindow?_of_entry_ne ht]
  rfl

/-- The rule for a text takes a text. -/
theorem test_textRule_text (ht : t.kind = "text") :
    (textRule onText).test (t :: ts) = some ⟨1, .value (onText [t])⟩ := by
  rw [Rule.test_eq_some_iff]
  exact ⟨if_pos (congrArg (· :: []) ht), rfl⟩

/-- The rule for a text passes over all other tokens. -/
theorem test_textRule_of_kind_ne (ht : t.kind ≠ "text") : (textRule onText).test (t :: ts) = none := by
  have hno : (Recognizer.sequence ["text"]).smallestWindow? (t :: ts) = none :=
    if_neg fun h => ht (List.cons.inj h).1
  rw [Rule.test, textRule, hno]
  rfl

open Engine

/-- A text becomes an entry of its own. -/
theorem parse_text (ht : t.IsText) : parse (blockRules onBlock onText) (t :: ts) =
    .mk "text" (.value (onText [t])) none :: parse (blockRules onBlock onText) ts := by
  rw [parse, run, blockRules, entries_runFrom_pass (test_blockRule_of_entry_ne ht.2.1),
    entries_runFrom_take (test_textRule_text ht.1), entries_runFrom_over]
  rfl

/-- A token where neither of the rules matches is skipped. -/
theorem parse_skip (hblock : (blockRule onBlock).test (t :: ts) = none)
    (htext : (textRule onText).test (t :: ts) = none) :
    parse (blockRules onBlock onText) (t :: ts) = parse (blockRules onBlock onText) ts := by
  rw [parse, run, blockRules, entries_runFrom_pass hblock, entries_runFrom_pass htext,
    entries_runFrom_skip, entries_runFrom_place]
  rfl

/-- When the rule for a block has matched and only the one for a text is left, the pass goes on as
a parse does, since the first rule matches no text. -/
theorem entries_runFrom_textRule (place : Nat) (hhead : ∀ t ∈ ts.head?, t.IsBraceOrText) :
    (runFrom (blockRules onBlock onText) [textRule onText] true place ts).entries =
      parse (blockRules onBlock onText) ts := by
  cases ts with
  | nil => rw [entries_runFrom_nil, parse_nil]
  | cons t ts =>
    have hskip : t.kind ≠ "text" →
        (runFrom (blockRules onBlock onText) [textRule onText] true place (t :: ts)).entries =
          parse (blockRules onBlock onText) (t :: ts) := fun hkind => by
      rw [entries_runFrom_pass (test_textRule_of_kind_ne hkind), entries_runFrom_over]
    rcases hhead t rfl with ho | hc | ht
    · exact hskip ho.1
    · exact hskip hc.1
    · rw [parse_text ht, entries_runFrom_take (test_textRule_text ht.1), entries_runFrom_over]
      rfl

/-- Inside a block there are its contents, if there are any. -/
theorem interior_block (o c : Token) (contents : Forest) :
    Engine.interior (o :: (contents.tokens ++ [c])) =
      if contents.tokens = [] then none else some contents.tokens := by
  rw [Engine.interior, List.tail_cons, List.dropLast_concat]
  cases contents.tokens <;> rfl

/-- A block becomes an entry, and what its contents become is under it. -/
theorem parse_block (ho : o.IsOpening) (hc : c.IsClosing) (contents : Forest)
    (hhead : ∀ t ∈ ts.head?, t.IsBraceOrText) :
    parse (blockRules onBlock onText) (o :: (contents.tokens ++ c :: ts)) =
      .mk "text-block" (.value (onBlock (o :: (contents.tokens ++ [c]))))
          (if contents.tokens = [] then none
            else some (parse (blockRules onBlock onText) contents.tokens)) ::
        parse (blockRules onBlock onText) ts := by
  have hafter : (o :: (contents.tokens ++ c :: ts)).drop (contents.tokens.length + 2) = ts := by
    rw [List.drop_succ_cons, List.drop_length_add_append, List.drop_one, List.tail_cons]
  have hinside : entriesInside (blockRules onBlock onText) (blockRule onBlock)
      (o :: (contents.tokens ++ [c])) = if contents.tokens = [] then none
        else some (parse (blockRules onBlock onText) contents.tokens) := by
    have hasks : (blockRule onBlock).hasSubRules = true := rfl
    rw [entriesInside, if_pos hasks, interior_block, apply_ite (Option.map _)]
    rfl
  calc parse (blockRules onBlock onText) (o :: (contents.tokens ++ c :: ts))
    _ = _ := entries_runFrom_take (test_blockRule_block ho hc contents)
    _ = _ := by
      rw [take_block, hafter, hinside, entries_runFrom_textRule _ hhead]
      rfl

end Moves

/-- Where a list is sorted out, the parse is the forest that is left. -/
theorem Sorts.parse_eq {onBlock onText : List Token → Json} {ts : List Token} {f : Forest}
    (h : Sorts ts f) : Engine.parse (blockRules onBlock onText) ts = f.entries onBlock onText := by
  induction h with
  | nil => exact Engine.parse_nil _
  | text ht hrest ih => rw [parse_text ht, ih, Forest.entries]
  | block ho hc hcontents hrest ihcontents ih =>
    rw [parse_block ho hc _ hrest.isBraceOrText_of_mem_head?, ihcontents, ih, Forest.entries]
  | closing hc hrest ih =>
    rw [parse_skip (test_blockRule_of_entry_ne hc.entry_ne) (test_textRule_of_kind_ne hc.1), ih]
  | opening ho hnever hrest ih =>
    rw [parse_skip (test_blockRule_of_never ho hnever) (test_textRule_of_kind_ne ho.1), ih]

/-- A list of braces and texts without the braces that have no partner is the list of tokens of one
forest, and that is what the rules for nested blocks parse: each text and each block in order, with
the contents of a block under its entry unless it is empty. -/
theorem parse_blocks (onBlock onText : List Token → Json) (tokens : List Token)
    (h : ∀ t ∈ tokens, t.IsBraceOrText) :
    ∃ f : Forest, (∀ g : Forest, g.tokens = withoutUnmatched tokens ↔ g = f) ∧
      Engine.parse (blockRules onBlock onText) tokens = f.entries onBlock onText := by
  obtain ⟨f, hf⟩ := Sorts.exists_of_isBraceOrText h
  refine ⟨f, fun g => ?_, hf.parse_eq⟩
  rw [hf.withoutUnmatched_eq]
  exact ⟨Forest.tokens_injective, congrArg Forest.tokens⟩

/-- Of `} { a { } } { b` the first brace and the last one have no partner. -/
theorem parse_blocks_stray :
    Engine.parse
      (blockRules (fun _ => .object [])
        (fun window => .object [("text", .string (WindowTransform.entryAt window 0))]))
      [.ofEntry "block" "\x7d" ⟨0, 1⟩, .ofEntry "block" "\x7b" ⟨2, 3⟩, .ofEntry "text" "a" ⟨4, 5⟩,
        .ofEntry "block" "\x7b" ⟨6, 7⟩, .ofEntry "block" "\x7d" ⟨8, 9⟩,
        .ofEntry "block" "\x7d" ⟨10, 11⟩, .ofEntry "block" "\x7b" ⟨12, 13⟩,
        .ofEntry "text" "b" ⟨14, 15⟩] =
      [.mk "text-block" (.value (.object []))
        (some [.mk "text" (.value (.object [("text", .string "a")])) none,
          .mk "text-block" (.value (.object [])) none]),
        .mk "text" (.value (.object [("text", .string "b")])) none] := by
  let inner : Forest := .block (.ofEntry "block" "\x7b" ⟨6, 7⟩) (.ofEntry "block" "\x7d" ⟨8, 9⟩)
    (by decide) (by decide) .nil .nil
  let outer : Forest := .block (.ofEntry "block" "\x7b" ⟨2, 3⟩) (.ofEntry "block" "\x7d" ⟨10, 11⟩)
    (by decide) (by decide) (.text (.ofEntry "text" "a" ⟨4, 5⟩) (by decide) inner)
    (.text (.ofEntry "text" "b" ⟨14, 15⟩) (by decide) .nil)
  refine Exists.elim (parse_blocks _ _ _ (by decide)) fun f hf => hf.2.trans ?_
  rw [← (hf.1 outer).1 (by decide)]
  rfl

end GrammarKit
