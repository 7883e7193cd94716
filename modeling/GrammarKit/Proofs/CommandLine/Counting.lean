import Mathlib.Algebra.Ring.Nat
import Mathlib.Data.List.Induction
import Mathlib.Data.List.Nodup
import GrammarKit.CommandLine.Outcome

/-!
# Counting is exact

Counts are made by going over the items: the key of each raises the count of that name, or is put
behind the others with a count of one. A step keeps the names distinct, and therefore the counts are
determined by what the look-up of a name finds. It finds the number of items with the key, however
they are ordered, and each step raises the sum of all counts by one.

So what is reported about the tokens of a text adds up: the total is the sum of the counts of the
kinds, whenever the command has a grammar and a text at all.
-/

namespace GrammarKit

namespace Count

variable {α : Type} {key : α → String} {counts : List Count}

/-- A key that has a count leaves the names as they are, and another is put behind them. -/
theorem map_name_bump (name : String) (counts : List Count) :
    (bump name counts).map (·.name) =
      if name ∈ counts.map (·.name) then counts.map (·.name) else counts.map (·.name) ++ [name] := by
  induction counts with
  | nil => rfl
  | cons c cs ih =>
    by_cases hc : c.name = name
    · simp [bump, hc]
    · have hne : name ≠ c.name := fun h => hc h.symm
      rw [bump, if_neg hc, List.map_cons, ih, List.map_cons]
      by_cases hmem : name ∈ cs.map (·.name) <;> simp [hmem, hne]

/-- Names stay distinct. -/
theorem nodup_map_name_bump (h : (counts.map (·.name)).Nodup) (name : String) :
    ((bump name counts).map (·.name)).Nodup := by
  rw [map_name_bump]
  split
  · exact h
  · next hmem =>
    rw [← List.concat_eq_append]
    exact h.concat hmem

/-- One more occurrence raises the sum of the counts by one. -/
theorem sum_bump (name : String) (counts : List Count) :
    ((bump name counts).map (·.count)).sum = (counts.map (·.count)).sum + 1 := by
  induction counts with
  | nil => rfl
  | cons c cs ih =>
    rw [bump]
    split
    · rw [List.map_cons, List.map_cons, List.sum_cons, List.sum_cons, Nat.add_right_comm]
    · rw [List.map_cons, List.map_cons, List.sum_cons, List.sum_cons, ih, Nat.add_assoc]

/-- Where names are distinct, a count is found under its own name. -/
theorem countOf_of_mem (h : (counts.map (·.name)).Nodup) {c : Count} (hc : c ∈ counts) :
    countOf counts c.name = c.count := by
  induction counts with
  | nil => cases hc
  | cons d ds ih =>
    obtain ⟨hfirst, hrest⟩ := List.nodup_cons.1 h
    rw [countOf_cons]
    cases hc with
    | head => rw [if_pos rfl]
    | tail _ hc =>
      have hne : d.name ≠ c.name := fun heq => hfirst (List.mem_map.2 ⟨c, hc, heq.symm⟩)
      rw [if_neg hne, ih hrest hc]

/-- The last of some items is counted last. -/
theorem countBy_concat (key : α → String) (items : List α) (a : α) :
    countBy key (items ++ [a]) = bump (key a) (countBy key items) := by
  rw [countBy, List.foldl_append, List.foldl_cons, List.foldl_nil, countBy]

/-- The names are distinct. -/
theorem nodup_map_name_countBy (key : α → String) (items : List α) :
    ((countBy key items).map (·.name)).Nodup := by
  induction items using List.reverseRecOn with
  | nil => exact List.nodup_nil
  | append_singleton items a ih =>
    rw [countBy_concat]
    exact nodup_map_name_bump ih (key a)

/-- Where duplicates are dropped, a last key stays if it is new. -/
theorem eraseDups_concat (names : List String) (name : String) :
    (names ++ [name]).eraseDups =
      if name ∈ names then names.eraseDups else names.eraseDups ++ [name] := by
  rw [List.eraseDups_append, List.cons_removeAll, List.nil_removeAll]
  by_cases hmem : name ∈ names
  · rw [if_pos hmem, if_neg (by simp [hmem]), List.eraseDups_nil, List.append_nil]
  · rw [if_neg hmem, if_pos (by simp [hmem])]
    rfl

/-- The names are the keys, in the order in which they come first. -/
theorem map_name_countBy (key : α → String) (items : List α) :
    (countBy key items).map (·.name) = (items.map key).eraseDups := by
  induction items using List.reverseRecOn with
  | nil => rfl
  | append_singleton items a ih =>
    rw [countBy_concat, map_name_bump, ih, List.map_append, List.map_singleton, eraseDups_concat]
    simp only [List.mem_eraseDups]

/-- The number of items with a key is found under its name. -/
theorem countOf_countBy (key : α → String) (items : List α) (name : String) :
    countOf (countBy key items) name = (items.map key).count name := by
  induction items using List.reverseRecOn with
  | nil => rfl
  | append_singleton items a ih =>
    rw [countBy_concat, countOf_bump, ih, List.map_append, List.map_singleton, List.count_append,
      List.count_singleton]
    simp only [beq_iff_eq]

/-- The counts sum up to the number of items. -/
theorem sum_countBy (key : α → String) (items : List α) :
    ((countBy key items).map (·.count)).sum = items.length := by
  induction items using List.reverseRecOn with
  | nil => rfl
  | append_singleton items a ih =>
    rw [countBy_concat, sum_bump, ih, List.length_append, List.length_singleton]

/-- Some counts are those of a list of keys. -/
structure Tallies (keys : List String) (counts : List Count) : Prop where
  /-- The keys have their counts in the order in which they come first. -/
  names_eq : counts.map (·.name) = keys.eraseDups
  /-- Each key has one. -/
  names_nodup : (counts.map (·.name)).Nodup
  /-- It tells how often the key occurs. -/
  count_eq : ∀ c ∈ counts, c.count = keys.count c.name
  /-- It is not zero. -/
  one_le_count : ∀ c ∈ counts, 1 ≤ c.count
  /-- The counts sum up to the number of all keys. -/
  sum_eq : (counts.map (·.count)).sum = keys.length
  /-- Under every name that is looked up, it is found how often the key occurs. -/
  countOf_eq : ∀ name, countOf counts name = keys.count name
  /-- Nothing is found under the name of a key that does not occur. -/
  countOf_eq_zero : ∀ name, name ∉ keys → countOf counts name = 0

/-- The keys of some items are counted. -/
theorem tallies_countBy (key : α → String) (items : List α) :
    Tallies (items.map key) (countBy key items) := by
  have hnodup := nodup_map_name_countBy key items
  have hcount : ∀ c ∈ countBy key items, c.count = (items.map key).count c.name := fun c hc => by
    rw [← countOf_of_mem hnodup hc, countOf_countBy]
  refine ⟨map_name_countBy key items, hnodup, hcount, fun c hc => ?_, ?_, countOf_countBy key items,
    fun name hname => ?_⟩
  · have hname : c.name ∈ (countBy key items).map (·.name) := List.mem_map_of_mem hc
    rw [map_name_countBy, List.mem_eraseDups] at hname
    rw [hcount c hc]
    exact List.one_le_count_iff.2 hname
  · rw [sum_countBy, List.length_map]
  · rw [countOf_countBy]
    exact List.count_eq_zero_of_not_mem hname

end Count

namespace Command

variable {s : Surroundings} {path : String} {text : Option String}

/-- What a command reads: a grammar from the file at a path, and a text as the tokens into which the
grammar splits it. -/
inductive Reads (s : Surroundings) (path : String) (text : Option String) :
    Grammar → List Token → Prop
  | intro {d : GrammarDescription} {g : Grammar} {found : String} {tokens : List Token}
      (hfile : (GrammarFile.ofPath path).decode (s.file path) = .ok d)
      (hload : Grammar.ofDescription d = .ok g) (htext : textOf s text = .ok found)
      (htokens : g.tokenize found = .ok tokens) : Reads s path text g tokens

/-- What is reported about the tokens is printed. -/
theorem withTokens_of_reads {g : Grammar} {tokens : List Token} (h : Reads s path text g tokens)
    (report : Grammar → List Token → String) :
    (withTokens s path text report).ending = .success ∧
      (withTokens s path text report).output = report g tokens := by
  obtain ⟨hfile, hload, htext, htokens⟩ := h
  rw [Grammar.tokenize, Lexer.tokenize] at htokens
  cases hscan : Lexer.scan g.matchers _ with
  | error e => rw [hscan] at htokens; cases htokens
  | ok steps =>
    rw [hscan] at htokens
    cases htokens
    simp only [withTokens, withGrammar, withDescription, hfile, hload, htext, Grammar.scan, hscan,
      and_self]

/-- Without tokens to report about, nothing is printed and the command fails. -/
theorem withTokens_of_not_reads (h : ∀ g tokens, ¬ Reads s path text g tokens)
    (report : Grammar → List Token → String) :
    (withTokens s path text report).ending ≠ .success ∧
      (withTokens s path text report).output = "" := by
  rw [withTokens, withGrammar, withDescription]
  cases hfile : (GrammarFile.ofPath path).decode (s.file path) with
  | error e => exact ⟨nofun, rfl⟩
  | ok d =>
    dsimp only
    cases hload : Grammar.ofDescription d with
    | error e => exact ⟨nofun, rfl⟩
    | ok g =>
      dsimp only
      cases htext : textOf s text with
      | error f => exact ⟨nofun, rfl⟩
      | ok found =>
        dsimp only
        cases hscan : g.scan found with
        | error e => exact ⟨nofun, rfl⟩
        | ok steps =>
          have htokens : g.tokenize found = .ok (steps.filterMap ScanStep.token?) := by
            change (g.scan found).map _ = _
            rw [hscan]
            rfl
          exact absurd (.intro hfile hload htext htokens) (h g _)

end Command

namespace Count

/-- Counting is exact: the counts of some items are those of their keys, and what is found under a name
for two lists of items is added up for one behind the other; so it does not depend on their order.
The command for counts reports a total that is the sum of the counts of the kinds, or it fails without
a report, for want of a grammar or of a text that the grammar can split. -/
theorem countBy_tallies {α : Type} (key : α → String) :
    (∀ items, Tallies (items.map key) (countBy key items)) ∧
      (∀ items items' name, countOf (countBy key (items ++ items')) name =
        countOf (countBy key items) name + countOf (countBy key items') name) ∧
      (∀ items items', items.Perm items' → ∀ name,
        countOf (countBy key items) name = countOf (countBy key items') name) ∧
      ∀ s path text mode,
        (∃ g tokens report, Command.Reads s path text g tokens ∧
          ((Command.count path text).outcome s mode).ending = .success ∧
          ((Command.count path text).outcome s mode).output = CountReport.render mode report ∧
          report.grammar = g.name ∧ report.total = tokens.length ∧
          report.counts = countKinds tokens ∧
          report.total = (report.counts.map (·.count)).sum) ∨
        (∀ g tokens, ¬ Command.Reads s path text g tokens) ∧
          ((Command.count path text).outcome s mode).ending ≠ .success ∧
          ((Command.count path text).outcome s mode).output = "" := by
  refine ⟨tallies_countBy key, fun items items' name => ?_, fun items items' hperm name => ?_,
    fun s path text mode => ?_⟩
  · rw [countOf_countBy, countOf_countBy, countOf_countBy, List.map_append, List.count_append]
  · rw [countOf_countBy, countOf_countBy, (hperm.map key).count_eq]
  · let print (g : Grammar) (tokens : List Token) : String :=
      (CountReport.ofTokens g.name tokens).render mode
    have houtcome : (Command.count path text).outcome s mode =
      Command.withTokens s path text print := rfl
    rw [houtcome]
    by_cases hreads : ∃ g tokens, Command.Reads s path text g tokens
    · obtain ⟨g, tokens, hreads⟩ := hreads
      obtain ⟨hending, houtput⟩ := Command.withTokens_of_reads hreads print
      exact .inl ⟨g, tokens, CountReport.ofTokens g.name tokens, hreads, hending, houtput, rfl, rfl, rfl,
        (sum_countBy Token.kind tokens).symm⟩
    · have hnot : ∀ g tokens, ¬ Command.Reads s path text g tokens :=
        fun g tokens h => hreads ⟨g, tokens, h⟩
      exact .inr ⟨hnot, Command.withTokens_of_not_reads hnot print⟩

/-- Five words, the first of which occurs three times, in two orders. -/
theorem countBy_tallies_words :
    let words := ["b", "a", "b", "c", "b"]
    let sorted := ["a", "b", "b", "b", "c"]
    Tallies words (countBy id words) ∧ countBy id words = [⟨"b", 3⟩, ⟨"a", 1⟩, ⟨"c", 1⟩] ∧
      words.Perm sorted ∧
      ∀ name, countOf (countBy id words) name = countOf (countBy id sorted) name := by
  intro words sorted
  obtain ⟨htallies, -, hperm, -⟩ := countBy_tallies (id : String → String)
  have hsame : words.Perm sorted := by decide
  exact ⟨htallies words, by decide, hsame, hperm words sorted hsame⟩

end Count

end GrammarKit
