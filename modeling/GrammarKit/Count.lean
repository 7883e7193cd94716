import GrammarKit.Token

/-!
# Counting

How often each key occurs among some items, the keys in the order in which they come first.
-/

namespace GrammarKit

/-- A key and the number of its occurrences. -/
structure Count where
  name : String
  count : Nat
  deriving Repr, DecidableEq

namespace Count

/-- The counts with one more occurrence of a key. -/
def bump (name : String) : List Count → List Count
  | [] => [⟨name, 1⟩]
  | c :: cs => if c.name = name then ⟨c.name, c.count + 1⟩ :: cs else c :: bump name cs

/-- The counts of the keys of some items. -/
def countBy {α : Type} (key : α → String) (items : List α) : List Count :=
  items.foldl (fun counts a => bump (key a) counts) []

/-- The counts of tokens by kind. -/
def countKinds (tokens : List Token) : List Count :=
  countBy (·.kind) tokens

/-- The count of a key; zero where it does not occur. -/
def countOf (counts : List Count) (name : String) : Nat :=
  ((counts.find? (·.name == name)).map (·.count)).getD 0

/-- A count as JSON. -/
def toJson (c : Count) : Json :=
  .object [("name", .string c.name), ("count", .nat c.count)]

theorem countOf_nil (name : String) : countOf [] name = 0 := rfl

theorem countOf_cons (c : Count) (cs : List Count) (name : String) :
    countOf (c :: cs) name = if c.name = name then c.count else countOf cs name := by
  by_cases h : c.name = name <;> simp [countOf, h]

/-- One more occurrence of a key raises its count, and no other. -/
theorem countOf_bump (key : String) (counts : List Count) (name : String) :
    countOf (bump key counts) name = countOf counts name + if key = name then 1 else 0 := by
  induction counts with
  | nil => simp [bump, countOf_cons, countOf_nil]
  | cons c cs ih =>
    by_cases hc : c.name = key
    · subst hc
      by_cases hn : c.name = name <;> simp [bump, countOf_cons, hn]
    · by_cases hn : c.name = name
      · have hk : key ≠ name := fun e => hc (hn.trans e.symm)
        rw [bump, if_neg hc, countOf_cons, countOf_cons, if_pos hn, if_pos hn, if_neg hk,
          Nat.add_zero]
      · simp [bump, hc, countOf_cons, hn, ih]

end Count

end GrammarKit
