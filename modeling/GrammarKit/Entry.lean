import GrammarKit.Token

/-!
# Parse entries

A parse yields entries: which rule matched, what came of it, and the entries found inside. What came of
a rule is the value that its transform made, or the tokens of its window if it has none.
-/

namespace GrammarKit

/-- What a matched rule yields. -/
inductive RuleResult where
  /-- The tokens of the window, from a rule without a transform. -/
  | tokens (ts : List Token)
  /-- The value of the transform. -/
  | value (v : Json)
  deriving Repr

namespace RuleResult

/-- The value of the transform, if there was one. -/
def value? : RuleResult → Option Json
  | .tokens _ => none
  | .value v => some v

/-- The tokens of the window, if there was no transform. -/
def tokens? : RuleResult → Option (List Token)
  | .tokens ts => some ts
  | .value _ => none

/-- A field of the value that the transform made, if that is an object. -/
def field? (name : String) (r : RuleResult) : Option Json :=
  r.value?.bind (·.field? name)

/-- The result as JSON. The fields of the objects in a value come in the order of their names. -/
def toJson : RuleResult → Json
  | .tokens ts => .array (ts.map Token.toJson)
  | .value v => v.sorted

end RuleResult

/-- A match of a rule: its name, its result, and the entries found inside if it was looked for
them. -/
inductive ParseEntry where
  | mk (rule : String) (result : RuleResult) (sub : Option (List ParseEntry))
  deriving Repr

namespace ParseEntry

/-- The name of the rule. -/
def rule : ParseEntry → String
  | .mk rule _ _ => rule

/-- What the rule yielded. -/
def result : ParseEntry → RuleResult
  | .mk _ result _ => result

/-- The entries found inside, if they were looked for. -/
def sub : ParseEntry → Option (List ParseEntry)
  | .mk _ _ sub => sub

/-- The entries found inside; none where they were not looked for. -/
def children (e : ParseEntry) : List ParseEntry := e.sub.getD []

mutual

/-- The number of entries in the tree of an entry, itself included. -/
def subtreeSize : ParseEntry → Nat
  | .mk _ _ none => 1
  | .mk _ _ (some es) => 1 + forestSize es

/-- The number of entries in the trees of some entries. -/
def forestSize : List ParseEntry → Nat
  | [] => 0
  | e :: es => e.subtreeSize + forestSize es

end

mutual

/-- The entry as JSON. -/
def toJson : ParseEntry → Json
  | .mk rule result none => .object [("rule", .string rule), ("result", result.toJson)]
  | .mk rule result (some es) =>
    .object [("rule", .string rule), ("result", result.toJson), ("sub", .array (forestJson es))]

/-- Some entries as JSON. -/
def forestJson : List ParseEntry → List Json
  | [] => []
  | e :: es => e.toJson :: forestJson es

end

/-- An entry counts itself and its children. -/
theorem subtreeSize_eq (e : ParseEntry) : e.subtreeSize = 1 + forestSize e.children := by
  cases e with
  | mk rule result sub => cases sub <;> simp [subtreeSize, children, ParseEntry.sub, forestSize]

end ParseEntry

end GrammarKit
