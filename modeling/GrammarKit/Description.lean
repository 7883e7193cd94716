/-!
# Descriptions of grammars

What can be kept of a grammar: its name and its token definitions, each a kind and a pattern, in order.
Rules are code and are not described.
-/

namespace GrammarKit

/-- A token definition: a kind and its pattern. -/
structure TokenDescription where
  kind : String
  pattern : String
  deriving Repr, DecidableEq

/-- A grammar by its name and its token definitions. -/
structure GrammarDescription where
  name : String
  tokens : List TokenDescription := []
  deriving Repr, DecidableEq

namespace GrammarDescription

/-- The description with one more token at the end. -/
def withToken (d : GrammarDescription) (kind pattern : String) : GrammarDescription :=
  { d with tokens := d.tokens ++ [⟨kind, pattern⟩] }

/-- The kinds of the tokens, in order. -/
def kinds (d : GrammarDescription) : List String := d.tokens.map (·.kind)

theorem kinds_withToken (d : GrammarDescription) (kind pattern : String) :
    (d.withToken kind pattern).kinds = d.kinds ++ [kind] := by
  simp [withToken, kinds]

end GrammarDescription

end GrammarKit
