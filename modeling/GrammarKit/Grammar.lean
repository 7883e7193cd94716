import GrammarKit.Engine
import GrammarKit.Lexer
import GrammarKit.TokenMatcher

/-!
# Grammars

A grammar has a name, token definitions and rules, both in the order in which they were added. No two
token definitions share a kind and no two rules share a name: what would repeat one is refused, and
the grammar stays as it is. A grammar can be described, and be loaded from a description.
-/

namespace GrammarKit

/-- A grammar: its name, its token definitions and its rules, in order. -/
structure Grammar where
  name : String := ""
  tokens : List TokenMatcher := []
  rules : List Rule := []

/-- A change of a grammar: a definition to be added, made already or to be made from its parts. -/
inductive GrammarEdit where
  | addToken (m : TokenMatcher)
  | defineToken (kind pattern : String)
  | addRule (r : Rule)
  | defineRule (r : Except DefinitionError Rule)

namespace Grammar

/-- The grammar with one more token definition, unless its kind is taken. -/
def addToken (g : Grammar) (m : TokenMatcher) : Except DuplicateError Grammar :=
  if g.tokens.any (·.kind == m.kind) then .error (.token m.kind)
  else .ok { g with tokens := g.tokens ++ [m] }

/-- The grammar with one more rule, unless its name is taken. -/
def addRule (g : Grammar) (r : Rule) : Except DuplicateError Grammar :=
  if g.rules.any (·.name == r.name) then .error (.rule r.name)
  else .ok { g with rules := g.rules ++ [r] }

/-- The grammar after an addition that may be refused, to which a definition comes that may have
failed. The failure of the definition is reported first. -/
def define {α : Type} (add : α → Except DuplicateError Grammar) (definition : Except DefinitionError α) :
    Except GrammarError Grammar :=
  match definition with
  | .error e => .error (.definition e)
  | .ok a => (add a).mapError .duplicate

/-- The grammar with a token definition made and added. -/
def defineToken (g : Grammar) (kind pattern : String) : Except GrammarError Grammar :=
  define g.addToken (TokenMatcher.define kind pattern)

/-- The grammar with a rule added that may have failed to be defined. -/
def defineRule (g : Grammar) (r : Except DefinitionError Rule) : Except GrammarError Grammar :=
  define g.addRule r

/-- The grammar after a change, or why the change is refused. -/
def edit (g : Grammar) : GrammarEdit → Except GrammarError Grammar
  | .addToken m => (g.addToken m).mapError .duplicate
  | .defineToken kind pattern => g.defineToken kind pattern
  | .addRule r => (g.addRule r).mapError .duplicate
  | .defineRule r => g.defineRule r

/-- The grammar after a change; a change that is refused leaves it as it is. -/
def editOrKeep (g : Grammar) (e : GrammarEdit) : Grammar :=
  match g.edit e with
  | .ok g' => g'
  | .error _ => g

/-- The grammar after some changes in order, of which any may be refused. -/
def editAll (g : Grammar) (es : List GrammarEdit) : Grammar :=
  es.foldl editOrKeep g

/-- The token definitions as the matchers of a lexer. -/
def matchers (g : Grammar) : List Matcher := g.tokens.map TokenMatcher.toMatcher

/-- The steps of a scan of a text by the token definitions. -/
def scan (g : Grammar) (text : String) : Except ScanError (List ScanStep) :=
  Lexer.scan g.matchers text

/-- The tokens of a text. -/
def tokenize (g : Grammar) (text : String) : Except ScanError (List Token) :=
  Lexer.tokenize g.matchers text

/-- The entries that the rules make of the tokens of a text. -/
def parse (g : Grammar) (text : String) : Except ScanError (List ParseEntry) :=
  (g.tokenize text).map (Engine.parse g.rules)

/-- The description of the grammar. -/
def describe (g : Grammar) : GrammarDescription := ⟨g.name, g.tokens.map TokenMatcher.describe⟩

theorem describe_addToken {g g' : Grammar} {m : TokenMatcher} (h : g.addToken m = .ok g') :
    g'.describe = g.describe.withToken m.kind m.pattern := by
  unfold addToken at h
  split at h
  · cases h
  · cases h
    simp [describe, GrammarDescription.withToken, TokenMatcher.describe]

end Grammar

/-- What comes of loading a description: the grammar or the error that ended it, and the definitions
that were passed over because their kind was taken. -/
structure Loading where
  result : Except DefinitionError Grammar
  passedOver : List DuplicateError

namespace Loading

/-- The loading that has passed over one more definition before. -/
def after (e : DuplicateError) (l : Loading) : Loading :=
  { l with passedOver := e :: l.passedOver }

/-- Loads token definitions into a grammar. The first that cannot be made ends it; one whose kind is
taken is passed over. -/
def tokens (g : Grammar) : List TokenDescription → Loading
  | [] => ⟨.ok g, []⟩
  | t :: ts =>
    match TokenMatcher.ofDescription t with
    | .error e => ⟨.error e, []⟩
    | .ok m =>
      match g.addToken m with
      | .ok g' => tokens g' ts
      | .error e => (tokens g ts).after e

end Loading

/-- Loads a description. -/
def GrammarDescription.load (d : GrammarDescription) : Loading :=
  Loading.tokens { name := d.name } d.tokens

/-- The grammar that a description denotes. -/
def Grammar.ofDescription (d : GrammarDescription) : Except DefinitionError Grammar :=
  d.load.result

/-- The log of loading a description: a warning for each definition that was passed over. -/
def GrammarDescription.loadLog (d : GrammarDescription) : List LogRecord :=
  d.load.passedOver.map fun e => .grammar .warn ("grammar `" ++ d.name ++ "`: " ++ e.message)

end GrammarKit
