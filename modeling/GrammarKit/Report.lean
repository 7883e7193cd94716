import GrammarKit.Count
import GrammarKit.Description.Json
import GrammarKit.Grammar
import GrammarKit.Text.Padding

/-!
# Reports

What the program has to say about a text or a grammar: the tokens of a text, how many there are of each
kind, and whether a grammar can be used. A report is rendered in columns for people or as JSON for
other programs; every line of it is ended.
-/

namespace GrammarKit

/-- Whom a report is for. -/
inductive OutputMode where
  | human
  | json
  deriving Repr, DecidableEq

instance : Inhabited OutputMode := ⟨.human⟩

/-- Some lines, each of them ended. -/
def linesText (lines : List String) : String :=
  String.join (lines.map (· ++ "\n"))

/-- A single line is its text with a line end. -/
theorem linesText_singleton (text : String) : linesText [text] = text ++ "\n" := by
  simp [linesText, String.join]

/-- The rendering of a report of which both forms are known. -/
def OutputMode.choose (mode : OutputMode) (lines : List String) (json : Json) : String :=
  match mode with
  | .human => linesText lines
  | .json => linesText [json.pretty]

/-- The tokens of a text. -/
structure TokenReport where
  grammar : String
  tokens : List Token

namespace TokenReport

/-- The report as JSON. -/
def toJson (r : TokenReport) : Json :=
  .object [("grammar", .string r.grammar), ("tokens", .array (r.tokens.map Token.toJson))]

/-- The width of the column of kinds: the bytes of the longest kind. -/
def kindWidth (tokens : List Token) : Nat :=
  (tokens.map fun t => Text.byteLength t.kind.toList).foldl max 0

/-- The line of a token: its place, its kind and its entry in quotes. -/
def line (width : Nat) (t : Token) : String :=
  Text.padLeft 5 (toString t.span.start) ++ ".." ++ Text.padRight 5 (toString t.span.stop) ++ " " ++
    Text.padRight width t.kind ++ " " ++ Text.quote t.entry

/-- The report in lines. -/
def lines (r : TokenReport) : List String :=
  if r.tokens.isEmpty then ["No tokens."]
  else r.tokens.map (line (kindWidth r.tokens))

/-- The report as text. -/
def render (mode : OutputMode) (r : TokenReport) : String :=
  mode.choose r.lines r.toJson

end TokenReport

/-- A name in a column of its own. -/
def nameColumn (name : String) : String := "  " ++ Text.padRight 16 name ++ " "

/-- How many tokens of each kind a text has. -/
structure CountReport where
  grammar : String
  total : Nat
  counts : List Count

namespace CountReport

/-- The report on some tokens. -/
def ofTokens (grammar : String) (tokens : List Token) : CountReport :=
  ⟨grammar, tokens.length, Count.countKinds tokens⟩

/-- The report as JSON. -/
def toJson (r : CountReport) : Json :=
  .object [("grammar", .string r.grammar), ("total", .nat r.total),
    ("counts", .array (r.counts.map Count.toJson))]

/-- The report in lines. -/
def lines (r : CountReport) : List String :=
  (toString r.total ++ " token(s)") :: r.counts.map fun c => nameColumn c.name ++ toString c.count

/-- The report as text. -/
def render (mode : OutputMode) (r : CountReport) : String :=
  mode.choose r.lines r.toJson

end CountReport

namespace GrammarDescription

/-- What is wrong with token definitions that come after some kinds: each one that cannot be made, and
each one whose kind came before. -/
def problemsAfter (kinds : List String) : List TokenDescription → List GrammarError
  | [] => []
  | t :: ts =>
    let made := match TokenMatcher.ofDescription t with
      | .ok _ => []
      | .error e => [GrammarError.definition e]
    let repeated := if t.kind ∈ kinds then [GrammarError.duplicate (.token t.kind)] else []
    made ++ repeated ++ problemsAfter (t.kind :: kinds) ts

/-- What is wrong with a description. -/
def problems (d : GrammarDescription) : List GrammarError := problemsAfter [] d.tokens

end GrammarDescription

/-- Whether a grammar can be used as it is described, and what is wrong with it if not. -/
structure CheckReport where
  valid : Bool
  grammar : String
  tokens : List TokenDescription
  errors : List String

namespace CheckReport

/-- The report on a description. -/
def ofDescription (d : GrammarDescription) : CheckReport :=
  let errors := d.problems.map GrammarError.message
  ⟨errors.isEmpty, d.name, d.tokens, errors⟩

/-- The report as JSON. The errors are left out where there are none. -/
def toJson (r : CheckReport) : Json :=
  let errors := if r.errors.isEmpty then [] else [("errors", Json.strings r.errors)]
  .object ([("valid", .bool r.valid), ("grammar", .string r.grammar),
    ("tokens", .array (r.tokens.map TokenDescription.toJson))] ++ errors)

/-- The report in lines. -/
def lines (r : CheckReport) : List String :=
  if r.valid then
    ("Grammar '" ++ r.grammar ++ "' OK: " ++ toString r.tokens.length ++ " token(s)") ::
      r.tokens.map fun t => nameColumn t.kind ++ t.pattern
  else
    ("Grammar '" ++ r.grammar ++ "' is invalid:") :: r.errors.map ("  " ++ ·)

/-- The report as text. -/
def render (mode : OutputMode) (r : CheckReport) : String :=
  mode.choose r.lines r.toJson

/-- The wording of the verdict on an invalid grammar. -/
def verdict (r : CheckReport) : String :=
  "grammar '" ++ r.grammar ++ "' has " ++ toString r.errors.length ++ " problem(s)"

end CheckReport

end GrammarKit
