import GrammarKit.Decimal.Shortest
import GrammarKit.Json.Value
import GrammarKit.Token

/-!
# Tests and transforms of windows

A stock of tests and transforms for rules. Tests are put together from simple ones by `all`, `any` and
`not`; the test for balanced blocks accepts one block with everything that is nested in it. Transforms
make a value of a window.
-/

namespace GrammarKit

/-- Whether a window goes on as one block does that is `depth` deep in opening entries: each closing entry
has its opening one, and the last of them ends the window. -/
def isBlockFrom (opening closing : String) (depth : Nat) : List Token → Bool
  | [] => false
  | t :: ts =>
    if t.entry = opening then isBlockFrom opening closing (depth + 1) ts
    else
      match depth with
      | 0 => false
      | 1 => if t.entry = closing then ts.isEmpty else isBlockFrom opening closing 1 ts
      | d + 2 => isBlockFrom opening closing (if t.entry = closing then d + 1 else d + 2) ts

/-- Whether a window is one block: it begins with the opening entry, and the closing one that belongs to
it comes last. -/
def isBlock (opening closing : String) (window : List Token) : Bool :=
  isBlockFrom opening closing 0 window

/-- A test of a window. -/
inductive WindowTest where
  | always
  | never
  | length (n : Nat)
  | minLength (n : Nat)
  | firstKind (kind : String)
  | lastKind (kind : String)
  | lastEntry (entry : String)
  | allKind (kind : String)
  /-- A capture of the last token holds the given text, or nothing. -/
  | lastCapture (i : Nat) (text : Option String)
  | all (tests : List WindowTest)
  | any (tests : List WindowTest)
  | not (test : WindowTest)
  /-- The window is one block between an opening and a closing entry. -/
  | block (opening closing : String)

namespace WindowTest

mutual

/-- Whether a window passes a test. -/
def accepts (window : List Token) : WindowTest → Bool
  | .always => true
  | .never => false
  | .length n => window.length == n
  | .minLength n => n ≤ window.length
  | .firstKind kind => window.head?.any (·.isKind kind)
  | .lastKind kind => window.getLast?.any (·.isKind kind)
  | .lastEntry entry => window.getLast?.any (·.entry == entry)
  | .allKind kind => window.all (·.isKind kind)
  | .lastCapture i text => window.getLast?.any (·.capture? i == text)
  | .all tests => acceptsAll window tests
  | .any tests => acceptsAny window tests
  | .not test => !accepts window test
  | .block opening closing => isBlock opening closing window

/-- Whether a window passes each of some tests. -/
def acceptsAll (window : List Token) : List WindowTest → Bool
  | [] => true
  | t :: ts => accepts window t && acceptsAll window ts

/-- Whether a window passes one of some tests. -/
def acceptsAny (window : List Token) : List WindowTest → Bool
  | [] => false
  | t :: ts => accepts window t || acceptsAny window ts

end

end WindowTest

/-- A transform of a window. -/
inductive WindowTransform where
  | kinds
  /-- The entries, one after the other. -/
  | join
  | length
  /-- Where the first token starts. -/
  | start
  | captures
  | const (v : Json)
  /-- An object with the entries of chosen tokens. -/
  | object (fields : List (String × Nat))
  /-- A name, an operator and an integer. -/
  | assignment
  /-- Two numbers of double precision with an operator between them, and their product. -/
  | product

namespace WindowTransform

/-- The entry of a token of a window; empty where there is no such token. -/
def entryAt (window : List Token) (i : Nat) : String :=
  (window[i]?.map (·.entry)).getD ""

/-- The integer that a text writes, if it has at most 64 bits. -/
def int64? (s : String) : Option Int :=
  let (negative, ds) := match s.toList with
    | '+' :: ds => (false, ds)
    | '-' :: ds => (true, ds)
    | ds => (false, ds)
  if ds.isEmpty || !ds.all Char.isDigit then none
  else
    let n := Binary64.digitsValue ds
    let v : Int := if negative then -(n : Int) else n
    let bound : Int := Nat.pow 2 63
    if -bound ≤ v ∧ v < bound then some v else none

/-- The number that a text writes, or zero. -/
def number (s : String) : Binary64 :=
  (Binary64.ofText? s).getD (.finite false 0 Binary64.leastExponent)

/-- A number as JSON, where `null` stands for one that is not finite. -/
def numberJson (b : Binary64) : Json := Json.ofOption .decimal b.decimal?

/-- The value that a transform makes of a window. -/
def apply (window : List Token) : WindowTransform → Json
  | .kinds => .strings (window.map (·.kind))
  | .join => .string (String.join (window.map (·.entry)))
  | .length => .nat window.length
  | .start => Json.ofOption (fun t => .nat t.span.start) window.head?
  | .captures =>
    .array (window.map fun t => .array (t.captures.map (Json.ofOption .string)))
  | .const v => v
  | .object fields =>
    .object (fields.map fun (name, i) =>
      (name, Json.ofOption (fun t => .string t.entry) window[i]?))
  | .assignment =>
    .object [("var_name", .string (entryAt window 0)), ("op", .string (entryAt window 1)),
      ("num", .int ((int64? (entryAt window 2)).getD 0))]
  | .product =>
    let a := number (entryAt window 0)
    let b := number (entryAt window 2)
    .object [("num1", numberJson a), ("op", .string (entryAt window 1)), ("num2", numberJson b),
      ("val", numberJson (a.mul b))]

end WindowTransform

end GrammarKit
