import GrammarKit.Json.Decoder
import GrammarKit.Json.Value
import GrammarKit.Span
import GrammarKit.Text.Quoted

/-!
# Tokens

A token is a piece of text that a lexer has recognised: its kind, its entry, what the captures of the
pattern hold, and its place in the text. Tokens are written as JSON and read back from it.
-/

namespace GrammarKit

/-- A token: its kind, its text, the whole match followed by the captures, and its place. -/
structure Token where
  kind : String
  entry : String
  captures : List (Option String)
  span : Span
  deriving Repr, DecidableEq

namespace Token

/-- A token whose only capture is the whole match. -/
def ofEntry (kind entry : String) (span : Span) : Token :=
  ⟨kind, entry, [some entry], span⟩

/-- Whether the token is of the given kind. -/
def isKind (t : Token) (kind : String) : Bool := t.kind == kind

/-- What the capture of a number holds; none where there is no such capture or it took no part. -/
def capture? (t : Token) (i : Nat) : Option String := (t.captures[i]?).join

/-- The token moved on by `n` bytes. -/
def shift (n : Nat) (t : Token) : Token := { t with span := t.span.shift n }

/-- The token on one line: its kind, its entry in quotes and its place. -/
def display (t : Token) : String :=
  t.kind ++ "(" ++ Text.quote t.entry ++ ")@" ++ toString t.span.start ++ ".." ++
    toString t.span.stop

/-- A span as JSON. -/
def spanJson (s : Span) : Json :=
  .object [("start", .nat s.start), ("end", .nat s.stop)]

/-- The token as JSON. -/
def toJson (t : Token) : Json :=
  .object [("kind", .string t.kind), ("entry", .string t.entry),
    ("captures", .array (t.captures.map (Json.ofOption .string))), ("span", spanJson t.span)]

/-- The ends of a span, as far as they have been read. -/
structure SpanDraft where
  start : Option Nat := none
  stop : Option Nat := none

/-- A span in JSON: its two ends. -/
def spanForm : JsonDecoder.Form SpanDraft Span where
  fields := [
    ⟨["start"], (·.start.isSome), fun d c => do
      return { d with start := some (← JsonDecoder.nat64 c) }⟩,
    ⟨["end"], (·.stop.isSome), fun d c => do
      return { d with stop := some (← JsonDecoder.nat64 c) }⟩]
  blank := {}
  finish d := do return ⟨← d.start, ← d.stop⟩

/-- A token, as far as it has been read. -/
structure Draft where
  kind : Option String := none
  entry : Option String := none
  captures : Option (List (Option String)) := none
  span : Option Span := none

/-- A token in JSON. Only the captures may be left out. -/
def form : JsonDecoder.Form Draft Token where
  fields := [
    ⟨["kind"], (·.kind.isSome), fun d c => do
      return { d with kind := some (← JsonDecoder.string c) }⟩,
    ⟨["entry"], (·.entry.isSome), fun d c => do
      return { d with entry := some (← JsonDecoder.string c) }⟩,
    ⟨["captures"], (·.captures.isSome), fun d c => do
      return { d with captures := some (← JsonDecoder.list (.option .string) c) }⟩,
    ⟨["span"], (·.span.isSome), fun d c => do
      return { d with span := some (← spanForm.decode c) }⟩]
  blank := {}
  finish d := do return ⟨← d.kind, ← d.entry, d.captures.getD [], ← d.span⟩

/-- The token that a JSON text denotes. -/
def ofJson (text : String) : Except JsonError Token :=
  JsonDecoder.run form.decode text

theorem isKind_iff {t : Token} {kind : String} : t.isKind kind = true ↔ t.kind = kind := by
  simp [isKind]

end Token

end GrammarKit
