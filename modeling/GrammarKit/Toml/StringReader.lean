import GrammarKit.Text.Reader
import GrammarKit.Toml.StringForm
import GrammarKit.Toml.Value

/-!
# Reading TOML strings

A string is read from its first quote on, in whichever of the four forms it is written. A text over
several lines may end in one or two quotes of its own, which stand right before the closing three.
-/

namespace GrammarKit.Toml

/-- A reader of TOML text. -/
abbrev TomlReader := Reader TomlError

namespace TomlReader

/-- Failure: the text is badly written. -/
def malformed {α : Type} : TomlReader α := Reader.fail .malformed

/-- The text ends too early, whatever has been read. -/
def atEnd {σ α : Type} (_ : σ) : Except TomlError α := .error .malformed

/-- The next character; the text must not end here. -/
def char : TomlReader Char := do
  match ← Reader.next with
  | some c => pure c
  | none => malformed

/-- The blanks within a line. -/
def isSpace (c : Char) : Bool := c == ' ' || c == '\t'

/-- Passes over blanks within the line. -/
def space : TomlReader Unit := do
  let _ ← Reader.takeWhile isSpace

/-- The line feed that must follow a carriage return. -/
def lineFeed : TomlReader Unit := do
  if (← char) = '\n' then pure () else malformed

/-- The value of a hexadecimal digit. -/
def hexValue? (c : Char) : Option Nat :=
  if '0' ≤ c ∧ c ≤ '9' then some (c.toNat - 48)
  else if 'a' ≤ c ∧ c ≤ 'f' then some (c.toNat - 87)
  else if 'A' ≤ c ∧ c ≤ 'F' then some (c.toNat - 55)
  else none

/-- The number of `count` hexadecimal digits, after the digits that make `soFar`. -/
def hexNumber : Nat → Nat → TomlReader Nat
  | 0, soFar => pure soFar
  | count + 1, soFar => do
    match hexValue? (← char) with
    | some d => hexNumber count (16 * soFar + d)
    | none => malformed

/-- A character written by its number in `count` digits. -/
def numbered (count : Nat) : TomlReader Char := do
  let n ← hexNumber count 0
  if n.isValidChar then pure (Char.ofNat n) else malformed

/-- What a backslash and the given character stand for. -/
def escape (c : Char) : TomlReader Char :=
  if c = 'b' then pure (Char.ofNat 8)
  else if c = 't' then pure '\t'
  else if c = 'n' then pure '\n'
  else if c = 'f' then pure (Char.ofNat 12)
  else if c = 'r' then pure '\r'
  else if c = 'e' then pure (Char.ofNat 27)
  else if c = '"' then pure '"'
  else if c = '\\' then pure '\\'
  else if c = 'x' then numbered 2
  else if c = 'u' then numbered 4
  else if c = 'U' then numbered 8
  else malformed

/-- One character of a basic string on one line; `soFar` holds the characters before, the latest
first. -/
def basicStep (soFar : List Char) (c : Char) : TomlReader (List Char ⊕ String) :=
  if c = '"' then pure (.inr (String.ofList soFar.reverse))
  else if c = '\\' then do return .inl ((← escape (← char)) :: soFar)
  else if c = '\n' ∨ isControl c = true then malformed
  else pure (.inl (c :: soFar))

/-- One character of a literal string on one line. -/
def literalStep (soFar : List Char) (c : Char) : TomlReader (List Char ⊕ String) :=
  if c = '\'' then pure (.inr (String.ofList soFar.reverse))
  else if c = '\n' ∨ isControl c = true then malformed
  else pure (.inl (c :: soFar))

/-- A run of quotes within a string over several lines, after its first quote. Fewer than three belong
to the text; otherwise the last three close it, and at most two more may come before them. -/
def quotes (quote : Char) (soFar : List Char) : TomlReader (List Char ⊕ String) := do
  let more ← Reader.takeWhile (· == quote)
  if more.length < 2 then pure (.inl (quote :: (more ++ soFar)))
  else if more.length < 5 then
    pure (.inr (String.ofList (List.replicate (more.length - 2) quote ++ soFar).reverse))
  else malformed

/-- A text over several lines, as far as it has been read. -/
structure Lines where
  /-- The characters, the latest first. -/
  soFar : List Char := []
  /-- A backslash at the end of a line has been read, and blanks and line ends are passed over. -/
  isTrimming : Bool := false

/-- A run of quotes within a text over several lines. -/
def Lines.quotes (quote : Char) (text : Lines) : TomlReader (Lines ⊕ String) := do
  match ← TomlReader.quotes quote text.soFar with
  | .inl soFar => pure (.inl ⟨soFar, false⟩)
  | .inr s => pure (.inr s)

/-- A character that stands for itself in a text over several lines, which may be half of a line
end. -/
def Lines.plain (text : Lines) (c : Char) : TomlReader (Lines ⊕ String) :=
  if text.isTrimming ∧ (isSpace c = true ∨ c = '\n') then pure (.inl text)
  else if c = '\r' then do
    lineFeed
    if text.isTrimming then pure (.inl text) else pure (.inl ⟨'\n' :: '\r' :: text.soFar, false⟩)
  else if isControl c then malformed
  else pure (.inl ⟨c :: text.soFar, false⟩)

/-- The signs behind a backslash in a text over several lines: a line end, which may have blanks
before it, or an escape. -/
def Lines.escape (text : Lines) : TomlReader (Lines ⊕ String) := do
  let blanks ← Reader.takeWhile isSpace
  let c ← char
  if c = '\n' then pure (.inl ⟨text.soFar, true⟩)
  else if c = '\r' then do
    lineFeed
    pure (.inl ⟨text.soFar, true⟩)
  else if blanks.isEmpty then return .inl ⟨(← TomlReader.escape c) :: text.soFar, false⟩
  else malformed

/-- One character of a basic string over several lines. -/
def Lines.basicStep (text : Lines) (c : Char) : TomlReader (Lines ⊕ String) :=
  if c = '"' then text.quotes '"'
  else if c = '\\' then text.escape
  else text.plain c

/-- One character of a literal string over several lines. -/
def Lines.literalStep (text : Lines) (c : Char) : TomlReader (Lines ⊕ String) :=
  if c = '\'' then text.quotes '\'' else text.plain c

/-- Passes over the line end that comes right behind the opening quotes, if there is one. -/
def firstLineEnd : TomlReader Unit := do
  if ← Reader.eat ['\n'] then pure ()
  else
    let _ ← Reader.eat ['\r', '\n']

/-- A string on one line, after its first quote, which may be the quote of a basic or of a literal
string. -/
def lineString (quote : Char) : TomlReader String :=
  Reader.loop (if quote = '"' then basicStep else literalStep) atEnd []

/-- A string over several lines, after its opening quotes. -/
def linesString (quote : Char) : TomlReader String := do
  firstLineEnd
  Reader.loop (if quote = '"' then Lines.basicStep else Lines.literalStep) atEnd {}

/-- A string, after its first quote. -/
def string (quote : Char) : TomlReader String := do
  if ← Reader.eat [quote, quote] then linesString quote else lineString quote

end TomlReader

end GrammarKit.Toml
