import GrammarKit.Text.ByteLength
import GrammarKit.Text.Reader

/-!
# Reading JSON texts

A JSON text is read straight into the type that is wanted, and the first fault in reading order is the
one that is reported: the text ends too early, it is badly written, or it is well written but of
another type. What nobody asked for is passed over; only its form is checked then.
-/

namespace GrammarKit

/-- Why a text does not denote a value of the type that is wanted. -/
inductive JsonError where
  /-- The text is badly written, or goes on after the value. -/
  | malformed
  /-- The text denotes something else. -/
  | mismatch
  /-- The text ends before the value does. -/
  | endOfText
  deriving Repr, DecidableEq

/-- A reader of JSON text. -/
abbrev JsonReader := Reader JsonError

namespace JsonReader

/-- The white space of JSON. -/
def isSpace (c : Char) : Bool :=
  c == ' ' || c == '\n' || c == '\t' || c == '\r'

/-- Failure: the text is badly written. -/
def malformed {α : Type} : JsonReader α := Reader.fail .malformed

/-- Failure: the text denotes something else. -/
def mismatch {α : Type} : JsonReader α := Reader.fail .mismatch

/-- Failure: the text ends too early. -/
def endOfText {α : Type} : JsonReader α := Reader.fail .endOfText

/-- The text ends too early, whatever has been read. -/
def atEnd {σ α : Type} (_ : σ) : Except JsonError α := .error .endOfText

/-- The next character; the text must not end here. -/
def char : JsonReader Char := do
  match ← Reader.next with
  | some c => pure c
  | none => endOfText

/-- Passes over white space. -/
def space : JsonReader Unit := do
  let _ ← Reader.takeWhile isSpace

/-- The next character that is no white space; the text must not end before. -/
def signChar : JsonReader Char := do
  space
  char

/-- The rest of a word that has begun. -/
def word : List Char → JsonReader Unit
  | [] => pure ()
  | c :: cs => do
    if (← char) = c then word cs else malformed

/-- The value of a hexadecimal digit. -/
def hexValue? (c : Char) : Option Nat :=
  if '0' ≤ c ∧ c ≤ '9' then some (c.toNat - 48)
  else if 'a' ≤ c ∧ c ≤ 'f' then some (c.toNat - 87)
  else if 'A' ≤ c ∧ c ≤ 'F' then some (c.toNat - 55)
  else none

/-- The number of four hexadecimal digits. Four bytes must be left of the text. -/
def hexFour : JsonReader Nat := do
  let text ← Reader.rest
  if Text.byteLength (text.take 4) < 4 then endOfText
  else
    match text with
    | a :: b :: c :: d :: _ =>
      match hexValue? a, hexValue? b, hexValue? c, hexValue? d with
      | some a, some b, some c, some d =>
        Reader.drop 4
        pure (((16 * a + b) * 16 + c) * 16 + d)
      | _, _, _, _ => malformed
    | _ => malformed

/-- Whether a number is the first half of a pair that stands for one character. -/
def isLeading (n : Nat) : Bool := 0xD800 ≤ n && n ≤ 0xDBFF

/-- Whether a number is the second half of a pair that stands for one character. -/
def isTrailing (n : Nat) : Bool := 0xDC00 ≤ n && n ≤ 0xDFFF

/-- A character written by its number, in one escape or in a pair of them. -/
def unicodeEscape : JsonReader Char := do
  let n ← hexFour
  if isTrailing n then malformed
  else if isLeading n then
    if (← char) ≠ '\\' then malformed
    else if (← char) ≠ 'u' then malformed
    else
      let m ← hexFour
      if isTrailing m then pure (Char.ofNat (0x10000 + (n - 0xD800) * 0x400 + (m - 0xDC00)))
      else malformed
  else pure (Char.ofNat n)

/-- The character that one letter behind a backslash stands for. -/
def letterEscape? : Char → Option Char
  | '"' => some '"'
  | '\\' => some '\\'
  | '/' => some '/'
  | 'b' => some (Char.ofNat 8)
  | 'f' => some (Char.ofNat 12)
  | 'n' => some '\n'
  | 'r' => some '\r'
  | 't' => some '\t'
  | _ => none

/-- The signs behind a backslash. -/
def escape : JsonReader Char := do
  let c ← char
  if c = 'u' then unicodeEscape
  else
    match letterEscape? c with
    | some c => pure c
    | none => malformed

/-- The content of a string up to its closing quote, after the characters so far, latest first. -/
def stringStep (soFar : List Char) (c : Char) : JsonReader (List Char ⊕ String) :=
  if c = '"' then pure (.inr (String.ofList soFar.reverse))
  else if c = '\\' then do return .inl ((← escape) :: soFar)
  else if c.toNat < 32 then malformed
  else pure (.inl (c :: soFar))

/-- A string, after its opening quote. -/
def string : JsonReader String :=
  Reader.loop stringStep atEnd []

/-- Passes over the signs behind a backslash; a number need not belong to a character. -/
def skipEscape : JsonReader Unit := do
  let c ← char
  if c = 'u' then
    let _ ← hexFour
    pure ()
  else if (letterEscape? c).isSome then pure ()
  else malformed

/-- Passes over the content of a string. -/
def skipStringStep (_ : Unit) (c : Char) : JsonReader (Unit ⊕ Unit) :=
  if c = '"' then pure (.inr ())
  else if c = '\\' then do return .inl (← skipEscape)
  else if c.toNat < 32 then malformed
  else pure (.inl ())

/-- Passes over a string, after its opening quote. -/
def skipString : JsonReader Unit :=
  Reader.loop skipStringStep atEnd ()

/-- Passes over digits, of which there must be one. -/
def skipDigits : JsonReader Unit := do
  if (← Reader.takeWhile Char.isDigit).isEmpty then malformed

/-- Passes over the fraction and the exponent of a number. -/
def skipNumberTail : JsonReader Unit := do
  if ← Reader.eat ['.'] then skipDigits
  match ← Reader.peek with
  | some 'e' | some 'E' =>
    Reader.drop 1
    match ← Reader.peek with
    | some '+' | some '-' =>
      Reader.drop 1
      skipDigits
    | _ => skipDigits
  | _ => pure ()

/-- Passes over a number, after its first digit. -/
def skipNumber (first : Char) : JsonReader Unit := do
  let more ← Reader.takeWhile Char.isDigit
  if first = '0' ∧ !more.isEmpty then malformed else skipNumberTail

/-- A container around the text that is passed over. -/
inductive Container where
  | array
  | object
  deriving DecidableEq

/-- What may come next in a text that is passed over. -/
inductive Expected where
  /-- A value. -/
  | value
  /-- The first element of the innermost container, or its end. -/
  | first
  /-- A comma, or the end of the innermost container. -/
  | more
  /-- The name of a field. -/
  | key
  deriving DecidableEq

/-- A value is over: either all is, or the innermost container goes on. -/
def valueOver : List Container → (List Container × Expected) ⊕ Unit
  | [] => .inr ()
  | stack => .inl (stack, .more)

/-- Passes over the beginning of a value, or over all of it if it holds nothing. -/
def skipValueStart (stack : List Container) (c : Char) :
    JsonReader ((List Container × Expected) ⊕ Unit) :=
  match c with
  | '[' => pure (.inl (.array :: stack, .first))
  | '\x7b' => pure (.inl (.object :: stack, .first))
  | '"' => do skipString; return valueOver stack
  | 'n' => do word ['u', 'l', 'l']; return valueOver stack
  | 't' => do word ['r', 'u', 'e']; return valueOver stack
  | 'f' => do word ['a', 'l', 's', 'e']; return valueOver stack
  | '-' => do
    match ← Reader.next with
    | some d => if d.isDigit then do skipNumber d; return valueOver stack else malformed
    | none => malformed
  | c => if c.isDigit then do skipNumber c; return valueOver stack else malformed

/-- Passes over the name of a field and the colon behind it. -/
def skipKey (stack : List Container) (c : Char) :
    JsonReader ((List Container × Expected) ⊕ Unit) := do
  if c ≠ '"' then malformed
  else
    skipString
    if (← signChar) = ':' then pure (.inl (stack, .value)) else malformed

/-- Passes over one sign. -/
def skipStep (state : List Container × Expected) (c : Char) :
    JsonReader ((List Container × Expected) ⊕ Unit) :=
  if isSpace c then pure (.inl state)
  else
    match state with
    | (stack, .value) => skipValueStart stack c
    | (stack, .key) => skipKey stack c
    | (.array :: stack, .first) =>
      if c = ']' then pure (valueOver stack) else skipValueStart (.array :: stack) c
    | (.object :: stack, .first) =>
      if c = '\x7d' then pure (valueOver stack) else skipKey (.object :: stack) c
    | (.array :: stack, .more) =>
      if c = ',' then pure (.inl (.array :: stack, .value))
      else if c = ']' then pure (valueOver stack)
      else malformed
    | (.object :: stack, .more) =>
      if c = ',' then pure (.inl (.object :: stack, .key))
      else if c = '\x7d' then pure (valueOver stack)
      else malformed
    | ([], _) => malformed

/-- Passes over a value of any kind. -/
def skipValue : JsonReader Unit :=
  Reader.loop skipStep atEnd ([], .value)

/-- The digits of a fraction or an exponent. They must begin before the text ends. -/
def digits : JsonReader (List Char) := do
  let ds ← Reader.takeWhile Char.isDigit
  if ds.isEmpty then
    match ← Reader.peek with
    | some _ => malformed
    | none => endOfText
  else pure ds

/-- The exponent of a number, if it has one. -/
def exponent : JsonReader (Option Int) := do
  match ← Reader.peek with
  | some 'e' | some 'E' =>
    Reader.drop 1
    let negative := (← Reader.peek) == some '-'
    if negative || (← Reader.peek) == some '+' then Reader.drop 1
    let n : Int := Nat.ofDigitChars 10 (← digits) 0
    pure (some (if negative then -n else n))
  | _ => pure none

/-- Whether the number `m * 10 ^ e` is too large for a binary number of double precision. -/
def isTooLarge (m : Nat) (e : Int) : Bool :=
  let bound := Nat.pow 2 1024 - Nat.pow 2 970
  if m = 0 then false
  else if 400 < e then true
  else if 0 ≤ e then bound ≤ m * Nat.pow 10 e.toNat
  else if ((Nat.toDigits 10 m).length : Int) + e < 300 then false
  else bound * Nat.pow 10 (-e).toNat ≤ m

/-- A number, after its sign and its first digit: its digits, its places behind the point and its
exponent. The last two are missing from an integer. -/
def number (first : Char) : JsonReader (Nat × Option (Nat × Int)) := do
  let more ← Reader.takeWhile Char.isDigit
  if first = '0' ∧ !more.isEmpty then malformed
  else
    let point ← Reader.eat ['.']
    let fraction ← if point then digits else pure []
    let e ← exponent
    let m := Nat.ofDigitChars 10 (first :: more ++ fraction) 0
    if isTooLarge m (e.getD 0 - fraction.length) then malformed
    else if point || e.isSome then pure (m, some (fraction.length, e.getD 0))
    else pure (m, none)

/-- A value of another type than the one that is wanted. Containers are refused at their first sign,
and other values once they have been read. -/
def refuse {α : Type} (c : Char) : JsonReader α :=
  match c with
  | '[' => mismatch
  | '\x7b' => mismatch
  | '"' => do let _ ← string; mismatch
  | 'n' => do word ['u', 'l', 'l']; mismatch
  | 't' => do word ['r', 'u', 'e']; mismatch
  | 'f' => do word ['a', 'l', 's', 'e']; mismatch
  | '-' => do
    let d ← char
    if d.isDigit then do let _ ← number d; mismatch else malformed
  | c => if c.isDigit then do let _ ← number c; mismatch else malformed

end JsonReader

end GrammarKit
