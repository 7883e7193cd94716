/-!
# Writing TOML strings

TOML knows four forms of strings: basic ones with escapes and literal ones without, each also over
several lines. A text is written in the plainest form that can hold it, in an order of preference that
keeps backslashes and quotes bare where it can.
-/

namespace GrammarKit.Toml

/-- The four forms of a string. -/
inductive StringForm where
  | basic
  | literal
  | multilineBasic
  | multilineLiteral
  deriving Repr, DecidableEq

/-- The control characters that only an escape can stand for: those of ASCII other than the tab and
the line feed. -/
def isControl (c : Char) : Bool :=
  (c.toNat < 32 && c != '\t' && c != '\n') || c.toNat == 127

/-- The most characters `q` that follow one another in a text, after `run` of them. -/
def longestRunFrom (q : Char) (run : Nat) : List Char → Nat
  | [] => run
  | c :: cs => if c = q then longestRunFrom q (run + 1) cs else max run (longestRunFrom q 0 cs)

/-- The most characters `q` that follow one another in a text. -/
def longestRun (q : Char) (cs : List Char) : Nat := longestRunFrom q 0 cs

/-- The characters of which a text is so plain that no other form is thought of. -/
def isPlain (c : Char) : Bool :=
  c.isAlphanum || c == '_' || c == '-' || c == '.' || c == '/' || c == ':' || c == ' '

/-- The form in which a text is written. -/
def StringForm.choose (cs : List Char) : StringForm :=
  let free := !cs.any isControl
  let has (c : Char) := cs.contains c
  if cs.all isPlain then .basic
  else if free && !has '\\' && !has '"' && !has '\n' then .basic
  else if free && !has '\'' && !has '\n' then .literal
  else if free && !has '\\' && longestRun '"' cs ≤ 2 then .multilineBasic
  else if free && longestRun '\'' cs ≤ 2 then .multilineLiteral
  else if has '\n' then .multilineBasic
  else .basic

/-- The upper-case hexadecimal digit of a number below 16. -/
def hexDigit (n : Nat) : Char :=
  if n < 10 then Char.ofNat (48 + n) else Char.ofNat (55 + n)

/-- How a character other than a quote stands in a basic string. -/
def escapeChar (c : Char) : List Char :=
  if c = '\\' then ['\\', '\\']
  else if c.toNat = 8 then ['\\', 'b']
  else if c = '\t' then ['\\', 't']
  else if c = '\n' then ['\\', 'n']
  else if c.toNat = 12 then ['\\', 'f']
  else if c = '\r' then ['\\', 'r']
  else if isControl c then
    ['\\', 'u', '0', '0', hexDigit (c.toNat / 16), hexDigit (c.toNat % 16)]
  else [c]

/-- The content of a basic string. -/
def basicBody : List Char → List Char
  | [] => []
  | c :: cs => (if c = '"' then ['\\', '"'] else escapeChar c) ++ basicBody cs

/-- The content of a basic string over several lines, after `run` bare quotes: every third quote in
a row is escaped, and line feeds stand bare. -/
def multilineBody (run : Nat) : List Char → List Char
  | [] => []
  | c :: cs =>
    if c = '"' then
      if run = 2 then '\\' :: '"' :: multilineBody 0 cs else '"' :: multilineBody (run + 1) cs
    else if c = '\n' then '\n' :: multilineBody 0 cs
    else escapeChar c ++ multilineBody 0 cs

/-- The quotes around a string over several lines, which begins on a line of its own if it has a line
end. -/
def wrapLines (quote : Char) (cs body : List Char) : List Char :=
  [quote, quote, quote] ++ (if cs.contains '\n' then ['\n'] else []) ++ body ++
    [quote, quote, quote]

/-- A text in a form. -/
def StringForm.write (cs : List Char) : StringForm → List Char
  | .basic => '"' :: basicBody cs ++ ['"']
  | .literal => '\'' :: cs ++ ['\'']
  | .multilineBasic => wrapLines '"' cs (multilineBody 0 cs)
  | .multilineLiteral => wrapLines '\'' cs cs

/-- A text as a TOML string. -/
def stringChars (s : String) : List Char :=
  (StringForm.choose s.toList).write s.toList

end GrammarKit.Toml
