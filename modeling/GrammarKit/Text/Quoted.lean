import GrammarKit.Unicode.Property

/-!
# Quoted text

A text in quotes shows every character by itself or by an escape, so that the reader sees exactly
what it holds: quotes and backslashes, the usual control characters, combining marks and whatever
has no printed form are escaped.
-/

namespace GrammarKit.Text

open GrammarKit.Unicode

/-- The characters that have no printed form of their own, and the marks that would combine with
what stands before them. -/
def unprintable : CharSet :=
  .unions [unassigned, .range 0xD800 0xDFFF, categoryUnion ["cc", "cf", "co", "zl", "zp", "zs"],
    (binaryProperty? "graphemeextend").getD .empty]

/-- The lower-case hexadecimal digits of a number. -/
def hexDigits (n : Nat) : List Char :=
  Nat.toDigits 16 n

/-- How a character stands between quotes. -/
def quoteChar (c : Char) : List Char :=
  if c = '"' then ['\\', '"']
  else if c = '\\' then ['\\', '\\']
  else if c = '\n' then ['\\', 'n']
  else if c = '\r' then ['\\', 'r']
  else if c = '\t' then ['\\', 't']
  else if c.toNat = 0 then ['\\', '0']
  else if 0x20 ≤ c.toNat ∧ c.toNat < 0x7F then [c]
  else if unprintable.contains c then ['\\', 'u', '\x7b'] ++ hexDigits c.toNat ++ ['\x7d']
  else [c]

/-- The text in quotes, with its escapes. -/
def quote (s : String) : String :=
  String.ofList ('"' :: s.toList.flatMap quoteChar ++ ['"'])

/-- A list of texts in brackets, each in quotes. -/
def quoteList (ss : List String) : String :=
  "[" ++ String.intercalate ", " (ss.map quote) ++ "]"

end GrammarKit.Text
