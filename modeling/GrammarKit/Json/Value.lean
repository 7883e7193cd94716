import GrammarKit.Decimal

/-!
# JSON values and their texts

Values of the JSON data format. The fields of an object have an order, and both texts keep it: the
compact text has no space at all, and the pretty text puts each element on a line of its own, two
blanks deeper than what holds it.
-/

namespace GrammarKit

/-- A JSON value; the fields of an object are in order. -/
inductive Json where
  | null
  | bool (b : Bool)
  | int (n : Int)
  | decimal (d : Decimal)
  | string (s : String)
  | array (items : List Json)
  | object (fields : List (String × Json))
  deriving Repr

instance : Inhabited Json := ⟨.null⟩

namespace Json

/-- A natural number as a value. -/
def nat (n : Nat) : Json := .int n

/-- A list of texts as a value. -/
def strings (ss : List String) : Json := .array (ss.map .string)

/-- A value that may be missing, where `null` stands for none. -/
def ofOption {α : Type} (f : α → Json) : Option α → Json
  | none => .null
  | some a => f a

/-- The field of an object with the given name. -/
def field? (name : String) : Json → Option Json
  | .object fields => (fields.find? (·.1 == name)).map (·.2)
  | _ => none

/-- The lower-case hexadecimal digit of a number below 16. -/
def hexDigit (n : Nat) : Char :=
  if n < 10 then Char.ofNat (48 + n) else Char.ofNat (87 + n)

/-- How a character stands in a JSON string. Quotes, backslashes and the characters below the blank
are escaped, and all else stands for itself. -/
def escapeChar (c : Char) : List Char :=
  if c = '"' then ['\\', '"']
  else if c = '\\' then ['\\', '\\']
  else if c.toNat = 8 then ['\\', 'b']
  else if c = '\t' then ['\\', 't']
  else if c = '\n' then ['\\', 'n']
  else if c.toNat = 12 then ['\\', 'f']
  else if c = '\r' then ['\\', 'r']
  else if c.toNat < 32 then
    ['\\', 'u', '0', '0', hexDigit (c.toNat / 16), hexDigit (c.toNat % 16)]
  else [c]

/-- A text as a JSON string. -/
def stringChars (s : String) : List Char :=
  '"' :: s.toList.flatMap escapeChar ++ ['"']

/-- The digits of an integer, with its sign if it is negative. -/
def intChars : Int → List Char
  | .ofNat n => Decimal.natChars n
  | .negSucc n => '-' :: Decimal.natChars (n + 1)

/-- The text of `true` and `false`. -/
def boolChars (b : Bool) : List Char :=
  if b then ['t', 'r', 'u', 'e'] else ['f', 'a', 'l', 's', 'e']

/-- The line end and the blanks that begin a line at a depth. -/
def newLine (depth : Nat) : List Char :=
  '\n' :: List.replicate (2 * depth) ' '

mutual

/-- The text without any space. -/
def compactChars : Json → List Char
  | .null => ['n', 'u', 'l', 'l']
  | .bool b => boolChars b
  | .int n => intChars n
  | .decimal d => d.chars
  | .string s => stringChars s
  | .array [] => ['[', ']']
  | .array (v :: vs) => '[' :: (compactChars v ++ compactItems vs)
  | .object [] => ['\x7b', '\x7d']
  | .object ((k, v) :: fs) => '\x7b' :: (stringChars k ++ ':' :: (compactChars v ++ compactFields fs))

/-- The further items of an array, and its end. -/
def compactItems : List Json → List Char
  | [] => [']']
  | v :: vs => ',' :: (compactChars v ++ compactItems vs)

/-- The further fields of an object, and its end. -/
def compactFields : List (String × Json) → List Char
  | [] => ['\x7d']
  | (k, v) :: fs => ',' :: (stringChars k ++ ':' :: (compactChars v ++ compactFields fs))

end

mutual

/-- The text with one element a line; `depth` counts the containers around the value. -/
def prettyChars (depth : Nat) : Json → List Char
  | .null => ['n', 'u', 'l', 'l']
  | .bool b => boolChars b
  | .int n => intChars n
  | .decimal d => d.chars
  | .string s => stringChars s
  | .array [] => ['[', ']']
  | .array (v :: vs) =>
    '[' :: (newLine (depth + 1) ++ (prettyChars (depth + 1) v ++ prettyItems depth vs))
  | .object [] => ['\x7b', '\x7d']
  | .object ((k, v) :: fs) =>
    '\x7b' :: (newLine (depth + 1) ++ (stringChars k ++ ':' :: ' ' ::
      (prettyChars (depth + 1) v ++ prettyFields depth fs)))

/-- The further items of an array at a depth, and its end. -/
def prettyItems (depth : Nat) : List Json → List Char
  | [] => newLine depth ++ [']']
  | v :: vs =>
    ',' :: (newLine (depth + 1) ++ (prettyChars (depth + 1) v ++ prettyItems depth vs))

/-- The further fields of an object at a depth, and its end. -/
def prettyFields (depth : Nat) : List (String × Json) → List Char
  | [] => newLine depth ++ ['\x7d']
  | (k, v) :: fs =>
    ',' :: (newLine (depth + 1) ++ (stringChars k ++ ':' :: ' ' ::
      (prettyChars (depth + 1) v ++ prettyFields depth fs)))

end

/-- The compact text of a value. -/
def compact (v : Json) : String :=
  String.ofList (compactChars v)

/-- The pretty text of a value. -/
def pretty (v : Json) : String :=
  String.ofList (prettyChars 0 v)

mutual

/-- The value with the fields of its objects in the order of their names. -/
def sorted : Json → Json
  | .array vs => .array (sortedItems vs)
  | .object fs => .object ((sortedFields fs).mergeSort fun a b => a.1 ≤ b.1)
  | v => v

/-- The items of an array, each with its fields in order. -/
def sortedItems : List Json → List Json
  | [] => []
  | v :: vs => sorted v :: sortedItems vs

/-- The fields of an object, each value with its own fields in order. -/
def sortedFields : List (String × Json) → List (String × Json)
  | [] => []
  | (k, v) :: fs => (k, sorted v) :: sortedFields fs

end

end Json

end GrammarKit
