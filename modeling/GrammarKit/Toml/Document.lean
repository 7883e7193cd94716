import GrammarKit.Toml.Scalar
import GrammarKit.Toml.StringReader

/-!
# Reading TOML documents

A document is a sequence of lines. A header says to which table the lines behind it belong, and any
other line that is not blank gives a value to a key. The tables grow as the lines are read, and a line
that adds what may not be added makes the document badly written.
-/

namespace GrammarKit.Toml

namespace TomlReader

/-- The value of a step that may refuse. -/
def orMalformed {α : Type} : Option α → TomlReader α
  | some a => pure a
  | none => malformed

/-- The characters of a comment. -/
def isCommentChar (c : Char) : Bool := c != '\n' && !isControl c

/-- A comment, after its first sign and up to the end of its line. -/
def comment : TomlReader Unit := do
  let _ ← Reader.takeWhile isCommentChar

/-- The characters of a key without quotes. -/
def isBare (c : Char) : Bool := c.isAlphanum || c == '_' || c == '-'

/-- One part of a key, from its first character on. -/
def keyPart (c : Char) : TomlReader String :=
  if c = '"' ∨ c = '\'' then lineString c
  else if isBare c then do return String.ofList (c :: (← Reader.takeWhile isBare))
  else malformed

/-- A sign behind the last part of a dotted key; the state holds the parts before it, latest first,
and the part itself. -/
def keyStep (stop : Char) (parts : List String × String) (c : Char) :
    TomlReader ((List String × String) ⊕ (List String × String)) :=
  if isSpace c then pure (.inl parts)
  else if c = '.' then do
    space
    return .inl (parts.2 :: parts.1, ← keyPart (← char))
  else if c = stop then pure (.inr (parts.1.reverse, parts.2))
  else malformed

/-- A dotted key, from its first character on and with the sign that stops it: the parts before the
last, and the last. -/
def key (stop c : Char) : TomlReader (List String × String) := do
  Reader.loop (keyStep stop) atEnd ([], ← keyPart c)

/-- The characters of a scalar that stand together. -/
def isScalarChar (c : Char) : Bool := isBare c || c == '+' || c == '.' || c == ':'

/-- The time of the day behind a date, from the blank between them on. -/
def timeAfterDate : TomlReader (List Char) := do
  match ← Reader.rest with
  | ' ' :: c :: _ =>
    if c.isDigit then
      Reader.drop 1
      return ' ' :: (← Reader.takeWhile isScalarChar)
    else pure []
  | _ => pure []

/-- A number, a truth value, a date or a time, from its first character on. -/
def scalar (c : Char) : TomlReader Value := do
  let cs := c :: (← Reader.takeWhile isScalarChar)
  let time ← if isDate cs then timeAfterDate else pure []
  if isScalar (cs ++ time) then pure .scalar else malformed

/-- A sign of an array; the flag tells that an item may come, and the items are latest first. -/
def arrayStep (item : Char → TomlReader Value) (state : Bool × List Value) (c : Char) :
    TomlReader ((Bool × List Value) ⊕ Value) :=
  if isSpace c ∨ c = '\n' then pure (.inl state)
  else if c = '\r' then do
    lineFeed
    pure (.inl state)
  else if c = '#' then do
    comment
    pure (.inl state)
  else if c = ']' then pure (.inr (.array state.2.reverse))
  else if c = ',' then
    if state.1 then malformed else pure (.inl (true, state.2))
  else if state.1 then do return .inl (false, (← item c) :: state.2)
  else malformed

/-- A key with its value, from the first character of the key on, added to some entries. -/
def member (value : Char → TomlReader Value) (kind : TableKind) (path : List String) (es : Entries)
    (c : Char) : TomlReader Entries := do
  let (way, last) ← key '=' c
  space
  let v ← value (← char)
  orMalformed (es.changeAt false (Entries.addDotted way last v) path kind)

/-- A sign of an inline table; the flags tell that a member may come, and that one has come. -/
def inlineStep (value : Char → TomlReader Value) (state : Bool × Entries) (c : Char) :
    TomlReader ((Bool × Entries) ⊕ Value) :=
  if isSpace c ∨ c = '\n' then pure (.inl state)
  else if c = '\r' then do
    lineFeed
    pure (.inl state)
  else if c = '#' then do
    comment
    pure (.inl state)
  else if c = '\x7d' then pure (.inr (.table .inline state.2))
  else if c = ',' then
    if state.1 then malformed else pure (.inl (true, state.2))
  else if state.1 then do return .inl (false, ← member value .inline [] state.2 c)
  else malformed

/-- A value, from its first character on. Arrays and inline tables lie in each other up to `room`
deep. -/
def value : Nat → Char → TomlReader Value
  | room, c =>
    if c = '"' ∨ c = '\'' then do return .string (← string c)
    else if c = '[' then
      match room with
      | 0 => malformed
      | room + 1 => Reader.loop (arrayStep (value room)) atEnd (true, [])
    else if c = '\x7b' then
      match room with
      | 0 => malformed
      | room + 1 => Reader.loop (inlineStep (value room)) atEnd (true, [])
    else scalar c

/-- How deep arrays and inline tables may lie in each other. -/
def roomLimit : Nat := 79

/-- The end of a line that has said something. The line end itself is left, as is the end of the
text. -/
def lineRest : TomlReader Unit := do
  space
  match ← Reader.peek with
  | none => pure ()
  | some c =>
    if c = '\n' ∨ c = '\r' then pure ()
    else if c = '#' then comment
    else malformed

/-- A document, as far as it has been read. -/
structure Progress where
  /-- The tables so far. -/
  root : Entries := []
  /-- The path of the table that the lines belong to. -/
  path : List String := []

/-- A header, after its first bracket. -/
def header (doc : Progress) : TomlReader Progress := do
  let isArray ← Reader.eat ['[']
  space
  let (way, last) ← key ']' (← char)
  let root ←
    if isArray then
      if (← char) = ']' then orMalformed (doc.root.openTables way last) else malformed
    else orMalformed (doc.root.openTable way last)
  pure ⟨root, way ++ [last]⟩

/-- A sign at the head of a line. -/
def lineStep (doc : Progress) (c : Char) : TomlReader (Progress ⊕ Entries) :=
  if isSpace c ∨ c = '\n' then pure (.inl doc)
  else if c = '\r' then do
    lineFeed
    pure (.inl doc)
  else if c = '#' then do
    comment
    pure (.inl doc)
  else if c = '[' then do
    let doc ← header doc
    lineRest
    pure (.inl doc)
  else do
    let root ← member (value roomLimit) .headed doc.path doc.root c
    lineRest
    pure (.inl { doc with root })

/-- A whole document. -/
def document : TomlReader Entries := do
  let _ ← Reader.eat ['\ufeff']
  Reader.loop lineStep (fun doc => .ok doc.root) {}

end TomlReader

/-- The entries of the document that a text denotes. -/
def Entries.ofText (text : String) : Except TomlError Entries :=
  Reader.whole TomlReader.document .malformed text.toList

end GrammarKit.Toml
