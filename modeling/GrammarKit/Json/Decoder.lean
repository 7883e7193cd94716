import GrammarKit.Json.Reader

/-!
# Typed JSON

A decoder reads a value of one type from its first sign on. Records are objects whose fields come in
any order, with names nobody knows passed over, or arrays that hold the fields in their order.
-/

namespace GrammarKit

open JsonReader

/-- Reads a value that begins with the given character. -/
abbrev JsonDecoder (α : Type) := Char → JsonReader α

namespace JsonDecoder

/-- A string. -/
def string : JsonDecoder String := fun c =>
  if c = '"' then JsonReader.string else refuse c

/-- A natural number below 2 to the 64th, written as an integer. -/
def nat64 : JsonDecoder Nat := fun c =>
  if c.isDigit then do
    match ← number c with
    | (n, none) => if n < Nat.pow 2 64 then pure n else mismatch
    | (_, some _) => mismatch
  else refuse c

/-- A value or `null`. -/
def option {α : Type} (decode : JsonDecoder α) : JsonDecoder (Option α) := fun c =>
  if c = 'n' then do
    word ['u', 'l', 'l']
    pure none
  else do return some (← decode c)

/-- The next value, after white space. -/
def value {α : Type} (decode : JsonDecoder α) : JsonReader α := do
  decode (← signChar)

/-- One sign of an array: the flag tells that no item has come, and the items are latest first. -/
def listStep {α : Type} (decode : JsonDecoder α) (state : Bool × List α) (c : Char) :
    JsonReader ((Bool × List α) ⊕ List α) :=
  if isSpace c then pure (.inl state)
  else if c = ']' then pure (.inr state.2.reverse)
  else if state.1 then do return .inl (false, (← decode c) :: state.2)
  else if c = ',' then do
    let c ← signChar
    if c = ']' then malformed else return .inl (false, (← decode c) :: state.2)
  else malformed

/-- A list, written as an array. -/
def list {α : Type} (decode : JsonDecoder α) : JsonDecoder (List α) := fun c =>
  if c = '[' then Reader.loop (listStep decode) atEnd (true, []) else refuse c

/-- A field of a record that is being read into a draft. -/
structure Field (δ : Type) where
  /-- The names that the field goes by. -/
  names : List String
  /-- Whether the draft holds the field. -/
  isSet : δ → Bool
  /-- The value of the field, put into the draft. -/
  read : δ → JsonDecoder δ

/-- The form of a record: its fields in order, the empty draft, and the record of a draft, unless a
field is missing. -/
structure Form (δ α : Type) where
  fields : List (Field δ)
  blank : δ
  finish : δ → Option α

namespace Form

variable {δ α : Type}

/-- The record of a draft; a missing field is a mismatch. -/
def complete (form : Form δ α) (draft : δ) : JsonReader α :=
  match form.finish draft with
  | some a => pure a
  | none => mismatch

/-- A field of an object, after the opening quote of its name. A field that came before is refused as
soon as its name is read. -/
def member (form : Form δ α) (draft : δ) : JsonReader δ := do
  let name ← JsonReader.string
  match form.fields.find? (·.names.contains name) with
  | some field =>
    if field.isSet draft then mismatch
    else if (← signChar) = ':' then value (field.read draft)
    else malformed
  | none =>
    if (← signChar) = ':' then do
      skipValue
      pure draft
    else malformed

/-- One sign of an object; the flag tells that no field has come. -/
def objectStep (form : Form δ α) (state : Bool × δ) (c : Char) : JsonReader ((Bool × δ) ⊕ α) :=
  if isSpace c then pure (.inl state)
  else if c = '\x7d' then do return .inr (← form.complete state.2)
  else if state.1 then
    if c = '"' then do return .inl (false, ← form.member state.2) else malformed
  else if c = ',' then do
    if (← signChar) = '"' then return .inl (false, ← form.member state.2) else malformed
  else malformed

/-- The fields of an array, as far as it goes; the flag tells that no item has come. -/
def items : List (Field δ) → Bool → δ → JsonReader δ
  | [], _, draft => pure draft
  | field :: fields, isFirst, draft => do
    space
    match ← Reader.peek with
    | none => endOfText
    | some ']' => pure draft
    | some ',' =>
      if isFirst then malformed
      else
        Reader.drop 1
        let c ← signChar
        if c = ']' then malformed else items fields false (← field.read draft c)
    | some _ => if isFirst then items fields false (← value (field.read draft)) else malformed

/-- A record, written as an object or as an array. -/
def decode (form : Form δ α) : JsonDecoder α := fun c =>
  if c = '\x7b' then Reader.loop form.objectStep atEnd (true, form.blank)
  else if c = '[' then do
    let draft ← items form.fields true form.blank
    let a ← form.complete draft
    if (← signChar) = ']' then pure a else malformed
  else refuse c

end Form

/-- The value that a whole text denotes. -/
def run {α : Type} (decode : JsonDecoder α) (text : String) : Except JsonError α :=
  Reader.whole (do
    let a ← value decode
    space
    pure a) .malformed text.toList

end JsonDecoder

end GrammarKit
