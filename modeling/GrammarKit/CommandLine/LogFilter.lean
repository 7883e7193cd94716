import GrammarKit.Log
import GrammarKit.Pattern.Program
import GrammarKit.Text.Blank
import GrammarKit.Text.ByteLength

/-!
# Log filters

A filter tells which records of a log are shown. It is written as a list of levels, each of which may
be restricted to the targets that begin with a name, and a pattern may follow that a message must have
a match of. Of the rules whose names fit a target, the longest name decides.
-/

namespace GrammarKit

/-- The least grave level that is shown; `none` hides all records. -/
abbrev LevelLimit := Option Level

/-- A rule for the targets that begin with a name; the empty name stands for no name. -/
structure LogRule where
  name : Option String
  limit : LevelLimit
  deriving Repr, DecidableEq

/-- Which records of a log are shown. -/
structure LogFilter where
  rules : List LogRule
  message : Option Pattern.Regex

namespace LogFilter

/-- The limit with a name, in either case. -/
def limit? (s : String) : Option LevelLimit :=
  let name := s.toList.map Char.toUpper
  if name = "OFF".toList then some none
  else
    ([.error, .warn, .info, .debug, .trace] : List Level).findSome? fun level =>
      if name = level.name.toList then some (some level) else none

/-- A text without the white space at both ends. -/
def trim (cs : List Char) : List Char :=
  ((cs.dropWhile Text.isWhiteSpace).reverse.dropWhile Text.isWhiteSpace).reverse

/-- The rule that a part of a filter writes: a limit, a name, or both with an equals sign between
them. -/
def rule? (part : List Char) : Option LogRule :=
  match part.splitOn '=' with
  | [only] =>
    match limit? (String.ofList only) with
    | some limit => some ⟨none, limit⟩
    | none => some ⟨some (String.ofList only), some .trace⟩
  | [name, limit] =>
    if (trim limit).isEmpty then some ⟨some (String.ofList name), some .trace⟩
    else (limit? (String.ofList (trim limit))).map fun limit => ⟨some (String.ofList name), limit⟩
  | _ => none

/-- The rules with one more; a rule for the same name is replaced in its place. -/
def insert (r : LogRule) : List LogRule → List LogRule
  | [] => [r]
  | s :: rest => if s.name = r.name then r :: rest else s :: insert r rest

/-- The number of bytes of the name of a rule. -/
def nameLength (r : LogRule) : Nat :=
  (r.name.map fun name => Text.byteLength name.toList).getD 0

/-- The rules that the parts of a filter write, those that are badly written left out. -/
def rulesOf (parts : List (List Char)) : List LogRule :=
  (((parts.map trim).filter (!·.isEmpty)).filterMap rule?).foldl (fun rules r => insert r rules) []

/-- The filter with some rules, the longest names first. Without any rule only errors are shown. -/
def ofRules (rules : List LogRule) (message : Option Pattern.Regex) : LogFilter :=
  if rules.isEmpty then ⟨[⟨none, some .error⟩], message⟩
  else ⟨(rules.mergeSort fun a b => nameLength a ≤ nameLength b).reverse, message⟩

/-- The filter that a text writes: rules between commas, and behind a slash a pattern for messages. -/
def ofString (s : String) : LogFilter :=
  match s.toList.splitOn '/' with
  | [rules] => ofRules (rulesOf (rules.splitOn ',')) none
  | [rules, pattern] =>
    ofRules (rulesOf (rules.splitOn ',')) (Pattern.compile pattern).toOption
  | _ => ofRules [] none

/-- Whether records of a level are shown up to a limit. -/
def isWithin (level : Level) : LevelLimit → Bool
  | none => false
  | some limit => level.rank ≤ limit.rank

/-- Whether a record is shown. -/
def shows (f : LogFilter) (r : LogRecord) : Bool :=
  let rule := f.rules.find? fun rule =>
    rule.name.all fun name => name.toList.isPrefixOf r.target.toList
  rule.any (fun rule => isWithin r.level rule.limit) &&
    f.message.all fun regex => (regex.search r.message.toList.toArray).isSome

end LogFilter

end GrammarKit
