import GrammarKit.Description.Json
import GrammarKit.Description.Toml
import GrammarKit.Error

/-!
# Formats of descriptions

A description is written in TOML or in JSON. Where nobody names the format, the ending of the file name
tells it, and TOML is the default.
-/

namespace GrammarKit

/-- The formats of descriptions. -/
inductive DescriptionFormat where
  | toml
  | json
  deriving Repr, DecidableEq

instance : Inhabited DescriptionFormat := ⟨.toml⟩

namespace DescriptionFormat

/-- The name of a format. -/
def name : DescriptionFormat → String
  | .toml => "toml"
  | .json => "json"

/-- The parts of a path between its slashes, without those that lead nowhere. -/
def components (path : String) : List (List Char) :=
  (path.toList.splitOn '/').filter fun part => part ≠ [] && part ≠ ['.']

/-- The ending of a file name behind its last point, unless that point comes first. -/
def ending? (fileName : List Char) : Option (List Char) :=
  if fileName = ['.', '.'] then none
  else
    let ending := (fileName.reverse.takeWhile (· ≠ '.')).reverse
    if ending.length + 1 < fileName.length then some ending else none

/-- The format of a file by the ending of its name, in either case. -/
def ofPath (path : String) : DescriptionFormat :=
  match (components path).getLast?.bind ending? with
  | some ending => if ending.map Char.toLower = ['j', 's', 'o', 'n'] then .json else .toml
  | none => .toml

/-- The format with a name, in either case. -/
def ofName? (s : String) : Option DescriptionFormat :=
  if s.toList.map Char.toLower = "toml".toList then some .toml
  else if s.toList.map Char.toLower = "json".toList then some .json
  else none

/-- The wording for a name that no format has. -/
def unknownMessage (s : String) : String := "unknown description format: " ++ s

/-- The description that a text denotes in a format. -/
def parse (format : DescriptionFormat) (text : String) :
    Except DescriptionError GrammarDescription :=
  match format with
  | .toml => (GrammarDescription.ofToml text).mapError fun _ => .toml
  | .json => (GrammarDescription.ofJson text).mapError .json

/-- The text of a description in a format. -/
def write (format : DescriptionFormat) (d : GrammarDescription) : String :=
  match format with
  | .toml => d.writeToml
  | .json => d.writeJson

end DescriptionFormat

end GrammarKit
