import GrammarKit.Unicode.GeneralCategory
import GrammarKit.Unicode.Script
import GrammarKit.Unicode.ScriptExtensions
import GrammarKit.Unicode.BinaryProperty
import GrammarKit.Unicode.Age
import GrammarKit.Unicode.TextBreak

/-!
# Properties by name

A property of characters is asked for by one name, which may be a binary property, a general
category or a script, or by a property and one of its values. Names match loosely.
-/

namespace GrammarKit.Unicode

/-- The characters of a union of general categories, each given by its short name. -/
def categoryUnion (names : List String) : CharSet :=
  .unions (names.filterMap fun n => (PropertyRow.find? generalCategories n).map (·.toCharSet))

/-- The general categories that gather others: their names and the short names of their parts. -/
def groupedCategories : List (List String × List String) := [
  (["lc", "casedletter"], ["lu", "ll", "lt"]),
  (["l", "letter"], ["lu", "ll", "lt", "lm", "lo"]),
  (["m", "mark", "combiningmark"], ["mn", "mc", "me"]),
  (["n", "number"], ["nd", "nl", "no"]),
  (["p", "punctuation", "punct"], ["pc", "pd", "ps", "pe", "pi", "pf", "po"]),
  (["s", "symbol"], ["sm", "sc", "sk", "so"]),
  (["z", "separator"], ["zs", "zl", "zp"])]

/-- The characters without an assignment; surrogates count as assigned. -/
def unassigned : CharSet :=
  (CharSet.unions (.range 0xD800 0xDFFF :: generalCategories.map (·.toCharSet))).compl

/-- A general category by a loose name. -/
def category? (name : String) : Option CharSet :=
  if name == "any" then some .all
  else if name == "ascii" then some .ascii
  else if name == "assigned" then some unassigned.compl
  else if name == "cn" || name == "unassigned" then some unassigned
  else if name == "c" || name == "other" then
    some (CharSet.unions [unassigned, categoryUnion ["cc", "cf", "co"]])
  else
    match groupedCategories.find? (·.1.contains name) with
    | some (_, parts) => some (categoryUnion parts)
    | none => (PropertyRow.find? generalCategories name).map (·.toCharSet)

/-- A script by a loose name. -/
def script? (name : String) : Option CharSet :=
  (PropertyRow.find? scripts name).map (·.toCharSet)

/-- The characters used with a script, by a loose name. -/
def scriptExtension? (name : String) : Option CharSet :=
  match PropertyRow.find? scriptExtensions name with
  | some row => some row.toCharSet
  | none => script? name

/-- The sets of code points that carry a contributory property: what a derived property holds
beyond the categories it is derived from. -/
def contributoryProperty? (name : String) : Option CharSet :=
  let beyond (derived : String) (parts : List String) : Option CharSet :=
    (PropertyRow.find? binaryProperties derived).map fun row =>
      row.toCharSet.diff (categoryUnion parts)
  match name with
  | "oalpha" | "otheralphabetic" =>
    (PropertyRow.find? binaryProperties "alphabetic").map fun row =>
      (row.toCharSet.diff (categoryUnion ["lu", "ll", "lt", "lm", "lo", "nl"])).diff
        (.unions [(PropertyRow.find? binaryProperties "lowercase").elim .empty (·.toCharSet),
          (PropertyRow.find? binaryProperties "uppercase").elim .empty (·.toCharSet)])
  | "olower" | "otherlowercase" => beyond "lowercase" ["ll"]
  | "oupper" | "otheruppercase" => beyond "uppercase" ["lu"]
  | "omath" | "othermath" => beyond "math" ["sm"]
  | "ogrext" | "othergraphemeextend" => beyond "graphemeextend" ["mn", "me"]
  | _ => none

/-- A binary property by a loose name. -/
def binaryProperty? (name : String) : Option CharSet :=
  match PropertyRow.find? binaryProperties name with
  | some row => some row.toCharSet
  | none => contributoryProperty? name

/-- The characters that the versions up to and including the named one hold. -/
def age? (name : String) : Option CharSet :=
  let older := ages.takeWhile fun row => !row.names.contains name
  match ages.drop older.length with
  | [] => none
  | row :: _ => some (.unions ((older ++ [row]).map (·.toCharSet)))

/-- The Hangul syllables without a final consonant: every twenty-eighth of the block. -/
def openSyllables : CharSet :=
  .ofCodes ((List.range 399).map fun k => 0xAC00 + 28 * k)

/-- A value of the grapheme cluster classes by a loose name. -/
def graphemeClusterBreak? (name : String) : Option CharSet :=
  match name with
  | "lv" => some openSyllables
  | "lvt" => some ((CharSet.range 0xAC00 0xD7A3).diff openSyllables)
  | _ => (PropertyRow.find? graphemeClusterBreaks name).map (·.toCharSet)

/-- The characters with a property that is asked for by one name. Three names that are also short
names of other properties stand for the general categories. -/
def property? (name : String) : Option CharSet :=
  let name := looseName name
  let asBinary := if name == "cf" || name == "sc" || name == "lc" then none else binaryProperty? name
  asBinary <|> category? name <|> script? name

/-- The characters for which a property has a value, both by name. -/
def propertyValue? (property value : String) : Option CharSet :=
  let value := looseName value
  match looseName property with
  | "gc" | "generalcategory" => category? value
  | "sc" | "script" => script? value
  | "scx" | "scriptextensions" => scriptExtension? value
  | "age" => age? value
  | "gcb" | "graphemeclusterbreak" => graphemeClusterBreak? value
  | "wb" | "wordbreak" => (PropertyRow.find? wordBreaks value).map (·.toCharSet)
  | "sb" | "sentencebreak" => (PropertyRow.find? sentenceBreaks value).map (·.toCharSet)
  | _ => none

/-- Decimal digits, in any script. -/
def digits : CharSet :=
  categoryUnion ["nd"]

/-- White space. -/
def spaces : CharSet :=
  (binaryProperty? "whitespace").getD .empty

/-- The characters of words: letters and what acts like them, marks, decimal digits, connectors and
the two joiners. -/
def wordCharacters : CharSet :=
  .unions [(binaryProperty? "alphabetic").getD .empty, categoryUnion ["mn", "mc", "me", "nd", "pc"],
    (binaryProperty? "joincontrol").getD .empty]

/-- Letters and what acts like them. -/
def alphabetic : CharSet :=
  (binaryProperty? "alphabetic").getD .empty

/-- Numbers of every kind. -/
def numbers : CharSet :=
  categoryUnion ["nd", "nl", "no"]

end GrammarKit.Unicode
