import GrammarKit.Json.Reader
import GrammarKit.Pattern.Flags

/-!
# Errors

Definitions may be refused, and so may descriptions of grammars. Each error is a cause, and its wording
stands here. A message that names a cause from below does not spell it out: the error itself carries
that cause as a value.
-/

namespace GrammarKit

/-- Stands in a message for the wording of the underlying cause. -/
def causeMark : String := "<source>"

/-- Why a token or a rule cannot be defined. -/
inductive DefinitionError where
  /-- The kind or the name is blank. -/
  | emptyName
  /-- The pattern of the token kind does not compile. -/
  | invalidPattern (kind : String) (cause : Pattern.PatternError)
  /-- The sequence of the rule has no kinds. -/
  | emptySequence (rule : String)
  deriving Repr, DecidableEq

/-- Why a definition cannot be added to a grammar: the name is taken, and the first definition
stands. -/
inductive DuplicateError where
  | token (kind : String)
  | rule (name : String)
  deriving Repr, DecidableEq

/-- Why a grammar refuses a definition. -/
inductive GrammarError where
  | definition (e : DefinitionError)
  | duplicate (e : DuplicateError)
  deriving Repr, DecidableEq

/-- Why a file cannot be read or written. -/
inductive FileError where
  | notFound
  | isADirectory
  | notADirectory
  /-- A path holds a character that no file name can have. -/
  | invalidInput
  /-- A path is too long, or one of its parts is. -/
  | nameTooLong
  /-- A file holds no text in UTF-8. -/
  | invalidData
  deriving Repr, DecidableEq

/-- Why a description cannot be loaded or saved. -/
inductive DescriptionError where
  /-- The file at the path cannot be read or written. -/
  | file (path : String) (cause : FileError)
  /-- The text is no description in TOML. -/
  | toml
  /-- The text is no description in JSON. -/
  | json (cause : JsonError)
  deriving Repr, DecidableEq

/-- The wording of an error of definition. -/
def DefinitionError.message : DefinitionError → String
  | .emptyName => "definition name must not be empty"
  | .invalidPattern kind _ => "invalid pattern for token `" ++ kind ++ "`: " ++ causeMark
  | .emptySequence rule => "rule `" ++ rule ++ "` has an empty token sequence"

/-- The wording of a repeated definition. -/
def DuplicateError.message : DuplicateError → String
  | .token kind => "token `" ++ kind ++ "` already registered"
  | .rule name => "rule `" ++ name ++ "` already registered"

/-- The wording of a refused definition: that of its cause. -/
def GrammarError.message : GrammarError → String
  | .definition e => e.message
  | .duplicate e => e.message

/-- The wording of an error about a description. -/
def DescriptionError.message : DescriptionError → String
  | .file path _ => "io error on " ++ path ++ ": " ++ causeMark
  | .toml => "toml parse error: " ++ causeMark
  | .json _ => "json error: " ++ causeMark

end GrammarKit
