/-!
# Log records

What the library has to report beside its results is a list of records, each with a level, the part of
the program that it comes from, and a message. Nothing is written while the work goes on.
-/

namespace GrammarKit

/-- How much a record matters, the gravest first. -/
inductive Level where
  | error
  | warn
  | info
  | debug
  | trace
  deriving Repr, DecidableEq

namespace Level

/-- The levels by their gravity: one for errors, five for traces. -/
def rank : Level → Nat
  | .error => 1
  | .warn => 2
  | .info => 3
  | .debug => 4
  | .trace => 5

/-- The name of a level in a log. -/
def name : Level → String
  | .error => "ERROR"
  | .warn => "WARN"
  | .info => "INFO"
  | .debug => "DEBUG"
  | .trace => "TRACE"

end Level

/-- A record of a log. -/
structure LogRecord where
  level : Level
  target : String
  message : String
  deriving Repr, DecidableEq

namespace LogRecord

/-- A record of the lexer. -/
def lexer (level : Level) (message : String) : LogRecord :=
  ⟨level, "minigram::core::services::lexer", message⟩

/-- A record of the rule engine. -/
def engine (level : Level) (message : String) : LogRecord :=
  ⟨level, "minigram::core::services::engine", message⟩

/-- A record about a grammar. -/
def grammar (level : Level) (message : String) : LogRecord :=
  ⟨level, "minigram::grammar", message⟩

/-- A record about a stored description. -/
def store (level : Level) (message : String) : LogRecord :=
  ⟨level, "minigram::adapters::description::store", message⟩

end LogRecord

end GrammarKit
