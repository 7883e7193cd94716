import GrammarKit.Description.Format

/-!
# Arguments of the command line

The arguments name a command and its options. Two flags may stand anywhere, at most once before the
command and once behind it. An option takes its value from the same argument or from the next one, and
behind `--` every argument is text.
-/

namespace GrammarKit

/-- What the program is asked to do. -/
inductive Command where
  /-- Print the tokens of a text, or of the standard input. -/
  | tokenize (grammar : String) (text : Option String)
  /-- Count the tokens of a text, or of the standard input, by kind. -/
  | count (grammar : String) (text : Option String)
  /-- Check the description of a grammar. -/
  | check (grammar : String)
  /-- Print the description of a grammar in a format. -/
  | convert (grammar : String) (target : DescriptionFormat)
  | version
  deriving Repr, DecidableEq

/-- A command, if there is one, with the flags that go for all commands. -/
structure Invocation where
  verbose : Bool
  json : Bool
  command : Option Command
  deriving Repr, DecidableEq

/-- What the arguments ask for. -/
inductive Request where
  /-- The name and the version of the program, and nothing else. -/
  | programVersion
  | run (i : Invocation)
  deriving Repr, DecidableEq

/-- Why the arguments cannot be understood. -/
inductive UsageError where
  | unknownArgument (argument : String)
  | unknownCommand (name : String)
  | repeatedOption (name : String)
  | missingValue (name : String)
  | unexpectedValue (name : String)
  | invalidValue (name value : String)
  | missingOption (name : String)
  deriving Repr, DecidableEq

/-- The wording of a usage error. -/
def UsageError.message : UsageError → String
  | .unknownArgument argument => "unexpected argument '" ++ argument ++ "'"
  | .unknownCommand name => "unrecognized subcommand '" ++ name ++ "'"
  | .repeatedOption name => "the argument '" ++ name ++ "' cannot be used multiple times"
  | .missingValue name => "a value is required for '" ++ name ++ "'"
  | .unexpectedValue name => "the argument '" ++ name ++ "' takes no value"
  | .invalidValue name value => "invalid value '" ++ value ++ "' for '" ++ name ++ "'"
  | .missingOption name => "the argument '" ++ name ++ "' is required"

namespace Arguments

/-- The names of the commands. -/
inductive CommandName where
  | tokenize
  | count
  | check
  | convert
  | version
  deriving Repr, DecidableEq

namespace CommandName

/-- The command with a name. -/
def ofString? (s : String) : Option CommandName :=
  if s = "tokenize" then some .tokenize
  else if s = "count" then some .count
  else if s = "check" then some .check
  else if s = "convert" then some .convert
  else if s = "version" then some .version
  else none

/-- Whether a command takes a text. -/
def takesText : CommandName → Bool
  | .tokenize | .count => true
  | _ => false

end CommandName

/-- The flags that go for all commands. -/
structure Flags where
  verbose : Bool := false
  json : Bool := false

namespace Flags

/-- The flags with one more set, which must not be set yet. -/
def setVerbose (f : Flags) : Except UsageError Flags :=
  if f.verbose then .error (.repeatedOption "--verbose") else .ok { f with verbose := true }

/-- The flags with one more set, which must not be set yet. -/
def setJson (f : Flags) : Except UsageError Flags :=
  if f.json then .error (.repeatedOption "--json") else .ok { f with json := true }

/-- The flags that are set before the command or behind it. -/
def both (f g : Flags) : Flags := ⟨f.verbose || g.verbose, f.json || g.json⟩

end Flags

/-- The options that take a value. -/
inductive ValueOption where
  | grammar
  | target
  deriving Repr, DecidableEq

namespace ValueOption

/-- The long form of an option. -/
def name : ValueOption → String
  | .grammar => "--grammar"
  | .target => "--to"

/-- The option of a command with a long name. -/
def ofLong? (command : CommandName) (s : String) : Option ValueOption :=
  if s = "grammar" ∧ command ≠ .version then some .grammar
  else if s = "to" ∧ command = .convert then some .target
  else none

/-- The option of a command with a letter. -/
def ofShort? (command : CommandName) (c : Char) : Option ValueOption :=
  if c = 'g' ∧ command ≠ .version then some .grammar
  else if c = 't' ∧ command = .convert then some .target
  else none

end ValueOption

/-- What has been read of the arguments behind a command. -/
structure Draft where
  flags : Flags := {}
  grammar : Option String := none
  target : Option DescriptionFormat := none
  text : Option String := none

namespace Draft

/-- The draft with the value of an option, which must have none yet. -/
def setValue (d : Draft) (value : String) : ValueOption → Except UsageError Draft
  | .grammar =>
    if d.grammar.isSome then .error (.repeatedOption "--grammar")
    else if value = "" then .error (.invalidValue "--grammar" value)
    else .ok { d with grammar := some value }
  | .target =>
    if d.target.isSome then .error (.repeatedOption "--to")
    else
      match DescriptionFormat.ofName? value with
      | some format => .ok { d with target := some format }
      | none => .error (.invalidValue "--to" value)

/-- The draft with a text, if the command takes one and has none yet. -/
def setText (command : CommandName) (d : Draft) (text : String) : Except UsageError Draft :=
  if command.takesText && d.text.isNone then .ok { d with text := some text }
  else .error (.unknownArgument text)

/-- The draft with flags changed. -/
def setFlags (d : Draft) (flags : Except UsageError Flags) : Except UsageError Draft :=
  flags.map fun flags => { d with flags }

/-- The command that the draft amounts to. -/
def command (name : CommandName) (d : Draft) : Except UsageError Command :=
  let grammar : Except UsageError String := match d.grammar with
    | some path => .ok path
    | none => .error (.missingOption "--grammar")
  match name with
  | .tokenize => grammar.map fun path => .tokenize path d.text
  | .count => grammar.map fun path => .count path d.text
  | .check => grammar.map .check
  | .convert => grammar.map fun path => .convert path (d.target.getD .json)
  | .version => .ok .version

end Draft

/-- The name and the value of a long option, which stand on both sides of the first equals sign. -/
def splitLong (body : List Char) : String × Option String :=
  match body.dropWhile (· ≠ '=') with
  | [] => (String.ofList body, none)
  | _ :: value => (String.ofList (body.takeWhile (· ≠ '=')), some (String.ofList value))

/-- Reads a long option behind a command, and tells whether its value is still to come. -/
def readLong (command : CommandName) (d : Draft) (body : List Char) :
    Except UsageError (Draft × Option ValueOption) :=
  let (name, value) := splitLong body
  match ValueOption.ofLong? command name, value with
  | some option, some value => (d.setValue value option).map (·, none)
  | some option, none => .ok (d, some option)
  | none, some _ =>
    .error (if name = "json" ∨ name = "verbose" then .unexpectedValue name else .unknownArgument name)
  | none, none =>
    if name = "json" then (d.setFlags d.flags.setJson).map (·, none)
    else if name = "verbose" then (d.setFlags d.flags.setVerbose).map (·, none)
    else .error (.unknownArgument name)

/-- Reads the letters of short options behind a command, and tells whether a value is still to come.
What stands behind the letter of an option that takes a value is its value. -/
def readShort (command : CommandName) (d : Draft) :
    List Char → Except UsageError (Draft × Option ValueOption)
  | [] => .ok (d, none)
  | c :: cs =>
    match ValueOption.ofShort? command c with
    | some option =>
      match cs with
      | [] => .ok (d, some option)
      | '=' :: value => (d.setValue (String.ofList value) option).map (·, none)
      | value => (d.setValue (String.ofList value) option).map (·, none)
    | none =>
      if c = 'v' then
        match d.setFlags d.flags.setVerbose with
        | .ok d => readShort command d cs
        | .error e => .error e
      else .error (.unknownArgument (String.ofList ['-', c]))

/-- Whether an argument is an option and not a value. -/
def isOption (argument : String) : Bool :=
  match argument.toList with
  | '-' :: _ :: _ => true
  | _ => false

/-- Reads one argument that is not the value of an option before it. -/
def readArgument (command : CommandName) (d : Draft) (argument : String) :
    Except UsageError (Draft × Option ValueOption) :=
  match argument.toList with
  | '-' :: '-' :: body => readLong command d body
  | '-' :: c :: cs => readShort command d (c :: cs)
  | _ => (d.setText command argument).map (·, none)

/-- Reads the arguments behind a command; `pending` is the option whose value comes next. -/
def readBehind (command : CommandName) (d : Draft) (pending : Option ValueOption) :
    List String → Except UsageError Draft
  | [] =>
    match pending with
    | some option => .error (.missingValue option.name)
    | none => .ok d
  | argument :: rest =>
    match pending with
    | some option =>
      if isOption argument then .error (.missingValue option.name)
      else
        match d.setValue argument option with
        | .ok d => readBehind command d none rest
        | .error e => .error e
    | none =>
      if argument = "--" then rest.foldlM (Draft.setText command) d
      else
        match readArgument command d argument with
        | .ok (d, pending) => readBehind command d pending rest
        | .error e => .error e

/-- Reads the letters of short options before the command; `none` is the request for the version. -/
def readLetters (flags : Flags) : List Char → Except UsageError (Option Flags)
  | [] => .ok (some flags)
  | c :: cs =>
    if c = 'V' then .ok none
    else if c = 'v' then
      match flags.setVerbose with
      | .ok flags => readLetters flags cs
      | .error e => .error e
    else .error (.unknownArgument (String.ofList ['-', c]))

/-- Reads an option before the command; `none` is the request for the version. -/
def readOption (flags : Flags) (argument : String) : Except UsageError (Option Flags) :=
  if argument = "--json" then flags.setJson.map some
  else if argument = "--verbose" then flags.setVerbose.map some
  else if argument = "--version" then .ok none
  else
    match argument.toList with
    | '-' :: '-' :: _ => .error (.unknownArgument argument)
    | cs => readLetters flags cs.tail

/-- Reads the arguments from the first one on. -/
def read (flags : Flags) : List String → Except UsageError Request
  | [] => .ok (.run ⟨flags.verbose, flags.json, none⟩)
  | argument :: rest =>
    if argument = "--" then
      match rest with
      | [] => .ok (.run ⟨flags.verbose, flags.json, none⟩)
      | text :: _ => .error (.unknownArgument text)
    else if isOption argument then
      match readOption flags argument with
      | .ok (some flags) => read flags rest
      | .ok none => .ok .programVersion
      | .error e => .error e
    else
      match CommandName.ofString? argument with
      | none => .error (.unknownCommand argument)
      | some name => do
        let d ← readBehind name {} none rest
        let command ← d.command name
        let all := flags.both d.flags
        return .run ⟨all.verbose, all.json, some command⟩

end Arguments

/-- What the arguments of the program ask for. -/
def Request.ofArguments (arguments : List String) : Except UsageError Request :=
  Arguments.read {} arguments

end GrammarKit
