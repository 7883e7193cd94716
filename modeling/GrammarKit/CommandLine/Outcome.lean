import GrammarKit.CommandLine.Arguments
import GrammarKit.CommandLine.LogFilter
import GrammarKit.GrammarFile
import GrammarKit.Report

/-!
# Outcomes of commands

What a command prints, what it leaves in the log, and how it ends. A command reads the description of a
grammar from a file and, where no text is given, the text from the standard input; what it finds there
is handed to it. Everything else is computed.
-/

namespace GrammarKit

/-- Why a command failed, with the cause beneath if the message does not tell it. -/
structure Failure where
  message : String
  cause : Option String := none
  deriving Repr, DecidableEq

/-- How a command ended. -/
inductive Ending where
  | success
  | failure (f : Failure)
  /-- A scan came to a place inside a character, and the command broke off. -/
  | brokenScan (e : ScanError)
  deriving Repr, DecidableEq

/-- The exit code of an ending. -/
def Ending.exitCode : Ending → Nat
  | .success => 0
  | .failure _ => 1
  | .brokenScan _ => 101

/-- What a command prints and logs, and how it ends. -/
structure Outcome where
  output : String := ""
  log : List LogRecord := []
  ending : Ending := .success

namespace Outcome

/-- The outcome of a failure. -/
def failed (log : List LogRecord) (f : Failure) : Outcome := { log, ending := .failure f }

end Outcome

/-- What a command finds outside: the bytes of files, and those of the standard input. -/
structure Surroundings where
  file : String → Except FileError ByteArray
  input : ByteArray

/-- The name of the program. -/
def programName : String := "minigram"

/-- The version of the program. -/
def programVersion : String := "0.1.0"

namespace Command

/-- Reads a description from a file and goes on with it. -/
def withDescription (s : Surroundings) (path : String)
    (next : List LogRecord → GrammarDescription → Outcome) : Outcome :=
  let file := GrammarFile.ofPath path
  let log := [file.loadRecord]
  match file.decode (s.file path) with
  | .error e => .failed log ⟨e.message, none⟩
  | .ok d => next log d

/-- Reads a grammar from a file and goes on with it. -/
def withGrammar (s : Surroundings) (path : String) (next : List LogRecord → Grammar → Outcome) :
    Outcome :=
  withDescription s path fun log d =>
    let log := log ++ d.loadLog
    match Grammar.ofDescription d with
    | .error e => .failed log ⟨"invalid grammar in " ++ path, some e.message⟩
    | .ok g => next log g

/-- The given text, or the text of the standard input. -/
def textOf (s : Surroundings) : Option String → Except Failure String
  | some text => .ok text
  | none =>
    match GrammarFile.textOf s.input with
    | .ok text => .ok text
    | .error _ => .error ⟨"failed to read stdin", some "stream did not contain valid UTF-8"⟩

/-- Splits a text into tokens by a grammar from a file, and reports on them. -/
def withTokens (s : Surroundings) (path : String) (text : Option String)
    (report : Grammar → List Token → String) : Outcome :=
  withGrammar s path fun log g =>
    match textOf s text with
    | .error f => .failed log f
    | .ok text =>
      match g.scan text with
      | .error e => { log, ending := .brokenScan e }
      | .ok steps =>
        { output := report g (steps.filterMap ScanStep.token?), log := log ++ Lexer.log steps }

/-- Checks the description in a file. -/
def checkFile (s : Surroundings) (mode : OutputMode) (path : String) : Outcome :=
  withDescription s path fun log d =>
    let report := CheckReport.ofDescription d
    { output := report.render mode, log
      ending := if report.valid then .success else .failure ⟨report.verdict, none⟩ }

/-- The text of a description in a format, from which the definitions with a repeated kind are left
out; an error if the description cannot be loaded. -/
def converted (target : DescriptionFormat) (d : GrammarDescription) :
    Except DefinitionError String :=
  (Grammar.ofDescription d).map fun g => target.write g.describe

/-- Converts the description in a file. -/
def convertFile (s : Surroundings) (path : String) (target : DescriptionFormat) : Outcome :=
  withDescription s path fun log d =>
    let log := log ++ d.loadLog
    match converted target d with
    | .error e => .failed log ⟨e.message, none⟩
    | .ok text => { output := linesText [text], log }

/-- What the command for the version prints. -/
def versionText : OutputMode → String
  | .human => linesText [programName ++ " v" ++ programVersion]
  | .json => linesText [(Json.object [("version", .string programVersion)]).compact]

/-- The outcome of a command, with every record of its log. -/
def outcome (s : Surroundings) (mode : OutputMode) : Command → Outcome
  | .tokenize path text =>
    withTokens s path text fun g tokens => TokenReport.render mode ⟨g.name, tokens⟩
  | .count path text =>
    withTokens s path text fun g tokens => (CountReport.ofTokens g.name tokens).render mode
  | .check path => checkFile s mode path
  | .convert path target => convertFile s path target
  | .version => { output := versionText mode }

end Command

/-- What the program prints when it is asked for nothing. -/
def hintText : OutputMode → String
  | .human =>
    linesText [programName ++ " v" ++ programVersion, "",
      "Run '" ++ programName ++ " --help' for usage",
      "Run '" ++ programName ++ " check --grammar <file>' to validate a grammar"]
  | .json =>
    linesText [(Json.object [("hint", .string "Use --help for usage"),
      ("version", .string programVersion)]).compact]

namespace Invocation

/-- The form of the reports. -/
def mode (i : Invocation) : OutputMode := if i.json then .json else .human

/-- The filter of the log: as it is asked for from outside, or else up to details if the flag is set. -/
def logFilter (i : Invocation) (asked : Option String) : LogFilter :=
  .ofString (asked.getD (if i.verbose then "debug" else "info"))

/-- The outcome of an invocation, with the records of the log that are shown. -/
def outcome (i : Invocation) (s : Surroundings) (asked : Option String) : Outcome :=
  match i.command with
  | none => { output := hintText i.mode }
  | some command =>
    let whole := command.outcome s i.mode
    { whole with log := whole.log.filter (i.logFilter asked).shows }

end Invocation

/-- The outcome of a request. -/
def Request.outcome (s : Surroundings) (asked : Option String) : Request → Outcome
  | .programVersion => { output := linesText [programName ++ " " ++ GrammarKit.programVersion] }
  | .run i => i.outcome s asked

end GrammarKit
