import GrammarKit.CommandLine.Outcome

/-!
# The program

Reads the arguments, the named file and the standard input, and prints what comes of them. Reports go to
the standard output; the log and the errors go to the standard error.
-/

namespace GrammarKit

/-- The cause of a failure to read a file. -/
def FileError.ofIOError : IO.Error → FileError
  | .noFileOrDirectory .. => .notFound
  | .inappropriateType .. => .isADirectory
  | .invalidArgument .. => .invalidInput
  | _ => .notFound

/-- The file that a command reads. -/
def Command.file? : Command → Option String
  | .tokenize path _ | .count path _ | .check path | .convert path _ => some path
  | .version => none

/-- Whether a command reads the standard input. -/
def Command.readsInput : Command → Bool
  | .tokenize _ none | .count _ none => true
  | _ => false

/-- What a command finds outside. -/
def Surroundings.gather (command : Option Command) : IO Surroundings := do
  let content ← match command.bind Command.file? with
    | none => pure (.error .notFound)
    | some path =>
      try
        pure (Except.ok (← IO.FS.readBinFile path))
      catch e => pure (.error (FileError.ofIOError e))
  let input ←
    if command.any Command.readsInput then (← IO.getStdin).readBinToEnd else pure .empty
  return ⟨fun _ => content, input⟩

/-- Prints an outcome, and gives its exit code. -/
def Outcome.print (o : Outcome) : IO UInt32 := do
  for r in o.log do
    IO.eprintln ("[" ++ r.level.name ++ " " ++ r.target ++ "] " ++ r.message)
  IO.print o.output
  match o.ending with
  | .success => pure ()
  | .failure f =>
    IO.eprintln ("Error: " ++ f.message)
    if let some cause := f.cause then
      IO.eprintln ("\nCaused by:\n    " ++ cause)
  | .brokenScan (.insideCharacter offset) =>
    IO.eprintln ("byte " ++ toString offset ++ " is inside a character")
  return o.ending.exitCode.toUInt32

end GrammarKit

/-- The entry of the program. -/
def main (arguments : List String) : IO UInt32 := do
  match GrammarKit.Request.ofArguments arguments with
  | .error e =>
    IO.eprintln ("error: " ++ e.message)
    return 2
  | .ok request =>
    let command := match request with
      | .run i => i.command
      | .programVersion => none
    let surroundings ← GrammarKit.Surroundings.gather command
    (request.outcome surroundings (← IO.getEnv "RUST_LOG")).print
