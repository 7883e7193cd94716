import GrammarKit.Unicode.CharSet

/-!
# Flags

Seven flags change how a pattern is read. A change of flags is written as letters, those behind a
hyphen being switched off, and names no flag twice.
-/

namespace GrammarKit.Pattern

/-- Why a text is not accepted as a pattern: it is badly written, or it stands for a machine beyond
the size limit. -/
inductive PatternError where
  | malformed
  | tooBig
  deriving Repr, DecidableEq

/-- The flags of a pattern, by their letters. -/
inductive Flag where
  /-- `i`: letters match in either case. -/
  | ignoreCase
  /-- `m`: lines begin and end inside the text. -/
  | multiLine
  /-- `s`: the dot takes line ends too. -/
  | dotAll
  /-- `U`: repetitions are lazy unless marked greedy. -/
  | swapGreed
  /-- `u`: classes and folding reach beyond ASCII. -/
  | unicode
  /-- `R`: a carriage return ends a line as well. -/
  | crlf
  /-- `x`: white space and comments in the pattern mean nothing. -/
  | verbose
  deriving Repr, DecidableEq

/-- The flag that a letter stands for. -/
def Flag.ofLetter? : Char → Option Flag
  | 'i' => some .ignoreCase
  | 'm' => some .multiLine
  | 's' => some .dotAll
  | 'U' => some .swapGreed
  | 'u' => some .unicode
  | 'R' => some .crlf
  | 'x' => some .verbose
  | _ => none

/-- The flags in force at a place of a pattern. -/
structure Flags where
  ignoreCase : Bool := false
  multiLine : Bool := false
  dotAll : Bool := false
  swapGreed : Bool := false
  unicode : Bool := true
  crlf : Bool := false
  verbose : Bool := false
  deriving Repr, DecidableEq

/-- The flags with one of them switched. -/
def Flags.set (f : Flags) (flag : Flag) (on : Bool) : Flags :=
  match flag with
  | .ignoreCase => { f with ignoreCase := on }
  | .multiLine => { f with multiLine := on }
  | .dotAll => { f with dotAll := on }
  | .swapGreed => { f with swapGreed := on }
  | .unicode => { f with unicode := on }
  | .crlf => { f with crlf := on }
  | .verbose => { f with verbose := on }

/-- One sign of a change of flags: the hyphen or a flag. -/
inductive FlagSign where
  | off
  | flag (f : Flag)
  deriving Repr, DecidableEq

/-- The signs that the letters of a change stand for. -/
def FlagSign.ofLetter? (c : Char) : Option FlagSign :=
  if c = '-' then some .off else (Flag.ofLetter? c).map .flag

/-- The signs of a change: no sign twice, and a flag behind the hyphen. -/
def flagSigns (letters : List Char) : Except PatternError (List FlagSign) :=
  match letters.mapM FlagSign.ofLetter? with
  | none => .error .malformed
  | some signs =>
    if signs.eraseDups.length = signs.length ∧ signs.getLast? ≠ some .off then .ok signs
    else .error .malformed

/-- The flags after a change. -/
def Flags.change (f : Flags) (signs : List FlagSign) : Flags :=
  go true f signs
where
  /-- Switches flag after flag, on until the hyphen comes. -/
  go (on : Bool) (f : Flags) : List FlagSign → Flags
    | [] => f
    | .off :: rest => go false f rest
    | .flag x :: rest => go on (f.set x on) rest

end GrammarKit.Pattern
