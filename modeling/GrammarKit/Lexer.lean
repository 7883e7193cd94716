import GrammarKit.Log
import GrammarKit.Matcher
import GrammarKit.Token

/-!
# Lexing

A lexer splits a text into tokens. At each place the matchers are asked in order, and the first that
finds some text makes a token of it, even if a later one would find more. Where none does, one
character is skipped. A scan records every step, so that the skipped characters are known as well as
the tokens.

A place is a byte offset. A matcher that answers with a text that does not come first may lead the
scan into the middle of a character; the scan fails there.
-/

namespace GrammarKit

/-- A step of a scan: a token, or a skipped character with its place. -/
inductive ScanStep where
  | token (t : Token)
  | skip (offset : Nat) (c : Char)
  deriving Repr, DecidableEq

/-- A scan came to a place inside a character. -/
inductive ScanError where
  | insideCharacter (offset : Nat)
  deriving Repr, DecidableEq

namespace ScanStep

/-- The token of a step, if it made one. -/
def token? : ScanStep → Option Token
  | .token t => some t
  | .skip _ _ => none

/-- What a step leaves in the log. -/
def record? : ScanStep → Option LogRecord
  | .token _ => none
  | .skip offset c => some (.lexer .trace ("no token matches at byte " ++ toString offset ++
      ", skipping " ++ Text.quote (String.singleton c)))

/-- The step moved on by `n` bytes. -/
def shift (n : Nat) : ScanStep → ScanStep
  | .token t => .token (t.shift n)
  | .skip offset c => .skip (offset + n) c

end ScanStep

namespace Lexer

/-- The kind and the find of the first matcher that finds some text at the head of a text. -/
def firstMatch (matchers : List Matcher) (text : List Char) : Option (String × PrefixMatch) :=
  matchers.findSome? fun m =>
    ((m.find text).filter fun found => !found.isEmpty).map fun found => (m.kind, found)

theorem isEmpty_of_firstMatch {matchers : List Matcher} {text : List Char} {kind : String}
    {found : PrefixMatch} (h : firstMatch matchers text = some (kind, found)) :
    found.isEmpty = false := by
  obtain ⟨m, -, hm⟩ := List.exists_of_findSome?_eq_some h
  simp only [Option.map_eq_some_iff, Option.filter_eq_some_iff, Prod.mk.injEq] at hm
  obtain ⟨found', ⟨-, hne⟩, -, rfl⟩ := hm
  simpa using hne

/-- The token that a find makes at a place. -/
def tokenAt (offset : Nat) (kind : String) (found : PrefixMatch) : Token :=
  ⟨kind, found.text, found.captures, ⟨offset, offset + found.length⟩⟩

/-- The steps of a scan of the text that remains from a byte offset on. -/
def scanFrom (matchers : List Matcher) (offset : Nat) :
    (text : List Char) → Except ScanError (List ScanStep)
  | [] => .ok []
  | c :: cs =>
    match hfirst : firstMatch matchers (c :: cs) with
    | some (kind, found) =>
      match hdrop : Text.dropBytes found.length (c :: cs) with
      | some rest =>
        have : rest.length < cs.length + 1 :=
          Text.length_lt_of_dropBytes (PrefixMatch.length_pos (isEmpty_of_firstMatch hfirst))
            (List.cons_ne_nil c cs) hdrop
        (scanFrom matchers (offset + found.length) rest).map
          (.token (tokenAt offset kind found) :: ·)
      | none => .error (.insideCharacter (offset + found.length))
    | none => (scanFrom matchers (offset + c.utf8Size) cs).map (.skip offset c :: ·)
  termination_by text => text.length

/-- The steps of a scan of a whole text. -/
def scan (matchers : List Matcher) (text : String) : Except ScanError (List ScanStep) :=
  scanFrom matchers 0 text.toList

/-- The tokens of a text. -/
def tokenize (matchers : List Matcher) (text : String) : Except ScanError (List Token) :=
  (scan matchers text).map (·.filterMap ScanStep.token?)

/-- The log of a scan. -/
def log (steps : List ScanStep) : List LogRecord :=
  steps.filterMap ScanStep.record?

theorem scanFrom_nil (matchers : List Matcher) (offset : Nat) :
    scanFrom matchers offset [] = .ok [] := by
  rw [scanFrom]

end Lexer

end GrammarKit
