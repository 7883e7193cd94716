import GrammarKit.Description.Format
import GrammarKit.Directory
import GrammarKit.Log

/-!
# Files of descriptions

A grammar file is a path and the format in which a description is kept there.
-/

namespace GrammarKit

/-- A file that keeps a description. -/
structure GrammarFile where
  path : String
  format : DescriptionFormat
  deriving Repr, DecidableEq

namespace GrammarFile

/-- The file at a path, in the format that the path tells. -/
def ofPath (path : String) : GrammarFile := ⟨path, .ofPath path⟩

/-- The file with a format that need not be the one its path tells. -/
def withFormat (f : GrammarFile) (format : DescriptionFormat) : GrammarFile := { f with format }

/-- The text that bytes denote, all of which must be UTF-8. -/
def textOf (content : ByteArray) : Except FileError String :=
  match String.fromUTF8? content with
  | some text => .ok text
  | none => .error .invalidData

/-- The description that the bytes of the file denote, or why there are none. -/
def decode (f : GrammarFile) (content : Except FileError ByteArray) :
    Except DescriptionError GrammarDescription :=
  match content.bind textOf with
  | .error e => .error (.file f.path e)
  | .ok text => f.format.parse text

/-- The description that is kept in the file. -/
def load (f : GrammarFile) (d : Directory) : Except DescriptionError GrammarDescription :=
  f.decode (d.read f.path)

/-- The directory after a description has been written to the file. -/
def save (f : GrammarFile) (x : GrammarDescription) (d : Directory) :
    Except DescriptionError Directory :=
  (d.write f.path (f.format.write x).toUTF8).mapError (.file f.path)

/-- What loading leaves in the log. -/
def loadRecord (f : GrammarFile) : LogRecord :=
  .store .debug ("loading " ++ f.format.name ++ " grammar from " ++ f.path)

end GrammarFile

end GrammarKit
