import GrammarKit.Error
import GrammarKit.Text.ByteLength

/-!
# Directories

A working directory holds files and further directories. A path is followed part by part from the
working directory on, and each part but the last must lead into a directory. The working directory
is its own parent.
-/

namespace GrammarKit

/-- What a place can hold. -/
inductive FileNode where
  | file (content : ByteArray)
  | directory

/-- The files and directories below a working directory. A place is given by the names on the way to
it, the last first. -/
structure Directory where
  nodes : List (List String × FileNode) := []

namespace Directory

/-- The most bytes of a name. -/
def nameLimit : Nat := 255

/-- The least number of bytes of a path that is too long. -/
def pathLimit : Nat := 4096

/-- What a place holds. -/
def node? (d : Directory) (place : List String) : Option FileNode :=
  if place = [] then some .directory else (d.nodes.find? (·.1 == place)).map (·.2)

/-- The directory with something put at a place. -/
def put (d : Directory) (place : List String) (node : FileNode) : Directory :=
  ⟨(place, node) :: d.nodes.filter (·.1 != place)⟩

/-- The parts of a path between its slashes. -/
def parts (path : String) : List String :=
  (path.toList.splitOn '/').map String.ofList

/-- Follows the parts of a path from a place on. The last part may lead to a place that holds
nothing. -/
def follow (d : Directory) (place : List String) : List String → Except FileError (List String)
  | [] => .ok place
  | part :: rest =>
    match d.node? place with
    | none => .error .notFound
    | some (.file _) => .error .notADirectory
    | some .directory =>
      if part = "" ∨ part = "." then follow d place rest
      else if part = ".." then follow d place.tail rest
      else if nameLimit < Text.byteLength part.toList then .error .nameTooLong
      else follow d (part :: place) rest

/-- Why a path cannot lead anywhere at all. -/
def pathError? (path : String) : Option FileError :=
  if path.toList.any (·.toNat == 0) then some .invalidInput
  else if path = "" then some .notFound
  else if pathLimit ≤ Text.byteLength path.toList then some .nameTooLong
  else none

/-- The bytes of the file at a path. -/
def read (d : Directory) (path : String) : Except FileError ByteArray :=
  match pathError? path with
  | some e => .error e
  | none =>
    match d.follow [] (parts path) with
    | .error e => .error e
    | .ok place =>
      match d.node? place with
      | none => .error .notFound
      | some .directory => .error .isADirectory
      | some (.file content) => .ok content

/-- The directory with a file written at a path, in place of the file that is there if there is one.
No file is written behind a slash. -/
def write (d : Directory) (path : String) (content : ByteArray) : Except FileError Directory :=
  match pathError? path with
  | some e => .error e
  | none =>
    let parts := parts path
    match d.follow [] (if parts.getLast? = some "" then parts.dropLast else parts) with
    | .error e => .error e
    | .ok place =>
      if parts.getLast? = some "" then .error .isADirectory
      else
        match d.node? place with
        | some .directory => .error .isADirectory
        | _ => .ok (d.put place (.file content))

/-- The directory with the directories made that are missing on the way of some parts. -/
def makeWay (d : Directory) (place : List String) : List String → Directory
  | [] => d
  | part :: rest =>
    if part = "" ∨ part = "." then makeWay d place rest
    else if part = ".." then makeWay d place.tail rest
    else
      match d.node? (part :: place) with
      | none => makeWay (d.put (part :: place) .directory) (part :: place) rest
      | some _ => makeWay d (part :: place) rest

/-- The directory with the directories made that are missing on the way of a path. -/
def makeDirectory (d : Directory) (path : String) : Directory :=
  d.makeWay [] (parts path)

theorem node?_put_self (d : Directory) (node : FileNode) {place : List String} (h : place ≠ []) :
    (d.put place node).node? place = some node := by
  simp [node?, put, h]

/-- What is put at a place changes no other place. -/
theorem node?_put_of_ne (d : Directory) (node : FileNode) {place other : List String}
    (h : other ≠ place) : (d.put place node).node? other = d.node? other := by
  have hfind : List.find? (fun x => x.1 == other) (d.nodes.filter (·.1 != place)) =
      d.nodes.find? (·.1 == other) := by
    induction d.nodes with
    | nil => rfl
    | cons x xs ih =>
      by_cases hx : x.1 = place
      · have hne : place ≠ other := Ne.symm h
        simp [hx, ih, hne]
      · by_cases ho : x.1 = other
        · simp [ho, ho ▸ hx]
        · simp [hx, ho, ih]
  simp [node?, put, Ne.symm h, hfind]

end Directory

end GrammarKit
