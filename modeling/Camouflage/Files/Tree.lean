/-
Camouflage/Files/Tree.lean

The content of a directory, and what can be done to it.  Every file and
directory below the root is an entry under the list of its parts.  A path is
followed from the root; each part but the last must be a directory that is
there (`locate`), so a refusal says whether something is missing or a file is in
the way.  Points are parts like others: behind what is no directory they lead
nowhere.

Writing a file and making a directory change one entry and no other.
-/
import Camouflage.Fault
import Camouflage.Files.Path
import Camouflage.Table

namespace Camouflage

/-- What stands under a path. -/
inductive Entry
  | directory
  | file (content : ByteArray)

/-- The entries of a directory and of all directories in it. -/
abbrev Files := Table (List String) Entry

namespace Files

/-- The entry at a place; the root is a directory. -/
def entry? (files : Files) (place : List String) : Option Entry :=
  if place.isEmpty then some .directory else files.get? place

/-- Looks a place up, whose name must not be too long. -/
def look (files : Files) (place : List String) : Except FileFault (Option Entry) :=
  if place.getLast?.any fun name => Path.longestPart < name.utf8ByteSize then .error .nameTooLong
  else .ok (files.entry? place)

/-- The place that a part leads to from a directory. -/
def follow (place : List String) (part : String) : List String :=
  if part = "." then place else if part = ".." then place.dropLast else place ++ [part]

/-- Follows parts from a place; all but the last must lead through directories. -/
def locate (files : Files) (place : List String) : List String → Except FileFault (List String)
  | [] => .ok place
  | part :: rest =>
    match files.look place with
    | .ok (some .directory) => locate files (follow place part) rest
    | .ok (some (.file _)) => .error .notDirectory
    | .ok none => .error .missing
    | .error fault => .error fault

/-- The place a path names, whether or not there is anything. -/
def placeOf (files : Files) (path : String) : Except FileFault (List String) :=
  if path.isEmpty then .error .missing
  else if path.toList.contains '\x00' then .error .nameWithNul
  else if Path.longest < path.utf8ByteSize then .error .nameTooLong
  else files.locate [] (Path.parts path)

/-- The entry a path names; a path that ends in a slash names a directory only. -/
def find (files : Files) (path : String) : Except FileFault Entry := do
  match ← files.look (← files.placeOf path) with
  | some .directory => return .directory
  | some (.file content) =>
    if Path.endsInSlash path then .error .notDirectory else return .file content
  | none => .error .missing

/-- Whether a path names anything. -/
def pathExists (files : Files) (path : String) : Bool := (files.find path).isOk

/-- Whether a path names a directory. -/
def isDirectory (files : Files) (path : String) : Bool :=
  match files.find path with
  | .ok .directory => true
  | _ => false

/-- The text of a file. -/
def readText (files : Files) (path : String) : Except FileFault String := do
  match ← files.find path with
  | .directory => .error .isDirectory
  | .file content =>
    match String.fromUTF8? content with
    | some text => return text
    | none => .error .notText

/-- Writes a file, over an earlier one.  A path that ends in a slash names no file, whatever is
there. -/
def write (files : Files) (path : String) (content : ByteArray) : Except FileFault Files := do
  let place ← files.placeOf path
  if Path.endsInSlash path then .error .isDirectory
  match ← files.look place with
  | some .directory => .error .isDirectory
  | _ => return files.insert place (.file content)

/-- Makes a directory in one that is there. -/
def makeDirectory (files : Files) (path : String) : Except FileFault Files := do
  let place ← files.placeOf path
  match ← files.look place with
  | some _ => .error .alreadyExists
  | none => return files.insert place .directory

end Files

end Camouflage
