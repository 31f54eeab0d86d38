/-
Camouflage/Files/Path.lean

Paths as text.  A path is a list of parts between slashes; empty parts say
nothing, and a single point stays where it is.  `parent?` and `join` work on the
text, because messages show a path as it was given.
-/
import Camouflage.Text.Blank

namespace Camouflage.Path

/-- The pieces of a text between slashes. -/
def split : Word → List Word
  | [] => [[]]
  | c :: rest =>
    if c = '/' then [] :: split rest
    else
      match split rest with
      | [] => [[c]]
      | piece :: others => (c :: piece) :: others

/-- The parts of a path. -/
def parts (path : String) : List String :=
  ((split path.toList).filter fun p => !p.isEmpty).map String.ofList

/-- The most bytes of a part. -/
def longestPart : Nat := 255

/-- The most bytes of a path. -/
def longest : Nat := 4095

/-- Whether a path ends in a slash, and so can only name a directory. -/
def endsInSlash (path : String) : Bool := path.toList.getLast? = some '/'

/-- Drops slashes and parts that say nothing from the end of a path, given backwards. -/
def dropEnd : Word → Word
  | '/' :: rest => dropEnd rest
  | '.' :: '/' :: rest => dropEnd rest
  | w => w

/-- The path of the directory that holds an entry, if the path has a last part to drop. -/
def parent? (path : String) : Option String :=
  match dropEnd path.toList.reverse with
  | [] => none
  | w =>
    let rest := w.dropWhile fun c => c ≠ '/'
    let directory := (dropEnd rest).reverse
    if directory.isEmpty && !rest.isEmpty then some "/" else some (String.ofList directory)

/-- The path of an entry in a directory. -/
def join (directory name : String) : String :=
  if directory.isEmpty then name
  else if endsInSlash directory then directory ++ name
  else directory ++ "/" ++ name

end Camouflage.Path
