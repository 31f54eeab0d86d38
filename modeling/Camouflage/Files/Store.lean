/-
Camouflage/Files/Store.lean

File stores.  What a command does to files it does through this interface, so
the same command runs on a directory kept as a value and on the file system.
-/
import Camouflage.Files.Tree

namespace Camouflage

/-- The requests that a command makes of a file system. -/
class FileStore (m : Type → Type) where
  pathExists : String → m Bool
  isDirectory : String → m Bool
  readText : String → m (Except FileFault String)
  write : String → ByteArray → m (Except FileFault Unit)
  makeDirectory : String → m (Except FileFault Unit)

namespace FileStore

/-- Answers a request that may change a directory; a refused one leaves it as it was. -/
def update (change : Files → Except FileFault Files) : StateM Files (Except FileFault Unit) :=
  fun files =>
    match change files with
    | .ok files' => (.ok (), files')
    | .error fault => (.error fault, files)

instance : FileStore (StateM Files) where
  pathExists path := fun files => (files.pathExists path, files)
  isDirectory path := fun files => (files.isDirectory path, files)
  readText path := fun files => (files.readText path, files)
  write path content := update fun files => files.write path content
  makeDirectory path := update fun files => files.makeDirectory path

variable {m : Type → Type} [Monad m] [FileStore m]

/-- Takes a refusal back if the directory is there after all. -/
def orPresent (path : String) (fault : FileFault) : m (Except FileFault Unit) := do
  if ← isDirectory path then return .ok () else return .error fault

/-- Makes a directory and those around it that are missing.  There are no more of them than the
path has characters. -/
def makeDirectories (path : String) : Nat → m (Except FileFault Unit)
  | 0 => return .error .missing
  | fuel + 1 => do
    if path.isEmpty then return .ok ()
    match ← makeDirectory path with
    | .ok () => return .ok ()
    | .error .missing =>
      match Path.parent? path with
      | none => return .error .missing
      | some around =>
        match ← makeDirectories around fuel with
        | .error fault => return .error fault
        | .ok () =>
          match ← makeDirectory path with
          | .ok () => return .ok ()
          | .error fault => orPresent path fault
    | .error fault => orPresent path fault

/-- Makes a directory and those around it that are missing. -/
def ensureDirectory (path : String) : m (Except FileFault Unit) :=
  makeDirectories path (path.length + 1)

end FileStore

end Camouflage
