/-
Camouflage/Main.lean

The program on the file system.  This is the only place where something is
done rather than said: requests to a file store become requests to the system,
and the reply is printed.
-/
import Camouflage.Command.Program
import Std.Time

namespace Camouflage

/-- The refusal that an error of the system stands for. -/
def FileFault.ofError : IO.Error → FileFault
  | .noFileOrDirectory _ _ _ => .missing
  | .alreadyExists _ _ _ => .alreadyExists
  | .inappropriateType _ 20 _ => .notDirectory
  | .inappropriateType _ 21 _ => .isDirectory
  | .invalidArgument _ 36 _ => .nameTooLong
  | e => .other (toString e)

/-- The answer to a request that may be refused. -/
def answered {α : Type} (action : IO α) : IO (Except FileFault α) := do
  match ← action.toBaseIO with
  | .ok a => return .ok a
  | .error e => return .error (FileFault.ofError e)

instance : FileStore IO where
  pathExists path := do
    let place := (← IO.currentDir) / path
    place.pathExists
  isDirectory path := do
    let place := (← IO.currentDir) / path
    place.isDir
  readText path := do
    let place := (← IO.currentDir) / path
    if ← place.isDir then return .error .isDirectory
    match ← answered (IO.FS.readBinFile place) with
    | .error cause => return .error cause
    | .ok content =>
      match String.fromUTF8? content with
      | some text => return .ok text
      | none => return .error .notText
  write path content := do
    let place := (← IO.currentDir) / path
    answered (IO.FS.writeBinFile place content)
  makeDirectory path := do
    let place := (← IO.currentDir) / path
    answered (IO.FS.createDir place)

/-- The variables that settings are taken from. -/
def settingNames : List String := ["CAMO_LOG_DIR", "CAMO_OUTPUT_DIR"]

/-- The environment of the process, as far as settings are concerned. -/
def processEnvironment : IO Environment :=
  settingNames.foldlM (fun env name => do
    match ← IO.getEnv name with
    | some value => return env.insert name value
    | none => return env) .empty

/-- The local time now. -/
def currentTime : IO String := do
  return (← Std.Time.DateTime.now).format "uuuu-MM-dd'T'HH:mm:ss.SSSSSSSSSxxx"

end Camouflage

/-- Runs the program on its arguments. -/
def main (args : List String) : IO UInt32 := do
  let env ← Camouflage.processEnvironment
  let reply ← Camouflage.Program.run env (← Camouflage.currentTime) args
  IO.print reply.output
  IO.eprint reply.complaint
  return UInt32.ofNat reply.code
