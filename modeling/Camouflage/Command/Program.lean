/-
Camouflage/Command/Program.lean

The program.  It loads its settings, makes the log directory, reads its
arguments, and carries out a subcommand on a file store; the answer is an exit
code and what is printed.

A subcommand loads the config file if it is there, replaces values by those of
the command line and validates the result.  `generate` saves the picture first
and the events after it; both wait until the pattern is complete.
-/
import Camouflage.Command.Arguments
import Camouflage.Command.EnvFile
import Camouflage.Config.Document
import Camouflage.Export.Saving

namespace Camouflage

/-- What the environment settles. -/
structure Settings where
  logDirectory : String
  outputDirectory : String

/-- The settings of an environment. -/
def Settings.ofEnvironment (env : Environment) : Settings where
  logDirectory := (env.get? "CAMO_LOG_DIR").getD "logs"
  outputDirectory := (env.get? "CAMO_OUTPUT_DIR").getD "output"

/-- The answer of the program. -/
structure Reply where
  code : Nat
  /-- what is printed -/
  output : String := ""
  /-- what is printed about a failure -/
  complaint : String := ""

/-- How a subcommand fails. -/
inductive Failure
  /-- by a fault of the pattern, its configuration or its export -/
  | fault (cause : Fault)
  /-- by a refusal of the file system -/
  | files (cause : FileFault)
  /-- because a config file is there already -/
  | configExists (path : String)
  /-- because the config file cannot be written -/
  | writingConfig (path : String) (cause : FileFault)

/-- The wording of a failure, with its cause in lines of its own. -/
def Failure.message : Failure → String
  | fault cause => cause.message
  | files cause => cause.message
  | configExists path => path ++ " already exists (use --force)"
  | writingConfig path cause => "writing " ++ path ++ "\n\nCaused by:\n    " ++ cause.message

namespace Program

/-! ### Printed text -/

/-- The part that a selection gives to a color. -/
def role (selection : ColorSelection) (c : Color) : String :=
  if c = selection.background then "background"
  else if c ∈ selection.foreground then "foreground"
  else ""

/-- The line of a color. -/
def colorLine (selection : ColorSelection) (c : Color) : String :=
  "  " ++ c.text ++ " " ++ role selection c

/-- The lines about the palette and the colors that the seed picks. -/
def paletteLines (c : Config Float) : Outcome (List String) := do
  let (selection, _) ← selectColors c.palette c.colorCount.toNat (Keystream.ofSeed c.seed)
  let heading :=
    "Palette (" ++ toString c.palette.size ++ " colors), seed " ++ toString c.seed.toNat ++ ":"
  return heading :: c.palette.colors.map (colorLine selection)

/-- Lines as text. -/
def unlines (lines : List String) : String :=
  lines.foldl (fun out line => out ++ line ++ "\n") ""

/-- The line about a saved pattern. -/
def summary (c : Config Float) (pattern : Pattern Float) (path : String) : String :=
  let stats := pattern.stats
  "Seed " ++ toString c.seed.toNat ++ ": " ++ toString stats.trees ++ " trees, " ++
    toString stats.segments ++ " segments, " ++ toString stats.wraps ++ " wraps, background " ++
    pattern.background.text ++ " -> " ++ path

/-! ### Subcommands -/

section Commands

variable {m : Type → Type} [Monad m] [FileStore m]

/-- A step of a subcommand. -/
abbrev Step (m : Type → Type) := ExceptT Failure m

/-- A result without effects, as a step. -/
def ofOutcome {α : Type} (outcome : Outcome α) : Step m α :=
  match outcome with
  | .ok a => pure a
  | .error cause => throw (.fault cause)

/-- An export, as a step. -/
def exporting (action : m (Outcome Unit)) : Step m Unit := do
  ofOutcome (← (liftM action : Step m (Outcome Unit)))

/-- The configuration of the file, if there is one, and of the command line. -/
def loadConfig (path : String) (overrides : Overrides) : Step m (Config Float) := do
  let base ←
    if ← (FileStore.pathExists path : m Bool) then
      match ← (FileStore.readText path : m (Except FileFault String)) with
      | .ok text => ofOutcome (Config.ofYaml text.toList)
      | .error cause => throw (.fault (.config (.unreadable path cause)))
    else pure Config.standard
  let config := overrides.apply base
  ofOutcome config.validate
  return config

/-- Makes a pattern, saves it and tells about it. -/
def generate (settings : Settings) (generated config : String) (output events : Option String)
    (overrides : Overrides) : Step m String := do
  let c ← loadConfig config overrides
  let path := output.getD
    (Path.join settings.outputDirectory ("camo_" ++ toString c.seed.toNat ++ ".png"))
  let pattern ← ofOutcome c.generate
  exporting (pattern.savePicture c.canvas.width.toNat c.canvas.height.toNat path)
  match events with
  | some path => exporting (pattern.saveEvents generated path)
  | none => pure ()
  return unlines [summary c pattern path]

/-- Prints the expanded word or its length. -/
def expand (config : String) (lengthOnly : Bool) (overrides : Overrides) : Step m String := do
  let c ← loadConfig config overrides
  let symbols ← ofOutcome c.prepareSymbols
  return unlines [if lengthOnly then toString symbols.length else String.ofList symbols]

/-- Prints the palette. -/
def palette (config : String) (overrides : Overrides) : Step m String := do
  let c ← loadConfig config overrides
  return unlines (← ofOutcome (paletteLines c))

/-- Writes a config file with the standard values; one that is there stays unless forced. -/
def init (config : String) (force : Bool) : Step m String := do
  if (← (FileStore.pathExists config : m Bool)) && !force then throw (.configExists config)
  let text := String.ofList (Config.toYaml Config.standard)
  match ← (FileStore.write config text.toUTF8 : m (Except FileFault Unit)) with
  | .ok () => return unlines ["Wrote " ++ config]
  | .error cause => throw (.writingConfig config cause)

/-- Carries out a command line. -/
def execute (settings : Settings) (generated : String) (line : CommandLine) : Step m String :=
  match line.subcommand with
  | .generate output events overrides =>
    generate settings generated line.config output events overrides
  | .expand lengthOnly overrides => expand line.config lengthOnly overrides
  | .palette overrides => palette line.config overrides
  | .init force => init line.config force

/-! ### The whole program -/

/-- What is printed when help is asked for. -/
def usage : String :=
  unlines ["L-system camouflage pattern generator", "",
    "Usage: camo_walker [OPTIONS] <COMMAND>", "",
    "Commands:",
    "  generate  Generate a pattern and save it as PNG",
    "  expand    Print the expanded L-system string",
    "  palette   Show the palette and the colors a seed picks",
    "  init      Write a default config file", "",
    "Options:",
    "  -c, --config <CONFIG>  Path to camo.yaml config [default: camo.yaml]",
    "  -h, --help             Print help"]

/-- The environment with the variables of the file `.env`, if it can be read. -/
def loadEnvironment (env : Environment) : m Environment := do
  match ← (FileStore.readText ".env" : m (Except FileFault String)) with
  | .ok text => return EnvFile.load env text
  | .error _ => return env

/-- Makes the log directory unless something of that name is there. -/
def prepareLogs (directory : String) : Step m Unit := do
  if ← (FileStore.pathExists directory : m Bool) then return
  match ← (FileStore.ensureDirectory directory : m (Except FileFault Unit)) with
  | .ok () => return
  | .error cause => throw (.files cause)

/-- The answer to a step that printed something or failed. -/
def reply (result : Except Failure String) : Reply :=
  match result with
  | .ok output => { code := 0, output := output }
  | .error failure => { code := 1, complaint := "Error: " ++ failure.message ++ "\n" }

/-- Runs the program.  The log directory is made before the arguments are read. -/
def run (env : Environment) (generated : String) (args : List String) : m Reply := do
  let settings := Settings.ofEnvironment (← loadEnvironment env)
  match ← (prepareLogs settings.logDirectory).run with
  | .error failure => return reply (.error failure)
  | .ok () =>
    match Arguments.read args with
    | .error .help => return { code := 0, output := usage }
    | .error (.usage reason) => return { code := 2, complaint := "error: " ++ reason ++ "\n" }
    | .ok line => return reply (← (execute settings generated line).run)

end Commands

end Program

end Camouflage
