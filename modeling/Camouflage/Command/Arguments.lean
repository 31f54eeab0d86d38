/-
Camouflage/Command/Arguments.lean

The command line.  Options have a long name, some also a letter; an option
either takes a value or is a flag, and none may be given twice.  A value stands
behind an equals sign or in the next argument; an argument that looks like an
option is a value only of options that say so.

Arguments are taken in order, and the first that cannot be taken decides the
answer.  A value is checked when its option is taken.
-/
import Camouflage.Decimal.Reading
import Camouflage.Pattern.Config

namespace Camouflage

/-- Values of the command line that replace those of the config file. -/
structure Overrides where
  seed : Option UInt64 := none
  colorCount : Option UInt64 := none
  treeCount : Option UInt64 := none
  depth : Option UInt32 := none
  start : Option Word := none
  rules : Option Word := none
  angle : Option Float := none
  length : Option Float := none
  deviation : Option Float := none
  width : Option UInt32 := none
  height : Option UInt32 := none
  moduloWrap : Bool := false

/-- The configuration with the values of the command line. -/
def Overrides.apply (o : Overrides) (c : Config Float) : Config Float :=
  { c with
    seed := o.seed.getD c.seed
    colorCount := o.colorCount.getD c.colorCount
    treeCount := o.treeCount.getD c.treeCount
    depth := o.depth.getD c.depth
    start := o.start.getD c.start
    rules := match o.rules with
      | some text => .text text
      | none => c.rules
    angle := o.angle.getD c.angle
    length := o.length.getD c.length
    deviation := o.deviation.getD c.deviation
    canvas := ⟨o.width.getD c.canvas.width, o.height.getD c.canvas.height⟩
    wrap := if o.moduloWrap then .modulo else c.wrap }

/-- What the program can be told to do. -/
inductive Subcommand
  /-- make a pattern and save it -/
  | generate (output events : Option String) (overrides : Overrides)
  /-- print the expanded word, or only its length -/
  | expand (lengthOnly : Bool) (overrides : Overrides)
  /-- print the palette and the colors a seed picks -/
  | palette (overrides : Overrides)
  /-- write a config file with the standard values -/
  | init (force : Bool)

/-- A command line. -/
structure CommandLine where
  config : String
  subcommand : Subcommand

/-- Why nothing is done. -/
inductive Refusal
  /-- help was asked for -/
  | help
  /-- the arguments make no command -/
  | usage (reason : String)

namespace Arguments

/-! ### Options -/

/-- How an option is given. -/
inductive OptionKind
  | flag
  /-- with a value that passes a check -/
  | value (accepts : Word → Bool)
  /-- the same, and the value may look like an option -/
  | anyValue (accepts : Word → Bool)

/-- An option. -/
structure OptionSpec where
  name : String
  letter : Option Char := none
  kind : OptionKind

/-- Whole numbers of 64 bits. -/
def wide? (w : Word) : Option UInt64 := (Decimal.whole? UInt64.size w).map UInt64.ofNat

/-- Whole numbers of 32 bits.  They may have a minus sign, so zero has two spellings. -/
def narrow? (w : Word) : Option UInt32 :=
  match w with
  | '-' :: digits => ((Decimal.digits? 10 digits).filter (· = 0)).map UInt32.ofNat
  | _ => (Decimal.whole? UInt32.size w).map UInt32.ofNat

/-- A value that is a whole number of 64 bits. -/
def wideValue : OptionKind := .value fun w => (wide? w).isSome

/-- A value that is a whole number of 32 bits. -/
def narrowValue : OptionKind := .value fun w => (narrow? w).isSome

/-- Whether a text is a number. -/
def isNumber (w : Word) : Bool := (Decimal.float? w).isSome

/-- A text that is not empty. -/
def pathValue : OptionKind := .value fun w => !w.isEmpty

/-- Any text. -/
def textValue : OptionKind := .value fun _ => true

/-- The options in front of the subcommand. -/
def globalOptions : List OptionSpec := [⟨"config", some 'c', pathValue⟩]

/-- The options that replace values of the config file. -/
def overrideOptions : List OptionSpec :=
  [⟨"seed", none, wideValue⟩, ⟨"colors", none, wideValue⟩,
   ⟨"loops", none, wideValue⟩, ⟨"depth", none, narrowValue⟩,
   ⟨"axiom", none, textValue⟩, ⟨"rules", none, textValue⟩,
   ⟨"angle", none, .anyValue isNumber⟩, ⟨"length", none, .anyValue isNumber⟩,
   ⟨"deviation", none, .value isNumber⟩, ⟨"width", none, narrowValue⟩,
   ⟨"height", none, narrowValue⟩, ⟨"modulo-wrap", none, .flag⟩]

/-- The options of a subcommand, if there is one of that name. -/
def optionsOf? (subcommand : String) : Option (List OptionSpec) :=
  match subcommand with
  | "generate" =>
    some (⟨"output", some 'o', pathValue⟩ :: ⟨"events", none, pathValue⟩ :: overrideOptions)
  | "expand" => some (⟨"len", none, .flag⟩ :: overrideOptions)
  | "palette" => some overrideOptions
  | "init" => some [⟨"force", none, .flag⟩]
  | _ => none

/-! ### Taking options -/

/-- The options given so far and their values; a flag has the empty value. -/
abbrev Given := List (String × Word)

/-- Takes an option with its value. -/
def take (given : Given) (spec : OptionSpec) (value : Word) : Except Refusal Given :=
  let fits := match spec.kind with
    | .flag => true
    | .value accepts | .anyValue accepts => accepts value
  if !fits then .error (.usage ("invalid value for --" ++ spec.name))
  else if given.any fun e => e.1 = spec.name then
    .error (.usage ("--" ++ spec.name ++ " cannot be used multiple times"))
  else .ok ((spec.name, value) :: given)

/-- Whether an argument looks like an option. -/
def looksLikeOption (arg : Word) : Bool :=
  match arg with
  | '-' :: _ :: _ => true
  | _ => false

/-- Which option an argument is, and the value attached to it. -/
def recognize (specs : List OptionSpec) (arg : Word) :
    Except Refusal (OptionSpec × Option Word) :=
  let unknown := .error (.usage ("unexpected argument " ++ String.ofList arg))
  match arg with
  | '-' :: '-' :: body =>
    let name := String.ofList (body.takeWhile fun c => c != '=')
    let value? := match body.dropWhile fun c => c != '=' with
      | _ :: value => some value
      | [] => none
    match specs.find? fun s => s.name = name with
    | some spec => .ok (spec, value?)
    | none => if name = "help" && value?.isNone then .error .help else unknown
  | '-' :: letter :: rest =>
    let value? := match rest with
      | '=' :: value => some value
      | [] => none
      | value => some value
    match specs.find? fun s => s.letter = some letter with
    | some spec => .ok (spec, value?)
    | none => if letter = 'h' then .error .help else unknown
  | _ => unknown

/-- Takes options up to the first argument that is none.  Two dashes end the options, and only
they may stand at the end of the line. -/
def takeOptions (specs : List OptionSpec) (given : Given) :
    List Word → Except Refusal (Given × List Word)
  | [] => .ok (given, [])
  | ['-', '-'] :: rest =>
    if rest.isEmpty then .ok (given, []) else .error (.usage "unexpected argument")
  | arg :: rest =>
    if !looksLikeOption arg then .ok (given, arg :: rest)
    else
      match recognize specs arg with
      | .error refusal => .error refusal
      | .ok (spec, attached) =>
        match spec.kind, attached with
        | .flag, some _ => .error (.usage ("unexpected value for --" ++ spec.name))
        | .flag, none =>
          match take given spec [] with
          | .error refusal => .error refusal
          | .ok given => takeOptions specs given rest
        | _, some value =>
          match take given spec value with
          | .error refusal => .error refusal
          | .ok given => takeOptions specs given rest
        | kind, none =>
          match rest with
          | [] => .error (.usage ("a value is required for --" ++ spec.name))
          | value :: rest =>
            let barred := match kind with
              | .anyValue _ => false
              | _ => looksLikeOption value
            if barred then .error (.usage ("a value is required for --" ++ spec.name))
            else
              match take given spec value with
              | .error refusal => .error refusal
              | .ok given => takeOptions specs given rest

/-! ### Reading a command line -/

/-- The value of an option, if it was given. -/
def value? (given : Given) (name : String) : Option Word := given.lookup name

/-- A path given by an option. -/
def path? (given : Given) (name : String) : Option String := (value? given name).map String.ofList

/-- A whole number of 64 bits given by an option. -/
def uint64? (given : Given) (name : String) : Option UInt64 :=
  (value? given name).bind wide?

/-- A whole number of 32 bits given by an option. -/
def uint32? (given : Given) (name : String) : Option UInt32 :=
  (value? given name).bind narrow?

/-- A number given by an option. -/
def number? (given : Given) (name : String) : Option Float :=
  (value? given name).bind Decimal.float?

/-- The values that replace those of the config file. -/
def overrides (given : Given) : Overrides where
  seed := uint64? given "seed"
  colorCount := uint64? given "colors"
  treeCount := uint64? given "loops"
  depth := uint32? given "depth"
  start := value? given "axiom"
  rules := value? given "rules"
  angle := number? given "angle"
  length := number? given "length"
  deviation := number? given "deviation"
  width := uint32? given "width"
  height := uint32? given "height"
  moduloWrap := (value? given "modulo-wrap").isSome

/-- The subcommand of a name and its options. -/
def subcommand? (name : String) (given : Given) : Option Subcommand :=
  match name with
  | "generate" => some (.generate (path? given "output") (path? given "events") (overrides given))
  | "expand" => some (.expand (value? given "len").isSome (overrides given))
  | "palette" => some (.palette (overrides given))
  | "init" => some (.init (value? given "force").isSome)
  | _ => none

/-- The config file where no option names one. -/
def standardConfig : String := "camo.yaml"

/-- Asks for help on the program or on one subcommand. -/
def help : List Word → Refusal
  | [] => .help
  | [name] =>
    if (optionsOf? (String.ofList name)).isSome || name = "help".toList then .help
    else .usage "unrecognized subcommand"
  | _ => .usage "unrecognized subcommand"

/-- Reads the arguments behind the name of a subcommand. -/
def readSubcommand (config name : String) (args : List Word) : Except Refusal CommandLine := do
  match optionsOf? name with
  | none => .error (.usage ("unrecognized subcommand " ++ name))
  | some specs =>
    let (given, rest) ← takeOptions specs [] args
    if !rest.isEmpty then .error (.usage "unexpected argument")
    match subcommand? name given with
    | some subcommand => return ⟨config, subcommand⟩
    | none => .error (.usage ("unrecognized subcommand " ++ name))

/-- Reads a command line. -/
def read (args : List String) : Except Refusal CommandLine := do
  let (given, rest) ← takeOptions globalOptions [] (args.map String.toList)
  let config := (path? given "config").getD standardConfig
  match rest with
  | [] => .error (.usage "a subcommand is required")
  | name :: rest =>
    if name = "help".toList then .error (help rest)
    else readSubcommand config (String.ofList name) rest

end Arguments

end Camouflage
