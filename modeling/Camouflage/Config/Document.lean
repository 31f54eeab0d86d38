/-
Camouflage/Config/Document.lean

Config files.  A configuration is a mapping of its fields, and any field may be
left out; what is left out has its standard value.  Unknown fields are passed
over, and a field given twice is a fault.  `toNode` writes all fields, and a
field that it wrote is read back as it was, whichever others are left out.

Rules are a mapping of strings or one string.  There a plain value that is not
a string of its own accord, such as `5` or `true`, is a fault, while for the
start word any scalar will do.
-/
import Camouflage.Number.Binary64
import Camouflage.Pattern.Config
import Camouflage.Yaml.Printer

namespace Camouflage

open Yaml (Node)

namespace Document

/-! ### Writing -/

/-- A string as a node. -/
def string (w : Word) : Node := .scalar (Yaml.Scalar.string w)

/-- A whole number as a node. -/
def natural (n : Nat) : Node := .scalar (Yaml.Scalar.ofNat n)

/-- A number as a node. -/
def number (x : Float) : Node := .scalar (Yaml.Scalar.ofFloat x)

/-- A mapping of named fields as a node. -/
def fields (entries : List (String × Node)) : Node :=
  .mapping (entries.map fun e => (string e.1.toList, e.2))

/-- The name of a wrap mode. -/
def wrapName : WrapMode → String
  | .singleFold => "single_fold"
  | .modulo => "modulo"

/-- Rules as a node. -/
def rules : RuleSource → Node
  | .table table => .mapping (table.entries.map fun e => (string e.1, string e.2))
  | .text text => string text

/-- The fields of a configuration, in the order in which they are written. -/
def configFields (c : Config Float) : List (String × Node) :=
  [("seed", natural c.seed.toNat),
   ("num_colors", natural c.colorCount.toNat),
   ("num_loops", natural c.treeCount.toNat),
   ("recursion_depth", natural c.depth.toNat),
   ("axiom", string c.start),
   ("rules", rules c.rules),
   ("angle", number c.angle),
   ("length", number c.length),
   ("random_deviation", number c.deviation),
   ("line_thickness",
     fields [("min", natural c.thickness.least.toNat),
       ("max", natural c.thickness.greatest.toNat)]),
   ("canvas",
     fields [("width", natural c.canvas.width.toNat), ("height", natural c.canvas.height.toNat)]),
   ("wrap", string (wrapName c.wrap).toList),
   ("palette", .sequence (c.palette.colors.map fun color => string color.toWord)),
   ("max_symbols", natural c.symbolLimit.toNat)]

/-! ### Reading values -/

/-- What reading gives: a value, or why there is none. -/
abbrev Reading (α : Type) := Except String α

/-- The text of any scalar. -/
def readText : Node → Reading Word
  | .scalar s => .ok s.text
  | _ => .error "expected a string"

/-- The text of a scalar that is a string of its own accord. -/
def readString : Node → Reading Word
  | .scalar s => if s.isString then .ok s.text else .error "expected a string"
  | _ => .error "expected a string"

/-- A whole number below a limit. -/
def readNatural (limit : Nat) : Node → Reading Nat
  | .scalar s =>
    match s.natural with
    | some n => if n < limit then .ok n else .error "number too large"
    | none => .error "expected a whole number"
  | _ => .error "expected a whole number"

/-- A number. -/
def readNumber : Node → Reading Float
  | .scalar s =>
    match s.number with
    | some x => .ok x
    | none => .error "expected a number"
  | _ => .error "expected a number"

/-- A whole number of 64 bits. -/
def readUInt64 (node : Node) : Reading UInt64 := UInt64.ofNat <$> readNatural UInt64.size node

/-- A whole number of 32 bits. -/
def readUInt32 (node : Node) : Reading UInt32 := UInt32.ofNat <$> readNatural UInt32.size node

/-- A wrap mode, by its name. -/
def readWrap (node : Node) : Reading WrapMode := do
  let w ← readText node
  if w = (wrapName .singleFold).toList then return .singleFold
  else if w = (wrapName .modulo).toList then return .modulo
  else .error "expected single_fold or modulo"

/-- The entries of a mapping of strings. -/
def readStrings : List (Node × Node) → Reading (List (Word × Word))
  | [] => .ok []
  | (key, value) :: rest => do
    let key ← readString key
    let value ← readString value
    let rest ← readStrings rest
    return (key, value) :: rest

/-- Rules; of two under one key the later one stays. -/
def readRules : Node → Reading RuleSource
  | .mapping entries => do return .table (Table.ofList (← readStrings entries))
  | node => .text <$> readString node

/-- The colors of a sequence. -/
def readColors : List Node → Reading (List Color)
  | [] => .ok []
  | node :: rest => do
    match Color.parse (← readText node) with
    | .ok color => return color :: (← readColors rest)
    | .error cause => .error cause.message

/-- A palette; where nothing is written it is empty. -/
def readPalette : Node → Reading Palette
  | .sequence items => .mk <$> readColors items
  | .scalar s => if s.isBlank then .ok ⟨[]⟩ else .error "expected a sequence"
  | .mapping _ => .error "expected a sequence"

/-! ### Reading fields -/

/-- Goes through the fields of a mapping.  `set` takes a field into account and gives nothing for a
name it does not know; `seen` are the known names met so far. -/
def readFields {α : Type} (set : α → Word → Node → Option (Reading α)) (seen : List Word)
    (value : α) : List (Node × Node) → Reading α
  | [] => .ok value
  | (key, node) :: rest => do
    let name ← readText key
    match set value name node with
    | none => readFields set seen value rest
    | some result =>
      if name ∈ seen then .error ("duplicate field " ++ String.ofList name)
      else readFields set (name :: seen) (← result) rest

/-- The fields of a node that is a mapping; where nothing is written there are none. -/
def mappingEntries : Node → Reading (List (Node × Node))
  | .mapping entries => .ok entries
  | .scalar s => if s.isBlank then .ok [] else .error "expected a mapping"
  | .sequence _ => .error "expected a mapping"

/-- Takes one of two fields into account. -/
def setPair (first second : String) (pair : Option UInt32 × Option UInt32) (name : Word)
    (node : Node) : Option (Reading (Option UInt32 × Option UInt32)) :=
  if name = first.toList then some ((fun n => (some n, pair.2)) <$> readUInt32 node)
  else if name = second.toList then some ((fun n => (pair.1, some n)) <$> readUInt32 node)
  else none

/-- A mapping that must have two fields. -/
def readPair (first second : String) (node : Node) : Reading (UInt32 × UInt32) := do
  let entries ← mappingEntries node
  match ← readFields (setPair first second) [] (none, none) entries with
  | (some a, some b) => return (a, b)
  | (none, _) => .error ("missing field " ++ first)
  | (_, none) => .error ("missing field " ++ second)

/-- Takes a field of a configuration into account. -/
def setField (c : Config Float) (name : Word) (node : Node) : Option (Reading (Config Float)) :=
  match String.ofList name with
  | "seed" => some ((fun n => { c with seed := n }) <$> readUInt64 node)
  | "num_colors" => some ((fun n => { c with colorCount := n }) <$> readUInt64 node)
  | "num_loops" => some ((fun n => { c with treeCount := n }) <$> readUInt64 node)
  | "recursion_depth" => some ((fun n => { c with depth := n }) <$> readUInt32 node)
  | "axiom" => some ((fun w => { c with start := w }) <$> readText node)
  | "rules" => some ((fun r => { c with rules := r }) <$> readRules node)
  | "angle" => some ((fun x => { c with angle := x }) <$> readNumber node)
  | "length" => some ((fun x => { c with length := x }) <$> readNumber node)
  | "random_deviation" => some ((fun x => { c with deviation := x }) <$> readNumber node)
  | "line_thickness" =>
    some ((fun p => { c with thickness := ⟨p.1, p.2⟩ }) <$> readPair "min" "max" node)
  | "canvas" => some ((fun p => { c with canvas := ⟨p.1, p.2⟩ }) <$> readPair "width" "height" node)
  | "wrap" => some ((fun m => { c with wrap := m }) <$> readWrap node)
  | "palette" => some ((fun p => { c with palette := p }) <$> readPalette node)
  | "max_symbols" => some ((fun n => { c with symbolLimit := n }) <$> readUInt64 node)
  | _ => none

end Document

namespace Config

/-- The document of a configuration, with all its fields. -/
def toNode (c : Config Float) : Node := Document.fields (Document.configFields c)

/-- The configuration that a document describes. -/
def ofNode (node : Node) : Document.Reading (Config Float) := do
  Document.readFields Document.setField [] Config.standard (← Document.mappingEntries node)

/-- The text of a config file. -/
def toYaml (c : Config Float) : Word := c.toNode.print

/-- Reads the text of a config file. -/
def ofYaml (text : Word) : Outcome (Config Float) :=
  match Node.parse text >>= ofNode with
  | .ok c => .ok c
  | .error reason => .error (.config (.document reason))

end Config

end Camouflage
