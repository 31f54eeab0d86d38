/-
Camouflage/Pattern/Config.lean

Everything one pattern needs.  `Config.validate` checks the numbers, in a fixed
order, and reports the first that is outside its domain; what depends on the
grammar is checked when the symbols are prepared.

The bounds keep every later draw possible and every coordinate finite.
-/
import Camouflage.Grammar.Notation
import Camouflage.Palette.Selection
import Camouflage.Turtle.Walk

namespace Camouflage

/-- The pen widths of a pattern, both bounds included. -/
structure ThicknessRange where
  least : UInt32
  greatest : UInt32
deriving DecidableEq

/-- The canvas size in pixels. -/
structure CanvasSize where
  width : UInt32
  height : UInt32
deriving DecidableEq

/-- The drawing area of a canvas size. -/
def CanvasSize.area {α : Type} [Scalar α] (size : CanvasSize) : Canvas α :=
  Canvas.ofSize size.width.toNat size.height.toNat

/-- The parameters of a pattern. -/
structure Config (α : Type) where
  seed : UInt64
  /-- the number of foreground colors -/
  colorCount : UInt64
  /-- the number of trees -/
  treeCount : UInt64
  /-- the number of generations -/
  depth : UInt32
  /-- the word of generation zero -/
  start : Word
  rules : RuleSource
  /-- the base angle of a turn, in degrees -/
  angle : α
  /-- the base length of a step -/
  length : α
  /-- how far angle, length and every turn may be off their base -/
  deviation : α
  thickness : ThicknessRange
  canvas : CanvasSize
  wrap : WrapMode
  palette : Palette
  /-- the most symbols an expansion may have -/
  symbolLimit : UInt64
deriving BEq, DecidableEq

namespace Config

/-- The rules of a bush. -/
def bushRules : RuleTable := Table.ofList [(['F'], "FF+[+F-F-F]-[-F+F+F]".toList)]

/-- The parameters where nothing else is said. -/
def standard {α : Type} [Scalar α] : Config α where
  seed := 42
  colorCount := 5
  treeCount := 10
  depth := 3
  start := ['F']
  rules := .table bushRules
  angle := Scalar.ofNat 25
  length := Scalar.ofNat 10
  deviation := Scalar.ofNat 10
  thickness := ⟨2, 13⟩
  canvas := ⟨600, 600⟩
  wrap := .singleFold
  palette := Palette.urban
  symbolLimit := 5000000

/-- The largest canvas side in pixels. -/
def largestSide : UInt32 := 16384

/-- The largest pen width in pixels. -/
def largestThickness : UInt32 := 512

/-- The bound on the magnitude of angle, length and deviation. -/
def largestParameter : Nat := 1000000

variable {α : Type} [Scalar α]

/-- Whether a parameter is finite and within the bound. -/
def checkParameter (name : String) (value : α) : Outcome Unit :=
  if Scalar.isFinite value && !Scalar.less (Scalar.ofNat largestParameter) (Scalar.abs value) then
    .ok ()
  else .error (.config (.parameter name (toString largestParameter) (Scalar.numeral value)))

/-- Whether every number is in its domain. -/
def validate (config : Config α) : Outcome Unit := do
  let ⟨width, height⟩ := config.canvas
  if width = 0 ∨ height = 0 ∨ largestSide < width ∨ largestSide < height then
    .error (.config (.canvasSize width.toNat height.toNat largestSide.toNat))
  config.palette.validate
  if config.colorCount = 0 ∨ config.palette.mostForeground < config.colorCount.toNat then
    .error (.config (.colorCount config.palette.mostForeground config.colorCount.toNat))
  let ⟨least, greatest⟩ := config.thickness
  if least = 0 ∨ greatest < least ∨ largestThickness < greatest then
    .error (.config (.thickness least.toNat greatest.toNat largestThickness.toNat))
  checkParameter "angle" config.angle
  checkParameter "length" config.length
  checkParameter "random_deviation" config.deviation
  if Scalar.less config.deviation (Scalar.ofNat 0) then
    .error (.config (.negativeDeviation (Scalar.numeral config.deviation)))
  if config.symbolLimit = 0 then
    .error (.config .noSymbols)

end Config

end Camouflage
