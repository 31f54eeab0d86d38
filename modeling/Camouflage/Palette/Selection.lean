/-
Camouflage/Palette/Selection.lean

Palettes, and the colors of a pattern.  A palette is usable when it has at
least two colors and no color twice; then one of them is drawn as background
and the foreground is a sample of the others, so background and foreground
share no color.

A refused selection draws nothing.
-/
import Camouflage.Fault
import Camouflage.Random.Sample

namespace Camouflage

/-- Candidate colors, in order. -/
structure Palette where
  colors : List Color
deriving DecidableEq

namespace Palette

/-- Tones of a city: greys, blues, greens, beiges. -/
def urban : Palette :=
  ⟨[⟨0x70, 0x80, 0x90⟩, ⟨0x2f, 0x4f, 0x4f⟩, ⟨0xd3, 0xd3, 0xd3⟩, ⟨0x46, 0x82, 0xb4⟩,
    ⟨0x77, 0x88, 0x99⟩, ⟨0xa9, 0xa9, 0xa9⟩, ⟨0x69, 0x69, 0x69⟩, ⟨0xbd, 0xb7, 0x6b⟩,
    ⟨0x8b, 0x45, 0x13⟩, ⟨0x55, 0x6b, 0x2f⟩]⟩

/-- The palette of color texts; the first that is no color is reported. -/
def ofTexts (texts : List Word) : Outcome Palette :=
  match texts.mapM Color.parse with
  | .ok colors => .ok ⟨colors⟩
  | .error cause => .error (.config (.color cause))

/-- The number of colors. -/
def size (p : Palette) : Nat := p.colors.length

/-- The most foreground colors the palette can supply. -/
def mostForeground (p : Palette) : Nat := p.size - 1

/-- The first element of a list that is in `seen` or comes before itself. -/
def firstRepeat (seen : List Color) : List Color → Option Color
  | [] => none
  | c :: rest => if c ∈ seen then some c else firstRepeat (c :: seen) rest

/-- Whether colors can be drawn from the palette: two or more, none twice. -/
def validate (p : Palette) : Outcome Unit :=
  if p.size < 2 then .error (.config (.paletteTooSmall p.size))
  else
    match firstRepeat [] p.colors with
    | some c => .error (.config (.paletteRepeats c))
    | none => .ok ()

end Palette

/-- The colors of a pattern. -/
structure ColorSelection where
  background : Color
  foreground : List Color
deriving DecidableEq

variable {σ : Type} [RandomSource σ]

/-- Draws the background, then `count` foreground colors from the rest of the palette. -/
def drawColors (palette : Palette) (count : Nat) : ExceptT Fault (StateM σ) ColorSelection := do
  MonadExcept.ofExcept palette.validate
  if count = 0 ∨ palette.mostForeground < count then
    throw (.config (.selectionCount palette.mostForeground palette.size count))
  else if h : 0 < palette.colors.length then
    let i ← modifyGet (Random.drawBelow .long h)
    let foreground ← modifyGet (Random.sample (palette.colors.eraseIdx i) count)
    return ⟨palette.colors[i], foreground⟩
  else throw (.config .emptyRange)

/-- The colors drawn from a stream, and what is left of it. -/
def selectColors (palette : Palette) (count : Nat) (s : σ) : Outcome (ColorSelection × σ) :=
  match (drawColors palette count).run s with
  | (.ok colors, s) => .ok (colors, s)
  | (.error fault, _) => .error fault

end Camouflage
