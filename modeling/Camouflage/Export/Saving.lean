/-
Camouflage/Export/Saving.lean

Saving a finished pattern, as a picture and as the list of its events.  The
directories around a file are made first; a refusal there or at the file itself
is a fault of the export.
-/
import Camouflage.Export.Json
import Camouflage.Export.Png
import Camouflage.Files.Store
import Camouflage.Raster.Rasterizer

namespace Camouflage

/-! ### The events of a pattern -/

/-- A color in JSON. -/
def Color.toJson (c : Color) : Json := .string c.text

/-- An event in JSON. -/
def DrawEvent.toJson : DrawEvent Float → Json
  | setBackground color => Json.record [("op", .string "set_background"), ("color", color.toJson)]
  | moveTo p => Json.record [("op", .string "move_to"), ("x", .number p.x), ("y", .number p.y)]
  | lineTo p color thickness =>
    Json.record [("op", .string "line_to"), ("x", .number p.x), ("y", .number p.y),
      ("color", color.toJson), ("thickness", .natural thickness)]

/-- The statistics of a pattern in JSON. -/
def PatternStats.toJson (stats : PatternStats) : Json :=
  Json.record [("trees", .natural stats.trees), ("segments", .natural stats.segments),
    ("wraps", .natural stats.wraps)]

/-- A pattern in JSON, with the time it was made at. -/
def Pattern.toJson (pattern : Pattern Float) (generated : String) : Json :=
  Json.record [("generated", .string generated), ("background", pattern.background.toJson),
    ("foreground", .array (pattern.foreground.map Color.toJson)),
    ("stats", pattern.stats.toJson),
    ("events", .array (pattern.record.events.toList.map DrawEvent.toJson))]

/-! ### Files -/

section Saving

variable {m : Type → Type} [Monad m] [FileStore m]

/-- Makes the directories around a file. -/
def ensureParent (path : String) : m (Outcome Unit) := do
  match Path.parent? path with
  | none => return .ok ()
  | some around =>
    match ← FileStore.ensureDirectory around with
    | .ok () => return .ok ()
    | .error cause => return .error (.exporting around (.refused cause))

/-- Writes a file and the directories around it. -/
def saveFile (path : String) (content : ByteArray) : m (Outcome Unit) := do
  match ← ensureParent path with
  | .error fault => return .error fault
  | .ok () =>
    match ← FileStore.write path content with
    | .ok () => return .ok ()
    | .error cause => return .error (.exporting path (.refused cause))

/-- Why a picture of some size cannot be written, if so. -/
def pictureFault? (width height : Nat) : Option ExportFault :=
  if width = 0 then some .zeroWidth else if height = 0 then some .zeroHeight else none

/-- Saves a picture of a pattern.  A picture without pixels leaves an empty file, and where there is
no picture no file is written. -/
def Pattern.savePicture (pattern : Pattern Float) (width height : Nat) (path : String) :
    m (Outcome Unit) := do
  match pattern.rasterize? width height with
  | none =>
    match ← ensureParent path with
    | .error fault => return .error fault
    | .ok () => return .error (.exporting path .noStroke)
  | some image =>
    match pictureFault? width height with
    | none => saveFile path (Png.encode image)
    | some cause =>
      match ← saveFile path ByteArray.empty with
      | .error fault => return .error fault
      | .ok () => return .error (.exporting path cause)

/-- Saves the events of a pattern. -/
def Pattern.saveEvents (pattern : Pattern Float) (generated path : String) : m (Outcome Unit) :=
  saveFile path (pattern.toJson generated).text.toUTF8

end Saving

end Camouflage
