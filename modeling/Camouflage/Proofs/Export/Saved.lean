/-
Camouflage/Proofs/Export/Saved.lean

What an export leaves behind.  Saving a file makes the directories around it and
then writes it, so each of its requests is one that saving to its path allows;
pictures and events are files that are saved.  When it succeeds the content is
at the place of the path.
-/
import Camouflage.Export.Saving
import Camouflage.Proofs.Files.History

namespace Camouflage

variable {paths : List String} {path : String}

/-! ### Saving keeps to its path -/

namespace Follows

theorem ensureParent (hpath : path ∈ paths) :
    Follows (History.Extends (Files.Saves paths)) (ensureParent path) (ensureParent path) := by
  simp only [Camouflage.ensureParent]
  cases hparent : Path.parent? path with
  | none => exact pure _
  | some around =>
    have haround : Path.Around path around := Relation.TransGen.single hparent
    refine bind (ensureDirectory hpath haround) fun answer => ?_
    split
    · exact pure _
    · exact pure _

theorem saveFile (hpath : path ∈ paths) (content : ByteArray) :
    Follows (History.Extends (Files.Saves paths)) (saveFile path content)
      (saveFile path content) := by
  refine bind (ensureParent hpath) fun made => ?_
  split
  · exact pure _
  · refine bind (write hpath content) fun answer => ?_
    split
    · exact pure _
    · exact pure _

theorem savePicture (pattern : Pattern Float) (width height : Nat) (hpath : path ∈ paths) :
    Follows (History.Extends (Files.Saves paths)) (pattern.savePicture width height path)
      (pattern.savePicture width height path) := by
  simp only [Pattern.savePicture]
  cases pattern.rasterize? width height with
  | none =>
    refine bind (ensureParent hpath) fun made => ?_
    split
    · exact pure _
    · exact pure _
  | some image =>
    dsimp only
    split
    · exact saveFile hpath _
    · refine bind (saveFile hpath _) fun saved => ?_
      split
      · exact pure _
      · exact pure _

theorem saveEvents (pattern : Pattern Float) (generated : String) (hpath : path ∈ paths) :
    Follows (History.Extends (Files.Saves paths)) (pattern.saveEvents generated path)
      (pattern.saveEvents generated path) :=
  saveFile hpath _

end Follows

/-! ### Saved files are there -/

variable {files files' : Files} {content : ByteArray}

theorem entry?_of_saveFile
    (h : (saveFile path content : StateM Files (Outcome Unit)).run files = (.ok (), files')) :
    files'.entry? (Path.place path) = some (.file content) := by
  rcases hmade : (ensureParent path : StateM Files (Outcome Unit)).run files with ⟨made, middle⟩
  rw [saveFile, StateT.run_bind, hmade] at h
  cases made with
  | error fault => cases h
  | ok _ =>
    -- the directories are made, and the file is left to be written
    change StateT.run (FileStore.write path content >>= _) middle = _ at h
    cases hwrite : middle.write path content with
    | error cause =>
      rw [StateT.run_bind, Files.run_write_error hwrite] at h
      cases h
    | ok written =>
      rw [StateT.run_bind, Files.run_write_ok hwrite] at h
      cases h
      rw [Files.entry?_write hwrite, if_pos rfl]

theorem entry?_of_savePicture {pattern : Pattern Float} {width height : Nat}
    (h : (pattern.savePicture width height path : StateM Files (Outcome Unit)).run files =
      (.ok (), files')) :
    files'.entry? (Path.place path) =
      some (.file (Png.encode (pattern.rasterize width height))) := by
  rw [Pattern.savePicture] at h
  cases hpicture : pattern.rasterize? width height with
  | none =>
    -- without a picture there is a fault, whatever directories are made
    rw [hpicture] at h
    rcases hmade : (ensureParent path : StateM Files (Outcome Unit)).run files with ⟨made, middle⟩
    dsimp only at h
    rw [StateT.run_bind, hmade] at h
    cases made with
    | error fault => cases h
    | ok _ => cases h
  | some image =>
    rw [hpicture] at h
    dsimp only at h
    split at h
    · rw [Pattern.rasterize_of_eq_some hpicture]
      exact entry?_of_saveFile h
    · -- an impossible size is a fault, whatever is saved
      next cause hcause =>
        rcases hsaved : (saveFile path ByteArray.empty : StateM Files (Outcome Unit)).run files with
          ⟨saved, middle⟩
        rw [StateT.run_bind, hsaved] at h
        cases saved with
        | error fault => cases h
        | ok _ => cases h

theorem entry?_of_saveEvents {pattern : Pattern Float} {generated : String}
    (h : (pattern.saveEvents generated path : StateM Files (Outcome Unit)).run files =
      (.ok (), files')) :
    files'.entry? (Path.place path) =
      some (.file (pattern.toJson generated).text.toUTF8) :=
  entry?_of_saveFile h

end Camouflage
