/-
Camouflage/Proofs/Files/History.lean

File stores that remember.  A command that is run on a history instead of a
directory leaves a record: for each request for a change, granted or refused,
what was there afterwards.  What a command does to files on the way can be read
off the record, and not only what it has done in the end.

A command is the same program on every store, but that its two runs agree has to
be said of the runs.  `Follows R` says it, along with the difference `R` that the
run makes to the record; if `R` is a preorder then programs put together out of
such runs are of that kind.
-/
import Camouflage.Files.Store
import Camouflage.Proofs.Files.Places
import Mathlib.Order.Defs.Unbundled

namespace Camouflage

/-! ### Histories -/

/-- The content of a directory, now and before. -/
structure History where
  now : Files
  /-- what was there before each request for a change, latest first -/
  past : List Files := []

namespace History

/-- All that has been there, latest first. -/
def moments (history : History) : List Files := history.now :: history.past

/-- Answers a request that may change the directory, and remembers what was there. -/
def update (change : Files → Except FileFault Files) :
    StateM History (Except FileFault Unit) := fun history =>
  match change history.now with
  | .ok files => (.ok (), ⟨files, history.moments⟩)
  | .error fault => (.error fault, ⟨history.now, history.moments⟩)

instance : FileStore (StateM History) where
  pathExists path := fun history => (history.now.pathExists path, history)
  isDirectory path := fun history => (history.now.isDirectory path, history)
  readText path := fun history => (history.now.readText path, history)
  write path content := update fun files => files.write path content
  makeDirectory path := update fun files => files.makeDirectory path

/-- Nothing that has been there is forgotten. -/
def Remembers (before after : History) : Prop := before.moments <:+ after.moments

/-- Moments are added, each of which differs by `D` from what was there before. -/
def Extends (D : Files → Files → Prop) (before after : History) : Prop :=
  ∃ later, after.moments = later ++ before.moments ∧ ∀ files ∈ later, D before.now files

instance : IsPreorder History Remembers where
  refl history := List.suffix_refl history.moments
  trans _ _ _ := List.IsSuffix.trans

variable {D : Files → Files → Prop} {before middle after : History}

theorem Extends.remembers (h : Extends D before after) : Remembers before after := by
  obtain ⟨later, hmoments, -⟩ := h
  exact ⟨later, hmoments.symm⟩

theorem Extends.mono {D' : Files → Files → Prop} (h : Extends D before after)
    (hD : ∀ files files', D files files' → D' files files') : Extends D' before after := by
  obtain ⟨later, hmoments, hlater⟩ := h
  exact ⟨later, hmoments, fun files hfiles => hD _ _ (hlater files hfiles)⟩

variable [IsPreorder Files D]

theorem Extends.now (h : Extends D before after) : D before.now after.now := by
  obtain ⟨later, hmoments, hlater⟩ := h
  -- what is there now is the latest moment, old or new
  cases later with
  | nil =>
    rw [List.nil_append, moments, moments, List.cons.injEq] at hmoments
    rw [hmoments.1]
    exact refl_of D before.now
  | cons files later =>
    rw [List.cons_append, moments, List.cons.injEq] at hmoments
    rw [hmoments.1]
    exact hlater files List.mem_cons_self

theorem Extends.trans (h : Extends D before middle) (h' : Extends D middle after) :
    Extends D before after := by
  have hnow : D before.now middle.now := h.now
  obtain ⟨later, hmoments, hlater⟩ := h
  obtain ⟨later', hmoments', hlater'⟩ := h'
  refine ⟨later' ++ later, ?_, ?_⟩
  · rw [hmoments', hmoments, List.append_assoc]
  · intro files hfiles
    rcases List.mem_append.1 hfiles with hfiles | hfiles
    · exact trans_of D hnow (hlater' files hfiles)
    · exact hlater files hfiles

instance : IsPreorder History (Extends D) where
  refl history := ⟨[], rfl, by simp⟩
  trans _ _ _ := Extends.trans

omit [IsPreorder Files D] in
/-- One moment more. -/
theorem Extends.cons {files : Files} (h : D before.now files) :
    Extends D before ⟨files, before.moments⟩ := by
  refine ⟨[files], rfl, ?_⟩
  intro other hother
  rw [List.mem_singleton.1 hother]
  exact h

/-- All that a run has left on a fresh record differs by `D` from what was there. -/
theorem Extends.moments {files : Files} (h : Extends D ⟨files, []⟩ after) :
    ∀ moment ∈ after.moments, D files moment := by
  obtain ⟨later, hmoments, hlater⟩ := h
  intro moment hmoment
  rw [hmoments] at hmoment
  rcases List.mem_append.1 hmoment with hmoment | hmoment
  · exact hlater moment hmoment
  · rw [List.mem_singleton.1 hmoment]
    exact refl_of D files

end History

/-! ### Runs that leave a record -/

section Runs

variable {α β : Type} {R : History → History → Prop}

/-- A run that leaves a record answers like one that does not, and makes no difference but `R`
to the record. -/
structure Follows (R : History → History → Prop) (x : StateM History α) (y : StateM Files α) :
    Prop where
  answer : ∀ history, y.run history.now = ((x.run history).1, (x.run history).2.now)
  record : ∀ history, R history (x.run history).2

namespace Follows

theorem mono {R' : History → History → Prop} {x : StateM History α} {y : StateM Files α}
    (h : Follows R x y) (hR : ∀ before after, R before after → R' before after) :
    Follows R' x y where
  answer := h.answer
  record history := hR history _ (h.record history)

section Preorder

variable [IsPreorder History R]

theorem pure (a : α) : Follows R (Pure.pure a) (Pure.pure a) where
  answer _ := rfl
  record history := refl_of R history

theorem bind {x : StateM History α} {y : StateM Files α}
    {f : α → StateM History β} {g : α → StateM Files β} (hx : Follows R x y)
    (hf : ∀ a, Follows R (f a) (g a)) : Follows R (x >>= f) (y >>= g) where
  answer history := by
    rw [StateT.run_bind, hx.answer]
    exact (hf (x.run history).1).answer (x.run history).2
  record history :=
    trans_of R (hx.record history) ((hf (x.run history).1).record (x.run history).2)

theorem read (f : Files → α) :
    Follows R (fun history => (f history.now, history)) (fun files => (f files, files)) where
  answer _ := rfl
  record history := refl_of R history

theorem pathExists (path : String) :
    Follows R (FileStore.pathExists path) (FileStore.pathExists path) :=
  read fun files => files.pathExists path

theorem isDirectory (path : String) :
    Follows R (FileStore.isDirectory path) (FileStore.isDirectory path) :=
  read fun files => files.isDirectory path

theorem readText (path : String) :
    Follows R (FileStore.readText path) (FileStore.readText path) :=
  read fun files => files.readText path

theorem orPresent (path : String) (fault : FileFault) :
    Follows R (FileStore.orPresent path fault) (FileStore.orPresent path fault) := by
  refine bind (isDirectory path) fun present => ?_
  cases present with
  | true => exact pure _
  | false => exact pure _

end Preorder

theorem update {D : Files → Files → Prop} [IsPreorder Files D]
    {change : Files → Except FileFault Files}
    (hchange : ∀ files files', change files = .ok files' → D files files') :
    Follows (History.Extends D) (History.update change) (FileStore.update change) where
  answer history := by
    simp only [History.update, FileStore.update, StateT.run]
    cases change history.now with
    | ok files => rfl
    | error fault => rfl
  record history := by
    simp only [History.update, StateT.run]
    cases h : change history.now with
    | ok files => exact .cons (hchange history.now files h)
    | error fault => exact .cons (refl_of D history.now)

/-! ### Runs that save -/

variable {paths : List String} {path directory : String}

theorem write (hpath : path ∈ paths) (content : ByteArray) :
    Follows (History.Extends (Files.Saves paths)) (FileStore.write path content)
      (FileStore.write path content) :=
  update fun _ _ h => .of_write h hpath

theorem makeDirectory (hpath : path ∈ paths) (haround : Path.Around path directory) :
    Follows (History.Extends (Files.Saves paths)) (FileStore.makeDirectory directory)
      (FileStore.makeDirectory directory) :=
  update fun _ _ h => .of_makeDirectory h hpath haround

/-- Directories are made from the outside in, each of them around the path. -/
theorem makeDirectories (hpath : path ∈ paths) (haround : Path.Around path directory)
    (fuel : Nat) :
    Follows (History.Extends (Files.Saves paths)) (FileStore.makeDirectories directory fuel)
      (FileStore.makeDirectories directory fuel) := by
  induction fuel generalizing directory with
  | zero => exact pure _
  | succ fuel ih =>
    simp only [FileStore.makeDirectories]
    split
    · exact pure _
    refine bind (makeDirectory hpath haround) fun answer => ?_
    split
    · exact pure _
    · -- the one around it is missing, which lies around the path too
      cases hparent : Path.parent? directory with
      | none => exact pure _
      | some outer =>
        refine bind (ih (haround.tail hparent)) fun answer => ?_
        split
        · exact pure _
        · refine bind (makeDirectory hpath haround) fun answer => ?_
          split
          · exact pure _
          · exact orPresent _ _
    · exact orPresent _ _

theorem ensureDirectory (hpath : path ∈ paths) (haround : Path.Around path directory) :
    Follows (History.Extends (Files.Saves paths)) (FileStore.ensureDirectory directory)
      (FileStore.ensureDirectory directory) :=
  makeDirectories hpath haround _

end Follows

end Runs

end Camouflage
