/-
Camouflage/Proofs/Files/Places.lean

The places that a path can name.  Where a path leads depends on what is there
only in so far as it may lead nowhere: when it leads somewhere, the place can be
told from its text (`Path.place`).  A request that is granted therefore changes
the entry at that place and no other.

Saving files under some paths (`Files.Saves`) may change the entries that the
paths name and make directories around them where nothing was.  Everything else
stays as it is, whatever number of requests it takes, since the relation is
reflexive and transitive and holds of a single request.
-/
import Camouflage.Files.Store
import Mathlib.Logic.Relation
import Mathlib.Order.Defs.Unbundled

namespace Camouflage

/-! ### Places -/

namespace Path

/-- The place that a path names, if it leads anywhere. -/
def place (path : String) : List String := (parts path).foldl Files.follow []

/-- Whether a directory is one that a path lies in, near or far. -/
def Around : String → String → Prop :=
  Relation.TransGen fun inner outer => parent? inner = some outer

end Path

namespace Files

variable {files files' : Files} {path : String} {content : ByteArray} {place : List String}

theorem locate_eq_ok {start : List String} {parts : List String}
    (h : files.locate start parts = .ok place) : place = parts.foldl follow start := by
  induction parts generalizing start with
  | nil =>
    rw [locate, Except.ok.injEq] at h
    exact h.symm
  | cons part rest ih =>
    rw [locate] at h
    split at h
    · exact ih h
    -- anything but a directory on the way is an error
    all_goals cases h

theorem placeOf_eq_ok (h : files.placeOf path = .ok place) : place = Path.place path := by
  rw [placeOf] at h
  split at h
  · cases h
  split at h
  · cases h
  split at h
  · cases h
  exact locate_eq_ok h

theorem look_eq_ok {entry : Option Entry} (h : files.look place = .ok entry) :
    files.entry? place = entry := by
  rw [look] at h
  split at h
  · cases h
  · exact Except.ok.inj h

@[simp] theorem entry?_root : files.entry? [] = some .directory := rfl

theorem entry?_insert {entry : Entry} (hplace : place ≠ []) (other : List String) :
    Files.entry? (files.insert place entry) other =
      if other = place then some entry else files.entry? other := by
  by_cases hroot : other = []
  · -- the root is there without an entry
    subst hroot
    rw [if_neg (Ne.symm hplace)]
    rfl
  · have hempty : other.isEmpty = false := List.isEmpty_eq_false_iff.2 hroot
    simp only [Files.entry?, hempty, Bool.false_eq_true, if_false]
    exact Table.get?_insert ..

/-! ### Granted requests -/

/-- Writing sets the entry at the place of the path, where no directory is. -/
theorem write_eq_ok (h : files.write path content = .ok files') :
    files.entry? (Path.place path) ≠ some .directory ∧
      files' = files.insert (Path.place path) (.file content) := by
  cases hplace : files.placeOf path with
  | error fault =>
    simp only [write, hplace, bind, Except.bind] at h
    cases h
  | ok place =>
    obtain rfl := placeOf_eq_ok hplace
    simp only [write, hplace, bind, Except.bind] at h
    split at h
    · cases h
    cases hlook : files.look (Path.place path) with
    | error fault => simp [hlook] at h
    | ok entry =>
      rw [look_eq_ok hlook]
      simp only [hlook] at h
      split at h
      · cases h
      · next hdirectory =>
        refine ⟨hdirectory, ?_⟩
        exact (Except.ok.inj h).symm

/-- Making a directory sets the entry at the place of the path, where nothing is. -/
theorem makeDirectory_eq_ok (h : files.makeDirectory path = .ok files') :
    files.entry? (Path.place path) = none ∧
      files' = files.insert (Path.place path) .directory := by
  cases hplace : files.placeOf path with
  | error fault =>
    simp only [makeDirectory, hplace, bind, Except.bind] at h
    cases h
  | ok place =>
    obtain rfl := placeOf_eq_ok hplace
    cases hlook : files.look (Path.place path) with
    | error fault => simp [makeDirectory, hplace, hlook, bind, Except.bind] at h
    | ok entry =>
      rw [look_eq_ok hlook]
      cases entry with
      | some entry => simp [makeDirectory, hplace, hlook, bind, Except.bind] at h
      | none =>
        refine ⟨rfl, ?_⟩
        simp only [makeDirectory, hplace, hlook, bind, Except.bind] at h
        exact (Except.ok.inj h).symm

/-- After writing, the place of the path holds the content, and nothing else is changed. -/
theorem entry?_write (h : files.write path content = .ok files') (place : List String) :
    files'.entry? place =
      if place = Path.place path then some (.file content) else files.entry? place := by
  obtain ⟨hdirectory, rfl⟩ := write_eq_ok h
  refine entry?_insert ?_ place
  -- the root is a directory, so it is not what was written
  intro hroot
  rw [hroot] at hdirectory
  exact hdirectory entry?_root

/-- After making a directory, it is at the place of the path, and nothing else is changed. -/
theorem entry?_makeDirectory (h : files.makeDirectory path = .ok files') (place : List String) :
    files'.entry? place =
      if place = Path.place path then some .directory else files.entry? place := by
  obtain ⟨hnothing, rfl⟩ := makeDirectory_eq_ok h
  refine entry?_insert ?_ place
  intro hroot
  rw [hroot, entry?_root] at hnothing
  cases hnothing

/-- A writing request that is granted. -/
theorem run_write_ok (h : files.write path content = .ok files') :
    (FileStore.write path content : StateM Files _).run files = (.ok (), files') := by
  simp only [FileStore.write, FileStore.update, StateT.run, h]

/-- A writing request that is refused. -/
theorem run_write_error {fault : FileFault} (h : files.write path content = .error fault) :
    (FileStore.write path content : StateM Files _).run files = (.error fault, files) := by
  simp only [FileStore.write, FileStore.update, StateT.run, h]

/-! ### Differences -/

/-- No difference but at one place. -/
def SameBut (place : List String) (before after : Files) : Prop :=
  ∀ other, other ≠ place → after.entry? other = before.entry? other

instance : IsPreorder Files (SameBut place) where
  refl _ _ _ := rfl
  trans _ _ _ h h' other hother := (h' other hother).trans (h other hother)

theorem SameBut.of_write (h : files.write path content = .ok files') :
    SameBut (Path.place path) files files' := by
  intro other hother
  rw [entry?_write h, if_neg hother]

/-- The difference that saving files under some paths may make. -/
structure Saves (paths : List String) (before after : Files) : Prop where
  /-- what is not saved to stays -/
  kept : ∀ place, (∀ path ∈ paths, place ≠ Path.place path) →
    ∀ entry, before.entry? place = some entry → after.entry? place = some entry
  /-- what is new and not saved to is a directory around a path -/
  made : ∀ place, (∀ path ∈ paths, place ≠ Path.place path) → before.entry? place = none →
    ∀ entry, after.entry? place = some entry → entry = .directory ∧
      ∃ path ∈ paths, ∃ directory, Path.Around path directory ∧ place = Path.place directory
  /-- a directory stays one, saved to or not -/
  directories : ∀ place,
    before.entry? place = some .directory → after.entry? place = some .directory

namespace Saves

variable {paths : List String} {before middle after : Files}

theorem refl (paths : List String) (files : Files) : Saves paths files files where
  kept _ _ _ h := h
  made place _ hnone entry hsome := by
    rw [hnone] at hsome
    cases hsome
  directories _ h := h

theorem trans (h : Saves paths before middle) (h' : Saves paths middle after) :
    Saves paths before after where
  kept place hplace entry hentry := h'.kept place hplace entry (h.kept place hplace entry hentry)
  made place hplace hnone entry hafter := by
    -- who made it is told by what is there in between
    cases hmiddle : middle.entry? place with
    | none => exact h'.made place hplace hmiddle entry hafter
    | some first =>
      have hfirst : some first = some entry :=
        (h'.kept place hplace first hmiddle).symm.trans hafter
      rw [Option.some.inj hfirst] at hmiddle
      exact h.made place hplace hnone entry hmiddle
  directories place hplace := h'.directories place (h.directories place hplace)

instance : IsPreorder Files (Saves paths) where
  refl := refl paths
  trans _ _ _ := trans

/-- What is allowed for some paths is allowed for more of them. -/
theorem mono {more : List String} (h : Saves paths before after)
    (hmore : ∀ path ∈ paths, path ∈ more) : Saves more before after where
  kept place hplace := h.kept place fun path hpath => hplace path (hmore path hpath)
  made place hplace hnone entry hentry := by
    have hother : ∀ path ∈ paths, place ≠ Path.place path :=
      fun path hpath => hplace path (hmore path hpath)
    obtain ⟨hdirectory, path, hpath, haround⟩ := h.made place hother hnone entry hentry
    exact ⟨hdirectory, path, hmore path hpath, haround⟩
  directories := h.directories

theorem of_write {path : String} {content : ByteArray}
    (h : before.write path content = .ok after) (hpath : path ∈ paths) :
    Saves paths before after where
  kept place hplace entry hentry := by
    rw [entry?_write h, if_neg (hplace path hpath)]
    exact hentry
  made place hplace hnone entry hentry := by
    rw [entry?_write h, if_neg (hplace path hpath), hnone] at hentry
    cases hentry
  directories place hplace := by
    rw [entry?_write h, if_neg]
    · exact hplace
    · -- nothing is written over a directory
      rintro rfl
      exact (write_eq_ok h).1 hplace

theorem of_makeDirectory {path directory : String}
    (h : before.makeDirectory directory = .ok after) (hpath : path ∈ paths)
    (haround : Path.Around path directory) : Saves paths before after where
  kept place _ entry hentry := by
    rw [entry?_makeDirectory h, if_neg]
    · exact hentry
    · -- a directory is made only where nothing is
      rintro rfl
      rw [(makeDirectory_eq_ok h).1] at hentry
      cases hentry
  made place _ hnone entry hentry := by
    rw [entry?_makeDirectory h] at hentry
    split at hentry
    · next hplace => exact ⟨(Option.some.inj hentry).symm, path, hpath, directory, haround, hplace⟩
    · rw [hnone] at hentry
      cases hentry
  directories place hplace := by
    rw [entry?_makeDirectory h]
    split
    · rfl
    · exact hplace

end Saves

end Files

end Camouflage
