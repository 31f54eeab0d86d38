/-
Camouflage/Proofs/Command/Effects.lean

What a command does to files.  `expand` and `palette` only read.  `init` asks for
one change, at the config path, and not even for that if something is there and
it is not forced.  `generate` asks for none until the pattern is complete; it
saves the picture first, and if that fails it asks for nothing more.

Each part of a command is followed on a history (`Follows`): its record says what
the part asks for, and its answer says what the next part goes on with.  The
result about a whole command (`execute_effects`) is put together out of these.
-/
import Camouflage.Command.Program
import Camouflage.Proofs.Export.Saved

namespace Camouflage

variable {R : History → History → Prop} [IsPreorder History R] {α β : Type}

/-! ### Steps that leave a record -/

namespace Follows

theorem andThen {x : Program.Step (StateM History) α} {y : Program.Step (StateM Files) α}
    {f : α → Program.Step (StateM History) β} {g : α → Program.Step (StateM Files) β}
    (hx : Follows R x.run y.run) (hf : ∀ a, Follows R (f a).run (g a).run) :
    Follows R (x >>= f).run (y >>= g).run := by
  rw [ExceptT.run_bind, ExceptT.run_bind]
  refine bind hx fun answer => ?_
  cases answer with
  | ok a => exact hf a
  | error failure => exact pure _

theorem lift {x : StateM History α} {y : StateM Files α} (h : Follows R x y) :
    Follows R (liftM x : Program.Step (StateM History) α).run
      (liftM y : Program.Step (StateM Files) α).run :=
  bind h fun a => pure (Except.ok a)

theorem finish (a : α) : Follows R (Pure.pure a : Program.Step (StateM History) α).run
    (Pure.pure a : Program.Step (StateM Files) α).run :=
  pure _

theorem fail (failure : Failure) : Follows R (throw failure : Program.Step (StateM History) α).run
    (throw failure : Program.Step (StateM Files) α).run :=
  pure _

theorem ofOutcome (outcome : Outcome α) :
    Follows R (Program.ofOutcome outcome : Program.Step (StateM History) α).run
      (Program.ofOutcome outcome : Program.Step (StateM Files) α).run := by
  cases outcome with
  | ok a => exact finish a
  | error cause => exact fail _

theorem exporting {x : StateM History (Outcome Unit)} {y : StateM Files (Outcome Unit)}
    (h : Follows R x y) : Follows R (Program.exporting x).run (Program.exporting y).run :=
  andThen (lift h) ofOutcome

end Follows

namespace Program

/-! ### Commands that leave a record -/

theorem loadConfig_follows (path : String) (overrides : Overrides) :
    Follows R (loadConfig path overrides : Step (StateM History) _).run
      (loadConfig path overrides : Step (StateM Files) _).run := by
  -- wherever the values come from, those of the command line replace them and they are validated
  have hfinish (base : Config Float) : Follows R
      (do
        ofOutcome (overrides.apply base).validate
        return overrides.apply base : Step (StateM History) (Config Float)).run
      (do
        ofOutcome (overrides.apply base).validate
        return overrides.apply base : Step (StateM Files) (Config Float)).run :=
    Follows.andThen (Follows.ofOutcome _) fun _ => Follows.finish _
  refine Follows.andThen (Follows.lift (Follows.pathExists path)) fun present => ?_
  cases present with
  | false => exact Follows.andThen (Follows.finish _) hfinish
  | true =>
    refine Follows.andThen (Follows.lift (Follows.readText path)) fun answer => ?_
    cases answer with
    | ok text => exact Follows.andThen (Follows.ofOutcome _) hfinish
    | error cause => exact Follows.andThen (Follows.fail _) hfinish

theorem expand_follows (config : String) (lengthOnly : Bool) (overrides : Overrides) :
    Follows R (expand config lengthOnly overrides : Step (StateM History) _).run
      (expand config lengthOnly overrides : Step (StateM Files) _).run := by
  refine Follows.andThen (loadConfig_follows config overrides) fun c => ?_
  exact Follows.andThen (Follows.ofOutcome _) fun _ => Follows.finish _

theorem palette_follows (config : String) (overrides : Overrides) :
    Follows R (palette config overrides : Step (StateM History) _).run
      (palette config overrides : Step (StateM Files) _).run := by
  refine Follows.andThen (loadConfig_follows config overrides) fun c => ?_
  exact Follows.andThen (Follows.ofOutcome _) fun _ => Follows.finish _

theorem init_follows (config : String) (force : Bool) :
    Follows (History.Extends (Files.SameBut (Path.place config)))
      (init config force : Step (StateM History) _).run
      (init config force : Step (StateM Files) _).run := by
  have hwrite (content : ByteArray) :
      Follows (History.Extends (Files.SameBut (Path.place config)))
        (FileStore.write config content) (FileStore.write config content) :=
    Follows.update fun _ _ h => .of_write h
  refine Follows.andThen (Follows.lift (Follows.pathExists config)) fun present => ?_
  dsimp only
  split
  · exact Follows.fail _
  · refine Follows.andThen (Follows.lift (hwrite _)) fun answer => ?_
    cases answer with
    | ok _ => exact Follows.finish _
    | error cause => exact Follows.fail _

/-! ### The parts of `generate` -/

/-- Where `generate` saves the picture. -/
def picturePath (settings : Settings) (output : Option String) (c : Config Float) : String :=
  output.getD (Path.join settings.outputDirectory ("camo_" ++ toString c.seed.toNat ++ ".png"))

/-- What `generate` does once the picture is saved. -/
def exportEvents {m : Type → Type} [Monad m] [FileStore m] (c : Config Float)
    (pattern : Pattern Float) (generated picture : String) : Option String → Step m String
  | some path => do
    exporting (pattern.saveEvents generated path)
    return unlines [summary c pattern picture]
  | none => return unlines [summary c pattern picture]

/-- What `generate` does once the pattern is made. -/
def exportPattern {m : Type → Type} [Monad m] [FileStore m] (c : Config Float)
    (pattern : Pattern Float) (generated picture : String) (events : Option String) :
    Step m String := do
  exporting (pattern.savePicture c.canvas.width.toNat c.canvas.height.toNat picture)
  exportEvents c pattern generated picture events

theorem generate_eq {m : Type → Type} [Monad m] [FileStore m] (settings : Settings)
    (generated config : String) (output events : Option String) (overrides : Overrides) :
    (generate settings generated config output events overrides : Step m String) = (do
      let c ← loadConfig config overrides
      let pattern ← ofOutcome c.generate
      exportPattern c pattern generated (picturePath settings output c) events) :=
  rfl

theorem exportEvents_follows (c : Config Float) (pattern : Pattern Float)
    (generated picture : String) (events : Option String) :
    Follows (History.Extends (Files.Saves events.toList))
      (exportEvents c pattern generated picture events : Step (StateM History) _).run
      (exportEvents c pattern generated picture events : Step (StateM Files) _).run := by
  cases events with
  | none => exact Follows.finish _
  | some path =>
    have hsave := Follows.saveEvents pattern generated (List.mem_singleton_self path)
    exact Follows.andThen (Follows.exporting hsave) fun _ => Follows.finish _

theorem generate_follows (settings : Settings) (generated config : String)
    (output events : Option String) (overrides : Overrides) :
    Follows History.Remembers
      (generate settings generated config output events overrides : Step (StateM History) _).run
      (generate settings generated config output events overrides : Step (StateM Files) _).run := by
  rw [generate_eq, generate_eq]
  refine Follows.andThen (loadConfig_follows config overrides) fun c => ?_
  refine Follows.andThen (Follows.ofOutcome _) fun pattern => ?_
  have hpicture := Follows.savePicture pattern c.canvas.width.toNat c.canvas.height.toNat
    (List.mem_singleton_self (picturePath settings output c))
  have hevents := exportEvents_follows c pattern generated (picturePath settings output c) events
  refine Follows.andThen (Follows.exporting ?_) fun _ => ?_
  · exact hpicture.mono fun _ _ => History.Extends.remembers
  · exact hevents.mono fun _ _ => History.Extends.remembers

theorem execute_follows (settings : Settings) (generated : String) (line : CommandLine) :
    Follows History.Remembers (execute settings generated line : Step (StateM History) _).run
      (execute settings generated line : Step (StateM Files) _).run := by
  simp only [execute]
  split
  · exact generate_follows ..
  · exact expand_follows ..
  · exact palette_follows ..
  · exact (init_follows ..).mono fun _ _ => History.Extends.remembers

/-! ### Runs, part by part -/

section Parts

variable {σ : Type} {x : Step (StateM σ) α} {f : α → Step (StateM σ) β} {state state' : σ}

theorem run_andThen_ok {a : α} (h : x.run.run state = (.ok a, state')) :
    (x >>= f).run.run state = (f a).run.run state' := by
  rw [ExceptT.run_bind, StateT.run_bind, h]
  rfl

theorem run_andThen_error {failure : Failure} (h : x.run.run state = (.error failure, state')) :
    (x >>= f).run.run state = (.error failure, state') := by
  rw [ExceptT.run_bind, StateT.run_bind, h]
  rfl

theorem run_lift {action : StateM σ α} {a : α} (h : action.run state = (a, state')) :
    (liftM action : Step (StateM σ) α).run.run state = (.ok a, state') := by
  rw [ExceptT.run_liftM, StateT.run_map, h]
  rfl

theorem run_exporting_ok {action : StateM σ (Outcome Unit)}
    (h : action.run state = (.ok (), state')) :
    (exporting action).run.run state = (.ok (), state') := by
  rw [exporting, run_andThen_ok (run_lift h)]
  rfl

theorem run_exporting_error {action : StateM σ (Outcome Unit)} {cause : Fault}
    (h : action.run state = (.error cause, state')) :
    (exporting action).run.run state = (.error (.fault cause), state') := by
  rw [exporting, run_andThen_ok (run_lift h)]
  rfl

end Parts

/-- What is there already stays unless `init` is forced. -/
theorem run_init_present {config : String} {history : History}
    (hpresent : history.now.pathExists config = true) :
    (init config false : Step (StateM History) String).run.run history =
      (.error (.configExists config), history) := by
  have hexists : (FileStore.pathExists config : StateM History Bool).run history =
      (true, history) := by
    rw [← hpresent]
    rfl
  rw [init, run_andThen_ok (run_lift hexists)]
  rfl

/-- What `init` writes is there if it succeeds. -/
theorem run_init_ok {config : String} {force : Bool} {files files' : Files} {text : String}
    (h : (init config force : Step (StateM Files) String).run.run files = (.ok text, files')) :
    files'.entry? (Path.place config) =
      some (.file (String.ofList (Config.toYaml Config.standard)).toUTF8) := by
  have hexists : (FileStore.pathExists config : StateM Files Bool).run files =
      (files.pathExists config, files) := rfl
  rw [init, run_andThen_ok (run_lift hexists)] at h
  dsimp only at h
  split at h
  · cases h
  · cases hwrite : files.write config (String.ofList (Config.toYaml Config.standard)).toUTF8 with
    | error cause =>
      rw [run_andThen_ok (run_lift (Files.run_write_error hwrite))] at h
      cases h
    | ok written =>
      rw [run_andThen_ok (run_lift (Files.run_write_ok hwrite))] at h
      cases h
      rw [Files.entry?_write hwrite, if_pos rfl]

/-! ### Exporting a pattern -/

/-- How the export of a pattern answers, and the record `after` it.  Saving the picture is answered
by `saved` and leaves the record `middle`; whatever is recorded later is about the events. -/
structure Exports (c : Config Float) (pattern : Pattern Float) (generated picture : String)
    (events : Option String) (files : Files) (saved : Outcome Unit) (middle : History)
    (answer : Except Failure String) (after : History) : Prop where
  run_picture : (pattern.savePicture c.canvas.width.toNat c.canvas.height.toNat picture :
    StateM History (Outcome Unit)).run ⟨files, []⟩ = (saved, middle)
  picture_first : History.Extends (Files.Saves [picture]) ⟨files, []⟩ middle
  picture_saved : saved = .ok () → middle.now.entry? (Path.place picture) =
    some (.file (Png.encode (pattern.rasterize c.canvas.width.toNat c.canvas.height.toNat)))
  /-- without the picture nothing more is asked of the files -/
  stops : ∀ fault, saved = .error fault → answer = .error (.fault fault) ∧ after = middle
  events_next : History.Extends (Files.Saves events.toList) middle after
  events_saved : ∀ text path, answer = .ok text → events = some path →
    after.now.entry? (Path.place path) = some (.file (pattern.toJson generated).text.toUTF8)

theorem entry?_of_exportEvents {c : Config Float} {pattern : Pattern Float}
    {generated picture path text : String} {files files' : Files}
    (h : (exportEvents c pattern generated picture (some path) :
      Step (StateM Files) String).run.run files = (.ok text, files')) :
    files'.entry? (Path.place path) = some (.file (pattern.toJson generated).text.toUTF8) := by
  rw [exportEvents] at h
  rcases hsaved : (pattern.saveEvents generated path : StateM Files (Outcome Unit)).run files with
    ⟨saved, middle⟩
  cases saved with
  | error fault =>
    rw [run_andThen_error (run_exporting_error hsaved)] at h
    cases h
  | ok _ =>
    rw [run_andThen_ok (run_exporting_ok hsaved)] at h
    cases h
    exact entry?_of_saveEvents hsaved

theorem exports_of_run {c : Config Float} {pattern : Pattern Float} {generated picture : String}
    {events : Option String} {files : Files} {answer : Except Failure String} {after : History}
    (hrun : (exportPattern c pattern generated picture events :
      Step (StateM History) String).run.run ⟨files, []⟩ = (answer, after)) :
    ∃ saved middle, Exports c pattern generated picture events files saved middle answer after := by
  have hfollows := Follows.savePicture pattern c.canvas.width.toNat c.canvas.height.toNat
    (List.mem_singleton_self picture)
  have hfirst := hfollows.record ⟨files, []⟩
  have hanswer := hfollows.answer ⟨files, []⟩
  rcases hpicture : (pattern.savePicture c.canvas.width.toNat c.canvas.height.toNat picture :
    StateM History (Outcome Unit)).run ⟨files, []⟩ with ⟨saved, middle⟩
  rw [hpicture] at hfirst hanswer
  refine ⟨saved, middle, ?_⟩
  cases saved with
  | error fault =>
    -- the record ends with the picture
    rw [exportPattern, run_andThen_error (run_exporting_error hpicture)] at hrun
    cases hrun
    exact {
      run_picture := hpicture
      picture_first := hfirst
      picture_saved := nofun
      stops := by
        rintro _ ⟨⟩
        exact ⟨rfl, rfl⟩
      events_next := refl_of _ _
      events_saved := nofun }
  | ok _ =>
    -- the events go on from the record of the picture
    rw [exportPattern, run_andThen_ok (run_exporting_ok hpicture)] at hrun
    have hevents := exportEvents_follows c pattern generated picture events
    have hnext := hevents.record middle
    have hanswer' := hevents.answer middle
    rw [hrun] at hnext hanswer'
    exact {
      run_picture := hpicture
      picture_first := hfirst
      picture_saved := fun _ => entry?_of_savePicture hanswer
      stops := nofun
      events_next := hnext
      events_saved := by
        rintro text path rfl rfl
        exact entry?_of_exportEvents hanswer' }

/-- All in all, an export saves to its two paths. -/
theorem Exports.saves {c : Config Float} {pattern : Pattern Float} {generated picture : String}
    {events : Option String} {files : Files} {saved : Outcome Unit} {middle after : History}
    {answer : Except Failure String}
    (h : Exports c pattern generated picture events files saved middle answer after) :
    History.Extends (Files.Saves (picture :: events.toList)) ⟨files, []⟩ after := by
  have hpicture : History.Extends (Files.Saves (picture :: events.toList)) ⟨files, []⟩ middle :=
    h.picture_first.mono fun _ _ hsaves => hsaves.mono (by simp)
  have hevents : History.Extends (Files.Saves (picture :: events.toList)) middle after :=
    h.events_next.mono fun _ _ hsaves => hsaves.mono fun _ => List.mem_cons_of_mem picture
  exact hpicture.trans hevents

/-! ### Commands -/

theorem run_loadConfig (path : String) (overrides : Overrides) (files : Files) :
    (loadConfig path overrides : Step (StateM History) _).run.run ⟨files, []⟩ =
      (((loadConfig path overrides : Step (StateM Files) _).run.run files).1, ⟨files, []⟩) := by
  have hfollows := loadConfig_follows (R := Eq) path overrides
  have hanswer := hfollows.answer ⟨files, []⟩
  have hrecord := hfollows.record ⟨files, []⟩
  rw [hanswer]
  exact Prod.ext rfl hrecord.symm

/-- `generate` asks for no change before there is a pattern. -/
theorem run_generate (settings : Settings) (generated config : String)
    (output events : Option String) (overrides : Overrides) (files : Files) :
    (generate settings generated config output events overrides :
      Step (StateM History) String).run.run ⟨files, []⟩ =
      match ((loadConfig config overrides : Step (StateM Files) _).run.run files).1 with
      | .error failure => (.error failure, ⟨files, []⟩)
      | .ok c =>
        match c.generate with
        | .error fault => (.error (.fault fault), ⟨files, []⟩)
        | .ok pattern =>
          (exportPattern c pattern generated (picturePath settings output c) events :
            Step (StateM History) String).run.run ⟨files, []⟩ := by
  have hload := run_loadConfig config overrides files
  rw [generate_eq]
  cases hanswer : ((loadConfig config overrides : Step (StateM Files) _).run.run files).1 with
  | error failure =>
    rw [hanswer] at hload
    rw [run_andThen_error hload]
  | ok c =>
    rw [hanswer] at hload
    rw [run_andThen_ok hload]
    dsimp only
    cases c.generate with
    | error fault => rfl
    | ok pattern => rfl

/-- What a command does to files.  With a record it answers as it does without, and the record
shows what has been there after each request for a change, so that a record without moments tells
of a command that asked for none. -/
theorem execute_effects (settings : Settings) (generated : String) (line : CommandLine)
    (files : Files) :
    let run := (execute settings generated line : Step (StateM History) String).run.run ⟨files, []⟩
    (execute settings generated line : Step (StateM Files) String).run.run files =
      (run.1, run.2.now) ∧
    match line.subcommand with
    | .expand _ _ => run.2 = ⟨files, []⟩
    | .palette _ => run.2 = ⟨files, []⟩
    | .init force =>
      History.Extends (Files.SameBut (Path.place line.config)) ⟨files, []⟩ run.2 ∧
      (files.pathExists line.config = true → force = false → run.2 = ⟨files, []⟩) ∧
      ∀ text, run.1 = .ok text → run.2.now.entry? (Path.place line.config) =
        some (.file (String.ofList (Config.toYaml Config.standard)).toUTF8)
    | .generate output events overrides =>
      match ((loadConfig line.config overrides : Step (StateM Files) _).run.run files).1 with
      | .error failure => run = (.error failure, ⟨files, []⟩)
      | .ok c =>
        match c.generate with
        | .error fault => run = (.error (.fault fault), ⟨files, []⟩)
        | .ok pattern =>
          let picture := picturePath settings output c
          History.Extends (Files.Saves (picture :: events.toList)) ⟨files, []⟩ run.2 ∧
          ∃ saved middle,
            Exports c pattern generated picture events files saved middle run.1 run.2 := by
  intro run
  have hanswer : (execute settings generated line : Step (StateM Files) String).run.run files =
    (run.1, run.2.now) := (execute_follows settings generated line).answer ⟨files, []⟩
  refine ⟨hanswer, ?_⟩
  obtain ⟨config, subcommand⟩ := line
  cases subcommand with
  | expand lengthOnly overrides =>
    exact ((expand_follows (R := Eq) config lengthOnly overrides).record ⟨files, []⟩).symm
  | palette overrides =>
    exact ((palette_follows (R := Eq) config overrides).record ⟨files, []⟩).symm
  | init force =>
    refine ⟨(init_follows config force).record ⟨files, []⟩, ?_, ?_⟩
    · rintro hpresent rfl
      have hrun : run = (.error (.configExists config), ⟨files, []⟩) := run_init_present hpresent
      rw [hrun]
    · intro text htext
      rw [htext] at hanswer
      exact run_init_ok hanswer
  | generate output events overrides =>
    have hrun : run = _ := run_generate settings generated config output events overrides files
    dsimp only
    split
    · next failure hload =>
      rw [hload] at hrun
      exact hrun
    · next c hload =>
      rw [hload] at hrun
      split
      · next fault hpattern =>
        simp only [hpattern] at hrun
        exact hrun
      · next pattern hpattern =>
        simp only [hpattern] at hrun
        obtain ⟨saved, middle, hexports⟩ := exports_of_run hrun.symm
        exact ⟨hexports.saves, saved, middle, hexports⟩

end Program

end Camouflage
