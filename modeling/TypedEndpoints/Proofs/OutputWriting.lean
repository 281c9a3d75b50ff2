import TypedEndpoints.Proofs.OutputStages
/-!
Writing is all or nothing. Either all three files hold their texts and no temporary is left, or no file
of the tree has changed but for temporaries, which may be gone. The only new directories are on the way to
the directory that was written to.

The removal at the end can itself fail. That does not undo the law: of the temporaries that were begun
only the last can be refused, and what was stored in the others is removed before.

* `Installed`, `Spared`, `OnlyOnTheWay`: what is said of the trees before and after;
* `Makes`, `unmade_or_makes`: whether a run comes to write files at all;
* `write_cases`: how a run of the writer can end;
* `write_all_or_nothing`: the whole law.
-/
set_option autoImplicit false
namespace TypedEndpoints

open Files

variable {here : Location}

/-! ## What is said of the trees -/

/-- The content of the file at a location, if a file stands there. -/
def Files.Tree.content? (tree : Tree here) (location : Location) : Option (List UInt8) :=
  match tree.get? location with
  | some (.file content) => some content
  | _ => none

/-- The file at the path holds exactly the octets of the text. -/
def Files.Tree.Holds (tree : Tree here) (path : Path) (text : Text) : Prop :=
  ∃ octets, Utf8.encode text = .ok octets ∧ tree.read path = .ok octets

/-- Nothing stands where the path leads. -/
def Files.Tree.Vacant (tree : Tree here) (path : Path) : Prop :=
  ∃ location, tree.locate path = .ok location ∧ tree.get? location = none

def targetNames : List String := ["types.ts", "server.ts", "client.ts"]

def temporaryNames : List String := [".types.ts.tmp", ".server.ts.tmp", ".client.ts.tmp"]

/-- The three files hold the texts of the bundle, the temporaries are gone, and every other file is as it
was. -/
structure Installed (bundle : Source.Bundle) (directory : Path) (before after : Tree here) : Prop where
  types : after.Holds (directory.child "types.ts") bundle.types
  server : after.Holds (directory.child "server.ts") bundle.server
  client : after.Holds (directory.child "client.ts") bundle.client
  cleared : ∀ name ∈ temporaryNames, after.Vacant (directory.child name)
  others : ∀ location, (∀ name ∈ targetNames ++ temporaryNames,
      after.locate (directory.child name) ≠ .ok location) →
    after.content? location = before.content? location

/-- Every file is as it was, but for temporaries that are gone; the three files are as they were, if they
were there. -/
structure Spared (directory : Path) (before after : Tree here) : Prop where
  files : ∀ location, after.content? location = before.content? location ∨
    (after.get? location = none ∧
      ∃ name ∈ temporaryNames, after.locate (directory.child name) = .ok location)
  targets : ∀ name ∈ targetNames, ∀ location, after.locate (directory.child name) = .ok location →
    after.content? location = before.content? location

/-- No directory is gone, and a new one stands where nothing stood and a prefix of the path leads. The
steps of a path come last first. -/
structure OnlyOnTheWay (path : Path) (before after : Tree here) : Prop where
  kept : Tree.KeepsDirectories before after
  made : ∀ location, after.get? location = some .directory →
    before.get? location = some .directory ∨
      (before.get? location = none ∧
        ∃ steps, steps <:+ path.steps ∧ after.locate ⟨path.anchor, steps⟩ = .ok location)

/-! ## The directory is made -/

section Made

variable {directory : Path} {before made after last : Tree here}

theorem content?_congr {location : Location} (same : after.get? location = before.get? location) :
    after.content? location = before.content? location := by
  unfold Tree.content?
  rw [same]

theorem Files.MadeOnTheWay.content? (made : MadeOnTheWay directory before after)
    (location : Location) : after.content? location = before.content? location := by
  rcases made location with same | ⟨absent, stands, -⟩
  · exact content?_congr same
  · simp [Tree.content?, absent, stands]

/-- What touches files only makes no directory. -/
theorem Files.MadeOnTheWay.onlyOnTheWay {place : Location} {names : List String}
    (made : MadeOnTheWay directory before after) (touched : Touched place names after last) :
    OnlyOnTheWay directory before last := by
  refine ⟨made.keeps.trans touched.keeps, fun location stands => ?_⟩
  rcases made location with same | ⟨absent, -, steps, suffix, located⟩
  · left
    rw [← same]
    exact (touched.directories location).mp stands
  · exact .inr ⟨absent, steps, suffix, Tree.locate_of_keeps touched.keeps located⟩

theorem Spared.of_made (made : MadeOnTheWay directory before after) : Spared directory before after :=
  ⟨fun location => .inl (made.content? location), fun _ _ location _ => made.content? location⟩

/-- Making the directory succeeds, and leaves this tree. A path that the system cannot be asked for is
refused. -/
structure Makes (directory : Path) (before made : Tree here) : Prop where
  proper : directory.flaw? = none
  ran : (makeDirectories directory : StateM (Tree here) _) before = (.ok (), made)

theorem Makes.onTheWay (makes : Makes directory before made) : MadeOnTheWay directory before made := by
  obtain ⟨result, after, ran, onTheWay, -⟩ := makeDirectories_spec directory before
  cases ran.symm.trans makes.ran
  exact onTheWay

theorem Makes.isDirectory (makes : Makes directory before made) : IsDirectory made directory := by
  obtain ⟨result, after, ran, -, stands⟩ := makeDirectories_spec directory before
  cases ran.symm.trans makes.ran
  exact stands rfl

end Made

/-! ## The files are written -/

theorem temporariesOf_files (bundle : Source.Bundle) :
    temporariesOf bundle.files = temporaryNames := by
  show targetNames.map temporaryName = temporaryNames
  decide

/-- No target has the name of a temporary. -/
theorem temporaryNames_apart : ∀ name ∈ temporaryNames, name ∉ targetNames := by decide

theorem separate_files (bundle : Source.Bundle) : Separate bundle.files where
  distinct := by
    show targetNames.Nodup
    decide
  apart := by
    intro file member
    refine temporaryNames_apart _ ?_
    rw [← temporariesOf_files bundle]
    exact List.mem_map.mpr ⟨file, member, rfl⟩

section Written

variable {bundle : Source.Bundle} {directory : Path} {place : Location} {before middle after : Tree here}

/-- What holds of the temporary of each file holds of each temporary. -/
theorem forall_temporaryNames (bundle : Source.Bundle) {holds : String → Prop}
    (each : ∀ file ∈ bundle.files, holds (temporaryName file.1)) :
    ∀ name ∈ temporaryNames, holds name := by
  intro name member
  rw [← temporariesOf_files bundle] at member
  obtain ⟨file, inside, rfl⟩ := List.mem_map.mp member
  exact each file inside

theorem Spared.of_failed {written : Traced WriteError (List Path)}
    (made : MadeOnTheWay directory before middle) (stands : Stands middle directory place)
    (failed : Output.Failed place bundle.files middle written after)
    (gone : ∀ file ∈ bundle.files, after.get? (place.child (temporaryName file.1)) =
        middle.get? (place.child (temporaryName file.1)) ∨
      Fits directory (temporaryName file.1) ∧
        after.get? (place.child (temporaryName file.1)) = none) :
    Spared directory before after := by
  have touched : Touched place temporaryNames middle after := by
    rw [← temporariesOf_files bundle]
    exact failed.touched
  have gone' : ∀ name ∈ temporaryNames, after.get? (place.child name) =
      middle.get? (place.child name) ∨
        Fits directory name ∧ after.get? (place.child name) = none :=
    forall_temporaryNames bundle gone
  have stands' := stands.of_keeps touched.keeps
  constructor
  · intro location
    by_cases temporary : ∃ name ∈ temporaryNames, location = place.child name
    · obtain ⟨name, member, rfl⟩ := temporary
      rcases gone' name member with same | ⟨fits, none⟩
      · exact .inl ((content?_congr same).trans (made.content? _))
      · exact .inr ⟨none, name, member, stands'.locate_child fits⟩
    · have same := touched.elsewhere location fun name member equal =>
        temporary ⟨name, member, equal⟩
      exact .inl ((content?_congr same).trans (made.content? location))
  · intro name member location located
    obtain ⟨-, rfl⟩ := (stands'.locate_child_eq_ok_iff location).mp located
    have same := touched.other fun temporary => temporaryNames_apart name temporary member
    exact (content?_congr same).trans (made.content? _)

theorem Files.Tree.Holds.of_placed {file : String × Text} (stands : Stands after directory place)
    (placed : Output.Placed directory place after file) :
    after.Holds (directory.child file.1) file.2 := by
  obtain ⟨octets, encoded, there⟩ := placed.full
  have fits := placed.fits.of_le (octetsOf_le_temporaryName file.1)
  exact ⟨octets, encoded, by simp [Tree.read, stands.locate_child fits, there]⟩

theorem Installed.of_done {written : Traced WriteError (List Path)}
    (made : MadeOnTheWay directory before middle) (stands : Stands middle directory place)
    (done : Output.Done directory place bundle.files middle written after) :
    Installed bundle directory before after := by
  have stands' := stands.of_keeps done.touched.keeps
  have temporaries : ∀ name ∈ temporaryNames,
      Fits directory name ∧ after.get? (place.child name) = none :=
    forall_temporaryNames bundle fun file member =>
      ⟨(done.placed file member).fits, (done.placed file member).gone⟩
  have fits : ∀ name ∈ targetNames ++ temporaryNames, Fits directory name := by
    intro name member
    rcases List.mem_append.mp member with target | temporary
    · obtain ⟨file, inside, rfl⟩ :=
        List.mem_map.mp (show name ∈ bundle.files.map (·.1) from target)
      exact (done.placed file inside).fits.of_le (octetsOf_le_temporaryName file.1)
    · exact (temporaries name temporary).1
  have holds := fun file member => Tree.Holds.of_placed stands' (done.placed file member)
  refine ⟨holds ("types.ts", bundle.types) (by simp [Source.Bundle.files]),
    holds ("server.ts", bundle.server) (by simp [Source.Bundle.files]),
    holds ("client.ts", bundle.client) (by simp [Source.Bundle.files]), ?_, ?_⟩
  · intro name member
    obtain ⟨short, none⟩ := temporaries name member
    exact ⟨_, stands'.locate_child short, none⟩
  · intro location others
    refine (content?_congr ?_).trans (made.content? location)
    refine done.touched.elsewhere location fun name member same => ?_
    have member' : name ∈ targetNames ++ temporaryNames := by
      rw [← temporariesOf_files bundle]
      exact List.mem_append.mpr (List.mem_append.mp member).symm
    subst same
    exact others name member' (stands'.locate_child (fits name member'))

end Written

/-- Once the directory is made, the files are installed in it. -/
theorem Makes.write {directory : Path} {before made : Tree here} (makes : Makes directory before made)
    (bundle : Source.Bundle) :
    (bundle.write directory : StateM (Tree here) _) before =
      Output.installAndClear (m := StateM (Tree here)) (bundle.files.map (Output.ofFile directory)) made := by
  unfold Source.Bundle.write
  rw [makes.proper]
  exact bind_run makes.ran

/-- A run ends before any file is written, or it has made the directory. -/
theorem unmade_or_makes (bundle : Source.Bundle) (directory : Path) (before : Tree here) :
    (∃ error after, (bundle.write directory : StateM (Tree here) _) before = (Traced.fail error, after) ∧
        MadeOnTheWay directory before after) ∨
      ∃ made, Makes directory before made := by
  unfold Source.Bundle.write
  cases proper : directory.flaw? with
  | some flaw => exact .inl ⟨_, before, rfl, .refl directory before⟩
  | none =>
    obtain ⟨result, made, ran, onTheWay, -⟩ := makeDirectories_spec directory before
    cases result with
    | error fault => exact .inl ⟨_, made, (bind_run ran).trans rfl, onTheWay⟩
    | ok value => exact .inr ⟨made, proper, ran⟩

/-! ## The law -/

/-- How a run of the writer can end. -/
theorem write_cases (bundle : Source.Bundle) (directory : Path) (before : Tree here) :
    ∃ written after, (bundle.write directory : StateM (Tree here) _) before = (written, after) ∧
      OnlyOnTheWay directory before after ∧
      ((∃ error, written.outcome = .error error) ∧ Spared directory before after ∨
        written.outcome = .ok (targetNames.map directory.child) ∧
          Installed bundle directory before after) := by
  rcases unmade_or_makes bundle directory before with ⟨error, after, refused, made⟩ | ⟨middle, makes⟩
  · exact ⟨_, after, refused, made.onlyOnTheWay (.refl here [] after),
      .inl ⟨⟨error, rfl⟩, .of_made made⟩⟩
  · obtain ⟨place, stands⟩ := makes.isDirectory.stands
    obtain ⟨written, after, run, ended⟩ := Output.installAndClear_spec (separate_files bundle) stands
    refine ⟨written, after, (makes.write bundle).trans run, ?_⟩
    rcases ended with ⟨failed, -, gone⟩ | done
    · exact ⟨makes.onTheWay.onlyOnTheWay failed.touched,
        .inl ⟨failed.failed, .of_failed makes.onTheWay stands failed gone⟩⟩
    · exact ⟨makes.onTheWay.onlyOnTheWay done.touched,
        .inr ⟨done.paths, .of_done makes.onTheWay stands done⟩⟩

/-- **Main result.** Writing is all or nothing: a run that ends well tells the three paths and has
installed the bundle; one that fails has spared every file. Either way only directories on the way are
new. -/
theorem write_all_or_nothing (bundle : Source.Bundle) (directory : Path) (before : Tree here) :
    ∃ written after, (bundle.write directory : StateM (Tree here) _) before = (written, after) ∧
      OnlyOnTheWay directory before after ∧
      match written.outcome with
      | .ok paths => paths = targetNames.map directory.child ∧ Installed bundle directory before after
      | .error _ => Spared directory before after := by
  obtain ⟨written, after, run, onlyOnTheWay, ended⟩ := write_cases bundle directory before
  refine ⟨written, after, run, onlyOnTheWay, ?_⟩
  rcases ended with ⟨⟨error, failed⟩, spared⟩ | ⟨paths, installed⟩
  · rw [failed]
    exact spared
  · rw [paths]
    exact ⟨rfl, installed⟩

-- Nothing is in the way in an empty tree.
example : ((⟨"a", "b", "c"⟩ : Source.Bundle).write ⟨.root, [.down "out"]⟩ : StateM (Tree .root) _)
    .empty |>.1.outcome.toOption = some (targetNames.map (Path.child ⟨.root, [.down "out"]⟩)) := by
  decide +kernel

end TypedEndpoints
