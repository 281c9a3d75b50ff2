import TypedEndpoints.Proofs.OutputWriting
/-!
Writing fails exactly when it must, and the last run wins. Once the directory is made, only a directory of
one of the six names, or a text with half of a surrogate pair, is in the way. What a run that ends well
leaves does not depend on earlier runs: no temporary is left, and every file is written anew.

* `Unobstructed`, `Source.Bundle.Encodable`: what a run depends on;
* `writesWell_iff`: when a run ends well;
* `unobstructed_iff_of_down`: on a path without steps up nothing gets in the way by making the directory;
* `get?_writtenTo_writtenTo`: the tree after two runs is that after the second alone;
* `last_write_wins`: the whole law.
-/
set_option autoImplicit false
namespace TypedEndpoints

open Files

variable {here : Location}

/-! ## What a run depends on -/

/-- In the directory at the place no other one has the name of a file that is written, or of its
temporary. -/
def Unobstructed (tree : Tree here) (place : Location) : Prop :=
  ∀ name ∈ targetNames ++ temporaryNames, tree.get? (place.child name) ≠ some .directory

namespace Source.Bundle

/-- No text of the bundle holds half of a surrogate pair. -/
def Encodable (bundle : Source.Bundle) : Prop :=
  ∀ file ∈ bundle.files, ∀ point ∈ file.2, point.isSurrogate = false

/-- A run that writes the bundle from this tree ends well. -/
def WritesWell (bundle : Source.Bundle) (directory : Path) (before : Tree here) : Prop :=
  ∃ paths, ((bundle.write directory : StateM (Tree here) _) before).1.outcome = .ok paths

/-- The tree after a run, however it ends. -/
def writtenTo (bundle : Source.Bundle) (directory : Path) (before : Tree here) : Tree here :=
  ((bundle.write directory : StateM (Tree here) _) before).2

end Source.Bundle

section Runs

variable {bundle next : Source.Bundle} {directory : Path} {place : Location}
  {before made tree after : Tree here}

/-! ## Nothing is in the way -/

/-- The names are the same for all bundles; only the texts differ. -/
theorem ready_files_iff :
    Output.Ready directory place tree bundle.files ↔
      (∀ name ∈ targetNames ++ temporaryNames, Writable tree directory place name) ∧
        bundle.Encodable := by
  constructor
  · intro ready
    refine ⟨?_, fun file member => (Utf8.encode_eq_ok_iff file.2).mp (ready.texts file member)⟩
    refine List.forall_mem_append.mpr ⟨?_, forall_temporaryNames bundle ready.temporaries⟩
    show ∀ name ∈ bundle.files.map (·.1), _
    exact List.forall_mem_map.mpr ready.targets
  · rintro ⟨writable, encodable⟩
    refine ⟨fun file member => writable _ ?_, fun file member => writable _ ?_,
      fun file member => (Utf8.encode_eq_ok_iff file.2).mpr (encodable file member)⟩
    · rw [← temporariesOf_files bundle]
      exact List.mem_append_right _ (List.mem_map.mpr ⟨file, member, rfl⟩)
    · exact List.mem_append_left _ (List.mem_map.mpr ⟨file, member, rfl⟩)

/-! ## One run -/

/-- In a tree where the directory stands, making it changes nothing. -/
theorem Makes.again (makes : Makes directory before made) (kept : Tree.KeepsDirectories made after) :
    Makes directory after after :=
  ⟨makes.proper, makeDirectories_of_isDirectory (makes.isDirectory.of_keeps kept)⟩

/-- A run that ends well has made the directory. -/
theorem Source.Bundle.WritesWell.makes (well : bundle.WritesWell directory before) :
    ∃ made, Makes directory before made := by
  obtain ⟨paths, ended⟩ := well
  rcases unmade_or_makes bundle directory before with ⟨error, after, refused, -⟩ | makes
  · rw [refused] at ended
    cases ended
  · exact makes

/-- How a run ends once the directory is made: every file is placed, or something is in the way. -/
theorem Makes.ends (makes : Makes directory before made) (stands : Stands made directory place)
    (bundle : Source.Bundle) :
    (bundle.WritesWell directory before ∧ ∃ written, Output.Done directory place bundle.files made
        written (bundle.writtenTo directory before)) ∨
      (¬ bundle.WritesWell directory before ∧ ¬ Output.Ready directory place made bundle.files) := by
  obtain ⟨written, after, ran, ended⟩ := Output.installAndClear_spec (separate_files bundle) stands
  have run : (bundle.write directory : StateM (Tree here) _) before = (written, after) :=
    (makes.write bundle).trans ran
  unfold Source.Bundle.WritesWell Source.Bundle.writtenTo
  rw [run]
  rcases ended with ⟨failed, unready, -⟩ | done
  · refine .inr ⟨?_, unready⟩
    rintro ⟨paths, well⟩
    obtain ⟨error, failed⟩ := failed.failed
    cases failed.symm.trans well
  · exact .inl ⟨⟨_, done.paths⟩, written, done⟩

theorem Makes.ready_iff (makes : Makes directory before made) (stands : Stands made directory place) :
    bundle.WritesWell directory before ↔ Output.Ready directory place made bundle.files := by
  rcases makes.ends stands bundle with ⟨well, written, done⟩ | ⟨failed, unready⟩
  · exact iff_of_true well done.ready
  · exact iff_of_false failed unready

theorem Makes.done (makes : Makes directory before made) (stands : Stands made directory place)
    (ready : Output.Ready directory place made bundle.files) :
    ∃ written, Output.Done directory place bundle.files made written
      (bundle.writtenTo directory before) := by
  rcases makes.ends stands bundle with ⟨-, done⟩ | ⟨-, unready⟩
  · exact done
  · exact (unready ready).elim

/-- A run ends well exactly if no directory and no half of a surrogate pair is in the way. -/
theorem writesWell_iff (makes : Makes directory before made) (stands : Stands made directory place)
    (fits : ∀ name ∈ targetNames ++ temporaryNames, Fits directory name) :
    bundle.WritesWell directory before ↔ Unobstructed made place ∧ bundle.Encodable := by
  rw [makes.ready_iff stands, ready_files_iff]
  refine and_congr_left fun _ => ⟨?_, ?_⟩
  · exact fun writable name member => (writable name member).notDirectory
  · exact fun unobstructed name member => ⟨fits name member, unobstructed name member⟩

theorem Source.Bundle.WritesWell.encodable (well : bundle.WritesWell directory before) :
    bundle.Encodable := by
  obtain ⟨made, makes⟩ := well.makes
  obtain ⟨place, stands⟩ := makes.isDirectory.stands
  exact (ready_files_iff.mp ((makes.ready_iff stands).mp well)).2

/-! ## What making the directory puts in the way -/

/-- Each step down adds a name. -/
theorem length_names_of_walk {start : Location} {steps : List Step} (down : .up ∉ steps)
    (walked : tree.walk start steps = .ok place) :
    place.names.length = start.names.length + steps.length := by
  induction steps generalizing place with
  | nil =>
      cases walked
      rfl
  | cons last outer ih =>
      obtain ⟨above, reached, -, stepped⟩ := (Tree.walk_cons_ok_iff ..).mp walked
      cases last with
      | up => exact (down List.mem_cons_self).elim
      | down name =>
          have shorter := ih (List.not_mem_of_not_mem_cons down) reached
          by_cases long : Tree.longestName < (octetsOf name).length
          · cases (if_pos long).symm.trans stepped
          · cases (if_neg long).symm.trans stepped
            simp only [Location.entry, List.length_cons]
            omega

/-- A path without steps up leads no higher than its directory, so nothing new stands in that. -/
theorem unobstructed_iff_of_down (makes : Makes directory before made)
    (stands : Stands made directory place) (down : .up ∉ directory.steps) :
    Unobstructed made place ↔ Unobstructed before place := by
  have same : ∀ name, made.get? (place.child name) = before.get? (place.child name) := by
    intro name
    rcases makes.onTheWay (place.child name) with same | ⟨-, -, steps, suffix, located⟩
    · exact same
    · have walked := ((Tree.locate_eq_ok_iff ..).mp located).2
      have deeper := length_names_of_walk (fun member => down (suffix.subset member)) walked
      have whole := length_names_of_walk down stands.1
      have shorter := suffix.length_le
      simp only [Location.child, Location.entry, List.length_cons] at deeper
      omega
  unfold Unobstructed
  simp only [same]

/-! ## Two runs -/

/-- The trees agree but for the entries that are written. -/
def AgreeElsewhere (place : Location) (files : List (String × Text)) (first second : Tree here) : Prop :=
  ∀ location, (∀ name ∈ entriesOf files, location ≠ place.child name) →
    first.get? location = second.get? location

/-- What stands at the entries that are written does not depend on what stood there. -/
theorem Output.Done.get?_eq {files : List (String × Text)} {first second first' second' : Tree here}
    {written written' : Traced WriteError (List Path)}
    (done : Output.Done directory place files first written first')
    (done' : Output.Done directory place files second written' second')
    (agree : AgreeElsewhere place files first second) (location : Location) :
    first'.get? location = second'.get? location := by
  by_cases inside : ∃ name ∈ entriesOf files, location = place.child name
  · obtain ⟨name, member, rfl⟩ := inside
    rcases List.mem_append.mp member with temporary | target
    · obtain ⟨file, inside, rfl⟩ := List.mem_map.mp temporary
      rw [(done.placed file inside).gone, (done'.placed file inside).gone]
    · obtain ⟨file, inside, rfl⟩ := List.mem_map.mp target
      obtain ⟨octets, encoded, there⟩ := (done.placed file inside).full
      obtain ⟨octets', encoded', there'⟩ := (done'.placed file inside).full
      cases encoded.symm.trans encoded'
      rw [there, there']
  · have outside : ∀ name ∈ entriesOf files, location ≠ place.child name :=
      fun name member same => inside ⟨name, member, same⟩
    rw [done.touched.elsewhere location outside, done'.touched.elsewhere location outside,
      agree location outside]

/-- After a run that ended well, nothing is in the way of another, and the tree is then that after the
other alone. -/
theorem get?_writtenTo_writtenTo (well : bundle.WritesWell directory before)
    (encodable : next.Encodable) :
    next.WritesWell directory (bundle.writtenTo directory before) ∧
      ∀ location, (next.writtenTo directory (bundle.writtenTo directory before)).get? location =
        (next.writtenTo directory before).get? location := by
  obtain ⟨made, makes⟩ := well.makes
  obtain ⟨place, stands⟩ := makes.isDirectory.stands
  have ready := (makes.ready_iff stands).mp well
  obtain ⟨written, done⟩ := makes.done stands ready
  have again := makes.again done.touched.keeps
  have stands' := stands.of_keeps done.touched.keeps
  have readyNext : Output.Ready directory place made next.files :=
    ready_files_iff.mpr ⟨(ready_files_iff.mp ready).1, encodable⟩
  have readyAgain := readyNext.of_touched done.touched
  obtain ⟨alone, doneAlone⟩ := makes.done stands readyNext
  obtain ⟨second, doneSecond⟩ := again.done stands' readyAgain
  refine ⟨(again.ready_iff stands').mpr readyAgain, ?_⟩
  exact doneSecond.get?_eq doneAlone done.touched.elsewhere

end Runs

/-! ## The law -/

/-- **Main result.** Where the directory can be made and its entries have short enough paths, a run ends
well exactly if no directory there has the name of a file or a temporary, and no text holds half of a
surrogate pair. On a path without steps up those are the directories that were there before. After a run
that ended well, each bundle that can be encoded is written well, with the same tree as by that run
alone; writing the same bundle again changes nothing. -/
theorem last_write_wins (bundle : Source.Bundle) (directory : Path) (before : Tree here) :
    (∀ made, Makes directory before made →
      (∀ name ∈ targetNames ++ temporaryNames, Fits directory name) →
      ∃ place, made.locate directory = .ok place ∧
        (bundle.WritesWell directory before ↔ Unobstructed made place ∧ bundle.Encodable) ∧
        (.up ∉ directory.steps → (Unobstructed made place ↔ Unobstructed before place))) ∧
    (bundle.WritesWell directory before → ∀ next : Source.Bundle, next.Encodable →
      next.WritesWell directory (bundle.writtenTo directory before) ∧
      ∀ location, (next.writtenTo directory (bundle.writtenTo directory before)).get? location =
        (next.writtenTo directory before).get? location) ∧
    (bundle.WritesWell directory before →
      ∀ location, (bundle.writtenTo directory (bundle.writtenTo directory before)).get? location =
        (bundle.writtenTo directory before).get? location) := by
  refine ⟨?_, fun well next encodable => get?_writtenTo_writtenTo well encodable,
    fun well => (get?_writtenTo_writtenTo well well.encodable).2⟩
  intro made makes fits
  obtain ⟨place, located, isDirectory⟩ := makes.isDirectory
  have stands : Stands made directory place :=
    ⟨((Tree.locate_eq_ok_iff ..).mp located).2, isDirectory⟩
  exact ⟨place, located, writesWell_iff makes stands fits, unobstructed_iff_of_down makes stands⟩

-- On a path with a step up, a directory made on the way can be in the way.
example : ((⟨"a", "b", "c"⟩ : Source.Bundle).write
    ⟨.root, [.up, .down "types.ts", .down "out"]⟩ : StateM (Tree .root) _) .empty |>.1.outcome.toOption =
      none := by
  decide +kernel

/-! A directory in which an older file, a temporary of a run that was stopped, and a file of another name
are left. -/

def outDirectory : Path := ⟨.workingDirectory, [.down "out"]⟩

def outPlace : Location := Location.root.child "out"

def leftovers : Tree .root where
  entries := [(outPlace, .directory), (outPlace.child "types.ts", .file [1, 2]),
    (outPlace.child ".server.ts.tmp", .file [3]), (outPlace.child "notes.md", .file [4])]

theorem makes_leftovers : Makes outDirectory leftovers leftovers :=
  ⟨by decide +kernel, makeDirectories_of_isDirectory ⟨outPlace, by rfl, by rfl⟩⟩

theorem fits_outDirectory : ∀ name ∈ targetNames ++ temporaryNames, Fits outDirectory name := by
  unfold Fits
  decide +kernel

theorem unobstructed_leftovers : Unobstructed leftovers outPlace := by
  unfold Unobstructed
  decide +kernel

theorem last_write_wins_over_leftovers :
    (⟨"a", "b", "c"⟩ : Source.Bundle).WritesWell outDirectory leftovers ∧
      (⟨"d", "e", "f"⟩ : Source.Bundle).WritesWell outDirectory
        (Source.Bundle.writtenTo ⟨"a", "b", "c"⟩ outDirectory leftovers) ∧
      ∀ location, (Source.Bundle.writtenTo ⟨"d", "e", "f"⟩ outDirectory
          (Source.Bundle.writtenTo ⟨"a", "b", "c"⟩ outDirectory leftovers)).get? location =
        (Source.Bundle.writtenTo ⟨"d", "e", "f"⟩ outDirectory leftovers).get? location := by
  obtain ⟨ends, wins, -⟩ := last_write_wins ⟨"a", "b", "c"⟩ outDirectory leftovers
  obtain ⟨place, located, well_iff, -⟩ := ends leftovers makes_leftovers fits_outDirectory
  cases located.symm.trans (show _ = .ok outPlace by rfl)
  have well := well_iff.mpr ⟨unobstructed_leftovers, by unfold Source.Bundle.Encodable; decide⟩
  exact ⟨well, wins well ⟨"d", "e", "f"⟩ (by unfold Source.Bundle.Encodable; decide)⟩

end TypedEndpoints
