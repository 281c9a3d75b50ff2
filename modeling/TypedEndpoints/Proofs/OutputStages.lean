import TypedEndpoints.Files.Outputs
import TypedEndpoints.Proofs.DirectoryEntries
/-!
The stages of writing files to a directory that stands: the temporaries are stored, the targets are
checked and replaced, and the temporaries that were begun are removed. For each stage there is one lemma
about a file and, by induction, one about the list.

* `Separate`: no two of the entries that are written have the same name;
* `Ready`: nothing is in the way, which is when all stages end well;
* `Begun`: what storing the temporaries leaves, at whatever point it stops. Of the temporaries that were
  begun only the last can have been refused, so that those which were opened come first;
* `storeTemporaries_spec`, `checkTargets_spec`, `replaceTargets_spec`, `removeTemporaries_spec`: the
  stages;
* `installAndClear_spec`: all of them.
-/
set_option autoImplicit false
namespace TypedEndpoints

open Files

/-! ## The names of the entries -/

/-- The temporaries of the files. -/
def temporariesOf (files : List (String × Text)) : List String :=
  files.map fun file => temporaryName file.1

/-- The temporaries and the targets of the files. -/
def entriesOf (files : List (String × Text)) : List String :=
  temporariesOf files ++ files.map (·.1)

theorem temporaryName_injective {name other : String}
    (same : temporaryName name = temporaryName other) : name = other := by
  have chars := congrArg String.toList same
  simpa [temporaryName, ← String.toList_inj] using chars

theorem temporaryName_mem_iff (name : String) (files : List (String × Text)) :
    temporaryName name ∈ temporariesOf files ↔ name ∈ files.map (·.1) := by
  unfold temporariesOf
  constructor
  · intro member
    obtain ⟨file, inside, same⟩ := List.mem_map.mp member
    exact List.mem_map.mpr ⟨file, inside, temporaryName_injective same⟩
  · intro member
    obtain ⟨file, inside, rfl⟩ := List.mem_map.mp member
    exact List.mem_map.mpr ⟨file, inside, rfl⟩

/-- The name of the temporary is the longer one. -/
theorem octetsOf_le_temporaryName (name : String) :
    (octetsOf name).length ≤ (octetsOf (temporaryName name)).length := by
  simp only [octetsOf, Text.ofString, temporaryName, String.toList_append, List.map_append,
    List.flatMap_append, List.length_append]
  omega

/-- No two files have the same name, and none has that of a temporary. -/
structure Separate (files : List (String × Text)) : Prop where
  distinct : (files.map (·.1)).Nodup
  apart : ∀ file ∈ files, temporaryName file.1 ∉ files.map (·.1)

namespace Separate

variable {file : String × Text} {files : List (String × Text)}

theorem tail (separate : Separate (file :: files)) : Separate files where
  distinct := (List.nodup_cons.mp separate.distinct).2
  apart other member inside :=
    separate.apart other (List.mem_cons_of_mem _ member) (List.mem_cons_of_mem _ inside)

theorem fresh (separate : Separate (file :: files)) : file.1 ∉ files.map (·.1) :=
  (List.nodup_cons.mp separate.distinct).1

theorem temporary_notMem (separate : Separate files) (member : file ∈ files) :
    file.1 ∉ temporariesOf files := by
  intro again
  obtain ⟨other, inside, same⟩ := List.mem_map.mp again
  exact separate.apart other inside (by rw [same]; exact List.mem_map.mpr ⟨file, member, rfl⟩)

/-- The entries of the first file are none of the others'. -/
theorem head_notMem (separate : Separate (file :: files)) :
    temporaryName file.1 ∉ entriesOf files ∧ file.1 ∉ entriesOf files := by
  constructor
  · intro again
    rcases List.mem_append.mp again with temporary | target
    · exact separate.fresh ((temporaryName_mem_iff _ _).mp temporary)
    · exact separate.apart file List.mem_cons_self (List.mem_cons_of_mem _ target)
  · intro again
    rcases List.mem_append.mp again with temporary | target
    · exact separate.temporary_notMem List.mem_cons_self (List.mem_cons_of_mem _ temporary)
    · exact separate.fresh target

/-- Nor are theirs the first file's. -/
theorem tail_notMem (separate : Separate (file :: files)) {other : String × Text}
    (member : other ∈ files) :
    temporaryName other.1 ∉ [temporaryName file.1, file.1] := by
  intro again
  rcases List.mem_cons.mp again with same | same
  · exact separate.fresh (List.mem_map.mpr ⟨other, member, temporaryName_injective same⟩)
  · rw [List.mem_singleton] at same
    exact separate.apart other (List.mem_cons_of_mem _ member)
      (by rw [same]; exact List.mem_cons_self)

end Separate

namespace Output

variable {here : Location} {directory : Path} {place : Location} {tree : Tree here} {file : String × Text}
  {files : List (String × Text)}

/-- Nothing is in the way of the files: their names and those of their temporaries can be written, and
their texts can be encoded. -/
structure Ready (directory : Path) (place : Location) (tree : Tree here) (files : List (String × Text)) :
    Prop where
  temporaries : ∀ file ∈ files, Writable tree directory place (temporaryName file.1)
  targets : ∀ file ∈ files, Writable tree directory place file.1
  texts : ∀ file ∈ files, ∃ octets, Utf8.encode file.2 = .ok octets

namespace Ready

theorem tail (ready : Ready directory place tree (file :: files)) : Ready directory place tree files where
  temporaries other member := ready.temporaries other (List.mem_cons_of_mem _ member)
  targets other member := ready.targets other (List.mem_cons_of_mem _ member)
  texts other member := ready.texts other (List.mem_cons_of_mem _ member)

theorem of_touched {names : List String} {after : Tree here} (ready : Ready directory place tree files)
    (touched : Touched place names tree after) : Ready directory place after files where
  temporaries other member := (touched.writable_iff directory _).mpr (ready.temporaries other member)
  targets other member := (touched.writable_iff directory _).mpr (ready.targets other member)
  texts := ready.texts

end Ready

/-! ## The temporaries are stored -/

/-- The temporary of the file holds its text. -/
def Stored (place : Location) (tree : Tree here) (file : String × Text) : Prop :=
  ∃ octets, Utf8.encode file.2 = .ok octets ∧
    tree.get? (place.child (temporaryName file.1)) = some (.file octets)

theorem Stored.of_touched {names : List String} {after : Tree here} (stored : Stored place tree file)
    (touched : Touched place names tree after) (others : temporaryName file.1 ∉ names) :
    Stored place after file := by
  obtain ⟨octets, encoded, there⟩ := stored
  exact ⟨octets, encoded, by rw [touched.other others, there]⟩

/-- One temporary. If it is refused nothing changes; else it is there, and the step ends well, with the
whole text, exactly if the text can be encoded. -/
theorem storeTemporary_spec (stands : Stands tree directory place) (file : String × Text) :
    ∃ result after,
      ((ofFile directory file).storeTemporary : StateM (Tree here) _) tree = (result, after) ∧
      (¬ Writable tree directory place (temporaryName file.1) ∧ after = tree ∧ result ≠ .ok () ∨
        Writable tree directory place (temporaryName file.1) ∧
          Touched place [temporaryName file.1] tree after ∧
          (result = .ok () → Stored place after file) ∧
          ((∃ octets, Utf8.encode file.2 = .ok octets) → result = .ok ())) := by
  by_cases writable : Writable tree directory place (temporaryName file.1)
  · have opened := writable.store stands []
    have emptied : Touched place [temporaryName file.1] tree
        (tree.put (place.child (temporaryName file.1)) (.file [])) :=
      touched_put [] writable.notDirectory
    cases encoded : Utf8.encode file.2 with
    | error fault =>
        refine ⟨.error (.unencodable fault), _, ?_,
          .inr ⟨writable, emptied, fun same => (nomatch same), fun ⟨_, full⟩ => (nomatch full)⟩⟩
        unfold storeTemporary
        refine (bind_run opened).trans ?_
        simp only [ofFile, encoded]
        rfl
    | ok octets =>
        have writable' := (emptied.writable_iff directory _).mpr writable
        have filled := touched_put octets writable'.notDirectory
        refine ⟨.ok (), _, ?_,
          .inr ⟨writable, emptied.trans filled, fun _ => ⟨octets, encoded, ?_⟩, fun _ => rfl⟩⟩
        · unfold storeTemporary
          refine (bind_run opened).trans ?_
          simp only [ofFile, encoded]
          exact (bind_run (writable'.store (stands.of_keeps emptied.keeps) octets)).trans rfl
        · rw [Tree.get?_put _ _ _ _ writable'.notDirectory, if_pos rfl]
  · obtain ⟨fault, refused⟩ := stands.store_refused writable []
    refine ⟨.error (.fault fault), tree, ?_, .inl ⟨writable, rfl, fun same => (nomatch same)⟩⟩
    unfold storeTemporary
    exact (bind_run refused).trans rfl

/-- What storing the temporaries leaves, at whatever point it stops: the temporaries that were begun are
those which were opened and at most one that was refused, and no other entry was touched. -/
structure Begun (directory : Path) (place : Location) (files opened refused : List (String × Text))
    (before after : Tree here) : Prop where
  started : opened ++ refused <+: files
  writable : ∀ file ∈ opened, Writable before directory place (temporaryName file.1)
  unwritable : ∀ file ∈ refused, ¬ Writable before directory place (temporaryName file.1)
  atMostOne : refused.length ≤ 1
  touched : Touched place (temporariesOf opened) before after

namespace Begun

variable {opened refused : List (String × Text)} {before middle after : Tree here}

/-- The first temporary is refused. -/
theorem refused_first (unwritable : ¬ Writable before directory place (temporaryName file.1)) :
    Begun directory place (file :: files) [] [file] before before where
  started := by simp
  writable := by simp
  unwritable := by simpa
  atMostOne := by simp
  touched := .refl _ _ _

/-- The first temporary is opened, and then the others are begun. -/
theorem cons (writable : Writable before directory place (temporaryName file.1))
    (touched : Touched place [temporaryName file.1] before middle)
    (begun : Begun directory place files opened refused middle after) :
    Begun directory place (file :: files) (file :: opened) refused before after where
  started := List.cons_prefix_cons.mpr ⟨rfl, begun.started⟩
  writable := by
    intro other member
    rcases List.mem_cons.mp member with rfl | member
    · exact writable
    · exact (touched.writable_iff directory _).mp (begun.writable other member)
  unwritable := by
    intro other member
    rw [← touched.writable_iff]
    exact begun.unwritable other member
  atMostOne := begun.atMostOne
  touched := (touched.mono (by simp [temporariesOf])).trans
    (begun.touched.mono (List.subset_cons_self _ _))

/-- No temporary is begun. -/
theorem nil (files : List (String × Text)) (tree : Tree here) :
    Begun directory place files [] [] tree tree where
  started := List.nil_prefix
  writable := by simp
  unwritable := by simp
  atMostOne := by simp
  touched := .refl _ _ _

theorem subset (begun : Begun directory place files opened refused before after) :
    opened ⊆ files :=
  fun _ member => begun.started.subset (List.mem_append_left _ member)

end Begun

theorem storeTemporaries_spec (separate : Separate files) (stands : Stands tree directory place) :
    ∃ opened refused result after,
      (storeTemporaries (files.map (ofFile directory)) : StateM (Tree here) _) tree =
        (((opened ++ refused).map (ofFile directory), result), after) ∧
      Begun directory place files opened refused tree after ∧
      (result = .ok () → opened = files ∧ refused = [] ∧ ∀ file ∈ files, Stored place after file) ∧
      (Ready directory place tree files → result = .ok ()) := by
  induction files generalizing tree with
  | nil =>
      exact ⟨[], [], .ok (), tree, rfl, .nil [] tree, fun _ => ⟨rfl, rfl, by simp⟩, fun _ => rfl⟩
  | cons file files ih =>
      obtain ⟨first, middle, stored, ⟨refused, rfl, failed⟩ | ⟨writable, touched, full, encodable⟩⟩ :=
        storeTemporary_spec stands file
      · cases first with
        | ok value => exact (failed rfl).elim
        | error error =>
            refine ⟨[], [file], .error error, middle, ?_, .refused_first refused,
              fun same => (nomatch same),
              fun ready => absurd (ready.temporaries file List.mem_cons_self) refused⟩
            unfold storeTemporaries
            exact (bind_run stored).trans rfl
      · cases first with
        | error error =>
            refine ⟨[file], [], .error error, middle, ?_, .cons writable touched (.nil files middle),
              fun same => (nomatch same),
              fun ready => nomatch encodable (ready.texts file List.mem_cons_self)⟩
            unfold storeTemporaries
            exact (bind_run stored).trans rfl
        | ok value =>
            obtain ⟨opened, refused, result, after, rest, begun, whole, succeeds⟩ :=
              ih separate.tail (stands.of_keeps touched.keeps)
            refine ⟨file :: opened, refused, result, after, ?_, .cons writable touched begun, ?_,
              fun ready => succeeds (ready.tail.of_touched touched)⟩
            · unfold storeTemporaries
              exact (bind_run stored).trans ((bind_run rest).trans rfl)
            · intro ended
              obtain ⟨rfl, none, others⟩ := whole ended
              -- no later temporary has the name of this one
              have kept : temporaryName file.1 ∉ temporariesOf opened := by
                rw [temporaryName_mem_iff]
                exact separate.fresh
              exact ⟨rfl, none,
                List.forall_mem_cons.mpr ⟨(full rfl).of_touched begun.touched kept, others⟩⟩

/-! ## The temporaries that were begun are removed -/

/-- Temporaries that can be written are gone after, and what follows them goes on from there. -/
theorem removeTemporaries_writable (opened rest : List (String × Text))
    (stands : Stands tree directory place)
    (writable : ∀ file ∈ opened, Writable tree directory place (temporaryName file.1)) :
    ∃ after,
      (removeTemporaries ((opened ++ rest).map (ofFile directory)) : StateM (Tree here) _) tree =
        (removeTemporaries (rest.map (ofFile directory)) : StateM (Tree here) _) after ∧
      Touched place (temporariesOf opened) tree after ∧
      ∀ file ∈ opened, after.get? (place.child (temporaryName file.1)) = none := by
  induction opened generalizing tree with
  | nil => exact ⟨tree, rfl, .refl _ _ _, by simp⟩
  | cons file opened ih =>
      obtain ⟨result, middle, removed, onlyMissing, touched, gone⟩ :=
        (writable file List.mem_cons_self).remove stands
      have writable' : ∀ other ∈ opened, Writable middle directory place (temporaryName other.1) :=
        fun other member => (touched.writable_iff directory _).mpr
          (writable other (List.mem_cons_of_mem _ member))
      obtain ⟨after, others, touched', gone'⟩ := ih (stands.of_keeps touched.keeps) writable'
      refine ⟨after, ?_, (touched.mono (by simp [temporariesOf])).trans
        (touched'.mono (List.subset_cons_self _ _)), ?_⟩
      · refine Eq.trans ?_ others
        refine (bind_run removed).trans ?_
        cases result with
        | ok value => rfl
        | error fault =>
            show (if fault.cause = .noEntry then _ else _ : StateM (Tree here) _) middle = _
            rw [if_pos (onlyMissing fault rfl)]
            rfl
      · intro other member
        rcases List.mem_cons.mp member with rfl | member
        · by_cases again : temporaryName other.1 ∈ temporariesOf opened
          · obtain ⟨same, inside, named⟩ := List.mem_map.mp again
            rw [← named]
            exact gone' same inside
          · rw [touched'.other again, gone]
        · exact gone' other member

/-- At the end every temporary that was opened is gone, whether or not the last one is refused. -/
theorem removeTemporaries_spec (opened refused : List (String × Text))
    (stands : Stands tree directory place)
    (writable : ∀ file ∈ opened, Writable tree directory place (temporaryName file.1))
    (unwritable : ∀ file ∈ refused, ¬ Writable tree directory place (temporaryName file.1)) :
    ∃ result after,
      (removeTemporaries ((opened ++ refused).map (ofFile directory)) : StateM (Tree here) _) tree =
        (result, after) ∧
      Touched place (temporariesOf opened) tree after ∧
      (∀ file ∈ opened, after.get? (place.child (temporaryName file.1)) = none) ∧
      (refused = [] → result = .ok ()) := by
  obtain ⟨after, removed, touched, gone⟩ :=
    removeTemporaries_writable opened refused stands writable
  rw [removed]
  cases refused with
  | nil => exact ⟨.ok (), after, rfl, touched, gone, fun _ => rfl⟩
  | cons file rest =>
      have unwritable' := unwritable file List.mem_cons_self
      rw [← touched.writable_iff] at unwritable'
      obtain ⟨fault, failed, cause⟩ := (stands.of_keeps touched.keeps).remove_refused unwritable'
      refine ⟨.error (.fault fault), after, ?_, touched, gone, fun same => (nomatch same)⟩
      unfold removeTemporaries
      refine (bind_run failed).trans ?_
      show (if fault.cause = .noEntry then _ else _ : StateM (Tree here) _) after = _
      rw [if_neg cause]
      rfl

/-! ## The targets are checked and replaced -/

/-- Checking changes nothing. -/
theorem checkTargets_spec (outputs : List Output) (tree : Tree here) :
    ∃ result, (checkTargets outputs : StateM (Tree here) _) tree = (result, tree) ∧
      (result = .ok () ↔ ∀ output ∈ outputs, tree.stat output.target ≠ some .directory) := by
  induction outputs with
  | nil => exact ⟨.ok (), rfl, by simp⟩
  | cons output outputs ih =>
      by_cases isDirectory : tree.stat output.target = some .directory
      · refine ⟨.error (.fault ⟨.outputIsDirectory, output.target⟩), ?_,
          iff_of_false (fun same => (nomatch same)) fun none =>
            none output List.mem_cons_self isDirectory⟩
        show (if tree.stat output.target = some .directory then _ else _ : StateM (Tree here) _) tree = _
        rw [if_pos isDirectory]
        rfl
      · obtain ⟨result, checked, none⟩ := ih
        refine ⟨result, ?_, by rw [List.forall_mem_cons, none, and_iff_right isDirectory]⟩
        show (if tree.stat output.target = some .directory then _ else _ : StateM (Tree here) _) tree = _
        rw [if_neg isDirectory]
        exact checked

/-- The file holds its text at its target, and its temporary is gone. -/
structure Placed (directory : Path) (place : Location) (tree : Tree here) (file : String × Text) :
    Prop where
  fits : Fits directory (temporaryName file.1)
  gone : tree.get? (place.child (temporaryName file.1)) = none
  full : ∃ octets, Utf8.encode file.2 = .ok octets ∧
    tree.get? (place.child file.1) = some (.file octets)

theorem Placed.of_touched {names : List String} {after : Tree here}
    (placed : Placed directory place tree file) (touched : Touched place names tree after)
    (temporary : temporaryName file.1 ∉ names) (target : file.1 ∉ names) :
    Placed directory place after file := by
  obtain ⟨octets, encoded, there⟩ := placed.full
  exact ⟨placed.fits, by rw [touched.other temporary, placed.gone], octets, encoded,
    by rw [touched.other target, there]⟩

theorem replaceTarget_spec (stands : Stands tree directory place)
    (fits : Fits directory (temporaryName file.1))
    (writable : Writable tree directory place file.1) (stored : Stored place tree file)
    (apart : temporaryName file.1 ≠ file.1) :
    ∃ after,
      (FileAccess.move (ofFile directory file).temporary (ofFile directory file).target :
        StateM (Tree here) (Except Fault Unit)) tree = (.ok (), after) ∧
      Touched place [temporaryName file.1, file.1] tree after ∧
      Placed directory place after file := by
  obtain ⟨octets, encoded, there⟩ := stored
  obtain ⟨after, moved, touched, gone, filled⟩ := writable.move stands fits there apart
  exact ⟨after, moved, touched, fits, gone, octets, encoded, filled⟩

/-- Where all temporaries are stored and no target is refused, no replacement fails. -/
theorem replaceTargets_spec (separate : Separate files) (stands : Stands tree directory place)
    (fits : ∀ file ∈ files, Fits directory (temporaryName file.1))
    (writable : ∀ file ∈ files, Writable tree directory place file.1)
    (stored : ∀ file ∈ files, Stored place tree file) :
    ∃ after,
      (replaceTargets (files.map (ofFile directory)) : StateM (Tree here) _) tree =
        (⟨files.map fun file => (ofFile directory file).record,
          .ok (files.map fun file => directory.child file.1)⟩, after) ∧
      Touched place (entriesOf files) tree after ∧
      ∀ file ∈ files, Placed directory place after file := by
  induction files generalizing tree with
  | nil => exact ⟨tree, rfl, .refl _ _ _, by simp⟩
  | cons file files ih =>
      rw [List.forall_mem_cons] at fits writable stored
      have own : temporaryName file.1 ≠ file.1 := fun same =>
        separate.apart file List.mem_cons_self (by rw [same]; exact List.mem_cons_self)
      obtain ⟨middle, moved, touched, placed⟩ :=
        replaceTarget_spec stands fits.1 writable.1 stored.1 own
      obtain ⟨after, replaced, touched', others⟩ := ih separate.tail (stands.of_keeps touched.keeps)
        fits.2
        (fun other member => (touched.writable_iff directory _).mpr (writable.2 other member))
        (fun other member =>
          (stored.2 other member).of_touched touched (separate.tail_notMem member))
      refine ⟨after, ?_, ?_, List.forall_mem_cons.mpr ⟨?_, others⟩⟩
      · refine (bind_run moved).trans ((bind_run replaced).trans ?_)
        simp only [Traced.report, Traced.bind_ok, Traced.pure_def, List.append_nil]
        rfl
      · refine (touched.mono ?_).trans (touched'.mono ?_)
        · simp [entriesOf, temporariesOf]
        · exact List.append_subset.mpr
            ⟨fun _ inside => List.mem_append_left _ (List.mem_cons_of_mem _ inside),
              fun _ inside => List.mem_append_right _ (List.mem_cons_of_mem _ inside)⟩
      · exact placed.of_touched touched' separate.head_notMem.1 separate.head_notMem.2

/-! ## All stages -/

/-- What installing leaves if it fails: of the entries only opened temporaries were touched. -/
structure Failed (place : Location) (opened : List (String × Text)) (before : Tree here)
    (result : Traced WriteError (List Path)) (after : Tree here) : Prop where
  failed : ∃ error, result.outcome = .error error
  touched : Touched place (temporariesOf opened) before after

/-- What installing leaves if it does not fail. -/
structure Done (directory : Path) (place : Location) (files : List (String × Text)) (before : Tree here)
    (result : Traced WriteError (List Path)) (after : Tree here) : Prop where
  paths : result.outcome = .ok (files.map fun file => directory.child file.1)
  touched : Touched place (entriesOf files) before after
  placed : ∀ file ∈ files, Placed directory place after file

/-- Where every file is placed, nothing was in the way. -/
theorem Done.ready {result : Traced WriteError (List Path)} {before after : Tree here}
    (done : Done directory place files before result after) : Ready directory place before files := by
  have writable : ∀ name, Fits directory name → after.get? (place.child name) ≠ some .directory →
      Writable before directory place name :=
    fun name fits isFile => (done.touched.writable_iff directory name).mp ⟨fits, isFile⟩
  constructor
  · intro file member
    have placed := done.placed file member
    exact writable _ placed.fits (by rw [placed.gone]; simp)
  · intro file member
    have placed := done.placed file member
    obtain ⟨octets, -, there⟩ := placed.full
    exact writable _ (placed.fits.of_le (octetsOf_le_temporaryName file.1)) (by rw [there]; simp)
  · intro file member
    obtain ⟨octets, encoded, -⟩ := (done.placed file member).full
    exact ⟨octets, encoded⟩

/-- From stored temporaries on, only a target that cannot be written can end the run. -/
theorem checkAndReplace_spec (separate : Separate files) (stands : Stands tree directory place)
    (fits : ∀ file ∈ files, Fits directory (temporaryName file.1))
    (stored : ∀ file ∈ files, Stored place tree file) :
    ∃ result after,
      (checkAndReplace (files.map (ofFile directory)) : StateM (Tree here) _) tree = (result, after) ∧
      ((∃ error, result.outcome = .error error) ∧ after = tree ∧
          (¬ ∀ file ∈ files, Writable tree directory place file.1) ∨
        Done directory place files tree result after) := by
  obtain ⟨checked, asked, free⟩ := checkTargets_spec (files.map (ofFile directory)) tree
  have writable_iff : checked = .ok () ↔ ∀ file ∈ files, Writable tree directory place file.1 := by
    rw [free, List.forall_mem_map]
    refine forall₂_congr fun file member => ?_
    have short := (fits file member).of_le (octetsOf_le_temporaryName file.1)
    exact (Writable.iff_stat stands short).symm
  cases checked with
  | error error =>
      exact ⟨_, tree, (bind_run asked).trans rfl,
        .inl ⟨⟨error, rfl⟩, rfl, fun writable => nomatch writable_iff.mpr writable⟩⟩
  | ok value =>
      obtain ⟨after, replaced, touched, placed⟩ :=
        replaceTargets_spec separate stands fits (writable_iff.mp rfl) stored
      exact ⟨_, after, (bind_run asked).trans replaced, .inr ⟨rfl, touched, placed⟩⟩

/-- How installing can end: something is in the way and only temporaries were touched, or every file is
placed. -/
theorem install_spec (separate : Separate files) (stands : Stands tree directory place) :
    ∃ opened refused result after,
      (install (files.map (ofFile directory)) : StateM (Tree here) _) tree =
        (((opened ++ refused).map (ofFile directory), result), after) ∧
      opened ⊆ files ∧
      (∀ file ∈ opened, Writable tree directory place (temporaryName file.1)) ∧
      (∀ file ∈ refused, ¬ Writable tree directory place (temporaryName file.1)) ∧
      (Failed place opened tree result after ∧ ¬ Ready directory place tree files ∨
        opened = files ∧ refused = [] ∧ Done directory place files tree result after) := by
  obtain ⟨opened, refused, stored, middle, ran, begun, whole, succeeds⟩ :=
    storeTemporaries_spec separate stands
  cases stored with
  | error error =>
      refine ⟨opened, refused, Traced.fail error, middle, ?_, begun.subset, begun.writable,
        begun.unwritable, .inl ⟨⟨⟨error, rfl⟩, begun.touched⟩, fun ready => nomatch succeeds ready⟩⟩
      unfold install
      exact (bind_run ran).trans rfl
  | ok value =>
      obtain ⟨rfl, rfl, full⟩ := whole rfl
      obtain ⟨result, after, replaced, ended⟩ :=
        checkAndReplace_spec separate (stands.of_keeps begun.touched.keeps)
          (fun file member => (begun.writable file member).fits) full
      refine ⟨opened, [], result, after, ?_, begun.subset, begun.writable, begun.unwritable, ?_⟩
      · unfold install
        exact (bind_run ran).trans ((bind_run replaced).trans rfl)
      · rcases ended with ⟨failed, rfl, unwritable⟩ | done
        · exact .inl ⟨⟨failed, begun.touched⟩, fun ready =>
            unwritable (ready.of_touched begun.touched).targets⟩
        · refine .inr ⟨rfl, rfl, done.paths, ?_, done.placed⟩
          exact (begun.touched.mono (List.subset_append_left _ _)).trans done.touched

/-- The removal at the end can only turn an end into an error. -/
theorem installAndClear_run {outputs begun : List Output} {result : Traced WriteError (List Path)}
    {cleared : Except WriteError Unit} {before middle after : Tree here}
    (installed : (install outputs : StateM (Tree here) _) before = ((begun, result), middle))
    (removed : (removeTemporaries begun : StateM (Tree here) _) middle = (cleared, after)) :
    ∃ written, (installAndClear outputs : StateM (Tree here) _) before = (written, after) ∧
      (cleared = .ok () ∧ written = result ∨
        ∃ failure, cleared = .error failure ∧ written.outcome = .error failure) := by
  unfold installAndClear
  cases cleared with
  | ok value =>
      exact ⟨result, (bind_run installed).trans ((bind_run removed).trans rfl), .inl ⟨rfl, rfl⟩⟩
  | error failure =>
      exact ⟨⟨result.log, .error failure⟩,
        (bind_run installed).trans ((bind_run removed).trans rfl), .inr ⟨failure, rfl, rfl⟩⟩

/-- What is left in the end. If the run fails, something was in the way, and a temporary is as it was or
gone; else every file is placed. -/
theorem installAndClear_spec (separate : Separate files) (stands : Stands tree directory place) :
    ∃ written after,
      (installAndClear (files.map (ofFile directory)) : StateM (Tree here) _) tree = (written, after) ∧
      (Failed place files tree written after ∧ ¬ Ready directory place tree files ∧
          (∀ file ∈ files, after.get? (place.child (temporaryName file.1)) =
              tree.get? (place.child (temporaryName file.1)) ∨
            Fits directory (temporaryName file.1) ∧
              after.get? (place.child (temporaryName file.1)) = none) ∨
        Done directory place files tree written after) := by
  obtain ⟨opened, refused, result, middle, installed, inside, writable, unwritable, ended⟩ :=
    install_spec separate stands
  have fewer : temporariesOf opened ⊆ temporariesOf files := List.map_subset _ inside
  have touched : Touched place (entriesOf files) tree middle := by
    rcases ended with ⟨failed, -⟩ | ⟨-, -, done⟩
    · exact failed.touched.mono fun _ member => List.mem_append_left _ (fewer member)
    · exact done.touched
  have writable_iff := touched.writable_iff directory
  obtain ⟨cleared, after, removed, touched', gone, success⟩ :=
    removeTemporaries_spec opened refused (stands.of_keeps touched.keeps)
      (fun file member => (writable_iff _).mpr (writable file member))
      (fun file member => by rw [writable_iff]; exact unwritable file member)
  obtain ⟨written, run, removal⟩ := installAndClear_run installed removed
  refine ⟨written, after, run, ?_⟩
  rcases ended with ⟨failed, unready⟩ | ⟨rfl, rfl, done⟩
  · refine .inl ⟨⟨?_, (failed.touched.mono fewer).trans (touched'.mono fewer)⟩, unready,
      fun file _ => ?_⟩
    · rcases removal with ⟨-, rfl⟩ | ⟨failure, -, failed'⟩
      · exact failed.failed
      · exact ⟨failure, failed'⟩
    · by_cases again : temporaryName file.1 ∈ temporariesOf opened
      · obtain ⟨same, opened, named⟩ := List.mem_map.mp again
        rw [← named]
        exact .inr ⟨(writable same opened).fits, gone same opened⟩
      · exact .inl ((touched'.other again).trans (failed.touched.other again))
  · obtain ⟨-, rfl⟩ : cleared = .ok () ∧ written = result := by
      rcases removal with success' | ⟨failure, failed, -⟩
      · exact success'
      · rw [success rfl] at failed
        cases failed
    refine .inr ⟨done.paths, done.touched.trans (touched'.mono (List.subset_append_left _ _)), ?_⟩
    intro file member
    obtain ⟨octets, encoded, there⟩ := (done.placed file member).full
    exact ⟨(done.placed file member).fits, gone file member, octets, encoded,
      by rw [touched'.other (separate.temporary_notMem member), there]⟩

end Output
end TypedEndpoints
