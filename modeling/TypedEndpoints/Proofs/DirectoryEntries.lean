import TypedEndpoints.Proofs.DirectoryMaking
import TypedEndpoints.Proofs.Utf8Octets
/-!
What the operations do to the entries of a directory that stands. A name is writable if it is not too
long and no directory has it; then a file of that name can be stored, moved to, and removed if it is
there. Any other name is refused, and the tree stays as it was.

* `Touched`: two trees with the same directories that differ in the named entries only;
* `Writable.store`, `Writable.remove`, `Writable.move` and their refusals: one law for each operation.
-/
set_option autoImplicit false
namespace TypedEndpoints.Files

variable {here : Location}

/-! ## Names of entries -/

/-- Names of characters are told apart by their octets. -/
theorem octetsOf_injective {name other : String} (same : octetsOf name = octetsOf other) :
    name = other := by
  have encoded (name : String) : Utf8.encode name = .ok (octetsOf name) := by
    refine (Utf8.encode_ok_iff _ _).mpr ⟨name.toList, ?_, rfl⟩
    rw [octetsOf, Text.ofString, List.flatMap_map]
    rfl
  have texts := Utf8.encode_injective (encoded name) (by rw [same]; exact encoded other)
  have chars := (List.map_inj_right fun _ _ => CodePoint.scalar.inj).mp texts
  exact String.toList_inj.mp chars

theorem Location.child_injective (place : Location) {name other : String}
    (same : place.child name = place.child other) : name = other :=
  octetsOf_injective (List.cons.inj (congrArg Location.names same)).1

/-! ## Changes to files -/

/-- The trees have the same directories, and differ at most in these entries of the directory at the
place. -/
structure Touched (place : Location) (names : List String) (before after : Tree here) : Prop where
  directories : ∀ location,
    after.get? location = some .directory ↔ before.get? location = some .directory
  elsewhere : ∀ location, (∀ name ∈ names, location ≠ place.child name) →
    after.get? location = before.get? location

namespace Touched

variable {place : Location} {names more : List String} {before after last : Tree here}

theorem refl (place : Location) (names : List String) (tree : Tree here) :
    Touched place names tree tree := ⟨fun _ => Iff.rfl, fun _ _ => rfl⟩

theorem trans (first : Touched place names before after) (second : Touched place names after last) :
    Touched place names before last where
  directories location := (second.directories location).trans (first.directories location)
  elsewhere location outside :=
    (second.elsewhere location outside).trans (first.elsewhere location outside)

theorem mono (touched : Touched place names before after) (fewer : names ⊆ more) :
    Touched place more before after where
  directories := touched.directories
  elsewhere location outside :=
    touched.elsewhere location fun name member => outside name (fewer member)

theorem keeps (touched : Touched place names before after) : Tree.KeepsDirectories before after :=
  fun location stood => (touched.directories location).mpr stood

/-- An entry of another name is as it was. -/
theorem other (touched : Touched place names before after) {name : String} (others : name ∉ names) :
    after.get? (place.child name) = before.get? (place.child name) := by
  refine touched.elsewhere _ fun other member same => others ?_
  rw [place.child_injective same]
  exact member

end Touched

section Entries

variable {tree : Tree here} {place : Location} {name : String}

theorem touched_put (content : List UInt8)
    (isFile : tree.get? (place.child name) ≠ some .directory) :
    Touched place [name] tree (tree.put (place.child name) (.file content)) := by
  constructor
  · intro location
    rw [Tree.get?_put _ _ _ _ isFile]
    split
    · next same =>
        subst same
        exact iff_of_false (by simp) isFile
    · rfl
  · intro location outside
    rw [Tree.get?_put _ _ _ _ isFile, if_neg (outside name (by simp))]

theorem touched_erase (isFile : tree.get? (place.child name) ≠ some .directory) :
    Touched place [name] tree (tree.erase (place.child name)) := by
  constructor
  · intro location
    rw [Tree.get?_erase _ _ _ isFile]
    split
    · next same =>
        subst same
        exact iff_of_false (by simp) isFile
    · rfl
  · intro location outside
    rw [Tree.get?_erase _ _ _ isFile, if_neg (outside name (by simp))]

end Entries

/-! ## Names that can be written -/

/-- A file of this name can stand in the directory. -/
structure Writable (tree : Tree here) (directory : Path) (place : Location) (name : String) : Prop where
  fits : Fits directory name
  notDirectory : tree.get? (place.child name) ≠ some .directory

theorem Touched.writable_iff {before after : Tree here} {place : Location} {names : List String}
    (touched : Touched place names before after) (directory : Path) (name : String) :
    Writable after directory place name ↔ Writable before directory place name := by
  constructor
  · rintro ⟨fits, isFile⟩
    exact ⟨fits, fun stands => isFile ((touched.directories _).mpr stands)⟩
  · rintro ⟨fits, isFile⟩
    exact ⟨fits, fun stands => isFile ((touched.directories _).mp stands)⟩

theorem IsDirectory.stands {tree : Tree here} {directory : Path} (found : IsDirectory tree directory) :
    ∃ place, Stands tree directory place := by
  obtain ⟨place, located, isDirectory⟩ := found
  exact ⟨place, ((Tree.locate_eq_ok_iff ..).mp located).2, isDirectory⟩

section Operations

variable {tree : Tree here} {directory : Path} {place : Location} {name : String}

theorem Writable.store (writable : Writable tree directory place name)
    (stands : Stands tree directory place) (content : List UInt8) :
    tree.store (directory.child name) content =
      (.ok (), tree.put (place.child name) (.file content)) := by
  unfold Tree.store
  rw [stands.locate_child writable.fits]
  cases found : tree.get? (place.child name) with
  | none => simp [found]
  | some entry =>
      cases entry with
      | directory => exact (writable.notDirectory found).elim
      | file old => simp [found]

/-- Where a name cannot be written, a directory has it or it is too long. -/
theorem refused_cases (refused : ¬ Writable tree directory place name) :
    ¬ Fits directory name ∨
      Fits directory name ∧ tree.get? (place.child name) = some .directory := by
  by_cases fits : Fits directory name
  · exact .inr ⟨fits, Decidable.not_not.mp fun isFile => refused ⟨fits, isFile⟩⟩
  · exact .inl fits

theorem Stands.store_refused (stands : Stands tree directory place)
    (refused : ¬ Writable tree directory place name) (content : List UInt8) :
    ∃ fault, tree.store (directory.child name) content = (.error fault, tree) := by
  unfold Tree.store
  obtain long | ⟨fits, isDirectory⟩ := refused_cases refused
  · rw [stands.locate_child_error long]
    exact ⟨_, rfl⟩
  · rw [stands.locate_child fits]
    simp only [isDirectory]
    exact ⟨_, rfl⟩

/-- Removing a name that can be written fails only if there is no such file; none is there after. -/
theorem Writable.remove (writable : Writable tree directory place name)
    (stands : Stands tree directory place) :
    ∃ result after, tree.remove (directory.child name) = (result, after) ∧
      (∀ fault, result = .error fault → fault.cause = .noEntry) ∧
      Touched place [name] tree after ∧ after.get? (place.child name) = none := by
  unfold Tree.remove
  rw [stands.locate_child writable.fits]
  cases found : tree.get? (place.child name) with
  | none =>
      refine ⟨.error ⟨.noEntry, directory.child name⟩, tree, by simp [found], ?_, .refl _ _ _, found⟩
      intro fault same
      cases same
      rfl
  | some entry =>
      cases entry with
      | directory => exact (writable.notDirectory found).elim
      | file content =>
          refine ⟨.ok (), tree.erase (place.child name), by simp [found], fun _ same => (nomatch same),
            touched_erase writable.notDirectory, ?_⟩
          rw [Tree.get?_erase _ _ _ writable.notDirectory, if_pos rfl]

theorem Stands.remove_refused (stands : Stands tree directory place)
    (refused : ¬ Writable tree directory place name) :
    ∃ fault, tree.remove (directory.child name) = (.error fault, tree) ∧ fault.cause ≠ .noEntry := by
  unfold Tree.remove
  obtain long | ⟨fits, isDirectory⟩ := refused_cases refused
  · rw [stands.locate_child_error long]
    exact ⟨_, rfl, by simp⟩
  · rw [stands.locate_child fits]
    simp only [isDirectory]
    exact ⟨_, rfl, by simp⟩

/-- A file moved to another name that can be written. -/
theorem Writable.move {target : String} {content : List UInt8}
    (writable : Writable tree directory place target) (stands : Stands tree directory place)
    (fits : Fits directory name) (isFile : tree.get? (place.child name) = some (.file content))
    (distinct : name ≠ target) :
    ∃ after, tree.move (directory.child name) (directory.child target) = (.ok (), after) ∧
      Touched place [name, target] tree after ∧ after.get? (place.child name) = none ∧
      after.get? (place.child target) = some (.file content) := by
  have apart : place.child target ≠ place.child name :=
    fun same => distinct (place.child_injective same).symm
  have source : tree.get? (place.child name) ≠ some .directory := by
    rw [isFile]
    simp
  have erased : Touched place [name] tree (tree.erase (place.child name)) := touched_erase source
  have free : (tree.erase (place.child name)).get? (place.child target) ≠ some .directory := by
    rw [erased.other (by simpa using distinct.symm)]
    exact writable.notDirectory
  have stored : Touched place [target] (tree.erase (place.child name))
      ((tree.erase (place.child name)).put (place.child target) (.file content)) :=
    touched_put content free
  refine ⟨_, ?_, (erased.mono (by simp)).trans (stored.mono (by simp)), ?_, ?_⟩
  · unfold Tree.move
    simp only [stands.locate_child fits, isFile, stands.locate_child writable.fits]
    cases found : tree.get? (place.child target) with
    | none => rfl
    | some entry =>
        cases entry with
        | directory => exact (writable.notDirectory found).elim
        | file old => rfl
  · rw [Tree.get?_put _ _ _ _ free, if_neg apart.symm, Tree.get?_erase _ _ _ source, if_pos rfl]
  · rw [Tree.get?_put _ _ _ _ free, if_pos rfl]

/-- A name that fits is a directory's exactly if the system says so. -/
theorem Writable.iff_stat (stands : Stands tree directory place) (fits : Fits directory name) :
    Writable tree directory place name ↔ tree.stat (directory.child name) ≠ some .directory := by
  rw [Ne, stat_eq_directory_iff]
  unfold IsDirectory
  rw [stands.locate_child fits]
  simp only [Except.ok.injEq, exists_eq_left']
  exact ⟨fun writable => writable.notDirectory, fun isFile => ⟨fits, isFile⟩⟩

end Operations
end TypedEndpoints.Files
