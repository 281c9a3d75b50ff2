import TypedEndpoints.Files.Access
import TypedEndpoints.Proofs.TreeWalking
/-!
Making a directory and what is missing above it. However it ends, nothing goes and no file changes: a
location is as it was, or nothing stood there and a directory on the way of the path does now.

* `MadeOnTheWay`: what making a directory may change;
* `makeDirectoriesFrom_spec`: it changes no more, and if it ends well the directory stands;
* `makeDirectories_of_isDirectory`: a directory that stands is made again without any change.
-/
set_option autoImplicit false
namespace TypedEndpoints.Files

variable {here : Location}

/-- A location is as it was, or nothing stood there and now a directory does that a prefix of the path
leads to. The steps of a path come last first. -/
def MadeOnTheWay (path : Path) (before after : Tree here) : Prop :=
  ∀ location, after.get? location = before.get? location ∨
    (before.get? location = none ∧ after.get? location = some .directory ∧
      ∃ steps, steps <:+ path.steps ∧ after.locate ⟨path.anchor, steps⟩ = .ok location)

namespace MadeOnTheWay

variable {path : Path} {before after last : Tree here}

theorem refl (path : Path) (tree : Tree here) : MadeOnTheWay path tree tree := fun _ => .inl rfl

theorem keeps (made : MadeOnTheWay path before after) : Tree.KeepsDirectories before after := by
  intro location stood
  rcases made location with same | ⟨absent, -, -⟩
  · rw [same, stood]
  · rw [absent] at stood
    cases stood

theorem trans (first : MadeOnTheWay path before after) (second : MadeOnTheWay path after last) :
    MadeOnTheWay path before last := by
  intro location
  rcases second location with same | ⟨absent, stands, way⟩
  · rcases first location with same' | ⟨absent', stands', steps, suffix, located⟩
    · exact .inl (same.trans same')
    · exact .inr ⟨absent', same.trans stands', steps, suffix,
        Tree.locate_of_keeps second.keeps located⟩
  · rcases first location with same' | ⟨-, stands', -⟩
    · exact .inr ⟨same'.symm.trans absent, stands, way⟩
    · rw [stands'] at absent
      cases absent

/-- What is on the way of the directory above is on the way. -/
theorem of_outer {anchor : Anchor} {step : Step} {outer : List Step}
    (made : MadeOnTheWay ⟨anchor, outer⟩ before after) :
    MadeOnTheWay ⟨anchor, step :: outer⟩ before after := by
  intro location
  rcases made location with same | ⟨absent, stands, steps, suffix, located⟩
  · exact .inl same
  · exact .inr ⟨absent, stands, steps, suffix.trans (List.suffix_cons step outer), located⟩

end MadeOnTheWay

/-! ## One directory -/

/-- A directory stands at the end of the path. -/
def IsDirectory (tree : Tree here) (path : Path) : Prop :=
  ∃ place, tree.locate path = .ok place ∧ tree.get? place = some .directory

theorem stat_eq_directory_iff (tree : Tree here) (path : Path) :
    tree.stat path = some .directory ↔ IsDirectory tree path := by
  unfold Tree.stat Tree.find? IsDirectory
  cases located : tree.locate path with
  | error cause => simp
  | ok place =>
      cases found : tree.get? place with
      | none => simp [found]
      | some entry => cases entry <;> simp [found, Entry.kind]

/-- A new directory stands where nothing stood; a refused one changes nothing. -/
theorem makeDirectory_spec (tree : Tree here) (path : Path) :
    (∃ fault, tree.makeDirectory path = (.error fault, tree)) ∨
      ∃ after, tree.makeDirectory path = (.ok (), after) ∧ MadeOnTheWay path tree after ∧
        IsDirectory after path := by
  unfold Tree.makeDirectory
  cases located : tree.locate path with
  | error cause => exact .inl ⟨_, rfl⟩
  | ok place =>
      cases found : tree.get? place with
      | some entry => exact .inl ⟨⟨.alreadyExists, path⟩, by simp [found]⟩
      | none =>
          have free : tree.get? place ≠ some .directory := by simp [found]
          have changed := fun location => Tree.get?_put tree place location .directory free
          have kept : Tree.KeepsDirectories tree (tree.put place .directory) := by
            intro location stood
            rw [changed location]
            split
            · rfl
            · exact stood
          have located' := Tree.locate_of_keeps kept located
          refine .inr ⟨tree.put place .directory, by simp [found], ?_, place, located', ?_⟩
          · intro location
            rw [changed location]
            split
            · next same =>
                subst same
                exact .inr ⟨found, rfl, path.steps, List.suffix_refl _, located'⟩
            · exact .inl rfl
          · rw [changed place, if_pos rfl]

/-- A directory that stands already is found; nothing changes. -/
theorem orStanding_spec (path : Path) (made : Except Fault Unit) (tree : Tree here)
    (new : made = .ok () → IsDirectory tree path) :
    ∃ result, (orStanding path made : StateM (Tree here) _) tree = (result, tree) ∧
      (result = .ok () → IsDirectory tree path) := by
  unfold orStanding
  cases made with
  | ok value => exact ⟨.ok (), rfl, fun _ => new rfl⟩
  | error fault =>
      by_cases missing : fault.cause = .noEntry
      · exact ⟨.error fault, by simp only [missing, if_true]; rfl, fun equal => nomatch equal⟩
      · by_cases standing : tree.stat path = some .directory
        · refine ⟨.ok (), ?_, fun _ => (stat_eq_directory_iff tree path).mp standing⟩
          simp only [missing, if_false]
          show (if tree.stat path = some .directory then _ else _, tree) = _
          rw [if_pos standing]
        · refine ⟨.error fault, ?_, fun equal => nomatch equal⟩
          simp only [missing, if_false]
          show (if tree.stat path = some .directory then _ else _, tree) = _
          rw [if_neg standing]

/-- The second of two steps goes on from what the first one made of the tree. -/
theorem bind_run {α β : Type} {first : StateM (Tree here) α} {next : α → StateM (Tree here) β}
    {before middle : Tree here} {value : α} (ran : first before = (value, middle)) :
    (first >>= next) before = next value middle := by
  show (match first before with | (value, middle) => next value middle) = _
  rw [ran]

/-- Asking for one directory, and taking one that stands already for a new one. -/
theorem makeOrStanding_spec (path : Path) (tree : Tree here) :
    ∃ result after, (do
        let made ← FileAccess.makeDirectory path
        orStanding path made : StateM (Tree here) _) tree = (result, after) ∧
      MadeOnTheWay path tree after ∧ (result = .ok () → IsDirectory after path) := by
  obtain ⟨fault, refused⟩ | ⟨after, made, onTheWay, stands⟩ := makeDirectory_spec tree path
  · obtain ⟨result, same, standing⟩ :=
      orStanding_spec path (.error fault) tree fun equal => nomatch equal
    exact ⟨result, tree, (bind_run refused).trans same, .refl path tree, standing⟩
  · obtain ⟨result, same, standing⟩ := orStanding_spec path (.ok ()) after fun _ => stands
    exact ⟨result, after, (bind_run made).trans same, onTheWay, standing⟩

/-! ## All that are missing -/

/-- However it ends, only directories on the way are new; if it ends well, the directory stands. -/
theorem makeDirectoriesFrom_spec (anchor : Anchor) (steps : List Step) (tree : Tree here) :
    ∃ result after, (makeDirectoriesFrom anchor steps : StateM (Tree here) _) tree = (result, after) ∧
      MadeOnTheWay ⟨anchor, steps⟩ tree after ∧
      (result = .ok () → IsDirectory after ⟨anchor, steps⟩) := by
  induction steps generalizing tree with
  | nil => exact makeOrStanding_spec ⟨anchor, []⟩ tree
  | cons last outer ih =>
      obtain ⟨⟨cause, asked⟩, refused⟩ | ⟨after, made, onTheWay, stands⟩ :=
        makeDirectory_spec tree ⟨anchor, last :: outer⟩
      · by_cases missing : cause = .noEntry
        · subst missing
          -- what is above is made first, and the directory is asked for again
          obtain ⟨made, above, ended, onTheWay, -⟩ := ih tree
          cases made with
          | error fault =>
              refine ⟨.error fault, above, ?_, onTheWay.of_outer, fun equal => nomatch equal⟩
              unfold makeDirectoriesFrom
              rw [bind_run refused]
              exact bind_run ended
          | ok value =>
              obtain ⟨result, after, again, onTheWay', standing⟩ :=
                makeOrStanding_spec ⟨anchor, last :: outer⟩ above
              refine ⟨result, after, ?_, onTheWay.of_outer.trans onTheWay', standing⟩
              unfold makeDirectoriesFrom
              rw [bind_run refused]
              exact (bind_run ended).trans again
        · obtain ⟨result, same, standing⟩ := orStanding_spec ⟨anchor, last :: outer⟩
            (.error ⟨cause, asked⟩) tree fun equal => nomatch equal
          refine ⟨result, tree, ?_, .refl _ tree, standing⟩
          unfold makeDirectoriesFrom
          rw [bind_run refused]
          cases cause <;> first | exact (missing rfl).elim | exact same
      · obtain ⟨result, same, standing⟩ :=
          orStanding_spec ⟨anchor, last :: outer⟩ (.ok ()) after fun _ => stands
        refine ⟨result, after, ?_, onTheWay, standing⟩
        unfold makeDirectoriesFrom
        rw [bind_run made]
        exact same

theorem makeDirectories_spec (path : Path) (tree : Tree here) :
    ∃ result after, (makeDirectories path : StateM (Tree here) _) tree = (result, after) ∧
      MadeOnTheWay path tree after ∧ (result = .ok () → IsDirectory after path) :=
  makeDirectoriesFrom_spec path.anchor path.steps tree

/-! ## None is missing -/

theorem IsDirectory.of_keeps {before after : Tree here} {path : Path} (found : IsDirectory before path)
    (kept : Tree.KeepsDirectories before after) : IsDirectory after path := by
  obtain ⟨place, located, stood⟩ := found
  exact ⟨place, Tree.locate_of_keeps kept located, kept place stood⟩

/-- A directory that stands is made again, and nothing changes. -/
theorem makeDirectories_of_isDirectory {tree : Tree here} {path : Path} (stands : IsDirectory tree path) :
    (makeDirectories path : StateM (Tree here) _) tree = (.ok (), tree) := by
  have refused : tree.makeDirectory path = (.error ⟨.alreadyExists, path⟩, tree) := by
    obtain ⟨place, located, isDirectory⟩ := stands
    simp [Tree.makeDirectory, located, isDirectory]
  have standing : (orStanding path (.error ⟨.alreadyExists, path⟩) : StateM (Tree here) _) tree =
      (.ok (), tree) := by
    show (if tree.stat path = some .directory then _ else _, tree) = _
    rw [if_pos ((stat_eq_directory_iff tree path).mpr stands)]
  obtain ⟨anchor, steps⟩ := path
  unfold makeDirectories
  cases steps with
  | nil =>
      refine (bind_run refused).trans ?_
      exact standing
  | cons last outer =>
      refine (bind_run refused).trans ?_
      exact standing

end TypedEndpoints.Files
