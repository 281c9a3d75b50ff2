import TypedEndpoints.Files.Tree
/-!
Walking a tree that changes. A path that leads somewhere leads there still when directories are added and
files come and go, so the entries of a directory that stands can be told by their names alone.

* `Tree.locate_of_keeps`: a tree that keeps its directories keeps its paths;
* `exists_pathSize_child`: in one directory the length of a path grows with the name;
* `Stands.locate_child`, `Stands.locate_child_error`: a name in a standing directory is a location, or it
  is too long.
-/
set_option autoImplicit false
namespace TypedEndpoints.Files
namespace Tree

variable {here : Location} {before after : Tree here}

/-- Every directory of the first tree is one of the second. -/
def KeepsDirectories (before after : Tree here) : Prop :=
  ∀ location, before.get? location = some .directory → after.get? location = some .directory

theorem KeepsDirectories.trans {last : Tree here} (first : KeepsDirectories before after)
    (second : KeepsDirectories after last) : KeepsDirectories before last :=
  fun location stood => second location (first location stood)

/-! ## Walking -/

theorem walk_cons_ok_iff (tree : Tree here) (start place : Location) (last : Step) (outer : List Step) :
    tree.walk start (last :: outer) = .ok place ↔
      ∃ directory, tree.walk start outer = .ok directory ∧
        tree.get? directory = some .directory ∧ step directory last = .ok place := by
  constructor
  · intro reached
    unfold walk at reached
    cases above : tree.walk start outer with
    | error cause => rw [above] at reached; cases reached
    | ok directory =>
        rw [above] at reached
        refine ⟨directory, rfl, ?_⟩
        cases stands : tree.get? directory with
        | none => simp [stands, bind, Except.bind] at reached
        | some entry =>
            cases entry with
            | file content => simp [stands, bind, Except.bind] at reached
            | directory => exact ⟨rfl, by simpa [stands, bind, Except.bind] using reached⟩
  · rintro ⟨directory, above, stands, stepped⟩
    simp [walk, above, stands, stepped, bind, Except.bind]

theorem walk_of_keeps (kept : KeepsDirectories before after) {start place : Location}
    {steps : List Step} (reached : before.walk start steps = .ok place) :
    after.walk start steps = .ok place := by
  induction steps generalizing place with
  | nil => exact reached
  | cons last outer ih =>
      rw [walk_cons_ok_iff] at reached ⊢
      obtain ⟨directory, above, stands, stepped⟩ := reached
      exact ⟨directory, ih above, kept directory stands, stepped⟩

theorem locate_eq_ok_iff (tree : Tree here) (path : Path) (place : Location) :
    tree.locate path = .ok place ↔
      pathSize path ≤ longestPath ∧ tree.walk (startOf here path.anchor) path.steps = .ok place := by
  unfold locate
  by_cases long : longestPath < pathSize path
  · rw [if_pos long]
    exact iff_of_false (fun equal => nomatch equal) fun both => absurd both.1 (Nat.not_le.mpr long)
  · rw [if_neg long]
    exact (and_iff_right (Nat.not_lt.mp long)).symm

/-- A path that leads somewhere leads there still. -/
theorem locate_of_keeps (kept : KeepsDirectories before after) {path : Path} {place : Location}
    (located : before.locate path = .ok place) : after.locate path = .ok place := by
  rw [locate_eq_ok_iff] at located ⊢
  exact ⟨located.1, walk_of_keeps kept located.2⟩

end Tree

/-! ## How long a path is -/

theorem exists_join_concat (separator : Text) (parts : List Text) :
    ∃ front, ∀ last, Text.join separator (parts ++ [last]) = front ++ last := by
  induction parts with
  | nil => exact ⟨[], fun _ => rfl⟩
  | cons first rest ih =>
      obtain ⟨front, joined⟩ := ih
      refine ⟨first ++ (separator ++ front), fun last => ?_⟩
      cases rest with
      | nil =>
          have empty : front = [] := by simpa using joined []
          simp [Text.join_cons_cons, empty]
      | cons second rest =>
          have tail := joined last
          rw [List.cons_append] at tail
          rw [List.cons_append, List.cons_append, Text.join_cons_cons, tail]
          simp [List.append_assoc]

theorem exists_text_child (path : Path) :
    ∃ front, ∀ name : String, (path.child name).text = front ++ Text.ofString name := by
  obtain ⟨front, joined⟩ := exists_join_concat "/" (path.steps.reverse.map Step.text)
  refine ⟨path.anchor.text ++ front, fun name => ?_⟩
  have body : Text.join "/" ((path.child name).steps.reverse.map Step.text) =
      front ++ Text.ofString name := by
    rw [← joined]
    simp [Path.child, Step.text]
  have named : ¬ ((path.child name).anchor = .workingDirectory ∧ (path.child name).steps = []) :=
    fun bare => List.cons_ne_nil _ _ bare.2
  rw [Path.text, if_neg named, body, List.append_assoc]
  rfl

/-- In one directory the length of a path is that of the name and a constant. -/
theorem exists_pathSize_child (path : Path) :
    ∃ size, ∀ name : String,
      Tree.pathSize (path.child name) = size + (octetsOf name).length := by
  obtain ⟨front, text⟩ := exists_text_child path
  refine ⟨(octetsOf front).length, fun name => ?_⟩
  unfold Tree.pathSize octetsOf
  rw [text, List.flatMap_append, List.length_append]

/-! ## The entries of a directory -/

section Entries

variable {here : Location}

/-- The directory stands at the place. -/
def Stands (tree : Tree here) (directory : Path) (place : Location) : Prop :=
  tree.walk (Tree.startOf here directory.anchor) directory.steps = .ok place ∧
    tree.get? place = some .directory

/-- Is the name short enough for an entry of the directory? -/
def Fits (directory : Path) (name : String) : Prop :=
  (octetsOf name).length ≤ Tree.longestName ∧
    Tree.pathSize (directory.child name) ≤ Tree.longestPath

theorem Fits.of_le {directory : Path} {name longer : String} (fits : Fits directory longer)
    (shorter : (octetsOf name).length ≤ (octetsOf longer).length) : Fits directory name := by
  obtain ⟨size, sizes⟩ := exists_pathSize_child directory
  obtain ⟨named, whole⟩ := fits
  rw [sizes] at whole
  exact ⟨Nat.le_trans shorter named, by rw [sizes]; omega⟩

theorem Stands.of_keeps {before after : Tree here} {directory : Path} {place : Location}
    (stands : Stands before directory place) (kept : Tree.KeepsDirectories before after) :
    Stands after directory place :=
  ⟨Tree.walk_of_keeps kept stands.1, kept place stands.2⟩

variable {tree : Tree here} {directory : Path} {place : Location} {name : String}

theorem Stands.locate_child (stands : Stands tree directory place) (fits : Fits directory name) :
    tree.locate (directory.child name) = .ok (place.child name) := by
  obtain ⟨walked, isDirectory⟩ := stands
  rw [Tree.locate_eq_ok_iff]
  refine ⟨fits.2, (Tree.walk_cons_ok_iff ..).mpr ⟨place, walked, isDirectory, ?_⟩⟩
  exact if_neg (Nat.not_lt.mpr fits.1)

theorem Stands.locate_child_error (stands : Stands tree directory place)
    (long : ¬ Fits directory name) : tree.locate (directory.child name) = .error .nameTooLong := by
  obtain ⟨walked, isDirectory⟩ := stands
  unfold Tree.locate
  by_cases longPath : Tree.longestPath < Tree.pathSize (directory.child name)
  · rw [if_pos longPath]
  · have longName : Tree.longestName < (octetsOf name).length :=
      Nat.not_le.mp fun short => long ⟨short, Nat.not_lt.mp longPath⟩
    rw [if_neg longPath]
    show tree.walk (Tree.startOf here directory.anchor) (.down name :: directory.steps) = _
    simp [Tree.walk, walked, isDirectory, Tree.step, longName, bind, Except.bind]

theorem Stands.locate_child_eq_ok_iff (stands : Stands tree directory place) (location : Location) :
    tree.locate (directory.child name) = .ok location ↔
      Fits directory name ∧ location = place.child name := by
  by_cases fits : Fits directory name
  · rw [stands.locate_child fits]
    simp [fits, eq_comm]
  · rw [stands.locate_child_error fits]
    simp [fits]

end Entries
end TypedEndpoints.Files
