import TypedEndpoints.Files.Fault
/-!
A tree of directories and files. A location is told by the names on the way from the root, so that there is
one location for each place, however a path comes to it. The directory that programs work in, and those
above it, are always there. The tree maps locations to what stands there; `get?` is its only view.

* `Tree.get?_put`, `Tree.get?_erase`: what a change does, at the location and elsewhere.

Walking a path needs a directory at every step, also in front of a step up. A name of more than 255
octets, and a path of 4096 or more, are too long. There are plain files and directories only: no links of
either kind, no mounts, no permissions, and nobody else who changes the tree. A change fails for the
reasons given here and no other.
-/
set_option autoImplicit false
namespace TypedEndpoints.Files

structure Location where
  /-- The names on the way from the root, as octets, the last one first. -/
  names : List (List UInt8)
  deriving DecidableEq

namespace Location

def root : Location := ⟨[]⟩

/-- The place of an entry of a directory, by the octets of its name. -/
def entry (location : Location) (name : List UInt8) : Location := ⟨name :: location.names⟩

def child (location : Location) (name : String) : Location := location.entry (octetsOf name)

/-- Nothing is above the root but the root itself. -/
def parent (location : Location) : Location := ⟨location.names.tail⟩

end Location

inductive Entry where
  | directory
  | file (content : List UInt8)
  deriving DecidableEq

inductive Kind where
  | directory
  | file
  deriving DecidableEq

def Entry.kind : Entry → Kind
  | directory => .directory
  | file _ => .file

/-- The entries of a tree in which programs work at the location `here`. -/
structure Tree (here : Location) where
  entries : List (Location × Entry)

namespace Tree

variable {here : Location}

def empty : Tree here := ⟨[]⟩

/-- What stands at a location. -/
def get? (tree : Tree here) (location : Location) : Option Entry :=
  if location.names <:+ here.names then some .directory else tree.entries.lookup location

/-- Removes what stands at a location. -/
def erase (tree : Tree here) (location : Location) : Tree here :=
  ⟨tree.entries.filter fun (known, _) => known != location⟩

/-- Sets what stands at a location. -/
def put (tree : Tree here) (location : Location) (entry : Entry) : Tree here :=
  ⟨(location, entry) :: (tree.erase location).entries⟩

/-! ## What a change does to the view -/

private theorem lookup_filter (entries : List (Location × Entry)) (location other : Location) :
    (entries.filter fun (known, _) => known != location).lookup other =
      if other = location then none else entries.lookup other := by
  induction entries with
  | nil => simp
  | cons first rest ih =>
      obtain ⟨known, entry⟩ := first
      by_cases same : known = location
      · subst same
        by_cases asked : other = known
        · subst asked; simpa using ih
        · simp [asked, List.lookup_cons, beq_eq_false_iff_ne.mpr asked, ih]
      · by_cases asked : other = known
        · subst asked; simp [same]
        · simp [List.lookup_cons, same, beq_eq_false_iff_ne.mpr asked, ih]

/-- Where no directory stands, none is always there. -/
theorem not_above_of_get? {tree : Tree here} {location : Location}
    (free : tree.get? location ≠ some .directory) : ¬ location.names <:+ here.names :=
  fun above => free (if_pos above)

theorem get?_erase (tree : Tree here) (location other : Location)
    (free : tree.get? location ≠ some .directory) :
    (tree.erase location).get? other = if other = location then none else tree.get? other := by
  have below := not_above_of_get? free
  unfold get? erase
  simp only [lookup_filter]
  by_cases same : other = location
  · subst same; simp [below]
  · simp [same]

theorem get?_put (tree : Tree here) (location other : Location) (entry : Entry)
    (free : tree.get? location ≠ some .directory) :
    (tree.put location entry).get? other =
      if other = location then some entry else tree.get? other := by
  have below := not_above_of_get? free
  unfold get? put
  by_cases same : other = location
  · subst same; simp [below]
  · simp only [same, ite_false, List.lookup_cons, beq_eq_false_iff_ne.mpr same, erase,
      lookup_filter]

/-! ## Walking -/

def longestName : Nat := 255
def longestPath : Nat := 4095

/-- One step from a directory. -/
def step (directory : Location) : Step → Except Cause Location
  | .up => .ok directory.parent
  | .down name =>
    if longestName < (octetsOf name).length then .error .nameTooLong
    else .ok (directory.entry (octetsOf name))

/-- The location that the steps, the last one first, lead to; something may or may not stand there. -/
def walk (tree : Tree here) (start : Location) : List Step → Except Cause Location
  | [] => .ok start
  | last :: outer => do
    let directory ← walk tree start outer
    match tree.get? directory with
    | some .directory => step directory last
    | some (.file _) => .error .notDirectory
    | none => .error .noEntry

/-- How many octets the text of a path takes. -/
def pathSize (path : Path) : Nat := (octetsOf path.text).length

/-- Where a path starts. -/
def startOf (here : Location) : Anchor → Location
  | .workingDirectory => here
  | .root | .doubleRoot => .root

/-- The location of a path. -/
def locate (tree : Tree here) (path : Path) : Except Cause Location :=
  if longestPath < pathSize path then .error .nameTooLong
  else tree.walk (startOf here path.anchor) path.steps

/-- What stands at a path. -/
def find? (tree : Tree here) (path : Path) : Option Entry :=
  match tree.locate path with
  | .ok location => tree.get? location
  | .error _ => none

/-! ## Operations -/

/-- The kind of what stands at a path. -/
def stat (tree : Tree here) (path : Path) : Option Kind := (tree.find? path).map Entry.kind

/-- The content of a file. -/
def read (tree : Tree here) (path : Path) : Except Fault (List UInt8) :=
  match tree.locate path with
  | .error cause => .error ⟨cause, path⟩
  | .ok location =>
    match tree.get? location with
    | none => .error ⟨.noEntry, path⟩
    | some .directory => .error ⟨.isDirectory, path⟩
    | some (.file content) => .ok content

/-- Makes one directory where nothing stands. -/
def makeDirectory (tree : Tree here) (path : Path) : Except Fault Unit × Tree here :=
  match tree.locate path with
  | .error cause => (.error ⟨cause, path⟩, tree)
  | .ok location =>
    match tree.get? location with
    | none => (.ok (), tree.put location .directory)
    | some _ => (.error ⟨.alreadyExists, path⟩, tree)

/-- Sets the content of a file, making the file if there is none. -/
def store (tree : Tree here) (path : Path) (content : List UInt8) : Except Fault Unit × Tree here :=
  match tree.locate path with
  | .error cause => (.error ⟨cause, path⟩, tree)
  | .ok location =>
    match tree.get? location with
    | some .directory => (.error ⟨.isDirectory, path⟩, tree)
    | _ => (.ok (), tree.put location (.file content))

/-- Removes a file. -/
def remove (tree : Tree here) (path : Path) : Except Fault Unit × Tree here :=
  match tree.locate path with
  | .error cause => (.error ⟨cause, path⟩, tree)
  | .ok location =>
    match tree.get? location with
    | none => (.error ⟨.noEntry, path⟩, tree)
    | some .directory => (.error ⟨.isDirectory, path⟩, tree)
    | some (.file _) => (.ok (), tree.erase location)

/-- Moves a file over another one, or to where nothing stands. -/
def move (tree : Tree here) (source target : Path) : Except Fault Unit × Tree here :=
  match tree.locate source with
  | .error cause => (.error ⟨cause, source⟩, tree)
  | .ok origin =>
    match tree.get? origin with
    | none => (.error ⟨.noEntry, source⟩, tree)
    | some .directory => (.error ⟨.isDirectory, source⟩, tree)
    | some (.file content) =>
      match tree.locate target with
      | .error cause => (.error ⟨cause, target⟩, tree)
      | .ok destination =>
        match tree.get? destination with
        | some .directory => (.error ⟨.isDirectory, target⟩, tree)
        | _ => (.ok (), (tree.erase origin).put destination (.file content))

end Tree
end TypedEndpoints.Files
