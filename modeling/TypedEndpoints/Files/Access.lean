import TypedEndpoints.Files.Tree
/-!
The operations on files that the program uses. Any monad with these operations can run it; a tree as the
state is the one that statements are about.
-/
set_option autoImplicit false
namespace TypedEndpoints

open Files

/-- A monad in which files can be read and changed. -/
class FileAccess (m : Type → Type) where
  /-- The kind of what stands at a path, if anything does. -/
  stat : Path → m (Option Kind)
  read : Path → m (Except Fault (List UInt8))
  /-- Makes one directory; what is above it must be there. -/
  makeDirectory : Path → m (Except Fault Unit)
  /-- Sets the content of a file, making the file if there is none. -/
  store : Path → List UInt8 → m (Except Fault Unit)
  remove : Path → m (Except Fault Unit)
  /-- Moves a file over another one, or to where nothing stands. -/
  move : Path → Path → m (Except Fault Unit)

instance {here : Location} : FileAccess (StateM (Tree here)) where
  stat path := fun tree => (tree.stat path, tree)
  read path := fun tree => (tree.read path, tree)
  makeDirectory path := fun tree => tree.makeDirectory path
  store path content := fun tree => tree.store path content
  remove path := fun tree => tree.remove path
  move source target := fun tree => tree.move source target

namespace Files

variable {m : Type → Type} [Monad m] [FileAccess m]

/-- A directory that stands already is as good as a new one; any other fault stays. -/
def orStanding (path : Path) (made : Except Fault Unit) : m (Except Fault Unit) :=
  match made with
  | .ok () => pure (.ok ())
  | .error fault =>
    if fault.cause = .noEntry then pure (.error fault)
    else do
      let kind ← FileAccess.stat path
      return if kind = some .directory then .ok () else .error fault

/-- Makes the directory that the steps, the last one first, lead to. Where what is above it is missing,
that is made first. -/
def makeDirectoriesFrom (anchor : Anchor) : List Step → m (Except Fault Unit)
  | [] => do
    let made ← FileAccess.makeDirectory ⟨anchor, []⟩
    orStanding ⟨anchor, []⟩ made
  | last :: outer => do
    let path : Path := ⟨anchor, last :: outer⟩
    match ← FileAccess.makeDirectory path with
    | .error ⟨.noEntry, _⟩ =>
      match ← makeDirectoriesFrom anchor outer with
      | .error fault => return .error fault
      | .ok () =>
        let made ← FileAccess.makeDirectory path
        orStanding path made
    | made => orStanding path made

/-- Makes a directory and all that is missing above it. -/
def makeDirectories (path : Path) : m (Except Fault Unit) :=
  makeDirectoriesFrom path.anchor path.steps

end Files
end TypedEndpoints
