import TypedEndpoints.Files.Access
import TypedEndpoints.Log
import TypedEndpoints.Source.Bundle
import TypedEndpoints.Text.Utf8
/-!
Writing the emitted modules. Each goes to a temporary file beside its target first. Only when all three
temporaries are written and no target is a directory are the targets replaced. In every case the
temporaries that were begun are removed in the end, in order; the first that cannot be removed is the
error of the whole, and those after it stay.
-/
set_option autoImplicit false
namespace TypedEndpoints

open Files

inductive WriteError where
  | badPath (flaw : Path.Flaw)
  | fault (fault : Fault)
  | unencodable (fault : Utf8.EncodeFault)
  deriving DecidableEq

def WriteError.message : WriteError → Text
  | badPath flaw => flaw.message
  | fault f => f.message
  | unencodable f => f.message

/-- A file to be written. -/
structure Output where
  temporary : Path
  target : Path
  content : Text

/-- The directory that is written to if no other is named. -/
def defaultOutputDirectory : Path := ⟨.workingDirectory, [.down "generated"]⟩

/-- The name of the temporary beside a file. -/
def temporaryName (name : String) : String := "." ++ name ++ ".tmp"

namespace Output

/-- What a named text is to be written to in a directory. -/
def ofFile (directory : Path) (file : String × Text) : Output where
  temporary := directory.child (temporaryName file.1)
  target := directory.child file.1
  content := file.2

variable {m : Type → Type} [Monad m] [FileAccess m]

/-- Writes the temporary. It is opened before the text is encoded, so that of a text that cannot be
encoded an empty temporary is left. -/
def storeTemporary (output : Output) : m (Except WriteError Unit) := do
  match ← FileAccess.store output.temporary [] with
  | .error fault => return .error (.fault fault)
  | .ok () =>
    match Utf8.encode output.content with
    | .error fault => return .error (.unencodable fault)
    | .ok octets => return (← FileAccess.store output.temporary octets).mapError .fault

/-- Writes the temporaries up to the first that fails, and tells which were begun. -/
def storeTemporaries : List Output → m (List Output × Except WriteError Unit)
  | [] => pure ([], .ok ())
  | output :: rest => do
    match ← output.storeTemporary with
    | .error error => return ([output], .error error)
    | .ok () =>
      let (begun, result) ← storeTemporaries rest
      return (output :: begun, result)

/-- Finds the first target that is a directory. -/
def checkTargets : List Output → m (Except WriteError Unit)
  | [] => pure (.ok ())
  | output :: rest => do
    if (← FileAccess.stat output.target) = some .directory then
      return .error (.fault ⟨.outputIsDirectory, output.target⟩)
    else checkTargets rest

/-- The record about a target that was replaced. -/
def record (output : Output) : Record := ⟨.debug, .outputs, "Wrote " ++ output.target.text⟩

/-- Replaces the targets by the temporaries, up to the first that fails. -/
def replaceTargets : List Output → m (Traced WriteError (List Path))
  | [] => pure (pure [])
  | output :: rest => do
    match ← FileAccess.move output.temporary output.target with
    | .error fault => return Traced.fail (.fault fault)
    | .ok () =>
      let others ← replaceTargets rest
      return do
        Traced.report output.record
        return output.target :: (← others)

/-- Removes the temporaries that are there, up to the first that cannot be removed. -/
def removeTemporaries : List Output → m (Except WriteError Unit)
  | [] => pure (.ok ())
  | output :: rest => do
    match ← FileAccess.remove output.temporary with
    | .error fault =>
      if fault.cause = .noEntry then removeTemporaries rest else return .error (.fault fault)
    | .ok () => removeTemporaries rest

/-- Replaces the targets, unless one of them is a directory. -/
def checkAndReplace (outputs : List Output) : m (Traced WriteError (List Path)) := do
  match ← checkTargets outputs with
  | .error error => return Traced.fail error
  | .ok () => replaceTargets outputs

/-- Writes the temporaries and replaces the targets; tells also which temporaries were begun. -/
def install (outputs : List Output) : m (List Output × Traced WriteError (List Path)) := do
  match ← storeTemporaries outputs with
  | (begun, .error error) => return (begun, Traced.fail error)
  | (begun, .ok ()) => return (begun, ← checkAndReplace outputs)

/-- Installs the outputs, and removes the temporaries that were begun, however that went. -/
def installAndClear (outputs : List Output) : m (Traced WriteError (List Path)) := do
  let (begun, result) ← install outputs
  match ← removeTemporaries begun with
  | .error error => return ⟨result.log, .error error⟩
  | .ok () => return result

end Output

/-- Writes a bundle to a directory, which is made if need be, and tells the paths of its files. -/
def Source.Bundle.write {m : Type → Type} [Monad m] [FileAccess m] (bundle : Source.Bundle)
    (directory : Path) : m (Traced WriteError (List Path)) := do
  match directory.flaw? with
  | some flaw => return Traced.fail (.badPath flaw)
  | none =>
    match ← makeDirectories directory with
    | .error fault => return Traced.fail (.fault fault)
    | .ok () => Output.installAndClear (bundle.files.map (Output.ofFile directory))

end TypedEndpoints
