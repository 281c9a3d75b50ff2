import TypedEndpoints.Document.Entry
import TypedEndpoints.Files.Access
import TypedEndpoints.Json.Reader
import TypedEndpoints.Text.Utf8
/-!
Loading a document from a file: octets, text, JSON value, metadata. Each stage has its own faults, and
the whole file is decoded before any of it is read as JSON.
-/
set_option autoImplicit false
namespace TypedEndpoints

open Files

inductive LoadError where
  | badPath (flaw : Path.Flaw)
  | unreadable (fault : Fault)
  | undecodable (fault : Utf8.DecodeFault)
  | notJson (path : Path) (flaw : Json.Flaw) (mark : Text.Mark)
  | tooManyDigits (count : Nat)
  | tooDeep (container : Json.Container)
  | malformed (error : MetadataError)

def LoadError.message : LoadError → Text
  | badPath flaw => flaw.message
  | unreadable fault => fault.message
  | undecodable fault => fault.message
  | notJson path flaw mark =>
    "Invalid JSON in " ++ path.text ++ ": " ++ (Json.ReadError.malformed flaw mark).message
  | tooManyDigits count => (Json.ReadError.tooManyDigits count).message
  | tooDeep container => (Json.ReadError.tooDeep container).message
  | malformed error => error.message

/-- The document that is read if no other is named. -/
def defaultDocument : Path := ⟨.workingDirectory, [.down "metadata.json", .down "data"]⟩

/-- What the octets of a file say; the path is for messages, and `nesting` is how deep the reader may
go. -/
def Metadata.ofOctets (nesting : Nat) (path : Path) (octets : List UInt8) :
    Traced LoadError Metadata :=
  match Utf8.decode octets with
  | .error fault => Traced.fail (.undecodable fault)
  | .ok text =>
    match Json.read nesting text.withLineFeeds with
    | .error (.malformed flaw mark) => Traced.fail (.notJson path flaw mark)
    | .error (.tooManyDigits count) => Traced.fail (.tooManyDigits count)
    | .error (.tooDeep container) => Traced.fail (.tooDeep container)
    | .ok value => (Metadata.ofJson value).mapError .malformed

/-- Loads the document at a path. -/
def Metadata.load {m : Type → Type} [Monad m] [FileAccess m] (nesting : Nat) (path : Path) :
    m (Traced LoadError Metadata) := do
  match path.flaw? with
  | some flaw => return Traced.fail (.badPath flaw)
  | none =>
    match ← FileAccess.read path with
    | .error fault => return Traced.fail (.unreadable fault)
    | .ok octets => return Metadata.ofOctets nesting path octets

end TypedEndpoints
