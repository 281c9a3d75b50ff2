import TypedEndpoints.Source.Client
import TypedEndpoints.Source.Declarations
import TypedEndpoints.Source.Server
/-!
The three modules that are emitted for a document. They do not depend on each other's text; the server
and the client both import every declared type. None is emitted if the declarations cannot be.

* `Bundle.emit_eq_ok`: a document whose data types can be declared has its modules emitted.
-/
set_option autoImplicit false
namespace TypedEndpoints.Source

structure Bundle where
  types : Text
  server : Text
  client : Text
  deriving DecidableEq

/-- The modules of a document. -/
def Bundle.ofMetadata (metadata : Metadata) : Bundle where
  types := declarationsModule metadata.dataTypes
  server := serverModule metadata.httpInterfaces metadata.typeNames
  client := clientModule metadata.httpInterfaces metadata.typeNames

/-- Emits the modules of a document, if they can be written. -/
def Bundle.emit (metadata : Metadata) : Except EmitError Bundle := do
  let types ← emitDeclarations metadata.dataTypes
  return { types
           server := serverModule metadata.httpInterfaces metadata.typeNames
           client := clientModule metadata.httpInterfaces metadata.typeNames }

theorem Bundle.emit_eq_ok (metadata : Metadata)
    (writable : ∀ dataType ∈ metadata.dataTypes, canDeclare dataType = true) :
    Bundle.emit metadata = .ok (Bundle.ofMetadata metadata) := by
  have types := (emitDeclarations_eq_ok_iff metadata.dataTypes _).mpr ⟨writable, rfl⟩
  simp only [Bundle.emit, types]
  rfl

/-- The files of a bundle in the order in which they are written: their names, and what they hold. -/
def Bundle.files (bundle : Bundle) : List (String × Text) :=
  [("types.ts", bundle.types), ("server.ts", bundle.server), ("client.ts", bundle.client)]

end TypedEndpoints.Source
