import TypedEndpoints.Schema.Basic
import TypedEndpoints.Log
import TypedEndpoints.PathTemplate
import TypedEndpoints.Text.Shown
/-!
Problems of a document that reading it does not find: references to types that are not declared, and
tokens of a path that no parameter fills. They are listed in document order, the references first, and
reported as warnings; nothing else depends on them.
-/
set_option autoImplicit false
namespace TypedEndpoints

/-- A reference in a document, with the place as a message tells it. -/
structure Site where
  place : Text
  reference : TypeRef

/-- What a reference leaves dangling. -/
def Site.dangling (declared : List Text) (site : Site) : List Text :=
  (site.reference.names.filter (· ∉ declared)).map fun name =>
    site.place ++ " references undefined type " ++ Text.shown name

def DataType.sites (dataType : DataType) : List Site :=
  match dataType.shape with
  | .object fields =>
    fields.map fun field => ⟨dataType.name ++ "." ++ field.name, field.type⟩
  | _ => []

def HttpInterface.sites (api : HttpInterface) : List Site :=
  (api.urlParams.map fun param =>
    ⟨api.name ++ " url param " ++ Text.shown param.name, param.type⟩) ++
  (api.bodyType.toList.map fun type => ⟨api.name ++ " body", type⟩) ++
  (api.responseType.toList.map fun type => ⟨api.name ++ " response", type⟩)

namespace Metadata

/-- Every reference of a document, in document order. -/
def sites (metadata : Metadata) : List Site :=
  metadata.dataTypes.flatMap DataType.sites ++ metadata.httpInterfaces.flatMap HttpInterface.sites

/-- The references to types that are not declared. -/
def danglingReferences (metadata : Metadata) : List Text :=
  metadata.sites.flatMap (Site.dangling metadata.typeNames)

end Metadata

/-- The tokens of a path that no parameter fills, in order, repetitions kept. -/
def HttpInterface.unmatchedTokens (api : HttpInterface) : List Text :=
  (PathTemplate.ofPath api.path).names.filter (· ∉ api.paramNames)

def HttpInterface.unmatchedProblems (api : HttpInterface) : List Text :=
  api.unmatchedTokens.map fun token =>
    api.name ++ " path " ++ Text.shown api.path ++ " has no url param for ':" ++ token ++ "'"

/-- All problems of a document. -/
def Metadata.problems (metadata : Metadata) : List Text :=
  metadata.danglingReferences ++ metadata.httpInterfaces.flatMap HttpInterface.unmatchedProblems

/-- The warnings about a list of problems. -/
def problemRecords (problems : List Text) : List Record :=
  problems.map fun problem => ⟨.warning, .problems, problem⟩

end TypedEndpoints
