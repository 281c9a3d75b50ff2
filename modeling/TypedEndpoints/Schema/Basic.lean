import TypedEndpoints.Schema.Reference
/-!
What a metadata document says: data types, which are unions of literals, aliases of primitive types or
objects with fields, and HTTP interfaces, each with its path, parameters, body, response and headers.
-/
set_option autoImplicit false
namespace TypedEndpoints

/-- A field of an object, or a parameter of a path. -/
structure Field where
  name : Text
  type : TypeRef
  optional : Bool

/-- A member of a union of literals. -/
inductive EnumValue where
  | string (value : Text)
  | integer (value : Int)
  | float (value : Binary64)
  deriving DecidableEq

inductive DataType.Shape where
  | union (values : List EnumValue)
  | alias (base : Primitive)
  | object (fields : List Field)

structure DataType where
  name : Text
  shape : DataType.Shape

inductive HttpMethod where
  | get
  | post
  | put
  | delete
  | patch
  deriving DecidableEq

namespace HttpMethod

def name : HttpMethod → Text
  | get => "GET"
  | post => "POST"
  | put => "PUT"
  | delete => "DELETE"
  | patch => "PATCH"

def all : List HttpMethod := [get, post, put, delete, patch]

/-- The method of a name in capitals. -/
def ofName? (name : Text) : Option HttpMethod := all.find? (·.name == name)

theorem ofName?_name (method : HttpMethod) : ofName? method.name = some method := by
  cases method <;> decide

/-- The router's function for a method. -/
def routerFunction : HttpMethod → Text
  | get => "get"
  | post => "post"
  | put => "put"
  | delete => "delete"
  | patch => "patch"

end HttpMethod

structure HttpInterface where
  name : Text
  method : HttpMethod
  path : Text
  urlParams : List Field
  bodyType : Option TypeRef
  responseType : Option TypeRef
  headers : List Text
  /-- Does the interface answer with a stream of events? -/
  isSse : Bool

/-- The names of the parameters of the path. -/
def HttpInterface.paramNames (api : HttpInterface) : List Text := api.urlParams.map (·.name)

structure Metadata where
  dataTypes : List DataType
  httpInterfaces : List HttpInterface

/-- The names of the data types in document order, each once. -/
def Metadata.typeNames (metadata : Metadata) : List Text :=
  (metadata.dataTypes.map (·.name)).eraseDups

end TypedEndpoints
