import TypedEndpoints.Json.Basic
/-!
References to types. A reference names a primitive type or a declared one, or is an array of another
reference to any depth; a document value that is none of these is kept as it is, unresolved.

`TypeRef.typeText` is the type expression that stands for a reference in the emitted sources, and
`TypeRef.names` are the declared types it mentions.
-/
set_option autoImplicit false
namespace TypedEndpoints

inductive Primitive where
  | string
  | number
  | boolean
  deriving DecidableEq

def Primitive.name : Primitive → Text
  | string => "string"
  | number => "number"
  | boolean => "boolean"

def Primitive.all : List Primitive := [.string, .number, .boolean]

def Primitive.ofName? (name : Text) : Option Primitive :=
  Primitive.all.find? (·.name == name)

theorem Primitive.ofName?_name (base : Primitive) : Primitive.ofName? base.name = some base := by
  cases base <;> decide

theorem Primitive.eq_name_of_ofName? {name : Text} {base : Primitive}
    (found : Primitive.ofName? name = some base) : name = base.name := by
  have named := List.find?_some found
  exact (eq_of_beq named).symm

inductive TypeRef where
  | primitive (primitive : Primitive)
  | named (name : Text)
  | array (item : TypeRef)
  | unresolved (raw : Json)

namespace TypeRef

/-- The type expression of a reference. A name stands for itself, declared or not. -/
def typeText : TypeRef → Text
  | primitive p => p.name
  | named name => name
  | array item => item.typeText ++ "[]"
  | unresolved _ => "unknown"

/-- The declared types that a reference mentions. -/
def names : TypeRef → List Text
  | primitive _ => []
  | named name => [name]
  | array item => item.names
  | unresolved _ => []

end TypeRef
end TypedEndpoints
