import TypedEndpoints.Schema.Reference
import TypedEndpoints.Json.Shown
import TypedEndpoints.Log
/-!
References in a document. A string that names a primitive type is one; an object is an array of its
`itemType` if its kind says so, and else a reference by name if its type says so and its name is a
string. Nothing else fails: the value is kept, and a warning is reported.
-/
set_option autoImplicit false
namespace TypedEndpoints.TypeRef

/-- The record about a value that is no reference. -/
def warning (raw : Json) : Record :=
  ⟨.warning, .documents,
    "Unrecognized type reference " ++ raw.shown ++ ", emitting as unresolved"⟩

/-- Keeps a value that is no reference, with a warning. -/
def keep {ε : Type} (raw : Json) : Traced ε TypeRef := ⟨[warning raw], .ok (.unresolved raw)⟩

/-- The reference of an object that is no array. -/
def ofMembers {ε : Type} (members : Json.Members) : Traced ε TypeRef :=
  if members.holds "type" "reference" then
    match members.get? "name" with
    | some (.string name) => pure (.named name)
    | _ => keep (.object members)
  else keep (.object members)

mutual

/-- The reference that a document value stands for. -/
def ofJson {ε : Type} : Json → Traced ε TypeRef
  | .string text =>
    match Primitive.ofName? text with
    | some p => pure (.primitive p)
    | none => keep (.string text)
  | .object members =>
    if Json.Members.holds members "kind" "array" then
      match itemOfMembers? members with
      | some item => item >>= fun reference => pure (.array reference)
      | none => ofMembers members
    else ofMembers members
  | raw => keep raw

/-- The reference under the key `itemType`. -/
def itemOfMembers? {ε : Type} : List (Text × Json) → Option (Traced ε TypeRef)
  | [] => none
  | (key, value) :: rest => if key = "itemType" then some (ofJson value) else itemOfMembers? rest

end

end TypedEndpoints.TypeRef
