import TypedEndpoints.Binary64.Basic
import TypedEndpoints.Text.Basic
/-!
Values of a JSON document. Whole numbers are exact, other numbers are floating point. The members of
an object keep the order in which their keys first appear.
-/
set_option autoImplicit false
namespace TypedEndpoints

inductive Json where
  | null
  | bool (value : Bool)
  | integer (value : Int)
  | float (value : Binary64)
  | string (value : Text)
  | array (items : List Json)
  | object (members : List (Text × Json))
  deriving Inhabited

namespace Json

/-- The members of an object. -/
abbrev Members := List (Text × Json)

/-- Sets a member: a known key keeps its place and takes the new value, a new key comes last. -/
def Members.put (key : Text) (value : Json) : Members → Members
  | [] => [(key, value)]
  | (known, old) :: rest =>
    if known = key then (known, value) :: rest else (known, old) :: put key value rest

/-- The members in the order of their keys, a repeated key with its last value. -/
def Members.ofPairs (pairs : List (Text × Json)) : Members :=
  pairs.foldl (fun members (key, value) => members.put key value) []

/-- The value under a key. -/
def Members.get? (members : Members) (key : Text) : Option Json :=
  List.lookup key members

/-- Is this string the value under the key? -/
def Members.holds (members : Members) (key expected : Text) : Bool :=
  match members.get? key with
  | some (.string value) => value == expected
  | _ => false

end Json
end TypedEndpoints
