import TypedEndpoints.Binary64.Shortest
import TypedEndpoints.Json.Basic
import TypedEndpoints.Text.Shown
/-!
The form of a document value inside a message. Strings are quoted as in `Text.shown`; numbers are in
decimal, floating point numbers with the fewest digits; the members of an object keep their order.
Where a value is taken for a text (`Json.text`), a string stands for itself without quotes.
-/
set_option autoImplicit false
namespace TypedEndpoints

/-- A floating point number in a message. -/
def Binary64.shown (number : Binary64) : Text := number.write ⟨"inf", "nan"⟩

namespace Json

mutual

/-- A value in a message. -/
def shown : Json → Text
  | .null => "None"
  | .bool true => "True"
  | .bool false => "False"
  | .integer value => Text.ofInt value
  | .float value => value.shown
  | .string value => Text.shown value
  | .array items => "[" ++ Text.join ", " (shownItems items) ++ "]"
  | .object members => "\x7b" ++ Text.join ", " (shownMembers members) ++ "\x7d"

def shownItems : List Json → List Text
  | [] => []
  | item :: rest => shown item :: shownItems rest

def shownMembers : List (Text × Json) → List Text
  | [] => []
  | (key, value) :: rest => (Text.shown key ++ (": " ++ shown value)) :: shownMembers rest

end

/-- The text of a value: a string is its own, and any other value is shown. -/
def text : Json → Text
  | .string value => value
  | raw => raw.shown

end Json
end TypedEndpoints
