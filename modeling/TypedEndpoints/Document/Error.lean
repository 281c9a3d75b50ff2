import TypedEndpoints.Json.Shown
/-!
Why a document is no metadata document: one cause for each rule of the format, with the place in the
document and the value that breaks the rule.
-/
set_option autoImplicit false
namespace TypedEndpoints

/-- The part of a document that a message speaks of. -/
inductive Place where
  | document
  | someDataType
  | someInterface
  | dataType (name : Text)
  | interface (name : Text)
  | label (text : Text)
  deriving DecidableEq

def Place.text : Place → Text
  | document => "document"
  | someDataType => "data type"
  | someInterface => "HTTP interface"
  | dataType name => "data type " ++ Text.shown name
  | interface name => "HTTP interface " ++ Text.shown name
  | label text => text

inductive MetadataError where
  | rootNotObject
  | notList (key : Text) (place : Place)
  | notBoolean (key : Text) (place : Place) (raw : Json)
  | badText (key : Text) (place : Place)
  | fieldNotObject (place : Place) (raw : Json)
  | fieldWithoutType (field : Text) (place : Place)
  | dataTypeNotObject (raw : Json)
  | unknownKind (kind : Json) (place : Place)
  | emptyUnion (name : Text)
  | badUnionValue (name : Text) (raw : Json)
  | nonFiniteUnionValue (name : Text) (raw : Json)
  | badBase (name : Text) (raw : Json)
  | interfaceNotObject (raw : Json)
  | badMethod (raw : Json) (place : Place)
  | badHeaders (place : Place)

def MetadataError.message : MetadataError → Text
  | rootNotObject => "Metadata document root must be an object"
  | notList key place => Text.shown key ++ " in " ++ place.text ++ " must be a list"
  | notBoolean key place raw =>
    Text.shown key ++ " in " ++ place.text ++ " must be true or false, got " ++ raw.shown
  | badText key place => "Missing or invalid " ++ Text.shown key ++ " in " ++ place.text
  | fieldNotObject place raw =>
    "Field in " ++ place.text ++ " must be an object, got " ++ raw.shown
  | fieldWithoutType field place =>
    "Field " ++ Text.shown field ++ " in " ++ place.text ++ " has no type"
  | dataTypeNotObject raw => "Data type must be an object, got " ++ raw.shown
  | unknownKind kind place => "Unknown kind " ++ kind.shown ++ " for " ++ place.text
  | emptyUnion name => "Enum " ++ Text.shown name ++ " has no values"
  | badUnionValue name raw => "Enum " ++ Text.shown name ++ " has invalid value " ++ raw.shown
  | nonFiniteUnionValue name raw =>
    "Enum " ++ Text.shown name ++ " has non-finite value " ++ raw.shown
  | badBase name raw =>
    "Alias " ++ Text.shown name ++ " must have a primitive baseType, got " ++ raw.shown
  | interfaceNotObject raw => "HTTP interface must be an object, got " ++ raw.shown
  | badMethod raw place => "Unsupported method " ++ raw.shown ++ " for " ++ place.text
  | badHeaders place => "Headers of " ++ place.text ++ " must be strings"

end TypedEndpoints
