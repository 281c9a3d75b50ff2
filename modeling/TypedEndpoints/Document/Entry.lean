import TypedEndpoints.Schema.Basic
import TypedEndpoints.Document.Error
import TypedEndpoints.Document.Reference
import TypedEndpoints.Text.UpperCase
/-!
Reading a decoded document: its data types and HTTP interfaces, in document order, the first fault
ending the run. A missing key and a null are the same: no list, no flag, no reference.
-/
set_option autoImplicit false
namespace TypedEndpoints

/-! ## Members of a known kind -/

namespace Json

/-- A text that must be there and must not be empty. -/
def Members.text (members : Members) (key : Text) (place : Place) : Except MetadataError Text :=
  match members.get? key with
  | some (.string (first :: rest)) => .ok (first :: rest)
  | _ => .error (.badText key place)

/-- A flag, off unless it is set. -/
def Members.flag (members : Members) (key : Text) (place : Place) : Except MetadataError Bool :=
  match members.get? key with
  | none | some .null => .ok false
  | some (.bool value) => .ok value
  | some raw => .error (.notBoolean key place raw)

/-- A list, empty unless it is there. -/
def Members.list (members : Members) (key : Text) (place : Place) :
    Except MetadataError (List Json) :=
  match members.get? key with
  | none | some .null => .ok []
  | some (.array items) => .ok items
  | some _ => .error (.notList key place)

/-- A reference that may be absent; the empty string is no reference either. -/
def Members.reference? (members : Members) (key : Text) :
    Traced MetadataError (Option TypeRef) :=
  match members.get? key with
  | none | some .null | some (.string []) => pure none
  | some raw => some <$> TypeRef.ofJson raw

/-- The value under a key, null if there is none. -/
def Members.value (members : Members) (key : Text) : Json := (members.get? key).getD .null

end Json

open Json

/-! ## Data types -/

/-- A field of an object or a parameter of a path. -/
def Field.ofJson (place : Place) : Json → Traced MetadataError Field
  | .object members => do
    let name ← Members.text members "name" place
    match Members.get? members "type" with
    | none => Traced.fail (.fieldWithoutType name place)
    | some raw => do
      let type ← TypeRef.ofJson raw
      let optional ← Members.flag members "optional" place
      return { name, type, optional }
  | raw => Traced.fail (.fieldNotObject place raw)

/-- A member of the union `name`: a string, a whole number or a finite number. -/
def EnumValue.ofJson (name : Text) : Json → Except MetadataError EnumValue
  | .string value => .ok (.string value)
  | .integer value => .ok (.integer value)
  | .float value =>
    if value.isFinite then .ok (.float value) else .error (.nonFiniteUnionValue name (.float value))
  | raw => .error (.badUnionValue name raw)

def DataType.Shape.ofUnion (name : Text) (members : Members) :
    Traced MetadataError DataType.Shape := do
  let values ← Members.list members "values" (.dataType name)
  if values.isEmpty then Traced.fail (.emptyUnion name)
  else
    let values ← Traced.ofExcept (values.mapM (EnumValue.ofJson name))
    return .union values

def DataType.Shape.ofAlias (name : Text) (members : Members) :
    Traced MetadataError DataType.Shape :=
  match Members.value members "baseType" with
  | .string base =>
    match Primitive.ofName? base with
    | some base => pure (.alias base)
    | none => Traced.fail (.badBase name (.string base))
  | raw => Traced.fail (.badBase name raw)

def DataType.Shape.ofObject (name : Text) (members : Members) :
    Traced MetadataError DataType.Shape := do
  let fields ← Members.list members "fields" (.dataType name)
  let fields ← fields.mapM (Field.ofJson (.dataType name))
  return .object fields

/-- The shape of a data type, by its kind. -/
def DataType.Shape.ofMembers (name : Text) (members : Members) :
    Traced MetadataError DataType.Shape :=
  if members.holds "kind" "enum" then ofUnion name members
  else if members.holds "kind" "alias" then ofAlias name members
  else if members.holds "kind" "object" then ofObject name members
  else Traced.fail (.unknownKind (Members.value members "kind") (.dataType name))

/-- An entry of the list of data types. -/
def DataType.ofJson : Json → Traced MetadataError DataType
  | .object members => do
    let name ← Members.text members "name" .someDataType
    let shape ← DataType.Shape.ofMembers name members
    return { name, shape }
  | raw => Traced.fail (.dataTypeNotObject raw)

/-! ## HTTP interfaces -/

/-- The method that a document value names, in capitals or not. Any value is asked for its text; only
that of a string can be a method. -/
def HttpMethod.ofJson (place : Place) (raw : Json) : Except MetadataError HttpMethod :=
  match HttpMethod.ofName? raw.text.upperCased with
  | some method => .ok method
  | none => .error (.badMethod raw place)

/-- A header is a string; the message about one that is not does not quote it. -/
def headerOfJson (place : Place) : Json → Except MetadataError Text
  | .string text => .ok text
  | _ => .error (.badHeaders place)

/-- An entry of the list of HTTP interfaces. -/
def HttpInterface.ofJson : Json → Traced MetadataError HttpInterface
  | .object members => do
    let name ← Members.text members "name" .someInterface
    let place := Place.interface name
    let method ← HttpMethod.ofJson place (Members.value members "method")
    let headers ← Members.list members "headers" place
    let headers ← Traced.ofExcept (headers.mapM (headerOfJson place))
    let path ← Members.text members "path" place
    let urlParams ← Members.list members "urlParams" place
    let urlParams ← urlParams.mapM (Field.ofJson place)
    let bodyType ← Members.reference? members "bodyType"
    let responseType ← Members.reference? members "responseType"
    let isSse ← Members.flag members "isSSE" place
    return { name, method, path, urlParams, bodyType, responseType, headers, isSse }
  | raw => Traced.fail (.interfaceNotObject raw)

/-! ## The document -/

/-- The record about a document that was read. -/
def Metadata.summary (metadata : Metadata) : Record :=
  ⟨.debug, .documents,
    "Parsed " ++ Text.ofNat metadata.dataTypes.length ++ " data types and " ++
      Text.ofNat metadata.httpInterfaces.length ++ " HTTP interfaces"⟩

/-- What a document says, or its first fault. -/
def Metadata.ofJson : Json → Traced MetadataError Metadata
  | .object members => do
    let dataTypes ← Members.list members "dataTypes" .document
    let dataTypes ← dataTypes.mapM DataType.ofJson
    let httpInterfaces ← Members.list members "httpInterfaces" .document
    let httpInterfaces ← httpInterfaces.mapM HttpInterface.ofJson
    let metadata : Metadata := { dataTypes, httpInterfaces }
    Traced.report metadata.summary
    return metadata
  | _ => Traced.fail .rootNotObject

end TypedEndpoints
