import TypedEndpoints.Source.Layout
import TypedEndpoints.Source.Literal
/-!
The module of declarations: one block per data type, in order, each followed by an empty line. A union
and an alias are one line; an object has a line for each field, with a mark for an optional one. The module
is not emitted if one of its unions has a member that cannot be written.

* `emitDeclarations_eq_ok_iff`: when the module is emitted, and what it is then.
-/
set_option autoImplicit false
namespace TypedEndpoints.Source

/-- A field as it is declared. -/
structure FieldLine where
  name : Text
  marker : Text
  type : Text
  deriving DecidableEq

inductive Declaration.Body where
  | union (literals : List Text)
  | alias (base : Text)
  | object (fields : List FieldLine)

/-- What the block of a data type says. -/
structure Declaration where
  name : Text
  body : Declaration.Body

def FieldLine.ofField (field : Field) : FieldLine where
  name := field.name
  marker := if field.optional then "?" else ""
  type := field.type.typeText

def FieldLine.text (field : FieldLine) : Text :=
  "  " ++ field.name ++ field.marker ++ ": " ++ field.type ++ ";"

namespace Declaration

def ofDataType (dataType : DataType) : Declaration where
  name := dataType.name
  body := match dataType.shape with
    | .union values => .union (values.map memberLiteral)
    | .alias base => .alias base.name
    | .object fields => .object (fields.map FieldLine.ofField)

/-- The lines of a declaration. -/
def lines (declaration : Declaration) : List Text :=
  match declaration.body with
  | .union literals =>
    ["export type " ++ declaration.name ++ " = " ++ Text.join " | " literals ++ ";"]
  | .alias base => ["export type " ++ declaration.name ++ " = " ++ base ++ ";"]
  | .object fields =>
    ("export interface " ++ declaration.name ++ " \x7b") ::
      (fields.map FieldLine.text ++ (["\x7d"] : List Text))

/-- A declaration and the empty line after it. -/
def block (declaration : Declaration) : Text :=
  Source.lines (declaration.lines ++ ([""] : List Text))

end Declaration

def declarationsBanner : Text := lines ["// Auto-generated type declarations", ""]

/-- The text of the module of declarations. -/
def declarationsModule (dataTypes : List DataType) : Text :=
  declarationsBanner ++ dataTypes.flatMap fun dataType => (Declaration.ofDataType dataType).block

/-! ## When the module is emitted -/

/-- Why a module is not emitted. -/
inductive EmitError where
  | tooManyDigits
  deriving DecidableEq

def EmitError.message : EmitError → Text
  | .tooManyDigits =>
    "Exceeds the limit (" ++ Text.ofNat Json.Numeral.mostDigits ++
      " digits) for integer string conversion; use sys.set_int_max_str_digits() to increase the limit"

/-- Can every member of the union be written? Other data types have no members. -/
def canDeclare (dataType : DataType) : Bool :=
  match dataType.shape with
  | .union values => values.all isWritable
  | .alias _ | .object _ => true

/-- The module of declarations, if it can be written. -/
def emitDeclarations (dataTypes : List DataType) : Except EmitError Text :=
  if dataTypes.all canDeclare then .ok (declarationsModule dataTypes) else .error .tooManyDigits

theorem emitDeclarations_eq_ok_iff (dataTypes : List DataType) (text : Text) :
    emitDeclarations dataTypes = .ok text ↔
      (∀ dataType ∈ dataTypes, canDeclare dataType = true) ∧ text = declarationsModule dataTypes := by
  rw [← List.all_eq_true]
  unfold emitDeclarations
  by_cases writable : dataTypes.all canDeclare = true
  · rw [if_pos writable, Except.ok.injEq, eq_comm]
    exact (and_iff_right writable).symm
  · rw [if_neg writable]
    exact iff_of_false (fun same => nomatch same) fun both => writable both.1

end TypedEndpoints.Source
