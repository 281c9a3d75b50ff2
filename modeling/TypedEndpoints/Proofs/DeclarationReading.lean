import TypedEndpoints.Proofs.ScalarReading
import TypedEndpoints.Text.Word
/-!
The module of declarations, read back. The reader goes through the text from the left: the banner, then
one declaration after the other, each up to the empty line behind it. An outline is what a declaration
tells of a data type; of the type of a field it tells the expression only, not the reference behind it.

* `readField_append`, `readMeaning_union`, `readMeaning_alias`, `readDeclaration_append`: each part is read
  back, whatever follows it;
* `readModule_declarationsModule`: so is the whole module, to its end;
* `declarations_determine_schema`: so two schemas with the same module have the same outlines.
-/
set_option autoImplicit false
namespace TypedEndpoints

/-! ## Names -/

/-- A letter, a number, the low line or the dollar sign. -/
def CodePoint.isNamePoint (point : CodePoint) : Bool := point.isWord || point == .scalar '$'

/-- A code point of a type expression: of a name, or a bracket. -/
def CodePoint.isTypePoint (point : CodePoint) : Bool :=
  point.isNamePoint || point == .scalar '[' || point == .scalar ']'

/-- A name: letters, numbers, low lines and dollar signs only. The empty text is read back like any other. -/
def IsName (name : Text) : Prop := ∀ point ∈ name, point.isNamePoint = true

instance (name : Text) : Decidable (IsName name) :=
  inferInstanceAs (Decidable (∀ point ∈ name, point.isNamePoint = true))

/-- The names of declared types in a reference are names. -/
def TypeRef.WellNamed : TypeRef → Prop
  | primitive _ => True
  | named name => IsName name
  | array item => item.WellNamed
  | unresolved _ => True

/-- A union has members, all of them strings and whole numbers; the fields of an object have proper names
and types. -/
def DataType.Shape.WellNamed : DataType.Shape → Prop
  | union values => values ≠ [] ∧ ∀ value ∈ values, ∀ number, value ≠ .float number
  | .alias _ => True
  | object fields => ∀ field ∈ fields, IsName field.name ∧ field.type.WellNamed

structure DataType.WellNamed (dataType : DataType) : Prop where
  name : IsName dataType.name
  shape : dataType.shape.WellNamed

namespace Source

/-! ## Outlines -/

/-- What a declaration tells of a field: the type is the expression that stands for it. -/
structure FieldOutline where
  name : Text
  optional : Bool
  type : Text
  deriving DecidableEq

inductive Outline.Form where
  | union (values : List EnumValue)
  | alias (base : Primitive)
  | object (fields : List FieldOutline)
  deriving DecidableEq

/-- What a declaration tells of a data type. -/
structure Outline where
  name : Text
  form : Outline.Form
  deriving DecidableEq

def FieldOutline.ofField (field : Field) : FieldOutline :=
  ⟨field.name, field.optional, field.type.typeText⟩

def Outline.ofDataType (dataType : DataType) : Outline where
  name := dataType.name
  form := match dataType.shape with
    | .union values => .union values
    | .alias base => .alias base
    | .object fields => .object (fields.map FieldOutline.ofField)

/-! ## The reader -/

open Text

/-- Reads the mark of an optional field, if there is one. -/
def readMark (text : Text) : Bool × Text :=
  match behind? "?" text with
  | some rest => (true, rest)
  | none => (false, text)

/-- Reads the line of a field. -/
def readField (text : Text) : Option (FieldOutline × Text) := do
  let rest ← behind? "  " text
  let (name, rest) := takeRun CodePoint.isNamePoint rest
  let (optional, rest) := readMark rest
  let rest ← behind? ": " rest
  let (type, rest) := takeRun CodePoint.isTypePoint rest
  let rest ← behind? ";\n" rest
  return (⟨name, optional, type⟩, rest)

/-- Reads what a name is declared to mean: a union, or a primitive type. -/
def readMeaning (text : Text) : Option (Outline.Form × Text) :=
  match readUnion text with
  | some (values, rest) => some (.union values, rest)
  | none =>
    let (base, rest) := takeRun CodePoint.isNamePoint text
    (Primitive.ofName? base).map fun base => (.alias base, rest)

/-- Reads a declaration and the empty line behind it. -/
def readDeclaration (text : Text) : Option (Outline × Text) :=
  match behind? "export type " text with
  | some rest => do
    let (name, rest) := takeRun CodePoint.isNamePoint rest
    let rest ← behind? " = " rest
    let (form, rest) ← readMeaning rest
    let rest ← behind? ";\n\n" rest
    return (⟨name, form⟩, rest)
  | none => do
    let rest ← behind? "export interface " text
    let (name, rest) := takeRun CodePoint.isNamePoint rest
    let rest ← behind? " \x7b\n" rest
    let (fields, rest) := readMany readField rest
    let rest ← behind? "\x7d\n\n" rest
    return (⟨name, .object fields⟩, rest)

/-- Reads a module of declarations, which must hold nothing else. -/
def readModule (text : Text) : Option (List Outline) := do
  let rest ← behind? declarationsBanner text
  let (declarations, rest) := readMany readDeclaration rest
  if rest.isEmpty then return declarations else none

end Source

/-! ## Names and type expressions -/

theorem Primitive.isName_name (base : Primitive) : IsName base.name := by
  cases base <;> decide

/-- A type expression is made of names and brackets. -/
theorem TypeRef.isTypePoint_of_mem_typeText {type : TypeRef} (well : type.WellNamed) :
    ∀ point ∈ type.typeText, point.isTypePoint = true := by
  have ofName : ∀ name : Text, IsName name → ∀ point ∈ name, point.isTypePoint = true := by
    intro name isName point member
    simp [CodePoint.isTypePoint, isName point member]
  have brackets : ∀ point ∈ Text.ofString "[]", point.isTypePoint = true := by decide
  have unknown : ∀ point ∈ Text.ofString "unknown", point.isTypePoint = true := by decide
  induction type with
  | primitive base => exact ofName _ base.isName_name
  | named name => exact ofName name well
  | array item ih =>
      intro point member
      rcases List.mem_append.mp member with inItem | inBrackets
      · exact ih well point inItem
      · exact brackets point inBrackets
  | unresolved raw => exact unknown

namespace Source

open Text

/-! ## Each part is read back -/

/-- A name is read up to a code point that no name holds. -/
theorem takeRun_name {name rest : Text} (isName : IsName name) {stop : CodePoint}
    (head : rest.head? = some stop) (out : stop.isNamePoint = false) :
    takeRun CodePoint.isNamePoint (name ++ rest) = (name, rest) := by
  apply takeRun_append isName
  rw [head]
  rintro _ ⟨rfl⟩
  exact out

theorem readMark_append (optional : Bool) (rest : Text) :
    readMark ((if optional then "?" else "" : Text) ++ (": " ++ rest)) = (optional, ": " ++ rest) := by
  cases optional <;> rfl

/-- The line of a field is read back. -/
theorem readField_append {field : Field} (name : IsName field.name) (type : field.type.WellNamed)
    (rest : Text) :
    readField (line (FieldLine.ofField field).text ++ rest) =
      some (FieldOutline.ofField field, rest) := by
  have typeRead : takeRun CodePoint.isTypePoint (field.type.typeText ++ (";\n" ++ rest : Text)) =
      (field.type.typeText, ";\n" ++ rest) := by
    apply takeRun_append (TypeRef.isTypePoint_of_mem_typeText type)
    rintro _ ⟨rfl⟩
    decide
  have nameRead (after : Text) : takeRun CodePoint.isNamePoint
      (field.name ++ ((if field.optional then "?" else "" : Text) ++ (": " ++ after))) =
      (field.name, (if field.optional then "?" else "" : Text) ++ (": " ++ after)) := by
    have colon : (CodePoint.scalar ':').isNamePoint = false := by decide
    have mark : (CodePoint.scalar '?').isNamePoint = false := by decide
    cases field.optional
    · exact takeRun_name name rfl colon
    · exact takeRun_name name rfl mark
  have written : line (FieldLine.ofField field).text ++ rest =
      "  " ++ (field.name ++ ((if field.optional then "?" else "" : Text) ++
        (": " ++ (field.type.typeText ++ (";\n" ++ rest))))) := by
    simp [line, FieldLine.text, FieldLine.ofField]
    rfl
  rw [written, readField]
  simp only [behind?_append, Option.bind_eq_bind, Option.bind_some, nameRead, readMark_append,
    typeRead]
  rfl

theorem readMeaning_union {values : List EnumValue} (nonempty : values ≠ [])
    (notFloat : ∀ value ∈ values, ∀ number, value ≠ .float number) (rest : Text) :
    readMeaning (Text.join " | " (values.map memberLiteral) ++ (";\n\n" ++ rest : Text)) =
      some (.union values, ";\n\n" ++ rest) := by
  have ends : Json.EndsNumber (";\n\n" ++ rest : Text) := endsNumber_of_head _ (.inr rfl)
  have last : behind? " | " (";\n\n" ++ rest : Text) = none := rfl
  rw [readMeaning, readUnion_append nonempty notFloat ends last]

theorem readMeaning_alias (base : Primitive) (rest : Text) :
    readMeaning (base.name ++ (";\n\n" ++ rest : Text)) = some (.alias base, ";\n\n" ++ rest) := by
  have noUnion : readUnion (base.name ++ (";\n\n" ++ rest : Text)) = none := by
    cases base <;> rfl
  have nameRead : takeRun CodePoint.isNamePoint (base.name ++ (";\n\n" ++ rest : Text)) =
      (base.name, ";\n\n" ++ rest) := takeRun_name base.isName_name rfl (by decide)
  rw [readMeaning, noUnion]
  simp only [nameRead, Primitive.ofName?_name, Option.map_some]

/-- A name with its meaning, on one line and with the empty line behind it, is read back. -/
theorem readDeclaration_type {name meaning : Text} {form : Outline.Form} (isName : IsName name)
    (reads : ∀ rest, readMeaning (meaning ++ (";\n\n" ++ rest : Text)) = some (form, ";\n\n" ++ rest))
    (rest : Text) :
    readDeclaration ("export type " ++ (name ++ (" = " ++ (meaning ++ (";\n\n" ++ rest : Text))))) =
      some (⟨name, form⟩, rest) := by
  have nameRead (after : Text) : takeRun CodePoint.isNamePoint (name ++ (" = " ++ after : Text)) =
      (name, " = " ++ after) := takeRun_name isName rfl (by decide)
  simp only [readDeclaration, behind?_append, nameRead, Option.bind_eq_bind, Option.bind_some, reads]
  rfl

/-- The lines of fields are read back, up to the closing bracket. -/
theorem readFields_append {fields : List Field}
    (well : ∀ field ∈ fields, IsName field.name ∧ field.type.WellNamed) (rest : Text) :
    readMany readField (lines (fields.map fun field => (FieldLine.ofField field).text) ++
      ("\x7d\n\n" ++ rest : Text)) = (fields.map FieldOutline.ofField, "\x7d\n\n" ++ rest) := by
  have written : lines (fields.map fun field => (FieldLine.ofField field).text) =
      fields.flatMap fun field => line (FieldLine.ofField field).text := List.flatMap_map ..
  rw [written]
  apply readMany_append (fun _ => True)
  · intro field member after _
    exact readField_append (well field member).1 (well field member).2 after
  · intro field _
    exact List.cons_ne_nil _ _
  · exact fun _ _ _ => trivial
  · exact trivial
  · rfl

/-- An interface, with the empty line behind it, is read back. -/
theorem readDeclaration_interface {name : Text} {fields : List Field} (isName : IsName name)
    (well : ∀ field ∈ fields, IsName field.name ∧ field.type.WellNamed) (rest : Text) :
    readDeclaration ("export interface " ++ (name ++ (" \x7b\n" ++
      (lines (fields.map fun field => (FieldLine.ofField field).text) ++
        ("\x7d\n\n" ++ rest : Text))))) =
      some (⟨name, .object (fields.map FieldOutline.ofField)⟩, rest) := by
  have noType (after : Text) : behind? "export type " ("export interface " ++ after : Text) = none := rfl
  have nameRead (after : Text) : takeRun CodePoint.isNamePoint (name ++ (" \x7b\n" ++ after : Text)) =
      (name, " \x7b\n" ++ after) := takeRun_name isName rfl (by decide)
  rw [readDeclaration, noType]
  simp only [behind?_append, nameRead, Option.bind_eq_bind, Option.bind_some,
    readFields_append well]
  rfl

theorem Declaration.block_ne_nil (declaration : Declaration) : declaration.block ≠ [] := by
  intro empty
  have size := congrArg List.length empty
  rw [Declaration.block, lines_append] at size
  simp [line, Text.ofString] at size

/-- **A declaration is read back**, whatever the strings of a union hold. -/
theorem readDeclaration_append {dataType : DataType} (well : dataType.WellNamed) (rest : Text) :
    readDeclaration ((Declaration.ofDataType dataType).block ++ rest) =
      some (Outline.ofDataType dataType, rest) := by
  obtain ⟨name, shape⟩ := dataType
  obtain ⟨isName, shapeWell⟩ := well
  rcases shape with values | base | fields
  · obtain ⟨nonempty, notFloat⟩ := shapeWell
    have written : (Declaration.ofDataType ⟨name, .union values⟩).block ++ rest =
        "export type " ++ (name ++ (" = " ++
          (Text.join " | " (values.map memberLiteral) ++ (";\n\n" ++ rest : Text)))) := by
      simp [Declaration.block, Declaration.lines, Declaration.ofDataType, line]
      rfl
    rw [written]
    exact readDeclaration_type isName (readMeaning_union nonempty notFloat) rest
  · have written : (Declaration.ofDataType ⟨name, .alias base⟩).block ++ rest =
        "export type " ++ (name ++ (" = " ++ (base.name ++ (";\n\n" ++ rest : Text)))) := by
      simp [Declaration.block, Declaration.lines, Declaration.ofDataType, line]
      rfl
    rw [written]
    exact readDeclaration_type isName (readMeaning_alias base) rest
  · have written : (Declaration.ofDataType ⟨name, .object fields⟩).block ++ rest =
        "export interface " ++ (name ++ (" \x7b\n" ++
          (lines (fields.map fun field => (FieldLine.ofField field).text) ++
            ("\x7d\n\n" ++ rest : Text)))) := by
      simp [Declaration.block, Declaration.lines, Declaration.ofDataType, lines_append, line,
        Function.comp_def]
      rfl
    rw [written]
    exact readDeclaration_interface isName shapeWell rest

/-- **The module of declarations is read back**, declaration by declaration, to its end. -/
theorem readModule_declarationsModule {dataTypes : List DataType}
    (well : ∀ dataType ∈ dataTypes, dataType.WellNamed) :
    readModule (declarationsModule dataTypes) = some (dataTypes.map Outline.ofDataType) := by
  have many : readMany readDeclaration
      ((dataTypes.flatMap fun dataType => (Declaration.ofDataType dataType).block) ++ []) =
      (dataTypes.map Outline.ofDataType, []) := by
    apply readMany_append (fun _ => True)
    · intro dataType member after _
      exact readDeclaration_append (well dataType member) after
    · exact fun dataType _ => Declaration.block_ne_nil _
    · exact fun _ _ _ => trivial
    · exact trivial
    · rfl
  rw [List.append_nil] at many
  rw [readModule, declarationsModule, behind?_append]
  simp only [many, Option.bind_eq_bind, Option.bind_some]
  rfl

end Source

/-! ## What the module tells -/

open Source

/-- **The declarations determine the schema.** Two lists of data types with the same module of declarations
agree entry by entry: in name and kind, in the members of a union and their order, in the base of an alias,
and in the names, marks and type expressions of the fields of an object. -/
theorem declarations_determine_schema (first second : List DataType)
    (firstWell : ∀ dataType ∈ first, dataType.WellNamed)
    (secondWell : ∀ dataType ∈ second, dataType.WellNamed)
    (same : declarationsModule first = declarationsModule second) :
    first.length = second.length ∧
      first.map Outline.ofDataType = second.map Outline.ofDataType := by
  have outlines : first.map Outline.ofDataType = second.map Outline.ofDataType := by
    have read := readModule_declarationsModule firstWell
    rw [same, readModule_declarationsModule secondWell] at read
    exact (Option.some.inj read).symm
  have lengths := congrArg List.length outlines
  rw [List.length_map, List.length_map] at lengths
  exact ⟨lengths, outlines⟩

/-- A union with a member that looks like the end of its declaration and the beginning of another one, an
alias, and an object with a field of the given type. -/
def lookalikes (type : TypeRef) : List DataType := [
  ⟨"Tag", .union [.string "a\" | \"b\";\n\nexport type Id = number;", .integer (-3)]⟩,
  ⟨"Id", .alias .number⟩,
  ⟨"$Box", .object [⟨"item_1", .array type, true⟩]⟩]

theorem lookalikes_wellNamed {type : TypeRef} (well : type.WellNamed) :
    ∀ dataType ∈ lookalikes type, dataType.WellNamed := by
  have tag : IsName "Tag" := by decide
  have id : IsName "Id" := by decide
  have box : IsName "$Box" := by decide
  have item : IsName "item_1" := by decide
  have members : (DataType.Shape.union
      [.string "a\" | \"b\";\n\nexport type Id = number;", .integer (-3)]).WellNamed := by
    constructor <;> simp
  have fields : (DataType.Shape.object [⟨"item_1", .array type, true⟩]).WellNamed := by
    rintro _ (⟨⟩ | ⟨_, ⟨⟩⟩)
    exact ⟨item, well⟩
  simp only [lookalikes, List.forall_mem_cons]
  exact ⟨⟨tag, members⟩, ⟨id, trivial⟩, ⟨box, fields⟩, by simp⟩

/-- A declared type may be called like a primitive one; the module does not tell them apart, and need not:
the type expression is the same. -/
theorem declarations_determine_schema_of_lookalikes :
    (∀ dataType ∈ lookalikes (.primitive .string), dataType.WellNamed) ∧
      (∀ dataType ∈ lookalikes (.named "string"), dataType.WellNamed) ∧
      declarationsModule (lookalikes (.primitive .string)) =
        declarationsModule (lookalikes (.named "string")) ∧
      (lookalikes (.primitive .string)).length = (lookalikes (.named "string")).length ∧
      (lookalikes (.primitive .string)).map Outline.ofDataType =
        (lookalikes (.named "string")).map Outline.ofDataType := by
  have primitive := lookalikes_wellNamed (show (TypeRef.primitive .string).WellNamed from trivial)
  have named := lookalikes_wellNamed (show (TypeRef.named "string").WellNamed from Primitive.isName_name .string)
  have same : declarationsModule (lookalikes (.primitive .string)) =
      declarationsModule (lookalikes (.named "string")) := rfl
  exact ⟨primitive, named, same, declarations_determine_schema _ _ primitive named same⟩

end TypedEndpoints
