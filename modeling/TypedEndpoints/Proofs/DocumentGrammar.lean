import TypedEndpoints.Proofs.MethodText
import TypedEndpoints.Proofs.TracedRuns
/-!
The grammar of documents, and that exactly its documents are read. The grammar speaks of decoded values
and their members alone; what a reader does on the way (the order of its checks, its warnings, its
messages) is no part of it.

* `Json.IsDocument`: the grammar, from the document down to a field;
* `TypeRef.ofJson_succeeds`: reading a reference never fails, at any depth;
* `field_succeeds_iff`, `dataType_succeeds_iff`, `interface_succeeds_iff`: each entry is read exactly if
  it is well formed;
* `document_read_iff`: so is the document, and any other value ends in an error of the format.
-/
set_option autoImplicit false
namespace TypedEndpoints

/-! ## The grammar -/

namespace Json

/-- The key is there, with such a value. -/
def Members.Required (members : Members) (key : Text) (valid : Json → Prop) : Prop :=
  ∃ value, Members.get? members key = some value ∧ valid value

/-- The key is missing, or its value is null or such a value. -/
def Members.Optional (members : Members) (key : Text) (valid : Json → Prop) : Prop :=
  ∀ value, Members.get? members key = some value → value = .null ∨ valid value

/-- A string that is not empty. -/
def IsName (value : Json) : Prop := ∃ text, value = .string text ∧ text ≠ []

def IsString (value : Json) : Prop := ∃ text, value = .string text

def IsFlag (value : Json) : Prop := ∃ flag, value = .bool flag

def IsListOf (valid : Json → Prop) (value : Json) : Prop :=
  ∃ items, value = .array items ∧ ∀ item ∈ items, valid item

def IsObjectWith (valid : Members → Prop) (value : Json) : Prop :=
  ∃ members, value = .object members ∧ valid members

/-- A field of an object or a parameter of a path. Any value does for a type, null too. -/
structure FieldMembers (members : Members) : Prop where
  name : Members.Required members "name" IsName
  type : Members.Required members "type" fun _ => True
  optional : Members.Optional members "optional" IsFlag

/-- A member of a union: a string, a whole number or a finite number. -/
inductive IsUnionValue : Json → Prop
  | string (text : Text) : IsUnionValue (.string text)
  | integer (value : Int) : IsUnionValue (.integer value)
  | float (number : Binary64) (finite : number.isFinite = true) : IsUnionValue (.float number)

/-- What a data type of each kind needs. -/
inductive KindMembers (members : Members) : Prop
  | union (kind : Members.get? members "kind" = some (.string "enum"))
      (values : Members.Required members "values" fun value =>
        IsListOf IsUnionValue value ∧ value ≠ .array [])
  | alias (kind : Members.get? members "kind" = some (.string "alias"))
      (base : Members.Required members "baseType" fun value =>
        value = .string "string" ∨ value = .string "number" ∨ value = .string "boolean")
  | object (kind : Members.get? members "kind" = some (.string "object"))
      (fields : Members.Optional members "fields" (IsListOf (IsObjectWith FieldMembers)))

structure DataTypeMembers (members : Members) : Prop where
  name : Members.Required members "name" IsName
  kind : KindMembers members

/-- A string whose upper case is a method. -/
def IsMethod (value : Json) : Prop :=
  ∃ text, value = .string text ∧
    text.upperCased ∈ (["GET", "POST", "PUT", "DELETE", "PATCH"] : List Text)

/-- Nothing is asked of the types of the body and of the response. -/
structure InterfaceMembers (members : Members) : Prop where
  name : Members.Required members "name" IsName
  method : Members.Required members "method" IsMethod
  path : Members.Required members "path" IsName
  headers : Members.Optional members "headers" (IsListOf IsString)
  urlParams : Members.Optional members "urlParams" (IsListOf (IsObjectWith FieldMembers))
  isSse : Members.Optional members "isSSE" IsFlag

structure DocumentMembers (members : Members) : Prop where
  dataTypes : Members.Optional members "dataTypes" (IsListOf (IsObjectWith DataTypeMembers))
  httpInterfaces :
    Members.Optional members "httpInterfaces" (IsListOf (IsObjectWith InterfaceMembers))

/-- A document of the format. -/
def IsDocument : Json → Prop := IsObjectWith DocumentMembers

/-! ## Members of a known kind -/

section Members

variable (members : Members) (key : Text) (place : Place)

theorem text_ok_iff :
    (∃ text, Members.text members key place = .ok text) ↔ Members.Required members key IsName := by
  unfold Members.text Members.Required IsName
  constructor
  · rintro ⟨text, read⟩
    split at read
    · next first rest found => exact ⟨_, found, first :: rest, rfl, List.cons_ne_nil first rest⟩
    · cases read
  · rintro ⟨_, found, text, rfl, nonempty⟩
    obtain ⟨first, rest, rfl⟩ := List.exists_cons_of_ne_nil nonempty
    exact ⟨first :: rest, by rw [found]⟩

theorem flag_ok_iff :
    (∃ flag, Members.flag members key place = .ok flag) ↔ Members.Optional members key IsFlag := by
  unfold Members.flag Members.Optional IsFlag
  cases found : Members.get? members key with
  | none => simp
  | some value => cases value <;> simp

/-- A list is read from a missing key or a null as empty, and from a list as it is. -/
theorem list_ok_iff (valid : Json → Prop) :
    (∃ items, Members.list members key place = .ok items ∧ ∀ item ∈ items, valid item) ↔
      Members.Optional members key (IsListOf valid) := by
  unfold Members.list Members.Optional IsListOf
  cases found : Members.get? members key with
  | none => simp
  | some value => cases value <;> simp

/-- Only a list that is there has entries. -/
theorem list_ok_iff_of_ne_nil {items : List Json} (nonempty : items ≠ []) :
    Members.list members key place = .ok items ↔ Members.get? members key = some (.array items) := by
  unfold Members.list
  cases found : Members.get? members key with
  | none => simp [nonempty.symm]
  | some value => cases value <;> simp [nonempty.symm]

theorem holds_iff (expected : Text) :
    Members.holds members key expected = true ↔
      Members.get? members key = some (.string expected) := by
  unfold Members.holds
  split
  · next value found => simp [found]
  · next other =>
      simp only [Bool.false_eq_true, false_iff]
      exact other expected

/-- A key holds one text and no other. -/
theorem not_holds_of_get? {text other : Text} (found : Members.get? members key = some (.string text))
    (distinct : text ≠ other) : ¬ Members.holds members key other = true := by
  intro holds
  have both := found.symm.trans ((holds_iff _ _ _).mp holds)
  exact distinct (by simpa using both)

end Members
end Json

open Json Traced

/-! ## References -/

mutual

/-- Reading a reference never fails. -/
theorem TypeRef.ofJson_succeeds {ε : Type} (raw : Json) :
    (TypeRef.ofJson raw : Traced ε TypeRef).Succeeds := by
  have kept : ∀ value, (TypeRef.keep value : Traced ε TypeRef).Succeeds := fun value => ⟨_, rfl⟩
  have plain : ∀ members, (TypeRef.ofMembers members : Traced ε TypeRef).Succeeds := by
    intro members
    unfold TypeRef.ofMembers
    split
    · split
      · exact succeeds_pure _
      · exact kept _
    · exact kept _
  match raw with
  | .null | .bool _ | .integer _ | .float _ | .array _ => exact kept _
  | .string text =>
      unfold TypeRef.ofJson
      split
      · exact succeeds_pure _
      · exact kept _
  | .object members =>
      unfold TypeRef.ofJson
      split
      · split
        · next item found =>
            obtain ⟨reference, ended⟩ := TypeRef.itemOfMembers?_succeeds members found
            exact (succeeds_bind _ _).mpr ⟨reference, ended, succeeds_pure _⟩
        · exact plain _
      · exact plain _

theorem TypeRef.itemOfMembers?_succeeds {ε : Type} (members : List (Text × Json))
    {item : Traced ε TypeRef} (found : TypeRef.itemOfMembers? members = some item) :
    item.Succeeds := by
  match members with
  | [] => cases found
  | (key, value) :: rest =>
      unfold TypeRef.itemOfMembers? at found
      split at found
      · cases found
        exact TypeRef.ofJson_succeeds value
      · exact TypeRef.itemOfMembers?_succeeds rest found

end

theorem reference?_succeeds (members : Members) (key : Text) :
    (Members.reference? members key).Succeeds := by
  unfold Members.reference?
  split
  · exact succeeds_pure _
  · exact succeeds_pure _
  · exact succeeds_pure _
  · exact (succeeds_map _ _).mpr (TypeRef.ofJson_succeeds _)

/-! ## Entries -/

/-- A reader of objects alone. -/
theorem object_succeeds_iff {α : Type} {valid : Members → Prop} (read : Json → Traced MetadataError α)
    (ofMembers : ∀ members, (read (.object members)).Succeeds ↔ valid members)
    (other : ∀ value, (∀ members, value ≠ .object members) → ¬ (read value).Succeeds) (value : Json) :
    (read value).Succeeds ↔ IsObjectWith valid value := by
  by_cases isObject : ∃ members, value = .object members
  · obtain ⟨members, rfl⟩ := isObject
    rw [ofMembers]
    exact ⟨fun holds => ⟨members, rfl, holds⟩, fun ⟨_, same, holds⟩ => by cases same; exact holds⟩
  · refine iff_of_false (other value fun members same => isObject ⟨members, same⟩) ?_
    rintro ⟨members, same, -⟩
    exact isObject ⟨members, same⟩

/-- A list of entries, read entry by entry. -/
theorem entries_succeed_iff {α : Type} {valid : Json → Prop} (members : Members) (key : Text)
    (place : Place) (read : Json → Traced MetadataError α)
    (entry : ∀ value, (read value).Succeeds ↔ valid value) :
    (∃ items, Members.list members key place = .ok items ∧ (items.mapM read).Succeeds) ↔
      Members.Optional members key (IsListOf valid) := by
  simp only [succeeds_mapM, entry]
  exact list_ok_iff members key place valid

/-- A list, what is read from it, and the rest. -/
theorem list_bind_succeeds_iff {α β : Type} {p q : Prop} (members : Members) (key : Text)
    (place : Place) (read : List Json → Traced MetadataError α)
    (list : (∃ items, Members.list members key place = .ok items ∧ (read items).Succeeds) ↔ p)
    {next : α → Traced MetadataError β} (last : ∀ value, (next value).Succeeds ↔ q) :
    ((Members.list members key place : Traced MetadataError (List Json)) >>= fun items =>
      read items >>= next).Succeeds ↔ p ∧ q := by
  refine (succeeds_bind (ofExcept (Members.list members key place)) _).trans ?_
  rw [← list]
  constructor
  · rintro ⟨items, ended, whole⟩
    obtain ⟨first, rest⟩ := (succeeds_bind_of_const Iff.rfl last).mp whole
    exact ⟨⟨items, ended, first⟩, rest⟩
  · rintro ⟨⟨items, ended, first⟩, rest⟩
    exact ⟨items, ended, (succeeds_bind_of_const Iff.rfl last).mpr ⟨first, rest⟩⟩

theorem field_succeeds_iff (place : Place) (value : Json) :
    (Field.ofJson place value).Succeeds ↔ IsObjectWith FieldMembers value := by
  refine object_succeeds_iff _ (fun members => ?_) (fun value other => ?_) value
  · cases found : Members.get? members "type" with
    | none =>
        refine iff_of_false ?_ fun valid => ?_
        · simp only [Field.ofJson, found]
          rw [succeeds_lift_bind_of_const Iff.rfl fun _ => iff_false_intro (not_succeeds_fail _)]
          exact fun both => both.2
        · obtain ⟨_, there, -⟩ := valid.type
          rw [found] at there
          cases there
    | some raw =>
        simp only [Field.ofJson, found]
        rw [succeeds_lift_bind_of_const (text_ok_iff members "name" place) fun name =>
          succeeds_bind_of_const (iff_true_intro (TypeRef.ofJson_succeeds raw)) fun type =>
          succeeds_lift_bind_pure (flag_ok_iff members "optional" place)]
        exact ⟨fun ⟨name, _, optional⟩ => ⟨name, ⟨raw, found, trivial⟩, optional⟩,
          fun valid => ⟨valid.name, trivial, valid.optional⟩⟩
  · cases value <;> first | exact not_succeeds_fail _ | exact absurd rfl (other _)

theorem fields_succeed_iff (members : Members) (key : Text) (place : Place) :
    (∃ items, Members.list members key place = .ok items ∧
        (items.mapM (Field.ofJson place)).Succeeds) ↔
      Members.Optional members key (IsListOf (IsObjectWith FieldMembers)) :=
  entries_succeed_iff members key place (Field.ofJson place) (field_succeeds_iff place)

theorem unionValue_ok_iff (name : Text) (value : Json) :
    (∃ member, EnumValue.ofJson name value = .ok member) ↔ IsUnionValue value := by
  unfold EnumValue.ofJson
  constructor
  · rintro ⟨member, read⟩
    split at read
    · exact .string _
    · exact .integer _
    · next number =>
        split at read
        · next finite => exact .float number finite
        · cases read
    · cases read
  · rintro (text | value | ⟨number, finite⟩)
    · exact ⟨_, rfl⟩
    · exact ⟨_, rfl⟩
    · exact ⟨.float number, if_pos finite⟩

/-! ## Data types -/

theorem union_succeeds_iff (name : Text) (members : Members) :
    (DataType.Shape.ofUnion name members).Succeeds ↔
      Members.Required members "values" fun value =>
        IsListOf IsUnionValue value ∧ value ≠ .array [] := by
  have inside : ∀ items : List Json,
      (if items.isEmpty then fail (.emptyUnion name)
        else (do
          let values ← ofExcept (items.mapM (EnumValue.ofJson name))
          return DataType.Shape.union values : Traced MetadataError DataType.Shape)).Succeeds ↔
        items ≠ [] ∧ ∀ item ∈ items, IsUnionValue item := by
    intro items
    by_cases empty : items = []
    · simp [empty]
    · have notEmpty : ¬ items.isEmpty = true := by simpa using empty
      rw [if_neg notEmpty, succeeds_bind_pure (succeeds_ofExcept _), mapM_ok_iff]
      simp only [unionValue_ok_iff, ne_eq, empty, not_false_eq_true, true_and]
  unfold DataType.Shape.ofUnion
  refine (succeeds_bind (ofExcept (Members.list members "values" (.dataType name))) _).trans ?_
  constructor
  · rintro ⟨items, read, rest⟩
    obtain ⟨nonempty, valid⟩ := (inside items).mp rest
    refine ⟨.array items, (list_ok_iff_of_ne_nil _ _ _ nonempty).mp read, ⟨items, rfl, valid⟩, ?_⟩
    simpa using nonempty
  · rintro ⟨_, found, ⟨items, rfl, valid⟩, nonempty⟩
    have nonempty : items ≠ [] := by simpa using nonempty
    exact ⟨items, (list_ok_iff_of_ne_nil _ _ _ nonempty).mpr found,
      (inside items).mpr ⟨nonempty, valid⟩⟩

theorem primitive_ofName?_iff (name : Text) :
    (∃ base, Primitive.ofName? name = some base) ↔
      name = "string" ∨ name = "number" ∨ name = "boolean" := by
  constructor
  · rintro ⟨base, found⟩
    have named := List.find?_some found
    simp only [beq_iff_eq] at named
    subst named
    cases base
    · exact Or.inl rfl
    · exact Or.inr (Or.inl rfl)
    · exact Or.inr (Or.inr rfl)
  · rintro (rfl | rfl | rfl)
    · exact ⟨.string, by decide⟩
    · exact ⟨.number, by decide⟩
    · exact ⟨.boolean, by decide⟩

theorem alias_succeeds_iff (name : Text) (members : Members) :
    (DataType.Shape.ofAlias name members).Succeeds ↔
      Members.Required members "baseType" fun value =>
        value = .string "string" ∨ value = .string "number" ∨ value = .string "boolean" := by
  unfold DataType.Shape.ofAlias Members.Required Members.value
  cases found : Members.get? members "baseType" with
  | none => simp
  | some value =>
      cases value with
      | string base =>
          simp only [Option.getD_some, Option.some.injEq, exists_eq_left', string.injEq]
          rw [← primitive_ofName?_iff]
          cases looked : Primitive.ofName? base with
          | none => simp
          | some known => exact iff_of_true (succeeds_pure _) ⟨known, rfl⟩
      | _ => simp

theorem object_shape_succeeds_iff (name : Text) (members : Members) :
    (DataType.Shape.ofObject name members).Succeeds ↔
      Members.Optional members "fields" (IsListOf (IsObjectWith FieldMembers)) := by
  unfold DataType.Shape.ofObject
  refine (succeeds_bind (ofExcept (Members.list members "fields" (.dataType name))) _).trans ?_
  rw [← fields_succeed_iff members "fields" (.dataType name)]
  exact exists_congr fun items => and_congr_right fun _ => succeeds_bind_pure Iff.rfl

theorem kind_succeeds_iff (name : Text) (members : Members) :
    (DataType.Shape.ofMembers name members).Succeeds ↔ KindMembers members := by
  unfold DataType.Shape.ofMembers
  constructor
  · intro succeeds
    split at succeeds
    · next kind =>
        exact .union ((holds_iff _ _ _).mp kind) ((union_succeeds_iff name members).mp succeeds)
    · split at succeeds
      · next kind =>
          exact .alias ((holds_iff _ _ _).mp kind) ((alias_succeeds_iff name members).mp succeeds)
      · split at succeeds
        · next kind =>
            exact .object ((holds_iff _ _ _).mp kind)
              ((object_shape_succeeds_iff name members).mp succeeds)
        · exact absurd succeeds (not_succeeds_fail _)
  · rintro (⟨kind, values⟩ | ⟨kind, base⟩ | ⟨kind, fields⟩)
    · rw [if_pos ((holds_iff _ _ _).mpr kind)]
      exact (union_succeeds_iff name members).mpr values
    · rw [if_neg (not_holds_of_get? _ _ kind (by decide)), if_pos ((holds_iff _ _ _).mpr kind)]
      exact (alias_succeeds_iff name members).mpr base
    · rw [if_neg (not_holds_of_get? _ _ kind (by decide)),
        if_neg (not_holds_of_get? _ _ kind (by decide)), if_pos ((holds_iff _ _ _).mpr kind)]
      exact (object_shape_succeeds_iff name members).mpr fields

theorem dataType_succeeds_iff (value : Json) :
    (DataType.ofJson value).Succeeds ↔ IsObjectWith DataTypeMembers value := by
  refine object_succeeds_iff _ (fun members => ?_) (fun value other => ?_) value
  · simp only [DataType.ofJson]
    rw [succeeds_lift_bind_of_const (text_ok_iff members "name" .someDataType) fun name =>
      succeeds_bind_pure (kind_succeeds_iff name members)]
    exact ⟨fun ⟨name, kind⟩ => ⟨name, kind⟩, fun valid => ⟨valid.name, valid.kind⟩⟩
  · cases value <;> first | exact not_succeeds_fail _ | exact absurd rfl (other _)

/-! ## HTTP interfaces -/

theorem headers_ok_iff (members : Members) (place : Place) :
    (∃ items, Members.list members "headers" place = .ok items ∧
        ∃ headers, items.mapM (headerOfJson place) = .ok headers) ↔
      Members.Optional members "headers" (IsListOf IsString) := by
  have header : ∀ item, (∃ text, headerOfJson place item = .ok text) ↔ IsString item := by
    intro item
    unfold headerOfJson IsString
    cases item <;> simp
  simp only [mapM_ok_iff, header]
  exact list_ok_iff members "headers" place _

/-- A missing method is taken for a null, which is none. -/
theorem method_ok_iff (members : Members) (place : Place) :
    (∃ method, HttpMethod.ofJson place (Members.value members "method") = .ok method) ↔
      Members.Required members "method" IsMethod := by
  have names : ∀ text : Text, (∃ method, text = HttpMethod.name method) ↔
      text ∈ (["GET", "POST", "PUT", "DELETE", "PATCH"] : List Text) := by
    intro text
    simp only [List.mem_cons, List.not_mem_nil, or_false]
    constructor
    · rintro ⟨method, rfl⟩
      cases method <;> simp [HttpMethod.name]
    · rintro (rfl | rfl | rfl | rfl | rfl)
      · exact ⟨.get, rfl⟩
      · exact ⟨.post, rfl⟩
      · exact ⟨.put, rfl⟩
      · exact ⟨.delete, rfl⟩
      · exact ⟨.patch, rfl⟩
  rw [ofJson_method_iff]
  unfold Members.Required IsMethod Members.value
  simp only [← names]
  cases found : Members.get? members "method" with
  | none => simp
  | some value => simp

theorem interface_succeeds_iff (value : Json) :
    (HttpInterface.ofJson value).Succeeds ↔ IsObjectWith InterfaceMembers value := by
  refine object_succeeds_iff _ (fun members => ?_) (fun value other => ?_) value
  · simp only [HttpInterface.ofJson]
    -- reader by reader; those of references ask for nothing
    rw [succeeds_lift_bind_of_const (text_ok_iff members "name" .someInterface) fun name =>
      succeeds_lift_bind_of_const (method_ok_iff members _) fun method =>
      list_bind_succeeds_iff members "headers" _ _ (headers_ok_iff members _) fun headers =>
      succeeds_lift_bind_of_const (text_ok_iff members "path" _) fun path =>
      list_bind_succeeds_iff members "urlParams" _ _ (fields_succeed_iff members "urlParams" _)
        fun urlParams =>
      succeeds_bind_of_const (iff_true_intro (reference?_succeeds members "bodyType")) fun body =>
      succeeds_bind_of_const (iff_true_intro (reference?_succeeds members "responseType"))
        fun response =>
      succeeds_lift_bind_pure (flag_ok_iff members "isSSE" _)]
    exact ⟨fun ⟨name, method, headers, path, urlParams, _, _, isSse⟩ =>
        ⟨name, method, path, headers, urlParams, isSse⟩,
      fun valid => ⟨valid.name, valid.method, valid.headers, valid.path, valid.urlParams, trivial,
        trivial, valid.isSse⟩⟩
  · cases value <;> first | exact not_succeeds_fail _ | exact absurd rfl (other _)

/-! ## The document -/

theorem metadata_succeeds_iff (value : Json) : (Metadata.ofJson value).Succeeds ↔ IsDocument value := by
  refine object_succeeds_iff _ (fun members => ?_) (fun value other => ?_) value
  · simp only [Metadata.ofJson]
    rw [list_bind_succeeds_iff members "dataTypes" _ _
        (entries_succeed_iff members _ _ DataType.ofJson dataType_succeeds_iff) fun dataTypes =>
      list_bind_succeeds_iff members "httpInterfaces" _ _
        (entries_succeed_iff members _ _ HttpInterface.ofJson interface_succeeds_iff)
        fun httpInterfaces => succeeds_bind_pure (iff_true_intro ⟨(), rfl⟩)]
    exact ⟨fun ⟨dataTypes, httpInterfaces, _⟩ => ⟨dataTypes, httpInterfaces⟩,
      fun valid => ⟨valid.dataTypes, valid.httpInterfaces, trivial⟩⟩
  · cases value <;> first | exact not_succeeds_fail _ | exact absurd rfl (other _)

/-- **Main result.** A value is read as metadata exactly if it is a document of the format, and ends in
an error of the format exactly if it is none. -/
theorem document_read_iff (value : Json) :
    ((∃ metadata : Metadata, (Metadata.ofJson value).outcome = .ok metadata) ↔ IsDocument value) ∧
      ((∃ error : MetadataError, (Metadata.ofJson value).outcome = .error error) ↔
        ¬ IsDocument value) := by
  have succeeds := metadata_succeeds_iff value
  refine ⟨succeeds, ?_⟩
  rw [← succeeds]
  constructor
  · rintro ⟨error, failed⟩ ⟨metadata, read⟩
    rw [failed] at read
    cases read
  · intro fails
    cases ended : (Metadata.ofJson value).outcome with
    | error error => exact ⟨error, rfl⟩
    | ok metadata => exact (fails ⟨metadata, ended⟩).elim

end TypedEndpoints
