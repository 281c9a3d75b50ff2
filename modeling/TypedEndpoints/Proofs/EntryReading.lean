import TypedEndpoints.Proofs.ReferenceReading
/-!
What the reader of an entry has read, told member by member. The value is made of what is read under each
key, and the log is that of the members that report, in the order in which they are read. Each law is an
equivalence: a value that was read is taken apart by it, and one whose members are known is read by it.

* `Members.ReadsList`: the entries of a list under a key;
* `Field.Reads`, `DataType.Shape.Reads`, `HttpInterface.Reads`, `Metadata.Reads`: what is read under the
  keys of each object;
* `Field.ofJson_eq_ok_iff`, `DataType.ofJson_eq_ok_iff`, `HttpInterface.ofJson_eq_ok_iff`,
  `Metadata.ofJson_eq_ok_iff`: the readers read just that.
-/
set_option autoImplicit false
namespace TypedEndpoints

open Json Traced

/-! ## Lists -/

section Lists

variable {ε α β : Type}

theorem mapM_ne_nil_iff {read : Json → Traced ε α} {items : List Json} {log : List Record}
    {values : List α} (ran : items.mapM read = ⟨log, .ok values⟩) : values ≠ [] ↔ items ≠ [] := by
  cases items with
  | nil =>
      obtain ⟨-, rfl⟩ := (pure_eq_ok_iff _).mp ran
      simp
  | cons item items =>
      rw [List.mapM_cons] at ran
      obtain ⟨_, value, _, -, rest, -⟩ := (bind_eq_ok_iff _ _).mp ran
      obtain ⟨_, values, _, -, ended, -⟩ := (bind_eq_ok_iff _ _).mp rest
      obtain ⟨-, rfl⟩ := (pure_eq_ok_iff _).mp ended
      exact iff_of_true (List.cons_ne_nil _ _) (List.cons_ne_nil _ _)

/-- Each value of a list is read from one of the items. -/
theorem exists_item_of_mapM {read : Json → Traced ε α} {items : List Json} {log : List Record}
    {values : List α} (ran : items.mapM read = ⟨log, .ok values⟩) :
    ∀ value ∈ values, ∃ item ∈ items, ∃ first, read item = ⟨first, .ok value⟩ := by
  induction items generalizing log values with
  | nil =>
      obtain ⟨-, rfl⟩ := (pure_eq_ok_iff _).mp ran
      simp
  | cons item items ih =>
      rw [List.mapM_cons] at ran
      obtain ⟨first, value, _, headRead, whole, -⟩ := (bind_eq_ok_iff _ _).mp ran
      obtain ⟨rest, others, _, restRead, ended, -⟩ := (bind_eq_ok_iff _ _).mp whole
      obtain ⟨-, rfl⟩ := (pure_eq_ok_iff _).mp ended
      refine List.forall_mem_cons.mpr ⟨⟨item, List.mem_cons_self, first, headRead⟩, ?_⟩
      intro other member
      obtain ⟨source, inside, reads⟩ := ih restRead other member
      exact ⟨source, List.mem_cons_of_mem _ inside, reads⟩

/-- Reading a list without reports, told entry by entry. -/
theorem ofExcept_mapM (read : Json → Except ε α) (items : List Json) :
    ofExcept (items.mapM read) = items.mapM fun item => ofExcept (read item) := by
  induction items with
  | nil => rfl
  | cons item items ih =>
      rw [List.mapM_cons, List.mapM_cons, ← ih]
      cases read item with
      | error error => rfl
      | ok value =>
          cases items.mapM read with
          | error error => rfl
          | ok values => rfl

/-- The entries of the list under the key are read as these values. -/
def Json.Members.ReadsList (members : Members) (key : Text) (place : Place)
    (read : Json → Traced MetadataError α) (log : List Record) (values : List α) : Prop :=
  ∃ items, Members.list members key place = .ok items ∧ items.mapM read = ⟨log, .ok values⟩

variable {members : Members} {key : Text} {place : Place} {log : List Record} {last : β}

theorem list_bind_eq_ok_iff {read : Json → Traced MetadataError α}
    (next : List α → Traced MetadataError β) :
    ((Members.list members key place : Traced MetadataError (List Json)) >>= fun items =>
        items.mapM read >>= next) = ⟨log, .ok last⟩ ↔
      ∃ first values rest, Members.ReadsList members key place read first values ∧
        next values = ⟨rest, .ok last⟩ ∧ log = first ++ rest := by
  rw [lift_bind_eq_ok_iff]
  constructor
  · rintro ⟨items, listed, whole⟩
    obtain ⟨first, values, rest, ran, ended, rfl⟩ := (bind_eq_ok_iff _ _).mp whole
    exact ⟨first, values, rest, ⟨items, listed, ran⟩, ended, rfl⟩
  · rintro ⟨first, values, rest, ⟨items, listed, ran⟩, ended, rfl⟩
    exact ⟨items, listed, (bind_eq_ok_iff _ _).mpr ⟨first, values, rest, ran, ended, rfl⟩⟩

/-- The same for entries whose reader does not report. -/
theorem list_ofExcept_bind_eq_ok_iff {read : Json → Except MetadataError α}
    (next : List α → Traced MetadataError β) :
    ((Members.list members key place : Traced MetadataError (List Json)) >>= fun items =>
        ofExcept (items.mapM read) >>= next) = ⟨log, .ok last⟩ ↔
      ∃ values, Members.ReadsList members key place (fun raw => ofExcept (read raw)) [] values ∧
        next values = ⟨log, .ok last⟩ := by
  simp only [ofExcept_mapM]
  rw [list_bind_eq_ok_iff]
  constructor
  · rintro ⟨first, values, rest, ⟨items, listed, ran⟩, ended, rfl⟩
    obtain rfl : first = [] := by
      rw [← ofExcept_mapM] at ran
      exact ((ofExcept_eq_ok_iff _).mp ran).1
    exact ⟨values, ⟨items, listed, ran⟩, ended⟩
  · rintro ⟨values, listed, ended⟩
    exact ⟨[], values, log, listed, ended, rfl⟩

end Lists

/-! ## References that may be absent -/

/-- A reference that may be absent was absent, or it was read from a value that tells it. -/
theorem reference?_cases {members : Members} {key : Text} {log : List Record}
    {reference : Option TypeRef} (read : Members.reference? members key = ⟨log, .ok reference⟩) :
    (log = [] ∧ reference = none) ∨
      ∃ raw known, reference = some known ∧ TypeRef.ReadsAs raw log known ∧
        raw ≠ .null ∧ raw ≠ .string [] := by
  have absent (none : (pure none : Traced MetadataError _) = ⟨log, .ok reference⟩) :
      log = [] ∧ reference = .none := by
    obtain ⟨empty, same⟩ := (pure_eq_ok_iff _).mp none
    exact ⟨empty, same.symm⟩
  unfold Members.reference? at read
  split at read
  · exact .inl (absent read)
  · exact .inl (absent read)
  · exact .inl (absent read)
  · next raw notNull notEmpty there =>
    rw [map_eq_pure_bind] at read
    obtain ⟨first, known, rest, reads, ended, rfl⟩ := (bind_eq_ok_iff _ _).mp read
    obtain ⟨rfl, rfl⟩ := (pure_eq_ok_iff _).mp ended
    rw [List.append_nil]
    exact .inr ⟨raw, known, rfl, (TypeRef.ofJson_eq_iff _ _ _).mp reads, notNull, notEmpty⟩

/-! ## Fields -/

section Entries

variable {raw : Json} {members : Members} {log : List Record}

/-- What is read under the keys of a field. -/
structure Field.Reads (place : Place) (members : Members) (log : List Record) (field : Field) :
    Prop where
  name : Members.text members "name" place = .ok field.name
  type : ∃ raw, Members.get? members "type" = some raw ∧ TypeRef.ReadsAs raw log field.type
  optional : Members.flag members "optional" place = .ok field.optional

theorem Field.ofJson_eq_ok_iff (place : Place) (field : Field) :
    Field.ofJson place raw = ⟨log, .ok field⟩ ↔
      ∃ members, raw = .object members ∧ Field.Reads place members log field := by
  constructor
  · intro read
    cases raw with
    | object members =>
        obtain ⟨name, named, whole⟩ := (lift_bind_eq_ok_iff _ _).mp read
        cases found : Members.get? members "type" with
        | none =>
            rw [found] at whole
            exact absurd whole (fail_ne_ok _)
        | some raw =>
            rw [found] at whole
            obtain ⟨first, type, _, typed, rest, rfl⟩ := (bind_eq_ok_iff _ _).mp whole
            obtain ⟨optional, flagged, ended⟩ := (lift_bind_eq_ok_iff _ _).mp rest
            obtain ⟨rfl, rfl⟩ := (pure_eq_ok_iff _).mp ended
            rw [List.append_nil]
            exact ⟨members, rfl, named, ⟨raw, found, (TypeRef.ofJson_eq_iff _ _ _).mp typed⟩, flagged⟩
    | _ => exact absurd read (fail_ne_ok _)
  · rintro ⟨members, rfl, named, ⟨raw, found, typed⟩, flagged⟩
    refine (lift_bind_eq_ok_iff _ _).mpr ⟨field.name, named, ?_⟩
    rw [found]
    refine (bind_eq_ok_iff _ _).mpr ⟨log, field.type, [], typed.ofJson_eq, ?_, (List.append_nil _).symm⟩
    exact (lift_bind_eq_ok_iff _ _).mpr ⟨field.optional, flagged, rfl⟩

/-! ## Data types -/

/-- What is read under the keys of a data type of each kind. -/
inductive DataType.Shape.Reads (name : Text) (members : Members) :
    List Record → DataType.Shape → Prop
  | ofUnion {values : List EnumValue} (kind : Members.get? members "kind" = some (.string "enum"))
      (nonempty : values ≠ [])
      (listed : Members.ReadsList members "values" (.dataType name)
        (fun raw => ofExcept (EnumValue.ofJson name raw)) [] values) :
      Reads name members [] (.union values)
  | ofAlias {base : Primitive} (kind : Members.get? members "kind" = some (.string "alias"))
      (told : Members.get? members "baseType" = some (.string base.name)) :
      Reads name members [] (.alias base)
  | ofObject {log : List Record} {fields : List Field}
      (kind : Members.get? members "kind" = some (.string "object"))
      (listed : Members.ReadsList members "fields" (.dataType name) (Field.ofJson (.dataType name))
        log fields) :
      Reads name members log (.object fields)

theorem DataType.Shape.ofUnion_eq_ok_iff (name : Text) (shape : DataType.Shape) :
    DataType.Shape.ofUnion name members = ⟨log, .ok shape⟩ ↔
      ∃ values, Members.ReadsList members "values" (.dataType name)
        (fun raw => ofExcept (EnumValue.ofJson name raw)) [] values ∧
        values ≠ [] ∧ log = [] ∧ shape = .union values := by
  refine (lift_bind_eq_ok_iff _ _).trans ?_
  constructor
  · rintro ⟨items, listed, whole⟩
    by_cases empty : items.isEmpty = true
    · rw [if_pos empty] at whole
      exact absurd whole (fail_ne_ok _)
    · rw [if_neg empty] at whole
      obtain ⟨first, values, _, ran, ended, rfl⟩ := (bind_eq_ok_iff _ _).mp whole
      obtain ⟨rfl, rfl⟩ := (pure_eq_ok_iff _).mp ended
      obtain ⟨rfl, -⟩ := (ofExcept_eq_ok_iff _).mp ran
      rw [ofExcept_mapM] at ran
      exact ⟨values, ⟨items, listed, ran⟩, (mapM_ne_nil_iff ran).mpr (by simpa using empty), rfl, rfl⟩
  · rintro ⟨values, ⟨items, listed, ran⟩, nonempty, rfl, rfl⟩
    have nonempty' : ¬ items.isEmpty = true := by simpa using (mapM_ne_nil_iff ran).mp nonempty
    rw [← ofExcept_mapM] at ran
    refine ⟨items, listed, ?_⟩
    rw [if_neg nonempty']
    exact (bind_eq_ok_iff _ _).mpr ⟨[], values, [], ran, rfl, rfl⟩

theorem DataType.Shape.ofAlias_eq_ok_iff (name : Text) (shape : DataType.Shape) :
    DataType.Shape.ofAlias name members = ⟨log, .ok shape⟩ ↔
      ∃ base : Primitive, Members.get? members "baseType" = some (.string base.name) ∧
        log = [] ∧ shape = .alias base := by
  unfold DataType.Shape.ofAlias Members.value
  constructor
  · intro read
    split at read
    · next text told =>
      split at read
      · next base known =>
        obtain ⟨rfl, rfl⟩ := (pure_eq_ok_iff _).mp read
        obtain rfl := Primitive.eq_name_of_ofName? known
        refine ⟨base, ?_, rfl, rfl⟩
        cases found : Members.get? members "baseType" with
        | none => simp [found] at told
        | some raw => simpa [found] using told
      · exact absurd read (fail_ne_ok _)
    · exact absurd read (fail_ne_ok _)
  · rintro ⟨base, told, rfl, rfl⟩
    simp only [told, Option.getD_some, Primitive.ofName?_name]
    rfl

theorem DataType.Shape.ofObject_eq_ok_iff (name : Text) (shape : DataType.Shape) :
    DataType.Shape.ofObject name members = ⟨log, .ok shape⟩ ↔
      ∃ fields, Members.ReadsList members "fields" (.dataType name) (Field.ofJson (.dataType name))
        log fields ∧ shape = .object fields := by
  refine (list_bind_eq_ok_iff _).trans ?_
  constructor
  · rintro ⟨first, fields, _, listed, ended, rfl⟩
    obtain ⟨rfl, rfl⟩ := (pure_eq_ok_iff _).mp ended
    rw [List.append_nil]
    exact ⟨fields, listed, rfl⟩
  · rintro ⟨fields, listed, rfl⟩
    exact ⟨log, fields, [], listed, rfl, (List.append_nil log).symm⟩

/-- A data type is of one kind. -/
theorem DataType.Shape.ofMembers_eq_ok_iff (name : Text) (shape : DataType.Shape) :
    DataType.Shape.ofMembers name members = ⟨log, .ok shape⟩ ↔
      DataType.Shape.Reads name members log shape := by
  unfold DataType.Shape.ofMembers
  constructor
  · intro read
    split at read
    · next kind =>
      obtain ⟨values, listed, nonempty, rfl, rfl⟩ := (DataType.Shape.ofUnion_eq_ok_iff _ _).mp read
      exact .ofUnion ((holds_iff _ _ _).mp kind) nonempty listed
    · split at read
      · next kind =>
        obtain ⟨base, told, rfl, rfl⟩ := (DataType.Shape.ofAlias_eq_ok_iff _ _).mp read
        exact .ofAlias ((holds_iff _ _ _).mp kind) told
      · split at read
        · next kind =>
          obtain ⟨fields, listed, rfl⟩ := (DataType.Shape.ofObject_eq_ok_iff _ _).mp read
          exact .ofObject ((holds_iff _ _ _).mp kind) listed
        · exact absurd read (fail_ne_ok _)
  · intro reads
    cases reads with
    | ofUnion kind nonempty listed =>
        rw [if_pos ((holds_iff _ _ _).mpr kind)]
        exact (DataType.Shape.ofUnion_eq_ok_iff _ _).mpr ⟨_, listed, nonempty, rfl, rfl⟩
    | ofAlias kind told =>
        rw [if_neg (not_holds_of_get? _ _ kind (by decide)), if_pos ((holds_iff _ _ _).mpr kind)]
        exact (DataType.Shape.ofAlias_eq_ok_iff _ _).mpr ⟨_, told, rfl, rfl⟩
    | ofObject kind listed =>
        rw [if_neg (not_holds_of_get? _ _ kind (by decide)),
          if_neg (not_holds_of_get? _ _ kind (by decide)), if_pos ((holds_iff _ _ _).mpr kind)]
        exact (DataType.Shape.ofObject_eq_ok_iff _ _).mpr ⟨_, listed, rfl⟩

theorem DataType.ofJson_eq_ok_iff (dataType : DataType) :
    DataType.ofJson raw = ⟨log, .ok dataType⟩ ↔
      ∃ members, raw = .object members ∧
        Members.text members "name" .someDataType = .ok dataType.name ∧
        DataType.Shape.Reads dataType.name members log dataType.shape := by
  constructor
  · intro read
    cases raw with
    | object members =>
        obtain ⟨name, named, whole⟩ := (lift_bind_eq_ok_iff _ _).mp read
        obtain ⟨first, shape, _, shaped, ended, rfl⟩ := (bind_eq_ok_iff _ _).mp whole
        obtain ⟨rfl, rfl⟩ := (pure_eq_ok_iff _).mp ended
        rw [List.append_nil]
        exact ⟨members, rfl, named, (DataType.Shape.ofMembers_eq_ok_iff _ _).mp shaped⟩
    | _ => exact absurd read (fail_ne_ok _)
  · rintro ⟨members, rfl, named, shaped⟩
    refine (lift_bind_eq_ok_iff _ _).mpr ⟨dataType.name, named, ?_⟩
    exact (bind_eq_ok_iff _ _).mpr ⟨log, dataType.shape, [],
      (DataType.Shape.ofMembers_eq_ok_iff _ _).mpr shaped, rfl, (List.append_nil log).symm⟩

/-! ## HTTP interfaces -/

/-- What is read under the keys of an interface. Three of them report: the parameters, the type of the
body, and that of the response. -/
structure HttpInterface.Reads (members : Members) (params body response : List Record)
    (api : HttpInterface) : Prop where
  name : Members.text members "name" .someInterface = .ok api.name
  method : HttpMethod.ofJson (.interface api.name) (Members.value members "method") = .ok api.method
  headers : Members.ReadsList members "headers" (.interface api.name)
    (fun raw => ofExcept (headerOfJson (.interface api.name) raw)) [] api.headers
  path : Members.text members "path" (.interface api.name) = .ok api.path
  urlParams : Members.ReadsList members "urlParams" (.interface api.name)
    (Field.ofJson (.interface api.name)) params api.urlParams
  bodyType : Members.reference? members "bodyType" = ⟨body, .ok api.bodyType⟩
  responseType : Members.reference? members "responseType" = ⟨response, .ok api.responseType⟩
  isSse : Members.flag members "isSSE" (.interface api.name) = .ok api.isSse

theorem HttpInterface.ofJson_eq_ok_iff (api : HttpInterface) :
    HttpInterface.ofJson raw = ⟨log, .ok api⟩ ↔
      ∃ members params body response, raw = .object members ∧
        HttpInterface.Reads members params body response api ∧ log = params ++ (body ++ response) := by
  constructor
  · intro read
    cases raw with
    | object members =>
        obtain ⟨name, named, afterName⟩ := (lift_bind_eq_ok_iff _ _).mp read
        obtain ⟨method, methodRead, afterMethod⟩ := (lift_bind_eq_ok_iff _ _).mp afterName
        obtain ⟨headers, headersRead, afterHeaders⟩ := (list_ofExcept_bind_eq_ok_iff _).mp afterMethod
        obtain ⟨path, pathRead, afterPath⟩ := (lift_bind_eq_ok_iff _ _).mp afterHeaders
        obtain ⟨params, urlParams, _, paramsRead, afterParams, rfl⟩ :=
          (list_bind_eq_ok_iff _).mp afterPath
        obtain ⟨body, bodyType, _, bodyRead, afterBody, rfl⟩ := (bind_eq_ok_iff _ _).mp afterParams
        obtain ⟨response, responseType, _, responseRead, afterResponse, rfl⟩ :=
          (bind_eq_ok_iff _ _).mp afterBody
        obtain ⟨isSse, flagged, ended⟩ := (lift_bind_eq_ok_iff _ _).mp afterResponse
        obtain ⟨rfl, rfl⟩ := (pure_eq_ok_iff _).mp ended
        exact ⟨members, params, body, response, rfl, ⟨named, methodRead, headersRead, pathRead,
          paramsRead, bodyRead, responseRead, flagged⟩, by rw [List.append_nil]⟩
    | _ => exact absurd read (fail_ne_ok _)
  · rintro ⟨members, params, body, response, rfl, reads, rfl⟩
    refine (lift_bind_eq_ok_iff _ _).mpr ⟨api.name, reads.name, ?_⟩
    refine (lift_bind_eq_ok_iff _ _).mpr ⟨api.method, reads.method, ?_⟩
    refine (list_ofExcept_bind_eq_ok_iff _).mpr ⟨api.headers, reads.headers, ?_⟩
    refine (lift_bind_eq_ok_iff _ _).mpr ⟨api.path, reads.path, ?_⟩
    refine (list_bind_eq_ok_iff _).mpr ⟨params, api.urlParams, _, reads.urlParams, ?_, rfl⟩
    refine (bind_eq_ok_iff _ _).mpr ⟨body, api.bodyType, _, reads.bodyType, ?_, rfl⟩
    refine (bind_eq_ok_iff _ _).mpr
      ⟨response, api.responseType, [], reads.responseType, ?_, (List.append_nil _).symm⟩
    exact (lift_bind_eq_ok_iff _ _).mpr ⟨api.isSse, reads.isSse, rfl⟩

/-! ## The document -/

/-- What is read under the keys of a document. -/
structure Metadata.Reads (members : Members) (types interfaces : List Record) (metadata : Metadata) :
    Prop where
  dataTypes : Members.ReadsList members "dataTypes" .document DataType.ofJson types metadata.dataTypes
  httpInterfaces : Members.ReadsList members "httpInterfaces" .document HttpInterface.ofJson interfaces
    metadata.httpInterfaces

theorem Metadata.ofJson_eq_ok_iff (metadata : Metadata) :
    Metadata.ofJson raw = ⟨log, .ok metadata⟩ ↔
      ∃ members types interfaces, raw = .object members ∧
        Metadata.Reads members types interfaces metadata ∧
        log = types ++ (interfaces ++ [metadata.summary]) := by
  constructor
  · intro read
    cases raw with
    | object members =>
        obtain ⟨types, dataTypes, _, typesRead, afterTypes, rfl⟩ := (list_bind_eq_ok_iff _).mp read
        obtain ⟨interfaces, httpInterfaces, _, interfacesRead, afterInterfaces, rfl⟩ :=
          (list_bind_eq_ok_iff _).mp afterTypes
        obtain ⟨_, _, _, reported, ended, rfl⟩ := (bind_eq_ok_iff _ _).mp afterInterfaces
        obtain ⟨rfl, rfl⟩ := (pure_eq_ok_iff _).mp ended
        obtain ⟨rfl, -⟩ := Traced.mk.inj reported
        exact ⟨members, types, interfaces, rfl, ⟨typesRead, interfacesRead⟩, rfl⟩
    | _ => exact absurd read (fail_ne_ok _)
  · rintro ⟨members, types, interfaces, rfl, reads, rfl⟩
    refine (list_bind_eq_ok_iff _).mpr ⟨types, metadata.dataTypes, _, reads.dataTypes, ?_, rfl⟩
    refine (list_bind_eq_ok_iff _).mpr
      ⟨interfaces, metadata.httpInterfaces, _, reads.httpInterfaces, ?_, rfl⟩
    exact (bind_eq_ok_iff _ _).mpr ⟨[metadata.summary], (), [], rfl, rfl, rfl⟩

end Entries
end TypedEndpoints
