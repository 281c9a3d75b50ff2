import TypedEndpoints.Proofs.EntryReading
/-!
The plain form of a document. It says everything that a document says with every key written out: what
was missing or null is an empty list, `false` or null there, and a reference has one form. Reading the
plain form of a document that was read gives the same metadata, with the same reports.

* `Metadata.canonical`: the plain form, from the document down to a field;
* `Rereads`: the law, for one reader and one plain form, and for lists of entries (`Rereads.mapM`,
  `Rereads.list`);
* `field_rereads`, `dataType_rereads`, `interface_rereads`: the law for each entry;
* `canonical_read_again`: the law for the document.
-/
set_option autoImplicit false
namespace TypedEndpoints

open Json Traced

/-! ## The plain form -/

def Field.canonical (field : Field) : Json :=
  .object [("name", .string field.name), ("type", field.type.canonical),
    ("optional", .bool field.optional)]

def EnumValue.canonical : EnumValue → Json
  | string value => .string value
  | integer value => .integer value
  | float value => .float value

/-- The members of a data type of this name. -/
def DataType.Shape.canonicalMembers (name : Text) : DataType.Shape → Members
  | .union values => [("kind", .string "enum"), ("name", .string name),
      ("values", .array (values.map EnumValue.canonical))]
  | .alias base => [("kind", .string "alias"), ("name", .string name),
      ("baseType", .string base.name)]
  | .object fields => [("kind", .string "object"), ("name", .string name),
      ("fields", .array (fields.map Field.canonical))]

def DataType.canonical (dataType : DataType) : Json :=
  .object (dataType.shape.canonicalMembers dataType.name)

/-- No reference is told as null. -/
def TypeRef.canonical? : Option TypeRef → Json
  | none => .null
  | some reference => reference.canonical

def HttpInterface.canonical (api : HttpInterface) : Json :=
  .object [("name", .string api.name), ("method", .string api.method.name),
    ("path", .string api.path), ("urlParams", .array (api.urlParams.map Field.canonical)),
    ("bodyType", TypeRef.canonical? api.bodyType),
    ("responseType", TypeRef.canonical? api.responseType),
    ("headers", .array (api.headers.map Json.string)), ("isSSE", .bool api.isSse)]

def Metadata.canonical (metadata : Metadata) : Json :=
  .object [("dataTypes", .array (metadata.dataTypes.map DataType.canonical)),
    ("httpInterfaces", .array (metadata.httpInterfaces.map HttpInterface.canonical))]

/-! ## The law -/

section Law

variable {ε α : Type}

/-- What is written for a value that was read is read as that value again, with the same reports. -/
def Rereads (read : Json → Traced ε α) (write : α → Json) : Prop :=
  ∀ ⦃raw : Json⦄ ⦃log : List Record⦄ ⦃value : α⦄, read raw = ⟨log, .ok value⟩ →
    read (write value) = ⟨log, .ok value⟩

/-- The law holds of a list of entries if it holds of an entry. -/
theorem Rereads.mapM {read : Json → Traced ε α} {write : α → Json} (entry : Rereads read write)
    {items : List Json} {log : List Record} {values : List α}
    (ran : items.mapM read = ⟨log, .ok values⟩) :
    (values.map write).mapM read = ⟨log, .ok values⟩ := by
  induction items generalizing log values with
  | nil =>
      obtain ⟨rfl, rfl⟩ := (pure_eq_ok_iff _).mp ran
      rfl
  | cons item items ih =>
      rw [List.mapM_cons] at ran
      obtain ⟨first, value, _, head, others, rfl⟩ := (bind_eq_ok_iff _ _).mp ran
      obtain ⟨rest, values, _, tail, ended, rfl⟩ := (bind_eq_ok_iff _ _).mp others
      obtain ⟨rfl, rfl⟩ := (pure_eq_ok_iff _).mp ended
      rw [List.map_cons, List.mapM_cons, entry head, ih tail, bind_ok, bind_ok]
      rfl

end Law

/-! ## Members -/

section Members

variable {members : Members} {key : Text}

theorem text_eq_ok_iff (place : Place) (text : Text) :
    Members.text members key place = .ok text ↔
      Members.get? members key = some (.string text) ∧ text ≠ [] := by
  unfold Members.text
  split
  · next first rest found =>
    rw [found]
    constructor
    · intro same
      cases same
      simp
    · rintro ⟨same, -⟩
      cases same
      rfl
  · next other =>
    constructor
    · exact nofun
    · rintro ⟨found, nonempty⟩
      obtain ⟨first, rest, rfl⟩ := List.exists_cons_of_ne_nil nonempty
      exact (other first rest found).elim

/-- A text is there again under the key, and it is no less than it was. -/
theorem text_of_get? {place : Place} {text : Text}
    (read : Members.text members key place = .ok text) {others : Members}
    (found : Members.get? others key = some (.string text)) :
    Members.text others key place = .ok text :=
  (text_eq_ok_iff place text).mpr ⟨found, ((text_eq_ok_iff place text).mp read).2⟩

theorem flag_of_get? (place : Place) {flag : Bool}
    (found : Members.get? members key = some (.bool flag)) :
    Members.flag members key place = .ok flag := by
  unfold Members.flag
  rw [found]

theorem list_of_get? (place : Place) {items : List Json}
    (found : Members.get? members key = some (.array items)) :
    Members.list members key place = .ok items := by
  unfold Members.list
  rw [found]

/-- The law for the entries of a list under a key. -/
theorem Rereads.list {α : Type} {read : Json → Traced MetadataError α} {write : α → Json}
    (entry : Rereads read write) {place : Place} {log : List Record} {values : List α}
    (listed : Members.ReadsList members key place read log values) {others : Members}
    (found : Members.get? others key = some (.array (values.map write))) :
    Members.ReadsList others key place read log values := by
  obtain ⟨items, -, ran⟩ := listed
  exact ⟨_, list_of_get? place found, entry.mapM ran⟩

theorem reference?_of_absent (absent : Members.get? members key = some .null) :
    Members.reference? members key = pure none := by
  unfold Members.reference?
  rw [absent]

theorem reference?_of_present {raw : Json} (found : Members.get? members key = some raw)
    (notNull : raw ≠ .null) (notEmpty : raw ≠ .string []) :
    Members.reference? members key = some <$> TypeRef.ofJson raw := by
  unfold Members.reference?
  rw [found]
  split
  · contradiction
  · next same => exact absurd (Option.some.inj same) notNull
  · next same => exact absurd (Option.some.inj same) notEmpty
  · next same =>
    cases same
    rfl

/-- A reference that may be absent is read again from its plain form, under any key. -/
theorem reference?_rereads {log : List Record} {reference : Option TypeRef}
    (read : Members.reference? members key = ⟨log, .ok reference⟩) {others : Members} {other : Text}
    (found : Members.get? others other = some (TypeRef.canonical? reference)) :
    Members.reference? others other = ⟨log, .ok reference⟩ := by
  rcases reference?_cases read with ⟨rfl, rfl⟩ | ⟨raw, known, rfl, reads, notNull, notEmpty⟩
  · exact reference?_of_absent found
  · obtain ⟨notNull', notEmpty'⟩ := reads.canonical_present notNull notEmpty
    rw [reference?_of_present found notNull' notEmpty', TypeRef.canonical?, reads.canonical.ofJson_eq,
      map_eq_pure_bind, bind_ok]
    simp [pure_def]

end Members

/-! ## Fields -/

theorem field_rereads (place : Place) : Rereads (Field.ofJson place) Field.canonical := by
  intro raw log field read
  obtain ⟨members, rfl, reads⟩ := (Field.ofJson_eq_ok_iff place field).mp read
  obtain ⟨raw, -, typed⟩ := reads.type
  refine (Field.ofJson_eq_ok_iff place field).mpr ⟨_, rfl, ?_⟩
  exact ⟨text_of_get? reads.name rfl, ⟨_, rfl, typed.canonical⟩, flag_of_get? place rfl⟩

/-! ## Data types -/

theorem unionValue_rereads (name : Text) :
    Rereads (fun raw => Traced.ofExcept (EnumValue.ofJson name raw)) EnumValue.canonical := by
  intro raw log value read
  obtain ⟨rfl, known⟩ := (ofExcept_eq_ok_iff _).mp read
  rw [ofExcept_eq_ok_iff]
  refine ⟨rfl, ?_⟩
  unfold EnumValue.ofJson at known
  split at known
  · cases known
    rfl
  · cases known
    rfl
  · split at known
    · next finite =>
      cases known
      exact if_pos finite
    · cases known
  · cases known

theorem shape_rereads {name : Text} {members : Members} {log : List Record} {shape : DataType.Shape}
    (reads : shape.Reads name members log) :
    shape.Reads name (shape.canonicalMembers name) log := by
  cases reads with
  | ofUnion kind nonempty listed =>
      exact .ofUnion rfl nonempty ((unionValue_rereads name).list listed rfl)
  | ofAlias kind told => exact .ofAlias rfl rfl
  | ofObject kind listed => exact .ofObject rfl ((field_rereads _).list listed rfl)

theorem dataType_rereads : Rereads DataType.ofJson DataType.canonical := by
  intro raw log dataType read
  obtain ⟨members, rfl, named, shaped⟩ := (DataType.ofJson_eq_ok_iff dataType).mp read
  have nameThere : Members.get? (dataType.shape.canonicalMembers dataType.name) "name" =
      some (.string dataType.name) := by
    cases dataType.shape <;> rfl
  refine (DataType.ofJson_eq_ok_iff dataType).mpr ⟨_, rfl, ?_⟩
  exact ⟨text_of_get? named nameThere, shape_rereads shaped⟩

/-! ## HTTP interfaces -/

theorem header_rereads (place : Place) :
    Rereads (fun raw => Traced.ofExcept (headerOfJson place raw)) Json.string := by
  intro raw log header read
  obtain ⟨rfl, known⟩ := (ofExcept_eq_ok_iff _).mp read
  cases raw with
  | string text =>
      cases known
      rfl
  | _ => cases known

theorem ofJson_method_name (place : Place) (method : HttpMethod) :
    HttpMethod.ofJson place (.string method.name) = .ok method := by
  have upper : method.name.upperCased = method.name := by cases method <;> decide
  simp [HttpMethod.ofJson, Json.text, upper, HttpMethod.ofName?_name]

theorem interface_rereads : Rereads HttpInterface.ofJson HttpInterface.canonical := by
  intro raw log api read
  obtain ⟨members, params, body, response, rfl, reads, rfl⟩ :=
    (HttpInterface.ofJson_eq_ok_iff api).mp read
  refine (HttpInterface.ofJson_eq_ok_iff api).mpr ⟨_, params, body, response, rfl, ?_, rfl⟩
  exact {
    name := text_of_get? reads.name rfl
    method := ofJson_method_name _ api.method
    headers := (header_rereads _).list reads.headers rfl
    path := text_of_get? reads.path rfl
    urlParams := (field_rereads _).list reads.urlParams rfl
    bodyType := reference?_rereads reads.bodyType rfl
    responseType := reference?_rereads reads.responseType rfl
    isSse := flag_of_get? _ rfl }

/-! ## The document -/

theorem metadata_rereads : Rereads Metadata.ofJson Metadata.canonical := by
  intro raw log metadata read
  obtain ⟨members, types, interfaces, rfl, reads, rfl⟩ := (Metadata.ofJson_eq_ok_iff metadata).mp read
  refine (Metadata.ofJson_eq_ok_iff metadata).mpr ⟨_, types, interfaces, rfl, ?_, rfl⟩
  exact ⟨dataType_rereads.list reads.dataTypes rfl, interface_rereads.list reads.httpInterfaces rfl⟩

/-- **Main result.** The plain form of metadata that was read is read as the same metadata, and the same
is reported. -/
theorem canonical_read_again (value : Json) (metadata : Metadata)
    (read : (Metadata.ofJson value).outcome = .ok metadata) :
    (Metadata.ofJson metadata.canonical).outcome = .ok metadata ∧
      (Metadata.ofJson metadata.canonical).log = (Metadata.ofJson value).log := by
  have whole : Metadata.ofJson value = ⟨(Metadata.ofJson value).log, .ok metadata⟩ := by rw [← read]
  rw [metadata_rereads whole]
  exact ⟨rfl, rfl⟩

/-! ## A document that leaves things out -/

/-- No flags, no parameters, an empty body type, and an array of what is no reference. -/
def sparseDocument : Json :=
  .object [
    ("httpInterfaces", .array [.object [("path", .string "/users"), ("method", .string "get"),
      ("name", .string "listUsers"), ("headers", .null), ("bodyType", .string []),
      ("responseType", .object [("name", .string "User"), ("type", .string "reference")])]]),
    ("dataTypes", .array [.object [("name", .string "User"), ("kind", .string "object"),
      ("fields", .array [.object [("type", .object [("itemType", .null), ("kind", .string "array")]),
        ("name", .string "tags")]])]])]

def sparseMetadata : Metadata where
  dataTypes := [⟨"User", .object [⟨"tags", .array (.unresolved .null), false⟩]⟩]
  httpInterfaces := [⟨"listUsers", .get, "/users", [], none, some (.named "User"), [], false⟩]

theorem ofJson_sparseDocument : (Metadata.ofJson sparseDocument).outcome = .ok sparseMetadata := rfl

theorem canonical_read_again_of_sparse :
    (Metadata.ofJson sparseDocument).outcome = .ok sparseMetadata ∧
      (Metadata.ofJson sparseMetadata.canonical).outcome = .ok sparseMetadata ∧
      (Metadata.ofJson sparseMetadata.canonical).log = (Metadata.ofJson sparseDocument).log :=
  ⟨ofJson_sparseDocument, canonical_read_again _ _ ofJson_sparseDocument⟩

end TypedEndpoints
