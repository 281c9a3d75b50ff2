import TypedEndpoints.Proofs.EntryReading
import TypedEndpoints.Schema.Problems
/-!
What is reported while a document is read. The reports can be told from the metadata alone: a warning for
each reference that was kept unresolved, in document order, and at the end the sizes of the two lists.
Nothing passes silently and nothing is reported twice, at any depth of arrays.

* `TypeRef.unresolved?`, `Metadata.unresolvedValues`: what was kept, found in the metadata;
* `Reports`: what a reader has reported, told from the value that it read;
* `dataType_reports`, `interface_reports`: the law for each entry;
* `unresolved_reported_once`: the law for the document.
-/
set_option autoImplicit false
namespace TypedEndpoints

open Json Traced

/-! ## What was kept -/

/-- The value that a reference was kept as, below its arrays, if it was not recognized. -/
def TypeRef.unresolved? : TypeRef → Option Json
  | primitive _ => none
  | named _ => none
  | array item => item.unresolved?
  | unresolved raw => some raw

/-- The values that were kept in place of references, in document order. -/
def Metadata.unresolvedValues (metadata : Metadata) : List Json :=
  metadata.sites.filterMap fun site => site.reference.unresolved?

/-- The warnings about a reference: at most one, about the value it was kept as. -/
def TypeRef.warnings (reference : TypeRef) : List Record :=
  reference.unresolved?.toList.map TypeRef.warning

def Site.warnings (site : Site) : List Record := site.reference.warnings

theorem flatMap_warnings (sites : List Site) :
    sites.flatMap Site.warnings =
      (sites.filterMap fun site => site.reference.unresolved?).map TypeRef.warning := by
  induction sites with
  | nil => rfl
  | cons site sites ih =>
      rw [List.flatMap_cons, List.filterMap_cons, ih, Site.warnings, TypeRef.warnings]
      cases site.reference.unresolved? with
      | none => rfl
      | some raw => rfl

/-! ## What a reader has reported -/

section Reports

variable {ε α : Type}

/-- What is reported while a value is read can be told from the value. -/
def Reports (read : Json → Traced ε α) (told : α → List Record) : Prop :=
  ∀ ⦃raw : Json⦄ ⦃log : List Record⦄ ⦃value : α⦄, read raw = ⟨log, .ok value⟩ → log = told value

/-- Of a list of entries the reports stand in the order of the entries. -/
theorem Reports.mapM {read : Json → Traced ε α} {told : α → List Record} (entry : Reports read told)
    {items : List Json} {log : List Record} {values : List α}
    (ran : items.mapM read = ⟨log, .ok values⟩) : log = values.flatMap told := by
  induction items generalizing log values with
  | nil =>
      obtain ⟨rfl, rfl⟩ := (pure_eq_ok_iff _).mp ran
      rfl
  | cons item items ih =>
      rw [List.mapM_cons] at ran
      obtain ⟨first, value, _, head, others, rfl⟩ := (bind_eq_ok_iff _ _).mp ran
      obtain ⟨rest, values, _, tail, ended, rfl⟩ := (bind_eq_ok_iff _ _).mp others
      obtain ⟨rfl, rfl⟩ := (pure_eq_ok_iff _).mp ended
      rw [List.flatMap_cons, entry head, ih tail, List.append_nil]

end Reports

/-- The same for the entries of a list under a key. -/
theorem Reports.list {α : Type} {read : Json → Traced MetadataError α} {told : α → List Record}
    (entry : Reports read told) {members : Members} {key : Text} {place : Place} {log : List Record}
    {values : List α} (listed : Members.ReadsList members key place read log values) :
    log = values.flatMap told := by
  obtain ⟨items, -, ran⟩ := listed
  exact entry.mapM ran

/-! ## References -/

/-- The innermost value is reported, not the arrays around it. -/
theorem TypeRef.ReadsAs.log_eq {raw : Json} {log : List Record} {reference : TypeRef}
    (reads : ReadsAs raw log reference) : log = reference.warnings := by
  induction reads with
  | primitive base => rfl
  | array shape inner ih => exact ih
  | named noArray shape => rfl
  | unresolved shapeless => rfl

theorem reference?_reports {members : Members} {key : Text} {log : List Record}
    {reference : Option TypeRef} (read : Members.reference? members key = ⟨log, .ok reference⟩) :
    log = reference.toList.flatMap TypeRef.warnings := by
  rcases reference?_cases read with ⟨rfl, rfl⟩ | ⟨raw, known, rfl, reads, -, -⟩
  · rfl
  · simp [reads.log_eq]

/-! ## Entries -/

theorem field_reports (place : Place) : Reports (Field.ofJson place) fun field => field.type.warnings := by
  intro raw log field read
  obtain ⟨members, rfl, reads⟩ := (Field.ofJson_eq_ok_iff place field).mp read
  obtain ⟨raw, -, typed⟩ := reads.type
  exact typed.log_eq

/-- Only objects have fields, and only fields have references. -/
theorem shape_reports {name : Text} {members : Members} {log : List Record} {shape : DataType.Shape}
    (reads : shape.Reads name members log) :
    log = (DataType.mk name shape).sites.flatMap Site.warnings := by
  cases reads with
  | ofUnion kind nonempty listed => rfl
  | ofAlias kind told => rfl
  | ofObject kind listed =>
      rw [(field_reports _).list listed]
      simp [DataType.sites, List.flatMap_map, Site.warnings]

theorem dataType_reports :
    Reports DataType.ofJson fun dataType => dataType.sites.flatMap Site.warnings := by
  intro raw log dataType read
  obtain ⟨members, rfl, -, shaped⟩ := (DataType.ofJson_eq_ok_iff dataType).mp read
  exact shape_reports shaped

/-- Three of the members report, in the order of the sites. -/
theorem interface_reports :
    Reports HttpInterface.ofJson fun api => api.sites.flatMap Site.warnings := by
  intro raw log api read
  obtain ⟨members, params, body, response, rfl, reads, rfl⟩ :=
    (HttpInterface.ofJson_eq_ok_iff api).mp read
  rw [(field_reports _).list reads.urlParams, reference?_reports reads.bodyType,
    reference?_reports reads.responseType]
  simp [HttpInterface.sites, List.flatMap_map, Site.warnings]

/-! ## The document -/

theorem metadata_reports :
    Reports Metadata.ofJson fun metadata =>
      metadata.unresolvedValues.map TypeRef.warning ++ [metadata.summary] := by
  intro raw log metadata read
  obtain ⟨members, types, interfaces, rfl, reads, rfl⟩ := (Metadata.ofJson_eq_ok_iff metadata).mp read
  rw [dataType_reports.list reads.dataTypes, interface_reports.list reads.httpInterfaces]
  simp only [Metadata.unresolvedValues, ← flatMap_warnings, Metadata.sites, List.flatMap_append,
    List.flatMap_assoc, List.append_assoc]

/-- **Main result.** What is reported of a document that is read are the values that were kept in place of
references, one warning for each, in document order, and then how many entries the document has. -/
theorem unresolved_reported_once (value : Json) (metadata : Metadata)
    (read : (Metadata.ofJson value).outcome = .ok metadata) :
    (Metadata.ofJson value).log =
      (metadata.unresolvedValues.map fun raw => (⟨.warning, .documents,
        "Unrecognized type reference " ++ raw.shown ++ ", emitting as unresolved"⟩ : Record)) ++
      [⟨.debug, .documents,
        "Parsed " ++ Text.ofNat metadata.dataTypes.length ++ " data types and " ++
          Text.ofNat metadata.httpInterfaces.length ++ " HTTP interfaces"⟩] := by
  have whole : Metadata.ofJson value = ⟨(Metadata.ofJson value).log, .ok metadata⟩ := by rw [← read]
  exact metadata_reports whole

/-! ## Values that look like references -/

/-- Arrays of what is no reference, an array of nothing, and a reference whose name is no string. The
interfaces stand in front of the data types. -/
def lookalikeDocument : Json :=
  .object [
    ("httpInterfaces", .array [.object [("name", .string "find"), ("method", .string "post"),
      ("path", .string "/find/:id"),
      ("responseType", .object [("kind", .string "array"), ("itemType", .string "User")]),
      ("bodyType", .object [("type", .string "reference"), ("name", .integer 7)]),
      ("urlParams", .array [.object [("name", .string "id"), ("type", .string "string")]])]]),
    ("dataTypes", .array [.object [("name", .string "Log"), ("kind", .string "object"),
      ("fields", .array [
        .object [("name", .string "days"), ("type", .object [("kind", .string "array"),
          ("itemType", .object [("kind", .string "array"), ("itemType", .string "date")])])],
        .object [("name", .string "rest"), ("type", .object [("kind", .string "array")])]])]])]

def lookalikeMetadata : Metadata where
  dataTypes := [⟨"Log", .object [
    ⟨"days", .array (.array (.unresolved (.string "date"))), false⟩,
    ⟨"rest", .unresolved (.object [("kind", .string "array")]), false⟩]⟩]
  httpInterfaces := [⟨"find", .post, "/find/:id", [⟨"id", .primitive .string, false⟩],
    some (.unresolved (.object [("type", .string "reference"), ("name", .integer 7)])),
    some (.array (.unresolved (.string "User"))), [], false⟩]

theorem ofJson_lookalikeDocument :
    (Metadata.ofJson lookalikeDocument).outcome = .ok lookalikeMetadata := rfl

theorem unresolved_reported_once_of_lookalikes :
    (Metadata.ofJson lookalikeDocument).outcome = .ok lookalikeMetadata ∧
      (Metadata.ofJson lookalikeDocument).log =
        List.map TypeRef.warning [.string "date", .object [("kind", .string "array")],
          .object [("type", .string "reference"), ("name", .integer 7)], .string "User"] ++
        [⟨.debug, .documents, "Parsed 1 data types and 1 HTTP interfaces"⟩] :=
  ⟨ofJson_lookalikeDocument, unresolved_reported_once _ _ ofJson_lookalikeDocument⟩

end TypedEndpoints
