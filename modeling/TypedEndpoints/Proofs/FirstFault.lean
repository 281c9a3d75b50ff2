import TypedEndpoints.Document.Entry
import TypedEndpoints.Proofs.TracedRuns
/-!
The first fault decides. The entries of a document are read in one order, the data types and then the HTTP
interfaces, and nothing behind the first malformed one is looked at: no later entry, and no list that
begins later. So the error is that of this entry alone, and the log is that of the entries up to it.

* `BeginsWith`: the first entries of a document, whatever comes later;
* `ofJson_of_dataType_fault`, `ofJson_of_interface_fault`: where the fault lies in either list;
* `first_fault_decides`: the law for documents, and for two documents that begin alike.
-/
set_option autoImplicit false
namespace TypedEndpoints

open Json Traced

/-! ## The entries of a document -/

/-- The key has these entries; a missing list and a null have none. -/
inductive Json.Members.Lists (members : Members) (key : Text) : List Json → Prop
  | missing (absent : Members.get? members key = none) : Lists members key []
  | null (absent : Members.get? members key = some .null) : Lists members key []
  | array {items : List Json} (there : Members.get? members key = some (.array items)) :
      Lists members key items

/-- An entry of one of the two lists of a document. -/
inductive Listed where
  | dataType (raw : Json)
  | httpInterface (raw : Json)

/-- The same run, its value left out. -/
def Traced.withoutValue {ε α : Type} (run : Traced ε α) : Traced ε Unit :=
  ⟨run.log, run.outcome.map fun _ => ()⟩

/-- What reading the entry alone reports, and how it ends. -/
def Listed.read : Listed → Traced MetadataError Unit
  | dataType raw => (DataType.ofJson raw).withoutValue
  | httpInterface raw => (HttpInterface.ofJson raw).withoutValue

/-- The entries of a document begin with these, the data types first. Nothing is said of what comes later,
not even that it is a list. -/
inductive BeginsWith (members : Members) : List Listed → Prop
  | dataTypes {front later : List Json}
      (listed : Members.Lists members "dataTypes" (front ++ later)) :
      BeginsWith members (front.map .dataType)
  | httpInterfaces {types front later : List Json}
      (listedTypes : Members.Lists members "dataTypes" types)
      (listed : Members.Lists members "httpInterfaces" (front ++ later)) :
      BeginsWith members (types.map .dataType ++ front.map .httpInterface)

/-! ## One entry -/

section Read

variable {ε α : Type}

theorem succeeds_withoutValue (run : Traced ε α) : run.withoutValue.Succeeds ↔ run.Succeeds := by
  obtain ⟨log, _ | value⟩ := run
  · exact iff_of_false (fun ⟨_, ended⟩ => nomatch ended) (fun ⟨_, ended⟩ => nomatch ended)
  · exact iff_of_true ⟨(), rfl⟩ ⟨value, rfl⟩

theorem withoutValue_outcome_eq_error (run : Traced ε α) (error : ε) :
    run.withoutValue.outcome = .error error ↔ run.outcome = .error error := by
  obtain ⟨log, failure | value⟩ := run
  · simp [withoutValue, Except.map]
  · simp [withoutValue, Except.map]

end Read

/-! ## The two lists -/

section Document

variable {members : Members} {types front later : List Json} {faulty : Json} {error : MetadataError}

theorem Json.Members.Lists.list_eq {key : Text} {items : List Json}
    (listed : Members.Lists members key items) (place : Place) :
    Members.list members key place = .ok items := by
  unfold Members.list
  cases listed with
  | missing absent => rw [absent]
  | null absent => rw [absent]
  | array there => rw [there]

theorem ofJson_of_dataType_fault
    (listed : Members.Lists members "dataTypes" (front ++ faulty :: later))
    (wellFormed : ∀ item ∈ front, (DataType.ofJson item).Succeeds)
    (fault : (DataType.ofJson faulty).outcome = .error error) :
    Metadata.ofJson (.object members) =
      ⟨(front.flatMap fun item => (DataType.ofJson item).log) ++ (DataType.ofJson faulty).log,
        .error error⟩ := by
  simp only [Metadata.ofJson]
  rw [lift_ok_bind _ (listed.list_eq .document), mapM_first_fault _ later wellFormed fault, bind_error]

theorem ofJson_of_interface_fault (listedTypes : Members.Lists members "dataTypes" types)
    (wellFormedTypes : ∀ item ∈ types, (DataType.ofJson item).Succeeds)
    (listed : Members.Lists members "httpInterfaces" (front ++ faulty :: later))
    (wellFormed : ∀ item ∈ front, (HttpInterface.ofJson item).Succeeds)
    (fault : (HttpInterface.ofJson faulty).outcome = .error error) :
    Metadata.ofJson (.object members) =
      ⟨(types.flatMap fun item => (DataType.ofJson item).log) ++
          ((front.flatMap fun item => (HttpInterface.ofJson item).log) ++
            (HttpInterface.ofJson faulty).log),
        .error error⟩ := by
  obtain ⟨dataTypes, ran⟩ := mapM_of_succeeds DataType.ofJson wellFormedTypes
  simp only [Metadata.ofJson]
  rw [lift_ok_bind _ (listedTypes.list_eq .document), ran, bind_ok,
    lift_ok_bind _ (listed.list_eq .document), mapM_first_fault _ later wellFormed fault, bind_error]

end Document

/-! ## The law -/

section Law

variable {members : Members} {earlier : List Listed} {faulty : Listed} {error : MetadataError}

theorem Listed.dataType_succeeds (raw : Json) :
    (Listed.dataType raw).read.Succeeds ↔ (DataType.ofJson raw).Succeeds :=
  succeeds_withoutValue _

theorem Listed.httpInterface_succeeds (raw : Json) :
    (Listed.httpInterface raw).read.Succeeds ↔ (HttpInterface.ofJson raw).Succeeds :=
  succeeds_withoutValue _

/-- Where the last of these entries stands, if all are in one list. -/
theorem exists_of_map_eq_concat {entry : Json → Listed} {items : List Json}
    (whole : items.map entry = earlier ++ [faulty]) :
    ∃ front raw, items = front ++ [raw] ∧ earlier = front.map entry ∧ faulty = entry raw := by
  obtain ⟨front, last, rfl, rfl, lastEq⟩ := List.map_eq_append_iff.mp whole
  obtain ⟨raw, rfl, same⟩ := List.map_eq_singleton_iff.mp lastEq
  exact ⟨front, raw, rfl, rfl, same.symm⟩

/-- The fault lies in the list of data types. -/
theorem ofJson_of_begins_dataTypes {front later : List Json}
    (listed : Members.Lists members "dataTypes" (front ++ later))
    (whole : front.map .dataType = earlier ++ [faulty])
    (wellFormed : ∀ entry ∈ earlier, entry.read.Succeeds)
    (fault : faulty.read.outcome = .error error) :
    Metadata.ofJson (.object members) =
      ⟨(earlier.flatMap fun entry => entry.read.log) ++ faulty.read.log, .error error⟩ := by
  obtain ⟨front, raw, rfl, rfl, rfl⟩ := exists_of_map_eq_concat whole
  rw [List.append_assoc] at listed
  rw [List.forall_mem_map] at wellFormed
  simp only [Listed.dataType_succeeds] at wellFormed
  rw [List.flatMap_map]
  exact ofJson_of_dataType_fault listed wellFormed ((withoutValue_outcome_eq_error _ _).mp fault)

/-- The fault lies in the list of interfaces, behind all data types. -/
theorem ofJson_of_begins_interfaces {types front later : List Json} {raw : Json}
    (listedTypes : Members.Lists members "dataTypes" types)
    (listed : Members.Lists members "httpInterfaces" (front ++ raw :: later))
    (wellFormed : ∀ entry ∈ types.map Listed.dataType ++ front.map Listed.httpInterface,
      entry.read.Succeeds)
    (fault : (Listed.httpInterface raw).read.outcome = .error error) :
    Metadata.ofJson (.object members) =
      ⟨((types.map Listed.dataType ++ front.map Listed.httpInterface).flatMap fun entry =>
          entry.read.log) ++ (Listed.httpInterface raw).read.log, .error error⟩ := by
  rw [List.forall_mem_append, List.forall_mem_map, List.forall_mem_map] at wellFormed
  simp only [Listed.dataType_succeeds, Listed.httpInterface_succeeds] at wellFormed
  rw [List.flatMap_append, List.flatMap_map, List.flatMap_map, List.append_assoc]
  exact ofJson_of_interface_fault listedTypes wellFormed.1 listed wellFormed.2
    ((withoutValue_outcome_eq_error _ _).mp fault)

theorem ofJson_of_begins (begins : BeginsWith members (earlier ++ [faulty]))
    (wellFormed : ∀ entry ∈ earlier, entry.read.Succeeds)
    (fault : faulty.read.outcome = .error error) :
    Metadata.ofJson (.object members) =
      ⟨(earlier.flatMap fun entry => entry.read.log) ++ faulty.read.log, .error error⟩ := by
  generalize whole : earlier ++ [faulty] = entries at begins
  cases begins with
  | dataTypes listed => exact ofJson_of_begins_dataTypes listed whole.symm wellFormed fault
  | @httpInterfaces types front later listedTypes listed =>
      rcases List.eq_nil_or_concat front with rfl | ⟨front, raw, rfl⟩
      · -- none of these entries is an interface
        rw [List.map_nil, List.append_nil] at whole
        rw [← List.append_nil types] at listedTypes
        exact ofJson_of_begins_dataTypes listedTypes whole.symm wellFormed fault
      · rw [List.concat_eq_append, List.map_append, List.map_singleton, ← List.append_assoc] at whole
        obtain ⟨rfl, same⟩ := List.append_inj' whole rfl
        obtain rfl : faulty = .httpInterface raw := List.head_eq_of_cons_eq same
        rw [List.concat_eq_append, List.append_assoc] at listed
        exact ofJson_of_begins_interfaces listedTypes listed wellFormed fault

/-- **The first fault decides.** Where the entries of a document begin with well-formed ones and a malformed
one, reading ends in the error of that entry alone, and the log is that of the entries in front of it and
of the entry. Any other document whose entries begin alike, whatever it has in the place of the later ones
and of lists that begin later, ends in the same error with the same log. -/
theorem first_fault_decides (members : Members) (earlier : List Listed) (faulty : Listed)
    (error : MetadataError) (begins : BeginsWith members (earlier ++ [faulty]))
    (wellFormed : ∀ entry ∈ earlier, entry.read.Succeeds)
    (fault : faulty.read.outcome = .error error) :
    Metadata.ofJson (.object members) =
        ⟨(earlier.flatMap fun entry => entry.read.log) ++ faulty.read.log, .error error⟩ ∧
      ∀ others, BeginsWith others (earlier ++ [faulty]) →
        Metadata.ofJson (.object others) = Metadata.ofJson (.object members) := by
  have ended := ofJson_of_begins begins wellFormed fault
  refine ⟨ended, fun others alike => ?_⟩
  rw [ended, ofJson_of_begins alike wellFormed fault]

end Law

/-! ## An entry that reports before it fails -/

/-- A field whose type is no reference. -/
def datedField : Json := .object [("name", .string "at"), ("type", .string "date")]

def logEntry : Json :=
  .object [("kind", .string "object"), ("name", .string "Log"), ("fields", .array [datedField])]

def askEntry : Json :=
  .object [("name", .string "ask"), ("method", .string "get"), ("path", .string "/ask"),
    ("bodyType", .string "time")]

/-- The flag, which is read last, is no flag. -/
def tellEntry : Json :=
  .object [("name", .string "tell"), ("method", .string "put"), ("path", .string "/tell/:at"),
    ("urlParams", .array [datedField]), ("isSSE", .integer 1)]

/-- A document with a malformed entry, and others behind it. -/
def halfReadMembers (later : List Json) : Members :=
  [("httpInterfaces", .array (askEntry :: tellEntry :: later)), ("dataTypes", .array [logEntry])]

theorem beginsWith_halfReadMembers (later : List Json) :
    BeginsWith (halfReadMembers later)
      ([.dataType logEntry, .httpInterface askEntry] ++ [.httpInterface tellEntry]) :=
  @BeginsWith.httpInterfaces _ [logEntry] [askEntry, tellEntry] later (.array rfl) (.array rfl)

theorem wellFormed_earlierEntries :
    ∀ entry ∈ [Listed.dataType logEntry, Listed.httpInterface askEntry], entry.read.Succeeds := by
  rw [List.forall_mem_cons, List.forall_mem_singleton]
  exact ⟨⟨(), rfl⟩, ⟨(), rfl⟩⟩

theorem first_fault_decides_of_halfRead :
    BeginsWith (halfReadMembers [])
        ([.dataType logEntry, .httpInterface askEntry] ++ [.httpInterface tellEntry]) ∧
      (Listed.httpInterface tellEntry).read.outcome =
        .error (.notBoolean "isSSE" (.interface "tell") (.integer 1)) ∧
      Metadata.ofJson (.object (halfReadMembers [])) =
        ⟨List.map TypeRef.warning [.string "date", .string "time", .string "date"],
          .error (.notBoolean "isSSE" (.interface "tell") (.integer 1))⟩ ∧
      Metadata.ofJson (.object (halfReadMembers [.null])) =
        Metadata.ofJson (.object (halfReadMembers [])) := by
  have decided := first_fault_decides (halfReadMembers []) _ _ _ (beginsWith_halfReadMembers [])
    wellFormed_earlierEntries rfl
  exact ⟨beginsWith_halfReadMembers [], rfl, decided.1,
    decided.2 _ (beginsWith_halfReadMembers [.null])⟩

end TypedEndpoints
