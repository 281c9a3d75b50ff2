import Mathlib.Data.List.Induction
import TypedEndpoints.Proofs.DanglingReferences
import TypedEndpoints.Proofs.ModuleLines
/-!
The check of references is sound and complete for what is emitted. A document without dangling
references has modules in which every declared type that is written is declared or imported.

* `WritesField`, `WritesSignature`, `WritesNote`: where the three modules write the type expression of a
  reference, told without the emitters;
* `written`: there they write it, and a signature writes nothing else;
* `closed_of_no_dangling`: without dangling references every name in these places is known;
* `importsDeclared`: the imports are the declared names, each once, by first declaration;
* `reference_check_exact`: all of it, with the list that the check gives.
-/
set_option autoImplicit false
namespace TypedEndpoints

open Source

/-! ## Where references are written -/

/-- A line of the declarations with the type of a field. -/
inductive WritesField (dataTypes : List DataType) : Text → TypeRef → Prop where
  | field {dataType : DataType} {fields : List Field} {field : Field} (known : dataType ∈ dataTypes)
      (object : dataType.shape = .object fields) (there : field ∈ fields) :
      WritesField dataTypes
        ("  " ++ field.name ++ (if field.optional then "?" else [] : Text) ++ ": " ++
          field.type.typeText ++ ";") field.type

/-- A part of the signature of a client function: a parameter, the body, or what it answers with. -/
inductive WritesSignature (api : HttpInterface) : Text → TypeRef → Prop where
  | param {param : Field} (there : param ∈ api.urlParams) :
      WritesSignature api (param.name ++ ": " ++ param.type.typeText) param.type
  | body {type : TypeRef} (there : api.bodyType = some type) :
      WritesSignature api ("body: " ++ type.typeText) type
  | answer {type : TypeRef} (plain : api.isSse = false) (there : api.responseType = some type) :
      WritesSignature api ("Promise<" ++ type.typeText ++ ">") type

/-- A note of a server stub with a type. -/
inductive WritesNote (api : HttpInterface) : Text → TypeRef → Prop where
  | body {type : TypeRef} (plain : api.isSse = false) (there : api.bodyType = some type) :
      WritesNote api ("Body type: " ++ type.typeText) type
  | response {type : TypeRef} (plain : api.isSse = false) (there : api.responseType = some type) :
      WritesNote api ("Response type: " ++ type.typeText) type

/-- A line that exports a declaration of the name. -/
inductive ExportsName (name : Text) : Text → Prop where
  | type (meaning : Text) : ExportsName name ("export type " ++ name ++ " = " ++ meaning ++ ";")
  | interface : ExportsName name ("export interface " ++ name ++ " \x7b")

namespace Metadata

variable (metadata : Metadata)

/-- The places above are in the emitted modules, and a signature writes no other reference. -/
structure Written : Prop where
  fields : ∀ line reference, WritesField metadata.dataTypes line reference →
    HasLine (Bundle.ofMetadata metadata).types line
  signatures : ∀ api ∈ metadata.httpInterfaces, ∃ params answer,
    HasLine (Bundle.ofMetadata metadata).client
      ("export async function " ++ api.name ++ "(" ++ Text.join ", " params ++ "): " ++ answer ++
        " \x7b") ∧
    (∀ piece ∈ params, ∃ reference, WritesSignature api piece reference) ∧
    (answer = "Promise<Response>" ∨ answer = "Promise<void>" ∨
      ∃ reference, WritesSignature api answer reference) ∧
    ∀ piece reference, WritesSignature api piece reference → piece ∈ params ∨ piece = answer
  notes : ∀ api ∈ metadata.httpInterfaces, ∀ note reference, WritesNote api note reference →
    HasLine (Bundle.ofMetadata metadata).server ("    // " ++ note)

/-- Every name that a reference in these places mentions is declared, or imported. -/
structure Closed : Prop where
  fields : ∀ line reference name, WritesField metadata.dataTypes line reference →
    reference.Mentions name →
    ∃ exported, ExportsName name exported ∧ HasLine (Bundle.ofMetadata metadata).types exported
  signatures : ∀ api ∈ metadata.httpInterfaces, ∀ piece reference name,
    WritesSignature api piece reference → reference.Mentions name → name ∈ metadata.typeNames
  notes : ∀ api ∈ metadata.httpInterfaces, ∀ note reference name,
    WritesNote api note reference → reference.Mentions name → name ∈ metadata.typeNames

/-- The line that imports these names. -/
def importLine (names : List Text) : Text :=
  "import \x7b " ++ Text.join ", " names ++ " \x7d from './types';"

/-- Server and client import the declared names, each once, in the order of their first declarations, and
do so whenever there is one. -/
structure ImportsDeclared : Prop where
  declared : ∀ name, name ∈ metadata.typeNames ↔ ∃ dataType ∈ metadata.dataTypes, dataType.name = name
  once : metadata.typeNames.Nodup
  order : metadata.typeNames.Pairwise fun first second =>
    (metadata.dataTypes.map (·.name)).idxOf first < (metadata.dataTypes.map (·.name)).idxOf second
  server : metadata.dataTypes ≠ [] →
    lines ["// Auto-generated server API stubs",
      "import express, \x7b Request, Response \x7d from 'express';",
      importLine metadata.typeNames] <+: (Bundle.ofMetadata metadata).server
  client : metadata.dataTypes ≠ [] →
    lines ["// Auto-generated client API", importLine metadata.typeNames] <+:
      (Bundle.ofMetadata metadata).client

end Metadata

/-! ## The places in the modules -/

/-- The lines of a data type are lines of the module. -/
theorem hasLine_types {metadata : Metadata} {dataType : DataType} {content : Text}
    (known : dataType ∈ metadata.dataTypes)
    (member : content ∈ (Declaration.ofDataType dataType).lines) :
    HasLine (Bundle.ofMetadata metadata).types content := by
  rw [Bundle.ofMetadata, declarationsModule_eq_lines]
  apply hasLine_lines
  apply List.mem_append_right
  exact List.mem_flatMap.mpr ⟨dataType, known, List.mem_append_left _ member⟩

theorem hasLine_client {metadata : Metadata} {api : HttpInterface} {content : Text}
    (known : api ∈ metadata.httpInterfaces)
    (member : content ∈ (ClientFunction.ofInterface api).lines) :
    HasLine (Bundle.ofMetadata metadata).client content := by
  rw [Bundle.ofMetadata, clientModule_eq_lines]
  apply hasLine_lines
  apply List.mem_append_right
  exact List.mem_flatMap.mpr ⟨api, known, member⟩

theorem hasLine_server {metadata : Metadata} {api : HttpInterface} {content : Text}
    (known : api ∈ metadata.httpInterfaces) (member : content ∈ (Route.ofInterface api).lines) :
    HasLine (Bundle.ofMetadata metadata).server content := by
  rw [Bundle.ofMetadata, serverModule_eq_lines]
  apply hasLine_lines
  apply List.mem_append_left
  apply List.mem_append_right
  exact List.mem_flatMap.mpr ⟨api, known, member⟩

/-- A data type has a line that exports its name. -/
theorem exists_exportsName (dataType : DataType) :
    ∃ content, ExportsName dataType.name content ∧
      content ∈ (Declaration.ofDataType dataType).lines := by
  obtain ⟨name, values | base | fields⟩ := dataType
  · exact ⟨_, .type _, List.mem_singleton_self _⟩
  · exact ⟨_, .type _, List.mem_singleton_self _⟩
  · exact ⟨_, .interface, List.mem_cons_self⟩

theorem mem_lines_of_field {dataType : DataType} {fields : List Field} {field : Field}
    (object : dataType.shape = .object fields) (there : field ∈ fields) :
    (FieldLine.ofField field).text ∈ (Declaration.ofDataType dataType).lines := by
  obtain ⟨name, shape⟩ := dataType
  obtain rfl : shape = .object fields := object
  apply List.mem_cons_of_mem
  apply List.mem_append_left
  simpa [List.mem_map] using ⟨field, there, rfl⟩

theorem mem_paramsOf {api : HttpInterface} {piece : Text} :
    piece ∈ ClientFunction.paramsOf api ↔
      (∃ param ∈ api.urlParams, piece = param.name ++ ": " ++ param.type.typeText) ∨
      ∃ type, api.bodyType = some type ∧ piece = "body: " ++ type.typeText := by
  unfold ClientFunction.paramsOf
  rw [List.mem_append, List.mem_map, List.mem_map]
  simp [eq_comm]

theorem returnTypeOf_cases (api : HttpInterface) :
    ClientFunction.returnTypeOf api = "Promise<Response>" ∨
      ClientFunction.returnTypeOf api = "Promise<void>" ∨
      ∃ reference, WritesSignature api (ClientFunction.returnTypeOf api) reference := by
  unfold ClientFunction.returnTypeOf
  cases stream : api.isSse with
  | true => exact .inl rfl
  | false =>
      cases answer : api.responseType with
      | none => exact .inr (.inl rfl)
      | some type => exact .inr (.inr ⟨type, .answer stream answer⟩)

theorem mem_notesOf_of_writesNote {api : HttpInterface} {note : Text} {reference : TypeRef}
    (writes : WritesNote api note reference) : note ∈ (Route.ofInterface api).notes := by
  cases writes with
  | body plain there => simp [Route.ofInterface, plain, Route.notesOf, Route.typeNote, there]
  | response plain there => simp [Route.ofInterface, plain, Route.notesOf, Route.typeNote, there]

theorem mem_lines_of_note {api : HttpInterface} {note : Text} (plain : api.isSse = false)
    (listed : note ∈ (Route.ofInterface api).notes) :
    ("    // " ++ note : Text) ∈ (Route.ofInterface api).lines := by
  have notSse : ¬ (Route.ofInterface api).isSse = true := by simp [Route.ofInterface, plain]
  apply List.mem_cons_of_mem
  apply List.mem_append_left
  rw [Route.handler, if_neg notSse]
  apply List.mem_cons_of_mem
  apply List.mem_append_left
  exact List.mem_map.mpr ⟨note, listed, rfl⟩

theorem written (metadata : Metadata) : metadata.Written where
  fields := by
    rintro _ _ ⟨known, object, there⟩
    exact hasLine_types known (mem_lines_of_field object there)
  signatures := by
    intro api known
    refine ⟨ClientFunction.paramsOf api, ClientFunction.returnTypeOf api,
      hasLine_client known List.mem_cons_self, ?_, returnTypeOf_cases api, ?_⟩
    · intro piece member
      rcases mem_paramsOf.mp member with ⟨param, there, rfl⟩ | ⟨type, there, rfl⟩
      · exact ⟨param.type, .param there⟩
      · exact ⟨type, .body there⟩
    · intro piece reference writes
      cases writes with
      | param there => exact .inl (mem_paramsOf.mpr (.inl ⟨_, there, rfl⟩))
      | body there => exact .inl (mem_paramsOf.mpr (.inr ⟨_, there, rfl⟩))
      | answer plain there => exact .inr (by simp [ClientFunction.returnTypeOf, plain, there])
  notes := by
    intro api known note reference writes
    have plain : api.isSse = false := by cases writes <;> assumption
    exact hasLine_server known (mem_lines_of_note plain (mem_notesOf_of_writesNote writes))

/-! ## Without dangling references every name is known -/

/-- What stands at a spot mentions declared names only, if no reference dangles. -/
theorem declared_of_stands {metadata : Metadata} (clean : metadata.danglingReferences = [])
    {spot : Spot} {site : Site} (stands : metadata.Stands spot site) {name : Text}
    (mentions : site.reference.Mentions name) :
    ∃ dataType ∈ metadata.dataTypes, dataType.name = name := by
  obtain ⟨told, entries, -, listed⟩ := dangling_told metadata
  rw [clean] at entries
  obtain rfl : told = [] := List.map_eq_nil_iff.mp entries
  by_contra undeclared
  have dangling : metadata.DanglingAt spot
      (site.place ++ " references undefined type " ++ Text.shown name) :=
    ⟨site, name, stands, mentions, by simpa using undeclared, rfl⟩
  exact (List.not_mem_nil ((listed _ _).mpr dangling)).elim

theorem declared_of_writesField {metadata : Metadata} (clean : metadata.danglingReferences = [])
    {line : Text} {reference : TypeRef} (writes : WritesField metadata.dataTypes line reference)
    {name : Text} (mentions : reference.Mentions name) :
    ∃ dataType ∈ metadata.dataTypes, dataType.name = name := by
  obtain ⟨known, object, there⟩ := writes
  obtain ⟨i, at_i⟩ := List.getElem?_of_mem known
  obtain ⟨j, at_j⟩ := List.getElem?_of_mem there
  exact declared_of_stands clean (.field at_i object at_j) mentions

theorem declared_of_writesSignature {metadata : Metadata} (clean : metadata.danglingReferences = [])
    {api : HttpInterface} (known : api ∈ metadata.httpInterfaces) {piece : Text}
    {reference : TypeRef} (writes : WritesSignature api piece reference) {name : Text}
    (mentions : reference.Mentions name) :
    ∃ dataType ∈ metadata.dataTypes, dataType.name = name := by
  obtain ⟨i, at_i⟩ := List.getElem?_of_mem known
  cases writes with
  | param there =>
      obtain ⟨j, at_j⟩ := List.getElem?_of_mem there
      exact declared_of_stands clean (.param at_i at_j) mentions
  | body there => exact declared_of_stands clean (.body at_i there) mentions
  | answer plain there => exact declared_of_stands clean (.response at_i there) mentions

/-- A note writes what the signature of the client writes too. -/
theorem WritesNote.signature {api : HttpInterface} {note : Text} {reference : TypeRef}
    (writes : WritesNote api note reference) : ∃ piece, WritesSignature api piece reference := by
  cases writes with
  | body plain there => exact ⟨_, .body there⟩
  | response plain there => exact ⟨_, .answer plain there⟩

theorem closed_of_no_dangling (metadata : Metadata) (clean : metadata.danglingReferences = []) :
    metadata.Closed where
  fields := by
    intro line reference name writes mentions
    obtain ⟨dataType, known, rfl⟩ := declared_of_writesField clean writes mentions
    obtain ⟨exported, exports, member⟩ := exists_exportsName dataType
    exact ⟨exported, exports, hasLine_types known member⟩
  signatures := by
    intro api known piece reference name writes mentions
    exact metadata.mem_typeNames.mpr (declared_of_writesSignature clean known writes mentions)
  notes := by
    intro api known note reference name writes mentions
    obtain ⟨piece, signature⟩ := writes.signature
    exact metadata.mem_typeNames.mpr (declared_of_writesSignature clean known signature mentions)

/-! ## The imports -/

/-- Dropping repetitions keeps the order of first occurrences. -/
theorem pairwise_idxOf_eraseDups (names : List Text) :
    names.eraseDups.Pairwise fun first second => names.idxOf first < names.idxOf second := by
  induction names using List.reverseRecOn with
  | nil => exact .nil
  | append_singleton names last ih =>
      have known : ∀ name ∈ names.eraseDups, (names ++ [last]).idxOf name = names.idxOf name := by
        intro name member
        rw [List.mem_eraseDups] at member
        rw [List.idxOf_append, if_pos member]
      have kept : names.eraseDups.Pairwise fun first second =>
          (names ++ [last]).idxOf first < (names ++ [last]).idxOf second := by
        refine ih.imp_of_mem ?_
        intro first second isFirst isSecond earlier
        rwa [known first isFirst, known second isSecond]
      rw [List.eraseDups_append, List.pairwise_append]
      refine ⟨kept, ?_, ?_⟩
      · by_cases repeated : last ∈ names <;> simp [List.removeAll, repeated, List.eraseDups_cons]
      · intro first isFirst second isSecond
        by_cases repeated : last ∈ names
        · simp [List.removeAll, repeated] at isSecond
        · obtain rfl : second = last := by
            simpa [List.removeAll, repeated, List.eraseDups_cons] using isSecond
          have member : first ∈ names := List.mem_eraseDups.mp isFirst
          rw [known first isFirst, List.idxOf_append, if_neg repeated]
          have inside := List.idxOf_lt_length_of_mem member
          omega

theorem importLines_of_ne_nil {names : List Text} (nonempty : names ≠ []) :
    importLines names = [Metadata.importLine names] := by
  cases names with
  | nil => exact absurd rfl nonempty
  | cons name names => rfl

theorem typeNames_ne_nil {metadata : Metadata} (declares : metadata.dataTypes ≠ []) :
    metadata.typeNames ≠ [] := by
  obtain ⟨dataType, known⟩ := List.exists_mem_of_ne_nil _ declares
  exact List.ne_nil_of_mem (metadata.mem_typeNames.mpr ⟨dataType, known, rfl⟩)

/-- Lines at the start of a list are at the start of the text. -/
theorem lines_isPrefix_of_append (first rest : List Text) : lines first <+: lines (first ++ rest) :=
  ⟨lines rest, (lines_append first rest).symm⟩

theorem importsDeclared (metadata : Metadata) : metadata.ImportsDeclared where
  declared := fun name => metadata.mem_typeNames
  once := by
    refine (pairwise_idxOf_eraseDups (metadata.dataTypes.map (·.name))).imp ?_
    rintro first second earlier rfl
    exact Nat.lt_irrefl _ earlier
  order := pairwise_idxOf_eraseDups (metadata.dataTypes.map (·.name))
  server := by
    intro declares
    rw [Bundle.ofMetadata, serverModule_eq_lines, importLines_of_ne_nil (typeNames_ne_nil declares)]
    simp only [List.append_assoc]
    exact lines_isPrefix_of_append [_, _, _] _
  client := by
    intro declares
    rw [Bundle.ofMetadata, clientModule_eq_lines, importLines_of_ne_nil (typeNames_ne_nil declares)]
    simp only [List.append_assoc]
    exact lines_isPrefix_of_append [_, _] _

/-- **The check of references is exact.** It tells every dangling reference of a document once, in
document order, and nothing else. If it tells none, every declared type that the emitted modules write is
exported by the declarations, and imported where it is not; the imports of server and client are the
declared names, each once. -/
theorem reference_check_exact (metadata : Metadata) :
    metadata.ToldInOrder metadata.danglingReferences ∧ metadata.Written ∧
      (metadata.danglingReferences = [] → metadata.Closed) ∧ metadata.ImportsDeclared :=
  ⟨dangling_told metadata, written metadata, closed_of_no_dangling metadata,
    importsDeclared metadata⟩

end TypedEndpoints
