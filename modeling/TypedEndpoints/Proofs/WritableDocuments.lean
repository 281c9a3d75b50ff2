import TypedEndpoints.Files.Load
import TypedEndpoints.Proofs.EntryReading
import TypedEndpoints.Proofs.ReaderLimits
import TypedEndpoints.Source.Bundle
/-!
What is loaded can be written. The reader refuses whole numbers with too many digits, so that no union of a
document that was read from octets has a member that cannot be written.

* `Json.Brief.member`, `Json.Brief.item`: the parts of a brief value are brief;
* `canDeclare_of_brief`: a data type that is read from a brief value can be declared;
* `emit_of_ofOctets`: the modules of a document that was loaded are emitted.
-/
set_option autoImplicit false
namespace TypedEndpoints

open Json

theorem Json.Brief.member {members : Members} {key : Text} {value : Json}
    (brief : Brief (.object members)) (found : Members.get? members key = some value) :
    Brief value := by
  cases brief with
  | object each =>
      obtain ⟨front, rest, rfl, -⟩ := List.lookup_eq_some_iff.mp found
      exact each (key, value) (by simp)

theorem Json.Brief.item {items : List Json} {item : Json} (brief : Brief (.array items))
    (member : item ∈ items) : Brief item := by
  cases brief with
  | array each => exact each item member

/-- The items of a list under a key of a brief object are brief. -/
theorem Json.Brief.listed {members : Members} {key : Text} {place : Place} {items : List Json}
    (brief : Brief (.object members)) (listed : Members.list members key place = .ok items) :
    ∀ item ∈ items, Brief item := by
  unfold Members.list at listed
  split at listed
  · cases listed
    simp
  · cases listed
    simp
  · next items found =>
    cases listed
    exact fun item => (brief.member found).item
  · cases listed

theorem isWritable_of_brief {name : Text} {raw : Json} {value : EnumValue} (brief : raw.Brief)
    (read : EnumValue.ofJson name raw = .ok value) : Source.isWritable value = true := by
  unfold EnumValue.ofJson at read
  split at read
  · cases read
    rfl
  · cases read
    cases brief with
    | integer few => exact few
  · split at read <;> cases read
    rfl
  · cases read

theorem canDeclare_of_brief {raw : Json} {log : List Record} {dataType : DataType} (brief : raw.Brief)
    (read : DataType.ofJson raw = ⟨log, .ok dataType⟩) : Source.canDeclare dataType = true := by
  obtain ⟨members, rfl, -, reads⟩ := (DataType.ofJson_eq_ok_iff dataType).mp read
  obtain ⟨name, shape⟩ := dataType
  cases reads with
  | ofUnion kind nonempty listed =>
      obtain ⟨items, listed, ran⟩ := listed
      refine List.all_eq_true.mpr fun value member => ?_
      obtain ⟨item, inside, first, itemRead⟩ := exists_item_of_mapM ran value member
      exact isWritable_of_brief (brief.listed listed item inside)
        ((Traced.ofExcept_eq_ok_iff _).mp itemRead).2
  | ofAlias => rfl
  | ofObject => rfl

/-- Every data type of a document that is read from a brief value can be declared. -/
theorem Metadata.canDeclare_of_brief {raw : Json} {log : List Record} {metadata : Metadata}
    (brief : raw.Brief) (read : Metadata.ofJson raw = ⟨log, .ok metadata⟩) :
    ∀ dataType ∈ metadata.dataTypes, Source.canDeclare dataType = true := by
  obtain ⟨members, types, interfaces, rfl, reads, -⟩ := (Metadata.ofJson_eq_ok_iff metadata).mp read
  obtain ⟨items, listed, ran⟩ := reads.dataTypes
  intro dataType member
  obtain ⟨item, inside, first, itemRead⟩ := exists_item_of_mapM ran dataType member
  exact TypedEndpoints.canDeclare_of_brief (brief.listed listed item inside) itemRead

/-- **The modules of a document that was loaded are emitted.** -/
theorem emit_of_ofOctets {nesting : Nat} {path : Files.Path} {octets : List UInt8} {log : List Record}
    {metadata : Metadata} (loaded : Metadata.ofOctets nesting path octets = ⟨log, .ok metadata⟩) :
    Source.Bundle.emit metadata = .ok (.ofMetadata metadata) := by
  apply Source.Bundle.emit_eq_ok
  unfold Metadata.ofOctets at loaded
  split at loaded
  · exact absurd loaded (Traced.fail_ne_ok _)
  split at loaded
  · exact absurd loaded (Traced.fail_ne_ok _)
  · exact absurd loaded (Traced.fail_ne_ok _)
  · exact absurd loaded (Traced.fail_ne_ok _)
  · next value read =>
    have brief := Json.brief_of_read read
    cases told : Metadata.ofJson value with
    | mk records outcome =>
      rw [told] at loaded
      cases outcome with
      | error error => cases loaded
      | ok known =>
          cases loaded
          exact Metadata.canDeclare_of_brief brief told

end TypedEndpoints
