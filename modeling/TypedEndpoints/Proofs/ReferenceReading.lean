import TypedEndpoints.Proofs.DocumentGrammar
/-!
What a document value stands for as a reference. The rules are told without the reader, for values of any
depth: an array comes before a reference by name, and a value of neither shape is kept, with a warning.

* `ReadsAs`: the rules;
* `ofJson_eq_iff`: the reader follows them;
* `TypeRef.canonical`: the plain form of a reference, which is read as the same reference, with the same
  warnings (`ReadsAs.canonical`).
-/
set_option autoImplicit false
namespace TypedEndpoints.TypeRef

open Json

/-- An object that says that it is an array of this item. -/
structure IsArrayOf (members : Members) (item : Json) : Prop where
  kind : members.get? "kind" = some (.string "array")
  item : members.get? "itemType" = some item

/-- An object that refers to a declared type by this name. -/
structure RefersTo (members : Members) (name : Text) : Prop where
  type : members.get? "type" = some (.string "reference")
  name : members.get? "name" = some (.string name)

/-- A value of none of the shapes of a reference. -/
structure Shapeless (raw : Json) : Prop where
  noPrimitive : ∀ base : Primitive, raw ≠ .string base.name
  noArray : ∀ members item, raw = .object members → ¬ IsArrayOf members item
  noName : ∀ members name, raw = .object members → ¬ RefersTo members name

/-- The reference that a value stands for, and what is reported about it. -/
inductive ReadsAs : Json → List Record → TypeRef → Prop
  | primitive (base : Primitive) : ReadsAs (.string base.name) [] (.primitive base)
  | array {members : Members} {item : Json} {log : List Record} {reference : TypeRef}
      (shape : IsArrayOf members item) (inner : ReadsAs item log reference) :
      ReadsAs (.object members) log (.array reference)
  | named {members : Members} {name : Text} (noArray : ∀ item, ¬ IsArrayOf members item)
      (shape : RefersTo members name) : ReadsAs (.object members) [] (.named name)
  | unresolved {raw : Json} (shapeless : Shapeless raw) :
      ReadsAs raw [warning raw] (.unresolved raw)

/-! ## The reader follows the rules -/

theorem itemOfMembers?_eq {ε : Type} (members : List (Text × Json)) :
    (itemOfMembers? members : Option (Traced ε TypeRef)) =
      (Members.get? members "itemType").map ofJson := by
  induction members with
  | nil => rfl
  | cons member rest ih =>
      obtain ⟨key, value⟩ := member
      unfold itemOfMembers?
      unfold Members.get? at ih ⊢
      by_cases here : key = "itemType"
      · subst here
        simp
      · have other : (Text.ofString "itemType" == key) = false := by
          simpa using fun same => here same.symm
        rw [if_neg here, ih, List.lookup_cons, other]

/-- The reader of objects that are no arrays. -/
theorem ofMembers_of_refersTo {ε : Type} {members : Members} {name : Text}
    (shape : RefersTo members name) :
    (ofMembers members : Traced ε TypeRef) = ⟨[], .ok (.named name)⟩ := by
  unfold ofMembers
  rw [if_pos ((holds_iff _ _ _).mpr shape.type), shape.name]
  rfl

theorem ofMembers_of_not_refersTo {ε : Type} {members : Members}
    (noName : ∀ name, ¬ RefersTo members name) :
    (ofMembers members : Traced ε TypeRef) = keep (.object members) := by
  unfold ofMembers
  split
  · next isReference =>
    split
    · next name found => exact absurd ⟨(holds_iff _ _ _).mp isReference, found⟩ (noName name)
    · rfl
  · rfl

theorem ofJson_of_isArrayOf {ε : Type} {members : Members} {item : Json}
    (shape : IsArrayOf members item) :
    (ofJson (.object members) : Traced ε TypeRef) =
      ofJson item >>= fun reference => pure (.array reference) := by
  conv => lhs; unfold ofJson
  rw [if_pos ((holds_iff _ _ _).mpr shape.kind), itemOfMembers?_eq, shape.item]
  rfl

theorem ofJson_of_not_isArrayOf {ε : Type} {members : Members}
    (noArray : ∀ item, ¬ IsArrayOf members item) :
    (ofJson (.object members) : Traced ε TypeRef) = ofMembers members := by
  unfold ofJson
  split
  · next isArray =>
    rw [itemOfMembers?_eq]
    cases found : Members.get? members "itemType" with
    | none => rfl
    | some item => exact absurd ⟨(holds_iff _ _ _).mp isArray, found⟩ (noArray item)
  · rfl

theorem ofJson_of_shapeless {ε : Type} {raw : Json} (shapeless : Shapeless raw) :
    (ofJson raw : Traced ε TypeRef) = keep raw := by
  cases raw with
  | object members =>
      rw [ofJson_of_not_isArrayOf fun item => shapeless.noArray members item rfl]
      exact ofMembers_of_not_refersTo fun name => shapeless.noName members name rfl
  | string text =>
      unfold ofJson
      split
      · next base found =>
        exact absurd (congrArg Json.string (Primitive.eq_name_of_ofName? found))
          (shapeless.noPrimitive base)
      · rfl
  | null => rfl
  | bool value => rfl
  | integer value => rfl
  | float value => rfl
  | array items => rfl

/-- What the rules say of a value is what the reader makes of it. -/
theorem ReadsAs.ofJson_eq {ε : Type} {raw : Json} {log : List Record} {reference : TypeRef}
    (reads : ReadsAs raw log reference) :
    (ofJson raw : Traced ε TypeRef) = ⟨log, .ok reference⟩ := by
  induction reads with
  | primitive base =>
      unfold ofJson
      rw [Primitive.ofName?_name]
      rfl
  | array shape _ ih =>
      rw [ofJson_of_isArrayOf shape, ih, Traced.bind_ok]
      simp [Traced.pure_def]
  | named noArray shape => rw [ofJson_of_not_isArrayOf noArray, ofMembers_of_refersTo shape]
  | unresolved shapeless => exact ofJson_of_shapeless shapeless

mutual

/-- The rules say something of every value. -/
theorem exists_readsAs (raw : Json) : ∃ log reference, ReadsAs raw log reference := by
  match raw with
  | .object members =>
      by_cases isArray : ∃ item, IsArrayOf members item
      · obtain ⟨item, shape⟩ := isArray
        obtain ⟨log, reference, reads⟩ := exists_readsAs_of_get? members shape.item
        exact ⟨log, .array reference, .array shape reads⟩
      · have noArray : ∀ item, ¬ IsArrayOf members item := fun item shape => isArray ⟨item, shape⟩
        by_cases isName : ∃ name, RefersTo members name
        · obtain ⟨name, shape⟩ := isName
          exact ⟨[], .named name, .named noArray shape⟩
        · refine ⟨_, _, .unresolved ⟨fun base => nofun, ?_, ?_⟩⟩
          · rintro _ item ⟨⟩
            exact noArray item
          · rintro _ name ⟨⟩
            exact fun shape => isName ⟨name, shape⟩
  | .string text =>
      by_cases isPrimitive : ∃ base : Primitive, text = base.name
      · obtain ⟨base, rfl⟩ := isPrimitive
        exact ⟨[], .primitive base, .primitive base⟩
      · exact ⟨_, _, .unresolved ⟨fun base same => isPrimitive ⟨base, by simpa using same⟩,
          nofun, nofun⟩⟩
  | .null | .bool _ | .integer _ | .float _ | .array _ =>
      exact ⟨_, _, .unresolved ⟨nofun, nofun, nofun⟩⟩

theorem exists_readsAs_of_get? (members : List (Text × Json)) {key : Text} {value : Json}
    (found : Members.get? members key = some value) : ∃ log reference, ReadsAs value log reference := by
  match members with
  | [] => cases found
  | (known, first) :: rest =>
      by_cases here : key = known
      · obtain rfl : first = value := by simpa [Members.get?, here] using found
        exact exists_readsAs first
      · have other : (key == known) = false := by simpa using here
        exact exists_readsAs_of_get? rest (by simpa [Members.get?, List.lookup_cons, other] using found)

end

/-- The reader follows the rules. -/
theorem ofJson_eq_iff {ε : Type} (raw : Json) (log : List Record) (reference : TypeRef) :
    (ofJson raw : Traced ε TypeRef) = ⟨log, .ok reference⟩ ↔ ReadsAs raw log reference := by
  constructor
  · intro read
    obtain ⟨log', reference', reads⟩ := exists_readsAs raw
    have same := read.symm.trans (reads.ofJson_eq (ε := ε))
    cases same
    exact reads
  · exact ReadsAs.ofJson_eq

/-! ## The plain form of a reference -/

/-- A reference as a document value; one that was not recognized is the value it was kept as. -/
def canonical : TypeRef → Json
  | primitive base => .string base.name
  | named name => .object [("type", .string "reference"), ("name", .string name)]
  | array item => .object [("kind", .string "array"), ("itemType", item.canonical)]
  | unresolved raw => raw

/-- The plain form of a reference that was read is read as the same reference. -/
theorem ReadsAs.canonical {raw : Json} {log : List Record} {reference : TypeRef}
    (reads : ReadsAs raw log reference) : ReadsAs reference.canonical log reference := by
  induction reads with
  | primitive base => exact .primitive base
  | array _ _ ih => exact .array ⟨rfl, rfl⟩ ih
  | named noArray shape => exact .named (fun item shape => nomatch shape.kind) ⟨rfl, rfl⟩
  | unresolved shapeless => exact .unresolved shapeless

/-- Only what was absent is told as absent. -/
theorem ReadsAs.canonical_present {raw : Json} {log : List Record} {reference : TypeRef}
    (reads : ReadsAs raw log reference) (notNull : raw ≠ .null) (notEmpty : raw ≠ .string []) :
    reference.canonical ≠ .null ∧ reference.canonical ≠ .string [] := by
  cases reads with
  | primitive base => cases base <;> simp [TypeRef.canonical, Primitive.name, Text.ofString]
  | array shape inner => simp [TypeRef.canonical]
  | named noArray shape => simp [TypeRef.canonical]
  | unresolved shapeless => exact ⟨notNull, notEmpty⟩

end TypedEndpoints.TypeRef
