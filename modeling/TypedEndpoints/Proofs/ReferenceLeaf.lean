import Mathlib.Logic.Function.Iterate
import TypedEndpoints.Proofs.ReferenceReading
/-!
The leaf of a reference decides. A document value is some number of array layers around a leaf, and both
are told without the reader. What is emitted for the value, which declared types it mentions and what is
reported about it then follow from the leaf; the layers only add their suffixes to the type expression.

* `Peels`: the layers of a value and its leaf, of which there is one pair (`Peels.unique`);
* `typeText_layers`, `names_layers`: what arrays around a reference change;
* `ReadsAs.peeled`: a value is read as arrays around what its leaf is read as;
* `LeafStands`: what a leaf stands for, a primitive type, a name or nothing known;
* `reference_decided_by_leaf`: the law for every value.
-/
set_option autoImplicit false
namespace TypedEndpoints.TypeRef

open Json

/-! ## Layers and leaf -/

/-- There is no array to take away, whatever else the value looks like. -/
def IsLeaf (raw : Json) : Prop := ∀ members item, raw = .object members → ¬ IsArrayOf members item

/-- Below so many layers of arrays stands the leaf. -/
inductive Peels : Json → Nat → Json → Prop
  | leaf {raw : Json} (bare : IsLeaf raw) : Peels raw 0 raw
  | layer {members : Members} {item leaf : Json} {layers : Nat} (shape : IsArrayOf members item)
      (inner : Peels item layers leaf) : Peels (.object members) (layers + 1) leaf

theorem IsArrayOf.item_eq {members : Members} {item other : Json} (shape : IsArrayOf members item)
    (shape' : IsArrayOf members other) : other = item :=
  Option.some.inj (shape'.item.symm.trans shape.item)

theorem Peels.isLeaf {raw leaf : Json} {layers : Nat} (peeled : Peels raw layers leaf) : IsLeaf leaf := by
  induction peeled with
  | leaf bare => exact bare
  | layer shape inner ih => exact ih

/-- At every level the value decides whether there is a further layer, and which. -/
theorem Peels.unique {raw leaf other : Json} {layers count : Nat} (peeled : Peels raw layers leaf)
    (peeled' : Peels raw count other) : count = layers ∧ other = leaf := by
  induction peeled generalizing count with
  | leaf bare =>
      cases peeled' with
      | leaf _ => exact ⟨rfl, rfl⟩
      | layer shape _ => exact absurd shape (bare _ _ rfl)
  | layer shape _ ih =>
      cases peeled' with
      | leaf bare => exact absurd shape (bare _ _ rfl)
      | layer shape' inner' =>
          obtain rfl := shape.item_eq shape'
          obtain ⟨rfl, rfl⟩ := ih inner'
          exact ⟨rfl, rfl⟩

/-! ## Arrays around a reference -/

/-- Each array adds its suffix behind the type expression of its items. -/
theorem typeText_layers (layers : Nat) (inner : TypeRef) :
    (array^[layers] inner).typeText = inner.typeText ++ (List.replicate layers ("[]" : Text)).flatten := by
  induction layers with
  | zero => simp
  | succ layers ih =>
      rw [Function.iterate_succ_apply', typeText, ih, List.replicate_succ', List.flatten_concat,
        List.append_assoc]

/-- Arrays mention what their items mention. -/
theorem names_layers (layers : Nat) (inner : TypeRef) : (array^[layers] inner).names = inner.names := by
  induction layers with
  | zero => rfl
  | succ layers ih => rw [Function.iterate_succ_apply', names, ih]

/-- A value is read as arrays around what its leaf is read as, and only the leaf is reported on. -/
theorem ReadsAs.peeled {raw : Json} {log : List Record} {reference : TypeRef}
    (reads : ReadsAs raw log reference) :
    ∃ layers leaf inner, Peels raw layers leaf ∧ ReadsAs leaf log inner ∧
      reference = TypeRef.array^[layers] inner := by
  -- of the rules only the one for arrays takes a layer away; under each other the value is its own leaf
  induction reads with
  | primitive base => exact ⟨0, _, _, .leaf nofun, .primitive base, rfl⟩
  | array shape _ ih =>
      obtain ⟨layers, leaf, inner, peeled, reads, rfl⟩ := ih
      exact ⟨layers + 1, leaf, inner, .layer shape peeled, reads,
        (Function.iterate_succ_apply' _ _ _).symm⟩
  | named noArray shape =>
      refine ⟨0, _, _, .leaf ?_, .named noArray shape, rfl⟩
      rintro _ item ⟨⟩
      exact noArray item
  | unresolved shapeless => exact ⟨0, _, _, .leaf shapeless.noArray, .unresolved shapeless, rfl⟩

/-! ## What a leaf stands for -/

/-- The type expression of a leaf, the declared types that it mentions, and what is reported about it. -/
inductive LeafStands : Json → Text → List Text → List Record → Prop
  | primitive {name : Text} (known : name = "string" ∨ name = "number" ∨ name = "boolean") :
      LeafStands (.string name) name [] []
  | named {members : Members} {name : Text} (shape : RefersTo members name) :
      LeafStands (.object members) name [name] []
  | unknown {leaf : Json}
      (noPrimitive : leaf ≠ .string "string" ∧ leaf ≠ .string "number" ∧ leaf ≠ .string "boolean")
      (noName : ∀ members name, leaf = .object members → ¬ RefersTo members name) :
      LeafStands leaf "unknown" [] [⟨.warning, .documents,
        "Unrecognized type reference " ++ leaf.shown ++ ", emitting as unresolved"⟩]

theorem ReadsAs.leafStands {leaf : Json} {log : List Record} {inner : TypeRef}
    (reads : ReadsAs leaf log inner) (bare : IsLeaf leaf) :
    LeafStands leaf inner.typeText inner.names log := by
  cases reads with
  | primitive base =>
      refine .primitive ?_
      cases base <;> simp [Primitive.name]
  | array shape _ => exact absurd shape (bare _ _ rfl)
  | named _ shape => exact .named shape
  | unresolved shapeless =>
      exact .unknown ⟨shapeless.noPrimitive .string, shapeless.noPrimitive .number,
        shapeless.noPrimitive .boolean⟩ shapeless.noName

/-- **Main result.** Every value has one number of layers and one leaf. It is read without fail, its type
expression is that of the leaf with a suffix for each layer, and it mentions and reports what the leaf
does. -/
theorem reference_decided_by_leaf {ε : Type} (raw : Json) :
    ∃ layers leaf, Peels raw layers leaf ∧
      (∀ count other, Peels raw count other → count = layers ∧ other = leaf) ∧
      ∃ base log reference, LeafStands leaf base reference.names log ∧
        (ofJson raw : Traced ε TypeRef) = ⟨log, .ok reference⟩ ∧
        reference.typeText = base ++ (List.replicate layers ("[]" : Text)).flatten := by
  obtain ⟨log, reference, reads⟩ := exists_readsAs raw
  obtain ⟨layers, leaf, inner, peeled, leafReads, rfl⟩ := reads.peeled
  refine ⟨layers, leaf, peeled, fun _ _ peeled' => peeled.unique peeled', inner.typeText, log,
    array^[layers] inner, ?_, reads.ofJson_eq, typeText_layers layers inner⟩
  rw [names_layers]
  exact leafReads.leafStands peeled.isLeaf

-- An array comes before a reference by name; without items it is no layer, and its name can count.
example : Peels (.object [("type", .string "reference"), ("name", .string "User"),
    ("kind", .string "array"), ("itemType", .object [("kind", .string "array"),
      ("type", .string "reference"), ("name", .string [])])]) 1
    (.object [("kind", .string "array"), ("type", .string "reference"), ("name", .string [])]) :=
  .layer ⟨rfl, rfl⟩ (.leaf (by rintro _ item ⟨⟩ ⟨-, ⟨⟩⟩))

end TypedEndpoints.TypeRef
