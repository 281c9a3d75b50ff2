import Mathlib.Algebra.Group.Int.Defs
import TypedEndpoints.Proofs.ModuleLines
import TypedEndpoints.Proofs.ScalarReading
/-!
The text of a union of literals. It stands on one line of the declarations, and holds no control character:
those of a string are escaped, and numbers and separators have none. Read from the left as JSON scalars with
separators between them it gives the members of the union, whatever their strings hold. A union with too
long a number has no line: the declarations are not emitted at all.

* `ControlFree.memberLiteral`: so a member is written without control characters;
* `emitDeclarations_of_tooLong`: nothing is emitted next to a number that is too long;
* `union_text_read`: the line of a union, what it holds, and what is read from it;
* `not_all_unions_written`: a union that has no line.
-/
set_option autoImplicit false
namespace TypedEndpoints

/-! ## Control characters -/

/-- No code point of the text is below the space. -/
def ControlFree (text : Text) : Prop := ∀ point ∈ text, 0x20 ≤ point.value

instance (text : Text) : Decidable (ControlFree text) :=
  inferInstanceAs (Decidable (∀ point ∈ text, 0x20 ≤ point.value))

namespace ControlFree

theorem append {first second : Text} (left : ControlFree first) (right : ControlFree second) :
    ControlFree (first ++ second) := by
  intro point member
  rcases List.mem_append.mp member with inFirst | inSecond
  · exact left point inFirst
  · exact right point inSecond

theorem flatMap {α : Type} {entries : List α} {write : α → Text}
    (each : ∀ entry ∈ entries, ControlFree (write entry)) : ControlFree (entries.flatMap write) := by
  intro point member
  obtain ⟨entry, known, inside⟩ := List.mem_flatMap.mp member
  exact each entry known point inside

theorem join {separator : Text} {texts : List Text} (between : ControlFree separator)
    (each : ∀ text ∈ texts, ControlFree text) : ControlFree (Text.join separator texts) := by
  cases texts with
  | nil => intro point member; cases member
  | cons first others =>
      rw [Source.join_cons_eq_flatMap]
      apply append (each first List.mem_cons_self)
      apply flatMap
      intro text member
      exact between.append (each text (List.mem_cons_of_mem _ member))

/-- The long escape of a control character is made of a backslash, a letter and digits. -/
theorem longEscape : ∀ n < 0x20, ControlFree ("\\u" ++ Text.hex 4 n) := by decide

theorem shortEscape {c letter : Char} (short : Json.Quoted.shortEscape? c = some letter) :
    ControlFree [.scalar '\\', .scalar letter] := by
  unfold Json.Quoted.shortEscape? at short
  split at short <;> cases short <;> decide

/-- Whatever the code point is, what is written for it has no control character. -/
theorem encodePoint (point : CodePoint) : ControlFree (Json.Quoted.encodePoint point) := by
  cases point with
  | surrogate offset =>
      simp [ControlFree, Json.Quoted.encodePoint, CodePoint.value]
      omega
  | scalar c =>
      simp only [Json.Quoted.encodePoint]
      split
      · next letter short => exact shortEscape short
      · split
        · next control => exact longEscape c.toNat control
        · next visible => simpa [ControlFree, CodePoint.value] using visible

theorem ofNat (n : Nat) : ControlFree (Text.ofNat n) := by
  intro point member
  obtain ⟨c, inside, rfl⟩ := List.mem_map.mp member
  have digit := Nat.isDigit_of_mem_toDigits (by decide) (by decide) inside
  have range : '0'.toNat ≤ c.toNat ∧ c.toNat ≤ '9'.toNat := by
    simpa [Char.isDigit, UInt32.le_iff_toNat_le] using digit
  have low : 0x20 ≤ '0'.toNat := by decide
  show 0x20 ≤ c.toNat
  omega

theorem ofInt (value : Int) : ControlFree (Text.ofInt value) := by
  cases value with
  | ofNat n => exact ofNat n
  | negSucc n =>
      have minus : ControlFree [.scalar '-'] := by decide
      exact minus.append (ofNat (n + 1))

/-- A member of a union is written without control characters, if it is no floating point number. -/
theorem memberLiteral {value : EnumValue} (notFloat : ∀ number, value ≠ .float number) :
    ControlFree (Source.memberLiteral value) := by
  cases value with
  | string text =>
      have quote : ControlFree [.scalar '"'] := by decide
      have inside : ControlFree (text.flatMap Json.Quoted.encodePoint) :=
        flatMap fun point _ => encodePoint point
      exact quote.append (inside.append quote)
  | integer number => exact ofInt number
  | float number => exact absurd rfl (notFloat number)

end ControlFree

namespace Source

/-- The line that declares a union is a line of the module. -/
theorem hasLine_union {dataTypes : List DataType} {name : Text} {values : List EnumValue}
    (known : ⟨name, .union values⟩ ∈ dataTypes) :
    HasLine (declarationsModule dataTypes)
      ("export type " ++ name ++ " = " ++ Text.join " | " (values.map memberLiteral) ++ ";") := by
  rw [declarationsModule_eq_lines]
  apply hasLine_lines
  apply List.mem_append_right
  exact List.mem_flatMap.mpr ⟨_, known, List.mem_append_left _ (List.mem_singleton_self _)⟩

/-- A whole number with too many digits keeps all declarations from being emitted. -/
theorem emitDeclarations_of_tooLong {dataTypes : List DataType} {name : Text} {values : List EnumValue}
    {number : Int} (known : ⟨name, .union values⟩ ∈ dataTypes) (member : .integer number ∈ values)
    (long : Json.Numeral.mostDigits < (Nat.toDigits 10 number.natAbs).length) :
    emitDeclarations dataTypes = .error .tooManyDigits := by
  refine if_neg fun all => ?_
  have declared : values.all isWritable = true := List.all_eq_true.mp all _ known
  have few : Json.Numeral.hasFewDigits number = true := List.all_eq_true.mp declared _ member
  rw [Json.Numeral.hasFewDigits, decide_eq_true_iff] at few
  omega

/-- **A union says its members.** Wherever the data type stands, its line in the declarations that are
emitted ends with a text that holds no control character; read from the left as JSON scalars, one behind the
other, that text is the members in order, and nothing of it is left. The declarations are emitted if every
member of every union can be written, and not if a whole number of this one has too many digits. -/
theorem union_text_read (name : Text) (values : List EnumValue) (nonempty : values ≠ [])
    (notFloat : ∀ value ∈ values, ∀ number, value ≠ .float number) :
    ∃ union : Text,
      union = Text.join " | " (values.map memberLiteral) ∧
      (∀ point ∈ union, 0x20 ≤ point.value) ∧
      readUnion union = some (values, []) ∧
      ∀ dataTypes, ⟨name, .union values⟩ ∈ dataTypes →
        ((∀ dataType ∈ dataTypes, canDeclare dataType = true) → ∃ text,
          emitDeclarations dataTypes = .ok text ∧
            HasLine text ("export type " ++ name ++ " = " ++ union ++ ";")) ∧
        ∀ number, .integer number ∈ values →
          Json.Numeral.mostDigits < (Nat.toDigits 10 number.natAbs).length →
            emitDeclarations dataTypes = .error .tooManyDigits := by
  refine ⟨Text.join " | " (values.map memberLiteral), rfl, ?_, ?_, fun dataTypes known => ⟨?_, ?_⟩⟩
  · show ControlFree _
    apply ControlFree.join (by decide)
    intro text member
    obtain ⟨value, known, rfl⟩ := List.mem_map.mp member
    exact ControlFree.memberLiteral (notFloat value known)
  · have nothing : Json.EndsNumber [] := by
      intro c after empty
      cases empty
    have read := readUnion_append nonempty notFloat nothing rfl
    rwa [List.append_nil] at read
  · intro writable
    exact ⟨declarationsModule dataTypes, (emitDeclarations_eq_ok_iff dataTypes _).mpr ⟨writable, rfl⟩,
      hasLine_union known⟩
  · exact fun number => emitDeclarations_of_tooLong known

/-- A member that looks like two, one with a control character and a backslash at its end, and a number. -/
def trickyMembers : List EnumValue :=
  [.string "a\" | \"b", .string "\x01\\", .integer (-12)]

theorem union_text_read_of_trickyMembers :
    trickyMembers ≠ [] ∧ (∀ value ∈ trickyMembers, ∀ number, value ≠ .float number) ∧
      ∃ union text : Text,
        emitDeclarations [⟨"Tag", .union trickyMembers⟩] = .ok text ∧
        HasLine text ("export type " ++ "Tag" ++ " = " ++ union ++ ";") ∧
        (∀ point ∈ union, 0x20 ≤ point.value) ∧
        readUnion union = some (trickyMembers, []) := by
  have nonempty : trickyMembers ≠ [] := by simp [trickyMembers]
  have notFloat : ∀ value ∈ trickyMembers, ∀ number, value ≠ .float number := by simp [trickyMembers]
  have writable : ∀ dataType ∈ [(⟨"Tag", .union trickyMembers⟩ : DataType)],
      canDeclare dataType = true := by decide
  obtain ⟨union, -, controlFree, read, emitted⟩ := union_text_read "Tag" trickyMembers nonempty notFloat
  obtain ⟨text, ends, line⟩ := (emitted _ List.mem_cons_self).1 writable
  exact ⟨nonempty, notFloat, union, text, ends, line, controlFree, read⟩

/-- A power of ten has a digit more than zeros. -/
theorem lt_length_toDigits_pow {zeros : Nat} (positive : 0 < zeros) :
    zeros < (Nat.toDigits 10 (10 ^ zeros : Int).natAbs).length := by
  rw [← Nat.not_le, Nat.length_toDigits_le_iff (by decide) positive, Int.natAbs_pow]
  exact Nat.lt_irrefl _

/-- Not every union of strings and whole numbers is written so that its members can be read. -/
theorem not_all_unions_written : ¬ ∀ (name : Text) (values : List EnumValue), values ≠ [] →
    (∀ value ∈ values, ∀ number, value ≠ .float number) →
    ∃ union text : Text, emitDeclarations [⟨name, .union values⟩] = .ok text ∧
      HasLine text ("export type " ++ name ++ " = " ++ union ++ ";") ∧
      readUnion union = some (values, []) := by
  intro all
  -- the least number that is too long
  let tooLong : Int := 10 ^ Json.Numeral.mostDigits
  obtain ⟨union, text, ends, -⟩ := all "Big" [.integer tooLong] (by simp) (by simp)
  have refused : emitDeclarations [⟨"Big", .union [.integer tooLong]⟩] = .error .tooManyDigits :=
    emitDeclarations_of_tooLong List.mem_cons_self List.mem_cons_self
      (lt_length_toDigits_pow (by decide))
  cases ends.symm.trans refused

end Source
end TypedEndpoints
