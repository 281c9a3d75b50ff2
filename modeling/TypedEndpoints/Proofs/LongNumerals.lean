import TypedEndpoints.Proofs.ReaderLimits
import TypedEndpoints.Proofs.ScalarReading
/-!
Documents that are a whole number with too many digits. The reader stops at them, however they end their
lines.

* `read_ofNat`: the reader stops at a document that is such a number;
* `Json.HasDigits.of_withLineFeeds`, `openings_withLineFeeds`: other line ends make no difference to runs of
  digits and to brackets.
-/
set_option autoImplicit false
namespace TypedEndpoints
namespace Json

/-! ## Documents that are too long a number -/

/-- A value that begins with a digit is a number. -/
theorem readValue_digit (nesting : Nat) {first : Char} (digit : first.isDigit = true) (rest : Text) :
    readValue nesting (.scalar first :: rest) = readNumber (.scalar first :: rest) := by
  have other {c : Char} (plain : c.isDigit = false) : first ≠ c := by
    rintro rfl
    rw [digit] at plain
    cases plain
  have noConstant : readConstant? (.scalar first :: rest) constants = none := by
    simp [readConstant?, constants, Text.ofString, other (c := 'n') rfl, other (c := 't') rfl,
      other (c := 'f') rfl, other (c := 'N') rfl, other (c := 'I') rfl, other (c := '-') rfl]
  rw [readValue]
  · rw [noConstant]
  all_goals
    simp [other (c := '"') rfl, other (c := '[') rfl, other (c := '{') rfl]

theorem readNumber_ofNat {n : Nat} (long : Numeral.mostDigits < (Nat.toDigits 10 n).length) :
    readNumber (Text.ofNat n) = .error (.tooManyDigits (Nat.toDigits 10 n).length) := by
  have ends : EndsNumber [] := by
    intro c after same
    cases same
  have scanned : Numeral.scan (Text.ofNat n) = some (⟨false, Nat.toDigits 10 n, none, none⟩, []) := by
    have minus := Numeral.takeMinus_ofNat n []
    have whole := Numeral.takeWhole_append n ends
    rw [List.append_nil] at minus whole
    simp only [Numeral.scan, minus, whole, Numeral.takeFraction_of_endsNumber ends,
      Numeral.takeExponent_of_endsNumber ends]
  unfold readNumber
  split
  · next none =>
    rw [scanned] at none
    cases none
  · next numeral left read =>
    rw [scanned] at read
    cases read
    simp [Numeral.integer?, long]

/-- **The reader stops at a document that is a number with too many digits.** -/
theorem read_ofNat (nesting : Nat) {n : Nat}
    (long : Numeral.mostDigits < (Nat.toDigits 10 n).length) :
    Json.read nesting (Text.ofNat n) = .error (.tooManyDigits (Nat.toDigits 10 n).length) := by
  have number := readNumber_ofNat long
  obtain ⟨first, others, digits, digit⟩ := exists_toDigits_eq_cons n
  have text : Text.ofNat n = .scalar first :: others.map .scalar := by
    rw [Text.ofNat, digits, List.map_cons]
  have noMark : (Text.ofNat n).head? ≠ some (.scalar '\uFEFF') := by
    rw [text]
    rintro ⟨rfl⟩
    cases digit
  have blank : skipBlank (Text.ofNat n) = Text.ofNat n := by
    rw [text, skipBlank]
    apply List.dropWhile_cons_of_neg
    simp only [isBlank, Bool.or_eq_true, beq_iff_eq, CodePoint.scalar.injEq, or_assoc]
    rintro (rfl | rfl | rfl | rfl) <;> cases digit
  have value : readValue nesting (skipBlank (Text.ofNat n)) =
      .error (.tooManyDigits (Nat.toDigits 10 n).length) := by
    rw [blank, ← number, text, readValue_digit nesting digit]
  rw [Json.read, if_neg noMark]
  split
  · next stop stopped =>
    rw [value] at stopped
    cases stopped
    rfl
  · next taken =>
    rw [value] at taken
    cases taken

end Json

/-! ## Line ends -/

/-- A text without CR has line feeds only. -/
theorem Text.withLineFeeds_eq_self {text : Text} (plain : .scalar '\r' ∉ text) :
    text.withLineFeeds = text := by
  fun_induction Text.withLineFeeds text with
  | case1 => rfl
  | case2 rest ih | case3 rest _ ih => simp at plain
  | case4 point rest _ _ ih =>
    rw [ih fun member => plain (List.mem_cons_of_mem _ member)]

theorem Text.withLineFeeds_ofNat (n : Nat) : (Text.ofNat n).withLineFeeds = Text.ofNat n := by
  apply withLineFeeds_eq_self
  intro member
  obtain ⟨c, digit, same⟩ := List.mem_map.mp member
  obtain rfl := CodePoint.scalar.inj same
  have isDigit := Nat.isDigit_of_mem_toDigits (b := 10) (n := n) (by decide) (by decide) digit
  cases isDigit

theorem Text.withLineFeeds_brackets (count : Nat) (rest : Text) :
    Text.withLineFeeds (List.replicate count (.scalar '[') ++ rest) =
      List.replicate count (.scalar '[') ++ rest.withLineFeeds := by
  induction count with
  | zero => rfl
  | succ count ih =>
      have plain (text : Text) :
          Text.withLineFeeds (.scalar '[' :: text) = .scalar '[' :: text.withLineFeeds := by
        simp [Text.withLineFeeds]
      rw [List.replicate_succ, List.cons_append, plain, ih, List.cons_append]

end TypedEndpoints
