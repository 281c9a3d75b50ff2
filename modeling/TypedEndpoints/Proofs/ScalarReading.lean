import TypedEndpoints.Json.Numeral
import TypedEndpoints.Proofs.TextReading
import TypedEndpoints.Source.Declarations
/-!
Members of a union, read back. A literal of a union is a JSON scalar: a string between double quotes or a
number. The reader here scans as the reader of documents does, with `Json.Quoted.scan` and
`Json.Numeral.scan`, but takes whole numbers of any length; it reads what `memberLiteral` writes, with what
follows it left over.

* `scan_encode`: an encoded string is read back, whatever its characters and whatever follows it;
* `scan_ofInt`: a whole number is read back, if what follows cannot make it longer;
* `readUnion_append`: so is a list of them with ` | ` between neighbours.
-/
set_option autoImplicit false
namespace TypedEndpoints

/-! ## Strings -/

namespace Json.Quoted

/-- A short escape stands for its character, and its letter is not that of the long escape. -/
theorem unescape?_shortEscape? {c letter : Char} (short : shortEscape? c = some letter) :
    unescape? (.scalar letter) = some c ∧ letter ≠ 'u' := by
  unfold shortEscape? at short
  split at short <;> cases short <;> decide

/-- The unit that four digits of a text name. -/
def unitOf? : Text → Option Nat
  | [a, b, c, d] => unit? a b c d
  | _ => none

theorem unitOf?_hex : ∀ n < 0x20, unitOf? (Text.hex 4 n) = some n := by decide

theorem exists_hex {n : Nat} (control : n < 0x20) :
    ∃ a b c d, Text.hex 4 n = [a, b, c, d] ∧ unit? a b c d = some n := by
  have named := unitOf?_hex n control
  unfold unitOf? at named
  split at named
  · next a b c d digits => exact ⟨a, b, c, d, digits, named⟩
  · cases named

theorem ofUnit_control {c : Char} (control : c.toNat < 0x20) :
    CodePoint.ofUnit c.toNat = .scalar c := by
  have noHalf : ¬ (c.toNat - 0xD800 < 0x800 ∧ 0xD800 ≤ c.toNat) := by
    rintro ⟨-, large⟩
    omega
  have named : CodePoint.ofUnit c.toNat = .scalar (Char.ofNat c.toNat) := dif_neg noHalf
  rw [named, Char.ofNat_toNat]

/-- The escape of a control character is never half of a pair. -/
theorem consUnit_control {c : Char} (control : c.toNat < 0x20) (escapeFollows : Bool) :
    consUnit c.toNat escapeFollows = (.scalar c :: ·) := by
  have noPair : ∀ next, CodePoint.joined? (.scalar c) next = none := by
    intro next
    cases next <;> rfl
  funext text
  unfold consUnit
  rw [ofUnit_control control]
  cases text with
  | nil => rfl
  | cons next rest => simp only [noPair, ite_self]

theorem scan_point {point : CodePoint} (rest : Text) (notQuote : point ≠ .scalar '"')
    (notBackslash : point ≠ .scalar '\\') (visible : ¬ point.value < 0x20) :
    scan (point :: rest) = prepend (point :: ·) (scan rest) := by
  rw [scan]
  · rw [if_neg visible]
  all_goals simp_all

/-- What is written for a code point is read as that code point; the long escape needs more text behind
it, and a closing quote at least is there. -/
theorem scan_encodePoint (point : CodePoint) {rest : Text} (more : rest ≠ []) :
    scan (encodePoint point ++ rest) = prepend (point :: ·) (scan rest) := by
  cases point with
  | surrogate offset =>
      have visible : ¬ (CodePoint.surrogate offset).value < 0x20 := by
        simp only [CodePoint.value]
        omega
      exact scan_point rest (by simp) (by simp) visible
  | scalar c =>
      simp only [encodePoint]
      split
      · next letter short =>
        obtain ⟨meaning, notU⟩ := unescape?_shortEscape? short
        simp [scan, meaning, notU]
      · next notShort =>
        by_cases control : c.toNat < 0x20
        · obtain ⟨a, b, d, e, digits, named⟩ := exists_hex control
          obtain ⟨next, after, rfl⟩ := List.exists_cons_of_ne_nil more
          rw [if_pos control, digits]
          have escape : Text.ofString "\\u" = [.scalar '\\', .scalar 'u'] := rfl
          simp [escape, scan, named, consUnit_control control]
        · rw [if_neg control]
          have notQuote : CodePoint.scalar c ≠ .scalar '"' := by
            rintro ⟨rfl⟩
            cases notShort
          have notBackslash : CodePoint.scalar c ≠ .scalar '\\' := by
            rintro ⟨rfl⟩
            cases notShort
          exact scan_point rest notQuote notBackslash control

/-- **An encoded string is read back.** -/
theorem scan_encode (text rest : Text) :
    scan (text.flatMap encodePoint ++ .scalar '"' :: rest) = .ok (text, rest) := by
  induction text with
  | nil => simp [scan]
  | cons point text ih =>
      rw [List.flatMap_cons, List.append_assoc, scan_encodePoint point (by simp), ih]
      rfl

end Json.Quoted

/-! ## Whole numbers -/

namespace Json

/-- What follows here cannot make a whole number longer: it begins with no digit, and with neither a
fraction nor an exponent. -/
def EndsNumber (rest : Text) : Prop :=
  ∀ c after, rest = .scalar c :: after → c.isDigit = false ∧ c ≠ '.' ∧ c ≠ 'e' ∧ c ≠ 'E'

theorem takeDigits_append {digits : List Char} {rest : Text} (all : ∀ c ∈ digits, c.isDigit = true)
    (ends : EndsNumber rest) : takeDigits (digits.map .scalar ++ rest) = (digits, rest) := by
  induction digits with
  | nil =>
      cases rest with
      | nil => rfl
      | cons point after =>
          cases point with
          | surrogate offset => rfl
          | scalar c =>
              have stop := (ends c after rfl).1
              simp [takeDigits, stop]
  | cons c digits ih =>
      have digit := all c List.mem_cons_self
      have others := ih fun d member => all d (List.mem_cons_of_mem _ member)
      simp [takeDigits, digit, others]

/-- A number in decimal begins with a digit. -/
theorem exists_toDigits_eq_cons (n : Nat) :
    ∃ first others, Nat.toDigits 10 n = first :: others ∧ first.isDigit = true := by
  obtain ⟨first, others, digits⟩ := List.exists_cons_of_ne_nil (Nat.toDigits_ne_nil (n := n) (b := 10))
  refine ⟨first, others, digits, ?_⟩
  apply Nat.isDigit_of_mem_toDigits (b := 10) (n := n) (by decide) (by decide)
  rw [digits]
  exact List.mem_cons_self

/-- A number in decimal begins with a zero only if it is zero. -/
theorem toDigits_eq_zero_cons {n : Nat} {digits : List Char} (zero : Nat.toDigits 10 n = '0' :: digits) :
    n = 0 := by
  induction n using Nat.strongRecOn generalizing digits with
  | ind n ih =>
      rw [Nat.toDigits_eq_if (by decide)] at zero
      split at zero
      · next small =>
        have only : ∀ m < 10, Nat.digitChar m = '0' → m = 0 := by decide
        exact only n small (List.cons.inj zero).1
      · next large =>
        obtain ⟨first, others, front, -⟩ := exists_toDigits_eq_cons (n / 10)
        rw [front, List.cons_append] at zero
        obtain ⟨rfl, -⟩ := List.cons.inj zero
        have small := ih (n / 10) (by omega) front
        omega

namespace Numeral

theorem takeWhole_append (n : Nat) {rest : Text} (ends : EndsNumber rest) :
    takeWhole (Text.ofNat n ++ rest) = some (Nat.toDigits 10 n, rest) := by
  have all : ∀ c ∈ Nat.toDigits 10 n, c.isDigit = true :=
    fun c member => Nat.isDigit_of_mem_toDigits (by decide) (by decide) member
  have taken := takeDigits_append all ends
  obtain ⟨first, others, digits, -⟩ := exists_toDigits_eq_cons n
  unfold Text.ofNat
  by_cases zero : first = '0'
  · subst zero
    obtain rfl := toDigits_eq_zero_cons digits
    rfl
  · rw [digits] at taken ⊢
    simp only [List.map_cons, List.cons_append] at taken ⊢
    unfold takeWhole
    split
    · next same => exact absurd (CodePoint.scalar.inj (List.cons.inj same).1) zero
    · rw [taken]

theorem takeFraction_of_endsNumber {rest : Text} (ends : EndsNumber rest) :
    takeFraction rest = (none, rest) := by
  unfold takeFraction
  split
  · exact absurd rfl (ends _ _ rfl).2.1
  · rfl

theorem takeExponent_of_endsNumber {rest : Text} (ends : EndsNumber rest) :
    takeExponent rest = (none, rest) := by
  unfold takeExponent
  split
  · next c after =>
    obtain ⟨-, -, notSmall, notLarge⟩ := ends c after rfl
    simp [notSmall, notLarge]
  · rfl

theorem takeMinus_ofNat (n : Nat) (rest : Text) :
    takeMinus (Text.ofNat n ++ rest) = (false, Text.ofNat n ++ rest) := by
  obtain ⟨first, others, digits, digit⟩ := exists_toDigits_eq_cons n
  unfold Text.ofNat takeMinus
  rw [digits]
  split
  · next same =>
    obtain rfl := CodePoint.scalar.inj (List.cons.inj same).1
    cases digit
  · rfl

/-- **A whole number is read back.** -/
theorem scan_ofInt (value : Int) {rest : Text} (ends : EndsNumber rest) :
    ∃ numeral, scan (Text.ofInt value ++ rest) = some (numeral, rest) ∧
      numeral.integer? = some value := by
  cases value with
  | ofNat n =>
      refine ⟨⟨false, Nat.toDigits 10 n, none, none⟩, ?_, ?_⟩
      · unfold scan Text.ofInt
        simp only [takeMinus_ofNat, takeWhole_append n ends, takeFraction_of_endsNumber ends,
          takeExponent_of_endsNumber ends]
      · simp [integer?, digitsValue]
  | negSucc n =>
      refine ⟨⟨true, Nat.toDigits 10 (n + 1), none, none⟩, ?_, ?_⟩
      · unfold scan Text.ofInt
        simp only [List.cons_append, takeMinus, takeWhole_append (n + 1) ends,
          takeFraction_of_endsNumber ends, takeExponent_of_endsNumber ends]
      · simp [integer?, digitsValue]
        omega

end Numeral
end Json

/-! ## Members and unions -/

namespace Source

/-- Reads a JSON scalar that is a number or a string. -/
def readScalar (text : Text) : Option (EnumValue × Text) :=
  match Json.Numeral.scan text with
  | some (numeral, rest) =>
    match numeral.integer? with
    | some value => some (.integer value, rest)
    | none => some (.float numeral.nearest, rest)
  | none =>
    match text with
    | .scalar '"' :: inside =>
      match Json.Quoted.scan inside with
      | .ok (value, rest) => some (.string value, rest)
      | .error _ => none
    | _ => none

/-- Reads scalars with ` | ` between neighbours. -/
def readUnion (text : Text) : Option (List EnumValue × Text) := do
  let (first, rest) ← readScalar text
  let (others, rest) := Text.readMany (fun text => (Text.behind? " | " text).bind readScalar) rest
  return (first :: others, rest)

theorem readScalar_memberLiteral {value : EnumValue} (notFloat : ∀ number, value ≠ .float number)
    {rest : Text} (ends : Json.EndsNumber rest) :
    readScalar (memberLiteral value ++ rest) = some (value, rest) := by
  cases value with
  | string text =>
      have noNumber : Json.Numeral.scan (memberLiteral (.string text) ++ rest) = none := rfl
      unfold readScalar
      rw [noNumber]
      simp [memberLiteral, Json.Quoted.encode, Json.Quoted.scan_encode]
  | integer number =>
      obtain ⟨numeral, scanned, meaning⟩ := Json.Numeral.scan_ofInt number ends
      unfold readScalar
      rw [memberLiteral, scanned]
      simp only [meaning]
  | float number => exact absurd rfl (notFloat number)

theorem join_cons_eq_flatMap (separator first : Text) (others : List Text) :
    Text.join separator (first :: others) = first ++ others.flatMap (separator ++ ·) := by
  induction others generalizing first with
  | nil => simp
  | cons second others ih => rw [Text.join_cons_cons, ih, List.flatMap_cons, List.append_assoc]

/-- A separator follows a member, or the end of the declaration. -/
theorem endsNumber_of_head {c : Char} (rest : Text) (plain : c = ' ' ∨ c = ';') :
    Json.EndsNumber (.scalar c :: rest) := by
  rintro d after ⟨rfl⟩
  rcases plain with rfl | rfl <;> decide

/-- **A union is read back**, member by member, up to what cannot belong to it. -/
theorem readUnion_append {values : List EnumValue} (nonempty : values ≠ [])
    (notFloat : ∀ value ∈ values, ∀ number, value ≠ .float number) {rest : Text}
    (ends : Json.EndsNumber rest) (last : Text.behind? " | " rest = none) :
    readUnion (Text.join " | " (values.map memberLiteral) ++ rest) = some (values, rest) := by
  obtain ⟨first, others, rfl⟩ := List.exists_cons_of_ne_nil nonempty
  have separator : Text.ofString " | " = [.scalar ' ', .scalar '|', .scalar ' '] := rfl
  have spaced : ∀ value ∈ others, ∀ after,
      Json.EndsNumber ((" | " ++ memberLiteral value : Text) ++ after) := by
    intro value _ after
    rw [separator, List.append_assoc]
    exact endsNumber_of_head _ (.inl rfl)
  have following : Json.EndsNumber
      ((others.flatMap fun value => (" | " ++ memberLiteral value : Text)) ++ rest) := by
    cases others with
    | nil => exact ends
    | cons second others =>
        rw [List.flatMap_cons, List.append_assoc]
        exact spaced second List.mem_cons_self _
  have head := readScalar_memberLiteral (notFloat first List.mem_cons_self) following
  have many : Text.readMany (fun text => (Text.behind? " | " text).bind readScalar)
      ((others.flatMap fun value => (" | " ++ memberLiteral value : Text)) ++ rest) =
      (others.map id, rest) := by
    refine Text.readMany_append Json.EndsNumber ?_ ?_ spaced ends (by rw [last]; rfl)
    · intro value member after endsAfter
      have plain := notFloat value (List.mem_cons_of_mem _ member)
      rw [List.append_assoc, Text.behind?_append]
      exact readScalar_memberLiteral plain endsAfter
    · intro value _
      simp [separator]
  rw [List.map_cons, join_cons_eq_flatMap, List.flatMap_map, List.append_assoc, readUnion, head]
  simp only [Option.bind_eq_bind, Option.bind_some, many, List.map_id]
  rfl

end Source
end TypedEndpoints
