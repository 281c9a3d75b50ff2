import TypedEndpoints.Document.Entry
/-!
Which values name a method. The method of an interface is looked up by the upper-case text of any
document value, so a value other than a string could name one by the way it is shown. None does: every
method begins with one of three letters, an array or an object is shown with a bracket in front, and no
character of any other value becomes one of those letters.

* `ofJson_method_iff`: a value names a method exactly if it is a string with the upper case of one.
-/
set_option autoImplicit false
namespace TypedEndpoints

/-! ## Characters -/

/-- The letters that methods begin with. -/
def methodInitials : List Char := ['G', 'P', 'D']

/-- Upper case turns the character into none of the letters that methods begin with. -/
def Quiet (c : Char) : Prop := ∀ upper ∈ upperCaseOf c, upper ∉ methodInitials

def QuietChars (chars : List Char) : Prop := ∀ c ∈ chars, Quiet c

-- Only the characters of the list are asked; all others are too many.
instance (c : Char) : Decidable (Quiet c) := List.decidableBAll (· ∉ methodInitials) (upperCaseOf c)

instance (chars : List Char) : Decidable (QuietChars chars) := List.decidableBAll Quiet chars

/-- In front of the small letters every character is its own upper case. -/
theorem upperCaseOf_of_lt {c : Char} (small : c.toNat < 0x61) : upperCaseOf c = [c] := by
  have noExpansion : upperCaseExpansions.lookup c.toNat = none := by
    rw [List.lookup_eq_none_iff]
    intro entry member
    have later : ∀ entry ∈ upperCaseExpansions, 0x61 ≤ entry.1 := by decide
    have := later entry member
    simp only [bne_iff_ne, ne_eq]
    omega
  rw [upperCaseOf, noExpansion, List.find?_eq_none.mpr]
  intro run member
  have later : ∀ run ∈ upperCaseRuns, 0x61 ≤ run.1 := by decide +kernel
  have := later run member
  have before : ¬ run.1 ≤ c.toNat := by omega
  simp [before]

theorem quiet_of_isDigit {c : Char} (digit : c.isDigit = true) : Quiet c := by
  have range : '0'.toNat ≤ c.toNat ∧ c.toNat ≤ '9'.toNat := by
    simpa [Char.isDigit, UInt32.le_iff_toNat_le] using digit
  have small : c.toNat < 0x61 := Nat.lt_of_le_of_lt range.2 (by decide)
  intro upper member
  rw [upperCaseOf_of_lt small, List.mem_singleton] at member
  subst member
  intro initial
  have high : ∀ letter ∈ methodInitials, '9'.toNat < letter.toNat := by simp [methodInitials]
  have := high upper initial
  omega

/-- A text of characters that upper case turns into no initial of a method. -/
def QuietText (text : Text) : Prop := ∀ point ∈ text, ∃ c, point = .scalar c ∧ Quiet c

theorem quietText_map (chars : List Char) (quiet : QuietChars chars) :
    QuietText (chars.map .scalar) := by
  intro point member
  obtain ⟨c, inside, rfl⟩ := List.mem_map.mp member
  exact ⟨c, rfl, quiet c inside⟩

theorem ofName?_method_initial {name : Text} {method : HttpMethod}
    (found : HttpMethod.ofName? name = some method) :
    ∃ initial ∈ methodInitials, name.head? = some (.scalar initial) := by
  have named := List.find?_some found
  simp only [beq_iff_eq] at named
  subst named
  cases method
  · exact ⟨'G', by decide, rfl⟩
  · exact ⟨'P', by decide, rfl⟩
  · exact ⟨'P', by decide, rfl⟩
  · exact ⟨'D', by decide, rfl⟩
  · exact ⟨'P', by decide, rfl⟩

/-- A quiet text is no method, whatever its case. -/
theorem ofName?_upperCased_of_quiet {text : Text} (quiet : QuietText text) :
    HttpMethod.ofName? text.upperCased = none := by
  rw [Option.eq_none_iff_forall_ne_some]
  intro method found
  obtain ⟨initial, isInitial, first⟩ := ofName?_method_initial found
  obtain ⟨point, member, inUpper⟩ := List.mem_flatMap.mp (List.mem_of_head? first)
  obtain ⟨c, rfl, quietChar⟩ := quiet point member
  obtain ⟨upper, isUpper, same⟩ := List.mem_map.mp inUpper
  cases same
  exact quietChar _ isUpper isInitial

/-- Nor is a text that begins with a bracket. -/
theorem ofName?_upperCased_of_bracket {c : Char} (bracket : upperCaseOf c = [c])
    (other : c ∉ methodInitials) (rest : Text) :
    HttpMethod.ofName? (Text.upperCased (.scalar c :: rest)) = none := by
  rw [Option.eq_none_iff_forall_ne_some]
  intro method found
  obtain ⟨initial, isInitial, first⟩ := ofName?_method_initial found
  simp only [Text.upperCased, List.flatMap_cons, bracket, List.map_cons, List.cons_append,
    List.head?_cons, Option.some.injEq, CodePoint.scalar.injEq] at first
  exact other (first ▸ isInitial)

/-! ## Values that are no strings -/

theorem quietText_ofNat (n : Nat) : QuietText (Text.ofNat n) :=
  quietText_map _ fun _ member =>
    quiet_of_isDigit (Nat.isDigit_of_mem_toDigits (by decide) (by decide) member)

theorem quietText_ofInt (value : Int) : QuietText (Text.ofInt value) := by
  cases value with
  | ofNat n => exact quietText_ofNat n
  | negSucc n =>
      intro point member
      rcases List.mem_cons.mp member with rfl | inside
      · exact ⟨'-', rfl, by decide⟩
      · exact quietText_ofNat (n + 1) point inside

theorem quiet_zeros (count : Nat) : QuietChars (List.replicate count '0') := by
  intro c member
  rw [List.eq_of_mem_replicate member]
  decide

theorem quiet_append {first second : List Char} (quietFirst : QuietChars first)
    (quietSecond : QuietChars second) : QuietChars (first ++ second) := by
  intro c member
  rcases List.mem_append.mp member with inside | inside
  · exact quietFirst c inside
  · exact quietSecond c inside

theorem quiet_cons {first : Char} {rest : List Char} (quietFirst : Quiet first)
    (quietRest : QuietChars rest) : QuietChars (first :: rest) :=
  List.forall_mem_cons.mpr ⟨quietFirst, quietRest⟩

/-- A number is laid out with its digits, zeros, a point, the letter of the exponent and signs. -/
theorem quiet_layout {digits : List Char} (quiet : QuietChars digits) (lead : Int) :
    QuietChars (Binary64.layout digits lead) := by
  unfold Binary64.layout
  split
  · split
    · next whole _ =>
        have padded := quiet_append quiet (quiet_zeros (whole + 1 - digits.length))
        refine quiet_append (fun c member => padded c (List.mem_of_mem_take member))
          (quiet_cons (by decide) ?_)
        split
        · decide
        · exact fun c member => padded c (List.mem_of_mem_drop member)
    · next zeros _ =>
        exact quiet_cons (by decide) (quiet_cons (by decide) (quiet_append (quiet_zeros zeros) quiet))
  · have power : QuietChars (Nat.toDigits 10 lead.natAbs) := fun _ member =>
      quiet_of_isDigit (Nat.isDigit_of_mem_toDigits (by decide) (by decide) member)
    refine quiet_append ?_ (quiet_cons (by decide) (quiet_cons ?_
      (quiet_append (quiet_zeros _) power)))
    · match digits, quiet with
      | [], _ => exact fun _ member => (List.not_mem_nil member).elim
      | [only], quiet => exact quiet
      | first :: second :: rest, quiet =>
          obtain ⟨quietFirst, quietRest⟩ := List.forall_mem_cons.mp quiet
          exact quiet_cons quietFirst (quiet_cons (by decide) quietRest)
    · split <;> decide

theorem quietText_float (number : Binary64) : QuietText number.shown := by
  cases number with
  | nan => exact quietText_map ['n', 'a', 'n'] (by decide)
  | infinite negative =>
      cases negative
      · exact quietText_map ['i', 'n', 'f'] (by decide)
      · exact quietText_map ['-', 'i', 'n', 'f'] (by decide)
  | finite negative significand exponent =>
      have digits : ∀ n, QuietChars (Binary64.withoutTrailingZeros (Nat.toDigits 10 n)) := by
        intro n c member
        have inReverse := (List.dropWhile_suffix _).subset (List.mem_reverse.mp member)
        exact quiet_of_isDigit
          (Nat.isDigit_of_mem_toDigits (by decide) (by decide) (List.mem_reverse.mp inReverse))
      unfold Binary64.shown Binary64.write
      refine quietText_map _ ?_
      by_cases zero : significand = 0
      · rw [if_pos zero]
        cases negative <;> decide
      · rw [if_neg zero]
        -- which digits there are does not matter
        generalize Binary64.shortest significand exponent = decimal
        obtain ⟨n, unit⟩ := decimal
        have magnitude := quiet_layout (digits n)
          (unit + (Nat.toDigits 10 n).length - 1)
        split
        · exact quiet_cons (by decide) magnitude
        · exact magnitude

/-! ## The method of a value -/

/-- No value but a string is shown as a method. -/
theorem ofName?_shown (raw : Json) (notString : ∀ text, raw ≠ .string text) :
    HttpMethod.ofName? raw.shown.upperCased = none := by
  cases raw with
  | null => exact ofName?_upperCased_of_quiet (quietText_map ['N', 'o', 'n', 'e'] (by decide))
  | bool value =>
      cases value
      · exact ofName?_upperCased_of_quiet
          (quietText_map ['F', 'a', 'l', 's', 'e'] (by decide))
      · exact ofName?_upperCased_of_quiet (quietText_map ['T', 'r', 'u', 'e'] (by decide))
  | integer value => exact ofName?_upperCased_of_quiet (quietText_ofInt value)
  | float value => exact ofName?_upperCased_of_quiet (quietText_float value)
  | string text => exact (notString text rfl).elim
  | array items => exact ofName?_upperCased_of_bracket (by decide) (by decide) _
  | object members => exact ofName?_upperCased_of_bracket (by decide) (by decide) _

/-- A value names a method exactly if it is a string whose upper case is one. -/
theorem ofJson_method_iff (place : Place) (raw : Json) :
    (∃ method, HttpMethod.ofJson place raw = .ok method) ↔
      ∃ text method, raw = .string text ∧ text.upperCased = HttpMethod.name method := by
  constructor
  · rintro ⟨method, read⟩
    unfold HttpMethod.ofJson at read
    split at read
    · next known found =>
        by_cases isString : ∃ text, raw = .string text
        · obtain ⟨text, rfl⟩ := isString
          have named := List.find?_some found
          exact ⟨text, known, rfl, (eq_of_beq named).symm⟩
        · have shown : raw.text = raw.shown := by
            cases raw <;> first | rfl | exact (isString ⟨_, rfl⟩).elim
          rw [shown, ofName?_shown raw fun text same => isString ⟨text, same⟩] at found
          cases found
    · cases read
  · rintro ⟨text, method, rfl, upper⟩
    exact ⟨method, by simp [HttpMethod.ofJson, Json.text, upper, HttpMethod.ofName?_name]⟩

end TypedEndpoints
