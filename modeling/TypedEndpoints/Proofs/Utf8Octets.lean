import TypedEndpoints.Text.Utf8
/-!
Decoding undoes encoding. The octets of a character have one of four forms, by how many they are; a form
gives the number of the character.

* `read_of_form`, `form_of_read`: a character is read exactly where one of the forms stands;
* `form_encodeChar`, `encodeChar_of_form`: what a character is encoded as has a form, and whatever has a
  form is what its character is encoded as;
* `decode_eq_ok_iff`: octets decode to a text exactly if that text encodes to them.
-/
set_option autoImplicit false
namespace TypedEndpoints.Utf8

/-- The octets have the form of a character with this number. -/
inductive Form : List UInt8 → Nat → Prop where
  | one {lead : UInt8} (ascii : lead.toNat < 0x80) : Form [lead] lead.toNat
  | two {lead second : UInt8} (low : 0xC2 ≤ lead.toNat) (high : lead.toNat < 0xE0)
      (tail : isContinuation second = true) :
      Form [lead, second] (lead.toNat % 0x20 * 0x40 + payload second)
  | three {lead second third : UInt8} (low : 0xE0 ≤ lead.toNat) (high : lead.toNat < 0xF0)
      (next : isSecond lead second = true) (tail : isContinuation third = true) :
      Form [lead, second, third]
        (lead.toNat % 0x10 * 0x1000 + payload second * 0x40 + payload third)
  | four {lead second third fourth : UInt8} (low : 0xF0 ≤ lead.toNat) (high : lead.toNat < 0xF5)
      (next : isSecond lead second = true) (tail : isContinuation third = true)
      (last : isContinuation fourth = true) :
      Form [lead, second, third, fourth]
        (lead.toNat % 0x8 * 0x40000 + payload second * 0x1000 + payload third * 0x40 + payload fourth)

theorem isContinuation_iff (octet : UInt8) :
    isContinuation octet = true ↔ 0x80 ≤ octet.toNat ∧ octet.toNat < 0xC0 := by
  simp [isContinuation, UInt8.le_iff_toNat_le, UInt8.lt_iff_toNat_lt]

theorem isSecond_iff (lead octet : UInt8) :
    isSecond lead octet = true ↔ (0x80 ≤ octet.toNat ∧ octet.toNat < 0xC0) ∧
      (lead.toNat = 0xE0 → 0xA0 ≤ octet.toNat) ∧ (lead.toNat = 0xED → octet.toNat < 0xA0) ∧
      (lead.toNat = 0xF0 → 0x90 ≤ octet.toNat) ∧ (lead.toNat = 0xF4 → octet.toNat < 0x90) := by
  rw [isSecond, Bool.and_eq_true, isContinuation_iff]
  apply and_congr_right
  intro tail
  split
  · simp_all [UInt8.le_iff_toNat_le]
  split
  · simp_all [UInt8.lt_iff_toNat_lt]
  split
  · simp_all [UInt8.le_iff_toNat_le]
  split
  · simp_all [UInt8.lt_iff_toNat_lt]
  · simp_all [← UInt8.toNat_inj]

/-- A character is read where its form stands, whatever follows. -/
theorem read_of_form {lead : UInt8} {others : List UInt8} {value : Nat}
    (form : Form (lead :: others) value) (after : List UInt8) :
    Sequence.read lead (others ++ after) = .character (Char.ofNat value) (others.length + 1) := by
  cases form with
  | one ascii =>
    simp [Sequence.read, UInt8.lt_iff_toNat_lt, ascii]
  | two low high tail =>
    have large : ¬ lead < 0x80 ∧ ¬ lead < 0xC2 ∧ lead < 0xE0 := by
      simp [UInt8.lt_iff_toNat_lt]
      omega
    simp [Sequence.read, large, tail]
  | three low high next tail =>
    have large : ¬ lead < 0x80 ∧ ¬ lead < 0xC2 ∧ ¬ lead < 0xE0 ∧ lead < 0xF0 := by
      simp [UInt8.lt_iff_toNat_lt]
      omega
    simp [Sequence.read, large, next, tail]
  | four low high next tail last =>
    have large : ¬ lead < 0x80 ∧ ¬ lead < 0xC2 ∧ ¬ lead < 0xE0 ∧ ¬ lead < 0xF0 ∧ lead < 0xF5 := by
      simp [UInt8.lt_iff_toNat_lt]
      omega
    simp [Sequence.read, large, next, tail, last]

/-- A character is read only where its form stands. -/
theorem form_of_read {lead : UInt8} {rest : List UInt8} {c : Char} {width : Nat}
    (read : Sequence.read lead rest = .character c width) :
    ∃ others after value, rest = others ++ after ∧ Form (lead :: others) value ∧
      c = Char.ofNat value ∧ width = others.length + 1 := by
  unfold Sequence.read at read
  simp only [UInt8.lt_iff_toNat_lt, UInt8.reduceToNat] at read
  split at read
  · next ascii =>
    cases read
    exact ⟨[], rest, _, rfl, .one ascii, rfl, rfl⟩
  split at read
  · cases read
  split at read
  · split at read
    · cases read
    · next second after =>
      split at read
      · next tail =>
        cases read
        exact ⟨[second], after, _, rfl, .two (by omega) (by omega) tail, rfl, rfl⟩
      · cases read
  split at read
  · split at read
    · cases read
    · next second rest =>
      split at read
      · next next =>
        split at read
        · cases read
        · next third after =>
          split at read
          · next tail =>
            cases read
            exact ⟨[second, third], after, _, rfl, .three (by omega) (by omega) next tail, rfl, rfl⟩
          · cases read
      · cases read
  split at read
  · split at read
    · cases read
    · next second rest =>
      split at read
      · next next =>
        split at read
        · cases read
        · next third rest =>
          split at read
          · next tail =>
            split at read
            · cases read
            · next fourth after =>
              split at read
              · next last =>
                cases read
                exact ⟨[second, third, fourth], after, _, rfl,
                  .four (by omega) (by omega) next tail last, rfl, rfl⟩
              · cases read
          · cases read
      · cases read
  · cases read

theorem val_ofNat {value : Nat} (valid : value.isValidChar) :
    (Char.ofNat value).val.toNat = value := by
  rw [Char.ofNat, dif_pos valid]
  rfl

/-- A form is what its character is encoded as. -/
theorem encodeChar_of_form {octets : List UInt8} {value : Nat} (form : Form octets value) :
    String.utf8EncodeChar (Char.ofNat value) = octets := by
  cases form with
  | one ascii =>
    rw [String.utf8EncodeChar, val_ofNat (.inl (by omega)), if_pos (by omega), UInt8.ofNat_toNat]
  | @two lead second low high tail =>
    rw [isContinuation_iff] at tail
    rw [String.utf8EncodeChar, payload, val_ofNat (.inl (by omega)), if_neg (by omega), if_pos (by omega)]
    simp only [List.cons.injEq, ← UInt8.toNat_inj, UInt8.toNat_ofNat', and_true]
    omega
  | @three lead second third low high next tail =>
    rw [isSecond_iff] at next
    rw [isContinuation_iff] at tail
    simp only [payload]
    generalize numbered : lead.toNat % 0x10 * 0x1000 + second.toNat % 0x40 * 0x40 + third.toNat % 0x40 = value
    have valid : value.isValidChar := by
      show value < 0xD800 ∨ 0xDFFF < value ∧ value < 0x110000
      omega
    rw [String.utf8EncodeChar, val_ofNat valid, if_neg (by omega), if_neg (by omega), if_pos (by omega)]
    simp only [List.cons.injEq, ← UInt8.toNat_inj, UInt8.toNat_ofNat', and_true]
    omega
  | @four lead second third fourth low high next tail last =>
    rw [isSecond_iff] at next
    rw [isContinuation_iff] at tail last
    simp only [payload]
    generalize numbered : lead.toNat % 0x8 * 0x40000 + second.toNat % 0x40 * 0x1000 +
      third.toNat % 0x40 * 0x40 + fourth.toNat % 0x40 = value
    have valid : value.isValidChar := by
      show value < 0xD800 ∨ 0xDFFF < value ∧ value < 0x110000
      omega
    rw [String.utf8EncodeChar, val_ofNat valid, if_neg (by omega), if_neg (by omega), if_neg (by omega)]
    simp only [List.cons.injEq, ← UInt8.toNat_inj, UInt8.toNat_ofNat', and_true]
    omega

/-- What a character is encoded as has a form. -/
theorem form_encodeChar (c : Char) : Form (String.utf8EncodeChar c) c.toNat := by
  have valid : c.toNat < 0xD800 ∨ 0xDFFF < c.toNat ∧ c.toNat < 0x110000 := c.valid
  have octet {n : Nat} (small : n < 0x100) : (UInt8.ofNat n).toNat = n := by
    rw [UInt8.toNat_ofNat', Nat.mod_eq_of_lt small]
  have value : c.val.toNat = c.toNat := rfl
  simp only [String.utf8EncodeChar, value]
  generalize c.toNat = value at valid
  split
  · have lead := octet (show value < 0x100 by omega)
    have form : Form [UInt8.ofNat value] (UInt8.ofNat value).toNat := .one (by omega)
    rwa [lead] at form
  split
  · have lead := octet (show value / 64 % 32 + 192 < 0x100 by omega)
    have second := octet (show value % 64 + 128 < 0x100 by omega)
    have form := @Form.two (UInt8.ofNat (value / 64 % 32 + 192)) (UInt8.ofNat (value % 64 + 128))
      (by omega) (by omega) ((isContinuation_iff _).mpr (by omega))
    have number : (value / 64 % 32 + 192) % 0x20 * 0x40 + (value % 64 + 128) % 0x40 = value := by omega
    rwa [payload, lead, second, number] at form
  split
  · have lead := octet (show value / 4096 % 16 + 224 < 0x100 by omega)
    have second := octet (show value / 64 % 64 + 128 < 0x100 by omega)
    have third := octet (show value % 64 + 128 < 0x100 by omega)
    have form := @Form.three (UInt8.ofNat (value / 4096 % 16 + 224))
      (UInt8.ofNat (value / 64 % 64 + 128)) (UInt8.ofNat (value % 64 + 128))
      (by omega) (by omega) ((isSecond_iff _ _).mpr (by omega)) ((isContinuation_iff _).mpr (by omega))
    have number : (value / 4096 % 16 + 224) % 0x10 * 0x1000 + (value / 64 % 64 + 128) % 0x40 * 0x40 +
        (value % 64 + 128) % 0x40 = value := by omega
    rwa [payload, payload, lead, second, third, number] at form
  · have lead := octet (show value / 262144 % 8 + 240 < 0x100 by omega)
    have second := octet (show value / 4096 % 64 + 128 < 0x100 by omega)
    have third := octet (show value / 64 % 64 + 128 < 0x100 by omega)
    have fourth := octet (show value % 64 + 128 < 0x100 by omega)
    have form := @Form.four (UInt8.ofNat (value / 262144 % 8 + 240))
      (UInt8.ofNat (value / 4096 % 64 + 128)) (UInt8.ofNat (value / 64 % 64 + 128))
      (UInt8.ofNat (value % 64 + 128)) (by omega) (by omega) ((isSecond_iff _ _).mpr (by omega))
      ((isContinuation_iff _).mpr (by omega)) ((isContinuation_iff _).mpr (by omega))
    have number : (value / 262144 % 8 + 240) % 0x8 * 0x40000 +
        (value / 4096 % 64 + 128) % 0x40 * 0x1000 + (value / 64 % 64 + 128) % 0x40 * 0x40 +
        (value % 64 + 128) % 0x40 = value := by omega
    rwa [payload, payload, payload, lead, second, third, fourth, number] at form

/-! ## Reading characters -/

theorem encoded_of_read {lead : UInt8} {rest : List UInt8} {c : Char} {width : Nat}
    (read : Sequence.read lead rest = .character c width) :
    lead :: rest = String.utf8EncodeChar c ++ rest.drop (width - 1) := by
  obtain ⟨others, after, value, rfl, form, rfl, rfl⟩ := form_of_read read
  rw [encodeChar_of_form form]
  simp

theorem read_encoded {lead : UInt8} {rest after : List UInt8} {c : Char}
    (encoded : lead :: rest = String.utf8EncodeChar c ++ after) :
    ∃ width, Sequence.read lead rest = .character c width ∧ rest.drop (width - 1) = after := by
  have form := form_encodeChar c
  obtain ⟨first, others, octets⟩ := List.exists_cons_of_ne_nil (String.utf8EncodeChar_ne_nil (c := c))
  rw [octets] at form encoded
  obtain ⟨rfl, rfl⟩ := List.cons.inj encoded
  have read := read_of_form form after
  rw [Char.ofNat_toNat] at read
  exact ⟨others.length + 1, read, by simp⟩

/-- **Octets decode exactly if they are the characters' octets, one after the other.** -/
theorem decodeFrom_ok_iff (position : Nat) (done : Text) (octets : List UInt8) (text : Text) :
    decodeFrom position done octets = .ok text ↔
      ∃ chars : List Char, octets = chars.flatMap String.utf8EncodeChar ∧
        text = done.reverse ++ chars.map .scalar := by
  fun_induction decodeFrom position done octets with
  | case1 position done =>
    constructor
    · rintro ⟨⟩
      exact ⟨[], rfl, by simp⟩
    · rintro ⟨chars, octets, rfl⟩
      cases chars with
      | nil => simp
      | cons c chars =>
        rw [List.flatMap_cons] at octets
        have empty := (List.append_eq_nil_iff.mp octets.symm).1
        exact absurd empty String.utf8EncodeChar_ne_nil
  | case2 position done lead rest c width read ih =>
    rw [ih, encoded_of_read read]
    constructor
    · rintro ⟨chars, octets, rfl⟩
      exact ⟨c :: chars, by rw [octets, List.flatMap_cons], by simp⟩
    · rintro ⟨chars, octets, rfl⟩
      cases chars with
      | nil =>
        have empty := (List.append_eq_nil_iff.mp octets).1
        exact absurd empty String.utf8EncodeChar_ne_nil
      | cons d chars =>
        rw [← encoded_of_read read, List.flatMap_cons] at octets
        obtain ⟨width', read', after⟩ := read_encoded octets
        rw [read] at read'
        cases read'
        exact ⟨chars, after, by simp⟩
  | case3 position done lead rest count reason read =>
    constructor
    · rintro ⟨⟩
    · rintro ⟨chars, octets, rfl⟩
      cases chars with
      | nil => cases octets
      | cons c chars =>
        rw [List.flatMap_cons] at octets
        obtain ⟨width, read', -⟩ := read_encoded octets
        rw [read] at read'
        cases read'

/-- A text has characters exactly if it is made of them. -/
theorem chars?_eq_some_iff (text : Text) (chars : List Char) :
    Text.chars? text = some chars ↔ text = chars.map .scalar := by
  induction text generalizing chars with
  | nil =>
    rw [Text.chars?, List.mapM_nil, List.nil_eq, List.map_eq_nil_iff]
    exact ⟨fun found => (Option.some.inj found).symm, fun empty => congrArg some empty.symm⟩
  | cons point text ih =>
    have step : Text.chars? (point :: text) =
        point.char?.bind fun c => (Text.chars? text).bind fun others => some (c :: others) :=
      List.mapM_cons
    rw [step]
    cases point with
    | surrogate offset =>
      constructor
      · intro found
        cases found
      · intro same
        cases chars <;> cases same
    | scalar c =>
      simp only [CodePoint.char?, Option.bind_some, Option.bind_eq_some_iff]
      constructor
      · rintro ⟨others, each, ⟨⟩⟩
        rw [(ih others).mp each]
        rfl
      · intro same
        cases chars with
        | nil => cases same
        | cons d others =>
          obtain ⟨⟨⟩, rfl⟩ := List.cons.inj same
          exact ⟨others, (ih others).mpr rfl, rfl⟩

theorem encode_ok_iff (octets : List UInt8) (text : Text) : encode text = .ok octets ↔
    ∃ chars : List Char, octets = chars.flatMap String.utf8EncodeChar ∧ text = chars.map .scalar := by
  have chars := chars?_eq_some_iff text
  unfold encode
  split
  · next found each =>
    rw [chars] at each
    subst each
    constructor
    · rintro ⟨⟩
      exact ⟨found, rfl, rfl⟩
    · rintro ⟨others, rfl, same⟩
      rw [(List.map_inj_right fun _ _ => CodePoint.scalar.inj).mp same]
  · next none =>
    constructor
    · rintro ⟨⟩
    · rintro ⟨others, -, same⟩
      rw [(chars others).mpr same] at none
      cases none

/-- **Decoding undoes encoding**, and whatever decodes was encoded. -/
theorem decode_eq_ok_iff (octets : List UInt8) (text : Text) :
    decode octets = .ok text ↔ encode text = .ok octets := by
  rw [encode_ok_iff, decode, decodeFrom_ok_iff]
  rfl

/-- Two texts with the same octets are the same. -/
theorem encode_injective {octets : List UInt8} {first second : Text} (firstEncoded : encode first = .ok octets)
    (secondEncoded : encode second = .ok octets) : first = second := by
  rw [← decode_eq_ok_iff] at firstEncoded secondEncoded
  exact Except.ok.inj (firstEncoded.symm.trans secondEncoded)

end TypedEndpoints.Utf8
