import TypedEndpoints.Json.Basic
/-!
Numbers in a JSON text. A numeral is read as far as it goes: a fraction needs a digit after the point
and an exponent a digit after its sign, or they are left for what follows. A numeral without fraction
and exponent is a whole number, of which at most `mostDigits` digits are accepted; any other is the
nearest floating point number.
-/
set_option autoImplicit false
namespace TypedEndpoints.Json

/-- The digits at the start of a text, and what follows them. -/
def takeDigits : Text → List Char × Text
  | .scalar c :: rest =>
    if c.isDigit then
      let (digits, left) := takeDigits rest
      (c :: digits, left)
    else ([], .scalar c :: rest)
  | text => ([], text)

theorem takeDigits_length (text : Text) :
    (takeDigits text).1.length + (takeDigits text).2.length = text.length := by
  fun_induction takeDigits text with
  | case1 c rest digit digits left taken ih =>
      rw [taken] at ih
      simp only [List.length_cons] at ih ⊢
      omega
  | case2 => simp
  | case3 => simp

/-- A numeral as written. -/
structure Numeral where
  negative : Bool
  whole : List Char
  fraction : Option (List Char)
  exponent : Option (Bool × List Char)
  deriving DecidableEq

namespace Numeral

/-- The whole part: a lone zero, or digits that do not begin with zero. -/
def takeWhole : Text → Option (List Char × Text)
  | .scalar '0' :: rest => some (['0'], rest)
  | text =>
    match takeDigits text with
    | ([], _) => none
    | (digits, left) => some (digits, left)

def takeFraction (text : Text) : Option (List Char) × Text :=
  match text with
  | .scalar '.' :: rest =>
    match takeDigits rest with
    | ([], _) => (none, text)
    | (digits, left) => (some digits, left)
  | _ => (none, text)

/-- The sign of an exponent, if there is one. -/
def takeSign : Text → Bool × Text
  | .scalar '-' :: rest => (true, rest)
  | .scalar '+' :: rest => (false, rest)
  | text => (false, text)

def takeExponent (text : Text) : Option (Bool × List Char) × Text :=
  match text with
  | .scalar c :: rest =>
    if c = 'e' ∨ c = 'E' then
      match takeDigits (takeSign rest).2 with
      | ([], _) => (none, text)
      | (digits, left) => (some ((takeSign rest).1, digits), left)
    else (none, text)
  | _ => (none, text)

/-- The sign of a numeral: there is no plus. -/
def takeMinus : Text → Bool × Text
  | .scalar '-' :: rest => (true, rest)
  | text => (false, text)

/-- The numeral at the start of a text, and what follows it. -/
def scan (text : Text) : Option (Numeral × Text) :=
  let (negative, unsigned) := takeMinus text
  match takeWhole unsigned with
  | none => none
  | some (whole, left) =>
    let (fraction, left) := takeFraction left
    let (exponent, left) := takeExponent left
    some (⟨negative, whole, fraction, exponent⟩, left)

/-- The most digits of a whole number that is accepted. -/
def mostDigits : Nat := 4300

/-- Has the whole number, its sign not counted, no more digits than that? -/
def hasFewDigits (value : Int) : Bool := (Nat.toDigits 10 value.natAbs).length ≤ mostDigits

/-- The number a run of digits stands for. -/
def digitsValue (digits : List Char) : Nat := Nat.ofDigitChars 10 digits 0

/-- The whole number a numeral stands for, if it has neither fraction nor exponent. -/
def integer? (numeral : Numeral) : Option Int :=
  match numeral.fraction, numeral.exponent with
  | none, none =>
    let magnitude : Int := digitsValue numeral.whole
    some (if numeral.negative then -magnitude else magnitude)
  | _, _ => none

/-- The floating point number nearest to a numeral. -/
def nearest (numeral : Numeral) : Binary64 :=
  let fraction := numeral.fraction.getD []
  let power : Int :=
    match numeral.exponent with
    | none => 0
    | some (true, digits) => -(digitsValue digits : Int)
    | some (false, digits) => digitsValue digits
  Binary64.ofDecimal numeral.negative (digitsValue (numeral.whole ++ fraction))
    (power - fraction.length)

/-! ## What is left is shorter -/

theorem takeMinus_length (text : Text) : (takeMinus text).2.length ≤ text.length := by
  unfold takeMinus; split <;> simp

theorem takeSign_length (text : Text) : (takeSign text).2.length ≤ text.length := by
  unfold takeSign; split <;> simp

theorem takeWhole_shorter {text left : Text} {digits : List Char}
    (taken : takeWhole text = some (digits, left)) : left.length < text.length := by
  unfold takeWhole at taken
  split at taken
  · cases taken; simp
  · have total := takeDigits_length text
    split at taken
    · cases taken
    · next found left' nonempty same =>
      cases taken
      rw [same] at total
      match digits, nonempty with
      | [], absurdity => exact absurd rfl absurdity
      | _ :: _, _ =>
          simp only [List.length_cons] at total
          omega

theorem takeFraction_length (text : Text) : (takeFraction text).2.length ≤ text.length := by
  unfold takeFraction
  split
  · next rest =>
    have total := takeDigits_length rest
    split
    · simp
    · next same => rw [same] at total; simp only [List.length_cons] at *; omega
  · simp

theorem takeExponent_length (text : Text) : (takeExponent text).2.length ≤ text.length := by
  unfold takeExponent
  split
  · next c rest =>
    split
    · have sign := takeSign_length rest
      have total := takeDigits_length (takeSign rest).2
      split
      · simp
      · next same => rw [same] at total; simp only [List.length_cons] at *; omega
    · simp
  · simp

theorem scan_shorter {text left : Text} {numeral : Numeral}
    (read : scan text = some (numeral, left)) : left.length < text.length := by
  unfold scan at read
  have minus := takeMinus_length text
  simp only at read
  split at read
  · cases read
  · next whole afterWhole taken =>
    have shorter := takeWhole_shorter taken
    have fraction := takeFraction_length afterWhole
    have exponent := takeExponent_length (takeFraction afterWhole).2
    cases read
    omega

end Numeral
end TypedEndpoints.Json
