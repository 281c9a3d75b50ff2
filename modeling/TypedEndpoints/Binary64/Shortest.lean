import TypedEndpoints.Binary64.Basic
import TypedEndpoints.Text.Basic
/-!
The shortest decimal text of a floating point number: the fewest digits that read back as the number,
and of those the nearest to it, a tie going to the even digit. The point stands inside the number for
magnitudes from a ten-thousandth up to ten to the sixteenth; beyond, the number has an exponent of at
least two digits.
-/
set_option autoImplicit false
namespace TypedEndpoints.Binary64

/-- The magnitude of a finite value as a quotient. -/
def ratio (significand : Nat) (exponent : Int) : Nat × Nat := scaled 2 significand 1 exponent

/-- The whole part of the decimal logarithm of a quotient: every positive value is more than ten to the
power of -400, so its digits up to that place can be counted. -/
def floorLog10 (num den : Nat) : Int :=
  ((Nat.toDigits 10 (num * Nat.pow 10 400 / den)).length : Int) - 401

/-- The multiple of ten to the power of `unit` that reads back as the value, if one of its two neighbours does. -/
def onGrid? (significand : Nat) (exponent unit : Int) : Option Nat :=
  let (num, den) := ratio significand exponent
  let (num, den) := scaled 10 num den (-unit)
  let below := num / den
  let readsBack (digits : Nat) : Bool :=
    ofDecimal false digits unit == finite false significand exponent
  match readsBack below, readsBack (below + 1) with
  | true, true => some (roundHalfEven num den)
  | true, false => some below
  | false, true => some (below + 1)
  | false, false => none

/-- Tries grids of one digit more each time. -/
def shortestFrom (significand : Nat) (exponent unit : Int) : Nat → Nat × Int
  | 0 => (0, 0)
  | tries + 1 =>
    match onGrid? significand exponent unit with
    | some digits => (digits, unit)
    | none => shortestFrom significand exponent (unit - 1) tries

/-- Digits and power of ten of the shortest decimal of a positive finite value. Seventeen digits
always suffice. -/
def shortest (significand : Nat) (exponent : Int) : Nat × Int :=
  let (num, den) := ratio significand exponent
  shortestFrom significand exponent (floorLog10 num den) 17

/-- Drops the zeros at the end of a number's digits. -/
def withoutTrailingZeros (digits : List Char) : List Char :=
  (digits.reverse.dropWhile (· == '0')).reverse

/-- The digits in front of and behind the point, or the digits with an exponent. `lead` is the power of
ten of the first digit. -/
def layout (digits : List Char) (lead : Int) : List Char :=
  if -4 ≤ lead ∧ lead < 16 then
    match lead with
    | .ofNat whole =>
      let padded := digits ++ List.replicate (whole + 1 - digits.length) '0'
      let fraction := padded.drop (whole + 1)
      padded.take (whole + 1) ++ '.' :: (if fraction.isEmpty then ['0'] else fraction)
    | .negSucc zeros => '0' :: '.' :: (List.replicate zeros '0' ++ digits)
  else
    let mantissa := match digits with
      | [] => []
      | [only] => [only]
      | first :: rest => first :: '.' :: rest
    let power := Nat.toDigits 10 lead.natAbs
    mantissa ++ 'e' :: (if lead < 0 then '-' else '+') ::
      (List.replicate (2 - power.length) '0' ++ power)

/-- How the values that are no finite number are written. -/
structure SpecialNames where
  infinity : Text
  nan : Text

/-- The text of a value. -/
def write (names : SpecialNames) : Binary64 → Text
  | nan => names.nan
  | infinite false => names.infinity
  | infinite true => .scalar '-' :: names.infinity
  | finite negative significand exponent =>
    let magnitude :=
      if significand = 0 then ['0', '.', '0']
      else
        let (digits, unit) := shortest significand exponent
        let written := Nat.toDigits 10 digits
        layout (withoutTrailingZeros written) (unit + written.length - 1)
    (if negative then '-' :: magnitude else magnitude).map .scalar

end TypedEndpoints.Binary64
