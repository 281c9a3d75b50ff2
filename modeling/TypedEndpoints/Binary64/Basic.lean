/-!
Binary floating point in 64 bits, by value: a finite number is a sign, a significand below 2^53 and an
exponent of two from -1074 to 971. A significand below 2^52 comes with the least exponent, so two
finite values are equal numbers of equal sign only if they are the same value. Zero has a sign.

`ofRatio` rounds a quotient to the nearest value, a tie to the even significand; `ofDecimal` does so
for a decimal number of any length.
-/
set_option autoImplicit false
namespace TypedEndpoints

inductive Binary64 where
  | finite (negative : Bool) (significand : Nat) (exponent : Int)
  | infinite (negative : Bool)
  | nan
  deriving DecidableEq

namespace Binary64

def isFinite : Binary64 → Bool
  | finite .. => true
  | _ => false

/-- The leading bit of a significand that does not come with the least exponent. -/
def hiddenBit : Nat := Nat.pow 2 52

def leastExponent : Int := -1074
def greatestExponent : Int := 971

/-- Scaling a quotient by a power of the base, as a numerator and a denominator. -/
def scaled (base num den : Nat) (power : Int) : Nat × Nat :=
  match power with
  | .ofNat p => (num * Nat.pow base p, den)
  | .negSucc p => (num, den * Nat.pow base (p + 1))

/-- The nearest whole number to a quotient, the even one of two. -/
def roundHalfEven (num den : Nat) : Nat :=
  let quotient := num / den
  let twice := 2 * (num % den)
  if twice < den then quotient
  else if twice > den then quotient + 1
  else quotient + quotient % 2

/-- The whole part of the binary logarithm of a positive quotient. -/
def floorLog2 (num den : Nat) : Int :=
  let guess : Int := num.log2 - den.log2
  let (num, den) := scaled 2 num den (-guess)
  if den ≤ num then guess else guess - 1

/-- The value nearest to a quotient, a tie going to the even significand. -/
def ofRatio (negative : Bool) (num den : Nat) : Binary64 :=
  if num = 0 then finite negative 0 leastExponent
  else
    let exponent := max (floorLog2 num den - 52) leastExponent
    let (scaledNum, scaledDen) := scaled 2 num den (-exponent)
    let significand := roundHalfEven scaledNum scaledDen
    let (significand, exponent) :=
      if significand = 2 * hiddenBit then (hiddenBit, exponent + 1) else (significand, exponent)
    if greatestExponent < exponent then infinite negative
    else finite negative significand exponent

/-- The value nearest to `digits` times ten to the power of `exponent`. Past every finite value and below half of the least
one the answer is known without computing the power. -/
def ofDecimal (negative : Bool) (digits : Nat) (exponent : Int) : Binary64 :=
  let magnitude : Int := (Nat.toDigits 10 digits).length + exponent
  if digits = 0 ∨ magnitude < -330 then finite negative 0 leastExponent
  else if 330 < magnitude then infinite negative
  else
    let (num, den) := scaled 10 digits 1 exponent
    ofRatio negative num den

end Binary64
end TypedEndpoints
