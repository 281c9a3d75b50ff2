/-!
Text as a sequence of code points. An escape in a document can name one half of a surrogate pair, so
a code point is a character or such a half, and `Text` holds both. Only text without lone halves
(`Text.chars?`) can be written to a file.
-/
set_option autoImplicit false
namespace TypedEndpoints

/-- A character, or half of a surrogate pair that stands alone, counted from U+D800. -/
inductive CodePoint where
  | scalar (c : Char)
  | surrogate (offset : Fin 0x800)
  deriving DecidableEq, Inhabited

abbrev Text := List CodePoint

namespace CodePoint

instance : Coe Char CodePoint := ⟨.scalar⟩

/-- The number of the code point. -/
def value : CodePoint → Nat
  | scalar c => c.toNat
  | surrogate offset => 0xD800 + offset.val

/-- The code point of a sixteen-bit unit that stands alone. -/
def ofUnit (unit : Nat) : CodePoint :=
  if half : unit - 0xD800 < 0x800 ∧ 0xD800 ≤ unit then .surrogate ⟨unit - 0xD800, half.1⟩
  else .scalar (Char.ofNat unit)

def char? : CodePoint → Option Char
  | scalar c => some c
  | surrogate _ => none

def isSurrogate : CodePoint → Bool
  | scalar _ => false
  | surrogate _ => true

/-- A first half followed by a second half is one character. -/
def joined? : CodePoint → CodePoint → Option CodePoint
  | surrogate high, surrogate low =>
      if high.val < 0x400 ∧ 0x400 ≤ low.val then
        some (.scalar (Char.ofNat (0x10000 + high.val * 0x400 + (low.val - 0x400))))
      else none
  | _, _ => none

end CodePoint

/-- Does one of the closed ranges hold the number? -/
def inRanges (ranges : List (Nat × Nat)) (n : Nat) : Bool :=
  ranges.any fun (first, last) => first ≤ n && n ≤ last

namespace Text

def ofString (s : String) : Text := s.toList.map .scalar

instance : Coe String Text := ⟨ofString⟩

/-- A number in decimal. -/
def ofNat (n : Nat) : Text := (Nat.toDigits 10 n).map .scalar

/-- A signed number in decimal. -/
def ofInt : Int → Text
  | .ofNat n => ofNat n
  | .negSucc n => .scalar '-' :: ofNat (n + 1)

/-- The characters of a text without lone halves of surrogate pairs. -/
def chars? (text : Text) : Option (List Char) := text.mapM CodePoint.char?

def toString? (text : Text) : Option String := (chars? text).map String.ofList

/-- The texts one after the other, with the separator between neighbours. -/
def join (separator : Text) : List Text → Text
  | [] => []
  | [only] => only
  | first :: second :: rest => first ++ (separator ++ join separator (second :: rest))

/-- A number in hexadecimal, lower case, padded with zeros to the width. -/
def hex (width n : Nat) : Text :=
  let digits := Nat.toDigits 16 n
  (List.replicate (width - digits.length) '0' ++ digits).map .scalar

@[simp] theorem join_nil (separator : Text) : join separator [] = [] := rfl
@[simp] theorem join_singleton (separator only : Text) : join separator [only] = only := rfl
theorem join_cons_cons (separator first second : Text) (rest : List Text) :
    join separator (first :: second :: rest) =
      first ++ (separator ++ join separator (second :: rest)) := rfl

end Text
end TypedEndpoints
