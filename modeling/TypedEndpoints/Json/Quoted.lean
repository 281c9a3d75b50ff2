import TypedEndpoints.Text.Basic
/-!
Strings in a JSON text. `encode` escapes the double quote, the backslash and the characters below the
space, and nothing else. `scan` reads the inside of a string up to its closing quote: it accepts every
escape, joins the two halves of an escaped surrogate pair and keeps a half that stands alone.
-/
set_option autoImplicit false
namespace TypedEndpoints.Json.Quoted

/-! ## Writing -/

/-- The letter of a short escape. -/
def shortEscape? : Char → Option Char
  | '"' => some '"'
  | '\\' => some '\\'
  | '\n' => some 'n'
  | '\r' => some 'r'
  | '\t' => some 't'
  | '\x08' => some 'b'
  | '\x0c' => some 'f'
  | _ => none

def encodePoint (point : CodePoint) : Text :=
  match point with
  | .surrogate _ => [point]
  | .scalar c =>
    match shortEscape? c with
    | some letter => [.scalar '\\', .scalar letter]
    | none => if c.toNat < 0x20 then "\\u" ++ Text.hex 4 c.toNat else [point]

/-- A text between double quotes. -/
def encode (text : Text) : Text :=
  .scalar '"' :: (text.flatMap encodePoint ++ [.scalar '"'])

/-! ## Reading -/

/-- Why the inside of a string cannot be read. The number is how many code points are left from the
offending one on. -/
inductive Fault where
  | unterminated
  | controlCharacter (left : Nat)
  | invalidEscape (left : Nat)
  | invalidUnicodeEscape (left : Nat)
  deriving DecidableEq

/-- The character that the letter of a short escape stands for. -/
def unescape? : CodePoint → Option Char
  | .scalar '"' => some '"'
  | .scalar '\\' => some '\\'
  | .scalar '/' => some '/'
  | .scalar 'b' => some '\x08'
  | .scalar 'f' => some '\x0c'
  | .scalar 'n' => some '\n'
  | .scalar 'r' => some '\r'
  | .scalar 't' => some '\t'
  | _ => none

def hexDigit? : CodePoint → Option Nat
  | .surrogate _ => none
  | .scalar c =>
    if '0' ≤ c ∧ c ≤ '9' then some (c.toNat - '0'.toNat)
    else if 'a' ≤ c ∧ c ≤ 'f' then some (c.toNat - 'a'.toNat + 10)
    else if 'A' ≤ c ∧ c ≤ 'F' then some (c.toNat - 'A'.toNat + 10)
    else none

/-- The unit that four hexadecimal digits name. -/
def unit? (a b c d : CodePoint) : Option Nat := do
  let a ← hexDigit? a
  let b ← hexDigit? b
  let c ← hexDigit? c
  let d ← hexDigit? d
  return ((a * 16 + b) * 16 + c) * 16 + d

/-- Puts an escaped unit in front of the text read after it. If that text begins with an escape too, the
two may be the halves of one pair. -/
def consUnit (unit : Nat) (escapeFollows : Bool) (text : Text) : Text :=
  match text with
  | [] => [CodePoint.ofUnit unit]
  | next :: rest =>
    match if escapeFollows then CodePoint.joined? (CodePoint.ofUnit unit) next else none with
    | some pair => pair :: rest
    | none => CodePoint.ofUnit unit :: text

/-- Does an escape follow? -/
def startsEscape : Text → Bool
  | .scalar '\\' :: _ => true
  | _ => false

/-- What was read, with the text in front changed. -/
def prepend (change : Text → Text) :
    Except Fault (Text × Text) → Except Fault (Text × Text)
  | .ok (text, left) => .ok (change text, left)
  | .error fault => .error fault

/-- The text up to the closing quote, and what is left after that quote. An escape of four digits is
complete only if the text goes on after it. -/
def scan : Text → Except Fault (Text × Text)
  | [] => .error .unterminated
  | .scalar '"' :: rest => .ok ([], rest)
  | .scalar '\\' :: [] => .error .unterminated
  | .scalar '\\' :: .scalar 'u' :: a :: b :: c :: d :: next :: rest =>
    match unit? a b c d with
    | none => .error (.invalidUnicodeEscape (rest.length + 6))
    | some unit => prepend (consUnit unit (startsEscape (next :: rest))) (scan (next :: rest))
  | .scalar '\\' :: .scalar 'u' :: rest => .error (.invalidUnicodeEscape (rest.length + 1))
  | .scalar '\\' :: letter :: rest =>
    match unescape? letter with
    | none => .error (.invalidEscape (rest.length + 2))
    | some c => prepend (.scalar c :: ·) (scan rest)
  | point :: rest =>
    if point.value < 0x20 then .error (.controlCharacter (rest.length + 1))
    else prepend (point :: ·) (scan rest)

theorem prepend_eq_ok {change : Text → Text} {inner : Except Fault (Text × Text)} {text left : Text}
    (read : prepend change inner = .ok (text, left)) :
    ∃ text', inner = .ok (text', left) ∧ text = change text' := by
  match inner, read with
  | .ok (text', _), rfl => exact ⟨text', rfl, rfl⟩

theorem scan_shorter {s text left : Text} (read : scan s = .ok (text, left)) :
    left.length < s.length := by
  fun_induction scan s generalizing text left with
  | case1 | case3 | case4 | case6 | case7 | case9 => cases read
  | case2 rest =>
      cases read
      simp
  | case5 a b c d next rest unit found ih =>
      obtain ⟨text', inner, rfl⟩ := prepend_eq_ok read
      have shorter := ih inner
      simp only [List.length_cons] at shorter ⊢
      omega
  | case8 letter rest _ _ c found ih =>
      obtain ⟨text', inner, rfl⟩ := prepend_eq_ok read
      have shorter := ih inner
      simp only [List.length_cons] at shorter ⊢
      omega
  | case10 point rest _ _ _ _ _ _ ih =>
      obtain ⟨text', inner, rfl⟩ := prepend_eq_ok read
      have shorter := ih inner
      simp only [List.length_cons] at shorter ⊢
      omega

end TypedEndpoints.Json.Quoted
