import TypedEndpoints.Json.Numeral
import TypedEndpoints.Json.Quoted
import TypedEndpoints.Text.Lines
/-!
Reading a JSON text. Besides the values of the standard, the names of the infinities and of the value
that is no number are read. A text that is no document has one fault, the first from the left: what was
expected, or why a string is bad, and the place. A whole number with too many digits is a fault of its
own kind, found when the reader passes it.

How many arrays and objects may be open at once depends on how much of the stack is left where the
reader is called, and is a parameter, `nesting`. Each opening bracket takes one level, whatever follows it;
one too many ends the reading there. What goes through a value that was read goes as deep as the reader did,
and the few levels it takes besides are assumed to be left.
-/
set_option autoImplicit false
namespace TypedEndpoints.Json

/-- What is wrong with a text that is no document. -/
inductive Flaw where
  | expectedValue
  | expectedKey
  | expectedColon
  | expectedComma
  | extraData
  | unterminatedString
  | controlCharacter
  | invalidEscape
  | invalidUnicodeEscape
  | byteOrderMark
  deriving DecidableEq

/-- What an opening bracket opens. -/
inductive Container where
  | array
  | object
  deriving DecidableEq

/-- Why no document could be read. -/
inductive ReadError where
  | malformed (flaw : Flaw) (mark : Text.Mark)
  | tooManyDigits (count : Nat)
  | tooDeep (container : Container)
  deriving DecidableEq

/-- Why the reader stopped; `left` is how many code points are left from the place of the flaw on. -/
inductive Stop where
  | flaw (what : Flaw) (left : Nat)
  | tooManyDigits (count : Nat)
  | tooDeep (container : Container)

def isBlank (point : CodePoint) : Bool :=
  point == .scalar ' ' || point == .scalar '\t' || point == .scalar '\n' || point == .scalar '\r'

def skipBlank (text : Text) : Text := text.dropWhile isBlank

theorem skipBlank_length (text : Text) : (skipBlank text).length ≤ text.length :=
  (List.dropWhile_suffix isBlank).length_le

/-- What was read from the start of a text, and what is left of it. -/
structure Taken (α : Type) (text : Text) where
  value : α
  left : Text
  shorter : left.length < text.length

def Quoted.Fault.stop (opening : Nat) : Quoted.Fault → Stop
  | .unterminated => .flaw .unterminatedString opening
  | .controlCharacter left => .flaw .controlCharacter left
  | .invalidEscape left => .flaw .invalidEscape left
  | .invalidUnicodeEscape left => .flaw .invalidUnicodeEscape left

/-- Reads a string; `inside` is what follows its opening quote. -/
def readString (inside : Text) : Except Stop (Taken Text inside) :=
  match read : Quoted.scan inside with
  | .ok (text, left) => .ok ⟨text, left, Quoted.scan_shorter read⟩
  | .error fault => .error (fault.stop (inside.length + 1))

/-- Reads a number. -/
def readNumber (text : Text) : Except Stop (Taken Json text) :=
  match read : Numeral.scan text with
  | none => .error (.flaw .expectedValue text.length)
  | some (numeral, left) =>
    match numeral.integer? with
    | none => .ok ⟨.float numeral.nearest, left, Numeral.scan_shorter read⟩
    | some value =>
      if Numeral.mostDigits < numeral.whole.length then .error (.tooManyDigits numeral.whole.length)
      else .ok ⟨.integer value, left, Numeral.scan_shorter read⟩

/-- The values that have names. -/
def constants : List (Text × Json) := [
  ("null", .null), ("true", .bool true), ("false", .bool false), ("NaN", .float .nan),
  ("Infinity", .float (.infinite false)), ("-Infinity", .float (.infinite true))]

/-- The named value at the start of a text. -/
def readConstant? (text : Text) : List (Text × Json) → Option (Taken Json text)
  | [] => none
  | (name, value) :: others =>
    if matched : name ≠ [] ∧ text.take name.length = name then
      some ⟨value, text.drop name.length, by
        have nonempty := List.length_pos_iff.mpr matched.1
        have whole := congrArg List.length matched.2
        simp only [List.length_take] at whole
        simp only [List.length_drop]
        omega⟩
    else readConstant? text others

mutual

/-- Reads the value that starts a text. -/
def readValue (nesting : Nat) (text : Text) : Except Stop (Taken Json text) :=
  match text, nesting with
  | .scalar '"' :: inside, _ => do
    let ⟨value, left, shorter⟩ ← readString inside
    return ⟨.string value, left, Nat.lt_succ_of_lt shorter⟩
  | .scalar '[' :: _, 0 => .error (.tooDeep .array)
  | .scalar '[' :: inside, inner + 1 =>
    match opened : skipBlank inside with
    | .scalar ']' :: left =>
      .ok ⟨.array [], left, by
        have blank := skipBlank_length inside
        simp only [opened, List.length_cons] at blank ⊢; omega⟩
    | start =>
      match readItems inner start with
      | .error stop => .error stop
      | .ok ⟨items, left, shorter⟩ =>
        .ok ⟨.array items, left, by
          have blank := skipBlank_length inside
          simp only [opened, List.length_cons] at blank ⊢; omega⟩
  | .scalar '{' :: _, 0 => .error (.tooDeep .object)
  | .scalar '{' :: inside, inner + 1 =>
    match opened : skipBlank inside with
    | .scalar '}' :: left =>
      .ok ⟨.object [], left, by
        have blank := skipBlank_length inside
        simp only [opened, List.length_cons] at blank ⊢; omega⟩
    | start =>
      match readPairs inner start with
      | .error stop => .error stop
      | .ok ⟨pairs, left, shorter⟩ =>
        .ok ⟨.object (Members.ofPairs pairs), left, by
          have blank := skipBlank_length inside
          simp only [opened, List.length_cons] at blank ⊢; omega⟩
  | text, _ =>
    match readConstant? text constants with
    | some taken => .ok taken
    | none => readNumber text
termination_by 2 * text.length
decreasing_by
  all_goals
    have blank := skipBlank_length inside
    simp only [opened, List.length_cons] at blank ⊢
    omega

/-- Reads the values of an array up to its closing bracket; the text starts at a value. -/
def readItems (nesting : Nat) (text : Text) : Except Stop (Taken (List Json) text) :=
  match readValue nesting text with
  | .error stop => .error stop
  | .ok ⟨item, afterItem, shorter⟩ =>
    match next : skipBlank afterItem with
    | .scalar ']' :: left =>
      .ok ⟨[item], left, by
        have blank := skipBlank_length afterItem
        simp only [next, List.length_cons] at blank; omega⟩
    | .scalar ',' :: rest =>
      match readItems nesting (skipBlank rest) with
      | .error stop => .error stop
      | .ok ⟨items, left, shorterStill⟩ =>
        .ok ⟨item :: items, left, by
          have blank := skipBlank_length afterItem
          have blankAgain := skipBlank_length rest
          simp only [next, List.length_cons] at blank; omega⟩
    | other => .error (.flaw .expectedComma other.length)
termination_by 2 * text.length + 1
decreasing_by
  · omega
  · have blank := skipBlank_length afterItem
    have blankAgain := skipBlank_length rest
    simp only [next, List.length_cons] at blank
    omega

/-- Reads the members of an object up to its closing brace; the text starts at a key. -/
def readPairs (nesting : Nat) (text : Text) : Except Stop (Taken (List (Text × Json)) text) :=
  match text with
  | .scalar '"' :: inside =>
    match readString inside with
    | .error stop => .error stop
    | .ok ⟨key, afterKey, keyShorter⟩ =>
      match colon : skipBlank afterKey with
      | .scalar ':' :: rest =>
        match readValue nesting (skipBlank rest) with
        | .error stop => .error stop
        | .ok ⟨value, afterValue, valueShorter⟩ =>
          match next : skipBlank afterValue with
          | .scalar '}' :: left =>
            .ok ⟨[(key, value)], left, by
              have blank := skipBlank_length afterKey
              have blankValue := skipBlank_length rest
              have blankNext := skipBlank_length afterValue
              simp only [colon, next, List.length_cons] at *; omega⟩
          | .scalar ',' :: following =>
            match readPairs nesting (skipBlank following) with
            | .error stop => .error stop
            | .ok ⟨pairs, left, pairsShorter⟩ =>
              .ok ⟨(key, value) :: pairs, left, by
                have blank := skipBlank_length afterKey
                have blankValue := skipBlank_length rest
                have blankNext := skipBlank_length afterValue
                have blankFollowing := skipBlank_length following
                simp only [colon, next, List.length_cons] at *; omega⟩
          | other => .error (.flaw .expectedComma other.length)
      | other => .error (.flaw .expectedColon other.length)
  | other => .error (.flaw .expectedKey other.length)
termination_by 2 * text.length
decreasing_by
  · have blank := skipBlank_length afterKey
    have blankValue := skipBlank_length rest
    simp only [colon, List.length_cons] at blank ⊢
    omega
  · have blank := skipBlank_length afterKey
    have blankValue := skipBlank_length rest
    have blankNext := skipBlank_length afterValue
    have blankFollowing := skipBlank_length following
    simp only [colon, next, List.length_cons] at blank blankNext ⊢
    omega

end

/-- The place of a stop in the whole text. -/
def Stop.error (text : Text) : Stop → ReadError
  | .flaw what left => .malformed what (text.mark (text.length - left))
  | .tooManyDigits count => .tooManyDigits count
  | .tooDeep container => .tooDeep container

/-- The value of a document. -/
def read (nesting : Nat) (text : Text) : Except ReadError Json :=
  if text.head? = some (.scalar '\uFEFF') then .error (.malformed .byteOrderMark (text.mark 0))
  else
    match readValue nesting (skipBlank text) with
    | .error stop => .error (stop.error text)
    | .ok ⟨value, left, _⟩ =>
      match skipBlank left with
      | [] => .ok value
      | extra => .error (Stop.error text (.flaw .extraData extra.length))

def Flaw.message : Flaw → Text
  | .expectedValue => "Expecting value"
  | .expectedKey => "Expecting property name enclosed in double quotes"
  | .expectedColon => "Expecting ':' delimiter"
  | .expectedComma => "Expecting ',' delimiter"
  | .extraData => "Extra data"
  | .unterminatedString => "Unterminated string starting at"
  | .controlCharacter => "Invalid control character at"
  | .invalidEscape => "Invalid \\escape"
  | .invalidUnicodeEscape => "Invalid \\uXXXX escape"
  | .byteOrderMark => "Unexpected UTF-8 BOM (decode using utf-8-sig)"

def Container.name : Container → Text
  | .array => "array"
  | .object => "object"

def ReadError.message : ReadError → Text
  | .malformed flaw mark =>
    flaw.message ++ ": line " ++ Text.ofNat mark.line ++ " column " ++ Text.ofNat mark.column ++
      " (char " ++ Text.ofNat mark.offset ++ ")"
  | .tooManyDigits count =>
    "Exceeds the limit (" ++ Text.ofNat Numeral.mostDigits ++
      " digits) for integer string conversion: value has " ++ Text.ofNat count ++
      " digits; use sys.set_int_max_str_digits() to increase the limit"
  | .tooDeep container =>
    "maximum recursion depth exceeded while decoding a JSON " ++ container.name ++
      " from a unicode string"

end TypedEndpoints.Json
