import TypedEndpoints.Binary64.Shortest
import TypedEndpoints.Schema.Basic
import TypedEndpoints.Json.Numeral
import TypedEndpoints.Json.Quoted
import TypedEndpoints.PathTemplate
import TypedEndpoints.Text.Replace
/-!
Literals of the emitted sources. A path is a string between apostrophes, or between backticks where
parameters are filled in; a member of a union is a string between double quotes or a bare number.

In a string between apostrophes the backslash and the apostrophe are escaped. Between backticks the
backslash, the backtick and the dollar sign of a `${` are, so that the only interpolations are those
that `substitute` puts there.

A whole number is written with all its digits, so that one with too many of them (`isWritable`) is not
written at all.
-/
set_option autoImplicit false
namespace TypedEndpoints.Source

/-- A text between apostrophes. -/
def stringLiteral (text : Text) : Text :=
  .scalar '\'' :: ((text.replace "\\" "\\\\").replace "'" "\\'" ++ [.scalar '\''])

/-- Plain text as it stands between backticks. Backslashes come first: those of the other escapes are
not to be escaped again. -/
def templateEscaped (text : Text) : Text :=
  ((text.replace "\\" "\\\\").replace "\x60" "\\\x60").replace "$\x7b" "\\$\x7b"

theorem stringLiteral_eq (text : Text) :
    stringLiteral text = .scalar '\'' :: (text.flatMap (fun point =>
      if point = .scalar '\\' ∨ point = .scalar '\'' then [.scalar '\\', point] else [point])
        ++ [.scalar '\'']) := by
  have backslash : Text.ofString "\\" = [.scalar '\\'] := rfl
  have apostrophe : Text.ofString "'" = [.scalar '\''] := rfl
  unfold stringLiteral
  rw [backslash, apostrophe, Text.replace_single, Text.replace_single, List.flatMap_assoc]
  congr 3
  funext point
  by_cases isBackslash : point = .scalar '\\'
  · subst isBackslash
    decide
  · by_cases isApostrophe : point = .scalar '\''
    · subst isApostrophe
      decide
    · simp [isBackslash, isApostrophe]

/-- A code point between backticks, whatever follows it. -/
def templateEscapedPoint (point : CodePoint) : Text :=
  if point = .scalar '\\' ∨ point = .scalar '\x60' then [.scalar '\\', point] else [point]

theorem templateEscaped_eq (text : Text) :
    templateEscaped text =
      Text.replace (text.flatMap templateEscapedPoint) "$\x7b" "\\$\x7b" := by
  have backslash : Text.ofString "\\" = [.scalar '\\'] := rfl
  have backtick : Text.ofString "\x60" = [.scalar '\x60'] := rfl
  unfold templateEscaped
  rw [backslash, backtick, Text.replace_single, Text.replace_single, List.flatMap_assoc]
  congr 2
  funext point
  unfold templateEscapedPoint
  by_cases isBackslash : point = .scalar '\\'
  · subst isBackslash
    decide
  · by_cases isBacktick : point = .scalar '\x60'
    · subst isBacktick
      decide
    · simp [isBackslash, isBacktick]

@[simp] theorem templateEscaped_nil : templateEscaped [] = [] := rfl

/-- Escaping backslashes and backticks neither makes nor hides an opening brace. -/
theorem head?_flatMap_templateEscapedPoint (text : Text) :
    (text.flatMap templateEscapedPoint).head? = some (.scalar '{') ↔
      text.head? = some (.scalar '{') := by
  cases text with
  | nil => rfl
  | cons point rest =>
      unfold templateEscapedPoint
      rw [List.flatMap_cons]
      split
      · next escaped => rcases escaped with rfl | rfl <;> simp
      · simp

theorem templateEscaped_cons (point : CodePoint) (rest : Text) :
    templateEscaped (point :: rest) =
      if point = .scalar '\\' ∨ point = .scalar '\x60' ∨
          (point = .scalar '$' ∧ rest.head? = some (.scalar '{')) then
        .scalar '\\' :: point :: templateEscaped rest
      else point :: templateEscaped rest := by
  have opening : Text.ofString "$\x7b" = [.scalar '$', .scalar '{'] := rfl
  have escapedOpening : Text.ofString "\\$\x7b" = [.scalar '\\', .scalar '$', .scalar '{'] := rfl
  simp only [templateEscaped_eq, opening, escapedOpening, List.flatMap_cons]
  by_cases plainEscape : point = .scalar '\\' ∨ point = .scalar '\x60'
  · have notDollar : point ≠ .scalar '$' := by
      rintro rfl
      revert plainEscape
      decide
    simp [templateEscapedPoint, plainEscape, Text.replace_pair, notDollar]
  · obtain ⟨notBackslash, notBacktick⟩ := not_or.mp plainEscape
    by_cases opens : point = .scalar '$' ∧ rest.head? = some (.scalar '{')
    · obtain ⟨rfl, brace⟩ := opens
      -- the brace is taken together with the dollar sign, and stands for itself either way
      obtain ⟨after, rfl⟩ : ∃ after, rest = .scalar '{' :: after := by
        cases rest with
        | nil => cases brace
        | cons next after => exact ⟨after, by simpa using brace⟩
      simp [templateEscapedPoint, Text.replace_pair]
    · simp [templateEscapedPoint, notBackslash, notBacktick, Text.replace_pair,
        head?_flatMap_templateEscapedPoint, opens]

/-- No dollar sign at the end of the one text meets a brace at the start of the other. -/
def Apart (front rest : Text) : Prop :=
  front.getLast? ≠ some (.scalar '$') ∨ rest.head? ≠ some (.scalar '{')

theorem Apart.tail {point : CodePoint} {front rest : Text} (apart : Apart (point :: front) rest) :
    Apart front rest := by
  refine apart.imp_left fun lastOther last => lastOther ?_
  rw [List.getLast?_cons, last]
  rfl

/-- A token does not end with a dollar sign. -/
theorem apart_token {name : Text} (word : ∀ point ∈ name, point.isWord = true) (rest : Text) :
    Apart (.scalar ':' :: name) rest := by
  refine .inl fun last => ?_
  rcases List.mem_cons.mp (List.mem_of_getLast? last) with colon | member
  · exact absurd colon (by decide)
  · exact absurd (word _ member) (by decide)

/-- The place where the value of a name is filled in. -/
def interpolation (name : Text) : Text := "$\x7b" ++ name ++ "\x7d"

/-- A token: filled in if its name is known, and plain text otherwise. -/
def substituteToken (names : List Text) (name : Text) : Text :=
  if names.contains name then interpolation name else templateEscaped (.scalar ':' :: name)

/-- A path as it stands between backticks, its tokens of known name filled in. -/
def substitute (path : Text) (names : List Text) : Text :=
  let template := PathTemplate.ofPath path
  templateEscaped template.head ++ template.tokens.flatMap fun (name, tail) =>
    substituteToken names name ++ templateEscaped tail

/-- Puts what stands between backticks between backticks. -/
def backtickLiteral (body : Text) : Text := .scalar '\x60' :: (body ++ [.scalar '\x60'])

/-- A floating point number as a literal. -/
def floatLiteral (number : Binary64) : Text := number.write ⟨"Infinity", "NaN"⟩

/-- Can the member be written? A whole number with more digits than are read cannot. -/
def isWritable : EnumValue → Bool
  | .integer value => Json.Numeral.hasFewDigits value
  | .string _ | .float _ => true

/-- A member of a union as a literal, if it is one that can be written. -/
def memberLiteral : EnumValue → Text
  | .string value => Json.Quoted.encode value
  | .integer value => Text.ofInt value
  | .float value => floatLiteral value

end TypedEndpoints.Source
