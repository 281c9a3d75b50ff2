import TypedEndpoints.Document.Entry
import TypedEndpoints.Proofs.PathCheck
import TypedEndpoints.Proofs.ReferenceCheck
/-!
Whether a path between apostrophes is a string literal of the emitted language. `readQuoted` follows the rules
of that language: a backslash begins an escape, an apostrophe ends the literal, and a line feed or carriage
return must not stand in it unescaped. The path is escaped at its backslashes and apostrophes, and nowhere
else.

* `readQuoted_stringLiteral`: a text between apostrophes is a literal, and says the text, exactly if it is on
  one line;
* `quoted_paths_read`: so are the paths in the modules of the server and of the client;
* `not_all_paths_quoted`: a document may have a path with a line feed in it.
-/
set_option autoImplicit false
namespace TypedEndpoints.Source

/-! ## String literals of the emitted language -/

/-- What ends a line of the emitted language. -/
def lineTerminators : List Char := ['\n', '\r', '\u2028', '\u2029']

/-- The letters of the short escapes. -/
def shortEscapes : List (Char × Char) :=
  [('b', '\x08'), ('t', '\t'), ('n', '\n'), ('v', '\x0b'), ('f', '\x0c'), ('r', '\r')]

/-- What a code point that is no digit says behind a backslash: a letter of a short escape its control
character, anything else itself. -/
def shortEscape : CodePoint → CodePoint
  | .scalar c => .scalar ((shortEscapes.lookup c).getD c)
  | half => half

def isDecimalDigit : CodePoint → Bool
  | .scalar c => c.isDigit
  | .surrogate _ => false

/-- Where the reader of a string is. -/
inductive QuotePlace where
  | plain
  /-- Behind a backslash. -/
  | escape
  /-- Between the two ends of a line that is continued. -/
  | continued
  /-- So many digits of an escape are to come; the value of those in front of them. -/
  | digits (left value : Nat)
  /-- In front of the brace of an escape. -/
  | brace
  /-- Inside the braces of an escape, with the value of the digits so far, if there are any. -/
  | braced (value : Option Nat)

/-- What was read, with more text in front. -/
def prefixed (front : Text) (taken : Option (Text × Text)) : Option (Text × Text) :=
  taken.map fun (value, rest) => (front ++ value, rest)

/-- Reads a string behind its opening apostrophe, up to the closing one; tells what it says and what follows
the closing apostrophe. A half of a pair that an escape names is kept as a half. -/
def readInside : QuotePlace → Text → Option (Text × Text)
  | _, [] => none
  | .plain, point :: rest =>
    if point = .scalar '\'' then some ([], rest)
    else if point = .scalar '\\' then readInside .escape rest
    else if point = .scalar '\n' ∨ point = .scalar '\r' then none
    else prefixed [point] (readInside .plain rest)
  | .escape, point :: rest =>
    -- The end of a line behind a backslash continues the literal and says nothing; a carriage return and
    -- the line feed behind it are one end.
    if point = .scalar '\r' ∧ rest.head? = some (.scalar '\n') then readInside .continued rest
    else if point ∈ lineTerminators.map CodePoint.scalar then readInside .plain rest
    else if point = .scalar 'x' then readInside (.digits 2 0) rest
    else if point = .scalar 'u' then
      if rest.head? = some (.scalar '{') then readInside .brace rest else readInside (.digits 4 0) rest
    else if isDecimalDigit point then
      -- The strict mode of a module has no octal escapes; a zero without digits behind it is the null
      -- character.
      if point = .scalar '0' ∧ (rest.head?.any isDecimalDigit) = false then
        prefixed [.scalar '\x00'] (readInside .plain rest)
      else none
    else prefixed [shortEscape point] (readInside .plain rest)
  | .continued, _ :: rest => readInside .plain rest
  | .digits left value, point :: rest =>
    match Json.Quoted.hexDigit? point with
    | none => none
    | some digit =>
      if left = 1 then prefixed [CodePoint.ofUnit (value * 16 + digit)] (readInside .plain rest)
      else readInside (.digits (left - 1) (value * 16 + digit)) rest
  | .brace, _ :: rest => readInside (.braced none) rest
  | .braced value, point :: rest =>
    if point = .scalar '}' then
      match value with
      | none => none
      | some value =>
        if value ≤ 0x10FFFF then prefixed [CodePoint.ofUnit value] (readInside .plain rest) else none
    else
      match Json.Quoted.hexDigit? point with
      | none => none
      | some digit => readInside (.braced (some (value.getD 0 * 16 + digit))) rest

/-- Reads the string between apostrophes that starts a text; tells what it says and what follows it. -/
def readQuoted : Text → Option (Text × Text)
  | [] => none
  | quote :: rest => if quote = .scalar '\'' then readInside .plain rest else none

/-! ## Escaped text -/

/-- The text is on one line. -/
def OneLine (text : Text) : Prop := .scalar '\n' ∉ text ∧ .scalar '\r' ∉ text

instance (text : Text) : Decidable (OneLine text) :=
  inferInstanceAs (Decidable (.scalar '\n' ∉ text ∧ .scalar '\r' ∉ text))

theorem oneLine_cons (point : CodePoint) (text : Text) :
    OneLine (point :: text) ↔ ¬ (point = .scalar '\n' ∨ point = .scalar '\r') ∧ OneLine text := by
  simp only [OneLine, List.mem_cons, not_or, eq_comm (b := point)]
  tauto

/-- An escaped backslash or apostrophe says itself. -/
theorem readInside_escaped {point : CodePoint} (rest : Text)
    (escaped : point = .scalar '\\' ∨ point = .scalar '\'') :
    readInside .plain (.scalar '\\' :: point :: rest) = prefixed [point] (readInside .plain rest) := by
  have itself : shortEscape point = point := by rcases escaped with rfl | rfl <;> rfl
  have noLineEnd : point ∉ lineTerminators.map CodePoint.scalar := by
    rcases escaped with rfl | rfl <;> decide
  have noDigit : isDecimalDigit point = false := by rcases escaped with rfl | rfl <;> rfl
  have noLetter : point ≠ .scalar '\r' ∧ point ≠ .scalar 'x' ∧ point ≠ .scalar 'u' := by
    rcases escaped with rfl | rfl <;> decide
  simp [readInside, itself, noLineEnd, noDigit, noLetter]

/-- **A text between apostrophes is a literal exactly if it is on one line**, whatever follows it; then it
says the text. -/
theorem readQuoted_stringLiteral (text rest : Text) :
    readQuoted (stringLiteral text ++ rest) = if OneLine text then some (text, rest) else none := by
  rw [stringLiteral_eq, List.cons_append, readQuoted, if_pos rfl, List.append_assoc]
  -- Behind the opening apostrophe the reader is back at `plain` in front of each code point of the text:
  -- one that is escaped, one that ends the line, or one that stands for itself.
  induction text with
  | nil => simp [readInside, OneLine]
  | cons point text ih =>
      rw [List.flatMap_cons, List.append_assoc]
      by_cases escaped : point = .scalar '\\' ∨ point = .scalar '\''
      · have onLine : ¬ (point = .scalar '\n' ∨ point = .scalar '\r') := by
          rcases escaped with rfl | rfl <;> decide
        rw [if_pos escaped, List.cons_append, List.cons_append, List.nil_append,
          readInside_escaped _ escaped, ih]
        by_cases oneLine : OneLine text <;> simp [prefixed, oneLine_cons, onLine, oneLine]
      · obtain ⟨notBackslash, notApostrophe⟩ := not_or.mp escaped
        rw [if_neg escaped, List.cons_append, List.nil_append, readInside, if_neg notApostrophe,
          if_neg notBackslash]
        by_cases breaks : point = .scalar '\n' ∨ point = .scalar '\r'
        · simp [breaks, oneLine_cons]
        · rw [if_neg breaks, ih]
          by_cases oneLine : OneLine text <;> simp [prefixed, oneLine_cons, breaks, oneLine]

/-! ## The paths of the modules -/

/-- **Quoted paths are literals exactly if they are on one line.** That holds of every text between
apostrophes, so of the path under which the server registers a route, and of the path that the client fetches
where there are no parameters to fill in: the literal says the path and ends in front of the rest of its
line. A path with the end of a line in it leaves an open literal there. -/
theorem quoted_paths_read (text : Text) (metadata : Metadata) :
    (∀ rest, readQuoted (stringLiteral text ++ rest) = if OneLine text then some (text, rest) else none) ∧
    ∀ api ∈ metadata.httpInterfaces,
      (∃ literal, HasLine (Bundle.ofMetadata metadata).server
          ("  app." ++ api.method.routerFunction ++ "(" ++ literal ++
            ", async (req: Request, res: Response) => \x7b") ∧
        ∀ rest, readQuoted (literal ++ rest) = if OneLine api.path then some (api.path, rest) else none) ∧
      (api.urlParams = [] → ∃ literal closing, HasLine (Bundle.ofMetadata metadata).client
          ("  const response = await fetch(" ++ literal ++ closing) ∧
        ∀ rest, readQuoted (literal ++ rest) = if OneLine api.path then some (api.path, rest) else none) := by
  refine ⟨readQuoted_stringLiteral text, ?_⟩
  intro api known
  constructor
  · refine ⟨stringLiteral api.path, ?_, readQuoted_stringLiteral api.path⟩
    have opening : (Route.ofInterface api).opening ∈ (Route.ofInterface api).lines := List.mem_cons_self
    exact hasLine_server known opening
  · intro noParams
    have target : (ClientFunction.ofInterface api).target = stringLiteral api.path := by
      simp [ClientFunction.ofInterface, ClientFunction.targetOf, noParams]
    obtain ⟨closing, call, -⟩ := fetch_line api
    rw [target] at call
    refine ⟨stringLiteral api.path, closing, ?_, readQuoted_stringLiteral api.path⟩
    apply hasLine_client known
    apply List.mem_cons_of_mem
    exact List.mem_append_left _ (List.mem_append_left _ (List.mem_of_head? call))

/-- A document with one interface of this path. -/
def pathDocument (path : Text) : Json :=
  .object [("httpInterfaces", .array [.object [("name", .string "list"), ("method", .string "GET"),
    ("path", .string path)]])]

/-- The interface of such a document. -/
def pathInterface (path : Text) : HttpInterface := ⟨"list", .get, path, [], none, none, [], false⟩

theorem ofJson_pathDocument (first : CodePoint) (rest : Text) :
    (Metadata.ofJson (pathDocument (first :: rest))).outcome =
      .ok ⟨[], [pathInterface (first :: rest)]⟩ := by
  rfl

theorem quoted_paths_read_of_apostrophe :
    pathInterface "/it's\\" ∈ [pathInterface "/it's\\"] ∧ (pathInterface "/it's\\").urlParams = [] ∧
      ∃ literal closing, HasLine (Bundle.ofMetadata ⟨[], [pathInterface "/it's\\"]⟩).client
          ("  const response = await fetch(" ++ literal ++ closing) ∧
        ∀ rest, readQuoted (literal ++ rest) = some (("/it's\\" : Text), rest) := by
  have known : pathInterface "/it's\\" ∈ [pathInterface "/it's\\"] := List.mem_singleton_self _
  have oneLine : OneLine (pathInterface "/it's\\").path := by decide
  obtain ⟨-, paths⟩ := quoted_paths_read "/it's\\" ⟨[], [pathInterface "/it's\\"]⟩
  obtain ⟨literal, closing, fetched, reads⟩ := (paths _ known).2 rfl
  refine ⟨known, rfl, literal, closing, fetched, ?_⟩
  intro rest
  rw [reads rest, if_pos oneLine]
  rfl

/-- Not every text is a literal when it is quoted, and not every path of a document: a line feed in it stays
as it is. -/
theorem not_all_paths_quoted :
    (¬ ∀ text, readQuoted (stringLiteral text) = some (text, [])) ∧
    ¬ ∀ raw metadata, (Metadata.ofJson raw).outcome = .ok metadata → ∀ api ∈ metadata.httpInterfaces,
      readQuoted (Route.ofInterface api).path = some (api.path, []) := by
  have unclosed : readQuoted (stringLiteral "/a\nb") = none := by decide
  constructor
  · intro all
    have closed := all "/a\nb"
    rw [unclosed] at closed
    cases closed
  · intro all
    have closed := all _ _ (ofJson_pathDocument (.scalar '/') "a\nb") _ (List.mem_singleton_self _)
    have literal : (Route.ofInterface (pathInterface (.scalar '/' :: "a\nb"))).path =
        stringLiteral "/a\nb" := rfl
    rw [literal, unclosed] at closed
    cases closed

end TypedEndpoints.Source
