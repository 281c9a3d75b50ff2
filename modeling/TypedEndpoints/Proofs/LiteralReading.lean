import TypedEndpoints.Proofs.PathTokens
import TypedEndpoints.Source.Client
import TypedEndpoints.Source.Server
/-!
Reading the literals of the emitted sources. `readLiteral` is a reader of its own: it knows what a
literal of the emitted language says, and nothing of how `Source.Literal` writes one.

* `readLiteral_stringLiteral`: between apostrophes every text is read back;
* `readLiteral_substitute`: between backticks a path is read back segment by segment, a token of known
  name as an interpolation and everything else as itself.
-/
set_option autoImplicit false
namespace TypedEndpoints.Source

/-! ## The reader -/

/-- One piece of what a literal says. -/
inductive Piece where
  | point (point : CodePoint)
  | interpolated (name : Text)
  deriving DecidableEq

/-- What a backslash may stand in front of. -/
def escapable : List CodePoint := [.scalar '\\', .scalar '\'', .scalar '\x60', .scalar '$']

/-- Where the reader of a literal is. -/
inductive Position where
  | plain
  /-- Behind a backslash. -/
  | escape
  /-- Between the dollar sign of an interpolation and its brace. -/
  | dollar
  /-- Inside an interpolation, so much of the name being read. -/
  | inside (name : Text)

/-- What was read, with more pieces in front. -/
def withPieces (pieces : List Piece) (taken : List Piece × Text) : List Piece × Text :=
  (pieces ++ taken.1, taken.2)

/-- Reads a literal behind its opening quote, up to the closing one; tells its pieces and what follows
the closing quote. -/
def readPieces (quote : CodePoint) : Position → Text → Option (List Piece × Text)
  | _, [] => none
  | .plain, point :: rest =>
    if point = .scalar '\\' then readPieces quote .escape rest
    else if point = quote then some ([], rest)
    else if quote = .scalar '\x60' ∧ point = .scalar '$' ∧ rest.head? = some (.scalar '{') then
      readPieces quote .dollar rest
    else (readPieces quote .plain rest).map (withPieces [.point point])
  | .escape, point :: rest =>
    if point ∈ escapable then (readPieces quote .plain rest).map (withPieces [.point point])
    else none
  | .dollar, _ :: rest => readPieces quote (.inside []) rest
  | .inside name, point :: rest =>
    if point = .scalar '}' then (readPieces quote .plain rest).map (withPieces [.interpolated name])
    else readPieces quote (.inside (name ++ [point])) rest

/-- Reads the literal that starts a text; tells its pieces and what follows it. -/
def readLiteral : Text → Option (List Piece × Text)
  | [] => none
  | quote :: rest =>
    if quote = .scalar '\'' ∨ quote = .scalar '\x60' then readPieces quote .plain rest else none

@[simp] theorem withPieces_nil (taken : List Piece × Text) : withPieces [] taken = taken := rfl

theorem withPieces_withPieces (first second : List Piece) (taken : List Piece × Text) :
    withPieces first (withPieces second taken) = withPieces (first ++ second) taken := by
  simp [withPieces, List.append_assoc]

theorem map_withPieces_map_withPieces (first second : List Piece)
    (taken : Option (List Piece × Text)) :
    (taken.map (withPieces second)).map (withPieces first) =
      taken.map (withPieces (first ++ second)) := by
  cases taken <;> simp [withPieces_withPieces]

/-! ## Between apostrophes -/

theorem readPieces_escape {quote point : CodePoint} (rest : Text) (may : point ∈ escapable) :
    readPieces quote .plain (.scalar '\\' :: point :: rest) =
      (readPieces quote .plain rest).map (withPieces [.point point]) := by
  simp [readPieces, may]

/-- A text between apostrophes says itself. -/
theorem readLiteral_stringLiteral (text rest : Text) :
    readLiteral (stringLiteral text ++ rest) = some (text.map .point, rest) := by
  rw [stringLiteral_eq, List.cons_append, readLiteral, if_pos (Or.inl rfl), List.append_assoc]
  induction text with
  | nil => simp [readPieces]
  | cons point text ih =>
      rw [List.flatMap_cons, List.append_assoc]
      by_cases escaped : point = .scalar '\\' ∨ point = .scalar '\''
      · have may : point ∈ escapable := by rcases escaped with rfl | rfl <;> decide
        rw [if_pos escaped, List.cons_append, List.cons_append, List.nil_append,
          readPieces_escape _ may, ih]
        rfl
      · obtain ⟨notBackslash, notApostrophe⟩ := not_or.mp escaped
        rw [if_neg escaped, List.cons_append, List.nil_append, readPieces, if_neg notBackslash,
          if_neg notApostrophe, if_neg (fun both => absurd both.1 (by decide)), ih]
        rfl

/-! ## Between backticks -/

theorem readPieces_inside (before name rest : Text) (unclosed : .scalar '}' ∉ name) :
    readPieces (.scalar '\x60') (.inside before) (name ++ .scalar '}' :: rest) =
      (readPieces (.scalar '\x60') .plain rest).map (withPieces [.interpolated (before ++ name)]) := by
  induction name generalizing before with
  | nil => simp [readPieces]
  | cons point name ih =>
      obtain ⟨notBrace, restOpen⟩ := not_or.mp fun closed => unclosed (List.mem_cons.mpr closed)
      rw [List.cons_append, readPieces, if_neg (Ne.symm notBrace), ih (before ++ [point]) restOpen,
        List.append_assoc, List.singleton_append]

/-- An interpolation is read as one, if no closing brace cuts its name short. -/
theorem readPieces_interpolation (name rest : Text) (unclosed : .scalar '}' ∉ name) :
    readPieces (.scalar '\x60') .plain (interpolation name ++ rest) =
      (readPieces (.scalar '\x60') .plain rest).map (withPieces [.interpolated name]) := by
  have shape : interpolation name ++ rest =
      .scalar '$' :: .scalar '{' :: (name ++ .scalar '}' :: rest) := by
    simp only [interpolation, List.append_assoc]
    rfl
  rw [shape, readPieces, if_neg (by decide), if_neg (by decide), if_pos ⟨rfl, rfl, rfl⟩, readPieces,
    readPieces_inside [] name rest unclosed, List.nil_append]

/-- Escaped text is read as itself, whatever follows it: only a dollar sign at its end and a brace
behind that would be taken for an interpolation. -/
theorem readPieces_templateEscaped (text rest : Text) (apart : Apart text rest) :
    readPieces (.scalar '\x60') .plain (templateEscaped text ++ rest) =
      (readPieces (.scalar '\x60') .plain rest).map (withPieces (text.map .point)) := by
  induction text with
  | nil => exact Option.map_id'.symm
  | cons point text ih =>
      have step := ih apart.tail
      rw [templateEscaped_cons]
      split
      · next escaped =>
        have may : point ∈ escapable := by
          rcases escaped with rfl | rfl | ⟨rfl, -⟩ <;> decide
        rw [List.cons_append, List.cons_append, readPieces_escape _ may, step,
          map_withPieces_map_withPieces]
        rfl
      · next plain =>
        simp only [not_or, not_and] at plain
        obtain ⟨notBackslash, notBacktick, notOpening⟩ := plain
        have noInterpolation : ¬ (CodePoint.scalar '\x60' = .scalar '\x60' ∧ point = .scalar '$' ∧
            (templateEscaped text ++ rest).head? = some (.scalar '{')) := by
          rintro ⟨-, dollar, brace⟩
          cases text with
          | nil =>
              rcases apart with lastOther | headOther
              · exact lastOther (by simp [dollar])
              · exact headOther (by simpa using brace)
          | cons next text =>
              rw [templateEscaped_cons] at brace
              refine notOpening dollar ?_
              split at brace
              · simp at brace
              · simpa using brace
        rw [List.cons_append, readPieces, if_neg notBackslash, if_neg notBacktick,
          if_neg noInterpolation, step, map_withPieces_map_withPieces]
        rfl

/-- What is read for a segment of a path. -/
def piecesOf (names : List Text) : Segment → List Piece
  | .plain point => [.point point]
  | .token name =>
    if names.contains name then [.interpolated name] else (.scalar ':' :: name).map .point

theorem flatMap_piecesOf_plain (names : List Text) (text : Text) :
    (text.map Segment.plain).flatMap (piecesOf names) = text.map .point := by
  induction text with
  | nil => rfl
  | cons point text ih => rw [List.map_cons, List.flatMap_cons, ih]; rfl

/-- A token is read as one piece or as itself; a word ends neither an interpolation nor itself with a
dollar sign. -/
theorem readPieces_substituteToken (names : List Text) {name : Text} (rest : Text)
    (word : ∀ point ∈ name, point.isWord = true) :
    readPieces (.scalar '\x60') .plain (substituteToken names name ++ rest) =
      (readPieces (.scalar '\x60') .plain rest).map (withPieces (piecesOf names (.token name))) := by
  unfold substituteToken piecesOf
  by_cases known : names.contains name = true
  · have unclosed : .scalar '}' ∉ name := fun member => absurd (word _ member) (by decide)
    simpa only [if_pos known] using readPieces_interpolation name rest unclosed
  · simpa only [if_neg known] using readPieces_templateEscaped _ rest (apart_token word rest)

theorem head?_substituteToken (names : List Text) (name rest : Text) :
    (substituteToken names name ++ rest).head? ≠ some (.scalar '{') := by
  unfold substituteToken
  split
  · simp [interpolation, Text.ofString]
  · simp [templateEscaped_cons]

/-- Neither a token nor the closing backtick begins with a brace. -/
theorem head?_substituted_tokens (names : List Text) (tokens : List (Text × Text)) (rest : Text) :
    ((tokens.flatMap fun (name, tail) => substituteToken names name ++ templateEscaped tail) ++
      .scalar '\x60' :: rest).head? ≠ some (.scalar '{') := by
  cases tokens with
  | nil => simp
  | cons token tokens =>
      rw [List.flatMap_cons, List.append_assoc, List.append_assoc]
      exact head?_substituteToken names token.1 _

theorem readPieces_tokens (names : List Text) (tokens : List (Text × Text)) (rest : Text)
    (words : ∀ token ∈ tokens, ∀ point ∈ token.1, point.isWord = true) :
    readPieces (.scalar '\x60') .plain
        ((tokens.flatMap fun (name, tail) => substituteToken names name ++ templateEscaped tail) ++
          .scalar '\x60' :: rest) =
      some ((tokens.flatMap fun (name, tail) =>
        .token name :: tail.map Segment.plain).flatMap (piecesOf names), rest) := by
  induction tokens with
  | nil => simp [readPieces]
  | cons token tokens ih =>
      obtain ⟨name, tail⟩ := token
      have apart := head?_substituted_tokens names tokens rest
      have others := ih fun token member => words token (List.mem_cons_of_mem _ member)
      rw [List.flatMap_cons, List.append_assoc, List.append_assoc,
        readPieces_substituteToken names _ (words _ List.mem_cons_self),
        readPieces_templateEscaped tail _ (Or.inr apart), others]
      simp [withPieces, flatMap_piecesOf_plain]

/-- A path with its tokens of known name filled in is read back segment by segment. -/
theorem readLiteral_substitute (path : Text) (names : List Text) (rest : Text) :
    readLiteral (backtickLiteral (substitute path names) ++ rest) =
      some ((segments path).flatMap (piecesOf names), rest) := by
  have words : ∀ token ∈ (PathTemplate.ofPath path).tokens, ∀ point ∈ token.1,
      point.isWord = true :=
    fun _ member => PathTemplate.isWord_of_mem_tokens path member
  have apart := head?_substituted_tokens names (PathTemplate.ofPath path).tokens rest
  have tokens := readPieces_tokens names (PathTemplate.ofPath path).tokens rest words
  simp only [backtickLiteral, substitute, List.cons_append, List.append_assoc, List.nil_append]
  rw [readLiteral, if_pos (Or.inr rfl), readPieces_templateEscaped _ _ (Or.inr apart), tokens,
    segments_eq_ofPath]
  simp [withPieces, PathTemplate.segments, flatMap_piecesOf_plain]

-- A dollar sign in front of a token and a brace behind it make no other interpolation.
example : readLiteral (backtickLiteral (substitute "a$:id\x7b\x60" ["id"])) =
    some ([.point (.scalar 'a'), .point (.scalar '$'), .interpolated "id", .point (.scalar '{'),
      .point (.scalar '\x60')], []) := by
  decide

end TypedEndpoints.Source
