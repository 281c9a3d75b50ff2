import TypedEndpoints.Proofs.LiteralReading
/-!
The server and the client agree on the path of an interface. The route is registered under a literal
that says the path; the client fetches a literal that says the path with the parameters filled in. Both
are read by `Source.readLiteral`, and what the client fetches is compared with `filledPath`, which takes
the path apart from the left and knows no literal.

* `path_literals_agree`: both literals are read to their end; the server's is the path, the client's is
  the filled path, and it interpolates exactly the tokens that a parameter fills.
-/
set_option autoImplicit false
namespace TypedEndpoints

open Source

/-- What a segment of a path comes to when the known tokens are filled in. -/
def Segment.filled (values : Text → Text) (names : List Text) : Segment → Text
  | plain point => [point]
  | token name => if names.contains name then values name else .scalar ':' :: name

/-- A path with its tokens of known name filled in; everything else is kept. -/
def filledPath (values : Text → Text) (names : List Text) (path : Text) : Text :=
  (segments path).flatMap (Segment.filled values names)

namespace Source

/-- What a piece of a literal comes to when the values of the interpolated names are known. -/
def Piece.filled (values : Text → Text) : Piece → Text
  | point p => [p]
  | interpolated name => values name

/-- The name that a piece interpolates. -/
def Piece.name? : Piece → Option Text
  | point _ => none
  | interpolated name => some name

theorem flatMap_filled_point (values : Text → Text) (text : Text) :
    (text.map Piece.point).flatMap (Piece.filled values) = text := by
  induction text with
  | nil => rfl
  | cons point text ih => rw [List.map_cons, List.flatMap_cons, ih]; rfl

theorem filterMap_name?_point (text : Text) :
    (text.map Piece.point).filterMap Piece.name? = [] := by
  induction text with
  | nil => rfl
  | cons point text ih => exact ih

/-- The pieces of a segment come to the segment filled in. -/
theorem flatMap_filled_piecesOf (values : Text → Text) (names : List Text) (segment : Segment) :
    (piecesOf names segment).flatMap (Piece.filled values) = segment.filled values names := by
  cases segment with
  | plain point => rfl
  | token name =>
      by_cases known : names.contains name = true
      · simp only [piecesOf, Segment.filled, known, if_true, List.flatMap_singleton, Piece.filled]
      · simp only [piecesOf, Segment.filled, known]
        exact flatMap_filled_point values (.scalar ':' :: name)

/-- The names that are interpolated are those of the known tokens. -/
theorem filterMap_name?_pieces (names : List Text) (path : List Segment) :
    (path.flatMap (piecesOf names)).filterMap Piece.name? =
      (path.filterMap Segment.name?).filter (· ∈ names) := by
  induction path with
  | nil => rfl
  | cons segment path ih =>
      rw [List.flatMap_cons, List.filterMap_append, ih]
      cases segment with
      | plain point => rfl
      | token name =>
          unfold piecesOf
          by_cases known : name ∈ names
          · simp [known, Piece.name?, Segment.name?]
          · have nothing := filterMap_name?_point (.scalar ':' :: name)
            simpa [known, Segment.name?] using nothing

/-- Without known names a path is read as it is. -/
theorem flatMap_piecesOf_nil (path : Text) :
    (segments path).flatMap (piecesOf []) = path.map .point := by
  induction path using segments.induct with
  | case1 => simp [segments]
  | case2 point rest token ih =>
      obtain ⟨rfl, starts⟩ := token
      rw [segments, if_pos ⟨rfl, starts⟩, List.flatMap_cons, ih]
      simp only [piecesOf, List.contains_nil, Bool.false_eq_true, if_false, List.map_cons,
        List.cons_append, ← List.map_append, List.takeWhile_append_dropWhile]
  | case3 point rest plain ih =>
      rw [segments, if_neg plain, List.flatMap_cons, ih]
      rfl

/-- The fetched literal is read segment by segment, whether or not there are parameters, and whatever
follows it. -/
theorem readLiteral_targetOf_append (api : HttpInterface) (rest : Text) :
    readLiteral (ClientFunction.targetOf api ++ rest) =
      some ((segments api.path).flatMap (piecesOf api.paramNames), rest) := by
  unfold ClientFunction.targetOf
  by_cases noParams : api.urlParams.isEmpty = true
  · have noNames : api.paramNames = [] := by
      rw [HttpInterface.paramNames, List.isEmpty_iff.mp noParams, List.map_nil]
    rw [if_pos noParams, noNames, flatMap_piecesOf_nil]
    exact readLiteral_stringLiteral api.path rest
  · rw [if_neg noParams]
    exact readLiteral_substitute api.path api.paramNames rest

theorem readLiteral_targetOf (api : HttpInterface) :
    readLiteral (ClientFunction.targetOf api) =
      some ((segments api.path).flatMap (piecesOf api.paramNames), []) := by
  simpa using readLiteral_targetOf_append api []

end Source

/-- **Both ends of an interface speak of one path.** The literals of the route and of the call are read
to their end; the route says the path, and the call says the path with every token that a parameter
fills replaced by the value of that parameter, and interpolates those tokens only. -/
theorem path_literals_agree (api : HttpInterface) (values : Text → Text) :
    readLiteral (Route.ofInterface api).path = some (api.path.map .point, []) ∧
      ∃ pieces, readLiteral (ClientFunction.ofInterface api).target = some (pieces, []) ∧
        pieces.flatMap (Piece.filled values) = filledPath values api.paramNames api.path ∧
        pieces.filterMap Piece.name? = (tokenNames api.path).filter (· ∈ api.paramNames) := by
  refine ⟨?_, (segments api.path).flatMap (piecesOf api.paramNames), ?_, ?_, ?_⟩
  · simpa [Route.ofInterface] using readLiteral_stringLiteral api.path []
  · exact readLiteral_targetOf api
  · rw [List.flatMap_assoc, filledPath]
    congr 1
    funext segment
    exact flatMap_filled_piecesOf values api.paramNames segment
  · exact filterMap_name?_pieces api.paramNames (segments api.path)

end TypedEndpoints
