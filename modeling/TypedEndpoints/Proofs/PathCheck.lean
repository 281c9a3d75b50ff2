import TypedEndpoints.Proofs.PathAgreement
import TypedEndpoints.Schema.Problems
/-!
The check of a path agrees with what is fetched. The check lists the tokens of a path that no parameter
fills; the client writes a literal in which some tokens are interpolations and the others stand as
text. `Source.tokenUses` finds both kinds in a literal that was read, by looking for a colon and a word
among its pieces; it knows neither the path nor the parameters.

* `tokenUses_pieces`: the uses that a literal makes of the tokens are those of the path, one for one;
* `path_check_agrees`: so the check lists the tokens that stay text, and the interpolated ones are the
  rest.
-/
set_option autoImplicit false
namespace TypedEndpoints

namespace Source

/-- What a literal makes of a token: it stands there as text, or its value is filled in. -/
inductive TokenUse where
  | kept (name : Text)
  | filled (name : Text)
  deriving DecidableEq

def TokenUse.keptName? : TokenUse → Option Text
  | kept name => some name
  | filled _ => none

/-- The longest word at the start of a literal; an interpolation ends it. -/
def leadingWord : List Piece → Text
  | .point point :: rest => if point.isWord then point :: leadingWord rest else []
  | _ => []

/-- The tokens in a literal, from the left: the interpolations, and every colon in the text with the
longest word behind it. No word holds a colon, so the word need not be skipped. -/
def tokenUses : List Piece → List TokenUse
  | [] => []
  | .interpolated name :: rest => .filled name :: tokenUses rest
  | .point point :: rest =>
    if point = .scalar ':' ∧ leadingWord rest ≠ [] then .kept (leadingWord rest) :: tokenUses rest
    else tokenUses rest

/-- The tokens that stand in a literal as text. -/
def keptTokens (pieces : List Piece) : List Text := (tokenUses pieces).filterMap TokenUse.keptName?

/-! ## Words among the pieces -/

theorem leadingWord_append {name : Text} (rest : List Piece)
    (word : ∀ point ∈ name, point.isWord = true) :
    leadingWord (name.map .point ++ rest) = name ++ leadingWord rest := by
  induction name with
  | nil => rfl
  | cons point name ih =>
      have first : point.isWord = true := word point (by simp)
      have others := ih fun point member => word point (by simp [member])
      simp [leadingWord, first, others]

theorem tokenUses_append {name : Text} (rest : List Piece)
    (word : ∀ point ∈ name, point.isWord = true) :
    tokenUses (name.map .point ++ rest) = tokenUses rest := by
  induction name with
  | nil => rfl
  | cons point name ih =>
      have notColon : point ≠ .scalar ':' := by
        rintro rfl
        have colon := word _ List.mem_cons_self
        simp at colon
      have others := ih fun point member => word point (by simp [member])
      simpa [tokenUses, notColon] using others

/-- The pieces of a path begin with the word that the path begins with: what is read for a token begins
with no word character. -/
theorem leadingWord_pieces (names : List Text) (path : Text) :
    leadingWord ((segments path).flatMap (piecesOf names)) = path.takeWhile CodePoint.isWord := by
  induction path using segments.induct with
  | case1 => simp [segments, leadingWord]
  | case2 point rest token ih =>
      obtain ⟨rfl, starts⟩ := token
      rw [segments, if_pos ⟨rfl, starts⟩, List.flatMap_cons]
      by_cases known : rest.takeWhile CodePoint.isWord ∈ names
      · simp [piecesOf, known, leadingWord]
      · simp [piecesOf, known, leadingWord]
  | case3 point rest plain ih =>
      rw [segments, if_neg plain, List.flatMap_cons, piecesOf, List.singleton_append, leadingWord, ih]
      by_cases word : point.isWord = true <;> simp [word]

/-! ## The tokens of a path, one for one -/

/-- What becomes of a token when these names are filled in. -/
def TokenUse.ofToken (names : List Text) (name : Text) : TokenUse :=
  if names.contains name then .filled name else .kept name

theorem tokenUses_pieces (names : List Text) (path : Text) :
    tokenUses ((segments path).flatMap (piecesOf names)) =
      (tokenNames path).map (TokenUse.ofToken names) := by
  induction path using segments.induct with
  | case1 => simp [segments, tokenNames, tokenUses]
  | case2 point rest token ih =>
      obtain ⟨rfl, starts⟩ := token
      have whole := PathTemplate.wholeWord_takeWhile starts
      have nextWord := leadingWord_pieces names (rest.dropWhile CodePoint.isWord)
      have apart : (rest.dropWhile CodePoint.isWord).takeWhile CodePoint.isWord = [] := by
        have ends := PathTemplate.startsWithWord_takeWhile (rest.dropWhile CodePoint.isWord)
        simpa [whole.ends] using ends
      have cut : tokenNames (.scalar ':' :: rest) =
          rest.takeWhile CodePoint.isWord :: tokenNames (rest.dropWhile CodePoint.isWord) := by
        unfold tokenNames
        rw [segments, if_pos ⟨rfl, starts⟩]
        rfl
      rw [cut, List.map_cons, ← ih, segments, if_pos ⟨rfl, starts⟩, List.flatMap_cons]
      by_cases known : rest.takeWhile CodePoint.isWord ∈ names
      · simp [piecesOf, known, tokenUses, TokenUse.ofToken]
      · have found := leadingWord_append
          ((segments (rest.dropWhile CodePoint.isWord)).flatMap (piecesOf names)) whole.word
        have skipped := tokenUses_append
          ((segments (rest.dropWhile CodePoint.isWord)).flatMap (piecesOf names)) whole.word
        rw [nextWord, apart, List.append_nil] at found
        simp [piecesOf, known, tokenUses, TokenUse.ofToken, found, skipped, starts]
  | case3 point rest plain ih =>
      have noToken : ¬ (point = .scalar ':' ∧
          leadingWord ((segments rest).flatMap (piecesOf names)) ≠ []) := by
        rwa [leadingWord_pieces]
      have same : tokenNames (point :: rest) = tokenNames rest := by
        unfold tokenNames
        rw [segments, if_neg plain]
        rfl
      rw [same, ← ih, segments, if_neg plain, List.flatMap_cons, piecesOf, List.singleton_append,
        tokenUses, if_neg noToken]

theorem filterMap_keptName? (names tokens : List Text) :
    (tokens.map (TokenUse.ofToken names)).filterMap TokenUse.keptName? =
      tokens.filter (· ∉ names) := by
  induction tokens with
  | nil => rfl
  | cons name tokens ih =>
      rw [List.map_cons, List.filterMap_cons, List.filter_cons, ih]
      by_cases known : name ∈ names <;> simp [TokenUse.ofToken, TokenUse.keptName?, known]

/-- The line that fetches, and what is read of it behind the opening parenthesis. -/
theorem fetch_line (api : HttpInterface) :
    ∃ closing, (ClientFunction.ofInterface api).call.head? =
        some ("  const response = await fetch(" ++ (ClientFunction.ofInterface api).target ++ closing) ∧
      readLiteral ((ClientFunction.ofInterface api).target ++ closing) =
        some ((segments api.path).flatMap (piecesOf api.paramNames), closing) := by
  by_cases options : (ClientFunction.ofInterface api).hasOptions = true
  · refine ⟨", \x7b", ?_, readLiteral_targetOf_append api _⟩
    simp [ClientFunction.call, options]
  · refine ⟨");", ?_, readLiteral_targetOf_append api _⟩
    simp [ClientFunction.call, options]

end Source

open Source

/-- **The check of a path tells what the client leaves in it.** The literal that is fetched is read to its
end. Its tokens are those of the path, one for one: the ones that the check lists stand there as text,
in the same order and as often, and the others are exactly the names that are interpolated. So nothing is
listed exactly if no token is left in the literal. -/
theorem path_check_agrees (api : HttpInterface) :
    ∃ pieces closing,
      (ClientFunction.ofInterface api).call.head? =
        some ("  const response = await fetch(" ++ (ClientFunction.ofInterface api).target ++ closing) ∧
      readLiteral ((ClientFunction.ofInterface api).target ++ closing) = some (pieces, closing) ∧
      tokenUses pieces = (PathTemplate.ofPath api.path).names.map (fun name =>
        if name ∈ api.unmatchedTokens then .kept name else .filled name) ∧
      keptTokens pieces = api.unmatchedTokens ∧
      pieces.filterMap Piece.name? =
        (PathTemplate.ofPath api.path).names.filter (· ∉ api.unmatchedTokens) ∧
      (api.unmatchedTokens = [] ↔ ∀ name, .kept name ∉ tokenUses pieces) := by
  obtain ⟨closing, line, read⟩ := fetch_line api
  have uses := tokenUses_pieces api.paramNames api.path
  have interpolated := filterMap_name?_pieces api.paramNames (segments api.path)
  have sameTokens : (segments api.path).filterMap Segment.name? =
      (PathTemplate.ofPath api.path).names := tokenNames_eq_names api.path
  have listed : ∀ name ∈ (PathTemplate.ofPath api.path).names,
      (name ∈ api.unmatchedTokens ↔ name ∉ api.paramNames) := by
    intro name member
    simp [HttpInterface.unmatchedTokens, member]
  rw [tokenNames_eq_names] at uses
  have kept : keptTokens ((segments api.path).flatMap (piecesOf api.paramNames)) =
      api.unmatchedTokens := by
    rw [keptTokens, uses, filterMap_keptName?]
    rfl
  refine ⟨_, closing, line, read, ?_, kept, ?_, ?_⟩
  · rw [uses]
    apply List.map_congr_left
    intro name member
    by_cases known : name ∈ api.paramNames <;> simp [TokenUse.ofToken, listed name member, known]
  · rw [interpolated, sameTokens]
    apply List.filter_congr
    intro name member
    simp [listed name member]
  · rw [← kept, keptTokens, List.filterMap_eq_nil_iff]
    constructor
    · intro nothing name use
      exact nomatch nothing _ use
    · intro nothing use member
      cases use with
      | kept name => exact (nothing name member).elim
      | filled name => rfl

end TypedEndpoints
