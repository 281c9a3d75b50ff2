import Mathlib.Data.List.TakeWhile
import TypedEndpoints.PathTemplate
import TypedEndpoints.Proofs.TextReading
/-!
The tokens of a path, read from the left. `segments` takes a path apart one code point at a time, a
colon with the longest word after it as one token; `PathTemplate.ofPath` cuts the same path from the
right. The two agree:

* `ofPath_token`: a colon and a whole word in front of other text are one token of the template;
* `segments_eq_ofPath`: the segments of a path are those of its template;
* `tokenNames_eq_names`: so are the names of the tokens, in order.
-/
set_option autoImplicit false
namespace TypedEndpoints

/-- What a path is made of. -/
inductive Segment where
  | plain (point : CodePoint)
  | token (name : Text)
  deriving DecidableEq

/-- Takes a path apart from the left: a colon and the longest word after it, if there is one, are a
token, and any other code point is plain text. -/
def segments (path : Text) : List Segment :=
  match path with
  | [] => []
  | point :: rest =>
    if point = .scalar ':' ∧ rest.takeWhile CodePoint.isWord ≠ [] then
      .token (rest.takeWhile CodePoint.isWord) :: segments (rest.dropWhile CodePoint.isWord)
    else .plain point :: segments rest
termination_by path.length
decreasing_by
  · have shorter := (List.dropWhile_suffix (l := rest) CodePoint.isWord).length_le
    simp only [List.length_cons]
    omega
  · simp

def Segment.name? : Segment → Option Text
  | plain _ => none
  | token name => some name

/-- The names of the tokens of a path, in order, repetitions kept. -/
def tokenNames (path : Text) : List Text := (segments path).filterMap Segment.name?

namespace PathTemplate

/-- A word that cannot be longer: at least one word character, and none behind it. -/
structure WholeWord (name rest : Text) : Prop where
  nonempty : name ≠ []
  word : ∀ point ∈ name, point.isWord = true
  ends : startsWithWord rest = false

theorem startsWithWord_takeWhile (rest : Text) :
    startsWithWord rest = true ↔ rest.takeWhile CodePoint.isWord ≠ [] := by
  cases rest with
  | nil => simp [startsWithWord]
  | cons point rest => by_cases word : point.isWord <;> simp [startsWithWord, word]

theorem startsWithWord_dropWhile (rest : Text) :
    startsWithWord (rest.dropWhile CodePoint.isWord) = false := by
  induction rest with
  | nil => rfl
  | cons point rest ih =>
      by_cases word : point.isWord = true
      · simpa [word] using ih
      · simp [startsWithWord, word]

/-- The longest word in front of a text is whole. -/
theorem wholeWord_takeWhile {rest : Text} (starts : rest.takeWhile CodePoint.isWord ≠ []) :
    WholeWord (rest.takeWhile CodePoint.isWord) (rest.dropWhile CodePoint.isWord) where
  nonempty := starts
  word := fun _ member => List.mem_takeWhile_imp member
  ends := startsWithWord_dropWhile rest

/-- Cutting a text puts nothing in front of it. -/
theorem startsWithWord_ofPath_head (path : Text) (plain : startsWithWord path = false) :
    startsWithWord (ofPath path).head = false := by
  cases path with
  | nil => rfl
  | cons point rest =>
      rw [ofPath, cons]
      split
      · rfl
      · exact plain

/-- A word in front of a text joins the text in front of its first token. -/
theorem ofPath_word_append (name rest : Text) (word : ∀ point ∈ name, point.isWord = true) :
    ofPath (name ++ rest) = ⟨name ++ (ofPath rest).head, (ofPath rest).tokens⟩ := by
  induction name with
  | nil => rfl
  | cons point name ih =>
      have wordPoint : point.isWord = true := word point (by simp)
      have notColon : point ≠ .scalar ':' := by
        rintro rfl
        simp at wordPoint
      rw [List.cons_append, ofPath, ih fun point member => word point (by simp [member])]
      simp [cons, notColon]

theorem takeWhile_wholeWord {name rest : Text} (whole : WholeWord name rest) :
    (name ++ rest).takeWhile CodePoint.isWord = name ∧
      (name ++ rest).dropWhile CodePoint.isWord = rest := by
  have stop : ∀ point ∈ rest.head?, point.isWord = false := by
    cases rest with
    | nil => simp
    | cons point rest =>
        rintro _ ⟨rfl⟩
        exact whole.ends
  exact Prod.mk.inj (Text.takeRun_append whole.word stop)

/-- A colon and a whole word in front of a text are a token. -/
theorem ofPath_token {name rest : Text} (whole : WholeWord name rest) :
    ofPath (.scalar ':' :: (name ++ rest)) =
      ⟨[], (name, (ofPath rest).head) :: (ofPath rest).tokens⟩ := by
  have wholeHead : WholeWord name (ofPath rest).head :=
    ⟨whole.nonempty, whole.word, startsWithWord_ofPath_head rest whole.ends⟩
  obtain ⟨taken, dropped⟩ := takeWhile_wholeWord wholeHead
  have starts : startsWithWord (name ++ (ofPath rest).head) = true := by
    rw [startsWithWord_takeWhile, taken]
    exact whole.nonempty
  rw [ofPath, ofPath_word_append name rest whole.word, cons, if_pos ⟨rfl, starts⟩, taken, dropped]

/-- Any other code point in front of a text is plain. -/
theorem ofPath_plain {point : CodePoint} {rest : Text}
    (plain : ¬ (point = .scalar ':' ∧ startsWithWord rest = true)) :
    ofPath (point :: rest) = ⟨point :: (ofPath rest).head, (ofPath rest).tokens⟩ := by
  rw [ofPath, cons, if_neg]
  rintro ⟨colon, starts⟩
  refine plain ⟨colon, ?_⟩
  cases word : startsWithWord rest with
  | true => rfl
  | false => rw [startsWithWord_ofPath_head rest word] at starts; exact starts

/-- The name of a token is a word, with nothing but word characters in it. -/
theorem isWord_of_mem_tokens (path : Text) {name tail : Text}
    (member : (name, tail) ∈ (ofPath path).tokens) : ∀ point ∈ name, point.isWord = true := by
  induction path with
  | nil => cases member
  | cons point rest ih =>
      rw [ofPath, cons] at member
      split at member
      · rcases List.mem_cons.mp member with first | later
        · obtain ⟨rfl, rfl⟩ := Prod.mk.inj first
          exact fun _ inside => List.mem_takeWhile_imp inside
        · exact ih later
      · exact ih member

/-- The segments of a template. -/
def segments (template : PathTemplate) : List Segment :=
  template.head.map .plain ++ template.tokens.flatMap fun (name, tail) =>
    .token name :: tail.map .plain

end PathTemplate

open PathTemplate

/-- Cutting from the left and from the right comes to the same. -/
theorem segments_eq_ofPath (path : Text) : segments path = (ofPath path).segments := by
  induction path using segments.induct with
  | case1 => simp [segments, ofPath, PathTemplate.segments]
  | case2 point rest token ih =>
      obtain ⟨rfl, starts⟩ := token
      have whole := wholeWord_takeWhile starts
      have cut := ofPath_token whole
      rw [List.takeWhile_append_dropWhile] at cut
      rw [segments, if_pos ⟨rfl, starts⟩, ih, cut]
      simp [PathTemplate.segments]
  | case3 point rest plain ih =>
      have plainHead : ¬ (point = .scalar ':' ∧ startsWithWord rest = true) := by
        rwa [startsWithWord_takeWhile]
      rw [segments, if_neg plain, ih, ofPath_plain plainHead]
      simp [PathTemplate.segments]

theorem filterMap_name?_plain (text : Text) :
    (text.map Segment.plain).filterMap Segment.name? = [] := by
  induction text with
  | nil => rfl
  | cons point rest ih => exact ih

theorem tokenNames_eq_names (path : Text) : tokenNames path = (ofPath path).names := by
  unfold tokenNames names
  rw [segments_eq_ofPath, PathTemplate.segments, List.filterMap_append, filterMap_name?_plain,
    List.nil_append]
  induction (ofPath path).tokens with
  | nil => rfl
  | cons token rest ih =>
      obtain ⟨name, tail⟩ := token
      rw [List.flatMap_cons, List.filterMap_append, ih, List.map_cons,
        List.filterMap_cons_some (show (Segment.token name).name? = some name from rfl),
        filterMap_name?_plain]
      rfl

end TypedEndpoints
