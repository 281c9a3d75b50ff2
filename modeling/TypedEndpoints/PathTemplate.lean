import TypedEndpoints.Text.Word
/-!
Path templates. A token is a colon and the longest run of word characters after it, at least one; the
run is the name of the parameter that fills the token. A path is cut into the text in front of the
first token and, for each token, its name and the text up to the next one. A colon in front of anything
else is plain text.

* `PathTemplate.text_ofPath`: nothing is lost by the cut.
-/
set_option autoImplicit false
namespace TypedEndpoints

structure PathTemplate where
  /-- The text in front of the first token. -/
  head : Text
  /-- The name of each token, with the text that follows it. -/
  tokens : List (Text × Text)
  deriving DecidableEq

namespace PathTemplate

def startsWithWord : Text → Bool
  | [] => false
  | point :: _ => point.isWord

/-- Puts a code point in front: a colon takes the word that follows it for a name. -/
def cons (point : CodePoint) (template : PathTemplate) : PathTemplate :=
  if point = .scalar ':' ∧ startsWithWord template.head then
    ⟨[], (template.head.takeWhile CodePoint.isWord, template.head.dropWhile CodePoint.isWord) ::
      template.tokens⟩
  else ⟨point :: template.head, template.tokens⟩

/-- The tokens of a path and the text around them. -/
def ofPath : Text → PathTemplate
  | [] => ⟨[], []⟩
  | point :: rest => cons point (ofPath rest)

/-- The names of the tokens in order, repetitions kept. -/
def names (template : PathTemplate) : List Text := template.tokens.map (·.1)

/-- The path that a template is cut from. -/
def text (template : PathTemplate) : Text :=
  template.head ++ template.tokens.flatMap fun (name, tail) => .scalar ':' :: (name ++ tail)

theorem text_cons (point : CodePoint) (template : PathTemplate) :
    (cons point template).text = point :: template.text := by
  unfold cons
  split
  · next token =>
    simp only [text, List.flatMap_cons, List.nil_append, List.cons_append, token.1]
    rw [List.takeWhile_append_dropWhile]
  · rfl

theorem text_ofPath (path : Text) : (ofPath path).text = path := by
  induction path with
  | nil => rfl
  | cons point rest ih => rw [ofPath, text_cons, ih]

end PathTemplate
end TypedEndpoints
