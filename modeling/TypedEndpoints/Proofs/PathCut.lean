import TypedEndpoints.Proofs.PathTokens
import TypedEndpoints.Source.Literal
/-!
There is one way to cut a path. A cut is told by what its parts are, without a scan: the names are runs of
word characters that cannot be longer, and no token is left in the text between them. Every path has one
cut, and it is the template that the path is read as.

* `TokenFree`, `PathTemplate.Cuts`: what a cut is;
* `cuts_ofPath`, `ofPath_eq_of_cuts`: the template of a path is a cut of it, and there is no other;
* `templateEscaped_append`: escaping part by part is escaping the whole, unless a `${` is cut in two;
* `path_cut_unique`: the cut, the names in it and the text with these names filled in.
-/
set_option autoImplicit false
namespace TypedEndpoints

open PathTemplate

/-! ## What a cut is -/

/-- No token begins in the text: behind a colon there is no word character. -/
def TokenFree (text : Text) : Prop :=
  ∀ point, [.scalar ':', point] <:+: text → point.isWord = false

/-- The parts make up the path; every name is a whole word, and no token is left between them. -/
structure PathTemplate.Cuts (template : PathTemplate) (path : Text) : Prop where
  whole : template.text = path
  words : ∀ token ∈ template.tokens, WholeWord token.1 token.2
  head : TokenFree template.head
  tails : ∀ token ∈ template.tokens, TokenFree token.2

theorem tokenFree_nil : TokenFree [] := by
  intro point inside
  simp at inside

theorem TokenFree.of_infix {text part : Text} (free : TokenFree text) (inside : part <:+: text) :
    TokenFree part :=
  fun point colon => free point (colon.trans inside)

theorem tokenFree_cons (point : CodePoint) (text : Text) :
    TokenFree (point :: text) ↔
      ¬ (point = .scalar ':' ∧ startsWithWord text = true) ∧ TokenFree text := by
  constructor
  · intro free
    refine ⟨?_, free.of_infix (List.suffix_cons point text).isInfix⟩
    rintro ⟨rfl, starts⟩
    cases text with
    | nil => cases starts
    | cons next rest =>
        have none := free next (List.prefix_append [.scalar ':', next] rest).isInfix
        rw [startsWithWord, none] at starts
        cases starts
  · rintro ⟨plain, free⟩ next inside
    rcases List.infix_cons_iff.mp inside with atStart | later
    · obtain ⟨rfl, first⟩ := List.cons_prefix_cons.mp atStart
      obtain ⟨rest, rfl⟩ := first
      exact Bool.eq_false_iff.mpr fun word => plain ⟨rfl, word⟩
    · exact free next later

/-! ## The template of a path is its only cut -/

theorem cuts_ofPath (path : Text) : (ofPath path).Cuts path := by
  induction path with
  | nil => exact ⟨rfl, by simp [ofPath], tokenFree_nil, by simp [ofPath]⟩
  | cons point rest ih =>
      refine ⟨text_ofPath _, ?_, ?_, ?_⟩ <;> rw [ofPath, cons]
      all_goals split
      · next token =>
        have whole := wholeWord_takeWhile ((startsWithWord_takeWhile _).mp token.2)
        exact List.forall_mem_cons.mpr ⟨whole, ih.words⟩
      · exact ih.words
      · exact tokenFree_nil
      · next plain => exact (tokenFree_cons _ _).mpr ⟨plain, ih.head⟩
      · exact List.forall_mem_cons.mpr
          ⟨ih.head.of_infix (List.dropWhile_suffix _).isInfix, ih.tails⟩
      · exact ih.tails

/-- Text without a token joins the text in front of the first token of what follows. -/
theorem ofPath_tokenFree_append {text rest : Text} (free : TokenFree text)
    (ends : startsWithWord rest = false) :
    ofPath (text ++ rest) = ⟨text ++ (ofPath rest).head, (ofPath rest).tokens⟩ := by
  induction text with
  | nil => rfl
  | cons point text ih =>
      obtain ⟨plain, others⟩ := (tokenFree_cons point text).mp free
      have plain' : ¬ (point = .scalar ':' ∧ startsWithWord (text ++ rest) = true) := by
        rintro ⟨colon, starts⟩
        cases text with
        | nil =>
            rw [List.nil_append, ends] at starts
            cases starts
        | cons next text => exact plain ⟨colon, starts⟩
      rw [List.cons_append, ofPath_plain plain', ih others]
      rfl

/-- The text of a token and what follows it, up to the next token. -/
def tokensText (tokens : List (Text × Text)) : Text :=
  tokens.flatMap fun (name, tail) => .scalar ':' :: (name ++ tail)

/-- Tokens begin with a colon. -/
theorem startsWithWord_tokensText (tokens : List (Text × Text)) :
    startsWithWord (tokensText tokens) = false := by
  cases tokens <;> simp [tokensText, startsWithWord]

theorem startsWithWord_append_tokensText {tail : Text} (tokens : List (Text × Text))
    (ends : startsWithWord tail = false) : startsWithWord (tail ++ tokensText tokens) = false := by
  cases tail with
  | nil => exact startsWithWord_tokensText tokens
  | cons point tail => exact ends

theorem ofPath_append_tokensText {head : Text} {tokens : List (Text × Text)} (free : TokenFree head)
    (words : ∀ token ∈ tokens, WholeWord token.1 token.2)
    (tails : ∀ token ∈ tokens, TokenFree token.2) :
    ofPath (head ++ tokensText tokens) = ⟨head, tokens⟩ := by
  induction tokens generalizing head with
  | nil =>
      have alone := ofPath_tokenFree_append free (show startsWithWord [] = false from rfl)
      simpa [tokensText, ofPath] using alone
  | cons token tokens ih =>
      obtain ⟨name, tail⟩ := token
      rw [List.forall_mem_cons] at words tails
      have token : ofPath (tokensText ((name, tail) :: tokens)) = ⟨[], (name, tail) :: tokens⟩ := by
        have whole : WholeWord name (tail ++ tokensText tokens) :=
          ⟨words.1.nonempty, words.1.word, startsWithWord_append_tokensText tokens words.1.ends⟩
        have cut := ofPath_token whole
        rw [ih tails.1 words.2 tails.2, ← List.append_assoc] at cut
        exact cut
      rw [ofPath_tokenFree_append free (startsWithWord_tokensText _), token, List.append_nil]

theorem ofPath_eq_of_cuts {template : PathTemplate} {path : Text} (cuts : template.Cuts path) :
    template = ofPath path := by
  rw [← cuts.whole]
  exact (ofPath_append_tokensText cuts.head cuts.words cuts.tails).symm

/-! ## Escaping part by part -/

namespace Source

/-- Escaping part by part is escaping the whole, unless the cut goes through a dollar sign and its
brace. -/
theorem templateEscaped_append {front rest : Text} (apart : Apart front rest) :
    templateEscaped (front ++ rest) = templateEscaped front ++ templateEscaped rest := by
  induction front with
  | nil => rfl
  | cons point front ih =>
      -- the brace behind a dollar sign is on the same side of the cut
      have brace : point = .scalar '$' →
          ((front ++ rest).head? = some (.scalar '{') ↔ front.head? = some (.scalar '{')) := by
        rintro rfl
        cases front with
        | nil => simpa [Apart] using apart
        | cons next front => rfl
      rw [List.cons_append, templateEscaped_cons, templateEscaped_cons, ih apart.tail]
      simp only [and_congr_right brace]
      split <;> rfl

/-- A word is not changed by escaping. -/
theorem templateEscaped_word {name : Text} (word : ∀ point ∈ name, point.isWord = true) :
    templateEscaped name = name := by
  induction name with
  | nil => rfl
  | cons point name ih =>
      have isWord : point.isWord = true := word point List.mem_cons_self
      rw [templateEscaped_cons, if_neg, ih fun other member => word other (List.mem_cons_of_mem _ member)]
      rintro (rfl | rfl | ⟨rfl, -⟩)
      all_goals exact absurd isWord (by decide)

/-- Nor is a token. -/
theorem templateEscaped_token {name : Text} (word : ∀ point ∈ name, point.isWord = true) :
    templateEscaped (.scalar ':' :: name) = .scalar ':' :: name := by
  rw [templateEscaped_cons, templateEscaped_word word, if_neg (by simp)]

theorem substituteToken_eq {name : Text} (names : List Text)
    (word : ∀ point ∈ name, point.isWord = true) :
    substituteToken names name =
      if name ∈ names then "$\x7b" ++ name ++ "\x7d" else ":" ++ name := by
  unfold substituteToken
  rw [templateEscaped_token word]
  simp only [List.contains_iff_mem]
  rfl

/-- A text with tokens behind it is escaped around the tokens. -/
theorem templateEscaped_append_tokensText (head : Text) {tokens : List (Text × Text)}
    (words : ∀ token ∈ tokens, ∀ point ∈ token.1, point.isWord = true) :
    templateEscaped (head ++ tokensText tokens) =
      templateEscaped head ++ tokens.flatMap fun (name, tail) =>
        .scalar ':' :: (name ++ templateEscaped tail) := by
  induction tokens generalizing head with
  | nil => simp [tokensText]
  | cons token tokens ih =>
      obtain ⟨name, tail⟩ := token
      rw [List.forall_mem_cons] at words
      have parts : tokensText ((name, tail) :: tokens) =
          (.scalar ':' :: name) ++ (tail ++ tokensText tokens) := by
        simp [tokensText]
      rw [parts, templateEscaped_append (.inr (by simp)),
        templateEscaped_append (apart_token words.1 _), templateEscaped_token words.1, ih tail words.2]
      simp

/-- Filling in known names escapes the path part by part, and leaves any other token as it is. -/
theorem substitute_eq (path : Text) (names : List Text) :
    substitute path names =
      templateEscaped (ofPath path).head ++ (ofPath path).tokens.flatMap (fun (name, tail) =>
        (if name ∈ names then "$\x7b" ++ name ++ "\x7d" else ":" ++ name) ++ templateEscaped tail) := by
  refine congrArg (templateEscaped (ofPath path).head ++ ·) ?_
  refine List.flatMap_congr fun (name, tail) member => ?_
  have word := ((cuts_ofPath path).words (name, tail) member).word
  exact congrArg (· ++ templateEscaped tail) (substituteToken_eq names word)

/-- Where no name is known nothing is filled in. -/
theorem substitute_of_unknown {path : Text} {names : List Text}
    (unknown : ∀ token ∈ (ofPath path).tokens, token.1 ∉ names) :
    substitute path names = templateEscaped path := by
  have escaped := templateEscaped_append_tokensText (ofPath path).head fun token member =>
    ((cuts_ofPath path).words token member).word
  rw [show (ofPath path).head ++ tokensText (ofPath path).tokens = path from text_ofPath path] at escaped
  rw [substitute_eq, escaped]
  refine congrArg (templateEscaped (ofPath path).head ++ ·) ?_
  refine List.flatMap_congr fun (name, tail) member => ?_
  exact congrArg (· ++ templateEscaped tail) (if_neg (unknown (name, tail) member))

end Source

open Source

/-- **A path is cut in one way.** There is exactly one way to write a path as plain text and tokens. The
names of the tokens are those of its parts; filling in known names escapes the text part by part and
leaves a token of any other name as it is. If no name is known, that is the escaped path. -/
theorem path_cut_unique (path : Text) :
    ∃ template : PathTemplate, template.Cuts path ∧
      (∀ other : PathTemplate, other.Cuts path → other = template) ∧
      (ofPath path).names = template.tokens.map (·.1) ∧
      ∀ names : List Text,
        substitute path names =
          templateEscaped template.head ++ template.tokens.flatMap (fun (name, tail) =>
            (if name ∈ names then "$\x7b" ++ name ++ "\x7d" else ":" ++ name) ++
              templateEscaped tail) ∧
        ((∀ token ∈ template.tokens, token.1 ∉ names) →
          substitute path names = templateEscaped path) :=
  ⟨ofPath path, cuts_ofPath path, fun _ => ofPath_eq_of_cuts, rfl, fun names =>
    ⟨substitute_eq path names, substitute_of_unknown⟩⟩

-- A second colon, and a colon at the end, are plain text.
example : (⟨"/a:", [("id", "/"), ("x_1", ":")]⟩ : PathTemplate).Cuts "/a::id/:x_1:" := by
  have cut : ofPath "/a::id/:x_1:" = ⟨"/a:", [("id", "/"), ("x_1", ":")]⟩ := by decide
  rw [← cut]
  exact cuts_ofPath _

end TypedEndpoints
