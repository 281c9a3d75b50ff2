import TypedEndpoints.Text.Basic
/-!
How alike two words are. The longest run of characters that both hold is matched first, of equally long
runs the one that begins first in the left word, and of those the one that begins first in the right
word. Then what stands before it in both words is matched in the same way, and what stands behind it. Two
words are alike if at least three fifths of all their characters are matched.

* `Similarity.longestRun_left_lt`: a shared run begins inside the word, so that what is left to match on
  either side of it is shorter.
-/
set_option autoImplicit false
namespace TypedEndpoints.Similarity

/-- How far two words agree from their start. -/
def agreement : Text → Text → Nat
  | first :: left, second :: right => if first = second then agreement left right + 1 else 0
  | _, _ => 0

/-- A run of characters in two words: where it begins in each, and its length. -/
structure SharedRun where
  left : Nat
  right : Nat
  length : Nat

/-- The longer of two runs, and the first of two that are equally long. -/
def SharedRun.longer (one other : SharedRun) : SharedRun :=
  if one.length < other.length then other else one

/-- The runs that two words share, one for every pair of places. -/
def sharedRuns (left right : Text) : List SharedRun :=
  (List.range left.length).flatMap fun i =>
    (List.range right.length).map fun j => ⟨i, j, agreement (left.drop i) (right.drop j)⟩

/-- The longest run that two words share; of no length if they share none. -/
def longestRun (left right : Text) : SharedRun :=
  (sharedRuns left right).foldl SharedRun.longer ⟨0, 0, 0⟩

private theorem foldl_longer_mem (runs : List SharedRun) (start : SharedRun) :
    runs.foldl SharedRun.longer start ∈ start :: runs := by
  induction runs generalizing start with
  | nil => simp
  | cons run rest ih =>
      have picked : start.longer run = start ∨ start.longer run = run := by
        unfold SharedRun.longer; split <;> simp
      have := ih (start.longer run)
      rcases picked with same | same <;> rw [List.foldl_cons, same] <;> rw [same] at this <;> grind

theorem longestRun_left_lt {left right : Text} (shared : 0 < (longestRun left right).length) :
    (longestRun left right).left < left.length := by
  have found := foldl_longer_mem (sharedRuns left right) ⟨0, 0, 0⟩
  change longestRun left right ∈ _ at found
  rcases List.mem_cons.mp found with none | found
  · rw [none] at shared; exact absurd shared (Nat.lt_irrefl 0)
  · simp only [sharedRuns, List.mem_flatMap, List.mem_map, List.mem_range] at found
    obtain ⟨i, inside, j, -, same⟩ := found
    rw [← same]; exact inside

/-- The number of characters of one word that are matched with characters of the other. -/
def matched (left right : Text) : Nat :=
  let run := longestRun left right
  if 0 < run.length then
    matched (left.take run.left) (right.take run.right) + run.length +
      matched (left.drop (run.left + run.length)) (right.drop (run.right + run.length))
  else 0
termination_by left.length
decreasing_by all_goals
  rename 0 < run.length => shared
  have shared : 0 < (longestRun left right).length := shared
  have inside := longestRun_left_lt shared
  simp only [List.length_take, List.length_drop]
  omega

/-- The characters of two words together. -/
def bothSizes (left right : Text) : Nat := left.length + right.length

/-- Are two words alike? Words of very different lengths are not, whatever they hold. -/
def alike (left right : Text) : Bool :=
  3 * bothSizes left right ≤ 10 * min left.length right.length &&
    3 * bothSizes left right ≤ 10 * matched left right

/-- Is one word at least as close to a third as the other is? -/
def atLeastAsClose (word one other : Text) : Bool :=
  matched other word * bothSizes one word ≤
    matched one word * bothSizes other word

/-- Of the candidates that a word is like, the three that are closest to it, in the order of the
candidates. Of two that are equally close the later one counts as closer. -/
def closest (candidates : List Text) (word : Text) : List Text :=
  let near := candidates.reverse.filter (alike · word)
  let best := (near.mergeSort (atLeastAsClose word)).take 3
  candidates.filter best.contains

end TypedEndpoints.Similarity
