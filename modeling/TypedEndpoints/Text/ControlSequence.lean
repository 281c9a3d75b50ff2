import TypedEndpoints.Text.Basic
/-!
Control sequences of a terminal: the escape character, an opening bracket, any parameters, any
intermediates, and one final character. What is shown to somebody leaves them out, so that a name in a
message moves no cursor and sets no colour. A sequence without its final character is ordinary text.

* `mem_withoutControlSequences_iff`: halves of surrogate pairs are in no control sequence, and stay.
-/
set_option autoImplicit false
namespace TypedEndpoints
namespace ControlSequence

def escape : CodePoint := .scalar '\x1b'

def isParameter (point : CodePoint) : Bool := 0x30 ≤ point.value && point.value ≤ 0x3F
def isIntermediate (point : CodePoint) : Bool := 0x20 ≤ point.value && point.value ≤ 0x2F
def isFinal (point : CodePoint) : Bool := 0x40 ≤ point.value && point.value ≤ 0x7E

/-- The size of the control sequence that a text begins with; nought if it begins with none. -/
def sizeAtStart : Text → Nat
  | first :: .scalar '[' :: body =>
    let parameters := body.takeWhile isParameter
    let behind := body.dropWhile isParameter
    let intermediates := behind.takeWhile isIntermediate
    match behind.dropWhile isIntermediate with
    | final :: _ =>
      if first = escape ∧ isFinal final then parameters.length + intermediates.length + 3 else 0
    | [] => 0
  | _ => 0

/-- Leaves out so many code points, and after them every control sequence. -/
def without : Nat → Text → Text
  | _, [] => []
  | skipped + 1, _ :: rest => without skipped rest
  | 0, point :: rest =>
    match sizeAtStart (point :: rest) with
    | 0 => point :: without 0 rest
    | size + 1 => without size rest

/-- No half of a surrogate pair is in a control sequence: all it is made of is below U+007F. -/
theorem not_mem_take_of_isSurrogate {half : CodePoint} (isHalf : half.isSurrogate = true)
    (text : Text) : half ∉ text.take (sizeAtStart text) := by
  have large : 0x7F ≤ half.value := by
    cases half with
    | scalar c => cases isHalf
    | surrogate offset =>
        simp only [CodePoint.value]
        omega
  have outside {parts : List CodePoint} {kind : CodePoint → Bool}
      (low : ∀ point, kind point = true → point.value < 0x7F) :
      half ∉ parts.takeWhile kind := fun member =>
    absurd (low _ (List.all_eq_true.mp List.all_takeWhile _ member)) (Nat.not_lt.mpr large)
  unfold sizeAtStart
  split
  · next first body =>
    dsimp only
    split
    · next final rest behind =>
      split
      · next whole =>
        obtain ⟨rfl, isFinal⟩ := whole
        have cut : body = (body.takeWhile isParameter ++
            ((body.dropWhile isParameter).takeWhile isIntermediate ++ [final])) ++ rest := by
          rw [List.append_assoc, List.append_assoc, List.singleton_append, ← behind,
            List.takeWhile_append_dropWhile, List.takeWhile_append_dropWhile]
        have taken := (congrArg (List.take ((body.takeWhile isParameter).length +
          ((body.dropWhile isParameter).takeWhile isIntermediate).length + 1)) cut).trans
            (List.take_left' (by simp only [List.length_append, List.length_singleton]; omega))
        rw [List.take_succ_cons, List.take_succ_cons, taken]
        simp only [List.mem_cons, List.mem_append, List.not_mem_nil, or_false, not_or]
        refine ⟨?_, ?_, outside ?_, outside ?_, ?_⟩
        · rintro rfl
          cases isHalf
        · rintro rfl
          cases isHalf
        · simp only [isParameter, Bool.and_eq_true, decide_eq_true_eq]
          omega
        · simp only [isIntermediate, Bool.and_eq_true, decide_eq_true_eq]
          omega
        · rintro rfl
          simp only [ControlSequence.isFinal, Bool.and_eq_true, decide_eq_true_eq] at isFinal
          omega
      · simp
    · simp
  · simp

/-- So none is left out. -/
theorem mem_without_iff {half : CodePoint} (isHalf : half.isSurrogate = true) (skipped : Nat)
    (text : Text) (passed : half ∉ text.take skipped) : half ∈ without skipped text ↔ half ∈ text := by
  fun_induction without skipped text with
  | case1 => rfl
  | case2 skipped point rest ih =>
      rw [List.take_succ_cons, List.mem_cons, not_or] at passed
      rw [ih passed.2, List.mem_cons, or_iff_right passed.1]
  | case3 point rest none ih => rw [List.mem_cons, List.mem_cons, ih (by simp)]
  | case4 point rest size found ih =>
      have inside := not_mem_take_of_isSurrogate isHalf (point :: rest)
      rw [found, List.take_succ_cons, List.mem_cons, not_or] at inside
      rw [ih inside.2, List.mem_cons, or_iff_right inside.1]

end ControlSequence

/-- A text without the control sequences in it. -/
def Text.withoutControlSequences (text : Text) : Text := ControlSequence.without 0 text

theorem mem_withoutControlSequences_iff {half : CodePoint} (isHalf : half.isSurrogate = true)
    (text : Text) : half ∈ text.withoutControlSequences ↔ half ∈ text :=
  ControlSequence.mem_without_iff isHalf 0 text (by simp)

end TypedEndpoints
