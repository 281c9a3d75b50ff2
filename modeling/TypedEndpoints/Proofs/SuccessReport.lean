import TypedEndpoints.CommandLine.Run
import TypedEndpoints.Proofs.OutputWriting
/-!
What a run says when it has written its files. It tells a line for each file and one for them all, and
every line names the directory. Where the text of the directory holds half of a surrogate pair, the first
line cannot be told already; otherwise all are told.

* `half_mem_text_child_iff`: an entry's path holds the halves that the path of the directory holds;
* `tell_of_plain`, `tell_of_half`: lines that can be told, and a first line that cannot;
* `success_ends`: how the run ends, with all lines told or with none.
-/
set_option autoImplicit false
namespace TypedEndpoints

open Files

/-! ## Halves of surrogate pairs in a path -/

section Halves

variable {half : CodePoint} (isHalf : half.isSurrogate = true)
include isHalf

theorem half_notMem_chars (chars : List Char) : half ∉ (chars.map .scalar : Text) := by
  intro member
  obtain ⟨c, -, rfl⟩ := List.mem_map.mp member
  cases isHalf

theorem half_mem_join_iff (separator : String) (parts : List Text) :
    half ∈ Text.join separator parts ↔ ∃ part ∈ parts, half ∈ part := by
  induction parts with
  | nil => simp
  | cons first rest ih =>
      cases rest with
      | nil => simp
      | cons second rest =>
          have outside : half ∉ Text.ofString separator := half_notMem_chars isHalf _
          rw [Text.join_cons_cons, List.mem_append, List.mem_append, or_iff_right outside, ih]
          simp

/-- The halves in a path are those in the names of its steps. -/
theorem half_mem_text_iff (path : Path) :
    half ∈ path.text ↔ ∃ name, .down name ∈ path.steps ∧ half ∈ name := by
  have steps : half ∈ Text.join "/" (path.steps.reverse.map Step.text) ↔
      ∃ name, .down name ∈ path.steps ∧ half ∈ name := by
    rw [half_mem_join_iff isHalf "/"]
    constructor
    · rintro ⟨part, member, inside⟩
      obtain ⟨step, known, rfl⟩ := List.mem_map.mp member
      cases step with
      | up => exact (half_notMem_chars isHalf _ inside).elim
      | down name => exact ⟨name, List.mem_reverse.mp known, inside⟩
    · rintro ⟨name, known, inside⟩
      exact ⟨name, List.mem_map.mpr ⟨.down name, List.mem_reverse.mpr known, rfl⟩, inside⟩
  unfold Path.text
  split
  · next bare =>
    have dot : half ∉ Text.ofString "." := half_notMem_chars isHalf _
    rw [bare.2]
    simp [dot]
  · have anchor : half ∉ path.anchor.text := by
      cases path.anchor <;> simp [Anchor.text, Text.ofString] <;> rintro rfl <;> cases isHalf
    rw [List.mem_append, or_iff_right anchor, steps]

/-- A name of characters adds no half. -/
theorem half_mem_text_child_iff (path : Path) (name : String) :
    half ∈ (path.child name).text ↔ half ∈ path.text := by
  rw [half_mem_text_iff isHalf, half_mem_text_iff isHalf]
  have outside : half ∉ Text.ofString name := half_notMem_chars isHalf _
  constructor
  · rintro ⟨known, member, inside⟩
    rcases List.mem_cons.mp member with same | member
    · cases same
      exact (outside inside).elim
    · exact ⟨known, member, inside⟩
  · rintro ⟨known, member, inside⟩
    exact ⟨known, List.mem_cons_of_mem _ member, inside⟩

end Halves

namespace CommandLine

/-! ## Lines -/

/-- Lines without halves are all told. -/
theorem tell_of_plain {lines : List Text}
    (plain : ∀ line ∈ lines, ∀ point ∈ line, point.isSurrogate = false) : (tell lines).2 = none := by
  induction lines with
  | nil => rfl
  | cons line rest ih =>
      rw [List.forall_mem_cons] at plain
      have shown : ∀ point ∈ line.withoutControlSequences, point.isSurrogate = false := by
        intro point member
        refine Bool.eq_false_iff.mpr fun isHalf => ?_
        have half := plain.1 point ((mem_withoutControlSequences_iff isHalf line).mp member)
        exact Bool.false_ne_true (half.symm.trans isHalf)
      obtain ⟨octets, encoded⟩ := (Utf8.encode_eq_ok_iff _).mpr shown
      simp only [tell, encoded]
      exact ih plain.2

/-- A first line with half of a surrogate pair ends the telling, and nothing is told. -/
theorem tell_of_half {line : Text} {half : CodePoint} (isHalf : half.isSurrogate = true)
    (member : half ∈ line) (rest : List Text) : ∃ fault, tell (line :: rest) = ([], some fault) := by
  have shown := (mem_withoutControlSequences_iff isHalf line).mpr member
  cases encoded : Utf8.encode line.withoutControlSequences with
  | error fault => exact ⟨fault, by simp only [tell, encoded]⟩
  | ok octets =>
      have plain := (Utf8.encode_eq_ok_iff _).mp ⟨octets, encoded⟩ half shown
      exact (Bool.false_ne_true (plain.symm.trans isHalf)).elim

/-! ## The report -/

/-- The run ended with nothing told of the files it had written, because the text of the directory holds
half of a surrogate pair. -/
structure Untold (directory : Path) (report : Report) : Prop where
  half : ∃ point ∈ directory.text, point.isSurrogate = true
  nothing : report.output = []
  escaped : ∃ fault, report.escaped = some (.unencodable fault)

/-- Every line about the files has the halves of the directory and no others. -/
theorem half_mem_successLines_iff {half : CodePoint} (isHalf : half.isSurrogate = true)
    (directory : Path) (metadata : Metadata) {line : Text}
    (known : line ∈ successLines directory metadata (targetNames.map directory.child)) :
    half ∈ line ↔ half ∈ directory.text := by
  have characters : ∀ s : String, half ∉ Text.ofString s := fun s => half_notMem_chars isHalf _
  have number : ∀ n, half ∉ Text.ofNat n := fun n => half_notMem_chars isHalf _
  rcases List.mem_append.mp known with created | generated
  · obtain ⟨path, written, rfl⟩ := List.mem_map.mp created
    obtain ⟨name, -, rfl⟩ := List.mem_map.mp written
    simp only [List.mem_append, characters, half_mem_text_child_iff isHalf, false_or, or_false]
  · rw [List.mem_singleton] at generated
    subst generated
    simp only [List.mem_append, characters, number, false_or, or_false]

/-- **All lines are told, or none.** -/
theorem success_ends (settings : Settings) (log : List Record) (metadata : Metadata) :
    let report := Report.success settings log
      (successLines settings.output metadata (targetNames.map settings.output.child))
    report.exitCode = 0 ∧ (∀ point ∈ settings.output.text, point.isSurrogate = false) ∨
      report.exitCode = 1 ∧ Untold settings.output report := by
  obtain ⟨first, rest, lines⟩ : ∃ first rest,
      successLines settings.output metadata (targetNames.map settings.output.child) = first :: rest :=
    ⟨_, _, rfl⟩
  have halves {half : CodePoint} (isHalf : half.isSurrogate = true) {line : Text}
      (known : line ∈ first :: rest) : half ∈ line ↔ half ∈ settings.output.text := by
    rw [← lines] at known
    exact half_mem_successLines_iff isHalf settings.output metadata known
  dsimp only [Report.success]
  rw [lines]
  by_cases untold : ∃ half ∈ settings.output.text, half.isSurrogate = true
  · obtain ⟨half, member, isHalf⟩ := untold
    obtain ⟨fault, told⟩ := tell_of_half isHalf ((halves isHalf List.mem_cons_self).mpr member) rest
    rw [told]
    exact .inr ⟨rfl, ⟨half, member, isHalf⟩, rfl, fault, rfl⟩
  · have plain : ∀ point ∈ settings.output.text, point.isSurrogate = false := fun point member =>
      Bool.eq_false_iff.mpr fun isHalf => untold ⟨point, member, isHalf⟩
    have told : (tell (first :: rest)).2 = none := by
      apply tell_of_plain
      intro line known point member
      exact Bool.eq_false_iff.mpr fun isHalf => untold ⟨point, (halves isHalf known).mp member, isHalf⟩
    refine .inl ⟨?_, plain⟩
    split
    · rfl
    · next same =>
      rw [same] at told
      cases told

end CommandLine
end TypedEndpoints
