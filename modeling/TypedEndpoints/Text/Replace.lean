import TypedEndpoints.Text.Basic
/-!
Replacing what occurs in a text, from the left; occurrences that overlap an earlier one do not count.

* `Text.replace_single`: for a single code point the replacement looks at one code point at a time.
* `Text.replace_pair`: for two code points it looks at a code point and the one after it.
-/
set_option autoImplicit false
namespace TypedEndpoints.Text

/-- Replaces what occurs in the text after the first `skip` code points, which belong to an occurrence
that is replaced already. -/
def replaceFrom (old new : Text) : Nat → Text → Text
  | _, [] => []
  | skip + 1, _ :: rest => replaceFrom old new skip rest
  | 0, point :: rest =>
    if old.isPrefixOf (point :: rest) then new ++ replaceFrom old new (old.length - 1) rest
    else point :: replaceFrom old new 0 rest

/-- Replaces every occurrence of a text that is not empty. -/
def replace (text old new : Text) : Text := replaceFrom old new 0 text

@[simp] theorem replace_nil (old new : Text) : replace [] old new = [] := rfl

theorem replace_single (old : CodePoint) (new text : Text) :
    text.replace [old] new = text.flatMap fun point => if point = old then new else [point] := by
  induction text with
  | nil => rfl
  | cons point rest ih =>
      unfold replace at ih ⊢
      by_cases same : point = old
      · subst same
        simp [replaceFrom, ih]
      · have differs : ¬ old = point := fun same' => same same'.symm
        simp [replaceFrom, ih, same, differs]

theorem replace_pair (first second point : CodePoint) (new rest : Text) :
    replace (point :: rest) [first, second] new =
      if point = first ∧ rest.head? = some second then new ++ replace rest.tail [first, second] new
      else point :: replace rest [first, second] new := by
  unfold replace
  cases rest with
  | nil => simp [replaceFrom]
  | cons next rest =>
      by_cases occurs : point = first ∧ next = second
      · obtain ⟨rfl, rfl⟩ := occurs
        simp [replaceFrom]
      · have absent : ¬ (first = point ∧ second = next) := fun both => occurs ⟨both.1.symm, both.2.symm⟩
        simp [replaceFrom, occurs, absent]

end TypedEndpoints.Text
