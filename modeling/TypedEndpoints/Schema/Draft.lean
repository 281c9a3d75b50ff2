import TypedEndpoints.Schema.Basic
import TypedEndpoints.Json.Shown
/-!
Drafts. Where a reference or a data type is expected, a draft may hold a foreign document value
instead. A draft can be settled exactly if it holds none; otherwise the foreign value is told, and of
several data types that are foreign the first.

* `TypeRef.Draft.settle_eq_error_iff`, `exists_settle_eq_ok_iff`: when a reference is settled, and what is
  told otherwise;
* `DataType.Draft.settleAll_eq_ok_iff`, `settleAll_eq_error_iff`: so for data types.
-/
set_option autoImplicit false
namespace TypedEndpoints

/-- A document value that stands where something else is expected. -/
inductive Misplaced where
  | notReference (raw : Json)
  | notDataType (raw : Json)

def Misplaced.message : Misplaced → Text
  | notReference raw => "Not a type reference: " ++ raw.shown
  | notDataType raw => "Not a data type: " ++ raw.shown

inductive TypeRef.Draft where
  | settled (reference : TypeRef)
  | array (item : TypeRef.Draft)
  | foreign (raw : Json)

def TypeRef.Draft.settle : TypeRef.Draft → Except Misplaced TypeRef
  | settled reference => .ok reference
  | array item => item.settle.map .array
  | foreign raw => .error (.notReference raw)

namespace TypeRef.Draft

/-- The foreign value at the core of the arrays, if it is one. -/
def foreign? : TypeRef.Draft → Option Json
  | settled _ => none
  | array item => item.foreign?
  | foreign raw => some raw

/-- **A reference fails to settle exactly if a foreign value is at its core, and that value is told.** -/
theorem settle_eq_error_iff (draft : TypeRef.Draft) (misplaced : Misplaced) :
    draft.settle = .error misplaced ↔
      ∃ raw, draft.foreign? = some raw ∧ misplaced = .notReference raw := by
  induction draft with
  | settled reference => simp [settle, foreign?]
  | array item ih =>
      rw [foreign?, ← ih, settle]
      cases item.settle <;> simp [Except.map]
  | foreign raw => simp [settle, foreign?, eq_comm]

theorem exists_settle_eq_ok_iff (draft : TypeRef.Draft) :
    (∃ reference, draft.settle = .ok reference) ↔ draft.foreign? = none := by
  have failed := draft.settle_eq_error_iff
  cases settled : draft.settle with
  | ok reference =>
      refine iff_of_true ⟨reference, rfl⟩ (Option.eq_none_iff_forall_ne_some.mpr fun raw core => ?_)
      cases settled.symm.trans ((failed _).mpr ⟨raw, core, rfl⟩)
  | error misplaced =>
      obtain ⟨raw, core, -⟩ := (failed misplaced).mp settled
      simp [core]

end TypeRef.Draft

inductive DataType.Draft where
  | settled (dataType : DataType)
  | foreign (raw : Json)

def DataType.Draft.settle : DataType.Draft → Except Misplaced DataType
  | settled dataType => .ok dataType
  | foreign raw => .error (.notDataType raw)

/-- The data types of a list of drafts, unless one is foreign; the first of those is told. -/
def DataType.Draft.settleAll : List DataType.Draft → Except Misplaced (List DataType)
  | [] => .ok []
  | draft :: rest => do
    let dataType ← draft.settle
    let others ← settleAll rest
    return dataType :: others

namespace DataType.Draft

theorem settleAll_cons_settled (dataType : DataType) (rest : List DataType.Draft) :
    settleAll (.settled dataType :: rest) = (settleAll rest).map (dataType :: ·) := by
  show (settleAll rest).bind _ = _
  cases settleAll rest <;> rfl

theorem settleAll_eq_ok_iff (drafts : List DataType.Draft) (dataTypes : List DataType) :
    settleAll drafts = .ok dataTypes ↔ drafts = dataTypes.map .settled := by
  induction drafts generalizing dataTypes with
  | nil => simp [settleAll, eq_comm]
  | cons draft rest ih =>
      cases draft with
      | foreign raw =>
          refine iff_of_false (fun settled => nomatch settled) fun same => ?_
          cases dataTypes <;> cases same
      | settled dataType =>
          rw [settleAll_cons_settled]
          cases dataTypes with
          | nil => cases settleAll rest <;> simp [Except.map]
          | cons first others =>
              rw [List.map_cons, List.cons.injEq, ← ih, DataType.Draft.settled.injEq]
              cases settleAll rest <;> simp [Except.map]

/-- **Of the data types that are foreign the first is told.** -/
theorem settleAll_eq_error_iff (drafts : List DataType.Draft) (misplaced : Misplaced) :
    settleAll drafts = .error misplaced ↔ ∃ (known : List DataType) (raw : Json) (rest : _),
      drafts = known.map .settled ++ .foreign raw :: rest ∧ misplaced = .notDataType raw := by
  induction drafts with
  | nil => simp [settleAll]
  | cons draft rest ih =>
      cases draft with
      | foreign raw =>
          constructor
          · intro told
            cases told
            exact ⟨[], raw, rest, rfl, rfl⟩
          · rintro ⟨known, raw', rest', same, rfl⟩
            cases known <;> cases same
            rfl
      | settled dataType =>
          have later : settleAll (.settled dataType :: rest) = .error misplaced ↔
              settleAll rest = .error misplaced := by
            rw [settleAll_cons_settled]
            cases settleAll rest <;> simp [Except.map]
          rw [later, ih]
          constructor
          · rintro ⟨known, raw, others, rfl, told⟩
            exact ⟨dataType :: known, raw, others, rfl, told⟩
          · rintro ⟨known, raw, others, same, told⟩
            cases known <;> cases same
            exact ⟨_, raw, others, rfl, told⟩

end DataType.Draft
end TypedEndpoints
