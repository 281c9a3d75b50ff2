import TypedEndpoints.Log
/-!
Which runs succeed. A run succeeds if it ends with a value, whatever it reports; a chain of runs
succeeds if every one of them does, and a list of entries is read exactly if each of them is. The log of
a chain that succeeded is that of its runs, one after the other.
-/
set_option autoImplicit false
namespace TypedEndpoints

variable {ε α β : Type}

/-- A list is read exactly if each of its entries is. -/
theorem mapM_ok_iff (read : α → Except ε β) (items : List α) :
    (∃ values, items.mapM read = .ok values) ↔ ∀ item ∈ items, ∃ value, read item = .ok value := by
  induction items with
  | nil => exact ⟨fun _ _ member => (List.not_mem_nil member).elim, fun _ => ⟨[], rfl⟩⟩
  | cons item items ih =>
      rw [List.mapM_cons, List.forall_mem_cons, ← ih]
      constructor
      · rintro ⟨values, whole⟩
        cases first : read item with
        | error error => rw [first] at whole; cases whole
        | ok value =>
            rw [first] at whole
            cases others : items.mapM read with
            | error error => rw [others] at whole; cases whole
            | ok rest => exact ⟨⟨value, rfl⟩, rest, rfl⟩
      · rintro ⟨⟨value, first⟩, rest, others⟩
        exact ⟨value :: rest, by rw [first, others]; rfl⟩

namespace Traced

/-- The run ends with a value. -/
def Succeeds (run : Traced ε α) : Prop := ∃ value, run.outcome = .ok value

theorem succeeds_pure (value : α) : (pure value : Traced ε α).Succeeds := ⟨value, rfl⟩

@[simp] theorem not_succeeds_fail (error : ε) : ¬ (fail error : Traced ε α).Succeeds :=
  fun ⟨_, ended⟩ => nomatch ended

theorem succeeds_ofExcept (outcome : Except ε α) :
    (ofExcept outcome).Succeeds ↔ ∃ value, outcome = .ok value := Iff.rfl

/-- A chain of two runs succeeds if the second one does on the value of the first. -/
theorem succeeds_bind (run : Traced ε α) (next : α → Traced ε β) :
    (run >>= next).Succeeds ↔ ∃ value, run.outcome = .ok value ∧ (next value).Succeeds := by
  obtain ⟨log, _ | value⟩ := run
  · exact ⟨fun ⟨_, ended⟩ => (nomatch ended), fun ⟨_, ended, _⟩ => (nomatch ended)⟩
  · rw [bind_ok]
    exact ⟨fun last => ⟨value, rfl, last⟩, fun ⟨_, ended, last⟩ => by cases ended; exact last⟩

variable {p q : Prop}

/-- Where the second run succeeds or not whatever the value, the two conditions stand side by side. -/
theorem succeeds_bind_of_const {run : Traced ε α} {next : α → Traced ε β}
    (first : run.Succeeds ↔ p) (rest : ∀ value, (next value).Succeeds ↔ q) :
    (run >>= next).Succeeds ↔ p ∧ q := by
  rw [succeeds_bind, ← first]
  constructor
  · rintro ⟨value, ended, last⟩
    exact ⟨⟨value, ended⟩, (rest value).mp last⟩
  · rintro ⟨⟨value, ended⟩, holds⟩
    exact ⟨value, ended, (rest value).mpr holds⟩

/-- The same for a step that reports nothing. -/
theorem succeeds_lift_bind_of_const {outcome : Except ε α} {next : α → Traced ε β}
    (first : (∃ value, outcome = .ok value) ↔ p) (rest : ∀ value, (next value).Succeeds ↔ q) :
    ((outcome : Traced ε α) >>= next).Succeeds ↔ p ∧ q :=
  succeeds_bind_of_const ((succeeds_ofExcept outcome).trans first) rest

theorem succeeds_bind_pure {run : Traced ε α} {change : α → β} (first : run.Succeeds ↔ p) :
    (run >>= fun value => pure (change value)).Succeeds ↔ p := by
  rw [succeeds_bind_of_const first fun _ => iff_true_intro (succeeds_pure _), and_true]

theorem succeeds_lift_bind_pure {outcome : Except ε α} {change : α → β}
    (first : (∃ value, outcome = .ok value) ↔ p) :
    ((outcome : Traced ε α) >>= fun value => pure (change value)).Succeeds ↔ p :=
  succeeds_bind_pure ((succeeds_ofExcept outcome).trans first)

theorem succeeds_map (change : α → β) (run : Traced ε α) :
    (change <$> run).Succeeds ↔ run.Succeeds := by
  rw [map_eq_pure_bind]
  exact succeeds_bind_pure Iff.rfl

theorem succeeds_mapM (read : α → Traced ε β) (items : List α) :
    (items.mapM read).Succeeds ↔ ∀ item ∈ items, (read item).Succeeds := by
  induction items with
  | nil => exact ⟨fun _ _ member => (List.not_mem_nil member).elim, fun _ => ⟨[], rfl⟩⟩
  | cons item items ih =>
      rw [List.mapM_cons, List.forall_mem_cons]
      exact succeeds_bind_of_const Iff.rfl fun value => succeeds_bind_pure ih

/-! ## The parts of a run that succeeded -/

variable {log : List Record} {last : β}

theorem bind_eq_ok_iff (run : Traced ε α) (next : α → Traced ε β) :
    run >>= next = ⟨log, .ok last⟩ ↔ ∃ first value rest,
      run = ⟨first, .ok value⟩ ∧ next value = ⟨rest, .ok last⟩ ∧ log = first ++ rest := by
  obtain ⟨first, _ | value⟩ := run
  · rw [bind_error]
    simp
  · rw [bind_ok]
    constructor
    · intro whole
      obtain ⟨sameLog, sameEnd⟩ := Traced.mk.inj whole
      exact ⟨first, value, (next value).log, rfl, by rw [← sameEnd], sameLog.symm⟩
    · rintro ⟨_, _, rest, same, ran, rfl⟩
      cases same
      rw [ran]

/-- The same for a step that reports nothing. -/
theorem lift_bind_eq_ok_iff (outcome : Except ε α) (next : α → Traced ε β) :
    (outcome : Traced ε α) >>= next = ⟨log, .ok last⟩ ↔
      ∃ value, outcome = .ok value ∧ next value = ⟨log, .ok last⟩ := by
  refine (bind_eq_ok_iff (ofExcept outcome) next).trans ?_
  constructor
  · rintro ⟨_, value, rest, ended, ran, rfl⟩
    cases ended
    exact ⟨value, rfl, ran⟩
  · rintro ⟨value, rfl, ran⟩
    exact ⟨[], value, log, rfl, ran, rfl⟩

theorem pure_eq_ok_iff (value : β) :
    (pure value : Traced ε β) = ⟨log, .ok last⟩ ↔ log = [] ∧ value = last := by
  rw [pure_def]
  simp [eq_comm]

theorem ofExcept_eq_ok_iff (outcome : Except ε β) :
    ofExcept outcome = ⟨log, .ok last⟩ ↔ log = [] ∧ outcome = .ok last := by
  simp [ofExcept, eq_comm]

theorem fail_ne_ok (error : ε) : (fail error : Traced ε β) ≠ ⟨log, .ok last⟩ := by
  simp [fail]

/-! ## Lists, up to the first fault -/

/-- A step that reports nothing, and the rest. -/
theorem lift_ok_bind {outcome : Except ε α} {value : α} (next : α → Traced ε β)
    (ended : outcome = .ok value) : (outcome : Traced ε α) >>= next = next value := by
  subst ended
  rfl

/-- A run that ends with a value, told with its parts. -/
theorem Succeeds.eq_ok {run : Traced ε α} (succeeds : run.Succeeds) :
    ∃ value, run = ⟨run.log, .ok value⟩ := by
  obtain ⟨value, ended⟩ := succeeds
  exact ⟨value, by rw [← ended]⟩

/-- Of entries that are all read, the reports stand in their order. -/
theorem mapM_of_succeeds (read : α → Traced ε β) {items : List α}
    (wellFormed : ∀ item ∈ items, (read item).Succeeds) :
    ∃ values, items.mapM read = ⟨items.flatMap fun item => (read item).log, .ok values⟩ := by
  induction items with
  | nil => exact ⟨[], rfl⟩
  | cons item items ih =>
      rw [List.forall_mem_cons] at wellFormed
      obtain ⟨value, head⟩ := wellFormed.1.eq_ok
      obtain ⟨values, tail⟩ := ih wellFormed.2
      refine ⟨value :: values, ?_⟩
      rw [List.mapM_cons, head, bind_ok, tail, bind_ok]
      simp [pure_def]

/-- The first entry that is not read ends the reading; those behind it are not asked. -/
theorem mapM_first_fault (read : α → Traced ε β) {front : List α} {faulty : α} {error : ε}
    (later : List α) (wellFormed : ∀ item ∈ front, (read item).Succeeds)
    (fault : (read faulty).outcome = .error error) :
    (front ++ faulty :: later).mapM read =
      ⟨(front.flatMap fun item => (read item).log) ++ (read faulty).log, .error error⟩ := by
  have ended : read faulty = ⟨(read faulty).log, .error error⟩ := by rw [← fault]
  obtain ⟨values, before⟩ := mapM_of_succeeds read wellFormed
  rw [List.mapM_append, before, bind_ok, List.mapM_cons, ended, bind_error, bind_error]

end Traced
end TypedEndpoints
