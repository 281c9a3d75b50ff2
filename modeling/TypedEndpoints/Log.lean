import TypedEndpoints.Text.Basic
/-!
A run that keeps a log. `Traced ε α` is what a run reports in order and how it ends, with a value or
with an error; what was reported before an error is kept.

* `Traced` is a lawful monad: a step adds its records after those of the steps before it, and an error
  ends the run.
-/
set_option autoImplicit false
namespace TypedEndpoints

inductive Level where
  | debug
  | warning
  deriving DecidableEq

/-- Which part of the program reports. -/
inductive Channel where
  | documents
  | problems
  | outputs
  deriving DecidableEq

structure Record where
  level : Level
  channel : Channel
  message : Text
  deriving DecidableEq

def Level.name : Level → Text
  | debug => "DEBUG"
  | warning => "WARNING"

def Channel.name : Channel → Text
  | documents => "contractgen.loader"
  | problems => "contractgen.checks"
  | outputs => "contractgen.codegen"

/-- A record as one line of a log. -/
def Record.line (record : Record) : Text :=
  record.level.name ++ " " ++ record.channel.name ++ ": " ++ record.message

/-- What a run reported, and how it ended. -/
structure Traced (ε α : Type) where
  log : List Record
  outcome : Except ε α

namespace Traced

variable {ε α β : Type}

/-- Reports one record. -/
def report (record : Record) : Traced ε Unit := ⟨[record], .ok ()⟩

def fail (error : ε) : Traced ε α := ⟨[], .error error⟩

def ofExcept (outcome : Except ε α) : Traced ε α := ⟨[], outcome⟩

/-- Goes on with the value of a run, if it has one. -/
def andThen (run : Traced ε α) (next : α → Traced ε β) : Traced ε β :=
  match run.outcome with
  | .ok value => ⟨run.log ++ (next value).log, (next value).outcome⟩
  | .error error => ⟨run.log, .error error⟩

instance : Monad (Traced ε) where
  pure value := ⟨[], .ok value⟩
  bind := andThen

instance : MonadLift (Except ε) (Traced ε) := ⟨ofExcept⟩

/-- The same run with its error told in other terms. -/
def mapError {δ : Type} (change : ε → δ) (run : Traced ε α) : Traced δ α :=
  ⟨run.log, run.outcome.mapError change⟩

theorem pure_def (value : α) : (pure value : Traced ε α) = ⟨[], .ok value⟩ := rfl

theorem bind_ok {log : List Record} {value : α} (next : α → Traced ε β) :
    (⟨log, .ok value⟩ : Traced ε α) >>= next = ⟨log ++ (next value).log, (next value).outcome⟩ := rfl

theorem bind_error {log : List Record} {error : ε} (next : α → Traced ε β) :
    (⟨log, .error error⟩ : Traced ε α) >>= next = ⟨log, .error error⟩ := rfl

instance : LawfulMonad (Traced ε) :=
  LawfulMonad.mk' (Traced ε)
    (by
      rintro α ⟨log, _ | value⟩
      · rfl
      · simp [Functor.map, andThen])
    (by intro α β value next; simp [pure_def, bind_ok])
    (by
      rintro α β γ ⟨log, _ | value⟩ next last
      · rfl
      · rw [bind_ok, bind_ok]
        cases ended : (next value).outcome with
        | error error =>
          have whole : next value = ⟨(next value).log, .error error⟩ := by rw [← ended]
          rw [whole]; rfl
        | ok value' =>
          have whole : next value = ⟨(next value).log, .ok value'⟩ := by rw [← ended]
          rw [whole, bind_ok, bind_ok]; simp [List.append_assoc])

end Traced
end TypedEndpoints
