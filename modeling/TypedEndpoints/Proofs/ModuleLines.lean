import Mathlib.Data.List.Forall2
import TypedEndpoints.Source.Bundle
/-!
The emitted modules as lists of lines. What the emitters write block by block is, line by line, what
stands between the opening of a module and its end.

* `declarationsModule_eq_lines`, `serverModule_eq_lines`, `clientModule_eq_lines`: each module as the
  lines of its entries in order;
* `hasLine_lines`: a line in such a list is a line of the text;
* `flatMap_eq_of_forall₂`: entries with the same blocks make the same text.
-/
set_option autoImplicit false
namespace TypedEndpoints.Source

/-- The text has this line: it begins where another line ends, or where the text begins, and ends with a
line feed. -/
def HasLine (text content : Text) : Prop :=
  ∃ above below, text = lines above ++ (line content ++ below)

theorem hasLine_lines {texts : List Text} {content : Text} (member : content ∈ texts) :
    HasLine (lines texts) content := by
  obtain ⟨above, below, rfl⟩ := List.append_of_mem member
  exact ⟨above, lines below, by rw [lines_append, lines_cons]⟩

/-- Lines of entries, entry by entry. -/
theorem lines_flatMap {α : Type} (entries : List α) (linesOf : α → List Text) :
    (entries.flatMap fun entry => lines (linesOf entry)) = lines (entries.flatMap linesOf) := by
  unfold lines
  rw [List.flatMap_assoc]

/-- Entries with the same blocks, one for one, make the same text. -/
theorem flatMap_eq_of_forall₂ {α : Type} {block : α → Text} {first second : List α}
    (same : List.Forall₂ (fun entry entry' => block entry = block entry') first second) :
    first.flatMap block = second.flatMap block := by
  induction same with
  | nil => rfl
  | cons here _ ih => rw [List.flatMap_cons, List.flatMap_cons, here, ih]

/-- The lines of a client function and the empty line after it. -/
def ClientFunction.lines (function : ClientFunction) : List Text :=
  function.signature :: (function.call ++ function.answer ++ (["\x7d", ""] : List Text))

/-- The lines of a registration and the empty line after it. -/
def Route.lines (route : Route) : List Text :=
  route.opening :: (route.handler ++ (["  \x7d);", ""] : List Text))

theorem declarationsModule_eq_lines (dataTypes : List DataType) :
    declarationsModule dataTypes = lines ((["// Auto-generated type declarations", ""] : List Text) ++
      dataTypes.flatMap fun dataType =>
        (Declaration.ofDataType dataType).lines ++ ([""] : List Text)) := by
  rw [lines_append, ← lines_flatMap]
  rfl

theorem clientModule_eq_lines (interfaces : List HttpInterface) (typeNames : List Text) :
    clientModule interfaces typeNames =
      lines ((["// Auto-generated client API"] : List Text) ++ importLines typeNames ++
        ([""] : List Text) ++
        interfaces.flatMap fun api => (ClientFunction.ofInterface api).lines) := by
  rw [lines_append, ← lines_flatMap]
  rfl

theorem serverModule_eq_lines (interfaces : List HttpInterface) (typeNames : List Text) :
    serverModule interfaces typeNames =
      lines ((["// Auto-generated server API stubs",
          "import express, \x7b Request, Response \x7d from 'express';"] : List Text) ++
        importLines typeNames ++
        (["", "export function setupRoutes(app: express.Application) \x7b"] : List Text) ++
        (interfaces.flatMap fun api => (Route.ofInterface api).lines) ++ (["\x7d"] : List Text)) := by
  rw [lines_append, lines_append, ← lines_flatMap]
  rfl

end TypedEndpoints.Source
