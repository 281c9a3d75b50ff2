import TypedEndpoints.Text.Basic
/-!
Lines of the emitted sources. Every line ends with a line feed, the last one too. A module that uses
declared types imports all of them in one line, which is left out if there are none.
-/
set_option autoImplicit false
namespace TypedEndpoints.Source

/-- One line of source text. -/
def line (text : Text) : Text := text ++ "\n"

/-- Lines one below the other. -/
def lines (texts : List Text) : Text := texts.flatMap line

/-- The line that imports the declared types. -/
def importLines (typeNames : List Text) : List Text :=
  if typeNames.isEmpty then []
  else ["import \x7b " ++ Text.join ", " typeNames ++ " \x7d from './types';"]

theorem lines_append (first second : List Text) :
    lines (first ++ second) = lines first ++ lines second := List.flatMap_append

@[simp] theorem lines_nil : lines [] = [] := rfl

@[simp] theorem lines_cons (first : Text) (rest : List Text) :
    lines (first :: rest) = line first ++ lines rest := rfl

end TypedEndpoints.Source
