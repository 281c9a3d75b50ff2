import Mathlib.Data.List.Basic
import TypedEndpoints.Text.Basic
/-!
Reading a text from the left. A reader takes a value off the front of a text and leaves the rest; it reads
back what was written if that holds whatever follows, or whatever may follow there.

* `behind?_append`: a fixed beginning is taken off;
* `takeRun_append`: a run of code points is taken as far as it goes;
* `readMany_append`: values written one after the other are read one after the other.
-/
set_option autoImplicit false
namespace TypedEndpoints.Text

/-- Takes a value off the front of a text. -/
abbrev Reader (α : Type) := Text → Option (α × Text)

/-- What follows a fixed beginning, if the text has it. -/
def behind? (front text : Text) : Option Text := front.isPrefixOf? text

@[simp] theorem behind?_append (front rest : Text) : behind? front (front ++ rest) = some rest :=
  List.isPrefixOf?_eq_some_iff_append_eq.mpr rfl

/-- Takes the longest run of such code points. -/
def takeRun (p : CodePoint → Bool) (text : Text) : Text × Text := (text.takeWhile p, text.dropWhile p)

/-- A run is taken up to the first code point that does not belong to it. -/
theorem takeRun_append {p : CodePoint → Bool} {run rest : Text}
    (all : ∀ point ∈ run, p point = true) (stop : ∀ point ∈ rest.head?, p point = false) :
    takeRun p (run ++ rest) = (run, rest) := by
  have nothing : rest.takeWhile p = [] ∧ rest.dropWhile p = rest := by
    cases rest with
    | nil => exact ⟨rfl, rfl⟩
    | cons point after =>
        have out := stop point rfl
        simp [out]
  rw [takeRun, List.takeWhile_append_of_pos all, List.dropWhile_append_of_pos all, nothing.1,
    nothing.2, List.append_nil]

section Many

variable {α β : Type}

/-- Reads one value after the other, as long as there is one that takes something. -/
def readMany (read : Reader α) (text : Text) : List α × Text :=
  match read text with
  | none => ([], text)
  | some (value, rest) =>
    if rest.length < text.length then
      let (values, left) := readMany read rest
      (value :: values, left)
    else ([], text)
termination_by text.length

variable {read : Reader α} {write : β → Text} {view : β → α}

/-- Values that are written one after the other are read back, up to where nothing more can be read. What
a value is written as may follow another one. -/
theorem readMany_append (MayFollow : Text → Prop) {items : List β} {last : Text}
    (reads : ∀ item ∈ items, ∀ rest, MayFollow rest →
      read (write item ++ rest) = some (view item, rest))
    (takes : ∀ item ∈ items, write item ≠ [])
    (follows : ∀ item ∈ items, ∀ rest, MayFollow (write item ++ rest))
    (ends : MayFollow last) (done : read last = none) :
    readMany read (items.flatMap write ++ last) = (items.map view, last) := by
  induction items with
  | nil =>
      rw [List.flatMap_nil, List.nil_append, readMany, done]
      rfl
  | cons item items ih =>
      have others := ih (fun item member => reads item (List.mem_cons_of_mem _ member))
        (fun item member => takes item (List.mem_cons_of_mem _ member))
        (fun item member => follows item (List.mem_cons_of_mem _ member))
      have next : MayFollow (items.flatMap write ++ last) := by
        cases items with
        | nil => exact ends
        | cons second items =>
            rw [List.flatMap_cons, List.append_assoc]
            exact follows second (by simp) _
      have first := reads item List.mem_cons_self _ next
      have shorter : (items.flatMap write ++ last).length <
          (write item ++ (items.flatMap write ++ last)).length := by
        have positive := List.length_pos_iff.mpr (takes item List.mem_cons_self)
        simp only [List.length_append]
        omega
      rw [List.flatMap_cons, List.append_assoc, readMany, first]
      simp only [if_pos shorter, others, List.map_cons]

end Many

end TypedEndpoints.Text
