import TypedEndpoints.Text.Basic
/-!
Lines. A file may end its lines by CR LF, by CR or by LF; what is read from it has LF only. A place in
a text is told by its line and column, both from one, and by its offset from zero.
-/
set_option autoImplicit false
namespace TypedEndpoints

/-- Every CR LF, and every CR that no LF follows, becomes one LF. -/
def Text.withLineFeeds : Text → Text
  | [] => []
  | .scalar '\r' :: .scalar '\n' :: rest => .scalar '\n' :: withLineFeeds rest
  | .scalar '\r' :: rest => .scalar '\n' :: withLineFeeds rest
  | point :: rest => point :: withLineFeeds rest

/-- A place between two code points of a text. -/
structure Text.Mark where
  line : Nat
  column : Nat
  offset : Nat
  deriving DecidableEq

/-- The place after so many code points. -/
def Text.mark (text : Text) (offset : Nat) : Text.Mark :=
  let before := text.take offset
  { line := before.count (.scalar '\n') + 1
    column := (before.reverse.takeWhile (· != .scalar '\n')).length + 1
    offset := offset }

end TypedEndpoints
