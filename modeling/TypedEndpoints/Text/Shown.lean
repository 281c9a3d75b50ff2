import TypedEndpoints.Text.Printable
/-!
The form of a text inside a message: between quotes, with the quote, backslashes and whatever is not
printable escaped. The quote is the apostrophe, unless the text holds an apostrophe and no double
quote; then nothing but the double quote itself would need an escape, and the double quote is used.
-/
set_option autoImplicit false
namespace TypedEndpoints

/-- The quote around a text in a message. -/
def Text.quoteFor (text : Text) : Char :=
  if text.contains (.scalar '\'') && !text.contains (.scalar '"') then '"' else '\''

/-- A code point between quotes in a message. -/
def CodePoint.shown (quote : Char) (point : CodePoint) : Text :=
  if point = .scalar '\\' then "\\\\"
  else if point = .scalar quote then [.scalar '\\', point]
  else if point = .scalar '\n' then "\\n"
  else if point = .scalar '\r' then "\\r"
  else if point = .scalar '\t' then "\\t"
  else if point.isPrintable then [point]
  else if point.value < 0x100 then "\\x" ++ Text.hex 2 point.value
  else if point.value < 0x10000 then "\\u" ++ Text.hex 4 point.value
  else "\\U" ++ Text.hex 8 point.value

/-- A text in a message. -/
def Text.shown (text : Text) : Text :=
  let quote := text.quoteFor
  .scalar quote :: (text.flatMap (CodePoint.shown quote) ++ [.scalar quote])

end TypedEndpoints
