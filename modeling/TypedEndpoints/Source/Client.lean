import TypedEndpoints.Source.Layout
import TypedEndpoints.Source.Literal
/-!
The module of client functions: one function per interface, in order, each followed by an empty line.
A function fetches the path of its interface with the parameters filled in, sends the body if there is
one, and answers with the response itself for a stream of events, with the decoded response if it has a
type, and with nothing otherwise.
-/
set_option autoImplicit false
namespace TypedEndpoints.Source

/-- What a client function says. -/
structure ClientFunction where
  name : Text
  params : List Text
  returnType : Text
  /-- The literal that is fetched. -/
  target : Text
  /-- Does the call pass options, that is anything but a plain request for the path? -/
  hasOptions : Bool
  method : Text
  hasBody : Bool
  isSse : Bool
  hasResponse : Bool
  deriving DecidableEq

namespace ClientFunction

def returnTypeOf (api : HttpInterface) : Text :=
  if api.isSse then "Promise<Response>"
  else match api.responseType with
    | some type => "Promise<" ++ type.typeText ++ ">"
    | none => "Promise<void>"

/-- The fetched literal: parameters are filled in if there are any. -/
def targetOf (api : HttpInterface) : Text :=
  if api.urlParams.isEmpty then stringLiteral api.path
  else backtickLiteral (substitute api.path api.paramNames)

def paramsOf (api : HttpInterface) : List Text :=
  (api.urlParams.map fun param : Field => (param.name ++ ": " ++ param.type.typeText : Text)) ++
  (api.bodyType.toList.map fun type : TypeRef => ("body: " ++ type.typeText : Text))

def ofInterface (api : HttpInterface) : ClientFunction where
  name := api.name
  params := paramsOf api
  returnType := returnTypeOf api
  target := targetOf api
  hasOptions := api.method != .get || api.bodyType.isSome
  method := api.method.name
  hasBody := api.bodyType.isSome
  isSse := api.isSse
  hasResponse := api.responseType.isSome

/-- The options that send the body. -/
def bodyOptions (function : ClientFunction) : List Text :=
  if function.hasBody then
    ["    headers: \x7b 'Content-Type': 'application/json' \x7d,",
      "    body: JSON.stringify(body),"]
  else []

/-- The line that opens a function. -/
def signature (function : ClientFunction) : Text :=
  "export async function " ++ function.name ++ "(" ++ Text.join ", " function.params ++ "): " ++
    function.returnType ++ " \x7b"

/-- The lines of the call. -/
def call (function : ClientFunction) : List Text :=
  let opening : Text := "  const response = await fetch(" ++ function.target
  if function.hasOptions then
    ([opening ++ ", \x7b", "    method: '" ++ function.method ++ "',"] : List Text) ++
    function.bodyOptions ++ (["  \x7d);"] : List Text)
  else [opening ++ ");"]

/-- The lines that answer. -/
def answer (function : ClientFunction) : List Text :=
  if function.isSse then
    ["  // SSE handling - return response for streaming", "  return response;"]
  else if function.hasResponse then ["  return response.json();"]
  else ["  return;"]

/-- A function and the empty line after it. -/
def block (function : ClientFunction) : Text :=
  lines (function.signature :: (function.call ++ function.answer ++ (["\x7d", ""] : List Text)))

end ClientFunction

/-- Everything in front of the first function. -/
def clientOpening (typeNames : List Text) : Text :=
  lines ("// Auto-generated client API" :: (importLines typeNames ++ ([""] : List Text)))

/-- The text of the module of client functions. -/
def clientModule (interfaces : List HttpInterface) (typeNames : List Text) : Text :=
  clientOpening typeNames ++ interfaces.flatMap fun api => (ClientFunction.ofInterface api).block

end TypedEndpoints.Source
