import TypedEndpoints.Source.Layout
import TypedEndpoints.Source.Literal
/-!
The module of server stubs: one function that registers a route per interface, in order. The handler of
a stream of events gets a fixed beginning; any other gets comments with what the interface says and an
empty answer.
-/
set_option autoImplicit false
namespace TypedEndpoints.Source

/-- What the registration of a route says. -/
structure Route where
  name : Text
  method : Text
  /-- The path as a literal. -/
  path : Text
  isSse : Bool
  /-- The comments in the handler. -/
  notes : List Text
  deriving DecidableEq

namespace Route

/-- A note that lists names, if there are any. -/
def listNote (title : Text) (names : List Text) : List Text :=
  if names.isEmpty then [] else [title ++ Text.join ", " names]

/-- A note that names a type, if there is one. -/
def typeNote (title : Text) (type : Option TypeRef) : List Text :=
  match type with
  | some type => [title ++ type.typeText]
  | none => []

/-- What an interface says about its parameters, body, response and headers. -/
def notesOf (api : HttpInterface) : List Text :=
  listNote "URL params: " api.paramNames ++ typeNote "Body type: " api.bodyType ++
    typeNote "Response type: " api.responseType ++ listNote "Headers: " api.headers

def ofInterface (api : HttpInterface) : Route where
  name := api.name
  method := api.method.routerFunction
  path := stringLiteral api.path
  isSse := api.isSse
  notes := if api.isSse then [] else notesOf api

/-- The lines inside a handler. -/
def handler (route : Route) : List Text :=
  if route.isSse then [
    "    res.setHeader('Content-Type', 'text/event-stream');",
    "    res.setHeader('Cache-Control', 'no-cache');",
    "    res.setHeader('Connection', 'keep-alive');",
    "    // TODO: Implement SSE logic",
    "    res.write('data: \x7b\x7d\\n\\n');"]
  else
    ("    // TODO: Implement " ++ route.name) ::
      (route.notes.map (fun note => ("    // " ++ note : Text)) ++
        (["    res.json(\x7b\x7d);"] : List Text))

/-- The line that opens a registration. -/
def opening (route : Route) : Text :=
  "  app." ++ route.method ++ "(" ++ route.path ++ ", async (req: Request, res: Response) => \x7b"

/-- A registration and the empty line after it. -/
def block (route : Route) : Text :=
  lines (route.opening :: (route.handler ++ (["  \x7d);", ""] : List Text)))

end Route

/-- Everything in front of the first route. -/
def serverOpening (typeNames : List Text) : Text :=
  lines ((["// Auto-generated server API stubs",
      "import express, \x7b Request, Response \x7d from 'express';"] : List Text) ++
    importLines typeNames ++
    (["", "export function setupRoutes(app: express.Application) \x7b"] : List Text))

/-- The text of the module of server stubs. -/
def serverModule (interfaces : List HttpInterface) (typeNames : List Text) : Text :=
  serverOpening typeNames ++ interfaces.flatMap (fun api => (Route.ofInterface api).block) ++
    lines ["\x7d"]

end TypedEndpoints.Source
