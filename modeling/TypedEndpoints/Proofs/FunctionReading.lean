import TypedEndpoints.Proofs.EntryBlocks
import TypedEndpoints.Proofs.PathCheck
/-!
Client functions, read back. A function is its signature and what stands between its braces. That is read
from the text, whatever the path holds: the pieces of the target, the options of the call as they are
written, and what is returned.

* `readBody_append`: what is between the braces of a function is read back, whatever follows the function;
* `Replies`: how an interface is answered, the promise in the signature and the statement together;
* `client_function_agrees`: the block of an interface in the module of the client, its signature, and what is
  read from it: nothing is interpolated but parameters, and the body is sent exactly if it is a parameter.
-/
set_option autoImplicit false
namespace TypedEndpoints.Source

open Text

/-! ## What a function does -/

/-- What a client function returns. -/
inductive Answer where
  | response
  | decoded
  | nothing
  deriving DecidableEq

def Answer.all : List Answer := [response, decoded, nothing]

def Answer.statement : Answer → Text
  | response => "  return response;"
  | decoded => "  return response.json();"
  | nothing => "  return;"

/-- The options of a call: the method, and which of the lines for a body there are. -/
structure CallOptions where
  method : HttpMethod
  headers : Bool
  body : Bool
  deriving DecidableEq

/-- What stands between the braces of a client function. -/
structure FunctionBody where
  target : List Piece
  options : Option CallOptions
  answer : Answer
  deriving DecidableEq

/-! ## The reader -/

/-- Takes a line off the front of a text, if it is the first one. -/
def takeLine (content text : Text) : Bool × Text :=
  match behind? (line content) text with
  | some rest => (true, rest)
  | none => (false, text)

/-- Reads the line of the method. -/
def readMethod (text : Text) : Option (HttpMethod × Text) := do
  let rest ← behind? "    method: '" text
  let (name, rest) := takeRun (· != .scalar '\'') rest
  let method ← HttpMethod.ofName? name
  let rest ← behind? "',\n" rest
  return (method, rest)

/-- Reads the end of a call behind its target, with the options if there are any. -/
def readOptions (text : Text) : Option (Option CallOptions × Text) :=
  -- A call without options ends right behind its target; every other one has a method.
  match behind? ");\n" text with
  | some rest => some (none, rest)
  | none => do
    let rest ← behind? ", \x7b\n" text
    let (method, rest) ← readMethod rest
    let (headers, rest) := takeLine "    headers: \x7b 'Content-Type': 'application/json' \x7d," rest
    let (body, rest) := takeLine "    body: JSON.stringify(body)," rest
    let rest ← behind? "  \x7d);\n" rest
    return (some ⟨method, headers, body⟩, rest)

/-- Reads the statement that returns, with a comment in front of it. -/
def readAnswer (text : Text) : Option (Answer × Text) :=
  let (_, rest) := takeLine "  // SSE handling - return response for streaming" text
  Answer.all.findSome? fun answer => (behind? (line answer.statement) rest).map (answer, ·)

/-- Reads what stands between the braces of a function, and the end of its block. -/
def readBody (text : Text) : Option (FunctionBody × Text) := do
  let rest ← behind? "  const response = await fetch(" text
  let (target, rest) ← readLiteral rest
  let (options, rest) ← readOptions rest
  let (answer, rest) ← readAnswer rest
  let rest ← behind? "\x7d\n\n" rest
  return (⟨target, options, answer⟩, rest)

/-! ## Each part is read back -/

theorem takeLine_append (content rest : Text) : takeLine content (line content ++ rest) = (true, rest) := by
  simp [takeLine]

theorem readMethod_append (method : HttpMethod) (rest : Text) :
    readMethod ("    method: '" ++ (method.name ++ ("',\n" ++ rest : Text))) = some (method, rest) := by
  have nameRead : takeRun (· != .scalar '\'') (method.name ++ ("',\n" ++ rest : Text)) =
      (method.name, "',\n" ++ rest) := by
    apply takeRun_append
    · cases method <;> decide
    · rintro _ ⟨rfl⟩
      decide
  simp only [readMethod, behind?_append, nameRead, HttpMethod.ofName?_name, Option.bind_eq_bind,
    Option.bind_some]
  rfl

namespace ClientFunction

/-- How a call ends behind its target. -/
def callEnd (function : ClientFunction) : Text :=
  if function.hasOptions then
    ", \x7b\n" ++ ("    method: '" ++ (function.method ++ ("',\n" ++
      (Source.lines function.bodyOptions ++ "  \x7d);\n"))))
  else ");\n"

theorem lines_call (function : ClientFunction) :
    Source.lines function.call = "  const response = await fetch(" ++ (function.target ++ function.callEnd) := by
  simp only [call, callEnd]
  by_cases options : function.hasOptions = true
  · simp [options, lines_append, line]
    rfl
  · simp [options, line]
    rfl

end ClientFunction

/-- The options of the call for an interface. -/
def CallOptions.ofInterface? (api : HttpInterface) : Option CallOptions :=
  if api.method = .get ∧ api.bodyType = none then none
  else some ⟨api.method, api.bodyType.isSome, api.bodyType.isSome⟩

/-- A call has no options if it is a plain request, and otherwise those of its interface. -/
theorem CallOptions.ofInterface?_cases (api : HttpInterface) :
    (api.method = .get ∧ api.bodyType = none ∧ ofInterface? api = none) ∨
    ((api.method ≠ .get ∨ api.bodyType.isSome = true) ∧
      ofInterface? api = some ⟨api.method, api.bodyType.isSome, api.bodyType.isSome⟩) := by
  by_cases plain : api.method = .get ∧ api.bodyType = none
  · exact .inl ⟨plain.1, plain.2, if_pos plain⟩
  · right
    refine ⟨?_, if_neg plain⟩
    rw [Option.isSome_iff_ne_none]
    tauto

/-- The lines for a body are read exactly if there is one. -/
theorem takeLines_bodyOptions (api : HttpInterface) (rest : Text) :
    let source := lines (ClientFunction.ofInterface api).bodyOptions ++ ("  \x7d);\n" ++ rest : Text)
    let headers := takeLine "    headers: \x7b 'Content-Type': 'application/json' \x7d," source
    let body := takeLine "    body: JSON.stringify(body)," headers.2
    headers.1 = api.bodyType.isSome ∧ body = (api.bodyType.isSome, "  \x7d);\n" ++ rest) := by
  cases sent : api.bodyType with
  | none =>
      have noLines : (ClientFunction.ofInterface api).bodyOptions = [] := by
        simp [ClientFunction.bodyOptions, ClientFunction.ofInterface, sent]
      rw [noLines]
      exact ⟨rfl, rfl⟩
  | some type =>
      have bothLines : (ClientFunction.ofInterface api).bodyOptions =
          ["    headers: \x7b 'Content-Type': 'application/json' \x7d,",
            "    body: JSON.stringify(body),"] := by
        simp [ClientFunction.bodyOptions, ClientFunction.ofInterface, sent]
      rw [bothLines]
      simp [takeLine_append]

theorem readOptions_append (api : HttpInterface) (rest : Text) :
    readOptions ((ClientFunction.ofInterface api).callEnd ++ rest) =
      some (CallOptions.ofInterface? api, rest) := by
  have hasOptions : (ClientFunction.ofInterface api).hasOptions =
      (api.method != .get || api.bodyType.isSome) := rfl
  obtain ⟨isGet, noBody, none⟩ | ⟨called, there⟩ := CallOptions.ofInterface?_cases api
  · have noOptions : (ClientFunction.ofInterface api).hasOptions = false := by
      simp [hasOptions, isGet, noBody]
    rw [none, ClientFunction.callEnd, noOptions, readOptions]
    simp
  · have options : (ClientFunction.ofInterface api).hasOptions = true := by
      simpa [hasOptions] using called
    have name : (ClientFunction.ofInterface api).method = api.method.name := rfl
    have noEnd (after : Text) : behind? ");\n" (", \x7b\n" ++ after : Text) = Option.none := rfl
    obtain ⟨headers, body⟩ := takeLines_bodyOptions api rest
    rw [there, ClientFunction.callEnd, if_pos options, name, readOptions]
    simp only [List.append_assoc, noEnd, behind?_append, Option.bind_eq_bind, Option.bind_some,
      readMethod_append, headers, body]
    rfl

/-- What the function of an interface returns. -/
def Answer.ofInterface (api : HttpInterface) : Answer :=
  if api.isSse then response else if api.responseType.isSome then decoded else nothing

theorem readAnswer_append (api : HttpInterface) (rest : Text) :
    readAnswer (lines (ClientFunction.ofInterface api).answer ++ rest) =
      some (Answer.ofInterface api, rest) := by
  have answers : (ClientFunction.ofInterface api).answer =
      if api.isSse then
        (["  // SSE handling - return response for streaming", "  return response;"] : List Text)
      else if api.responseType.isSome then ["  return response.json();"] else ["  return;"] := rfl
  rw [answers, Answer.ofInterface]
  by_cases stream : api.isSse = true
  · rw [if_pos stream, if_pos stream]
    rfl
  · rw [if_neg stream, if_neg stream]
    by_cases typed : api.responseType.isSome = true
    · rw [if_pos typed, if_pos typed]
      rfl
    · rw [if_neg typed, if_neg typed]
      rfl

/-- What stands between the braces of the function of an interface. -/
def FunctionBody.ofInterface (api : HttpInterface) : FunctionBody where
  target := (segments api.path).flatMap (piecesOf api.paramNames)
  options := CallOptions.ofInterface? api
  answer := Answer.ofInterface api

/-- What is written behind the signature of a function. -/
def bodyText (api : HttpInterface) : Text :=
  lines ((ClientFunction.ofInterface api).call ++ (ClientFunction.ofInterface api).answer ++
    (["\x7d", ""] : List Text))

/-- **The body of a function is read back**, whatever its path holds and whatever follows it. -/
theorem readBody_append (api : HttpInterface) (rest : Text) :
    readBody (bodyText api ++ rest) = some (FunctionBody.ofInterface api, rest) := by
  have written : bodyText api ++ rest =
      "  const response = await fetch(" ++ (ClientFunction.targetOf api ++
        ((ClientFunction.ofInterface api).callEnd ++
          (lines (ClientFunction.ofInterface api).answer ++ ("\x7d\n\n" ++ rest : Text)))) := by
    simp only [bodyText, lines_append, ClientFunction.lines_call, List.append_assoc]
    rfl
  rw [written, readBody]
  simp only [behind?_append, readLiteral_targetOf_append, readOptions_append, readAnswer_append,
    Option.bind_eq_bind, Option.bind_some]
  rfl

/-! ## The parts agree -/

/-- How the function of an interface answers: what its signature promises, and what it returns. -/
inductive Replies (api : HttpInterface) : Text → Answer → Prop where
  | stream (isStream : api.isSse = true) : Replies api "Promise<Response>" .response
  | typed {type : TypeRef} (plain : api.isSse = false) (there : api.responseType = some type) :
      Replies api ("Promise<" ++ type.typeText ++ ">") .decoded
  | void (plain : api.isSse = false) (none : api.responseType = none) :
      Replies api "Promise<void>" .nothing

theorem replies (api : HttpInterface) :
    Replies api (ClientFunction.returnTypeOf api) (Answer.ofInterface api) := by
  rw [ClientFunction.returnTypeOf, Answer.ofInterface]
  cases stream : api.isSse with
  | true => exact .stream stream
  | false =>
      cases type : api.responseType with
      | none => exact .void stream type
      | some type => exact .typed stream type

/-- Nothing is interpolated but parameters. -/
theorem exists_param_of_interpolated {api : HttpInterface} {name : Text}
    (interpolated : .interpolated name ∈ (FunctionBody.ofInterface api).target) :
    ∃ param ∈ api.urlParams, param.name = name := by
  have listed : name ∈ (FunctionBody.ofInterface api).target.filterMap Piece.name? :=
    List.mem_filterMap.mpr ⟨_, interpolated, rfl⟩
  have names := filterMap_name?_pieces api.paramNames (segments api.path)
  rw [FunctionBody.ofInterface, names] at listed
  have known : name ∈ api.paramNames := by simpa using (List.mem_filter.mp listed).2
  simpa [HttpInterface.paramNames] using known

namespace FunctionBody

/-- Is there a line that tells how the body is encoded? -/
def tellsEncoding (body : FunctionBody) : Bool := body.options.any (·.headers)

/-- Is there a line that sends the body? -/
def sendsBody (body : FunctionBody) : Bool := body.options.any (·.body)

end FunctionBody

/-- How a parameter is declared in a signature. -/
def paramText (param : Field) : Text := param.name ++ ": " ++ param.type.typeText

/-- How the parameter for the body is declared. -/
def bodyParamText (type : TypeRef) : Text := "body: " ++ type.typeText

/-- A function agrees with its interface and in itself: the parameters in the signature, the one for the body,
what the signature promises, and what stands between the braces. -/
structure Agrees (api : HttpInterface) (params : List Text) (bodyParam : Option Text) (promise : Text)
    (body : FunctionBody) : Prop where
  params_eq : params = api.urlParams.map paramText
  bodyParam_eq : bodyParam = api.bodyType.map bodyParamText
  inScope : ∀ name, .interpolated name ∈ body.target → ∃ param ∈ api.urlParams, param.name = name
  encoding : body.tellsEncoding = bodyParam.isSome
  sent : body.sendsBody = bodyParam.isSome
  options : body.options.isSome = true ↔ api.method ≠ .get ∨ bodyParam.isSome = true
  method : ∀ options ∈ body.options, options.method = api.method
  answer : Replies api promise body.answer

theorem agrees (api : HttpInterface) :
    Agrees api (api.urlParams.map paramText) (api.bodyType.map bodyParamText)
      (ClientFunction.returnTypeOf api) (FunctionBody.ofInterface api) where
  params_eq := rfl
  bodyParam_eq := rfl
  inScope _ := exists_param_of_interpolated
  encoding := by
    obtain ⟨-, noBody, none⟩ | ⟨-, there⟩ := CallOptions.ofInterface?_cases api
    · simp [FunctionBody.tellsEncoding, FunctionBody.ofInterface, none, noBody]
    · simp [FunctionBody.tellsEncoding, FunctionBody.ofInterface, there]
  sent := by
    obtain ⟨-, noBody, none⟩ | ⟨-, there⟩ := CallOptions.ofInterface?_cases api
    · simp [FunctionBody.sendsBody, FunctionBody.ofInterface, none, noBody]
    · simp [FunctionBody.sendsBody, FunctionBody.ofInterface, there]
  options := by
    obtain ⟨isGet, noBody, none⟩ | ⟨called, there⟩ := CallOptions.ofInterface?_cases api
    · simp [FunctionBody.ofInterface, none, isGet, noBody]
    · simpa [FunctionBody.ofInterface, there] using called
  method := by
    intro options chosen
    obtain ⟨-, -, none⟩ | ⟨-, there⟩ := CallOptions.ofInterface?_cases api
    · simp [FunctionBody.ofInterface, none] at chosen
    · obtain rfl : _ = options := by simpa [FunctionBody.ofInterface, there] using chosen
      rfl
  answer := replies api

/-- **The parts of a client function agree.** Wherever an interface stands, its block in the module of the
client is a signature with its parameters and its promise, and behind it a body that is read to the end of
the block; signature and body agree. -/
theorem client_function_agrees (before after : List HttpInterface) (api : HttpInterface)
    (typeNames : List Text) :
    ∃ params bodyParam promise source body rest,
      clientModule (before ++ api :: after) typeNames = clientModule before typeNames ++
        (line ("export async function " ++ api.name ++ "(" ++
          Text.join ", " (params ++ bodyParam.toList) ++ "): " ++ promise ++ " \x7b") ++ source) ∧
      clientModule after typeNames = clientModule [] typeNames ++ rest ∧
      readBody source = some (body, rest) ∧
      Agrees api params bodyParam promise body := by
  -- Behind the body stand the blocks of the interfaces after it, which the reader leaves.
  let others := after.flatMap fun api => (ClientFunction.ofInterface api).block
  have written (interfaces : List HttpInterface) : clientModule interfaces typeNames =
      clientModule [] typeNames ++
        interfaces.flatMap fun api => (ClientFunction.ofInterface api).block :=
    writesBlocks_client typeNames interfaces
  refine ⟨_, _, _, bodyText api ++ others, _, others, ?_, written after, readBody_append api others,
    agrees api⟩
  have params : ClientFunction.paramsOf api =
      api.urlParams.map paramText ++ (api.bodyType.map bodyParamText).toList := by
    cases type : api.bodyType with
    | none =>
        simp only [ClientFunction.paramsOf, type]
        rfl
    | some body =>
        simp only [ClientFunction.paramsOf, type]
        rfl
  have signature : (ClientFunction.ofInterface api).signature =
      "export async function " ++ api.name ++ "(" ++ Text.join ", " (ClientFunction.paramsOf api) ++
        "): " ++ ClientFunction.returnTypeOf api ++ " \x7b" := rfl
  have block : (ClientFunction.ofInterface api).block =
      line (ClientFunction.ofInterface api).signature ++ bodyText api := by
    simp [ClientFunction.block, bodyText]
  rw [← params, ← signature, written (before ++ api :: after), written before, List.flatMap_append,
    List.flatMap_cons, block]
  simp only [List.append_assoc, others]

end TypedEndpoints.Source
