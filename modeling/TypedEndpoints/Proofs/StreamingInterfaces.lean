import TypedEndpoints.Proofs.CommentLines
/-!
What the emitted modules say of a stream of events. The server knows its route and nothing else of it; the
client also its name and what is sent, but neither its response type nor its headers, and answers with the
response as it is.

* `block_of_stream`, `clientBlock_of_stream`: the block of a stream, without what is ignored of it;
* `streams_ignored`: what is ignored in a list of interfaces, for both modules.
-/
set_option autoImplicit false
namespace TypedEndpoints.Source

/-- The interfaces are equal, or both are streams and agree in this. -/
def SameOrStreams (agree : HttpInterface → HttpInterface → Prop) (first second : HttpInterface) : Prop :=
  first = second ∨ first.isSse = true ∧ second.isSse = true ∧ agree first second

/-- The interfaces differ at most in their response types and headers. -/
def SameRequest (first second : HttpInterface) : Prop :=
  second = { first with responseType := second.responseType, headers := second.headers }

/-! ## The server -/

/-- The route of a stream is told by its method and path alone. -/
theorem block_of_stream {api : HttpInterface} (stream : api.isSse = true) :
    (Route.ofInterface api).block =
      (⟨[], api.method.routerFunction, stringLiteral api.path, true, []⟩ : Route).block := by
  simp [Route.block, Route.opening, Route.handler, Route.ofInterface, stream]

theorem block_eq_of_sameRoute {first second : HttpInterface}
    (same : SameOrStreams SameRoute first second) :
    (Route.ofInterface first).block = (Route.ofInterface second).block := by
  rcases same with rfl | ⟨stream, stream', route⟩
  · rfl
  · rw [block_of_stream stream, block_of_stream stream', route.method, route.path]

/-! ## The client -/

/-- The lines of a client function that answers with the response. -/
def streamFunction (api : HttpInterface) : List Text :=
  ("export async function " ++ api.name ++ "(" ++ Text.join ", " (ClientFunction.paramsOf api) ++
      "): Promise<Response> \x7b") ::
    ((ClientFunction.ofInterface api).call ++
      (["  // SSE handling - return response for streaming", "  return response;", "\x7d", ""] :
        List Text))

theorem clientBlock_of_stream {api : HttpInterface} (stream : api.isSse = true) :
    (ClientFunction.ofInterface api).block = lines (streamFunction api) := by
  have answer : (ClientFunction.ofInterface api).answer =
      (["  // SSE handling - return response for streaming", "  return response;"] : List Text) := by
    simp [ClientFunction.answer, ClientFunction.ofInterface, stream]
  have signature : (ClientFunction.ofInterface api).signature =
      "export async function " ++ api.name ++ "(" ++ Text.join ", " (ClientFunction.paramsOf api) ++
        "): Promise<Response> \x7b" := by
    have ending : Text.ofString "): Promise<Response> \x7b" =
        Text.ofString "): " ++ (Text.ofString "Promise<Response>" ++ Text.ofString " \x7b") := rfl
    rw [ending]
    simp [ClientFunction.signature, ClientFunction.ofInterface, ClientFunction.returnTypeOf, stream]
  rw [ClientFunction.block, answer, signature, streamFunction]
  simp only [List.append_assoc]
  rfl

/-- The function of a stream does not look at what is ignored. -/
theorem clientBlock_eq_of_sameRequest {first second : HttpInterface}
    (same : SameOrStreams SameRequest first second) :
    (ClientFunction.ofInterface first).block = (ClientFunction.ofInterface second).block := by
  rcases same with rfl | ⟨stream, stream', request⟩
  · rfl
  · rw [clientBlock_of_stream stream, clientBlock_of_stream stream', request]
    rfl

/-- **Streams ignore what they are to ignore.** Two lists of interfaces that are equal entry by entry, up
to streams with the same method and path, have the same server; up to streams that differ in response type
and headers, they have the same client. In it every stream has a function that promises the response and
returns it. -/
theorem streams_ignored (typeNames : List Text) (first second : List HttpInterface) :
    (List.Forall₂ (SameOrStreams SameRoute) first second →
      serverModule first typeNames = serverModule second typeNames) ∧
    (List.Forall₂ (SameOrStreams SameRequest) first second →
      clientModule first typeNames = clientModule second typeNames) ∧
    ∀ api ∈ first, api.isSse = true →
      ∃ above below, clientModule first typeNames = above ++ lines (streamFunction api) ++ below := by
  refine ⟨fun same => ?_, fun same => ?_, fun api known stream => ?_⟩
  · have blocks := flatMap_eq_of_forall₂ (same.imp fun _ _ => block_eq_of_sameRoute)
    rw [serverModule, serverModule, blocks]
  · have blocks := flatMap_eq_of_forall₂ (same.imp fun _ _ => clientBlock_eq_of_sameRequest)
    rw [clientModule, clientModule, blocks]
  · obtain ⟨before, after, rfl⟩ := List.append_of_mem known
    rw [clientModule, List.flatMap_append, List.flatMap_cons, clientBlock_of_stream stream]
    exact ⟨clientOpening typeNames ++ before.flatMap fun api => (ClientFunction.ofInterface api).block,
      after.flatMap fun api => (ClientFunction.ofInterface api).block, by simp only [List.append_assoc]⟩

/-! ## A stream told in three ways -/

/-- A stream with a body. -/
def eventStream : HttpInterface :=
  ⟨"watch", .post, "/events", [], some (.named "Filter"), none, [], true⟩

/-- The same route, and all else different. -/
def otherStream : HttpInterface :=
  ⟨"listen", .post, "/events", [⟨"id", .primitive .number, false⟩], none, some (.named "Event"),
    ["X-Trace"], true⟩

/-- The same request, with a response and a header. -/
def typedStream : HttpInterface :=
  ⟨"watch", .post, "/events", [], some (.named "Filter"), some (.named "Event"), ["X-Trace"], true⟩

theorem streams_ignored_of_eventStream :
    List.Forall₂ (SameOrStreams SameRoute) [eventStream] [otherStream] ∧
      List.Forall₂ (SameOrStreams SameRequest) [eventStream] [typedStream] ∧
      serverModule [eventStream] [] = serverModule [otherStream] [] ∧
      clientModule [eventStream] [] = clientModule [typedStream] [] ∧
      ∃ above below, clientModule [eventStream] [] = above ++ lines (streamFunction eventStream) ++ below := by
  have sameRoute : List.Forall₂ (SameOrStreams SameRoute) [eventStream] [otherStream] :=
    .cons (.inr ⟨rfl, rfl, rfl, rfl, rfl⟩) .nil
  have sameRequest : List.Forall₂ (SameOrStreams SameRequest) [eventStream] [typedStream] :=
    .cons (.inr ⟨rfl, rfl, rfl⟩) .nil
  obtain ⟨server, -, -⟩ := streams_ignored [] [eventStream] [otherStream]
  obtain ⟨-, client, answers⟩ := streams_ignored [] [eventStream] [typedStream]
  exact ⟨sameRoute, sameRequest, server sameRoute, client sameRequest,
    answers eventStream (List.mem_singleton_self _) rfl⟩

end TypedEndpoints.Source
