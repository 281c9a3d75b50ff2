import TypedEndpoints.Proofs.ModuleLines
import TypedEndpoints.Proofs.TextReading
/-!
The modules are written entry by entry. Between what a module begins with and what it ends with stands one
block for each entry, in order; the block is told by the entry alone, so it is the same wherever the entry
stands, whatever is next to it and whichever types are imported.

* `isLocal_iff`: what a list adds is the same behind every other list exactly if each entry adds a block
  of its own;
* `emission_local`: that holds of the declarations and of the client, and of the server in front of the
  line that closes it. There is no other way to cut a module into blocks.
-/
set_option autoImplicit false
namespace TypedEndpoints.Source

open Text

/-! ## Lists written entry by entry -/

section Local

variable {α : Type} {emit : List α → Text} {block : α → Text}

/-- What a list adds to the text of no entries, it adds to the text of any entries in front of it. -/
def IsLocal (emit : List α → Text) : Prop :=
  ∀ first second,
    (behind? (emit []) (emit second)).map (emit first ++ ·) = some (emit (first ++ second))

/-- Each entry is written as its block, in order, behind what is written for none. -/
def WritesBlocks (emit : List α → Text) (block : α → Text) : Prop :=
  ∀ entries, emit entries = emit [] ++ entries.flatMap block

theorem IsLocal.exists_added (isLocal : IsLocal emit) (second : List α) :
    ∃ added, emit second = emit [] ++ added ∧ ∀ first, emit (first ++ second) = emit first ++ added := by
  obtain ⟨added, front, -⟩ := Option.map_eq_some_iff.mp (isLocal [] second)
  refine ⟨added, (List.isPrefixOf?_eq_some_iff_append_eq.mp front).symm, ?_⟩
  intro first
  have behind := isLocal first second
  rw [front] at behind
  exact (Option.some.inj behind).symm

/-- A module is local exactly if it is written in blocks, one for each entry. -/
theorem isLocal_iff : IsLocal emit ↔ ∃ block, WritesBlocks emit block := by
  constructor
  · intro isLocal
    choose added front behind using isLocal.exists_added
    refine ⟨fun entry => added [entry], ?_⟩
    intro entries
    -- The list behind the first entry adds the same with that entry in front of it.
    induction entries with
    | nil => simp
    | cons entry entries ih =>
        have rest : added entries = entries.flatMap fun entry => added [entry] := by
          rw [front entries] at ih
          exact List.append_cancel_left ih
        have here := behind entries [entry]
        rw [List.singleton_append] at here
        rw [here, front [entry], List.append_assoc, rest, List.flatMap_cons]
  · rintro ⟨block, written⟩ first second
    rw [written second, behind?_append, Option.map_some, written first, written (first ++ second),
      List.flatMap_append, List.append_assoc]

/-- The block of an entry is what it adds when it stands alone. -/
theorem WritesBlocks.unique {other : α → Text} (written : WritesBlocks emit block)
    (written' : WritesBlocks emit other) : other = block := by
  funext entry
  have alone := written [entry]
  rw [written' [entry]] at alone
  simpa using alone

end Local

/-! ## Blocks -/

/-- The text begins so and ends with an empty line. -/
def IsBlock (opening text : Text) : Prop := ∃ content, text = opening ++ (content ++ "\n\n")

/-- Lines with an empty one behind them are a block. -/
theorem isBlock_lines (opening rest : Text) (others : List Text) :
    IsBlock opening (lines ((opening ++ rest) :: (others ++ ([""] : List Text)))) := by
  rcases List.eq_nil_or_concat others with rfl | ⟨before, last, rfl⟩
  · refine ⟨rest, ?_⟩
    simp [line, lines, Text.ofString]
  · refine ⟨rest ++ ("\n" ++ (lines before ++ last)), ?_⟩
    simp [line, lines, Text.ofString]

/-- How the block of a data type begins. -/
def declares (dataType : DataType) : Text :=
  (match dataType.shape with
    | .object _ => "export interface "
    | _ => "export type ") ++ dataType.name

/-- How the block of a client function begins. -/
def defines (api : HttpInterface) : Text := "export async function " ++ api.name ++ "("

/-- How the block of a route begins. -/
def registers (api : HttpInterface) : Text :=
  "  app." ++ api.method.routerFunction ++ "(" ++ stringLiteral api.path

theorem isBlock_declaration (dataType : DataType) :
    IsBlock (declares dataType) (Declaration.ofDataType dataType).block := by
  obtain ⟨name, shape⟩ := dataType
  rcases shape with values | base | fields
  · have block := isBlock_lines ("export type " ++ name)
      (" = " ++ Text.join " | " (values.map memberLiteral) ++ ";") []
    simpa [declares, Declaration.block, Declaration.lines, Declaration.ofDataType] using block
  · have block := isBlock_lines ("export type " ++ name) (" = " ++ base.name ++ ";") []
    simpa [declares, Declaration.block, Declaration.lines, Declaration.ofDataType] using block
  · have block := isBlock_lines ("export interface " ++ name) " \x7b"
      ((fields.map FieldLine.ofField).map FieldLine.text ++ (["\x7d"] : List Text))
    simpa [declares, Declaration.block, Declaration.lines, Declaration.ofDataType] using block

theorem isBlock_clientFunction (api : HttpInterface) :
    IsBlock (defines api) (ClientFunction.ofInterface api).block := by
  have block := isBlock_lines (defines api)
    (Text.join ", " (ClientFunction.paramsOf api) ++ "): " ++ ClientFunction.returnTypeOf api ++ " \x7b")
    ((ClientFunction.ofInterface api).call ++ (ClientFunction.ofInterface api).answer ++
      (["\x7d"] : List Text))
  simpa [defines, ClientFunction.block, ClientFunction.signature, ClientFunction.ofInterface] using block

theorem isBlock_route (api : HttpInterface) :
    IsBlock (registers api) (Route.ofInterface api).block := by
  have block := isBlock_lines (registers api) ", async (req: Request, res: Response) => \x7b"
    ((Route.ofInterface api).handler ++ (["  \x7d);"] : List Text))
  simpa [registers, Route.block, Route.opening, Route.ofInterface] using block

/-! ## The three modules -/

theorem writesBlocks_declarations :
    WritesBlocks declarationsModule fun dataType => (Declaration.ofDataType dataType).block := by
  intro dataTypes
  simp [declarationsModule]

theorem writesBlocks_client (typeNames : List Text) :
    WritesBlocks (clientModule · typeNames) fun api => (ClientFunction.ofInterface api).block := by
  intro interfaces
  simp [clientModule]

/-- What the server begins with and its routes are told apart by how the routes of lists are joined. -/
theorem serverParts_unique {opening : List Text → Text} {routes : List HttpInterface → Text}
    (written : ∀ interfaces typeNames,
      serverModule interfaces typeNames = opening typeNames ++ (routes interfaces ++ line "\x7d"))
    (joined : ∀ first second, routes (first ++ second) = routes first ++ routes second) :
    opening = serverOpening ∧
      routes = fun interfaces => interfaces.flatMap fun api => (Route.ofInterface api).block := by
  -- No routes joined with themselves are no routes, so their text is empty; that fixes the opening, and the
  -- opening fixes the rest.
  have none : routes [] = [] := by
    have twice := joined [] []
    simpa using twice
  have openings : opening = serverOpening := by
    funext typeNames
    have empty := written [] typeNames
    rw [none, serverModule, List.flatMap_nil] at empty
    simpa using empty.symm
  refine ⟨openings, ?_⟩
  funext interfaces
  have whole := written interfaces []
  rw [openings, serverModule] at whole
  simpa using whole.symm

/-- **Emission is local.** The declarations and the client are written in blocks, and what a list adds to
them it adds behind any other list. The server is an opening that the imported types alone decide, the
routes, and a closing line; the routes of two lists are those of the first and then those of the second.
The block of an entry is its own in every list, and nothing else is a block. -/
theorem emission_local :
    (IsLocal declarationsModule ∧
      ∃! block : DataType → Text, WritesBlocks declarationsModule block ∧
        ∀ dataType, IsBlock (declares dataType) (block dataType)) ∧
    ((∀ typeNames, IsLocal (clientModule · typeNames)) ∧
      ∃! block : HttpInterface → Text, (∀ typeNames, WritesBlocks (clientModule · typeNames) block) ∧
        ∀ api, IsBlock (defines api) (block api)) ∧
    ∃! parts : (List Text → Text) × (List HttpInterface → Text),
      (∀ interfaces typeNames,
        serverModule interfaces typeNames = parts.1 typeNames ++ (parts.2 interfaces ++ line "\x7d")) ∧
      (∀ first second, parts.2 (first ++ second) = parts.2 first ++ parts.2 second) ∧
      WritesBlocks parts.2 (fun api => parts.2 [api]) ∧
      ∀ api, IsBlock (registers api) (parts.2 [api]) := by
  refine ⟨⟨?_, ?_⟩, ⟨?_, ?_⟩, ?_⟩
  · exact isLocal_iff.mpr ⟨_, writesBlocks_declarations⟩
  · refine ⟨_, ⟨writesBlocks_declarations, isBlock_declaration⟩, ?_⟩
    intro other also
    exact writesBlocks_declarations.unique also.1
  · intro typeNames
    exact isLocal_iff.mpr ⟨_, writesBlocks_client typeNames⟩
  · refine ⟨_, ⟨writesBlocks_client, isBlock_clientFunction⟩, ?_⟩
    intro other also
    exact (writesBlocks_client []).unique (also.1 [])
  · refine ⟨(serverOpening, fun interfaces => interfaces.flatMap fun api =>
      (Route.ofInterface api).block), ⟨?_, ?_, ?_, ?_⟩, ?_⟩
    · intro interfaces typeNames
      simp [serverModule]
    · intro first second
      exact List.flatMap_append
    · intro interfaces
      simp
    · intro api
      simpa using isBlock_route api
    · rintro ⟨opening, routes⟩ ⟨written, joined, -⟩
      obtain ⟨rfl, rfl⟩ := serverParts_unique written joined
      rfl

end TypedEndpoints.Source
