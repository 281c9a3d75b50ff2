import TypedEndpoints.Document.Entry
import TypedEndpoints.Proofs.ModuleLines
/-!
What the comments of the server stubs leave outside of comments. A comment ends with its line, so a name
or a note that holds the end of a line goes on as code behind it.

* `LineEnds`: what may end a line; a line feed does, in every reading;
* `LineEnds.code`: a text without its comment lines;
* `LineEnds.Confined`: a comment text of which nothing is left outside of comments;
* `code_serverModule_eq_iff`: two lists of interfaces with the same routes have the same code exactly if
  their comments are confined, once those of one of them are;
* `not_all_comments_inert`: a name with a line feed in it is not.
-/
set_option autoImplicit false
namespace TypedEndpoints.Source

/-- What ends a line: a line feed does, and other code points may, but no blank and no visible character
of ASCII. -/
structure LineEnds where
  ends : CodePoint → Bool
  lineFeed : ends (.scalar '\n') = true
  visible : ∀ c : Char, 0x20 ≤ c.toNat → c.toNat < 0x7F → ends (.scalar c) = false

/-- Does the line begin with two slashes, behind any blanks? -/
def isComment (content : Text) : Bool :=
  (content.dropWhile fun point => point == .scalar ' ' || point == .scalar '\t').take 2 == "//"

namespace LineEnds

/-- A line feed and nothing else. -/
def feed : LineEnds where
  ends point := point == .scalar '\n'
  lineFeed := rfl
  visible := by
    intro c low high
    simp only [beq_eq_false_iff_ne, ne_eq, CodePoint.scalar.injEq]
    rintro rfl
    exact absurd low (by decide)

/-- The line terminators of the emitted language: LF, CR, and the line and paragraph separators. -/
def script : LineEnds where
  ends point := (['\n', '\r', '\u2028', '\u2029'].map CodePoint.scalar).contains point
  lineFeed := rfl
  visible := by
    intro c low high
    simp only [List.map_cons, List.map_nil, List.contains_eq_mem, decide_eq_false_iff_not,
      List.mem_cons, CodePoint.scalar.injEq, List.not_mem_nil, or_false, not_or]
    refine ⟨?_, ?_, ?_, ?_⟩ <;> rintro rfl
    · exact absurd low (by decide)
    · exact absurd low (by decide)
    · exact absurd high (by decide)
    · exact absurd high (by decide)

variable (breaks : LineEnds)

/-- The lines of a text, each with what ends it; the last one may have no end. -/
def split : Text → List Text
  | [] => []
  | point :: rest =>
    if breaks.ends point then [point] :: split rest
    else match split rest with
      | [] => [[point]]
      | first :: others => (point :: first) :: others

/-- A text without its comment lines. -/
def code (text : Text) : Text := ((breaks.split text).filter (!isComment ·)).flatten

/-- What a comment with this text leaves outside of comments: the lines behind its own that are none. -/
def strays (text : Text) : Text := ((breaks.split (line text)).tail.filter (!isComment ·)).flatten

/-- Every line of the text behind its first one is a comment. -/
def Confined (text : Text) : Prop := ∀ later ∈ (breaks.split (line text)).tail, isComment later

/-! ## Splitting -/

theorem split_cons_of_ends {point : CodePoint} (isEnd : breaks.ends point = true) (rest : Text) :
    breaks.split (point :: rest) = [point] :: breaks.split rest := by
  rw [split, if_pos isEnd]

theorem split_cons_of_not_ends {point : CodePoint} (plain : breaks.ends point = false) {rest first : Text}
    {others : List Text} (cut : breaks.split rest = first :: others) :
    breaks.split (point :: rest) = (point :: first) :: others := by
  have notEnd : ¬ breaks.ends point = true := by simp [plain]
  rw [split, if_neg notEnd, cut]

theorem exists_split_eq_cons (text : Text) (nonempty : text ≠ []) :
    ∃ first others, breaks.split text = first :: others := by
  cases text with
  | nil => exact absurd rfl nonempty
  | cons point rest =>
      unfold split
      split
      · simp
      · split <;> simp

theorem ne_nil_of_mem_split {text content : Text} (member : content ∈ breaks.split text) :
    content ≠ [] := by
  induction text generalizing content with
  | nil => cases member
  | cons point rest ih =>
      unfold split at member
      split at member
      · rcases List.mem_cons.mp member with rfl | later
        · simp
        · exact ih later
      · split at member
        · obtain rfl := List.mem_singleton.mp member
          simp
        · next first others cut =>
          rcases List.mem_cons.mp member with rfl | later
          · simp
          · exact ih (cut ▸ List.mem_cons_of_mem _ later)

/-- A text that ends its last line is split apart from what follows it. -/
theorem split_append (text : Text) {point : CodePoint} (isEnd : breaks.ends point = true)
    (rest : Text) :
    breaks.split (text ++ point :: rest) = breaks.split (text ++ [point]) ++ breaks.split rest := by
  induction text with
  | nil => simp [split, isEnd]
  | cons next text ih =>
      cases isNextEnd : breaks.ends next with
      | true =>
          rw [List.cons_append, List.cons_append, split_cons_of_ends _ isNextEnd,
            split_cons_of_ends _ isNextEnd, ih, List.cons_append]
      | false =>
          obtain ⟨first, others, cut⟩ := breaks.exists_split_eq_cons (text ++ [point]) (by simp)
          rw [cut, List.cons_append] at ih
          rw [List.cons_append, List.cons_append, split_cons_of_not_ends _ isNextEnd cut,
            split_cons_of_not_ends _ isNextEnd ih, List.cons_append]

/-- What ends no line belongs to the first one. -/
theorem split_append_of_not_ends {lead : Text} (plain : ∀ point ∈ lead, breaks.ends point = false)
    {rest first : Text} {others : List Text} (cut : breaks.split rest = first :: others) :
    breaks.split (lead ++ rest) = (lead ++ first) :: others := by
  induction lead with
  | nil => exact cut
  | cons point lead ih =>
      obtain ⟨isPlain, others⟩ := List.forall_mem_cons.mp plain
      exact split_cons_of_not_ends _ isPlain (ih others)

theorem code_line_append (text rest : Text) :
    breaks.code (line text ++ rest) = breaks.code (line text) ++ breaks.code rest := by
  have lineFeed : (line text ++ rest : Text) = text ++ .scalar '\n' :: rest :=
    List.append_assoc text _ rest
  unfold code
  rw [lineFeed, split_append _ _ breaks.lineFeed, List.filter_append, List.flatten_append]
  rfl

/-- The code of lines is the code of each of them. -/
theorem code_lines (texts : List Text) :
    breaks.code (lines texts) = texts.flatMap fun text => breaks.code (line text) := by
  induction texts with
  | nil => rfl
  | cons text texts ih => rw [lines_cons, code_line_append, ih, List.flatMap_cons]

/-! ## Comments -/

/-- A text of blanks and visible characters of ASCII. -/
def isVisible (text : Text) : Bool :=
  text.all fun
    | .scalar c => 0x20 ≤ c.toNat && c.toNat < 0x7F
    | .surrogate _ => false

/-- The text ends no line. -/
def Inline (text : Text) : Prop := ∀ point ∈ text, breaks.ends point = false

theorem inline_of_isVisible {text : Text} (visible : isVisible text = true) : breaks.Inline text := by
  intro point member
  have shown := List.all_eq_true.mp visible point member
  cases point with
  | scalar c =>
      simp only [Bool.and_eq_true, decide_eq_true_eq] at shown
      exact breaks.visible c shown.1 shown.2
  | surrogate offset => cases shown

theorem Inline.append {breaks : LineEnds} {first second : Text} (left : breaks.Inline first)
    (right : breaks.Inline second) : breaks.Inline (first ++ second) := by
  intro point member
  rcases List.mem_append.mp member with inFirst | inSecond
  · exact left point inFirst
  · exact right point inSecond

theorem Inline.join {breaks : LineEnds} {separator : Text} {texts : List Text}
    (between : breaks.Inline separator) (all : ∀ text ∈ texts, breaks.Inline text) :
    breaks.Inline (Text.join separator texts) := by
  induction texts with
  | nil => exact fun point member => absurd member (List.not_mem_nil)
  | cons first rest ih =>
      obtain ⟨isFirst, others⟩ := List.forall_mem_cons.mp all
      cases rest with
      | nil => exact isFirst
      | cons second rest => exact isFirst.append (between.append (ih others))

/-- A text that ends no line is confined. -/
theorem Inline.confined {breaks : LineEnds} {text : Text} (inline : breaks.Inline text) :
    breaks.Confined text := by
  have whole : breaks.split (line text) = [line text] :=
    split_append_of_not_ends breaks inline (split_cons_of_ends _ breaks.lineFeed [])
  intro later member
  rw [whole] at member
  cases member

theorem strays_eq_nil_iff (text : Text) : breaks.strays text = [] ↔ breaks.Confined text := by
  unfold strays Confined
  rw [List.flatten_eq_nil_iff]
  constructor
  · intro empty later member
    by_contra isCode
    have kept : later ∈ (breaks.split (line text)).tail.filter (!isComment ·) :=
      List.mem_filter.mpr ⟨member, by simpa using isCode⟩
    exact breaks.ne_nil_of_mem_split (List.mem_of_mem_tail member) (empty later kept)
  · intro confined later kept
    obtain ⟨member, isCode⟩ := List.mem_filter.mp kept
    simp [confined later member] at isCode

/-- Of a comment in a handler only what its text leaves is code. -/
theorem code_comment (text : Text) : breaks.code (line ("    // " ++ text)) = breaks.strays text := by
  obtain ⟨first, others, cut⟩ :=
    breaks.exists_split_eq_cons (line text) (by simp [line, Text.ofString])
  have whole : breaks.split (line ("    // " ++ text)) = ("    // " ++ first) :: others := by
    have lead : line ("    // " ++ text : Text) = "    // " ++ line text := List.append_assoc _ _ _
    rw [lead]
    exact split_append_of_not_ends breaks (inline_of_isVisible breaks (by decide)) cut
  have comment : isComment ("    // " ++ first : Text) = true := rfl
  unfold code strays
  rw [whole, cut]
  simp [comment]

end LineEnds

/-! ## Routes -/

/-- What the comments of a route say. -/
def commentTexts (api : HttpInterface) : List Text :=
  if api.isSse then [] else ("TODO: Implement " ++ api.name) :: Route.notesOf api

/-- The two interfaces register the same route: they differ at most in what is told as a comment. -/
structure SameRoute (first second : HttpInterface) : Prop where
  method : first.method = second.method
  path : first.path = second.path
  isSse : first.isSse = second.isSse

namespace LineEnds

variable (breaks : LineEnds)

/-- No comment of the route leaves anything outside of comments. -/
def Confines (api : HttpInterface) : Prop := ∀ text ∈ commentTexts api, breaks.Confined text

/-- What the comments of a route leave outside of comments. -/
def straysOf (api : HttpInterface) : Text := (commentTexts api).flatMap breaks.strays

theorem straysOf_eq_nil_iff (api : HttpInterface) :
    breaks.straysOf api = [] ↔ breaks.Confines api := by
  unfold straysOf Confines
  rw [List.flatMap_eq_nil_iff]
  exact forall₂_congr fun text _ => breaks.strays_eq_nil_iff text

/-- The code of a route: that of its lines in order. -/
def codeOf (api : HttpInterface) : Text :=
  (Route.ofInterface api).lines.flatMap fun text => breaks.code (line text)

/-- The lines of a handler that are no comments on its interface. -/
def statements (isSse : Bool) : List Text :=
  if isSse then (⟨[], [], [], true, []⟩ : Route).handler else ["    res.json(\x7b\x7d);"]

theorem handler_eq (api : HttpInterface) :
    (Route.ofInterface api).handler =
      (commentTexts api).map (fun text => ("    // " ++ text : Text)) ++ statements api.isSse := by
  have todo : Text.ofString "    // TODO: Implement " ++ api.name =
      Text.ofString "    // " ++ (Text.ofString "TODO: Implement " ++ api.name) := rfl
  cases stream : api.isSse with
  | true => simp [Route.handler, Route.ofInterface, commentTexts, statements, stream]
  | false => simp [Route.handler, Route.ofInterface, commentTexts, statements, stream, todo]

/-- What the comments leave stands between the line that opens the route and its statements. -/
theorem codeOf_eq (api : HttpInterface) :
    breaks.codeOf api = breaks.code (line (Route.ofInterface api).opening) ++
      (breaks.straysOf api ++
        (statements api.isSse ++ (["  \x7d);", ""] : List Text)).flatMap fun text =>
          breaks.code (line text)) := by
  unfold codeOf straysOf Route.lines
  rw [handler_eq, List.append_assoc, List.flatMap_cons, List.flatMap_append, List.flatMap_map]
  simp only [code_comment]

theorem opening_eq_of_sameRoute {first second : HttpInterface} (same : SameRoute first second) :
    (Route.ofInterface first).opening = (Route.ofInterface second).opening := by
  simp [Route.opening, Route.ofInterface, same.method, same.path]

/-- The same route with confined comments has the code that is left of any other, less what the comments
of that one leave. -/
theorem length_codeOf {first second : HttpInterface} (same : SameRoute first second)
    (confined : breaks.Confines second) :
    (breaks.codeOf first).length = (breaks.codeOf second).length + (breaks.straysOf first).length := by
  rw [codeOf_eq, codeOf_eq, opening_eq_of_sameRoute same, same.isSse,
    (breaks.straysOf_eq_nil_iff second).mpr confined]
  simp only [List.length_append, List.length_nil]
  omega

theorem codeOf_congr {first second : HttpInterface} (same : SameRoute first second)
    (confined : breaks.Confines first) (confined' : breaks.Confines second) :
    breaks.codeOf first = breaks.codeOf second := by
  rw [codeOf_eq, codeOf_eq, opening_eq_of_sameRoute same, same.isSse,
    (breaks.straysOf_eq_nil_iff first).mpr confined, (breaks.straysOf_eq_nil_iff second).mpr confined']

theorem inline_of_mem_listNote {title : Text} {names : List Text} (visible : isVisible title = true)
    (all : ∀ name ∈ names, breaks.Inline name) :
    ∀ text ∈ Route.listNote title names, breaks.Inline text := by
  intro text member
  unfold Route.listNote at member
  split at member
  · cases member
  · obtain rfl := List.mem_singleton.mp member
    exact (breaks.inline_of_isVisible visible).append
      (.join (breaks.inline_of_isVisible (by decide)) all)

theorem inline_of_mem_typeNote {title : Text} {type : Option TypeRef}
    (visible : isVisible title = true)
    (known : ∀ reference ∈ type, breaks.Inline (TypeRef.typeText reference)) :
    ∀ text ∈ Route.typeNote title type, breaks.Inline text := by
  intro text member
  cases type with
  | none => cases member
  | some reference =>
      obtain rfl := List.mem_singleton.mp member
      exact (breaks.inline_of_isVisible visible).append (known reference rfl)

/-- Comments are confined if nothing that they tell of the interface ends a line. -/
theorem confines_of_inline {api : HttpInterface} (name : breaks.Inline api.name)
    (params : ∀ name ∈ api.paramNames, breaks.Inline name)
    (body : ∀ type ∈ api.bodyType, breaks.Inline (TypeRef.typeText type))
    (response : ∀ type ∈ api.responseType, breaks.Inline (TypeRef.typeText type))
    (headers : ∀ header ∈ api.headers, breaks.Inline header) : breaks.Confines api := by
  intro text member
  apply Inline.confined
  unfold commentTexts at member
  split at member
  · cases member
  · rcases List.mem_cons.mp member with rfl | member
    · exact (breaks.inline_of_isVisible (by decide)).append name
    · simp only [Route.notesOf, List.mem_append] at member
      rcases member with ((member | member) | member) | member
      · exact breaks.inline_of_mem_listNote (by decide) params text member
      · exact breaks.inline_of_mem_typeNote (by decide) body text member
      · exact breaks.inline_of_mem_typeNote (by decide) response text member
      · exact breaks.inline_of_mem_listNote (by decide) headers text member

/-! ## Modules -/

/-- The code of the module is that of its routes, between what is the same for all interfaces. -/
theorem code_serverModule (interfaces : List HttpInterface) (typeNames : List Text) :
    breaks.code (serverModule interfaces typeNames) =
      breaks.code (serverOpening typeNames) ++
        (interfaces.flatMap breaks.codeOf ++ breaks.code (lines ["\x7d"])) := by
  rw [serverModule_eq_lines, serverOpening]
  simp only [code_lines, List.flatMap_append, List.append_assoc]
  rw [List.flatMap_assoc]
  rfl

theorem code_serverModule_inj (typeNames : List Text) (first second : List HttpInterface) :
    breaks.code (serverModule first typeNames) = breaks.code (serverModule second typeNames) ↔
      first.flatMap breaks.codeOf = second.flatMap breaks.codeOf := by
  rw [code_serverModule, code_serverModule, List.append_cancel_left_eq, List.append_cancel_right_eq]

theorem length_flatMap_codeOf {first second : List HttpInterface}
    (same : List.Forall₂ SameRoute first second) (confined : ∀ api ∈ second, breaks.Confines api) :
    (first.flatMap breaks.codeOf).length =
      (second.flatMap breaks.codeOf).length + (first.flatMap breaks.straysOf).length := by
  induction same with
  | nil => rfl
  | cons here _ ih =>
      obtain ⟨isConfined, others⟩ := List.forall_mem_cons.mp confined
      have head := breaks.length_codeOf here isConfined
      have tail := ih others
      simp only [List.flatMap_cons, List.length_append]
      omega

/-- Whatever the comments leave is more code. -/
theorem flatMap_codeOf_eq_iff {first second : List HttpInterface}
    (same : List.Forall₂ SameRoute first second) (confined : ∀ api ∈ second, breaks.Confines api) :
    first.flatMap breaks.codeOf = second.flatMap breaks.codeOf ↔
      ∀ api ∈ first, breaks.Confines api := by
  constructor
  · intro equal api member
    have longer := breaks.length_flatMap_codeOf same confined
    rw [equal] at longer
    have none : first.flatMap breaks.straysOf = [] := List.length_eq_zero_iff.mp (by omega)
    exact (breaks.straysOf_eq_nil_iff api).mp (List.flatMap_eq_nil_iff.mp none api member)
  · intro confined'
    induction same with
    | nil => rfl
    | cons here _ ih =>
        obtain ⟨isConfined, others⟩ := List.forall_mem_cons.mp confined
        obtain ⟨isConfined', others'⟩ := List.forall_mem_cons.mp confined'
        rw [List.flatMap_cons, List.flatMap_cons, breaks.codeOf_congr here isConfined' isConfined,
          ih others others']

end LineEnds

/-- **Comments are inert exactly if they are confined.** Of two lists of interfaces with the same routes,
the second one with confined comments, the modules have the same code exactly if the comments of the
first one are confined too. -/
theorem code_serverModule_eq_iff (breaks : LineEnds) (typeNames : List Text)
    (first second : List HttpInterface) (same : List.Forall₂ SameRoute first second)
    (confined : ∀ api ∈ second, breaks.Confines api) :
    breaks.code (serverModule first typeNames) = breaks.code (serverModule second typeNames) ↔
      ∀ api ∈ first, breaks.Confines api :=
  (breaks.code_serverModule_inj typeNames first second).trans
    (breaks.flatMap_codeOf_eq_iff same confined)

/-! ## A name that goes on behind its line -/

/-- An interface of this name, and nothing else told about it. -/
def namedInterface (name : Text) : HttpInterface :=
  ⟨name, .get, "/users", [], none, none, [], false⟩

theorem sameRoute_namedInterface (first second : Text) :
    SameRoute (namedInterface first) (namedInterface second) := ⟨rfl, rfl, rfl⟩

theorem confines_namedInterface (breaks : LineEnds) {name : Text}
    (visible : LineEnds.isVisible name = true) :
    ∀ api ∈ [namedInterface name], breaks.Confines api := by
  intro api member
  obtain rfl := List.mem_singleton.mp member
  apply LineEnds.confines_of_inline
  · exact breaks.inline_of_isVisible visible
  -- nothing else is told of it
  all_goals
    intro _ member
    cases member

theorem code_serverModule_eq_iff_of_listUsers :
    List.Forall₂ SameRoute [namedInterface "listUsers"] [namedInterface "showUsers"] ∧
      (∀ api ∈ [namedInterface "showUsers"], LineEnds.script.Confines api) ∧
      (LineEnds.script.code (serverModule [namedInterface "listUsers"] ["User"]) =
          LineEnds.script.code (serverModule [namedInterface "showUsers"] ["User"]) ↔
        ∀ api ∈ [namedInterface "listUsers"], LineEnds.script.Confines api) := by
  have same : List.Forall₂ SameRoute [namedInterface "listUsers"] [namedInterface "showUsers"] :=
    .cons (sameRoute_namedInterface _ _) .nil
  have confined : ∀ api ∈ [namedInterface "showUsers"], LineEnds.script.Confines api :=
    confines_namedInterface LineEnds.script (by decide)
  exact ⟨same, confined, code_serverModule_eq_iff LineEnds.script ["User"] _ _ same confined⟩

theorem ofJson_namedInterface (first : CodePoint) (rest : Text) :
    (HttpInterface.ofJson (.object [("name", .string (first :: rest)), ("method", .string "GET"),
      ("path", .string "/users")])).outcome = .ok (namedInterface (first :: rest)) := by
  rfl

/-- Not all interfaces of a document have confined comments: two that differ in their names can have
different code. -/
theorem not_all_comments_inert : ¬ ∀ (typeNames : List Text) (first second : List HttpInterface),
    (∀ api ∈ first ++ second, ∃ raw, (HttpInterface.ofJson raw).outcome = .ok api) →
    List.Forall₂ SameRoute first second →
    LineEnds.feed.code (serverModule first typeNames) =
      LineEnds.feed.code (serverModule second typeNames) := by
  intro all
  have same : List.Forall₂ SameRoute [namedInterface "listUsers\nprocess.exit(1);"]
      [namedInterface "listUsers"] := .cons (sameRoute_namedInterface _ _) .nil
  have equal := all [] _ _
    (by
      intro api member
      rcases List.mem_cons.mp member with rfl | member
      · exact ⟨_, ofJson_namedInterface _ _⟩
      · obtain rfl := List.mem_singleton.mp member
        exact ⟨_, ofJson_namedInterface _ _⟩)
    same
  -- then the name would be confined
  have confined : ∀ api ∈ [namedInterface "listUsers"], LineEnds.feed.Confines api :=
    confines_namedInterface LineEnds.feed (by decide)
  rw [LineEnds.code_serverModule_inj, LineEnds.flatMap_codeOf_eq_iff _ same confined] at equal
  have comment : isComment "process.exit(1);\n" = true :=
    equal _ (List.mem_singleton_self _) _ List.mem_cons_self _ (by decide)
  exact absurd comment (by decide)

end TypedEndpoints.Source
