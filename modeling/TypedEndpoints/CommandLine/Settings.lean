import TypedEndpoints.CommandLine.Options
import TypedEndpoints.Files.Load
import TypedEndpoints.Files.Outputs
/-!
The settings of a run. A value comes from the arguments, else from the environment unless it is empty
there, else it is the default. The values are checked in the order in which the options first appear,
those that do not appear after them; only then are arguments that are no options refused.
-/
set_option autoImplicit false
namespace TypedEndpoints.CommandLine

open Files

/-- Why the values of a run are refused. -/
inductive Refusal where
  | usage (error : UsageError)
  | badPath (flaw : Path.Flaw)

/-- What a run finds: the variables that stand for options, and how deep the stack lets a document be
nested. -/
structure Environment where
  metadata : Option Text
  output : Option Text
  strict : Option Text
  nesting : Nat

structure Settings where
  metadata : Path
  output : Path
  strict : Bool
  verbose : Bool
  nesting : Nat

/-- A variable of the environment that is set to something. -/
def nonempty (value? : Option Text) : Option Text := value?.filter (· ≠ [])

/-- Blanks around a typed value that do not count. -/
def blankRanges : List (Nat × Nat) := [
  (0x9, 0xD), (0x1C, 0x20), (0x85, 0x85), (0xA0, 0xA0), (0x1680, 0x1680), (0x2000, 0x200A),
  (0x2028, 0x2029), (0x202F, 0x202F), (0x205F, 0x205F), (0x3000, 0x3000)]

def withoutBlanks (typed : Text) : Text :=
  let isBlank (point : CodePoint) : Bool := inRanges blankRanges point.value
  ((typed.dropWhile isBlank).reverse.dropWhile isBlank).reverse

/-- A letter of the words for on and off in lower case. -/
def lowered : CodePoint → CodePoint
  | .scalar c => .scalar c.toLower
  | half => half

/-- The flag that a typed value stands for; a blank one is off. -/
def readBoolean? (typed : Text) : Option Bool :=
  let word := (withoutBlanks typed).map lowered
  if (["1", "true", "t", "yes", "y", "on"] : List Text).contains word then some true
  else if (["", "0", "false", "f", "no", "n", "off"] : List Text).contains word then some false
  else none

/-- Does the typed text say that it means a directory? -/
def meansDirectory (typed : Text) : Bool :=
  match (Path.splitAtSlashes typed).getLast? with
  | some [] | some [.scalar '.'] => true
  | _ => false

variable {m : Type → Type} [Monad m] [FileAccess m]

/-- The kind of what stands at a typed path. Nothing stands at the empty text, nor at a text that is too
long as it is typed, and no file at a text that means a directory. -/
def typedKind (typed : Text) : m (Option Kind) :=
  if typed = [] ∨ Tree.longestPath < (octetsOf typed).length then pure none
  else do
    let kind ← FileAccess.stat (Path.ofText typed)
    return if kind = some .file ∧ meansDirectory typed then none else kind

/-- The path of a typed text, unless something of the wrong kind stands there. -/
def checkedPath (typed : Text) (wrong : Kind) (error : Text → UsageError) :
    m (Except Refusal Path) := do
  match Path.flawOf? typed with
  | some flaw => return .error (.badPath flaw)
  | none =>
    let kind ← typedKind typed
    return if kind = some wrong then .error (.usage (error typed)) else .ok (.ofText typed)

/-- The typed path of the document. -/
def typedMetadata (environment : Environment) (given : Given) : Text :=
  (given.metadata.or (nonempty environment.metadata)).getD "data/metadata.json"

/-- The typed path of the output directory. -/
def typedOutput (environment : Environment) (given : Given) : Text :=
  (given.output.or (nonempty environment.output)).getD "generated"

def checkStrict (environment : Environment) (given : Given) : Except UsageError Bool :=
  if given.strict then .ok true
  else match nonempty environment.strict with
    | none => .ok false
    | some typed =>
      match readBoolean? typed with
      | some value => .ok value
      | none => .error (.notBoolean typed)

/-- Checks the value of one option. -/
def checkSwitch (environment : Environment) (given : Given) (settings : Settings) :
    Switch → m (Except Refusal Settings)
  | .metadata => do
    let path ← checkedPath (typedMetadata environment given) .directory .fileIsDirectory
    return path.map fun path => { settings with metadata := path }
  | .output => do
    let path ← checkedPath (typedOutput environment given) .file .directoryIsFile
    return path.map fun path => { settings with output := path }
  | .strict =>
    return match checkStrict environment given with
      | .error error => .error (.usage error)
      | .ok strict => .ok { settings with strict := strict }
  | .verbose => return .ok { settings with verbose := given.verbose }
  | .help => return .ok settings

/-- Checks the values of options in order, up to the first that is wrong. -/
def checkSwitches (environment : Environment) (given : Given) (settings : Settings) :
    List Switch → m (Except Refusal Settings)
  | [] => return .ok settings
  | switch :: rest => do
    match ← checkSwitch environment given settings switch with
    | .error refusal => return .error refusal
    | .ok settings => checkSwitches environment given settings rest

/-- The order in which values are checked. -/
def checkOrder (given : Given) : List Switch :=
  given.seen ++ [Switch.metadata, .output, .strict, .verbose].filter (· ∉ given.seen)

def Settings.default (nesting : Nat) : Settings where
  metadata := defaultDocument
  output := defaultOutputDirectory
  strict := false
  verbose := false
  nesting := nesting

/-- The settings that arguments and environment ask for. -/
def Settings.ofGiven (environment : Environment) (given : Given) : m (Except Refusal Settings) := do
  match ← checkSwitches environment given (.default environment.nesting) (checkOrder given) with
  | .error refusal => return .error refusal
  | .ok settings =>
    return if given.extra.isEmpty then .ok settings
      else .error (.usage (.unexpectedArguments given.extra))

end TypedEndpoints.CommandLine
