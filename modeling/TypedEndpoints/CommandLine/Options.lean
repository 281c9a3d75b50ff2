import TypedEndpoints.Text.Shown
/-!
The options of the command line. An option with a value takes the rest of its argument (`--output=dir`,
`-odir`) or the whole next one, whatever that looks like. Flags of one letter may share an argument, with
an option of one letter and its value at the end. Options and other arguments mix freely; after `--`
there are no more options. Of an option given twice the last value counts.
-/
set_option autoImplicit false
namespace TypedEndpoints.CommandLine

inductive Switch where
  | metadata
  | output
  | strict
  | verbose
  | help
  deriving DecidableEq

namespace Switch

def takesValue : Switch → Bool
  | metadata | output => true
  | strict | verbose | help => false

/-- The long names, in alphabetical order. -/
def longNames : List (Text × Switch) := [
  ("--help", help), ("--metadata", metadata), ("--output", output), ("--strict", strict),
  ("--verbose", verbose)]

def ofLong? (name : Text) : Option Switch := List.lookup name longNames

def ofShort? (letter : CodePoint) : Option Switch :=
  List.lookup letter [(.scalar 'm', metadata), (.scalar 'o', output), (.scalar 'v', verbose)]

end Switch

/-- What is wrong with the arguments. -/
inductive UsageError where
  | noSuchOption (name : Text)
  | requiresArgument (name : Text)
  | takesNoValue (name : Text)
  | unexpectedArguments (arguments : List Text)
  /-- A directory where a file is wanted. -/
  | fileIsDirectory (typed : Text)
  /-- A file where a directory is wanted. -/
  | directoryIsFile (typed : Text)
  | notBoolean (typed : Text)
  deriving DecidableEq

/-- What one argument says: flags, and after them perhaps an option with its value, or one that takes
the next argument for its value. -/
inductive Reading where
  | flags (flags : List Switch)
  | valued (flags : List Switch) (switch : Switch) (value : Text)
  | awaiting (flags : List Switch) (switch : Switch) (name : Text)

def Reading.withFlag (flag : Switch) : Reading → Reading
  | flags others => flags (flag :: others)
  | valued others switch value => valued (flag :: others) switch value
  | awaiting others switch name => awaiting (flag :: others) switch name

/-- Reads the letters after a single dash. -/
def readLetters : Text → Except UsageError Reading
  | [] => .ok (.flags [])
  | letter :: rest =>
    let name : Text := [.scalar '-', letter]
    match Switch.ofShort? letter with
    | none => .error (.noSuchOption name)
    | some switch =>
      if switch.takesValue then
        .ok (if rest.isEmpty then .awaiting [] switch name else .valued [] switch rest)
      else (readLetters rest).map (Reading.withFlag switch)

/-- The text in front of the first equals sign, and the text behind it if there is one. -/
def splitAtEquals : Text → Text × Option Text
  | [] => ([], none)
  | point :: rest =>
    if point = .scalar '=' then ([], some rest)
    else
      let (before, after) := splitAtEquals rest
      (point :: before, after)

/-- Reads an argument that begins with a dash and goes on. -/
def readOption (argument : Text) : Except UsageError Reading :=
  let (name, attached) := splitAtEquals argument
  match Switch.ofLong? name with
  | some switch =>
    match switch.takesValue, attached with
    | true, some value => .ok (.valued [] switch value)
    | true, none => .ok (.awaiting [] switch name)
    | false, some _ => .error (.takesNoValue name)
    | false, none => .ok (.flags [switch])
  | none =>
    if argument.take 2 = "--" then .error (.noSuchOption name)
    else readLetters (argument.drop 1)

/-- What the arguments say. -/
structure Given where
  metadata : Option Text
  output : Option Text
  strict : Bool
  verbose : Bool
  help : Bool
  /-- The options in the order in which they first appear. -/
  seen : List Switch
  /-- The arguments that are no options. -/
  extra : List Text

namespace Given

def nothing : Given := ⟨none, none, false, false, false, [], []⟩

def see (given : Given) (switch : Switch) : Given :=
  { given with seen := if switch ∈ given.seen then given.seen else given.seen ++ [switch] }

def set (given : Given) (switch : Switch) (value : Text) : Given :=
  let given := given.see switch
  match switch with
  | .metadata => { given with metadata := some value }
  | .output => { given with output := some value }
  | .strict => { given with strict := true }
  | .verbose => { given with verbose := true }
  | .help => { given with help := true }

def setFlags (given : Given) (flags : List Switch) : Given :=
  flags.foldl (fun given flag => given.set flag "") given

def addExtra (given : Given) (arguments : List Text) : Given :=
  { given with extra := given.extra ++ arguments }

/-- Adds what the arguments say. -/
def addArguments (given : Given) : List Text → Except UsageError Given
  | [] => .ok given
  | argument :: rest =>
    if argument = "--" then .ok (given.addExtra rest)
    else if argument.head? = some (.scalar '-') ∧ argument ≠ "-" then
      match readOption argument with
      | .error error => .error error
      | .ok (.flags flags) => addArguments (given.setFlags flags) rest
      | .ok (.valued flags switch value) =>
        addArguments ((given.setFlags flags).set switch value) rest
      | .ok (.awaiting flags switch name) =>
        match rest with
        | [] => .error (.requiresArgument name)
        | value :: rest => addArguments ((given.setFlags flags).set switch value) rest
    else addArguments (given.addExtra [argument]) rest

def ofArguments (arguments : List Text) : Except UsageError Given :=
  addArguments nothing arguments

end Given
end TypedEndpoints.CommandLine
