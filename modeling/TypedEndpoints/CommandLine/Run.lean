import TypedEndpoints.CommandLine.Settings
import TypedEndpoints.CommandLine.Usage
import TypedEndpoints.Schema.Problems
import TypedEndpoints.Text.ControlSequence
/-!
A run of the command line: load the document, find its problems, and write the emitted modules, unless
problems are to stop it. A run tells its exit code, its output and its errors: the log of the run, then
the error that ended it. A few errors are not caught; such a run fails without a text of its own. What
is told has no control sequences in it; the records of the log keep theirs.

The lines about what was written are told last, one after the other, on an output that takes UTF-8 and
nothing else. A line with half of a surrogate pair cannot be told, and the run ends there, with its files
written; names of directories have such halves where their octets are in no character. What can be told is
assumed to be taken; the errors and the log take everything, halves as escapes.
-/
set_option autoImplicit false
namespace TypedEndpoints.CommandLine

open Files

/-- An error that ends a run without being told. -/
inductive Escaped where
  | badPath (flaw : Path.Flaw)
  | undecodable (fault : Utf8.DecodeFault)
  | tooManyDigits (count : Nat)
  | tooDeep (container : Json.Container)
  | unwritable (error : Source.EmitError)
  | unencodable (fault : Utf8.EncodeFault)

def Escaped.message : Escaped → Text
  | badPath flaw => flaw.message
  | undecodable fault => fault.message
  | tooManyDigits count => (LoadError.tooManyDigits count).message
  | tooDeep container => (LoadError.tooDeep container).message
  | unwritable error => error.message
  | unencodable fault => fault.message

/-- How a run ended. -/
structure Report where
  exitCode : Nat
  output : Text
  errors : Text
  escaped : Option Escaped

/-- Why a run failed. -/
inductive Failure where
  | told (message : Text)
  | escaped (error : Escaped)

/-- The failure of a run that could not load its document. -/
def loadFailure (path : Path) : LoadError → Failure
  | .badPath flaw => .escaped (.badPath flaw)
  | .unreadable fault => .told ("Cannot read " ++ path.text ++ ": " ++ fault.message)
  | .notJson path flaw mark => .told (LoadError.notJson path flaw mark).message
  | .malformed error => .told error.message
  | .undecodable fault => .escaped (.undecodable fault)
  | .tooManyDigits count => .escaped (.tooManyDigits count)
  | .tooDeep container => .escaped (.tooDeep container)

/-- The failure of a run that stopped at problems. -/
def problemFailure (path : Path) (problems : List Text) : Failure :=
  .told (Text.ofNat problems.length ++ " problem(s) in " ++ path.text ++ ":\n  " ++
    Text.join "\n  " problems)

/-- The failure of a run that could not write. -/
def writeFailure (directory : Path) : WriteError → Failure
  | .badPath flaw => .escaped (.badPath flaw)
  | .fault fault => .told ("Cannot write to " ++ directory.text ++ ": " ++ fault.message)
  | .unencodable fault => .escaped (.unencodable fault)

/-- The lines that a run that wrote its files has to say. -/
def successLines (directory : Path) (metadata : Metadata) (written : List Path) : List Text :=
  written.map (fun path => ("  Created " ++ path.text ++ "\n" : Text)) ++
    ["Generated " ++ Text.ofNat written.length ++ " files in " ++ directory.text ++ " (" ++
      Text.ofNat metadata.dataTypes.length ++ " types, " ++
      Text.ofNat metadata.httpInterfaces.length ++ " interfaces)\n"]

/-- Tells lines up to the first that cannot be encoded: what was told, and why no more was. -/
def tell : List Text → Text × Option Utf8.EncodeFault
  | [] => ([], none)
  | line :: rest =>
    let shown := line.withoutControlSequences
    match Utf8.encode shown with
    | .error fault => ([], some fault)
    | .ok _ =>
      let (told, fault) := tell rest
      (shown ++ told, fault)

/-- Halves of surrogate pairs that stand alone are written as escapes. -/
def withoutHalves (text : Text) : Text :=
  text.flatMap fun
    | .scalar c => [.scalar c]
    | .surrogate offset => "\\u" ++ Text.hex 4 (CodePoint.surrogate offset).value

/-- The records that a run shows, one a line. -/
def logText (verbose : Bool) (log : List Record) : Text :=
  (log.filter fun record => verbose || record.level == .warning).flatMap fun record =>
    record.line ++ "\n"

/-- The text that tells a failure. -/
def errorText (message : Text) : Text :=
  Text.withoutControlSequences ("Error: " ++ message ++ "\n")

/-- The report of a run that wrote its files. -/
def Report.success (settings : Settings) (log : List Record) (lines : List Text) : Report :=
  let errors := withoutHalves (logText settings.verbose log)
  match tell lines with
  | (told, none) => ⟨0, told, errors, none⟩
  | (told, some fault) => ⟨1, told, errors, some (.unencodable fault)⟩

def Report.failure (settings : Settings) (log : List Record) : Failure → Report
  | .told message =>
    ⟨1, [], withoutHalves (logText settings.verbose log ++ errorText message), none⟩
  | .escaped error => ⟨1, [], withoutHalves (logText settings.verbose log), some error⟩

variable {m : Type → Type} [Monad m] [FileAccess m]

/-- Writes the modules of a document; `log` is what the run reported before. -/
def writeModules (settings : Settings) (log : List Record) (metadata : Metadata) : m Report := do
  match Source.Bundle.emit metadata with
  | .error error => return .failure settings log (.escaped (.unwritable error))
  | .ok bundle =>
    let written ← bundle.write settings.output
    let log := log ++ written.log
    match written.outcome with
    | .error error => return .failure settings log (writeFailure settings.output error)
    | .ok paths => return .success settings log (successLines settings.output metadata paths)

/-- Runs with the given settings. -/
def execute (settings : Settings) : m Report := do
  let loaded ← Metadata.load settings.nesting settings.metadata
  match loaded.outcome with
  | .error error => return .failure settings loaded.log (loadFailure settings.metadata error)
  | .ok metadata =>
    let problems := metadata.problems
    let log := loaded.log ++ problemRecords problems
    if settings.strict && !problems.isEmpty then
      return .failure settings log (problemFailure settings.metadata problems)
    else writeModules settings log metadata

def Report.usage (error : UsageError) : Report :=
  ⟨2, [], withoutHalves error.text.withoutControlSequences, none⟩

/-- The report of a run whose values are refused. -/
def Report.refused : Refusal → Report
  | .usage error => .usage error
  | .badPath flaw => ⟨1, [], [], some (.badPath flaw)⟩

/-- Runs with the given arguments. -/
def run (environment : Environment) (arguments : List Text) : m Report :=
  match Given.ofArguments arguments with
  | .error error => return .usage error
  | .ok given =>
    if given.help then return ⟨0, helpText, [], none⟩
    else do
      match ← Settings.ofGiven environment given with
      | .error refusal => return .refused refusal
      | .ok settings => execute settings

end TypedEndpoints.CommandLine
