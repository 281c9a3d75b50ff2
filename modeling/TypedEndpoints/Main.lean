import TypedEndpoints.CommandLine.Run
/-!
The program: runs the command line on the files of the system.
-/
set_option autoImplicit false
namespace TypedEndpoints

open Files

/-- The number of an error; some operations give it negated. -/
def errorNumber (code : UInt32) : Nat := if code < 0x80000000 then code.toNat else (-code).toNat

/-- The number that the system gave an error, and its words. -/
def systemError : IO.Error → Nat × String
  | .alreadyExists _ code words | .noFileOrDirectory _ code words | .permissionDenied _ code words
  | .invalidArgument _ code words | .resourceExhausted _ code words
  | .inappropriateType _ code words | .noSuchThing _ code words | .interrupted _ code words
  | .otherError code words | .resourceBusy code words | .resourceVanished code words
  | .unsupportedOperation code words | .hardwareFault code words
  | .unsatisfiedConstraints code words | .illegalOperation code words
  | .protocolError code words | .timeExpired code words => (errorNumber code, words)
  | .unexpectedEof => (5, "Input/output error")
  | .userError words => (5, words)

def causeOfNumber (number : Nat) (words : String) : Cause :=
  match [Cause.noEntry, .alreadyExists, .notDirectory, .isDirectory, .nameTooLong].find?
      (·.number == number) with
  | some cause => cause
  | none => .other number words

/-- The characters of a text. -/
def plainString (text : Text) : String := String.ofList (text.filterMap CodePoint.char?)

/-- Runs an action on the name of a path. A name with octets that are in no character cannot be passed to
the system. -/
def attempt {α : Type} (path : Path) (action : String → IO α) : IO (Except Fault α) := do
  match Text.toString? path.text with
  | none => return .error ⟨.other 84 "Invalid or incomplete multibyte or wide character", path⟩
  | some name =>
    try
      return .ok (← action name)
    catch error =>
      let (number, words) := systemError error
      return .error ⟨causeOfNumber number words, path⟩

def statSystem (path : Path) : IO (Option Kind) := do
  match Text.toString? path.text with
  | none => return none
  | some name =>
    let entry : IO.FS.DirEntry := ⟨".", name⟩
    try
      match (← entry.path.metadata).type with
      | .dir => return some .directory
      | .file => return some .file
      | _ => return none
    catch _ => return none

instance : FileAccess IO where
  stat := statSystem
  read path := attempt path fun name => return (← IO.FS.readBinFile name).toList
  makeDirectory path := attempt path fun name => IO.FS.createDir name
  store path content := attempt path fun name => IO.FS.writeBinFile name ⟨content.toArray⟩
  remove path := do
    if (← statSystem path) = some .directory then return .error ⟨.isDirectory, path⟩
    else attempt path fun name => IO.FS.removeFile name
  move source target := attempt source fun name => do
    match Text.toString? target.text with
    | none => throw (.userError "Invalid or incomplete multibyte or wide character")
    | some destination => IO.FS.rename name destination

/-- How deep a document may be nested. -/
def mostNesting : Nat := 980

end TypedEndpoints

open TypedEndpoints TypedEndpoints.CommandLine

def main (arguments : List String) : IO UInt32 := do
  let environment : Environment := {
    metadata := (← IO.getEnv "CONTRACTGEN_METADATA").map Text.ofString
    output := (← IO.getEnv "CONTRACTGEN_OUTPUT_DIR").map Text.ofString
    strict := (← IO.getEnv "CONTRACTGEN_STRICT").map Text.ofString
    nesting := mostNesting }
  let report ← run environment (arguments.map Text.ofString)
  IO.print (plainString report.output)
  IO.eprint (plainString report.errors)
  match report.escaped with
  | none => pure ()
  | some error => IO.eprintln (plainString error.message)
  return UInt32.ofNat report.exitCode
