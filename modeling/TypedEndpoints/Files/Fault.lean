import TypedEndpoints.Files.Path
/-!
Why an operation on a file fails, with the path it was asked for. Each cause has the number and the words
that the system uses for it.
-/
set_option autoImplicit false
namespace TypedEndpoints.Files

inductive Cause where
  | noEntry
  | alreadyExists
  | notDirectory
  | isDirectory
  /-- A directory stands where an output file belongs. -/
  | outputIsDirectory
  | nameTooLong
  | other (number : Nat) (words : String)
  deriving DecidableEq

def Cause.number : Cause → Nat
  | noEntry => 2
  | alreadyExists => 17
  | notDirectory => 20
  | isDirectory => 21
  | outputIsDirectory => 21
  | nameTooLong => 36
  | other number _ => number

def Cause.words : Cause → Text
  | noEntry => "No such file or directory"
  | alreadyExists => "File exists"
  | notDirectory => "Not a directory"
  | isDirectory => "Is a directory"
  | outputIsDirectory => "Output path is a directory"
  | nameTooLong => "File name too long"
  | other _ words => words

structure Fault where
  cause : Cause
  path : Path
  deriving DecidableEq

def Fault.message (fault : Fault) : Text :=
  "[Errno " ++ Text.ofNat fault.cause.number ++ "] " ++ fault.cause.words ++ ": " ++
    Text.shown fault.path.text

end TypedEndpoints.Files
