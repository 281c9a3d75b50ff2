import TypedEndpoints.Text.Shown
import TypedEndpoints.Text.Utf8
/-!
Paths as they are typed and printed. A path is a list of steps, each down to a name or up to the parent;
the last step comes first. Reading a path drops empty parts and single dots and keeps the steps up, since
what is above a directory is not always where one came from. A path without steps is the directory one
starts in. Two slashes at the start are kept as they are typed, and mean what one slash means.

For the system a name is a row of octets. Octets that are in no character stand in a text as halves of
surrogate pairs, the octet 80 as U+DC80 and so on to FF. A path with any other half is refused before the
system is asked, and so is one with the null character, which the system takes for the end of a path.
-/
set_option autoImplicit false
namespace TypedEndpoints.Files

/-! ## Names -/

/-- Does the code point stand for an octet that is in no character? -/
def isStrayOctet : CodePoint → Bool
  | .scalar _ => false
  | .surrogate offset => 0x480 ≤ offset.val && offset.val < 0x500

/-- The octets of a code point. Those that are in no character are the last eight bits of their halves. -/
def octetsOfPoint : CodePoint → List UInt8
  | .scalar c => String.utf8EncodeChar c
  | .surrogate offset => [UInt8.ofNat offset.val]

/-- The octets of a text, as the system takes it for a path. -/
def octetsOf (text : Text) : List UInt8 := text.flatMap octetsOfPoint

/-- A typed path in a message, with the replacement character for octets that are in no character. -/
def shownTyped (typed : Text) : Text := Text.shown (Utf8.decodeReplacing (octetsOf typed))

/-! ## Paths -/

inductive Step where
  | up
  | down (name : Text)
  deriving DecidableEq

def Step.text : Step → Text
  | .up => ".."
  | .down name => name

/-- Where a path starts. -/
inductive Anchor where
  | workingDirectory
  | root
  /-- The root, told by two slashes. -/
  | doubleRoot
  deriving DecidableEq

def Anchor.text : Anchor → Text
  | .workingDirectory => []
  | .root => "/"
  | .doubleRoot => "//"

structure Path where
  anchor : Anchor
  /-- The steps, the last one first. -/
  steps : List Step
  deriving DecidableEq

namespace Path

/-- The parts of a text between slashes. -/
def splitAtSlashes : Text → List Text
  | [] => [[]]
  | point :: rest =>
    if point = .scalar '/' then [] :: splitAtSlashes rest
    else match splitAtSlashes rest with
      | [] => [[point]]
      | part :: parts => (point :: part) :: parts

/-- The step of one part, if it is one. -/
def stepOf? (part : Text) : Option Step :=
  if part = [] ∨ part = "." then none
  else if part = ".." then some .up
  else some (.down part)

/-- Where a typed path starts. Of three slashes or more only one is kept. -/
def anchorOf : Text → Anchor
  | .scalar '/' :: .scalar '/' :: .scalar '/' :: _ => .root
  | .scalar '/' :: .scalar '/' :: _ => .doubleRoot
  | .scalar '/' :: _ => .root
  | _ => .workingDirectory

/-- The path of a typed text. -/
def ofText (typed : Text) : Path where
  anchor := anchorOf typed
  steps := ((splitAtSlashes typed).filterMap stepOf?).reverse

/-- The text of a path. -/
def text (path : Path) : Text :=
  if path.anchor = .workingDirectory ∧ path.steps = [] then "."
  else path.anchor.text ++ Text.join "/" (path.steps.reverse.map Step.text)

/-- The path of an entry of a directory. -/
def child (path : Path) (name : String) : Path := { path with steps := .down name :: path.steps }

/-- Why the system cannot be asked for a path. -/
inductive Flaw where
  | unencodable (fault : Utf8.EncodeFault)
  | holdsNull
  deriving DecidableEq

def Flaw.message : Flaw → Text
  | unencodable fault => fault.message
  | holdsNull => "embedded null byte"

/-- The first run of halves from one on that stands for no octet, or else a null character. -/
def flawOf? (text : Text) : Option Flaw :=
  let plain := text.takeWhile fun point => !point.isSurrogate || isStrayOctet point
  match text.drop plain.length with
  | half :: rest =>
    some (.unencodable ⟨plain.length, half, ((half :: rest).takeWhile (·.isSurrogate)).length⟩)
  | [] => if text.contains (.scalar '\x00') then some .holdsNull else none

/-- Why the system cannot be asked for this path, if it cannot. -/
def flaw? (path : Path) : Option Flaw := flawOf? path.text

end Path
end TypedEndpoints.Files
