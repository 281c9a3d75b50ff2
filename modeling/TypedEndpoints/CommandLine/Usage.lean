import TypedEndpoints.CommandLine.Options
import TypedEndpoints.Files.Path
import TypedEndpoints.Text.Similarity
/-!
What the command line says about itself: its help, and the text of a usage error. An option without its
value, and a flag with one, are told without the reminder of how to get help. An option that there is
none of is told with the long names that are like it; one letter is like none of them.
-/
set_option autoImplicit false
namespace TypedEndpoints.CommandLine

open Files

def helpLines : List Text := [
  "Usage: main [OPTIONS]",
  "",
  "  Generate TypeScript types, server stubs and client functions from metadata.",
  "",
  "Options:",
  "  -m, --metadata FILE     Metadata document to read.  [default:",
  "                          data/metadata.json]",
  "  -o, --output DIRECTORY  Directory for types.ts, server.ts and client.ts.",
  "                          [default: generated]",
  "  --strict                Fail on undefined type references and unmatched path",
  "                          parameters.",
  "  -v, --verbose           Enable debug logging.",
  "  --help                  Show this message and exit."]

def helpText : Text := helpLines.flatMap fun line => line ++ "\n"

def usageReminder : Text := "Usage: main [OPTIONS]\nTry 'main --help' for help.\n\n"

namespace UsageError

/-- Does the reminder stand in front of the error? -/
def hasReminder : UsageError → Bool
  | requiresArgument _ | takesNoValue _ => false
  | _ => true

/-- The options that somebody who typed such a name may have meant. -/
def suggestion (name : Text) : Text :=
  match Similarity.closest (Switch.longNames.map Prod.fst) name with
  | [] => []
  | [only] => " Did you mean " ++ Text.shown only ++ "?"
  | several =>
    " (Did you mean one of: " ++ Text.join ", " (several.map Text.shown) ++ "?)"

def message : UsageError → Text
  | noSuchOption name => "No such option " ++ Text.shown name ++ "." ++ suggestion name
  | requiresArgument name => "Option " ++ Text.shown name ++ " requires an argument."
  | takesNoValue name => "Option " ++ Text.shown name ++ " does not take a value."
  | unexpectedArguments [only] => "Got unexpected extra argument (" ++ only ++ ")"
  | unexpectedArguments arguments =>
    "Got unexpected extra arguments (" ++ Text.join " " arguments ++ ")"
  | fileIsDirectory typed =>
    "Invalid value for '-m' / '--metadata': File " ++ shownTyped typed ++ " is a directory."
  | directoryIsFile typed =>
    "Invalid value for '-o' / '--output': Directory " ++ shownTyped typed ++ " is a file."
  | notBoolean typed =>
    "Invalid value for '--strict': " ++ Text.shown typed ++ " is not a valid boolean. " ++
      "Recognized values: , 0, 1, f, false, n, no, off, on, t, true, y, yes"

def text (error : UsageError) : Text :=
  (if error.hasReminder then usageReminder else []) ++ "Error: " ++ error.message ++ "\n"

end UsageError
end TypedEndpoints.CommandLine
