import TypedEndpoints.Text.Basic
/-!
UTF-8, strictly: shortest forms only, no halves of surrogate pairs, nothing above U+10FFFF. A fault of
decoding names the octets from the lead octet of the bad sequence up to the one that broke it; a fault
of encoding names the first run of lone halves.

* `Utf8.encode_eq_ok_iff`: a text can be encoded exactly if it holds no lone half.
-/
set_option autoImplicit false
namespace TypedEndpoints.Utf8

/-! ## Decoding -/

inductive DecodeReason where
  | invalidStart
  | invalidContinuation
  | unexpectedEnd
  deriving DecidableEq

/-- The octets from `start` on, `count` of them, the first being `octet`, are no character. -/
structure DecodeFault where
  start : Nat
  count : Nat
  octet : UInt8
  reason : DecodeReason
  deriving DecidableEq

def isContinuation (octet : UInt8) : Bool := 0x80 ≤ octet && octet < 0xC0

/-- May the octet follow this lead octet? Some leads leave less room than any continuation: the rest
would be a longer form of a smaller number, half of a surrogate pair or a number too large. -/
def isSecond (lead octet : UInt8) : Bool :=
  isContinuation octet &&
    (if lead = 0xE0 then 0xA0 ≤ octet
     else if lead = 0xED then octet < 0xA0
     else if lead = 0xF0 then 0x90 ≤ octet
     else if lead = 0xF4 then octet < 0x90
     else true)

/-- What the octets begin with: a character and how many octets it takes, or how many of them belong
to a broken sequence. -/
inductive Sequence where
  | character (c : Char) (octets : Nat)
  | broken (octets : Nat) (reason : DecodeReason)

def payload (octet : UInt8) : Nat := octet.toNat % 0x40

/-- Reads one character; `lead` is the first octet and `rest` what follows it. -/
def Sequence.read (lead : UInt8) (rest : List UInt8) : Sequence :=
  if lead < 0x80 then .character (Char.ofNat lead.toNat) 1
  else if lead < 0xC2 then .broken 1 .invalidStart
  else if lead < 0xE0 then
    match rest with
    | [] => .broken 1 .unexpectedEnd
    | second :: _ =>
      if isContinuation second then
        .character (Char.ofNat (lead.toNat % 0x20 * 0x40 + payload second)) 2
      else .broken 1 .invalidContinuation
  else if lead < 0xF0 then
    match rest with
    | [] => .broken 1 .unexpectedEnd
    | second :: rest =>
      if isSecond lead second then
        match rest with
        | [] => .broken 2 .unexpectedEnd
        | third :: _ =>
          if isContinuation third then
            .character (Char.ofNat (lead.toNat % 0x10 * 0x1000 + payload second * 0x40
              + payload third)) 3
          else .broken 2 .invalidContinuation
      else .broken 1 .invalidContinuation
  else if lead < 0xF5 then
    match rest with
    | [] => .broken 1 .unexpectedEnd
    | second :: rest =>
      if isSecond lead second then
        match rest with
        | [] => .broken 2 .unexpectedEnd
        | third :: rest =>
          if isContinuation third then
            match rest with
            | [] => .broken 3 .unexpectedEnd
            | fourth :: _ =>
              if isContinuation fourth then
                .character (Char.ofNat (lead.toNat % 0x8 * 0x40000 + payload second * 0x1000
                  + payload third * 0x40 + payload fourth)) 4
              else .broken 3 .invalidContinuation
          else .broken 2 .invalidContinuation
      else .broken 1 .invalidContinuation
  else .broken 1 .invalidStart

/-- Decodes the octets from `position` on; `done` holds the characters before them, last first. -/
def decodeFrom (position : Nat) (done : Text) (octets : List UInt8) :
    Except DecodeFault Text :=
  match octets with
  | [] => .ok done.reverse
  | lead :: rest =>
    match Sequence.read lead rest with
    | .character c width =>
      decodeFrom (position + width) (.scalar c :: done) (rest.drop (width - 1))
    | .broken count reason => .error ⟨position, count, lead, reason⟩
termination_by octets.length
decreasing_by simp only [List.length_drop, List.length_cons]; omega

/-- The text that the octets encode, or the first fault. -/
def decode (octets : List UInt8) : Except DecodeFault Text := decodeFrom 0 [] octets

/-- The text that the octets encode, with U+FFFD in the place of each broken sequence. -/
def decodeReplacing (octets : List UInt8) : Text :=
  match octets with
  | [] => []
  | lead :: rest =>
    match Sequence.read lead rest with
    | .character c width => .scalar c :: decodeReplacing (rest.drop (width - 1))
    | .broken count _ => .scalar '\uFFFD' :: decodeReplacing (rest.drop (count - 1))
termination_by octets.length
decreasing_by all_goals simp only [List.length_drop, List.length_cons]; omega

def DecodeReason.message : DecodeReason → Text
  | .invalidStart => "invalid start byte"
  | .invalidContinuation => "invalid continuation byte"
  | .unexpectedEnd => "unexpected end of data"

def DecodeFault.message (fault : DecodeFault) : Text :=
  "'utf-8' codec can't decode " ++
    (if fault.count = 1 then
      "byte 0x" ++ Text.hex 2 fault.octet.toNat ++ " in position " ++ Text.ofNat fault.start
    else
      "bytes in position " ++ Text.ofNat fault.start ++ "-" ++
        Text.ofNat (fault.start + fault.count - 1))
    ++ ": " ++ fault.reason.message

/-! ## Encoding -/

/-- The first run of lone halves of surrogate pairs: where it starts, and its halves. -/
structure EncodeFault where
  start : Nat
  half : CodePoint
  count : Nat
  deriving DecidableEq

def EncodeFault.ofText (text : Text) : EncodeFault :=
  let plain := text.takeWhile (!·.isSurrogate)
  let rest := text.drop plain.length
  ⟨plain.length, rest.headD default, (rest.takeWhile (·.isSurrogate)).length⟩

/-- The octets of a text, or the fault of one that holds a lone half. -/
def encode (text : Text) : Except EncodeFault (List UInt8) :=
  match Text.chars? text with
  | some chars => .ok (chars.flatMap String.utf8EncodeChar)
  | none => .error (EncodeFault.ofText text)

def EncodeFault.message (fault : EncodeFault) : Text :=
  "'utf-8' codec can't encode " ++
    (if fault.count = 1 then
      "character '\\u" ++ Text.hex 4 fault.half.value ++ "' in position " ++ Text.ofNat fault.start
    else
      "characters in position " ++ Text.ofNat fault.start ++ "-" ++
        Text.ofNat (fault.start + fault.count - 1))
    ++ ": surrogates not allowed"

theorem chars?_isSome (text : Text) :
    (Text.chars? text).isSome = true ↔ ∀ point ∈ text, point.isSurrogate = false := by
  induction text with
  | nil => simp [Text.chars?]
  | cons point rest ih =>
      rw [List.forall_mem_cons, ← ih]
      cases point with
      | surrogate offset => simp [Text.chars?, CodePoint.char?, CodePoint.isSurrogate]
      | scalar c =>
          simp only [Text.chars?, List.mapM_cons, CodePoint.char?, CodePoint.isSurrogate]
          cases List.mapM CodePoint.char? rest <;> simp

/-- A text can be encoded exactly if it holds no lone half of a surrogate pair. -/
theorem encode_eq_ok_iff (text : Text) :
    (∃ octets, encode text = .ok octets) ↔ ∀ point ∈ text, point.isSurrogate = false := by
  rw [← chars?_isSome]
  cases found : Text.chars? text <;> simp [encode, found]

end TypedEndpoints.Utf8
