import Mathlib.Algebra.Group.Nat.Defs
import TypedEndpoints.Json.Reader
/-!
The limits of the reader. It stops at a whole number with more than `Numeral.mostDigits` digits, and at an
opening bracket when no level is left. For either reason it stops only where the text gives it: there are so
many digits in a row, or more opening brackets than levels. What it reads keeps to the limit of digits.

* `Stop.Due`, `Within`: a reason to stop, and what is said of a reading;
* `Brief`: a value in which no whole number has too many digits;
* `read_tooManyDigits`, `read_tooDeep`, `brief_of_read`: how the reader ends;
* `read_brackets`: it does stop where so many arrays are opened.
-/
set_option autoImplicit false
namespace TypedEndpoints
namespace Json

/-- The text has so many digits in a row. -/
def HasDigits (count : Nat) (text : Text) : Prop :=
  ∃ digits : List Char, digits.length = count ∧ (∀ c ∈ digits, c.isDigit = true) ∧
    digits.map .scalar <:+: text

theorem HasDigits.of_suffix {count : Nat} {left text : Text} (has : HasDigits count left)
    (suffix : left <:+ text) : HasDigits count text := by
  obtain ⟨digits, length, all, inside⟩ := has
  exact ⟨digits, length, all, inside.trans suffix.isInfix⟩

/-! ## Numerals and strings -/

theorem takeDigits_eq (text : Text) :
    text = (takeDigits text).1.map .scalar ++ (takeDigits text).2 ∧
      ∀ c ∈ (takeDigits text).1, c.isDigit = true := by
  fun_induction takeDigits text with
  | case1 c rest digit digits left taken ih =>
    simp only [taken] at ih ⊢
    exact ⟨congrArg (_ :: ·) ih.1, List.forall_mem_cons.mpr ⟨digit, ih.2⟩⟩
  | case2 => simp
  | case3 => simp

namespace Numeral

theorem takeMinus_suffix (text : Text) : (takeMinus text).2 <:+ text := by
  unfold takeMinus
  split
  · exact List.suffix_cons _ _
  · exact List.suffix_refl _

theorem takeSign_suffix (text : Text) : (takeSign text).2 <:+ text := by
  unfold takeSign
  split
  · exact List.suffix_cons _ _
  · exact List.suffix_cons _ _
  · exact List.suffix_refl _

theorem takeDigits_suffix (text : Text) : (takeDigits text).2 <:+ text :=
  ⟨_, (takeDigits_eq text).1.symm⟩

theorem takeFraction_suffix (text : Text) : (takeFraction text).2 <:+ text := by
  unfold takeFraction
  split
  · next rest =>
    have suffix := takeDigits_suffix rest
    split
    · exact List.suffix_refl _
    · next same =>
      rw [same] at suffix
      exact suffix.trans (List.suffix_cons _ _)
  · exact List.suffix_refl _

theorem takeExponent_suffix (text : Text) : (takeExponent text).2 <:+ text := by
  unfold takeExponent
  split
  · next c rest =>
    have suffix := (takeDigits_suffix (takeSign rest).2).trans (takeSign_suffix rest)
    split
    · split
      · exact List.suffix_refl _
      · next same =>
        rw [same] at suffix
        exact suffix.trans (List.suffix_cons _ _)
    · exact List.suffix_refl _
  · exact List.suffix_refl _

theorem takeWhole_eq {text left : Text} {digits : List Char}
    (taken : takeWhole text = some (digits, left)) :
    text = digits.map .scalar ++ left ∧ ∀ c ∈ digits, c.isDigit = true := by
  unfold takeWhole at taken
  have whole := takeDigits_eq text
  split at taken
  · cases taken
    exact ⟨rfl, by simp⟩
  split at taken
  · cases taken
  · next same =>
    cases taken
    rwa [same] at whole

/-- What follows a numeral is the rest of the text, and its digits stand in the text. -/
theorem scan_within {text left : Text} {numeral : Numeral}
    (read : scan text = some (numeral, left)) :
    left <:+ text ∧ (∀ c ∈ numeral.whole, c.isDigit = true) ∧
      numeral.whole.map .scalar <:+: text := by
  unfold scan at read
  have minus := takeMinus_suffix text
  simp only at read
  split at read
  · cases read
  · next whole afterWhole taken =>
    obtain ⟨eq, all⟩ := takeWhole_eq taken
    have behind : afterWhole <:+ text := by
      refine List.IsSuffix.trans ?_ minus
      exact ⟨_, eq.symm⟩
    have fraction := takeFraction_suffix afterWhole
    have exponent := takeExponent_suffix (takeFraction afterWhole).2
    cases read
    refine ⟨(exponent.trans fraction).trans behind, all, ?_⟩
    refine List.IsInfix.trans ?_ minus.isInfix
    exact ⟨[], afterWhole, eq.symm⟩

/-- So many digits make no larger a number. -/
theorem digitsValue_lt {digits : List Char} (all : ∀ c ∈ digits, c.isDigit = true) :
    digitsValue digits < 10 ^ digits.length := by
  unfold digitsValue
  induction digits with
  | nil => simp
  | cons c digits ih =>
      rw [List.forall_mem_cons] at all
      have rest := ih all.2
      have range : '0'.toNat ≤ c.toNat ∧ c.toNat ≤ '9'.toNat := by
        simpa [Char.isDigit, UInt32.le_iff_toNat_le] using all.1
      have first : c.toNat - '0'.toNat ≤ 9 := by
        have nine : '9'.toNat = '0'.toNat + 9 := rfl
        omega
      have whole := Nat.mul_le_mul_left (10 ^ digits.length) first
      rw [Nat.ofDigitChars_cons, Nat.ofDigitChars_eq_ofDigitChars_zero, List.length_cons, Nat.pow_succ]
      simp only [Nat.mul_zero, Nat.zero_add]
      omega

/-- A whole number that is read has no more digits than its numeral. -/
theorem hasFewDigits_of_integer? {numeral : Numeral} {value : Int}
    (all : ∀ c ∈ numeral.whole, c.isDigit = true) (whole : numeral.integer? = some value)
    (few : numeral.whole.length ≤ mostDigits) : hasFewDigits value = true := by
  have magnitude : value.natAbs = digitsValue numeral.whole := by
    unfold integer? at whole
    split at whole
    · cases whole
      split <;> omega
    · cases whole
  have positive : 0 < mostDigits := by decide
  rw [hasFewDigits, decide_eq_true_iff, Nat.length_toDigits_le_iff (by decide) positive, magnitude]
  exact Nat.lt_of_lt_of_le (digitsValue_lt all) (Nat.pow_le_pow_right (by decide) few)

end Numeral

theorem Quoted.scan_suffix {s text left : Text} (read : Quoted.scan s = .ok (text, left)) :
    left <:+ s := by
  fun_induction Quoted.scan s generalizing text left with
  | case1 | case3 | case4 | case6 | case7 | case9 => cases read
  | case2 rest =>
      cases read
      exact List.suffix_cons _ _
  | case5 a b c d next rest unit found ih =>
      obtain ⟨text', inner, rfl⟩ := prepend_eq_ok read
      have escape : next :: rest <:+ .scalar '\\' :: .scalar 'u' :: a :: b :: c :: d :: next :: rest :=
        List.suffix_append [_, _, a, b, c, d] _
      exact (ih inner).trans escape
  | case8 letter rest _ _ c found ih =>
      obtain ⟨text', inner, rfl⟩ := prepend_eq_ok read
      have escape : rest <:+ .scalar '\\' :: letter :: rest := List.suffix_append [_, letter] _
      exact (ih inner).trans escape
  | case10 point rest _ _ _ _ _ _ ih =>
      obtain ⟨text', inner, rfl⟩ := prepend_eq_ok read
      exact (ih inner).trans (List.suffix_cons _ _)

/-! ## What keeps to the limits -/

/-- No whole number in the value has more digits than are read. -/
inductive Brief : Json → Prop
  | null : Brief .null
  | bool (value : Bool) : Brief (.bool value)
  | integer {value : Int} (few : Numeral.hasFewDigits value = true) : Brief (.integer value)
  | float (value : Binary64) : Brief (.float value)
  | string (value : Text) : Brief (.string value)
  | array {items : List Json} (each : ∀ item ∈ items, Brief item) : Brief (.array items)
  | object {members : Members} (each : ∀ member ∈ members, Brief member.2) : Brief (.object members)

/-- Setting a brief member leaves the members brief. -/
theorem brief_put {key : Text} {value : Json} {members : Members} (brief : Brief value)
    (each : ∀ member ∈ members, Brief member.2) : ∀ member ∈ members.put key value, Brief member.2 := by
  induction members with
  | nil => simpa [Members.put] using brief
  | cons first rest ih =>
      obtain ⟨known, old⟩ := first
      rw [List.forall_mem_cons] at each
      unfold Members.put
      split
      · exact List.forall_mem_cons.mpr ⟨brief, each.2⟩
      · exact List.forall_mem_cons.mpr ⟨each.1, ih each.2⟩

theorem Brief.ofPairs {pairs : List (Text × Json)} (each : ∀ pair ∈ pairs, Brief pair.2) :
    Brief (.object (Members.ofPairs pairs)) := by
  have put : ∀ members : Members, (∀ member ∈ members, Brief member.2) → ∀ member ∈
      pairs.foldl (fun members pair => Members.put pair.1 pair.2 members) members, Brief member.2 := by
    induction pairs with
    | nil => exact fun members known => known
    | cons pair pairs ih =>
        rw [List.forall_mem_cons] at each
        exact fun members known => ih each.2 _ (brief_put each.1 known)
  exact .object (put [] (by simp))

def isOpening (point : CodePoint) : Bool := point == .scalar '[' || point == .scalar '{'

/-- How many opening brackets a text has. -/
def openings (text : Text) : Nat := text.countP isOpening

theorem openings_le_of_suffix {left text : Text} (suffix : left <:+ text) :
    openings left ≤ openings text := suffix.sublist.countP_le

/-- The reader had a reason to stop: the text has a number that is too long, or more opening brackets
than levels are left. -/
def Stop.Due (nesting : Nat) (text : Text) : Stop → Prop
  | .flaw _ _ => True
  | .tooManyDigits count => Numeral.mostDigits < count ∧ HasDigits count text
  | .tooDeep _ => nesting < openings text

theorem Stop.Due.of_suffix {nesting : Nat} {inner text : Text} {stop : Stop}
    (due : stop.Due nesting inner) (suffix : inner <:+ text) : stop.Due nesting text := by
  cases stop with
  | flaw what left => exact trivial
  | tooManyDigits count => exact ⟨due.1, due.2.of_suffix suffix⟩
  | tooDeep container => exact Nat.lt_of_lt_of_le due (openings_le_of_suffix suffix)

/-- An opening bracket takes one level. -/
theorem Stop.Due.opened {nesting : Nat} {inner inside : Text} {bracket : CodePoint} {stop : Stop}
    (due : stop.Due nesting inner) (suffix : inner <:+ inside) (opens : isOpening bracket = true) :
    stop.Due (nesting + 1) (bracket :: inside) := by
  have due := due.of_suffix suffix
  cases stop with
  | flaw what left => exact trivial
  | tooManyDigits count => exact due.of_suffix (List.suffix_cons _ _)
  | tooDeep container =>
      have more : openings (bracket :: inside) = openings inside + 1 := List.countP_cons_of_pos opens
      show nesting + 1 < openings (bracket :: inside)
      rw [more]
      exact Nat.succ_lt_succ due

/-! ## The reader -/

/-- What was read from a text leaves the rest of it and is brief, or there was a reason to stop. -/
def Within {α : Type} (brief : α → Prop) (nesting : Nat) (text : Text) :
    Except Stop (Taken α text) → Prop
  | .ok taken => taken.left <:+ text ∧ brief taken.value
  | .error stop => stop.Due nesting text

/-- What was read of a part at the end of a text ends one of two ways. -/
theorem Within.ends {α : Type} {brief : α → Prop} {nesting : Nat} {inner text : Text}
    {result : Except Stop (Taken α inner)} (within : Within brief nesting inner result)
    (suffix : inner <:+ text) :
    (∃ stop, result = .error stop ∧ stop.Due nesting inner) ∨
      ∃ taken, result = .ok taken ∧ taken.left <:+ text ∧ brief taken.value := by
  cases result with
  | error stop => exact .inl ⟨stop, rfl, within⟩
  | ok taken => exact .inr ⟨taken, rfl, List.IsSuffix.trans within.1 suffix, within.2⟩

theorem skipBlank_suffix (text : Text) : skipBlank text <:+ text := List.dropWhile_suffix isBlank

theorem readString_within (nesting : Nat) (inside : Text) :
    Within (fun _ => True) nesting inside (readString inside) := by
  unfold readString
  split
  · next text left read => exact ⟨Quoted.scan_suffix read, trivial⟩
  · next fault read => cases fault <;> exact trivial

theorem readNumber_within (nesting : Nat) (text : Text) :
    Within Brief nesting text (readNumber text) := by
  unfold readNumber
  split
  · exact trivial
  · next numeral left read =>
    obtain ⟨suffix, all, inside⟩ := Numeral.scan_within read
    split
    · exact ⟨suffix, .float _⟩
    · next value whole =>
      split
      · next long => exact ⟨long, numeral.whole, rfl, all, inside⟩
      · next few =>
        exact ⟨suffix, .integer (Numeral.hasFewDigits_of_integer? all whole (Nat.not_lt.mp few))⟩

theorem brief_constants : ∀ entry ∈ constants, Brief entry.2 := by
  simp only [constants, List.forall_mem_cons, List.not_mem_nil, false_implies, implies_true, and_true]
  exact ⟨.null, .bool _, .bool _, .float _, .float _, .float _⟩

theorem readConstant?_within {text : Text} {named : List (Text × Json)} {taken : Taken Json text}
    (each : ∀ entry ∈ named, Brief entry.2) (read : readConstant? text named = some taken) :
    taken.left <:+ text ∧ Brief taken.value := by
  fun_induction readConstant? text named with
  | case1 => cases read
  | case2 name value others matched =>
    cases read
    exact ⟨List.drop_suffix _ _, each _ List.mem_cons_self⟩
  | case3 name value others _ ih => exact ih (List.forall_mem_cons.mp each).2 read

/-- A shorter text at the end of this one, which is where the reader goes on. -/
theorem skipBlank_behind {point : CodePoint} {rest text : Text} (suffix : point :: rest <:+ text) :
    skipBlank rest <:+ text ∧ (skipBlank rest).length < text.length := by
  have behind := (List.suffix_cons point rest).trans suffix
  have blank := skipBlank_length rest
  have shorter := suffix.length_le
  rw [List.length_cons] at shorter
  exact ⟨(skipBlank_suffix rest).trans behind, by omega⟩

/-- The values of an array, and the members of an object. -/
abbrev BriefItems (items : List Json) : Prop := ∀ item ∈ items, Brief item

abbrev BriefPairs (pairs : List (Text × Json)) : Prop := ∀ pair ∈ pairs, Brief pair.2

section Step

variable {nesting : Nat} {text : Text}

theorem readValue_step
    (items : ∀ (inner : Nat) (start : Text), start.length < text.length →
      Within BriefItems inner start (readItems inner start))
    (pairs : ∀ (inner : Nat) (start : Text), start.length < text.length →
      Within BriefPairs inner start (readPairs inner start)) :
    Within Brief nesting text (readValue nesting text) := by
  unfold readValue
  split
  · next inside =>
    have read := readString_within nesting inside
    rcases read.ends (List.suffix_cons _ _) with ⟨stop, stopped, due⟩ | ⟨taken, found, rest, -⟩
    · rw [stopped]
      exact due.of_suffix (List.suffix_cons _ _)
    · rw [found]
      exact ⟨rest, .string _⟩
  · next rest =>
    have more : openings (.scalar '[' :: rest) = openings rest + 1 := List.countP_cons_of_pos rfl
    show 0 < openings (.scalar '[' :: rest)
    omega
  · next inside inner =>
    obtain ⟨behind, shorter⟩ := skipBlank_behind (List.suffix_refl (.scalar '[' :: inside))
    split
    · next left opened =>
      rw [opened] at behind
      exact ⟨(List.suffix_cons _ _).trans behind, .array (by simp)⟩
    · have read := items inner _ shorter
      rcases read.ends behind with ⟨stop, stopped, due⟩ | ⟨taken, found, rest, brief⟩
      · rw [stopped]
        exact due.opened (skipBlank_suffix inside) rfl
      · rw [found]
        exact ⟨rest, .array brief⟩
  · next rest =>
    have more : openings (.scalar '\x7b' :: rest) = openings rest + 1 := List.countP_cons_of_pos rfl
    show 0 < openings (.scalar '\x7b' :: rest)
    omega
  · next inside inner =>
    obtain ⟨behind, shorter⟩ := skipBlank_behind (List.suffix_refl (.scalar '\x7b' :: inside))
    split
    · next left opened =>
      rw [opened] at behind
      exact ⟨(List.suffix_cons _ _).trans behind, .object (by simp)⟩
    · have read := pairs inner _ shorter
      rcases read.ends behind with ⟨stop, stopped, due⟩ | ⟨taken, found, rest, brief⟩
      · rw [stopped]
        exact due.opened (skipBlank_suffix inside) rfl
      · rw [found]
        exact ⟨rest, .ofPairs brief⟩
  · split
    · next taken found => exact readConstant?_within brief_constants found
    · exact readNumber_within _ _

theorem readItems_step (first : Within Brief nesting text (readValue nesting text))
    (items : ∀ start : Text, start.length < text.length →
      Within BriefItems nesting start (readItems nesting start)) :
    Within BriefItems nesting text (readItems nesting text) := by
  unfold readItems
  rcases first.ends (List.suffix_refl _) with
    ⟨stop, stopped, due⟩ | ⟨⟨item, left, _⟩, found, rest, briefItem⟩
  · rw [stopped]
    exact due
  · rw [found]
    have following := (skipBlank_suffix left).trans rest
    dsimp only at following briefItem ⊢
    split
    · next left next =>
      rw [next] at following
      exact ⟨(List.suffix_cons _ _).trans following, List.forall_mem_singleton.mpr briefItem⟩
    · next left next =>
      rw [next] at following
      obtain ⟨behind, shorter⟩ := skipBlank_behind following
      have read := items _ shorter
      rcases read.ends behind with ⟨stop, stopped, due⟩ | ⟨taken, found, rest, brief⟩
      · rw [stopped]
        exact due.of_suffix behind
      · rw [found]
        exact ⟨rest, List.forall_mem_cons.mpr ⟨briefItem, brief⟩⟩
    · exact trivial

theorem readPairs_step
    (value : ∀ start : Text, start.length < text.length →
      Within Brief nesting start (readValue nesting start))
    (pairs : ∀ start : Text, start.length < text.length →
      Within BriefPairs nesting start (readPairs nesting start)) :
    Within BriefPairs nesting text (readPairs nesting text) := by
  unfold readPairs
  split
  · next inside =>
    have key := readString_within nesting inside
    rcases key.ends (List.suffix_cons _ _) with
      ⟨stop, stopped, due⟩ | ⟨⟨name, left, _⟩, found, rest, -⟩
    · rw [stopped]
      exact due.of_suffix (List.suffix_cons _ _)
    rw [found]
    have following := (skipBlank_suffix left).trans rest
    dsimp only at following ⊢
    split
    · next left colon =>
      rw [colon] at following
      obtain ⟨behind, shorter⟩ := skipBlank_behind following
      have member := value _ shorter
      rcases member.ends behind with
        ⟨stop, stopped, due⟩ | ⟨⟨value, left, _⟩, found, rest, briefValue⟩
      · rw [stopped]
        exact due.of_suffix behind
      rw [found]
      have following := (skipBlank_suffix left).trans rest
      dsimp only at following briefValue ⊢
      split
      · next left next =>
        rw [next] at following
        exact ⟨(List.suffix_cons _ _).trans following, List.forall_mem_singleton.mpr briefValue⟩
      · next left next =>
        rw [next] at following
        obtain ⟨behind, shorter⟩ := skipBlank_behind following
        have others := pairs _ shorter
        rcases others.ends behind with ⟨stop, stopped, due⟩ | ⟨taken, found, rest, brief⟩
        · rw [stopped]
          exact due.of_suffix behind
        · rw [found]
          exact ⟨rest, List.forall_mem_cons.mpr ⟨briefValue, brief⟩⟩
      · exact trivial
    · exact trivial
  · exact trivial

end Step

/-- The reader stays within the text, and what it reads is brief. -/
theorem reader_within (nesting : Nat) (text : Text) :
    Within Brief nesting text (readValue nesting text) ∧
      Within BriefItems nesting text (readItems nesting text) ∧
      Within BriefPairs nesting text (readPairs nesting text) := by
  induction size : text.length using Nat.strongRecOn generalizing text nesting with
  | ind size ih =>
    subst size
    have shorter (inner : Nat) (start : Text) (less : start.length < text.length) :=
      ih _ less inner start rfl
    have value : Within Brief nesting text (readValue nesting text) := readValue_step
      (fun inner start less => (shorter inner start less).2.1)
      (fun inner start less => (shorter inner start less).2.2)
    exact ⟨value, readItems_step value fun start less => (shorter nesting start less).2.1,
      readPairs_step (fun start less => (shorter nesting start less).1)
        (fun start less => (shorter nesting start less).2.2)⟩

/-! ## Documents -/

section Documents

variable {nesting : Nat} {text : Text}

/-- **What is read has no whole number with too many digits.** -/
theorem brief_of_read {value : Json} (read : Json.read nesting text = .ok value) : Brief value := by
  unfold Json.read at read
  have within := (reader_within nesting (skipBlank text)).1
  split at read
  · cases read
  split at read
  · cases read
  · next taken =>
    rw [taken] at within
    split at read
    · cases read
      exact within.2
    · cases read

end Documents

/-! ## Brackets that are one too many -/

theorem skipBlank_brackets (count : Nat) (rest : Text) :
    skipBlank (List.replicate (count + 1) (.scalar '[') ++ rest) =
      List.replicate (count + 1) (.scalar '[') ++ rest :=
  List.dropWhile_cons_of_neg (by decide)

theorem readValue_brackets (nesting : Nat) (rest : Text) :
    readValue nesting (List.replicate (nesting + 1) (.scalar '[') ++ rest) =
      .error (.tooDeep .array) := by
  induction nesting with
  | zero => simp [readValue]
  | succ nesting ih =>
      have blank := skipBlank_brackets nesting rest
      have inner : readValue nesting
          (skipBlank (List.replicate (nesting + 1) (.scalar '[') ++ rest)) =
            .error (.tooDeep .array) := by
        rw [blank]
        exact ih
      rw [List.replicate_succ, List.cons_append, readValue]
      split
      · next left opened =>
        rw [blank] at opened
        cases opened
      · rw [readItems, inner]

/-- **The reader stops where one array more is opened than levels are left**, whatever follows. -/
theorem read_brackets (nesting : Nat) (rest : Text) :
    Json.read nesting (List.replicate (nesting + 1) (.scalar '[') ++ rest) =
      .error (.tooDeep .array) := by
  have value : readValue nesting
      (skipBlank (List.replicate (nesting + 1) (.scalar '[') ++ rest)) = .error (.tooDeep .array) := by
    rw [skipBlank_brackets]
    exact readValue_brackets nesting rest
  unfold Json.read
  rw [if_neg (by simp [List.replicate_succ]), value]
  rfl

end Json
end TypedEndpoints
