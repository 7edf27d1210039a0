import IndexWire.Proofs.Text.Decoding
import IndexWire.Proofs.Text.Digits
import Mathlib.Data.List.TakeDrop

/-!
# Reading JSON strings and numbers

A string and an integer are read back from their JSON texts, whatever comes after them. A string
loses one thing: a high surrogate right before a low one is written as it is, but together they
spell one code point to everyone who reads them. `Text.joined` says what becomes of a text.

Numbers have no end of their own, so what comes after them must not be part of a number.
-/

namespace IndexWire

namespace Text

/-- The text with each high surrogate right before a low one joined with it. -/
def joined : Text → Text
  | [] => []
  | [point] => [point]
  | first :: second :: rest =>
    if first.isHigh && second.isLow then .join first second :: joined rest
    else first :: joined (second :: rest)

end Text

namespace Json

/-- What a reader has read of a string and what comes next, between which no pair is cut. -/
def Parted : Text → Text → Prop
  | high :: _, low :: _ => (high.isHigh && low.isLow) = false
  | _, _ => True

theorem isHigh_join {high low : CodePoint} (first : high.isHigh = true)
    (second : low.isLow = true) : (CodePoint.join high low).isHigh = false := by
  have value := CodePoint.value_join first second
  simp only [CodePoint.isHigh, Bool.and_eq_false_iff, decide_eq_false_iff_not]
  omega

theorem pushPoint_of_parted {before rest : Text} {point : CodePoint}
    (parted : Parted before (point :: rest)) : pushPoint before point = point :: before := by
  cases before with
  | nil => rfl
  | cons high earlier =>
      simp only [Parted] at parted
      simp [pushPoint, parted]

/-- To push the points of a text one by one is to join its pairs. -/
theorem foldl_pushPoint {before text : Text} (parted : Parted before text) :
    text.foldl pushPoint before = text.joined.reverse ++ before := by
  fun_induction Text.joined text generalizing before with
  | case1 => rfl
  | case2 point =>
      rw [List.foldl_cons, pushPoint_of_parted parted]
      rfl
  | case3 first second rest pair ih =>
      have halves : first.isHigh = true ∧ second.isLow = true := by
        simpa using pair
      have apart : Parted (.join first second :: before) rest := by
        cases rest with
        | nil => trivial
        | cons next later => simp [Parted, isHigh_join halves.1 halves.2]
      rw [List.foldl_cons, pushPoint_of_parted parted, List.foldl_cons]
      simp only [pushPoint, pair, if_true, ih apart, List.reverse_cons, List.append_assoc,
        List.cons_append, List.nil_append]
  | case4 first second rest single ih =>
      have apart : Parted (first :: before) (second :: rest) := by
        simpa [Parted] using single
      rw [List.foldl_cons, pushPoint_of_parted parted, ih apart]
      simp only [List.reverse_cons, List.append_assoc, List.cons_append, List.nil_append]

/-! ## Strings -/

theorem after?_append (string : String) (rest : Text) :
    after? string (Text.ofString string ++ rest) = some rest := by
  simp [after?]

/-- A string of one character is there or is not. -/
theorem after?_single {string : String} {character : Char}
    (single : Text.ofString string = [.ofChar character]) (point : CodePoint) (rest : Text) :
    after? string (point :: rest) = if point.value = character.toNat then some rest else none := by
  have same : CodePoint.ofChar character = point ↔ point.value = character.toNat := by
    rw [← CodePoint.value_ofChar character]
    constructor
    · rintro rfl
      rfl
    · exact fun value => (CodePoint.ext value).symm
  simp [after?, single, same]

theorem readString?_skip (before : Text) {hidden : Nat} {skipped : Text}
    (length : skipped.length = hidden) (rest : Text) :
    readString? before hidden (skipped ++ rest) = readString? before 0 rest := by
  induction hidden generalizing skipped with
  | zero =>
      rw [List.length_eq_zero_iff.mp length]
      rfl
  | succ hidden ih =>
      cases skipped with
      | nil => cases length
      | cons point skipped =>
          rw [List.cons_append, readString?]
          exact ih (Nat.succ.inj length)

theorem readString?_backslash (before : Text) {rest : Text} {meaning : CodePoint} {length : Nat}
    (escaped : escaped? rest = some (meaning, length)) :
    readString? before 0 (.ofChar '\\' :: rest)
      = readString? (pushPoint before meaning) length rest := by
  have other : (CodePoint.ofChar '\\').is '"' = false := by rfl
  have backslash : (CodePoint.ofChar '\\').is '\\' = true := by rfl
  rw [readString?]
  simp only [other, backslash, Bool.false_eq_true, if_false, if_true, escaped]

theorem readString?_letter (before : Text) {letter meaning : CodePoint}
    (apart : letter.value ≠ 0x75) (stands : letter? letter = some meaning) (rest : Text) :
    readString? before 0 (.ofChar '\\' :: letter :: rest)
      = readString? (pushPoint before meaning) 0 rest := by
  have escaped : escaped? (letter :: rest) = some (meaning, 1) := by
    have plain : after? "u" (letter :: rest) = none := by
      rw [after?_single (by rfl : Text.ofString "u" = [.ofChar 'u'])]
      exact if_neg apart
    simp only [escaped?, plain, List.head?_cons, Option.bind_some, stands, Option.map_some]
  rw [readString?_backslash before escaped]
  rfl

theorem readString?_unit (before : Text) {number : Nat} (small : number < 0x10000) (rest : Text) :
    readString? before 0 (unit number ++ rest)
      = readString? (pushPoint before (.ofNat number)) 0 rest := by
  have length : (Text.ofHex 4 number).length = 4 := Text.length_ofHex (by decide) small
  have escaped : escaped? (.ofChar 'u' :: (Text.ofHex 4 number ++ rest))
      = some (.ofNat number, 5) := by
    have plain : after? "u" (.ofChar 'u' :: (Text.ofHex 4 number ++ rest))
        = some (Text.ofHex 4 number ++ rest) := after?_append "u" _
    have digits : (Text.ofHex 4 number ++ rest).take 4 = Text.ofHex 4 number :=
      List.take_left' length
    simp only [escaped?, plain, digits, length, Text.hexNumber?_ofHex, Option.map_some,
      Nat.lt_irrefl, if_false]
  have spelled : unit number ++ rest
      = .ofChar '\\' :: (.ofChar 'u' :: Text.ofHex 4 number ++ rest) := rfl
  rw [spelled]
  have skipped : (CodePoint.ofChar 'u' :: Text.ofHex 4 number).length = 5 :=
    congrArg (· + 1) length
  exact (readString?_backslash before escaped).trans (readString?_skip _ skipped rest)

theorem parted_of_not_isLow (before : Text) {point : CodePoint} (apart : point.isLow = false)
    (rest : Text) : Parted before (point :: rest) := by
  cases before with
  | nil => trivial
  | cons high earlier => simp [Parted, apart]

/-- The two halves in which a code point above the basic plane is written make it up. -/
theorem pushPoint_halves (before : Text) {point : CodePoint} (large : 0x10000 ≤ point.value) :
    let high : CodePoint := .ofNat (0xD800 + (point.value - 0x10000) / 0x400)
    let low : CodePoint := .ofNat (0xDC00 + (point.value - 0x10000) % 0x400)
    pushPoint (pushPoint before high) low = pushPoint before point := by
  intro high low
  have bound := point.inRange
  have highValue : high.value = 0xD800 + (point.value - 0x10000) / 0x400 := by
    simp only [high, CodePoint.ofNat]
    rw [dif_pos (by omega)]
  have lowValue : low.value = 0xDC00 + (point.value - 0x10000) % 0x400 := by
    simp only [low, CodePoint.ofNat]
    rw [dif_pos (by omega)]
  have first : high.isHigh = true := by
    simp only [CodePoint.isHigh, Bool.and_eq_true, decide_eq_true_eq]
    omega
  have second : low.isLow = true := by
    simp only [CodePoint.isLow, Bool.and_eq_true, decide_eq_true_eq]
    omega
  have joins : CodePoint.join high low = point := by
    apply CodePoint.ext
    rw [CodePoint.value_join first second]
    omega
  have highApart : high.isLow = false := by
    simp only [CodePoint.isLow, Bool.and_eq_false_iff, decide_eq_false_iff_not]
    omega
  have apart : point.isLow = false := by
    simp only [CodePoint.isLow, Bool.and_eq_false_iff, decide_eq_false_iff_not]
    omega
  rw [pushPoint_of_parted (parted_of_not_isLow before highApart []),
    pushPoint_of_parted (parted_of_not_isLow before apart [])]
  simp [pushPoint, first, second, joins]

theorem eq_ofNat {point : CodePoint} {number : Nat} (value : point.value = number) :
    point = .ofNat number := by
  rw [← value, CodePoint.ofNat_value]

/-- What is written for a code point is read as this code point. -/
theorem readString?_escape (before : Text) (point : CodePoint) (rest : Text) :
    readString? before 0 (escape point ++ rest) = readString? (pushPoint before point) 0 rest := by
  have letters : ∀ {letter : Char} {number : Nat}, point.value = number →
      letter.toNat ≠ 0x75 → letter? (.ofChar letter) = some (.ofNat number) →
      readString? before 0 (.ofChar '\\' :: .ofChar letter :: rest)
        = readString? (pushPoint before point) 0 rest := by
    intro letter number value apart stands
    rw [eq_ofNat value]
    apply readString?_letter before _ stands
    rw [CodePoint.value_ofChar]
    exact apart
  simp only [escape]
  split
  · rename_i special
    rcases Bool.or_eq_true_iff.mp special with quote | backslash
    · obtain rfl := eq_ofNat (beq_iff_eq.mp quote)
      exact letters rfl (by decide) rfl
    · obtain rfl := eq_ofNat (beq_iff_eq.mp backslash)
      exact letters rfl (by decide) rfl
  rename_i plain
  split
  · rename_i printable
    simp only [Bool.and_eq_true, decide_eq_true_eq] at printable
    have apart : point.isLow = false := by
      simp only [CodePoint.isLow, Bool.and_eq_false_iff, decide_eq_false_iff_not]
      omega
    simp only [Bool.or_eq_true, not_or, Bool.not_eq_true] at plain
    rw [pushPoint_of_parted (parted_of_not_isLow before apart rest), List.cons_append,
      List.nil_append, readString?]
    simp only [plain, Bool.false_eq_true, if_false]
  split
  · exact letters ‹_› (by decide) rfl
  split
  · exact letters ‹_› (by decide) rfl
  split
  · exact letters ‹_› (by decide) rfl
  split
  · exact letters ‹_› (by decide) rfl
  split
  · exact letters ‹_› (by decide) rfl
  split
  · rename_i small
    rw [readString?_unit before small, ← eq_ofNat rfl]
  · rename_i large
    have bound := point.inRange
    rw [List.append_assoc, readString?_unit before (by omega), readString?_unit _ (by omega),
      pushPoint_halves before (by omega)]

theorem readString?_flatMap (before text rest : Text) :
    readString? before 0 (text.flatMap escape ++ .ofChar '"' :: rest)
      = some ((text.foldl pushPoint before).reverse, rest) := by
  induction text generalizing before with
  | nil =>
      have quote : (CodePoint.ofChar '"').is '"' = true := by rfl
      rw [List.flatMap_nil, List.nil_append, readString?, if_pos quote]
      rfl
  | cons point text ih =>
      rw [List.flatMap_cons, List.append_assoc, readString?_escape, ih]
      rfl

/-- A string is read back with its pairs joined. -/
theorem readText?_string (text rest : Text) :
    readText? (string text ++ rest) = some (text.joined, rest) := by
  have start : Parted [] text := by
    cases text <;> trivial
  rw [string, List.append_assoc, List.append_assoc, readText?, after?_append, Option.bind_some]
  have read := readString?_flatMap [] text rest
  rw [foldl_pushPoint start, List.append_nil, List.reverse_reverse] at read
  exact read

/-! ## Numbers -/

/-- Whether a text goes on after a value with a comma or a closing bracket, or ends there. -/
def Ends : Text → Prop
  | [] => True
  | point :: _ => point.value = 0x2C ∨ point.value = 0x5D ∨ point.value = 0x7D

theorem after?_of_ends {string : String} {character : Char}
    (single : Text.ofString string = [.ofChar character])
    (other : character.toNat ≠ 0x2C ∧ character.toNat ≠ 0x5D ∧ character.toNat ≠ 0x7D)
    {rest : Text} (ends : Ends rest) : after? string rest = none := by
  cases rest with
  | nil => simp [after?, single]
  | cons point rest =>
      rw [after?_single single, if_neg]
      intro same
      rcases ends with comma | bracket | brace
      · exact other.1 (same.symm.trans comma)
      · exact other.2.1 (same.symm.trans bracket)
      · exact other.2.2 (same.symm.trans brace)

theorem readDigits?_append {digits rest : Text} (nonempty : digits ≠ [])
    (decimal : ∀ point ∈ digits, 0x30 ≤ point.value ∧ point.value ≤ 0x39) (ends : Ends rest) :
    readDigits? (digits ++ rest) = some (digits, rest) := by
  have spanned : (digits ++ rest).span
      (fun point => 0x30 ≤ point.value && point.value ≤ 0x39) = (digits, rest) := by
    have stops : rest.takeWhile (fun point => 0x30 ≤ point.value && point.value ≤ 0x39) = [] ∧
        rest.dropWhile (fun point => 0x30 ≤ point.value && point.value ≤ 0x39) = rest := by
      cases rest with
      | nil => exact ⟨rfl, rfl⟩
      | cons point rest =>
          have other : ¬(0x30 ≤ point.value ∧ point.value ≤ 0x39) := by
            rcases ends with comma | bracket | brace <;> omega
          simp only [List.takeWhile_cons, List.dropWhile_cons, Bool.and_eq_true,
            decide_eq_true_eq, if_neg other, and_self]
    have all : ∀ point ∈ digits, (0x30 ≤ point.value && point.value ≤ 0x39) = true := by
      simpa using decimal
    rw [List.span_eq_takeWhile_dropWhile, List.takeWhile_append_of_pos all,
      List.dropWhile_append_of_pos all, stops.1, stops.2, List.append_nil]
  rw [readDigits?, spanned]
  cases digits with
  | nil => exact absurd rfl nonempty
  | cons first digits => rfl

theorem readWhole?_ofNat (number : Nat) {rest : Text} (ends : Ends rest) :
    readWhole? (Text.ofNat number ++ rest) = some (Text.ofNat number, rest) := by
  rcases Nat.eq_zero_or_pos number with rfl | positive
  · have zero : after? "0" (Text.ofNat 0 ++ rest) = some rest := after?_append "0" rest
    rw [readWhole?, zero]
    rfl
  · rcases Text.ofNat_of_pos positive with ⟨first, later, digits, nonzero⟩
    have other : after? "0" (Text.ofNat number ++ rest) = none := by
      rw [digits, List.cons_append, after?_single (by rfl : Text.ofString "0" = [.ofChar '0'])]
      exact if_neg nonzero
    rw [readWhole?, other]
    exact readDigits?_append (Text.ofNat_ne_nil number) (fun point => Text.mem_ofNat) ends

/-- Digits after which neither a fraction nor a power of ten comes are an integer. -/
theorem readNumber?_of_whole {text digits rest : Text} {isNegative : Bool} {number : Nat}
    (sign : readMinus text = (isNegative, digits))
    (whole : readWhole? digits = some (Text.ofNat number, rest)) (ends : Ends rest) :
    readNumber? text = some (.int (signed isNegative number), rest) := by
  have fraction : readFraction? rest = none := by
    rw [readFraction?, after?_of_ends (by rfl : Text.ofString "." = [.ofChar '.']) (by decide) ends]
    rfl
  have exponent : readExponent? rest = none := by
    simp only [readExponent?,
      after?_of_ends (by rfl : Text.ofString "e" = [.ofChar 'e']) (by decide) ends,
      after?_of_ends (by rfl : Text.ofString "E" = [.ofChar 'E']) (by decide) ends]
    rfl
  simp only [readNumber?, sign, whole, Option.bind_eq_bind, Option.bind_some, fraction,
    Option.elim_none, exponent, Option.isNone_none, Bool.and_self, if_true, Text.natural_ofNat]
  rfl

/-- An integer is read back if nothing comes after it that could be part of a number. -/
theorem readNumber?_ofInt (number : Int) {rest : Text} (ends : Ends rest) :
    readNumber? (Text.ofInt number ++ rest) = some (.int number, rest) := by
  cases number with
  | ofNat number =>
      have plain : readMinus (Text.ofNat number ++ rest) = (false, Text.ofNat number ++ rest) := by
        cases digits : Text.ofNat number with
        | nil => exact absurd digits (Text.ofNat_ne_nil number)
        | cons first later =>
            have decimal := Text.mem_ofNat (digits ▸ List.mem_cons_self : first ∈ Text.ofNat number)
            have other : after? "-" (first :: (later ++ rest)) = none := by
              rw [after?_single (by rfl : Text.ofString "-" = [.ofChar '-'])]
              apply if_neg
              show first.value ≠ 0x2D
              omega
            rw [readMinus, List.cons_append, other]
      exact readNumber?_of_whole plain (readWhole?_ofNat number ends) ends
  | negSucc number =>
      have minus : readMinus (Text.ofInt (.negSucc number) ++ rest)
          = (true, Text.ofNat (number + 1) ++ rest) := by
        have taken : after? "-" (Text.ofInt (.negSucc number) ++ rest)
            = some (Text.ofNat (number + 1) ++ rest) := after?_append "-" _
        rw [readMinus, taken]
      exact readNumber?_of_whole minus (readWhole?_ofNat (number + 1) ends) ends

end Json

end IndexWire
