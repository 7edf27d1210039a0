import IndexWire.Proofs.Value.JsonString

/-!
# Reading JSON that was written

The JSON text of a value that is made of texts, integers, truth values, nothing, byte strings, lists
and dictionaries is read back as the value, as far as JSON can tell values apart: byte strings have
become texts, and so have the keys of dictionaries. The text is printable ASCII on one line.

Each reader is shown to take exactly what the writer has put, and the fuel of the reader to be
enough because each step of it takes one code point at least.
-/

namespace IndexWire

namespace Json

/-! ## Values -/

mutual

/-- What is left of a value in its JSON text. -/
def image : Value → Value
  | .text content => .text content.joined
  | .list items => .list (images items)
  | .dict entries => .dictOf (memberImages entries)
  | .bytes form content => .text (Value.literal (.bytes form content)).joined
  | simple => simple

def images : List Value → List Value
  | [] => []
  | item :: rest => image item :: images rest

def memberImages : List (Value × Value) → List (Value × Value)
  | [] => []
  | (name, value) :: rest => (.text (key name).joined, image value) :: memberImages rest

end

mutual

/-- Whether a value has no parts but texts, integers, truth values, nothing and byte strings. -/
def isReadable : Value → Bool
  | .float _ | .bytes (.view _) _ | .date _ | .moment _ => false
  | .list items => allAreReadable items
  | .dict entries => membersAreReadable entries
  | _ => true

def allAreReadable : List Value → Bool
  | [] => true
  | item :: rest => isReadable item && allAreReadable rest

/-- Whether values are readable, and their names have a place in a JSON object. -/
def membersAreReadable : List (Value × Value) → Bool
  | [] => true
  | (name, value) :: rest => isKey name && isReadable value && membersAreReadable rest

end

mutual

theorem hasKeys_of_readable (value : Value) (readable : isReadable value = true) :
    hasKeys value = true := by
  cases value with
  | list items => exact allHaveKeys_of_readable items readable
  | dict entries => exact membersHaveKeys_of_readable entries readable
  | _ => rfl

theorem allHaveKeys_of_readable (items : List Value) (readable : allAreReadable items = true) :
    allHaveKeys items = true := by
  cases items with
  | nil => rfl
  | cons item items =>
      rw [allAreReadable, Bool.and_eq_true] at readable
      rw [allHaveKeys, Bool.and_eq_true]
      exact ⟨hasKeys_of_readable item readable.1, allHaveKeys_of_readable items readable.2⟩

theorem membersHaveKeys_of_readable (entries : List (Value × Value))
    (readable : membersAreReadable entries = true) : membersHaveKeys entries = true := by
  cases entries with
  | nil => rfl
  | cons entry entries =>
      rcases entry with ⟨name, value⟩
      rw [membersAreReadable, Bool.and_eq_true, Bool.and_eq_true] at readable
      rw [membersHaveKeys, Bool.and_eq_true, Bool.and_eq_true]
      exact ⟨⟨readable.1.1, hasKeys_of_readable value readable.1.2⟩,
        membersHaveKeys_of_readable entries readable.2⟩

end

theorem listed_cons (first : Text) (rest : List Text) (nonempty : rest ≠ []) :
    Text.listed (first :: rest) = first ++ Text.ofString ", " ++ Text.listed rest := by
  cases rest with
  | nil => exact absurd rfl nonempty
  | cons second rest =>
      simp [Text.listed, Text.joinWith]

theorem afterBlanks_of_visible {point : CodePoint} (visible : 0x21 ≤ point.value) (rest : Text) :
    afterBlanks (point :: rest) = point :: rest := by
  have apart : (point.is ' ' || point.is '\t' || point.is '\n' || point.is '\r') = false := by
    simp only [CodePoint.is, Bool.or_eq_false_iff, beq_eq_false_iff_ne]
    refine ⟨⟨⟨?_, ?_⟩, ?_⟩, ?_⟩ <;> simp only [Char.reduceToNat] <;> omega
  rw [afterBlanks, List.dropWhile_cons_of_neg (by simp [apart])]

theorem afterBlanks_space (rest : Text) :
    afterBlanks (.ofChar ' ' :: rest) = afterBlanks rest := by
  rw [afterBlanks, List.dropWhile_cons_of_pos (by rfl)]
  rfl

/-- A value begins with something that is no blank, and does not end an array. -/
theorem ofValue_opens (value : Value) (readable : isReadable value = true) :
    ∃ first rest, ofValue value = first :: rest ∧ 0x21 ≤ first.value ∧ first.value ≠ 0x5D := by
  have quoted : ∀ text, ∃ first rest, string text = first :: rest ∧ 0x21 ≤ first.value ∧
      first.value ≠ 0x5D := fun text => ⟨_, _, rfl, by decide, by decide⟩
  cases value with
  | none => exact ⟨_, _, rfl, by decide, by decide⟩
  | bool truth => cases truth <;> exact ⟨_, _, rfl, by decide, by decide⟩
  | int number =>
      cases number with
      | ofNat number =>
          cases digits : Text.ofNat number with
          | nil => exact absurd digits (Text.ofNat_ne_nil number)
          | cons first rest =>
              have decimal :=
                Text.mem_ofNat (digits ▸ List.mem_cons_self : first ∈ Text.ofNat number)
              exact ⟨first, rest, digits, by omega, by omega⟩
      | negSucc number => exact ⟨_, _, rfl, by decide, by decide⟩
  | float number => cases readable
  | text content => exact quoted content
  | bytes form content => exact quoted _
  | date day => cases readable
  | moment time => cases readable
  | list items => exact ⟨_, _, rfl, by decide, by decide⟩
  | dict entries => exact ⟨_, _, rfl, by decide, by decide⟩

/-! ### Texts, words and integers -/

/-- A value that is neither an array nor an object is a text, a word or a number. -/
theorem readValue?_of_plain {fuel : Nat} {text rest : Text} {first : CodePoint}
    (spelled : afterBlanks text = first :: rest) (array : first.value ≠ 0x5B)
    (object : first.value ≠ 0x7B) :
    readValue? (fuel + 1) text
      = (((readText? (first :: rest)).map fun (content, rest) => (Value.text content, rest))
        <|> readWord? (first :: rest) <|> readNumber? (first :: rest)) := by
  have noArray : after? "[" (first :: rest) = none := by
    rw [after?_single (by rfl : Text.ofString "[" = [.ofChar '['])]
    exact if_neg array
  have noObject : after? "\x7b" (first :: rest) = none := by
    rw [after?_single (by rfl : Text.ofString "\x7b" = [.ofChar '\x7b'])]
    exact if_neg object
  simp only [readValue?, spelled, noArray, noObject]

theorem readValue?_string {fuel : Nat} {text content rest : Text}
    (spelled : afterBlanks text = string content ++ rest) :
    readValue? (fuel + 1) text = some (.text content.joined, rest) := by
  have read := readText?_string content rest
  rw [readValue?_of_plain spelled (by decide) (by decide)]
  exact congrArg (fun found => (found.map fun (content, rest) => (Value.text content, rest))
    <|> _ <|> _) read

theorem readValue?_word {fuel : Nat} {text rest : Text} {first : CodePoint} {meaning : Value}
    (spelled : afterBlanks text = first :: rest) (array : first.value ≠ 0x5B)
    (object : first.value ≠ 0x7B) (quote : first.value ≠ 0x22) {after : Text}
    (read : readWord? (first :: rest) = some (meaning, after)) :
    readValue? (fuel + 1) text = some (meaning, after) := by
  have noText : readText? (first :: rest) = none := by
    rw [readText?, after?_single (by rfl : Text.ofString "\"" = [.ofChar '"'])]
    exact congrArg (Option.bind · _) (if_neg quote)
  rw [readValue?_of_plain spelled array object, noText, read]
  rfl

/-- A word is not there if its first character is not. -/
theorem after?_of_first_ne {string : String} {head point : CodePoint} {tail : Text}
    (word : Text.ofString string = head :: tail) (other : point.value ≠ head.value) (rest : Text) :
    after? string (point :: rest) = none := by
  have apart : ¬head = point := fun same => other (congrArg CodePoint.value same.symm)
  simp [after?, word, apart]

theorem readWord?_of_digit {first : CodePoint} (low : 0x30 ≤ first.value)
    (high : first.value ≤ 0x39) (rest : Text) : readWord? (first :: rest) = none := by
  have absent : ∀ {string : String} {head : CodePoint} {tail : Text},
      Text.ofString string = head :: tail → (head.value < 0x30 ∨ 0x39 < head.value) →
      after? string (first :: rest) = none := by
    intro string head tail word apart
    exact after?_of_first_ne word (by omega) rest
  simp only [readWord?, words, List.findSome?_cons, List.findSome?_nil,
    absent (by rfl : Text.ofString "null" = _ :: _) (by decide),
    absent (by rfl : Text.ofString "true" = _ :: _) (by decide),
    absent (by rfl : Text.ofString "false" = _ :: _) (by decide),
    absent (by rfl : Text.ofString "NaN" = _ :: _) (by decide),
    absent (by rfl : Text.ofString "Infinity" = _ :: _) (by decide),
    absent (by rfl : Text.ofString "-Infinity" = _ :: _) (by decide), Option.map_none]

theorem readWord?_of_minus {second : CodePoint} (digit : second.value ≤ 0x39) (rest : Text) :
    readWord? (.ofChar '-' :: second :: rest) = none := by
  have absent : ∀ {string : String} {head : CodePoint} {tail : Text},
      Text.ofString string = head :: tail → (0x2D : Nat) ≠ head.value →
      after? string (.ofChar '-' :: second :: rest) = none := by
    intro string head tail word apart
    exact after?_of_first_ne word apart _
  have infinite : after? "-Infinity" (.ofChar '-' :: second :: rest) = none := by
    have word : Text.ofString "-Infinity" = .ofChar '-' :: .ofChar 'I' :: Text.ofString "nfinity" :=
      rfl
    have apart : ¬CodePoint.ofChar 'I' = second := by
      rintro rfl
      exact absurd digit (by decide)
    simp [after?, word, apart]
  simp only [readWord?, words, List.findSome?_cons, List.findSome?_nil,
    absent (by rfl : Text.ofString "null" = _ :: _) (by decide),
    absent (by rfl : Text.ofString "true" = _ :: _) (by decide),
    absent (by rfl : Text.ofString "false" = _ :: _) (by decide),
    absent (by rfl : Text.ofString "NaN" = _ :: _) (by decide),
    absent (by rfl : Text.ofString "Infinity" = _ :: _) (by decide), infinite, Option.map_none]

theorem readValue?_ofInt {fuel : Nat} {text rest : Text} (number : Int)
    (spelled : afterBlanks text = Text.ofInt number ++ rest) (ends : Ends rest) :
    readValue? (fuel + 1) text = some (.int number, rest) := by
  have read := readNumber?_ofInt number ends
  have spells : ∃ first more, Text.ofInt number ++ rest = first :: more ∧
      (first.value = 0x2D ∨ 0x30 ≤ first.value ∧ first.value ≤ 0x39) ∧
      readWord? (first :: more) = none := by
    cases number with
    | ofNat number =>
        cases digits : Text.ofNat number with
        | nil => exact absurd digits (Text.ofNat_ne_nil number)
        | cons first more =>
            have decimal := Text.mem_ofNat (digits ▸ List.mem_cons_self : first ∈ Text.ofNat number)
            refine ⟨first, more ++ rest, ?_, Or.inr decimal,
              readWord?_of_digit decimal.1 decimal.2 _⟩
            rw [Text.ofInt, digits, List.cons_append]
    | negSucc number =>
        cases digits : Text.ofNat (number + 1) with
        | nil => exact absurd digits (Text.ofNat_ne_nil (number + 1))
        | cons second more =>
            have decimal := Text.mem_ofNat
              (digits ▸ List.mem_cons_self : second ∈ Text.ofNat (number + 1))
            refine ⟨.ofChar '-', second :: (more ++ rest), ?_, Or.inl rfl,
              readWord?_of_minus decimal.2 _⟩
            rw [Text.ofInt, digits, List.cons_append, List.cons_append]
  rcases spells with ⟨first, more, start, sign, noWord⟩
  rw [start] at spelled read
  have noText : readText? (first :: more) = none := by
    rw [readText?, after?_single (by rfl : Text.ofString "\"" = [.ofChar '"']), if_neg]
    · rfl
    · show first.value ≠ 0x22
      omega
  rw [readValue?_of_plain spelled (by omega) (by omega), noText, noWord, read]
  rfl

/-! ### Arrays and objects -/

theorem readItems?_last {fuel : Nat} {before : List Value} {text rest : Text} {item : Value}
    (read : readValue? fuel text = some (item, .ofChar ']' :: rest)) :
    readItems? before (fuel + 1) text = some (.list (before.reverse ++ [item]), rest) := by
  have visible : afterBlanks (.ofChar ']' :: rest) = .ofChar ']' :: rest :=
    afterBlanks_of_visible (by decide) rest
  have noComma : after? "," (.ofChar ']' :: rest) = none := by rfl
  have bracket : after? "]" (.ofChar ']' :: rest) = some rest := after?_append "]" rest
  simp only [readItems?, read, visible, noComma, bracket, Option.map_some, List.reverse_cons]

theorem readItems?_next {fuel : Nat} {before : List Value} {text rest : Text} {item : Value}
    (read : readValue? fuel text = some (item, Text.ofString ", " ++ rest)) :
    readItems? before (fuel + 1) text
      = readItems? (item :: before) fuel (.ofChar ' ' :: rest) := by
  have visible : afterBlanks (Text.ofString ", " ++ rest) = .ofChar ',' :: .ofChar ' ' :: rest :=
    afterBlanks_of_visible (by decide) _
  have comma : after? "," (.ofChar ',' :: .ofChar ' ' :: rest) = some (.ofChar ' ' :: rest) :=
    after?_append "," _
  simp only [readItems?, read, visible, comma]

section Members

variable {fuel : Nat} {before : List (Value × Value)} {text name more rest : Text} {item : Value}
  (named : afterBlanks text = string name ++ (Text.ofString ": " ++ more))

include named

theorem readMembers?_step (read : readValue? fuel (.ofChar ' ' :: more) = some (item, rest)) :
    readMembers? before (fuel + 1) text
      = (after? "," (afterBlanks rest)).elim
          ((after? "\x7d" (afterBlanks rest)).map fun rest =>
            (.dictOf ((.text name.joined, item) :: before).reverse, rest))
          (readMembers? ((.text name.joined, item) :: before) fuel) := by
  have found := readText?_string name (Text.ofString ": " ++ more)
  have visible : afterBlanks (Text.ofString ": " ++ more) = .ofChar ':' :: .ofChar ' ' :: more :=
    afterBlanks_of_visible (by decide) _
  have colon : after? ":" (.ofChar ':' :: .ofChar ' ' :: more) = some (.ofChar ' ' :: more) :=
    after?_append ":" _
  rw [← named] at found
  simp only [readMembers?, found, visible, colon, Option.bind_some, read]
  cases after? "," (afterBlanks rest) with
  | none => rfl
  | some more => rfl

theorem readMembers?_last
    (read : readValue? fuel (.ofChar ' ' :: more) = some (item, .ofChar '\x7d' :: rest)) :
    readMembers? before (fuel + 1) text
      = some (.dictOf (before.reverse ++ [(.text name.joined, item)]), rest) := by
  have visible : afterBlanks (.ofChar '\x7d' :: rest) = .ofChar '\x7d' :: rest :=
    afterBlanks_of_visible (by decide) rest
  have noComma : after? "," (.ofChar '\x7d' :: rest) = none := by rfl
  have brace : after? "\x7d" (.ofChar '\x7d' :: rest) = some rest := after?_append "\x7d" rest
  rw [readMembers?_step named read]
  simp only [visible, noComma, brace, Option.elim_none, Option.map_some, List.reverse_cons]

theorem readMembers?_next
    (read : readValue? fuel (.ofChar ' ' :: more) = some (item, Text.ofString ", " ++ rest)) :
    readMembers? before (fuel + 1) text
      = readMembers? ((.text name.joined, item) :: before) fuel (.ofChar ' ' :: rest) := by
  have visible : afterBlanks (Text.ofString ", " ++ rest) = .ofChar ',' :: .ofChar ' ' :: rest :=
    afterBlanks_of_visible (by decide) _
  have comma : after? "," (.ofChar ',' :: .ofChar ' ' :: rest) = some (.ofChar ' ' :: rest) :=
    after?_append "," _
  rw [readMembers?_step named read]
  simp only [visible, comma, Option.elim_some]

end Members

theorem listed_singleton (text : Text) : Text.listed [text] = text := by
  simp [Text.listed, Text.joinWith]

theorem listed_opens {first : CodePoint} {rest text : Text} (texts : List Text)
    (opens : text = first :: rest) : ∃ more, Text.listed (text :: texts) = first :: more := by
  cases texts with
  | nil => exact ⟨rest, by rw [listed_singleton, opens]⟩
  | cons second texts =>
      rw [listed_cons _ _ (by simp), opens, List.append_assoc, List.cons_append]
      exact ⟨_, rfl⟩

theorem length_bracket : (Text.ofString "[").length = 1 ∧ (Text.ofString "]").length = 1 :=
  ⟨rfl, rfl⟩

theorem length_brace :
    (Text.ofString "\x7b").length = 1 ∧ (Text.ofString "\x7d").length = 1 :=
  ⟨rfl, rfl⟩

theorem length_comma : (Text.ofString ", ").length = 2 := rfl

theorem listed_ofValues_opens {item : Value} {items : List Value}
    (readable : allAreReadable (item :: items) = true) (rest : Text) :
    ∃ first more, Text.listed (ofValues (item :: items)) ++ rest = first :: more ∧
      0x21 ≤ first.value ∧ first.value ≠ 0x5D := by
  rw [allAreReadable, Bool.and_eq_true] at readable
  rcases ofValue_opens item readable.1 with ⟨first, more, opens, visible, other⟩
  rcases listed_opens (ofValues items) opens with ⟨later, begins⟩
  exact ⟨first, later ++ rest, by rw [ofValues, begins, List.cons_append], visible, other⟩

theorem listed_members_opens (entry : Value × Value) (entries : List (Value × Value))
    (rest : Text) :
    ∃ more, Text.listed (members (entry :: entries)) ++ rest = .ofChar '"' :: more := by
  rcases entry with ⟨name, value⟩
  have opens : string (key name) ++ Text.ofString ": " ++ ofValue value
      = .ofChar '"' :: ((key name).flatMap escape ++ Text.ofString "\"" ++ Text.ofString ": "
        ++ ofValue value) := rfl
  rcases listed_opens (members entries) opens with ⟨later, begins⟩
  exact ⟨later ++ rest, by rw [members, begins, List.cons_append]⟩

theorem readValue?_emptyArray {fuel : Nat} {text rest : Text}
    (spelled : afterBlanks text = Text.ofString "[" ++ .ofChar ']' :: rest) :
    readValue? (fuel + 1) text = some (.list [], rest) := by
  have visible : afterBlanks (.ofChar ']' :: rest) = .ofChar ']' :: rest :=
    afterBlanks_of_visible (by decide) rest
  have bracket : after? "]" (.ofChar ']' :: rest) = some rest := after?_append "]" rest
  simp only [readValue?, spelled, after?_append, visible, bracket]

theorem readValue?_array {fuel : Nat} {text rest : Text} {first : CodePoint}
    (spelled : afterBlanks text = Text.ofString "[" ++ first :: rest)
    (visible : 0x21 ≤ first.value) (other : first.value ≠ 0x5D) :
    readValue? (fuel + 1) text = readItems? [] fuel (first :: rest) := by
  have open_ : after? "]" (first :: rest) = none := by
    rw [after?_single (by rfl : Text.ofString "]" = [.ofChar ']'])]
    exact if_neg other
  simp only [readValue?, spelled, after?_append, afterBlanks_of_visible visible, open_]

theorem readValue?_emptyObject {fuel : Nat} {text rest : Text}
    (spelled : afterBlanks text = Text.ofString "\x7b" ++ .ofChar '\x7d' :: rest) :
    readValue? (fuel + 1) text = some (.dict [], rest) := by
  have visible : afterBlanks (.ofChar '\x7d' :: rest) = .ofChar '\x7d' :: rest :=
    afterBlanks_of_visible (by decide) rest
  have noArray : after? "[" (Text.ofString "\x7b" ++ .ofChar '\x7d' :: rest) = none := by rfl
  have brace : after? "\x7d" (.ofChar '\x7d' :: rest) = some rest := after?_append "\x7d" rest
  simp only [readValue?, spelled, noArray, after?_append, visible, brace]

theorem readValue?_object {fuel : Nat} {text rest : Text}
    (spelled : afterBlanks text = Text.ofString "\x7b" ++ .ofChar '"' :: rest) :
    readValue? (fuel + 1) text = readMembers? [] fuel (.ofChar '"' :: rest) := by
  have visible : afterBlanks (.ofChar '"' :: rest) = .ofChar '"' :: rest :=
    afterBlanks_of_visible (by decide) rest
  have noArray : after? "[" (Text.ofString "\x7b" ++ .ofChar '"' :: rest) = none := by rfl
  have open_ : after? "\x7d" (.ofChar '"' :: rest) = none := by rfl
  simp only [readValue?, spelled, noArray, after?_append, visible, open_]

mutual

/-- A value is read back from its JSON text, whatever comes after it. -/
theorem readValue?_ofValue (value : Value) (readable : isReadable value = true) {fuel : Nat}
    {text rest : Text} (enough : (ofValue value).length ≤ fuel)
    (spelled : afterBlanks text = ofValue value ++ rest) (ends : Ends rest) :
    readValue? fuel text = some (image value, rest) := by
  cases fuel with
  | zero =>
      rcases ofValue_opens value readable with ⟨first, more, opens, -⟩
      simp [opens] at enough
  | succ fuel =>
      cases value with
      | none => exact readValue?_word spelled (by decide) (by decide) (by decide) rfl
      | bool truth =>
          cases truth <;>
            exact readValue?_word spelled (by decide) (by decide) (by decide) rfl
      | int number => exact readValue?_ofInt number spelled ends
      | float number => cases readable
      | text content => exact readValue?_string spelled
      | bytes form content => exact readValue?_string spelled
      | date day => cases readable
      | moment time => cases readable
      | list items =>
          rw [ofValue, List.append_assoc, List.append_assoc] at spelled
          cases items with
          | nil => exact readValue?_emptyArray spelled
          | cons item items =>
              rcases listed_ofValues_opens readable (.ofChar ']' :: rest) with
                ⟨first, more, begun, visible, other⟩
              have size : (Text.listed (ofValues (item :: items))).length < fuel := by
                simp only [ofValue, List.length_append, length_bracket] at enough
                omega
              have same : afterBlanks (first :: more)
                  = Text.listed (ofValues (item :: items)) ++ .ofChar ']' :: rest := by
                rw [begun]
                exact afterBlanks_of_visible visible more
              rw [readValue?_array (spelled.trans (congrArg (Text.ofString "[" ++ ·) begun))
                visible other]
              exact readItems?_ofValues (item :: items) readable (by simp) size same
      | dict entries =>
          rw [ofValue, List.append_assoc, List.append_assoc] at spelled
          cases entries with
          | nil => exact readValue?_emptyObject spelled
          | cons entry entries =>
              rcases listed_members_opens entry entries (.ofChar '\x7d' :: rest) with ⟨more, begun⟩
              have size : (Text.listed (members (entry :: entries))).length < fuel := by
                simp only [ofValue, List.length_append, length_brace] at enough
                omega
              have same : afterBlanks (.ofChar '"' :: more)
                  = Text.listed (members (entry :: entries)) ++ .ofChar '\x7d' :: rest := by
                rw [begun]
                exact afterBlanks_of_visible (by decide) more
              rw [readValue?_object (spelled.trans (congrArg (Text.ofString "\x7b" ++ ·) begun))]
              exact readMembers?_members (entry :: entries) readable (by simp) size same

theorem readItems?_ofValues (items : List Value) (readable : allAreReadable items = true)
    (nonempty : items ≠ []) {before : List Value} {fuel : Nat} {text rest : Text}
    (enough : (Text.listed (ofValues items)).length < fuel)
    (spelled : afterBlanks text = Text.listed (ofValues items) ++ .ofChar ']' :: rest) :
    readItems? before fuel text = some (.list (before.reverse ++ images items), rest) := by
  cases fuel with
  | zero => cases enough
  | succ fuel =>
      cases items with
      | nil => exact absurd rfl nonempty
      | cons item items =>
          have parts := readable
          rw [allAreReadable, Bool.and_eq_true] at parts
          cases items with
          | nil =>
              rw [ofValues, ofValues, listed_singleton] at enough spelled
              have read : readValue? fuel text = some (image item, .ofChar ']' :: rest) :=
                readValue?_ofValue item parts.1 (Nat.le_of_lt_succ enough) spelled
                  (Or.inr (Or.inl rfl))
              exact readItems?_last read
          | cons next items =>
              rw [ofValues, listed_cons _ _ (by simp [ofValues])] at enough spelled
              simp only [List.append_assoc, List.length_append, length_comma] at enough spelled
              have fits : (ofValue item).length ≤ fuel := by
                omega
              have read := readValue?_ofValue item parts.1 fits spelled (Or.inl rfl)
              rcases listed_ofValues_opens parts.2 (.ofChar ']' :: rest) with
                ⟨first, more, begun, visible, -⟩
              have same : afterBlanks (.ofChar ' ' :: (Text.listed (ofValues (next :: items))
                  ++ .ofChar ']' :: rest))
                  = Text.listed (ofValues (next :: items)) ++ .ofChar ']' :: rest := by
                rw [afterBlanks_space, begun]
                exact afterBlanks_of_visible visible more
              have size : (Text.listed (ofValues (next :: items))).length < fuel := by
                omega
              rw [readItems?_next read,
                readItems?_ofValues (next :: items) parts.2 (by simp) size same,
                List.reverse_cons, List.append_assoc]
              rfl

theorem readMembers?_members (entries : List (Value × Value))
    (readable : membersAreReadable entries = true) (nonempty : entries ≠ [])
    {before : List (Value × Value)} {fuel : Nat} {text rest : Text}
    (enough : (Text.listed (members entries)).length < fuel)
    (spelled : afterBlanks text = Text.listed (members entries) ++ .ofChar '\x7d' :: rest) :
    readMembers? before fuel text
      = some (.dictOf (before.reverse ++ memberImages entries), rest) := by
  cases fuel with
  | zero => cases enough
  | succ fuel =>
      cases entries with
      | nil => exact absurd rfl nonempty
      | cons entry entries =>
          rcases entry with ⟨name, value⟩
          have parts := readable
          rw [membersAreReadable, Bool.and_eq_true, Bool.and_eq_true] at parts
          have visible : ∀ more, afterBlanks (.ofChar ' ' :: (ofValue value ++ more))
              = ofValue value ++ more := by
            intro more
            rcases ofValue_opens value parts.1.2 with ⟨first, later, opens, visible, -⟩
            rw [afterBlanks_space, opens, List.cons_append]
            exact afterBlanks_of_visible visible _
          cases entries with
          | nil =>
              rw [members, members, listed_singleton] at enough spelled
              simp only [List.append_assoc, List.length_append] at enough spelled
              have fits : (ofValue value).length ≤ fuel := by
                omega
              have read := readValue?_ofValue value parts.1.2 fits
                (visible (.ofChar '\x7d' :: rest)) (Or.inr (Or.inr rfl))
              exact readMembers?_last spelled read
          | cons next entries =>
              rw [members, listed_cons _ _ (by cases next; simp [members])] at enough spelled
              simp only [List.append_assoc, List.length_append, length_comma] at enough spelled
              have fits : (ofValue value).length ≤ fuel := by
                omega
              have read := readValue?_ofValue value parts.1.2 fits
                (visible (Text.ofString ", " ++ (Text.listed (members (next :: entries))
                  ++ .ofChar '\x7d' :: rest))) (Or.inl rfl)
              rcases listed_members_opens next entries (.ofChar '\x7d' :: rest) with ⟨more, begun⟩
              have same : afterBlanks (.ofChar ' ' :: (Text.listed (members (next :: entries))
                  ++ .ofChar '\x7d' :: rest))
                  = Text.listed (members (next :: entries)) ++ .ofChar '\x7d' :: rest := by
                rw [afterBlanks_space, begun]
                exact afterBlanks_of_visible (by decide) more
              have size : (Text.listed (members (next :: entries))).length < fuel := by
                omega
              rw [readMembers?_next spelled read,
                readMembers?_members (next :: entries) parts.2 (by simp) size same,
                List.reverse_cons, List.append_assoc]
              rfl

end

/-- A value is read back from its JSON text alone, of which nothing is left. -/
theorem read?_ofValue {value : Value} (readable : isReadable value = true) :
    read? (ofValue value) = some (image value, []) := by
  rcases ofValue_opens value readable with ⟨first, more, opens, visible, -⟩
  have same : afterBlanks (ofValue value) = ofValue value ++ [] := by
    rw [List.append_nil, opens]
    exact afterBlanks_of_visible visible more
  exact readValue?_ofValue value readable (Nat.le_succ _) same trivial

/-! ## ASCII -/

/-- Whether a text is printable ASCII, in which there are no line breaks. -/
def IsAscii (text : Text) : Prop := ∀ point ∈ text, 0x20 ≤ point.value ∧ point.value < 0x7F

instance (text : Text) : Decidable (IsAscii text) :=
  inferInstanceAs (Decidable (∀ point ∈ text, 0x20 ≤ point.value ∧ point.value < 0x7F))

theorem IsAscii.append {left right : Text} (first : IsAscii left) (second : IsAscii right) :
    IsAscii (left ++ right) := by
  intro point mem
  rcases List.mem_append.mp mem with before | after
  · exact first point before
  · exact second point after

theorem isAscii_unit (number : Nat) : IsAscii (unit number) := by
  have mark : IsAscii (Text.ofString "\\u") := by decide
  apply mark.append
  intro point mem
  have bounds := Text.mem_ofHex mem
  omega

theorem isAscii_escape (point : CodePoint) : IsAscii (escape point) := by
  have pair : ∀ {other : CodePoint}, 0x20 ≤ other.value ∧ other.value < 0x7F →
      IsAscii [.ofChar '\\', other] := by
    intro other printable each mem
    rcases List.mem_cons.mp mem with rfl | second
    · decide
    · rw [List.mem_singleton.mp second]
      exact printable
  simp only [escape]
  split
  · rename_i special
    apply pair
    rcases Bool.or_eq_true_iff.mp special with quote | backslash
    · rw [beq_iff_eq.mp quote]
      decide
    · rw [beq_iff_eq.mp backslash]
      decide
  split
  · rename_i printable
    intro other mem
    rw [List.mem_singleton.mp mem]
    simpa using printable
  split
  · exact pair (by decide)
  split
  · exact pair (by decide)
  split
  · exact pair (by decide)
  split
  · exact pair (by decide)
  split
  · exact pair (by decide)
  split
  · exact isAscii_unit _
  · exact (isAscii_unit _).append (isAscii_unit _)

theorem isAscii_string (text : Text) : IsAscii (string text) := by
  have quote : IsAscii (Text.ofString "\"") := by decide
  apply (quote.append _).append quote
  intro point mem
  rcases List.mem_flatMap.mp mem with ⟨original, -, among⟩
  exact isAscii_escape original point among

theorem isAscii_listed {texts : List Text} (all : ∀ text ∈ texts, IsAscii text) :
    IsAscii (Text.listed texts) := by
  induction texts with
  | nil =>
      intro point mem
      cases mem
  | cons first rest ih =>
      rw [List.forall_mem_cons] at all
      cases rest with
      | nil =>
          rw [listed_singleton]
          exact all.1
      | cons second rest =>
          have comma : IsAscii (Text.ofString ", ") := by decide
          rw [listed_cons _ _ (by simp)]
          exact (all.1.append comma).append (ih all.2)

theorem isAscii_ofInt (number : Int) : IsAscii (Text.ofInt number) := by
  have digits : ∀ number, IsAscii (Text.ofNat number) := by
    intro number point mem
    have decimal := Text.mem_ofNat mem
    omega
  cases number with
  | ofNat number => exact digits number
  | negSucc number =>
      intro point mem
      rcases List.mem_cons.mp mem with rfl | later
      · decide
      · exact digits (number + 1) point later

mutual

theorem isAscii_ofValue (value : Value) (readable : isReadable value = true) :
    IsAscii (ofValue value) := by
  cases value with
  | none => exact (by decide : IsAscii (Text.ofString "null"))
  | bool truth =>
      have words : IsAscii (Text.ofString "true") ∧ IsAscii (Text.ofString "false") := by decide
      cases truth with
      | true => exact words.1
      | false => exact words.2
  | int number => exact isAscii_ofInt number
  | float number => cases readable
  | text content => exact isAscii_string content
  | bytes form content => exact isAscii_string _
  | date day => cases readable
  | moment time => cases readable
  | list items =>
      have inside := isAscii_listed (isAscii_ofValues items readable)
      have brackets : IsAscii (Text.ofString "[") ∧ IsAscii (Text.ofString "]") := by decide
      exact (brackets.1.append inside).append brackets.2
  | dict entries =>
      have inside := isAscii_listed (isAscii_members entries readable)
      have braces : IsAscii (Text.ofString "\x7b") ∧ IsAscii (Text.ofString "\x7d") := by decide
      exact (braces.1.append inside).append braces.2

theorem isAscii_ofValues (items : List Value) (readable : allAreReadable items = true) :
    ∀ text ∈ ofValues items, IsAscii text := by
  cases items with
  | nil =>
      intro text mem
      cases mem
  | cons item items =>
      rw [allAreReadable, Bool.and_eq_true] at readable
      rw [ofValues, List.forall_mem_cons]
      exact ⟨isAscii_ofValue item readable.1, isAscii_ofValues items readable.2⟩

theorem isAscii_members (entries : List (Value × Value))
    (readable : membersAreReadable entries = true) :
    ∀ text ∈ members entries, IsAscii text := by
  cases entries with
  | nil =>
      intro text mem
      cases mem
  | cons entry entries =>
      rcases entry with ⟨name, value⟩
      rw [membersAreReadable, Bool.and_eq_true, Bool.and_eq_true] at readable
      have colon : IsAscii (Text.ofString ": ") := by decide
      rw [members, List.forall_mem_cons]
      exact ⟨((isAscii_string _).append colon).append (isAscii_ofValue value readable.1.2),
        isAscii_members entries readable.2⟩

end

end Json

end IndexWire
