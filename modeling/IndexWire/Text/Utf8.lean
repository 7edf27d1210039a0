import IndexWire.Bytes
import IndexWire.Text.Surrogate

/-!
# UTF-8

Text as bytes under a surrogate policy, and bytes as text again. Encoding under `replace` always
succeeds; under `strict` the first run of surrogates is the reason to refuse the text. Decoding
accepts the shortest form of scalar values only and says where and why it stops.
-/

namespace IndexWire

namespace Utf8

def encodePoint (point : CodePoint) : Bytes :=
  let number := point.value
  if number < 0x80 then [UInt8.ofNat number]
  else if number < 0x800 then
    [UInt8.ofNat (0xC0 + number / 64), UInt8.ofNat (0x80 + number % 64)]
  else if number < 0x10000 then
    [UInt8.ofNat (0xE0 + number / 4096), UInt8.ofNat (0x80 + number / 64 % 64),
      UInt8.ofNat (0x80 + number % 64)]
  else
    [UInt8.ofNat (0xF0 + number / 262144), UInt8.ofNat (0x80 + number / 4096 % 64),
      UInt8.ofNat (0x80 + number / 64 % 64), UInt8.ofNat (0x80 + number % 64)]

def encodePoints (text : Text) : Bytes := text.flatMap encodePoint

/-- The bytes of a text under a surrogate policy, or the run of surrogates that is refused. -/
def encode (policy : SurrogatePolicy) (text : Text) : Except Text.Run Bytes :=
  match policy with
  | .replace => .ok (encodePoints text.withoutSurrogates)
  | .strict =>
    match text.firstRun? with
    | some run => .error run
    | none => .ok (encodePoints text)

/-- Why bytes are not the encoding of a text. -/
inductive Reason where
  /-- A byte that begins no encoding. -/
  | invalidStart
  /-- A byte that does not continue the encoding begun before it. -/
  | invalidContinuation
  /-- The bytes end inside an encoding. -/
  | unexpectedEnd
deriving DecidableEq

/-- The bytes at which decoding stops. -/
structure Malformed where
  /-- The bytes before those that cannot be decoded. -/
  start : Nat
  bytes : Bytes
  reason : Reason
deriving DecidableEq

/--
What a first byte tells of an encoding: its own bits, and how the following bytes are bounded.
-/
structure Lead where
  /-- The bits that the first byte contributes. -/
  bits : Nat
  count : Nat
  least : Nat
  greatest : Nat

/-- Reads a first byte; there is none for a byte that begins no shortest form of a scalar value. -/
def Lead.ofByte? (byte : UInt8) : Option Lead :=
  let number := byte.toNat
  if number < 0x80 then some ⟨number, 0, 0, 0⟩
  else if number < 0xC2 then none
  else if number < 0xE0 then some ⟨number - 0xC0, 1, 0x80, 0xBF⟩
  else if number < 0xF0 then
    some
      ⟨number - 0xE0, 2, if number = 0xE0 then 0xA0 else 0x80,
        if number = 0xED then 0x9F else 0xBF⟩
  else if number < 0xF5 then
    some
      ⟨number - 0xF0, 3, if number = 0xF0 then 0x90 else 0x80,
        if number = 0xF4 then 0x8F else 0xBF⟩
  else none

/--
Reads `count` following bytes onto the bits read so far. On failure it gives the number of
following bytes that were good, and the reason.
-/
def continuation :
    (count least greatest bits good : Nat) → Bytes → Except (Nat × Reason) (Nat × Bytes)
  | 0, _, _, bits, _, bytes => .ok (bits, bytes)
  | _ + 1, _, _, _, good, [] => .error (good, .unexpectedEnd)
  | count + 1, least, greatest, bits, good, byte :: rest =>
    if least ≤ byte.toNat && byte.toNat ≤ greatest then
      continuation count 0x80 0xBF (bits * 64 + (byte.toNat - 0x80)) (good + 1) rest
    else .error (good, .invalidContinuation)

/-- Reading following bytes leaves no more bytes than there were. -/
theorem length_of_continuation {count least greatest bits good : Nat} {bytes : Bytes}
    {result : Nat × Bytes} (read : continuation count least greatest bits good bytes = .ok result) :
    result.2.length ≤ bytes.length := by
  induction count generalizing least greatest bits good bytes with
  | zero =>
    simp only [continuation, Except.ok.injEq] at read
    subst read
    exact Nat.le_refl _
  | succ count ih =>
    cases bytes with
    | nil => simp [continuation] at read
    | cons byte rest =>
      simp only [continuation] at read
      split at read
      · exact Nat.le_succ_of_le (ih read)
      · simp at read

/-- The text that bytes encode; `start` counts the bytes before them. -/
def decodeFrom (start : Nat) : Bytes → Except Malformed Text
  | [] => .ok []
  | byte :: rest =>
    match Lead.ofByte? byte with
    | none => .error ⟨start, [byte], .invalidStart⟩
    | some lead =>
      match read : continuation lead.count lead.least lead.greatest lead.bits 0 rest with
      | .error (good, reason) => .error ⟨start, byte :: rest.take good, reason⟩
      | .ok (number, remaining) =>
        have shorter : remaining.length ≤ rest.length := length_of_continuation read
        (decodeFrom (start + lead.count + 1) remaining).map (CodePoint.ofNat number :: ·)
termination_by bytes => bytes.length
decreasing_by
  rw [List.length_cons]
  omega

/-- The text that bytes encode, or the first bytes that encode none. -/
def decode (bytes : Bytes) : Except Malformed Text := decodeFrom 0 bytes

end Utf8

end IndexWire
