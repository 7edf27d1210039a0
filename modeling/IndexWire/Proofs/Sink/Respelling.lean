import IndexWire.Proofs.Sink.Plan
import IndexWire.Proofs.Text.Appending
import IndexWire.Sink.Basic
import Mathlib.Data.List.Forall2

/-!
# Pairs spelled out

A code point above the basic plane can stand in a text as itself or as the two surrogates that spell
it. Under the policy `replace` both have the same bytes. The pair may stand beside other surrogates,
so that it becomes a part of a longer run, but no neighbour takes a half of it away: a high
surrogate before the pair is not followed by a low one, and a low one after it is not preceded by a
high one that is still free.
-/

namespace IndexWire

namespace CodePoint

/-- The high surrogate of the pair that spells a code point above the basic plane. -/
def highHalf (point : CodePoint) : CodePoint := ofNat (0xD800 + (point.value - 0x10000) / 0x400)

/-- The low surrogate of the pair that spells a code point above the basic plane. -/
def lowHalf (point : CodePoint) : CodePoint := ofNat (0xDC00 + (point.value - 0x10000) % 0x400)

theorem value_highHalf (point : CodePoint) :
    point.highHalf.value = 0xD800 + (point.value - 0x10000) / 0x400 := by
  have small := point.inRange
  rw [highHalf, ofNat, dif_pos (by omega)]

theorem value_lowHalf (point : CodePoint) :
    point.lowHalf.value = 0xDC00 + (point.value - 0x10000) % 0x400 := by
  rw [lowHalf, ofNat, dif_pos (by omega)]

theorem isHigh_highHalf (point : CodePoint) : point.highHalf.isHigh = true := by
  have small := point.inRange
  simp only [isHigh, value_highHalf, Bool.and_eq_true, decide_eq_true_eq]
  omega

theorem isLow_lowHalf (point : CodePoint) : point.lowHalf.isLow = true := by
  simp only [isLow, value_lowHalf, Bool.and_eq_true, decide_eq_true_eq]
  omega

theorem join_halves {point : CodePoint} (wide : 0x10000 ≤ point.value) :
    join point.highHalf point.lowHalf = point := by
  apply ext
  rw [value_join point.isHigh_highHalf point.isLow_lowHalf, value_highHalf, value_lowHalf]
  omega

theorem isSurrogate_of_wide {point : CodePoint} (wide : 0x10000 ≤ point.value) :
    point.isSurrogate = false := by
  simp only [isSurrogate, Bool.and_eq_false_iff, decide_eq_false_iff_not]
  omega

end CodePoint

/-- A text, and the same with some of its code points above the basic plane spelled as pairs. -/
inductive Text.Respells : Text → Text → Prop where
  | nil : Respells [] []
  | keep (point : CodePoint) {text other : Text} (respelled : Respells text other) :
      Respells (point :: text) (point :: other)
  | split (point : CodePoint) {text other : Text} (wide : 0x10000 ≤ point.value)
      (respelled : Respells text other) :
      Respells (point :: text) (point.highHalf :: point.lowHalf :: other)

namespace Text

/-- A code point above the basic plane is left as it is, and nothing reaches over it. -/
theorem repair_wide (earlier later : Text) {point : CodePoint} (wide : 0x10000 ≤ point.value) :
    repair (earlier ++ point :: later) = repair earlier ++ point :: repair later := by
  have clean := CodePoint.isSurrogate_of_wide wide
  have unsplit : ¬Splits earlier (point :: later) := by
    simp [Splits, CodePoint.isLow_of_clean clean]
  rw [repair_append unsplit, repair_cons_of_clean clean]

/-- Whatever stands before a text, it does not matter how the text is spelled. -/
theorem Respells.repair_append_eq {text other : Text} (respelled : Respells text other)
    (earlier : Text) : repair (earlier ++ other) = repair (earlier ++ text) := by
  induction respelled generalizing earlier with
  | nil => rfl
  | keep point _ ih =>
      -- The code point may be half of a pair, so it is left to the text before.
      simpa using ih (earlier ++ [point])
  | @split point text other wide _ ih =>
      calc repair (earlier ++ point.highHalf :: point.lowHalf :: other)
          = repair earlier ++ .join point.highHalf point.lowHalf :: repair other :=
            repair_pair earlier other point.isHigh_highHalf point.isLow_lowHalf
        _ = repair earlier ++ point :: repair text := by
            rw [CodePoint.join_halves wide]
            simpa using ih []
        _ = repair (earlier ++ point :: text) := (repair_wide earlier text wide).symm

theorem Respells.replaced_eq {text other : Text} (respelled : Respells text other) :
    Utf8.replaced other = Utf8.replaced text := by
  have repaired := respelled.repair_append_eq []
  simp only [List.nil_append] at repaired
  simp only [Utf8.replaced_eq_repair, repaired]

end Text

/-- A value, and the same value except that it may be a text that is spelled in another way. -/
inductive Value.Respells : Value → Value → Prop where
  | same (value : Value) : Respells value value
  | text {content other : Text} (respelled : Text.Respells content other) :
      Respells (.text content) (.text other)

namespace Value.Respells

variable {value other : Value}

theorem string_eq (respelled : Respells value other) :
    Plan.string .replace other = Plan.string .replace value := by
  cases respelled with
  | same => rfl
  | text respelled => simp only [Plan.string, Plan.text_replace, respelled.replaced_eq]

theorem elementFault?_eq (respelled : Respells value other) :
    Plan.elementFault? other = Plan.elementFault? value := by
  cases respelled <;> rfl

theorem entryFault?_eq {key otherKey : Value} (first : Respells key otherKey)
    (second : Respells value other) :
    Plan.entryFault? (otherKey, other) = Plan.entryFault? (key, value) := by
  cases first with
  | same => cases second <;> cases key <;> rfl
  | text => cases second with
      | same => cases value <;> rfl
      | text => rfl

theorem counted_eq {values others : List Value} (respelled : List.Forall₂ Respells values others)
    (count : Nat) : Plan.counted .replace count others = Plan.counted .replace count values := by
  have plans : others.map (Plan.string .replace) = values.map (Plan.string .replace) := by
    induction respelled with
    | nil => rfl
    | cons first _ ih => simp only [List.map_cons, first.string_eq, ih]
  rw [Plan.counted, Plan.counted, plans]

end Value.Respells

/-- A request, and the same request with its texts spelled in another way. -/
inductive Request.Respells : Request → Request → Prop where
  | string {value other : Value} (respelled : Value.Respells value other) :
      Respells (.string value) (.string other)
  | stringMap {entries others : List (Value × Value)}
      (respelled : List.Forall₂
        (fun entry other => Value.Respells entry.1 other.1 ∧ Value.Respells entry.2 other.2)
        entries others) :
      Respells (.stringMap entries) (.stringMap others)
  | stringSet {value other : Value} {elements others : List Value}
      (listed : value.elements? = some elements) (otherListed : other.elements? = some others)
      (respelled : List.Forall₂ Value.Respells elements others) :
      Respells (.stringSet value) (.stringSet other)

theorem findSome?_eq_of_forall₂ {α β : Type} {related : α → α → Prop} (found : α → Option β)
    (agrees : ∀ one other, related one other → found other = found one) {ones others : List α}
    (pairs : List.Forall₂ related ones others) : others.findSome? found = ones.findSome? found := by
  induction pairs with
  | nil => rfl
  | cons first _ ih => simp only [List.findSome?_cons, agrees _ _ first, ih]

theorem Request.Respells.plan_eq {request other : Request} (respelled : Respells request other) :
    other.plan .replace = request.plan .replace := by
  cases respelled with
  | string respelled => exact respelled.string_eq
  | @stringMap entries others respelled =>
      have faults := findSome?_eq_of_forall₂ Plan.entryFault?
        (fun _ _ related => related.1.entryFault?_eq related.2) respelled
      have texts : List.Forall₂ Value.Respells (entries.flatMap fun entry => [entry.1, entry.2])
          (others.flatMap fun entry => [entry.1, entry.2]) :=
        List.rel_flatMap respelled fun _ _ related => .cons related.1 (.cons related.2 .nil)
      simp only [Request.plan, Plan.stringMap, faults, respelled.length_eq,
        Value.Respells.counted_eq texts]
  | @stringSet value other elements others listed otherListed respelled =>
      have faults := findSome?_eq_of_forall₂ Plan.elementFault?
        (fun _ _ related => related.elementFault?_eq) respelled
      simp only [Request.plan, Plan.stringSet, listed, otherListed, faults, respelled.length_eq,
        Value.Respells.counted_eq respelled]

/--
Under the policy `replace` a text has the same bytes however its code points above the basic plane
are spelled, whatever surrogates stand beside them, and a sink writes the same for a text, a map or
a set.
-/
theorem write_respelled :
    (∀ {text other : Text}, text.Respells other →
        Utf8.encode .replace other = Utf8.encode .replace text) ∧
      ∀ {request other : Request}, request.Respells other →
        ∀ (store : Store) (sink : Sink), sink.policy = .replace →
          sink.write store other = sink.write store request := by
  constructor
  · intro text other respelled
    exact congrArg Except.ok respelled.replaced_eq
  · intro request other respelled store sink replaces
    rw [Sink.write, Sink.write, replaces, respelled.plan_eq]

/-- A pair between a high and a low surrogate that stand alone. -/
theorem write_respelled_between_halves :
    let text : Text := [.ofNat 0xD83D, .ofNat 0x1F601, .ofNat 0xDE00]
    let other : Text := [.ofNat 0xD83D, .ofNat 0xD83D, .ofNat 0xDE01, .ofNat 0xDE00]
    let sink : Sink := { policy := .replace, destination := .memory {} }
    Utf8.encode .replace other = Utf8.encode .replace text ∧
      sink.write {} (.string (.text other)) = sink.write {} (.string (.text text)) ∧
      sink.write {} (.stringMap [(.text other, .text text)])
        = sink.write {} (.stringMap [(.text text, .text text)]) ∧
      sink.write {} (.stringSet (.list [.text text, .text other]))
        = sink.write {} (.stringSet (.list [.text text, .text text])) := by
  intro text other sink
  have respelled : text.Respells other :=
    .keep _ (.split (.ofNat 0x1F601) (by decide) (.keep _ .nil))
  have asValue : Value.Respells (.text text) (.text other) := .text respelled
  have asEntry : Request.Respells (.stringMap [(.text text, .text text)])
      (.stringMap [(.text other, .text text)]) :=
    .stringMap (.cons ⟨asValue, .same _⟩ .nil)
  have asElement : Request.Respells (.stringSet (.list [.text text, .text text]))
      (.stringSet (.list [.text text, .text other])) :=
    .stringSet rfl rfl (.cons (.same _) (.cons asValue .nil))
  exact ⟨write_respelled.1 respelled, write_respelled.2 (.string asValue) {} sink rfl,
    write_respelled.2 asEntry {} sink rfl, write_respelled.2 asElement {} sink rfl⟩

end IndexWire
