import IndexWire.Fault

/-!
# Keys

Which values can be the keys of a dictionary. What can change cannot be one, because it would not be
found again.
-/

namespace IndexWire

namespace Value

/-- Why a value cannot be a key. -/
def keyFault? : Value → Option Fault
  | bytes (.view true) _ => some .viewNotKey
  | bytes .mutable _ => some (.notKey .mutableBytes)
  | list _ => some (.notKey .list)
  | dict _ => some (.notKey .dict)
  | _ => Option.none

end Value

end IndexWire
