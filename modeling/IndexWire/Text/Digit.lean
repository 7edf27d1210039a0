import IndexWire.Text.CodePoint

/-!
# Decimal digits and blanks

The decimal digits of every script of Unicode 14, and the blanks that may surround a number. Each
script has its ten digits in a row, so the table holds the zeros only.
-/

namespace IndexWire

namespace CodePoint

/-- The zeros of all scripts, in ascending order. -/
def zeroDigits : List Nat :=
  [0x30, 0x660, 0x6f0, 0x7c0, 0x966, 0x9e6, 0xa66, 0xae6, 0xb66, 0xbe6, 0xc66, 0xce6, 0xd66,
    0xde6, 0xe50, 0xed0, 0xf20, 0x1040, 0x1090, 0x17e0, 0x1810, 0x1946, 0x19d0, 0x1a80, 0x1a90,
    0x1b50, 0x1bb0, 0x1c40, 0x1c50, 0xa620, 0xa8d0, 0xa900, 0xa9d0, 0xa9f0, 0xaa50, 0xabf0,
    0xff10, 0x104a0, 0x10d30, 0x11066, 0x110f0, 0x11136, 0x111d0, 0x112f0, 0x11450, 0x114d0,
    0x11650, 0x116c0, 0x11730, 0x118e0, 0x11950, 0x11c50, 0x11d50, 0x11da0, 0x16a60, 0x16ac0,
    0x16b50, 0x1d7ce, 0x1d7d8, 0x1d7e2, 0x1d7ec, 0x1d7f6, 0x1e140, 0x1e2f0, 0x1e950, 0x1fbf0]

/-- The number that a decimal digit of any script stands for. -/
def digit? (point : CodePoint) : Option Nat :=
  (zeroDigits.find? fun first => first ≤ point.value && point.value ≤ first + 9).map
    fun first => point.value - first

/-- The white space beyond ASCII. -/
def isWideBlank (point : CodePoint) : Bool :=
  let number := point.value
  number = 0x85 || number = 0xA0 || number = 0x1680 || (0x2000 ≤ number && number ≤ 0x200A)
    || number = 0x2028 || number = 0x2029 || number = 0x202F || number = 0x205F || number = 0x3000

/--
The blanks that may surround a number: space, tab to carriage return, and white space beyond ASCII.
-/
def isBlank (point : CodePoint) : Bool :=
  point.value = 0x20 || (0x09 ≤ point.value && point.value ≤ 0x0D) || point.isWideBlank

end CodePoint

end IndexWire
