/-!
# Decimal digits of every script

The characters that stand for a decimal digit, as of version 14 of the character database. They come
in blocks that start with a zero and hold ten digits, or several tens in a row.

* `digitBlocks`: first character and length of every block;
* `digitValue?`: the value of a decimal digit.
-/

namespace Cutover

/-- First character and length of every block of decimal digits. -/
def digitBlocks : List (Nat × Nat) := [
    (0x30, 10), (0x660, 10), (0x6F0, 10), (0x7C0, 10), (0x966, 10), (0x9E6, 10), (0xA66, 10),
    (0xAE6, 10), (0xB66, 10), (0xBE6, 10), (0xC66, 10), (0xCE6, 10), (0xD66, 10), (0xDE6, 10),
    (0xE50, 10), (0xED0, 10), (0xF20, 10), (0x1040, 10), (0x1090, 10), (0x17E0, 10), (0x1810, 10),
    (0x1946, 10), (0x19D0, 10), (0x1A80, 10), (0x1A90, 10), (0x1B50, 10), (0x1BB0, 10), (0x1C40, 10),
    (0x1C50, 10), (0xA620, 10), (0xA8D0, 10), (0xA900, 10), (0xA9D0, 10), (0xA9F0, 10), (0xAA50, 10),
    (0xABF0, 10), (0xFF10, 10), (0x104A0, 10), (0x10D30, 10), (0x11066, 10), (0x110F0, 10),
    (0x11136, 10), (0x111D0, 10), (0x112F0, 10), (0x11450, 10), (0x114D0, 10), (0x11650, 10),
    (0x116C0, 10), (0x11730, 10), (0x118E0, 10), (0x11950, 10), (0x11C50, 10), (0x11D50, 10),
    (0x11DA0, 10), (0x16A60, 10), (0x16AC0, 10), (0x16B50, 10), (0x1D7CE, 50), (0x1E140, 10),
    (0x1E2F0, 10), (0x1E950, 10), (0x1FBF0, 10)]

/-- The value of a decimal digit of any script. -/
def digitValue? (c : Char) : Option Nat :=
  digitBlocks.findSome? fun (first, length) =>
    if first ≤ c.toNat ∧ c.toNat < first + length then some ((c.toNat - first) % 10) else none

/-- One of the ten plain digits. -/
def isPlainDigit (c : Char) : Bool := 48 ≤ c.toNat && c.toNat ≤ 57

/-- The value of a row of plain digits. -/
def digitsValue (cs : List Char) : Nat := cs.foldl (fun n c => 10 * n + (c.toNat - 48)) 0

end Cutover
