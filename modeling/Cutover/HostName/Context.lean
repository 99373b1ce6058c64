import Cutover.HostName.Alphabet
import Cutover.Text.Composition

/-!
# Characters that need a context

A few characters may stand in the name of a host only next to certain others. And a label in a script that is written
from right to left may hold no characters of the other direction, so that it reads the same wherever it stands.

* `fitsContext`: a character between what stands before and after it;
* `isRightward`, `isNumber`, `isArabicNumber`, `isNeutral`: the directions of characters;
* `keepsDirection`: the rule for a label.
-/

namespace Cutover

/-- Ranges that hold the letters which connect to the letter behind them, and no other characters of
host names. -/
def connectsOnward : Array (Nat × Nat) := #[
    (0x620, 0x620), (0x626, 0x626), (0x628, 0x628), (0x62A, 0x62E), (0x633, 0x647), (0x649, 0x64A),
    (0x66E, 0x66F), (0x679, 0x687), (0x69A, 0x6BF), (0x6C1, 0x6C2), (0x6CC, 0x6CC), (0x6CE, 0x6CE),
    (0x6D0, 0x6D1), (0x6FA, 0x6FC), (0x6FF, 0x6FF), (0x712, 0x714), (0x71A, 0x71D), (0x71F, 0x727),
    (0x729, 0x729), (0x72B, 0x72B), (0x72D, 0x72E), (0x74E, 0x758), (0x75C, 0x76A), (0x76D, 0x770),
    (0x772, 0x772), (0x775, 0x777), (0x77A, 0x77F), (0x7CA, 0x7EA), (0x841, 0x845), (0x848, 0x848),
    (0x84A, 0x853), (0x855, 0x855), (0x860, 0x860), (0x862, 0x865), (0x868, 0x868), (0x886, 0x886),
    (0x889, 0x88D), (0x8A0, 0x8A9), (0x8AF, 0x8B0), (0x8B3, 0x8B8), (0x8BA, 0x8C8),
    (0x1820, 0x1878), (0x1887, 0x18A8), (0x18AA, 0x18AA), (0xA840, 0xA872), (0x10AC0, 0x10AC4),
    (0x10ACD, 0x10ACD), (0x10AD3, 0x10ADC), (0x10ADE, 0x10AE0), (0x10B80, 0x10B80),
    (0x10B82, 0x10B82), (0x10B86, 0x10B88), (0x10B8A, 0x10B8B), (0x10B8D, 0x10B8D),
    (0x10B90, 0x10B90), (0x10D00, 0x10D21), (0x10D23, 0x10D23), (0x10F30, 0x10F32),
    (0x10F34, 0x10F44), (0x10F70, 0x10F73), (0x10F76, 0x10F81), (0x10FB0, 0x10FB0),
    (0x10FB2, 0x10FB3), (0x10FB8, 0x10FB8), (0x10FBB, 0x10FBC), (0x10FBE, 0x10FBF),
    (0x10FC1, 0x10FC1), (0x10FC4, 0x10FC4), (0x1E922, 0x1E943)]

/-- Ranges that hold the letters which connect to the letter before them, and no other characters of
host names. -/
def connectsBack : Array (Nat × Nat) := #[
    (0x620, 0x620), (0x622, 0x64A), (0x66E, 0x66F), (0x671, 0x673), (0x679, 0x6D5), (0x6EE, 0x6EF),
    (0x6FA, 0x6FC), (0x6FF, 0x710), (0x712, 0x72F), (0x74D, 0x77F), (0x7CA, 0x7EA), (0x840, 0x858),
    (0x860, 0x860), (0x862, 0x865), (0x867, 0x882), (0x886, 0x886), (0x889, 0x88E), (0x8A0, 0x8AC),
    (0x8AE, 0x8C8), (0x1820, 0x1878), (0x1887, 0x18A8), (0x18AA, 0x18AA), (0xA840, 0xA871),
    (0x10AC0, 0x10AC5), (0x10AC7, 0x10ACA), (0x10ACE, 0x10AD6), (0x10AD8, 0x10AE1),
    (0x10AE4, 0x10AE4), (0x10B80, 0x10B91), (0x10D01, 0x10D23), (0x10F30, 0x10F44),
    (0x10F70, 0x10F81), (0x10FB0, 0x10FB0), (0x10FB2, 0x10FB6), (0x10FB8, 0x10FBF),
    (0x10FC1, 0x10FC4), (0x1E922, 0x1E943)]

/-- Ranges that hold the Greek characters of host names. -/
def greekRanges : Array (Nat × Nat) := #[
    (0x371, 0x3E1), (0x3F3, 0x3FC), (0x1D26, 0x1D2A), (0x1F00, 0x1FF6), (0xAB65, 0xAB65)]

/-- Ranges that hold the Hebrew characters of host names. -/
def hebrewRanges : Array (Nat × Nat) := #[
    (0x591, 0x5F4), (0xFB1E, 0xFB1E)]

/-- Ranges that hold the characters of host names which Japanese is written with. -/
def japaneseRanges : Array (Nat × Nat) := #[
    (0x3005, 0x3005), (0x3007, 0x3007), (0x3041, 0x3096), (0x309D, 0x30FA), (0x30FD, 0x30FE),
    (0x31F0, 0x9FFF), (0xFA0E, 0xFA29), (0x16FE3, 0x16FE3), (0x16FF0, 0x16FF1), (0x1AFF0, 0x1B167),
    (0x20000, 0x3134A)]

/-- The first character that is no mark lies in some ranges. -/
def reaches (ranges : Array (Nat × Nat)) (cs : List Char) : Bool :=
  match cs.dropWhile isMark with
  | c :: _ => inRanges ranges c.toNat
  | [] => false

/-- The character nearest to a place lies in some ranges. -/
def nearest (ranges : Array (Nat × Nat)) (cs : List Char) : Bool :=
  match cs with
  | c :: _ => inRanges ranges c.toNat
  | [] => false

/-- The sign that joins consonants stands nearest to a place. -/
def followsVirama (before : List Char) : Bool := before.head?.any fun c => combiningClass c = 9

/-- The Arabic digits. -/
def arabicDigits : Array (Nat × Nat) := #[(0x660, 0x669)]

/-- The Arabic digits of the east. -/
def easternDigits : Array (Nat × Nat) := #[(0x6F0, 0x6F9)]

/-- **A character that may stand only in a context fits its own**: what stands before it, the nearest
first, and what stands after it. -/
def fitsContext (before : List Char) (c : Char) (after : List Char) : Bool :=
  let others := before ++ after
  match c.toNat with
  | 0xB7 => before.head? = some 'l' && after.head? = some 'l'
  | 0x375 => nearest greekRanges after
  | 0x5F3 | 0x5F4 => nearest hebrewRanges before
  | 0x30FB => others.any fun o => inRanges japaneseRanges o.toNat
  | 0x200C =>
    followsVirama before || (reaches connectsOnward before && reaches connectsBack after)
  | 0x200D => followsVirama before
  | n =>
    if inRanges arabicDigits n then !others.any fun o => inRanges easternDigits o.toNat
    else if inRanges easternDigits n then !others.any fun o => inRanges arabicDigits o.toNat
    else false

/-! ## Directions of writing -/

/-- Ranges that hold the letters written from right to left, and no other characters of host names. -/
def rightwardRanges : Array (Nat × Nat) := #[
    (0x5D0, 0x5F4), (0x620, 0x64A), (0x66E, 0x66F), (0x671, 0x6D5), (0x6E5, 0x6E6), (0x6EE, 0x6EF),
    (0x6FA, 0x710), (0x712, 0x72F), (0x74D, 0x7A5), (0x7B1, 0x7EA), (0x7F4, 0x7F5), (0x800, 0x815),
    (0x81A, 0x81A), (0x824, 0x824), (0x828, 0x828), (0x840, 0x858), (0x860, 0x88E), (0x8A0, 0x8C9),
    (0xFE73, 0xFE73), (0x10800, 0x10A00), (0x10A10, 0x10A35), (0x10A60, 0x10AE4),
    (0x10B00, 0x10D23), (0x10E80, 0x10EA9), (0x10EB0, 0x10F45), (0x10F70, 0x10F81),
    (0x10FB0, 0x10FF6), (0x1E800, 0x1E8C4), (0x1E922, 0x1E943), (0x1E94B, 0x1E959)]

/-- Ranges that hold the characters without a direction, and no other characters of host names. -/
def neutralRanges : Array (Nat × Nat) := #[
    (0x2D, 0x2D), (0xB7, 0xB7), (0x2B9, 0x2BA), (0x2C6, 0x2CF), (0x2EC, 0x2EC), (0x375, 0x375),
    (0x200C, 0x200D), (0x2E2F, 0x2E2F), (0x30FB, 0x30FB), (0xA67F, 0xA67F), (0xA717, 0xA71F),
    (0xA788, 0xA788)]

/-- A letter that is written from right to left. -/
def isRightward (c : Char) : Bool := inRanges rightwardRanges c.toNat

/-- A character without a direction. -/
def isNeutral (c : Char) : Bool := inRanges neutralRanges c.toNat

/-- A digit that is written from left to right in any text. -/
def isNumber (c : Char) : Bool := inRanges #[(0x30, 0x39), (0x6F0, 0x6F9)] c.toNat

/-- A digit that counts as Arabic. -/
def isArabicNumber (c : Char) : Bool := inRanges #[(0x660, 0x669), (0x10D30, 0x10D39)] c.toNat

/-- A character that is written from left to right. -/
def isLeftward (c : Char) : Bool :=
  !(isRightward c || isArabicNumber c || isNumber c || isNeutral c || isMark c)

/-- The last character that is no mark can end a label written from right to left. -/
def endsRightward (label : List Char) : Bool :=
  match label.reverse.find? fun c => !isMark c with
  | some c => isRightward c || isNumber c || isArabicNumber c
  | none => false

/-- **A label keeps its direction**: once it holds anything written from right to left, it starts and
ends so, holds nothing of the other direction and digits of one kind only. -/
def keepsDirection (label : List Char) : Bool :=
  if label.any fun c => isRightward c || isArabicNumber c then
    (label.head?.any isRightward) && !label.any isLeftward && endsRightward label &&
      !(label.any isNumber && label.any isArabicNumber)
  else true

end Cutover
