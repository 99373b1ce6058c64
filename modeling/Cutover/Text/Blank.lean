/-!
# Blanks

Three classes of blank characters, and trimming by any of them.

* `isBlank`: every white space, the four separators `U+001C` to `U+001F` included;
* `isSpace`: every white space but those four;
* `isPlainBlank`: the six blanks of plain text;
* `trimEnds`: a text without the characters of a class at both ends.
-/

namespace Cutover

/-- The six blanks of plain text: tab to carriage return, and the space. -/
def isPlainBlank (c : Char) : Bool :=
  let n := c.toNat
  (9 ≤ n && n ≤ 13) || n = 32

/-- The white spaces beyond plain text. -/
def isWideBlank (c : Char) : Bool :=
  let n := c.toNat
  n = 0x85 || n = 0xA0 || n = 0x1680 || (0x2000 ≤ n && n ≤ 0x200A) || n = 0x2028 || n = 0x2029 ||
    n = 0x202F || n = 0x205F || n = 0x3000

/-- A white space. -/
def isSpace (c : Char) : Bool := isPlainBlank c || isWideBlank c

/-- A white space or one of the information separators. -/
def isBlank (c : Char) : Bool :=
  let n := c.toNat
  isSpace c || (28 ≤ n && n ≤ 31)

/-- Characters without those of a class at the front. -/
def trimFront (blank : Char → Bool) (cs : List Char) : List Char := cs.dropWhile blank

/-- Characters without those of a class at the back. -/
def trimBack (blank : Char → Bool) (cs : List Char) : List Char := (cs.reverse.dropWhile blank).reverse

/-- Characters without those of a class at both ends. -/
def trimEnds (blank : Char → Bool) (cs : List Char) : List Char := trimBack blank (trimFront blank cs)

/-- A text without blanks at both ends. -/
def trimmed (s : String) : String := String.ofList (trimEnds isBlank s.toList)

end Cutover
