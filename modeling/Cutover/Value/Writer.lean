import Cutover.Value

/-!
# Writing documents

A value is written as a document in plain text: a space follows every comma and colon, and every
character that is not printable plain text is written by its code.

* `Document.writtenChar`: one character inside a written text;
* `Document.write`: a value as a document.
-/

namespace Cutover

namespace Document

/-- A unit of sixteen bits, written by its code. -/
def writtenUnit (code : Nat) : List Char := backslash :: 'u' :: hexDigits 4 code

/-- One character inside a written text. One beyond sixteen bits takes two units. -/
def writtenChar (c : Char) : List Char :=
  let n := c.toNat
  if c = doubleQuote ∨ c = backslash then [backslash, c]
  else if c = '\n' then [backslash, 'n']
  else if c = '\r' then [backslash, 'r']
  else if c = '\t' then [backslash, 't']
  else if n = 8 then [backslash, 'b']
  else if n = 12 then [backslash, 'f']
  else if 32 ≤ n ∧ n < 127 then [c]
  else if n < 0x10000 then writtenUnit n
  else
    writtenUnit (0xD800 + (n - 0x10000) / 0x400) ++ writtenUnit (0xDC00 + (n - 0x10000) % 0x400)

/-- A text between double quotes. -/
def writtenText (s : String) : String :=
  String.ofList (doubleQuote :: s.toList.flatMap writtenChar ++ [doubleQuote])

/-- A floating-point number; those that are not finite have words of their own. -/
def writtenReal : Double → String
  | .nan => "NaN"
  | .infinite negative => if negative then "-Infinity" else "Infinity"
  | x => x.text

mutual

/-- **A value as a document.** -/
def write : Value → String
  | .null => "null"
  | .bool b => if b then "true" else "false"
  | .whole n => toString n
  | .real x => writtenReal x
  | .text s => writtenText s
  | .list items => "[" ++ writeItems items ++ "]"
  | .object members => "\x7b" ++ writeMembers members ++ "\x7d"

/-- Items one after the other, with commas between them. -/
def writeItems : List Value → String
  | [] => ""
  | [v] => write v
  | v :: rest => write v ++ ", " ++ writeItems rest

/-- Members one after the other, with commas between them. -/
def writeMembers : List (String × Value) → String
  | [] => ""
  | [(k, v)] => writtenText k ++ ": " ++ write v
  | (k, v) :: rest => writtenText k ++ ": " ++ write v ++ ", " ++ writeMembers rest

end

end Document

end Cutover
