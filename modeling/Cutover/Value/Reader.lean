import Cutover.Value

/-!
# Reading documents

A document is one value in the usual notation of objects and lists, with three extra words for the
numbers that notation lacks. Of two members of one name the last counts, at the place of the first.

* `Document.read`: the value of a text, or what is wrong with it and where;
* `DocumentFault.message`: the fault in words, with line and column.

The reader walks the characters with a budget of one step for each of them, which is enough because
every step takes one.

A document can name half a surrogate pair alone, and the notation has such a half stand for itself.
The texts here are made of characters, and half a pair is none: it is read as the replacement
character U+FFFD. So two documents that differ in such a half alone are read alike, and what is said of
the value of a document is said up to that.
-/

namespace Cutover

/-- What is wrong with a document. -/
inductive DocumentFaultKind where
  | expectingValue
  | expectingName
  | expectingColon
  | expectingComma
  | extraData
  | unterminatedText
  | controlCharacter
  | escape
  | unicodeEscape
  | byteOrderMark
  deriving DecidableEq, Repr

/-- A fault of a document: what is wrong, and the number of characters before that place; or a whole
number with more digits than are read. -/
inductive DocumentFault where
  | at (kind : DocumentFaultKind) (position : Nat)
  | tooLong (digits : Nat)
  deriving DecidableEq, Repr

/-- The fault in words. -/
def DocumentFaultKind.words : DocumentFaultKind → String
  | expectingValue => "Expecting value"
  | expectingName => "Expecting property name enclosed in double quotes"
  | expectingColon => "Expecting ':' delimiter"
  | expectingComma => "Expecting ',' delimiter"
  | extraData => "Extra data"
  | unterminatedText => "Unterminated string starting at"
  | controlCharacter => "Invalid control character at"
  | escape => "Invalid \\escape"
  | unicodeEscape => "Invalid \\uXXXX escape"
  | byteOrderMark => "Unexpected UTF-8 BOM (decode using utf-8-sig)"

/-- The refusal of a whole number with too many digits. -/
def tooLongMessage (digits : Nat) : String :=
  "Exceeds the limit (" ++ digitLimit.repr ++
    " digits) for integer string conversion: value has " ++ digits.repr ++
    " digits; use sys.set_int_max_str_digits() to increase the limit"

/-- The fault in words, with its place in the text. -/
def DocumentFault.message (document : String) : DocumentFault → String
  | .at kind position =>
    let before := document.toList.take position
    let line := before.count '\n' + 1
    let column := (before.reverse.takeWhile (· ≠ '\n')).length + 1
    kind.words ++ (if kind = .escape then ": " else ": ") ++ "line " ++ line.repr ++ " column " ++
      column.repr ++ " (char " ++ position.repr ++ ")"
  | .tooLong digits => tooLongMessage digits

namespace Document

/-- The characters still to read. Positions are counted from the number left. -/
abbrev Rest := List Char

/-- A blank between the parts of a document. -/
def isGap (c : Char) : Bool := c = ' ' || c = '\t' || c = '\n' || c = '\r'

/-- The characters after the blanks at the front. -/
def skipGap (cs : Rest) : Rest := cs.dropWhile isGap

/-- A fault at the place where `cs` are left of `total` characters. -/
def fail {α : Type} (total : Nat) (kind : DocumentFaultKind) (cs : Rest) : Except DocumentFault α :=
  .error (.at kind (total - cs.length))

/-- The value of a hexadecimal digit. -/
def hexValue? (c : Char) : Option Nat :=
  let n := c.toNat
  if 48 ≤ n ∧ n ≤ 57 then some (n - 48)
  else if 97 ≤ n ∧ n ≤ 102 then some (n - 87)
  else if 65 ≤ n ∧ n ≤ 70 then some (n - 55)
  else none

/-- Four hexadecimal digits at the front, with something behind them: no text ends there. -/
def hexFour? : Rest → Option (Nat × Rest)
  | a :: b :: c :: d :: e :: r =>
    match hexValue? a, hexValue? b, hexValue? c, hexValue? d with
    | some a, some b, some c, some d => some (((a * 16 + b) * 16 + c) * 16 + d, e :: r)
    | _, _, _, _ => none
  | _ => none

/-- The character of a pair of surrogates. -/
def pairedCode (high low : Nat) : Nat := 0x10000 + (high - 0xD800) * 0x400 + (low - 0xDC00)

/-- A code as a character; half a pair alone becomes the replacement character. -/
def codeChar (code : Nat) : Char :=
  if 0xD800 ≤ code ∧ code < 0xE000 then Char.ofNat 0xFFFD else Char.ofNat code

/-- A character written by its code, after the letter that says so: a high surrogate takes a low one
that follows. -/
def unicodeEscape? (cs : Rest) : Option (Char × Rest) :=
  match hexFour? cs with
  | none => none
  | some (code, rest) =>
    if 0xD800 ≤ code ∧ code < 0xDC00 then
      match rest with
      | s :: u :: r =>
        if s = backslash ∧ u = 'u' then
          match hexFour? r with
          | some (low, r') =>
            if 0xDC00 ≤ low ∧ low < 0xE000 then some (Char.ofNat (pairedCode code low), r')
            else some (codeChar code, rest)
          | none => some (codeChar code, rest)
        else some (codeChar code, rest)
      | _ => some (codeChar code, rest)
    else some (codeChar code, rest)

/-- The character a one-letter escape stands for. -/
def simpleEscape? (c : Char) : Option Char :=
  if c = doubleQuote ∨ c = backslash ∨ c = '/' then some c
  else if c = 'b' then some (Char.ofNat 8)
  else if c = 'f' then some (Char.ofNat 12)
  else if c = 'n' then some '\n'
  else if c = 'r' then some '\r'
  else if c = 't' then some '\t'
  else none

/-- The rest of a text up to its closing quote. `start` is what was left at the opening one. -/
def readText (total : Nat) (start : Rest) :
    Nat → List Char → Rest → Except DocumentFault (String × Rest)
  | 0, _, _ => fail total .unterminatedText start
  | _ + 1, _, [] => fail total .unterminatedText start
  | fuel + 1, done, c :: r =>
    if c = doubleQuote then .ok (String.ofList done.reverse, r)
    else if c = backslash then
      match r with
      | [] => fail total .unterminatedText start
      | e :: r' =>
        if e = 'u' then
          match unicodeEscape? r' with
          | some (d, r'') => readText total start fuel (d :: done) r''
          | none => fail total .unicodeEscape r
        else
          match simpleEscape? e with
          | some d => readText total start fuel (d :: done) r'
          | none => fail total .escape (c :: r)
    else if c.toNat < 32 then fail total .controlCharacter (c :: r)
    else readText total start fuel (c :: done) r

/-- A fraction at the front: a point with digits after it, and the rest. -/
def readFraction : Rest → List Char × Rest
  | '.' :: r =>
    let ds := r.takeWhile isPlainDigit
    if ds.isEmpty then ([], '.' :: r) else (ds, r.dropWhile isPlainDigit)
  | cs => ([], cs)

/-- A number at the front. -/
def readNumber (total : Nat) (cs : Rest) : Except DocumentFault (Value × Rest) :=
  let (negative, body) :=
    match cs with
    | '-' :: r => (true, r)
    | _ => (false, cs)
  let digits :=
    match body with
    | '0' :: _ => ['0']
    | _ => body.takeWhile isPlainDigit
  if digits.isEmpty then fail total .expectingValue cs
  else
    let rest := body.drop digits.length
    let (fraction, rest) := readFraction rest
    match readExponent? rest with
    | some (power, rest) =>
      let parts := ⟨negative, digitsValue (digits ++ fraction), power - fraction.length⟩
      .ok (.real (DecimalParts.toDouble parts), rest)
    | none =>
      if fraction.isEmpty then
        if digitLimit < digits.length then .error (.tooLong digits.length)
        else .ok (.whole (signed negative (digitsValue digits)), rest)
      else
        let parts := ⟨negative, digitsValue (digits ++ fraction), -(fraction.length : Int)⟩
        .ok (.real (DecimalParts.toDouble parts), rest)

/-- A word at the front and the rest. -/
def afterWord? (word : String) (cs : Rest) : Option Rest :=
  let w := word.toList
  if cs.take w.length = w then some (cs.drop w.length) else none

/-- A word that stands for a value. -/
def readWord (total : Nat) (cs : Rest) : Except DocumentFault (Value × Rest) :=
  let words : List (String × Value) :=
    [("null", .null), ("true", .bool true), ("false", .bool false), ("NaN", .real .nan),
      ("Infinity", .real (.infinite false)), ("-Infinity", .real (.infinite true))]
  match words.findSome? fun (w, v) => (afterWord? w cs).map fun r => (v, r) with
  | some result => .ok result
  | none => readNumber total cs

mutual

/-- A value at the front. -/
def readValue (total : Nat) : Nat → Rest → Except DocumentFault (Value × Rest)
  | 0, cs => fail total .expectingValue cs
  | fuel + 1, cs =>
    match cs with
    | '"' :: r => do
      let (s, rest) ← readText total cs (r.length + 1) [] r
      return (.text s, rest)
    | '[' :: r =>
      match skipGap r with
      | ']' :: r' => .ok (.list [], r')
      | r' => readItems total fuel [] r'
    | '\x7b' :: r =>
      match skipGap r with
      | '\x7d' :: r' => .ok (.object [], r')
      | r' => readMembers total fuel [] r'
    | _ => readWord total cs

/-- The items of a list up to its closing bracket. -/
def readItems (total : Nat) : Nat → List Value → Rest → Except DocumentFault (Value × Rest)
  | 0, _, cs => fail total .expectingValue cs
  | fuel + 1, done, cs => do
    let (v, rest) ← readValue total fuel cs
    let rest := skipGap rest
    match rest with
    | ']' :: r => return (.list (v :: done).reverse, r)
    | ',' :: r => readItems total fuel (v :: done) (skipGap r)
    | _ => fail total .expectingComma rest

/-- The members of an object up to its closing brace. -/
def readMembers (total : Nat) : Nat → Members → Rest → Except DocumentFault (Value × Rest)
  | 0, _, cs => fail total .expectingName cs
  | fuel + 1, done, cs =>
    match cs with
    | '"' :: r => do
      let (name, rest) ← readText total cs (r.length + 1) [] r
      match skipGap rest with
      | ':' :: r => do
        let (v, rest) ← readValue total fuel (skipGap r)
        let rest := skipGap rest
        let done := put done name v
        match rest with
        | '\x7d' :: r => return (.object done, r)
        | ',' :: r => readMembers total fuel done (skipGap r)
        | _ => fail total .expectingComma rest
      | rest => fail total .expectingColon rest
    | _ => fail total .expectingName cs

end

/-- The value of a document. -/
def read (document : String) : Except DocumentFault Value :=
  let cs := document.toList
  let total := cs.length
  match cs with
  | c :: _ =>
    if c.toNat = 0xFEFF then fail total .byteOrderMark cs else go total cs
  | [] => go total cs
where
  /-- One value with nothing but blanks around it. -/
  go (total : Nat) (cs : Rest) : Except DocumentFault Value := do
    let (v, rest) ← readValue total (2 * total + 2) (skipGap cs)
    match skipGap rest with
    | [] => return v
    | rest => fail total .extraData rest

end Document

end Cutover
