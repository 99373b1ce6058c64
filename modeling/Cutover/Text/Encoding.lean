/-!
# The encoding of a document

A document may be written in UTF-8, or in UTF-16 or UTF-32 of either byte order. A mark at its front
tells which one; without a mark, the places of its first zero bytes do. Half a surrogate pair alone is
let pass, as the replacement character.

UTF-8 is read by a machine, byte by byte. It stands between characters, or owes further bytes of one.
Bytes that start no character, and starts that are not carried on, are malformed; the byte that
breaks a character off is read anew.

* `Utf8.decode`: the characters, each malformed piece as none;
* `Utf8.lenient`: the text with a replacement character for every malformed piece;
* `Utf8.strict?`: the text, if no piece is malformed;
* `Encoding.detect`: the encoding of a document, and the bytes after its mark;
* `decodeDocument?`: the text of a document.
-/

namespace Cutover

/-! ## Reading UTF-8 -/

namespace Utf8

/-- Where the machine stands: between characters, or owing bytes, of which the next lies between
`low` and `high`. -/
inductive State where
  | between
  | owing (code bytes low high : Nat)
  deriving Repr

/-- The machine after a byte that starts a character, and what it gives at once. -/
def start (b : Nat) : State × List (Option Char) :=
  if b < 0x80 then (.between, [some (Char.ofNat b)])
  else if 0xC2 ≤ b ∧ b ≤ 0xDF then (.owing (b - 0xC0) 1 0x80 0xBF, [])
  else if b = 0xE0 then (.owing 0 2 0xA0 0xBF, [])
  else if b = 0xED then (.owing 0xD 2 0x80 0x9F, [])
  else if 0xE1 ≤ b ∧ b ≤ 0xEF then (.owing (b - 0xE0) 2 0x80 0xBF, [])
  else if b = 0xF0 then (.owing 0 3 0x90 0xBF, [])
  else if 0xF1 ≤ b ∧ b ≤ 0xF3 then (.owing (b - 0xF0) 3 0x80 0xBF, [])
  else if b = 0xF4 then (.owing 4 3 0x80 0x8F, [])
  else (.between, [none])

/-- The machine after one more byte, and what it gives. -/
def step : State → Nat → State × List (Option Char)
  | .between, b => start b
  | .owing code bytes low high, b =>
    if low ≤ b ∧ b ≤ high then
      let code := code * 64 + (b - 0x80)
      if bytes ≤ 1 then (.between, [some (Char.ofNat code)])
      else (.owing code (bytes - 1) 0x80 0xBF, [])
    else
      let (state, given) := start b
      (state, none :: given)

/-- What is left when the bytes end. -/
def finish : State → List (Option Char)
  | .between => []
  | .owing .. => [none]

/-- The characters that bytes give from some state on. -/
def decodeFrom : State → List UInt8 → List (Option Char)
  | state, [] => finish state
  | state, b :: rest =>
    let (next, given) := step state b.toNat
    given ++ decodeFrom next rest

/-- The characters of a text, each malformed piece as none. -/
def decode (bytes : List UInt8) : List (Option Char) := decodeFrom .between bytes

/-- The replacement character. -/
def replacement : Char := Char.ofNat 0xFFFD

/-- The text with a replacement character for every malformed piece. -/
def lenient (bytes : List UInt8) : String :=
  String.ofList ((decode bytes).map fun c => c.getD replacement)

/-- The text, if no piece is malformed. -/
def strict? (bytes : List UInt8) : Option String := ((decode bytes).mapM id).map String.ofList

end Utf8

/-! ## Documents -/

/-- The encodings of documents. -/
inductive Encoding where
  | utf8
  | utf16 (bigEndian : Bool)
  | utf32 (bigEndian : Bool)
  deriving DecidableEq, Repr

namespace Encoding

/-- The encoding that a mark at the front tells, and the bytes after the mark. -/
def ofMark? : List UInt8 → Option (Encoding × List UInt8)
  | 0x00 :: 0x00 :: 0xFE :: 0xFF :: rest => some (utf32 true, rest)
  | 0xFF :: 0xFE :: 0x00 :: 0x00 :: rest => some (utf32 false, rest)
  | 0xFE :: 0xFF :: rest => some (utf16 true, rest)
  | 0xFF :: 0xFE :: rest => some (utf16 false, rest)
  | 0xEF :: 0xBB :: 0xBF :: rest => some (utf8, rest)
  | _ => none

/-- The encoding that the first zero bytes tell. -/
def ofZeros : List UInt8 → Encoding
  | a :: b :: c :: d :: _ =>
    if a = 0 then if b = 0 then utf32 true else utf16 true
    else if b = 0 then if c = 0 ∧ d = 0 then utf32 false else utf16 false
    else utf8
  | [a, b] => if a = 0 then utf16 true else if b = 0 then utf16 false else utf8
  | _ => utf8

/-- The encoding of a document, and the bytes after its mark. -/
def detect (bytes : List UInt8) : Encoding × List UInt8 :=
  (ofMark? bytes).getD (ofZeros bytes, bytes)

/-- Bytes joined in pairs, if they pair up. -/
def units16? (bigEndian : Bool) : List UInt8 → Option (List Nat)
  | [] => some []
  | a :: b :: rest =>
    let unit := if bigEndian then a.toNat * 256 + b.toNat else b.toNat * 256 + a.toNat
    (units16? bigEndian rest).map (unit :: ·)
  | _ => none

/-- Bytes joined in fours, if they do. -/
def units32? (bigEndian : Bool) : List UInt8 → Option (List Nat)
  | [] => some []
  | a :: b :: c :: d :: rest =>
    let ordered := if bigEndian then [a, b, c, d] else [d, c, b, a]
    (units32? bigEndian rest).map (ordered.foldl (fun n x => n * 256 + x.toNat) 0 :: ·)
  | _ => none

/-- The code is half a surrogate pair. -/
def isHalf (code : Nat) : Bool := 0xD800 ≤ code && code < 0xE000

/-- A code as a character, if it is one. -/
def char? (code : Nat) : Option Char :=
  if isHalf code then some Utf8.replacement
  else if h : code.isValidChar then some (Char.ofNatAux code h)
  else none

/-- Characters of UTF-16 units. A high surrogate takes a low one that follows. -/
def chars16? : List Nat → Option (List Char)
  | [] => some []
  | u :: v :: rest =>
    if 0xD800 ≤ u ∧ u < 0xDC00 ∧ 0xDC00 ≤ v ∧ v < 0xE000 then
      (chars16? rest).map (Char.ofNat (0x10000 + (u - 0xD800) * 0x400 + (v - 0xDC00)) :: ·)
    else do
      let c ← char? u
      (chars16? (v :: rest)).map (c :: ·)
  | [u] => (char? u).map ([·])

/-- Bytes of UTF-8 in which every half of a surrogate pair is replaced. -/
def withoutHalves : List UInt8 → List UInt8
  | a :: b :: c :: rest =>
    if a = 0xED ∧ 0xA0 ≤ b ∧ b ≤ 0xBF ∧ 0x80 ≤ c ∧ c ≤ 0xBF then
      0xEF :: 0xBF :: 0xBD :: withoutHalves rest
    else a :: withoutHalves (b :: c :: rest)
  | bytes => bytes

end Encoding

/-- The text of a document, if its bytes are well formed. -/
def decodeDocument? (bytes : List UInt8) : Option String :=
  match Encoding.detect bytes with
  | (.utf8, rest) => Utf8.strict? (Encoding.withoutHalves rest)
  | (.utf16 big, rest) => do
    return String.ofList (← Encoding.chars16? (← Encoding.units16? big rest))
  | (.utf32 big, rest) => do
    return String.ofList (← (← Encoding.units32? big rest).mapM Encoding.char?)

end Cutover
