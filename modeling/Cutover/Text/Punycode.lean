import Cutover.Text.Digit

/-!
# Names in plain characters

A name with characters beyond plain text is written in plain ones as its plain characters, a hyphen,
and the others as a row of numbers, which say where to put which character. The numbers are written
to the base 36, the least digit first, with thresholds that adapt to the numbers before.

* `Punycode.encode`: a name in plain characters;
* `Punycode.decode?`: the name that plain characters stand for.
-/

namespace Cutover.Punycode

/-- The base of the numbers. -/
def base : Nat := 36

/-- The bias before the first number. -/
def firstBias : Nat := 72

/-- The first number of a character beyond plain text. -/
def firstCode : Nat := 128

/-- The number of characters there may be. -/
def codeCount : Nat := 0x110000

/-- The digit of a value below 36: letters come before figures. -/
def digit (n : Nat) : Char := Char.ofNat (if n < 26 then 97 + n else 22 + n)

/-- The value of a digit, capital or small. -/
def value? (c : Char) : Option Nat :=
  let n := c.toLower.toNat
  if 97 ≤ n ∧ n ≤ 122 then some (n - 97)
  else if isPlainDigit c then some (c.toNat - 22)
  else none

/-- The threshold of the digit at some position, counted in steps of the base. -/
def threshold (position bias : Nat) : Nat := max 1 (min 26 (position - bias))

theorem one_le_threshold (position bias : Nat) : 1 ≤ threshold position bias :=
  Nat.le_max_left ..

/-- A difference scaled down until it is small, and how often that took a step of the base. -/
def scaled (n : Nat) : Nat × Nat :=
  if n ≤ 455 then (n, 0)
  else
    let (rest, steps) := scaled (n / (base - 1))
    (rest, steps + base)
termination_by n
decreasing_by exact Nat.div_lt_self (by omega) (by decide)

/-- The bias after a number was read or written. -/
def adapt (difference length : Nat) (isFirst : Bool) : Nat :=
  let n := if isFirst then difference / 700 else difference / 2
  let (rest, steps) := scaled (n + n / length)
  steps + base * rest / (rest + 38)

/-- A number as digits, from some position on. -/
def writeNumber (bias position n : Nat) : List Char :=
  let t := threshold position bias
  if n < t then [digit n]
  else
    digit (t + (n - t) % (base - t)) ::
      writeNumber bias (position + base) ((n - t) / (base - t))
termination_by n
decreasing_by
  have := one_le_threshold position bias
  exact Nat.lt_of_le_of_lt (Nat.div_le_self ..) (by omega)

/-- Where writing stands: the difference since the last number, the bias, how many characters are
placed, and whether no number was written yet. -/
structure Progress where
  difference : Nat
  bias : Nat := firstBias
  placed : Nat
  isFirst : Bool := true

/-- All places of one character, from the front on. -/
def writePlaces (code : Nat) : Progress → List Char → Progress × List Char
  | p, [] => (p, [])
  | p, c :: r =>
    if c.toNat < code then writePlaces code { p with difference := p.difference + 1 } r
    else if c.toNat = code then
      let digits := writeNumber p.bias base p.difference
      let bias := adapt p.difference (p.placed + 1) p.isFirst
      let (q, rest) := writePlaces code ⟨0, bias, p.placed + 1, false⟩ r
      (q, digits ++ rest)
    else writePlaces code p r

/-- The characters of the given numbers, in ascending order, one after the other. -/
def writeCodes (name : List Char) : Nat → Progress → List Nat → List Char
  | _, _, [] => []
  | last, p, code :: rest =>
    let p := { p with difference := p.difference + (code - last) * (p.placed + 1) }
    let (q, digits) := writePlaces code p name
    digits ++ writeCodes name (code + 1) { q with difference := q.difference + 1 } rest

/-- A character of plain text. -/
def isPlain (c : Char) : Bool := c.toNat < firstCode

/-- The numbers of the characters beyond plain text, each once, in ascending order. -/
def codes (name : List Char) : List Nat :=
  ((name.filter fun c => !isPlain c).map Char.toNat).eraseDups.mergeSort fun a b => decide (a ≤ b)

/-- **A name in plain characters.** -/
def encode (name : List Char) : List Char :=
  let plain := name.filter isPlain
  (if plain.isEmpty then [] else plain ++ ['-']) ++
    writeCodes name firstCode { difference := 0, placed := plain.length } (codes name)

/-- A number at the front, and the rest. None when a digit is missing or is none. -/
def readNumber? (bias : Nat) : Nat → Nat → Nat → List Char → Option (Nat × List Char)
  | _, _, _, [] => none
  | position, weight, sum, c :: r =>
    match value? c with
    | none => none
    | some d =>
      let t := threshold position bias
      if d < t then some (sum + d * weight, r)
      else readNumber? bias (position + base) (weight * (base - t)) (sum + d * weight) r

/-- The characters that a row of numbers puts among those that are there. -/
def readPlaces? : Nat → Nat → Nat → Nat → Bool → List Nat → List Char → Option (List Nat)
  | _, _, _, _, _, name, [] => some name
  | 0, _, _, _, _, _, _ => none
  | fuel + 1, code, place, bias, isFirst, name, cs =>
    match readNumber? bias base 1 0 cs with
    | none => none
    | some (n, rest) =>
      let count := name.length + 1
      let next := code + (place + n) / count
      let spot := (place + n) % count
      if codeCount ≤ next then none
      else
        readPlaces? fuel next (spot + 1) (adapt n count isFirst) false
          (name.take spot ++ next :: name.drop spot) rest

/-- **The characters, by their numbers, that plain characters stand for.** -/
def decode? (written : List Char) : Option (List Nat) :=
  let tail := (written.reverse.takeWhile (· ≠ '-')).reverse
  let plain := (written.take (written.length - tail.length - 1)).map Char.toNat
  readPlaces? written.length firstCode 0 firstBias true plain tail

end Cutover.Punycode
