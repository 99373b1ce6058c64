import Cutover.Decimal.Double

/-!
# The shortest decimal of a floating-point number

The text of a `Double` has the fewest digits that still read back as that number, and of the
decimals with so few digits the one nearest to it.

* `Double.scale`: the power of ten just above a number;
* `Double.readsBack`: a decimal lies among the reals that round to the number;
* `Double.shortest`: the digits and their exponent;
* `Double.text`: positional from `0.0001` up to sixteen places before the point, scientific beyond.
-/

namespace Cutover.Double

/-- Order of `a * 10 ^ i` and `n * 2 ^ j`. -/
def compareScaled (a : Nat) (i : Int) (n : Nat) (j : Int) : Ordering :=
  compare (a * Nat.pow 10 i.toNat * Nat.pow 2 (-j).toNat)
    (n * Nat.pow 2 j.toNat * Nat.pow 10 (-i).toNat)

/-- The decimal `digits * 10 ^ place` rounds to `mantissa * 2 ^ exponent`: it lies between the
midpoints to both neighbours, which count when the mantissa is even. -/
def readsBack (mantissa : Nat) (exponent : Int) (digits : Nat) (place : Int) : Bool :=
  let narrow := mantissa = Nat.pow 2 52 ∧ leastExponent < exponent
  let low := if narrow then 4 * mantissa - 1 else 4 * mantissa - 2
  let high := 4 * mantissa + 2
  let ends := mantissa % 2 = 0
  let below := compareScaled digits place low (exponent - 2)
  let above := compareScaled digits place high (exponent - 2)
  (below = .gt || (ends && below = .eq)) && (above = .lt || (ends && above = .eq))

/-- The least `k` with `mantissa * 2 ^ exponent < 10 ^ k`: the binary logarithm gives a guess, exact
comparison mends it. -/
def scale (mantissa : Nat) (exponent : Int) : Int :=
  let guess := ((mantissa.log2 : Int) + exponent) * 30103 / 100000
  if compareScaled 1 (guess - 1) mantissa exponent = .gt then guess - 1
  else if compareScaled 1 guess mantissa exponent = .gt then guess
  else if compareScaled 1 (guess + 1) mantissa exponent = .gt then guess + 1
  else guess + 2

/-- `mantissa * 2 ^ exponent` counted in units of `10 ^ place`, rounded down. -/
def unitsBelow (mantissa : Nat) (exponent place : Int) : Nat :=
  (mantissa * Nat.pow 2 exponent.toNat * Nat.pow 10 (-place).toNat) /
    (Nat.pow 2 (-exponent).toNat * Nat.pow 10 place.toNat)

/-- The decimal with `count` digits that reads back, if there is one: of the two neighbours of the
number on that grid the nearer, a tie going to the even one. -/
def withDigits (mantissa : Nat) (exponent top : Int) (count : Nat) : Option (Nat × Int) :=
  let place := top - count
  let low := unitsBelow mantissa exponent place
  let lowFits := readsBack mantissa exponent low place
  let highFits := readsBack mantissa exponent (low + 1) place
  if lowFits && highFits then
    match compareScaled (2 * low + 1) place mantissa (exponent + 1) with
    | .gt => some (low, place)
    | .lt => some (low + 1, place)
    | .eq => some (if low % 2 = 0 then low else low + 1, place)
  else if lowFits then some (low, place)
  else if highFits then some (low + 1, place)
  else none

/-- Trailing zeros of the digits moved into the exponent, at most `fuel` of them. -/
def strip : Nat → Nat × Int → Nat × Int
  | 0, d => d
  | fuel + 1, (digits, place) =>
    if digits % 10 = 0 && digits ≠ 0 then strip fuel (digits / 10, place + 1) else (digits, place)

/-- The shortest decimal that reads back as `mantissa * 2 ^ exponent`, for a positive number. Were
none found within seventeen digits, the exact value rounded down would stand in. -/
def shortest (mantissa : Nat) (exponent : Int) : Nat × Int :=
  let top := scale mantissa exponent
  let found := (List.range 17).findSome? fun n => withDigits mantissa exponent top (n + 1)
  strip 20 (found.getD (unitsBelow mantissa exponent (top - 17), top - 17))

/-- `n` zeros. -/
def zeros (n : Nat) : String := String.ofList (List.replicate n '0')

/-- Digits and their exponent laid out: positional while the leading digit stands for at least
`10 ^ -4` and less than `10 ^ 16`, scientific with a signed exponent of two digits or more otherwise. -/
def layout (digits : Nat) (place : Int) : String :=
  let text := digits.repr
  let count : Int := text.length
  let point := count + place
  if -4 < point ∧ point ≤ 16 then
    if point ≤ 0 then "0." ++ zeros (-point).toNat ++ text
    else if count ≤ point then text ++ zeros (point - count).toNat ++ ".0"
    else
      let chars := text.toList
      String.ofList (chars.take point.toNat) ++ "." ++ String.ofList (chars.drop point.toNat)
  else
    let power := point - 1
    let magnitude := power.natAbs.repr
    let padded := if magnitude.length < 2 then "0" ++ magnitude else magnitude
    let chars := text.toList
    let tail := chars.drop 1
    String.ofList (chars.take 1) ++ (if tail.isEmpty then "" else "." ++ String.ofList tail) ++ "e" ++
      (if power < 0 then "-" else "+") ++ padded

/-- The text of a number. -/
def text : Double → String
  | .nan => "nan"
  | .infinite negative => if negative then "-inf" else "inf"
  | .finite negative mantissa exponent =>
    let sign := if negative then "-" else ""
    if mantissa = 0 then sign ++ "0.0"
    else
      let (digits, place) := shortest mantissa exponent
      sign ++ layout digits place

end Cutover.Double
