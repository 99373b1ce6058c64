/-!
# Binary floating-point numbers, held exactly

A `Double` is a number of the 64-bit binary format, held as a sign, a whole mantissa and a power of
two, so that comparing, rounding and printing it is whole-number arithmetic.

* `roundHalfEven`: the quotient of two naturals, rounded to the nearest, an exact half to the even one;
* `Double.ofRatio`: the number nearest to a quotient, a tie going to the even mantissa;
* `Double.ofDecimal`: the number nearest to a decimal;
* `Double.toRatio?`: a finite number as an exact quotient;
* `Double.toInt?`: the whole number a `Double` is, if it is one;
* `Double.times`: the product with a natural, rounded once.
-/

namespace Cutover

/-! ## Rounding a quotient -/

/-- The quotient `num / den` rounded to the nearest natural, a half going to the even one. -/
def roundHalfEven (num den : Nat) : Nat :=
  let quotient := num / den
  let rest := 2 * (num % den)
  if rest < den then quotient
  else if den < rest then quotient + 1
  else if quotient % 2 = 0 then quotient
  else quotient + 1

@[simp] theorem roundHalfEven_one (n : Nat) : roundHalfEven n 1 = n := by
  simp [roundHalfEven, Nat.mod_one]

theorem div_le_roundHalfEven (num den : Nat) : num / den ≤ roundHalfEven num den := by
  unfold roundHalfEven
  dsimp only
  split
  · exact Nat.le_refl _
  · split
    · exact Nat.le_succ _
    · split
      · exact Nat.le_refl _
      · exact Nat.le_succ _

/-! ## Numbers -/

/-- A number of the 64-bit binary format: `± mantissa * 2 ^ exponent`, an infinity, or no number. -/
inductive Double where
  | finite (negative : Bool) (mantissa : Nat) (exponent : Int)
  | infinite (negative : Bool)
  | nan
  deriving DecidableEq, Repr, Inhabited

namespace Double

/-- The least exponent of the format. -/
def leastExponent : Int := -1074

/-- The greatest exponent a full mantissa may have. -/
def greatestExponent : Int := 971

/-- Zero, with its sign. -/
def zero (negative : Bool) : Double := .finite negative 0 leastExponent

/-- `num / den` counted in units of `2 ^ exponent`, rounded to the nearest, a tie to even. -/
def inUnits (num den : Nat) (exponent : Int) : Nat :=
  roundHalfEven (num * Nat.pow 2 (-exponent).toNat) (den * Nat.pow 2 exponent.toNat)

/-- `num / den` counted in units of `2 ^ exponent` reaches a full mantissa of 53 bits. -/
def fills (num den : Nat) (exponent : Int) : Bool :=
  Nat.pow 2 52 * (den * Nat.pow 2 exponent.toNat) ≤ num * Nat.pow 2 (-exponent).toNat

/-- The number nearest to `± num / den`; past the greatest one, an infinity. -/
def ofRatio (negative : Bool) (num den : Nat) : Double :=
  if num = 0 then zero negative else
    let guess : Int := (num.log2 : Int) - (den.log2 : Int) - 52
    let exponent := max leastExponent (if fills num den guess then guess else guess - 1)
    let mantissa := inUnits num den exponent
    let (mantissa, exponent) :=
      if mantissa = Nat.pow 2 53 then (Nat.pow 2 52, exponent + 1) else (mantissa, exponent)
    if greatestExponent < exponent then .infinite negative
    else .finite negative mantissa exponent

/-- The number nearest to `± digits * 10 ^ exponent`. Scales that surely overflow or vanish are
settled before any power is taken. -/
def ofDecimal (negative : Bool) (digits : Nat) (exponent : Int) : Double :=
  if digits = 0 then zero negative
  else if 400 < exponent then .infinite negative
  else if exponent < -(400 + (digits.log2 : Int)) then zero negative
  else ofRatio negative (digits * Nat.pow 10 exponent.toNat) (Nat.pow 10 (-exponent).toNat)

/-- The number nearest to a whole number. -/
def ofInt (n : Int) : Double := ofRatio (n < 0) n.natAbs 1

/-- The magnitude of a finite number as a quotient of naturals. -/
def ratio (mantissa : Nat) (exponent : Int) : Nat × Nat :=
  (mantissa * Nat.pow 2 exponent.toNat, Nat.pow 2 (-exponent).toNat)

/-- A finite number as an exact quotient. -/
def toRatio? : Double → Option (Int × Nat)
  | .finite negative mantissa exponent =>
    let (num, den) := ratio mantissa exponent
    some (if negative then -(num : Int) else num, den)
  | _ => none

/-- The whole number that a `Double` is exactly, if it is one. -/
def toInt? : Double → Option Int
  | .finite negative mantissa exponent =>
    let (num, den) := ratio mantissa exponent
    if num % den = 0 then
      some (if negative then -((num / den : Nat) : Int) else ((num / den : Nat) : Int))
    else none
  | _ => none

/-- The whole number of a finite number without its fraction. -/
def truncate? (x : Double) : Option Int := x.toRatio?.map fun (num, den) => num.tdiv den

/-- The least whole number that is not below a finite number. -/
def ceiling? (x : Double) : Option Int := x.toRatio?.map fun (num, den) => -((-num) / (den : Int))

/-- The quotient of two numbers, the second of which is not zero, rounded once. -/
def dividedBy : Double → Double → Double
  | .nan, _ => .nan
  | _, .nan => .nan
  | .infinite _, .infinite _ => .nan
  | .infinite s, .finite t _ _ => .infinite (s != t)
  | .finite s _ _, .infinite t => zero (s != t)
  | .finite s m e, .finite t m' e' =>
    let (num, den) := ratio m e
    let (num', den') := ratio m' e'
    ofRatio (s != t) (num * den') (den * num')

/-- The product with a natural, rounded once. -/
def times : Double → Nat → Double
  | .finite negative mantissa exponent, n =>
    let (num, den) := ratio mantissa exponent
    ofRatio negative (num * n) den
  | x, _ => x

/-- The number is finite. -/
def isFinite : Double → Bool
  | .finite .. => true
  | _ => false

end Double

end Cutover
