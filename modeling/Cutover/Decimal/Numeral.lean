import Cutover.Decimal.Double
import Cutover.Text.Blank
import Cutover.Text.Digit

/-!
# Reading numbers

Whole numbers and decimals from text.

* `readWhole`: a whole number in any script, with blanks around it and single underscores between
  its digits, of at most 4300 digits;
* `decimalParts?`: sign, digits and exponent of a plain decimal;
* `readDouble?`: a floating-point number in the loose spelling of settings.
-/

namespace Cutover

/-- The greatest number of digits a whole number is read from. -/
def digitLimit : Nat := 4300

/-- Why a text is no whole number. -/
inductive WholeFault where
  /-- The text is not spelled as a whole number. -/
  | malformed
  /-- The number has more digits than are read. -/
  | tooLong (digits : Nat)
  deriving DecidableEq, Repr

/-- A character of a number in plain text: a plain one stays, a wide blank becomes a space, a digit
of any script its plain digit, and all else a question mark, which no number has. -/
def plainNumeral (c : Char) : Char :=
  if c.toNat < 127 then c
  else if isWideBlank c then ' '
  else
    match digitValue? c with
    | some d => Char.ofNat (48 + d)
    | none => '?'

/-- The digits at the front with single underscores between them taken out, and the rest. None when
an underscore stands doubled or last. -/
def digitRun : List Char → Option (List Char × List Char)
  | [] => some ([], [])
  | c :: r =>
    if isPlainDigit c then (digitRun r).map fun (ds, rest) => (c :: ds, rest)
    else if c = '_' then
      match r with
      | d :: _ => if isPlainDigit d then digitRun r else none
      | [] => none
    else some ([], c :: r)

/-- A leading sign taken off: whether it was a minus, and the rest. -/
def takeSign : List Char → Bool × List Char
  | '+' :: r => (false, r)
  | '-' :: r => (true, r)
  | cs => (false, cs)

/-- An integer from its sign and magnitude. -/
def signed (negative : Bool) (n : Nat) : Int := if negative then -(n : Int) else n

/-- A whole number from plain text. -/
def readPlainWhole (cs : List Char) : Except WholeFault Int :=
  let (negative, body) := takeSign (trimFront isPlainBlank cs)
  match body with
  | c :: _ =>
    if isPlainDigit c then
      match digitRun body with
      | none => .error .malformed
      | some (ds, rest) =>
        if digitLimit < ds.length then .error (.tooLong ds.length)
        else if rest.all isPlainBlank then .ok (signed negative (digitsValue ds))
        else .error .malformed
    else .error .malformed
  | [] => .error .malformed

/-- A whole number from a text of any script. -/
def readWhole (s : String) : Except WholeFault Int := readPlainWhole (s.toList.map plainNumeral)

/-- A decimal: its sign, its digits as a number, and the exponent of ten. -/
structure DecimalParts where
  negative : Bool
  digits : Nat
  exponent : Int
  deriving DecidableEq, Repr

/-- The number nearest to a decimal. -/
def DecimalParts.toDouble (d : DecimalParts) : Double := .ofDecimal d.negative d.digits d.exponent

/-- An exponent at the front: its value and the rest. -/
def readExponent? : List Char → Option (Int × List Char)
  | c :: r =>
    if c = 'e' ∨ c = 'E' then
      let (negative, r) := takeSign r
      let ds := r.takeWhile isPlainDigit
      if ds.isEmpty then none else some (signed negative (digitsValue ds), r.dropWhile isPlainDigit)
    else none
  | [] => none

/-- A decimal in the loose spelling: a point may lead or end the digits. -/
def decimalParts? (cs : List Char) : Option DecimalParts :=
  let (negative, body) := takeSign cs
  let whole := body.takeWhile isPlainDigit
  let rest := body.dropWhile isPlainDigit
  let (fraction, rest) :=
    match rest with
    | '.' :: r => (r.takeWhile isPlainDigit, r.dropWhile isPlainDigit)
    | _ => ([], rest)
  if whole.isEmpty ∧ fraction.isEmpty then none
  else
    let digits := digitsValue (whole ++ fraction)
    let shift : Int := fraction.length
    match rest with
    | [] => some ⟨negative, digits, -shift⟩
    | _ =>
      match readExponent? rest with
      | some (power, []) => some ⟨negative, digits, power - shift⟩
      | _ => none

/-- A floating-point number in the loose spelling: a decimal, or the word for an infinity or for no
number in any case. -/
def readDouble? (cs : List Char) : Option Double :=
  match decimalParts? cs with
  | some parts => some parts.toDouble
  | none =>
    let (negative, body) := takeSign cs
    let word := String.ofList (body.map Char.toLower)
    if word = "inf" ∨ word = "infinity" then some (.infinite negative)
    else if word = "nan" then some .nan
    else none

end Cutover
