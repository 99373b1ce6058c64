import Cutover.Fault
import Cutover.Text.Blank
import Cutover.Text.LowerCase

/-!
# Lenient readings

The service may write a number or a truth value as text, or a whole number with a point. Such values
are read leniently, as long as nothing is lost.

* `lenientWhole`: a whole number;
* `lenientFlag`: a truth value;
* `lenientText`: a text, and nothing else.
-/

namespace Cutover

/-! ## Whole numbers -/

/-- A whole number in plain digits, with perhaps a minus before them and single underscores between
them. -/
def wholeOfDigits (cs : List Char) : Except IssueKind Int :=
  let (negative, body) :=
    match cs with
    | '-' :: r => (true, r)
    | _ => (false, cs)
  match body, digitRun body with
  | c :: _, some (digits, []) =>
    if !isPlainDigit c then .error .wholeUnreadable
    else if digitLimit < digits.length then .error .wholeTooLarge
    else .ok (signed negative (digitsValue digits))
  | _, _ => .error .wholeUnreadable

/-- A digit that is not zero. -/
def isPositiveDigit (c : Char) : Bool := isPlainDigit c && c != '0'

/-- What follows zeros and underscores at the front: from a digit or a minus on, or from the zero
before a point on; of zeros alone, the last. -/
def afterZeros (last : Char) : List Char → Option (List Char)
  | [] => some [last]
  | c :: r =>
    if c = '0' ∨ c = '_' then afterZeros c r
    else if isPositiveDigit c ∨ c = '-' then some (c :: r)
    else if c = '.' then some (last :: c :: r)
    else none

/-- A number without needless zeros at the front. -/
def withoutLeadingZeros : List Char → Option (List Char)
  | [] => none
  | c :: r =>
    if c = '0' then afterZeros c r
    else if isPositiveDigit c ∨ c = '-' then some (c :: r)
    else none

/-- A number without a point that zeros follow, and nothing else. -/
def withoutZeroFraction (cs : List Char) : List Char :=
  let zeros := cs.reverse.takeWhile (· == '0')
  match cs.reverse.drop zeros.length with
  | '.' :: front => if zeros.isEmpty then cs else front.reverse
  | _ => cs

/-- A number without a plus and without needless zeros at either end. -/
def tidyWhole? (cs : List Char) : Option (List Char) := do
  let cs ← match cs with
    | '+' :: '-' :: _ => none
    | '+' :: r => some r
    | _ => some cs
  return withoutZeroFraction (← withoutLeadingZeros cs)

/-- A whole number from text, with blanks around it. -/
def wholeOfText (s : String) : Except IssueKind Int :=
  match tidyWhole? (trimEnds isSpace s.toList) with
  | some cs => wholeOfDigits cs
  | none => .error .wholeUnreadable

/-- A whole number from a floating-point number. -/
def wholeOfReal (x : Double) : Except IssueKind Int :=
  if !x.isFinite then .error .notFinite
  else
    match x.toInt? with
    | none => .error .wholeFromFraction
    | some n => if n.natAbs < Nat.pow 2 63 then .ok n else .error .wholeTooLarge

/-- A whole number, read leniently. -/
def lenientWhole : Value → Except IssueKind Int
  | .whole n => .ok n
  | .bool b => .ok (if b then 1 else 0)
  | .real x => wholeOfReal x
  | .text s => wholeOfText s
  | _ => .error .wholeExpected

@[simp] theorem lenientWhole_whole (n : Int) : lenientWhole (.whole n) = .ok n := rfl

/-! ## Truth values -/

/-- The words for false. -/
def falseWords : List String := ["0", "f", "n", "no", "off", "false"]

/-- The words for true. -/
def trueWords : List String := ["1", "t", "y", "on", "yes", "true"]

/-- A truth value from a word in any case. -/
def flagOfText (s : String) : Except IssueKind Bool :=
  let word := loweredPlain s
  if falseWords.contains word then .ok false
  else if trueWords.contains word then .ok true
  else .error .flagUnreadable

/-- A truth value from a whole number. -/
def flagOfWhole (n : Int) : Except IssueKind Bool :=
  if n = 0 then .ok false else if n = 1 then .ok true else .error .flagUnreadable

/-- A truth value, read leniently. -/
def lenientFlag : Value → Except IssueKind Bool
  | .bool b => .ok b
  | .text s => flagOfText s
  | .whole n => if -Nat.pow 2 63 ≤ n ∧ n < Nat.pow 2 63 then flagOfWhole n else .error .flagExpected
  | .real x =>
    match x.toInt? with
    | some n => if n.natAbs < Nat.pow 2 63 then flagOfWhole n else .error .flagExpected
    | none => .error .flagExpected
  | _ => .error .flagExpected

/-! ## Texts -/

/-- A text, and nothing else. -/
def lenientText : Value → Except IssueKind String
  | .text s => .ok s
  | _ => .error .textExpected

end Cutover
