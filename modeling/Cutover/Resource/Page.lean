import Cutover.Form
import Cutover.Resource

/-!
# Pages of resources

* `Page.pages`: how many pages there are. The quotient is a floating-point number, so very large
  totals are rounded;
* `Page.hasNext`: another page follows;
* `pageOf`: one page of a list.
-/

namespace Cutover

namespace Quantity

/-- The whole number that a quantity is by its kind: floating-point numbers are none. -/
def toInt? : Quantity → Option Int
  | flag b => some (if b then 1 else 0)
  | whole n => some n
  | real _ => none

/-- The floating-point number nearest to a quantity, if there is one. -/
def toDouble : Quantity → Except Fault Double
  | flag b => .ok (.ofInt (if b then 1 else 0))
  | real x => .ok x
  | whole n =>
    match Double.ofInt n with
    | .infinite _ => .error .outOfRange
    | x => .ok x

/-- The quotient of two whole numbers, rounded once. -/
def wholeQuotient (m n : Int) : Except Fault Double :=
  if n = 0 then .error (.divisionByZero true)
  else
    match Double.ofRatio ((m < 0) != (n < 0)) m.natAbs n.natAbs with
    | .infinite _ => .error .outOfRange
    | x => .ok x

/-- The quotient of two floating-point numbers. -/
def realQuotient (x y : Double) : Except Fault Double :=
  if (real y).same (whole 0) then .error (.divisionByZero false) else .ok (x.dividedBy y)

/-- The quotient of two quantities, as a floating-point number. -/
def dividedBy (p q : Quantity) : Except Fault Double :=
  match p.toInt?, q.toInt? with
  | some m, some n => wholeQuotient m n
  | _, _ => do realQuotient (← p.toDouble) (← q.toDouble)

end Quantity

/-- The least whole number that is not below a floating-point number. -/
def Double.ceiling (x : Double) : Except Fault Int :=
  match x.ceiling?, x with
  | some n, _ => .ok n
  | none, .nan => Fault.refuse .notANumber
  | none, _ => .error .outOfRange

/-- One page of a list of resources. -/
structure Page where
  items : List Resource
  number : Value
  size : Value
  total : Value
  deriving DecidableEq, Repr

namespace Page

/-- The number of pages. -/
def pages (p : Page) : Except Fault Int := do
  if p.total.isTruthy then
    (← (← Form.asQuantity p.total).dividedBy (← Form.asQuantity p.size)).ceiling
  else return 0

/-- Another page follows. -/
def hasNext (p : Page) : Except Fault Bool := do
  let pages ← p.pages
  return (← Form.asQuantity p.number).isBelow pages

end Page

/-- The items of a page: none if it lies past the end. -/
def itemsOn {α : Type} (items : List α) (number size : Int) : List α :=
  let start := (number - 1) * size
  if (items.length : Int) ≤ start then []
  else (items.drop start.toNat).take (min size items.length).toNat

/-- A number by which items can be counted off. -/
def counting (q : Quantity) : Except Fault Int :=
  match q.toInt? with
  | some n => .ok n
  | none => .error .illTyped

/-- **One page of a list**; a page past the end is empty. A size that is missing or zero stands for
the usual one. -/
def pageOf (resources : List Resource) (usualSize : Quantity) (number size : Value) :
    Except Fault Page := do
  let size := if size.isTruthy then size else usualSize.toValue
  let n ← Form.asQuantity number
  if n.isBelow 1 then Fault.refuse (.belowOne "page number" n)
  let s ← Form.asQuantity size
  if s.isBelow 1 then Fault.refuse (.notPositive "page size" s)
  let items := itemsOn resources (← counting n) (← counting s)
  return { items, number, size, total := .whole resources.length }

end Cutover
