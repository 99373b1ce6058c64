import Cutover.Decimal.Double

/-!
# Quantities

A quantity is a number as a caller may give one: a truth value, which counts as one or zero, a whole
number or a floating-point number. Quantities of different kinds are compared exactly.

* `Quantity.compare?`: the order of two quantities; what is no number has none;
* `Quantity.same`: two quantities are the same number;
* `Quantity.isBelow`, `Quantity.isAtMost`: order against a whole number.
-/

namespace Cutover

/-- A number as a caller may give one. -/
inductive Quantity where
  | flag (b : Bool)
  | whole (n : Int)
  | real (x : Double)
  deriving DecidableEq, Repr, Inhabited

namespace Quantity

/-- A finite quantity as an exact quotient. -/
def toRatio? : Quantity → Option (Int × Nat)
  | flag b => some (if b then 1 else 0, 1)
  | whole n => some (n, 1)
  | real x => x.toRatio?

/-- On which side of the finite numbers a quantity lies; `eq` stands for among them. -/
def side? : Quantity → Option Ordering
  | real .nan => none
  | real (.infinite negative) => some (if negative then .lt else .gt)
  | _ => some .eq

/-- **The order of two quantities**; what is no number has none. -/
def compare? (p q : Quantity) : Option Ordering :=
  match p.toRatio?, q.toRatio? with
  | some (a, b), some (c, d) => some (compare (a * d) (c * b))
  | _, _ =>
    match p.side?, q.side? with
    | some s, some t => some (if s = t then .eq else if s = .eq then t.swap else s)
    | _, _ => none

@[simp] theorem compare?_whole (m n : Int) : (whole m).compare? (whole n) = some (compare m n) := by
  simp [compare?, toRatio?]

/-- Two quantities are the same number. -/
def same (p q : Quantity) : Bool := p.compare? q == some .eq

/-- One quantity is less than another. -/
def isLess (p q : Quantity) : Bool := p.compare? q == some .lt

/-- The quantity is less than `n`. -/
def isBelow (q : Quantity) (n : Int) : Bool := q.isLess (whole n)

/-- The quantity is at most `n`. -/
def isAtMost (q : Quantity) (n : Int) : Bool :=
  q.compare? (whole n) matches some .lt | some .eq

@[simp] theorem isLess_whole (m n : Int) : (whole m).isLess (whole n) = decide (m < n) := by
  by_cases h : m < n <;> by_cases e : m = n <;>
    simp [isLess, compare, compareOfLessAndEq, h, e]

@[simp] theorem isBelow_whole (m n : Int) : (whole m).isBelow n = decide (m < n) := by simp [isBelow]

end Quantity

end Cutover
