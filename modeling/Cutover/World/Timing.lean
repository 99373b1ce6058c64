import Cutover.World.Running

/-!
# The passing of time

Time passes only from one end of a wait to the next, and everything that can happen at an instant
happens before time passes on.

* `World.nextDue?`: the wait that ends first;
* `World.advance`: time passes by some microseconds;
* `World.await`: time passes until a task has ended, or for too long.
-/

namespace Cutover

namespace World

/-- More steps than any instant takes. -/
def patience : Nat := 1000000000

/-- Everything that can happen without time passing happens. -/
def rest (w : World) : World := w.settle patience

/-- The earlier of two waits, the first of two that end at the same time. -/
def earlier (a : Option (Int × Nat)) (b : Option (Int × Nat)) : Option (Int × Nat) :=
  match a, b with
  | some (due, t), some (due', t') => if due' < due then some (due', t') else some (due, t)
  | none, b => b
  | a, none => a

/-- The wait that ends first by itself: when, and which task waits. -/
def nextDue? (w : World) : Option (Int × Nat) :=
  (w.tasks.mapIdx fun t task => task.due?.map fun due => (due, t)).foldl earlier none

/-- Time passes up to an instant at which the wait of a task ends. -/
def pass (w : World) (due : Int) (t : Nat) : World :=
  rest (ring { w with now := max w.now due } t)

/-- The waits that end up to an instant end, one after the other. -/
def passUntil : Nat → Int → World → World
  | 0, _, w => w
  | steps + 1, limit, w =>
    match w.nextDue? with
    | some (due, t) => if due ≤ limit then passUntil steps limit (w.pass due t) else w
    | none => w

/-- **Time passes by some microseconds.** -/
def advance (w : World) (d : Int) : World :=
  let limit := w.now + d
  let w := passUntil patience limit w
  { w with now := max w.now limit }

/-- How long a task is waited for: an hour. -/
def longest : Int := 3600 * 1000000

/-- Time passes until a task has ended or an instant is reached. -/
def passUntilEnd (t : Nat) (limit : Int) : Nat → World → World
  | 0, w => w
  | steps + 1, w =>
    if w.hasEnded t then w
    else
      match w.nextDue? with
      | some (due, other) =>
        if due ≤ limit then passUntilEnd t limit steps (w.pass due other) else w
      | none => w

/-- How a task has ended, if it has. -/
def resultOf (w : World) (t : Nat) : Option (Except Exit Result) :=
  match (w.tasks[t]?).map Task.stage with
  | some (.ended result) => some result
  | _ => none

/-- **Time passes until a task has ended**, or for too long; then it is cancelled and gives nothing. -/
def await (w : World) (t : Nat) : World × Option (Except Exit Result) :=
  let w := passUntilEnd t (w.now + longest) patience w
  match w.resultOf t with
  | some result => (w, some result)
  | none => ((w.cancel t).rest, none)

end World

end Cutover
