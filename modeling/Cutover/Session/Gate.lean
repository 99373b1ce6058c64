/-!
# Gates

A gate lets one task through at a time, in the order they came. A task that finds the gate closed
waits in a queue. When the gate opens the first of the queue is let in, and until it has gone through
nobody overtakes it.

* `Gate.enter?`: a task goes through at once;
* `Gate.queueUp`, `Gate.letIn`, `Gate.giveUp`: a task waits, goes through, or leaves the queue;
* `Gate.leave`: the gate opens, and tells which task it lets in.
-/

namespace Cutover

/-- How a task stands in the queue. -/
inductive Ticket where
  | waiting
  | granted
  | withdrawn
  deriving DecidableEq, Repr

/-- A gate: whether somebody is inside, and the queue of those who wait. -/
structure Gate where
  held : Bool := false
  queue : List (Nat × Ticket) := []
  deriving DecidableEq, Repr, Inhabited

namespace Gate

/-- Nobody is inside or about to go in. -/
def isFree (g : Gate) : Bool := !g.held && g.queue.all fun e => e.2 = .withdrawn

/-- A task goes through at once, if it can. -/
def enter? (g : Gate) : Option Gate := if g.isFree then some { g with held := true } else none

/-- A task waits at the end of the queue. -/
def queueUp (g : Gate) (task : Nat) : Gate := { g with queue := g.queue ++ [(task, .waiting)] }

/-- The first of the queue is let in, unless it already was or has withdrawn. -/
def callFirst (g : Gate) : Gate × Option Nat :=
  match g.queue with
  | (task, .waiting) :: rest => ({ g with queue := (task, .granted) :: rest }, some task)
  | _ => (g, none)

/-- Whoever is inside leaves. -/
def leave (g : Gate) : Gate × Option Nat := callFirst { g with held := false }

/-- A task that was let in goes through. -/
def letIn (g : Gate) (task : Nat) : Gate :=
  { held := true, queue := g.queue.filter fun e => e.1 ≠ task }

/-- A waiting task will not come. It keeps its place until it leaves. -/
def withdraw (g : Gate) (task : Nat) : Gate :=
  { g with queue := g.queue.map fun e => if e.1 = task then (task, .withdrawn) else e }

/-- A task leaves the queue; if nobody is inside, the next one is called. -/
def giveUp (g : Gate) (task : Nat) : Gate × Option Nat :=
  let g := { g with queue := g.queue.filter fun e => e.1 ≠ task }
  if g.held then (g, none) else g.callFirst

@[simp] theorem enter?_default : enter? {} = some { held := true } := rfl

end Gate

end Cutover
