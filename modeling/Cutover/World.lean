import Cutover.Service.Script
import Cutover.Session.Action
import Cutover.Session.Background

/-!
# Worlds

A world holds sessions, the tasks that work for them, and what is around them: the storage, the
service and the clock. A task works until it has to wait. Once its wait is over it stands in a queue
until it is its turn again.

* `Task`: a task and how far it has come;
* `World`: sessions, tasks and their surroundings;
* `World.site`, `World.setSite`: a session together with what it shares with others.
-/

namespace Cutover

/-- What a stretch of work comes to: the result of the task, or another round of it. -/
inductive Outturn where
  | result (r : Result)
  | again

/-- A stretch of the work of a task. -/
abbrev Job := Work (Except Exit Outturn)

/-- An operation as the work of a task. -/
def Job.ofOp (op : Op Result) : Job := (Outturn.result <$> op).run

/-- A round as the work of a task. -/
def Job.ofRound (op : Op Bool) : Job :=
  ((fun another => if another then Outturn.again else .result .nothing) <$> op).run

/-- When a wait ends by itself, and with which reply. -/
structure Alarm (α : Type) where
  due : Int
  reply : α

/-- How far a task has come. -/
inductive Stage where
  /-- It has not begun, or begins a new round. -/
  | fresh (job : Job)
  /-- It waits. -/
  | waiting (effect : Effect) (next : effect.Reply → Job) (alarm : Option (Alarm effect.Reply))
  /-- Its wait is over, and it has yet to go on. -/
  | woken (effect : Effect) (next : effect.Reply → Job) (reply : effect.Reply)
  | ended (result : Except Exit Result)

/-- A task. -/
structure Task where
  /-- The session it works for. -/
  session : Nat
  /-- What it does round after round. -/
  loop : Option Background := none
  stage : Stage
  /-- The tasks that wait for its end, in the order they came. -/
  watchers : List Nat := []

/-- A place in the queue of tasks that can go on. -/
structure Place where
  task : Nat
  /-- How often the task is sent to the end of the queue before it goes on. -/
  laps : Nat := 0
  deriving DecidableEq, Repr

/-- Sessions, tasks and their surroundings. -/
structure World where
  /-- Microseconds since the start. -/
  now : Int := 0
  sessions : List Session := []
  storage : Storage := {}
  trace : Trace := {}
  hookCalls : List HookCall := []
  events : List StreamEvent := []
  script : Script := {}
  /-- What was sent to the service, in order. -/
  sent : List Message := []
  tasks : List Task := []
  /-- The tasks that can go on. -/
  ready : List Place := []
  /-- The tasks that wait for the storage. -/
  storageQueue : List Nat := []

/-! ## The gates of a session -/

namespace Session

/-- A gate. -/
def gate (s : Session) : GateName → Gate
  | .state => s.stateGate
  | .fetch => s.fetchGate

/-- A gate is changed. -/
def setGate (s : Session) (g : Gate) : GateName → Session
  | .state => { s with stateGate := g }
  | .fetch => { s with fetchGate := g }

end Session

namespace Task

/-- The task has ended. -/
def hasEnded (t : Task) : Bool :=
  match t.stage with
  | .ended _ => true
  | _ => false

/-- When the wait of the task ends by itself. -/
def due? (t : Task) : Option Int :=
  match t.stage with
  | .waiting _ _ alarm => alarm.map Alarm.due
  | _ => none

end Task

namespace World

/-! ## Sessions and tasks -/

/-- A session. -/
def session (w : World) (n : Nat) : Session := w.sessions.getD n {}

/-- A session is changed. -/
def onSession (w : World) (n : Nat) (f : Session → Session) : World :=
  { w with sessions := w.sessions.set n (f (w.session n)) }

/-- A session together with what it shares with others. -/
def site (w : World) (n : Nat) : Site where
  session := w.session n
  storage := w.storage
  trace := w.trace
  hookCalls := w.hookCalls
  events := w.events
  now := w.now

/-- A session and what it shares with others are replaced. Time stays as it is. -/
def setSite (w : World) (n : Nat) (s : Site) : World :=
  { w with
    sessions := w.sessions.set n s.session
    storage := s.storage
    trace := s.trace
    hookCalls := s.hookCalls
    events := s.events }

/-- The session a task works for. -/
def sessionOf (w : World) (t : Nat) : Nat :=
  match w.tasks[t]? with
  | some task => task.session
  | none => 0

/-- A task is changed. -/
def onTask (w : World) (t : Nat) (f : Task → Task) : World :=
  { w with tasks := w.tasks.modify t f }

/-- A task comes to a stage. -/
def setStage (w : World) (t : Nat) (s : Stage) : World := w.onTask t fun task => { task with stage := s }

/-- The task has ended; so has one that there is not. -/
def hasEnded (w : World) (t : Nat) : Bool :=
  match w.tasks[t]? with
  | some task => task.hasEnded
  | none => true

/-- A task stands at the end of the queue. -/
def enqueue (w : World) (t : Nat) (laps : Nat := 0) : World :=
  { w with ready := w.ready ++ [⟨t, laps⟩] }

/-- A new task; it begins when it is its turn. -/
def spawn (w : World) (session : Nat) (job : Job) (loop : Option Background := none) : Nat × World :=
  let task : Task := { session, loop, stage := .fresh job }
  let t := w.tasks.length
  (t, enqueue { w with tasks := w.tasks ++ [task] } t)

/-- A new task that works in the background. -/
def fork (w : World) (session : Nat) (b : Background) : Nat × World :=
  w.spawn session (.ofRound b.begin) (some b)

/-! ## Waking tasks -/

/-- The wait of a task ends by itself. -/
def ring (w : World) (t : Nat) : World :=
  match (w.tasks[t]?).map Task.stage with
  | some (.waiting e next (some alarm)) =>
    let laps := match e with
      | .watchLatch _ => 3
      | _ => 0
    (w.setStage t (.woken e next alarm.reply)).enqueue t laps
  | _ => w

/-- A task is let through a gate. -/
def wakeAtGate (w : World) (t : Nat) : World :=
  match (w.tasks[t]?).map Task.stage with
  | some (.waiting (.acquire g) next _) =>
    (w.setStage t (.woken (.acquire g) next (.back ()))).enqueue t
  | _ => w

/-- It is the turn of a task at the storage. -/
def wakeAtStorage (w : World) (t : Nat) : World :=
  match (w.tasks[t]?).map Task.stage with
  | some (.waiting .storageTurn next _) =>
    (w.setStage t (.woken .storageTurn next (.back ()))).enqueue t
  | _ => w

/-- A task is told that another has ended. -/
def wakeWatcher (result : Except Exit Unit) (w : World) (t : Nat) : World :=
  match (w.tasks[t]?).map Task.stage with
  | some (.waiting (.join other) next _) =>
    (w.setStage t (.woken (.join other) next (.back result))).enqueue t
  | _ => w

/-- A task that watches the latch of a session is told that it was raised. -/
def wakeAtLatch (session : Nat) (w : World) (t : Nat) : World :=
  match w.tasks[t]? with
  | some { session := n, stage := .waiting (.watchLatch d) next _, .. } =>
    if n = session then (w.setStage t (.woken (.watchLatch d) next (.back true))).enqueue t 2 else w
  | _ => w

/-- A reader is handed an item if it waits for one; tells whether it did. -/
def hand (w : World) (session stream : Nat) (item : Option RunState) (t : Nat) : Option World :=
  match w.tasks[t]? with
  | some { session := n, stage := .waiting (.receive m) next _, .. } =>
    if n = session && m = stream then
      some ((w.setStage t (.woken (.receive m) next (.back item))).enqueue t)
    else none
  | _ => none

/-- Somebody who waits at a gate is let through, if there is somebody. -/
def callAtGate (w : World) (n : Nat) (name : GateName) (r : Gate × Option Nat) : World :=
  let w := w.onSession n fun s => s.setGate r.1 name
  match r.2 with
  | some t => w.wakeAtGate t
  | none => w

end World

end Cutover
