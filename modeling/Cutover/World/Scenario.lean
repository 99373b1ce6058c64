import Cutover.Session.Action
import Cutover.World.Observation

/-!
# Scenarios

A scenario sets up a world and takes it through one step after the other. A step asks something of
the session in use, and is waited for or left running, or it lets time pass or changes what is around
the session.

* `Setup`: with what sessions are set up;
* `Step`: what a step does;
* `Scenario.take`: one step, with its `Report`.
-/

namespace Cutover

/-- With what sessions are set up. -/
structure Setup where
  isBare : Bool := false
  interval : Quantity := fiveSeconds
  board : Board := {}
  pageSize : Quantity := .whole usualPageSize
  kind : StoreKind := .memory
  script : Script := {}

namespace Setup

/-- The usual size of a page, if it is a positive number. -/
def checkPageSize (size : Value) : Except Fault Quantity := do
  let q ← Form.asQuantity size
  if q.isBelow 1 then Fault.refuse (.notPositive "page_size" q) else return q

/-- The setup, if intervals, notices and pages suit. Without resources there are no pages. -/
def make (isBare : Bool) (interval : Except Fault PollPolicy) (notices : Except Fault NoticePolicy)
    (pageSize : Value) (kind : StoreKind) (script : Script) : Except Fault Setup := do
  let poll ← interval
  let board ← Board.ofPolicy (← notices)
  let setup : Setup := { isBare, interval := poll.interval, board, kind, script }
  if isBare then return setup else return { setup with pageSize := ← checkPageSize pageSize }

/-- A new session. -/
def session (s : Setup) (store : Nat) : Session where
  store := store
  isBare := s.isBare
  hooks := if s.isBare then [.polling] else [.polling, .configuration]
  pageSize := s.pageSize
  interval := s.interval
  board := s.board

end Setup

namespace Scenario

/-- What a step does. -/
inductive Deed where
  /-- Something is asked of the session; some of it only of a session that is whole. -/
  | ask (action : Except Fault Action) (ofWhole : Bool)
  /-- What was left running is waited for. -/
  | join (name : String)
  /-- Time passes. -/
  | advance (duration : Int)
  /-- A reader of the run begins, through the session as a whole when it is left open whether the
  current state is wanted. -/
  | read (name : String) (includeCurrent : Option Bool)
  /-- A reader is cancelled. -/
  | stopReading (name : String)
  /-- A stop hook is added. -/
  | hook (name : String) (fails : Bool)
  /-- A stop hook is removed. -/
  | unhook (name : String)
  /-- A new session takes over. The old one is left alone. -/
  | restart
  /-- A new store is opened. -/
  | reopen
  /-- The service is given other replies. -/
  | script (routes : List (String × List ScriptLine))
  /-- Other failures and delays are put in the way of the store that was opened last. -/
  | faults (change : StoreFaults → StoreFaults)
  /-- There is no such step. -/
  | unknown (name : String)

/-- A step: what it does, and a name if it is to be left running. -/
structure Step where
  deed : Deed
  leave : Option String := none

/-- How a step came out. -/
inductive Upshot where
  | ended (result : Except Exit Result)
  | timedOut
  | leftRunning

namespace Upshot

/-- Nothing was asked for. -/
def nothing : Upshot := ended (.ok .nothing)

/-- The step failed. -/
def failed (f : Fault) : Upshot := ended (.error (.fault f))

/-- How waiting for a task came out. -/
def ofResult : Option (Except Exit Result) → Upshot
  | some result => ended result
  | none => timedOut

end Upshot

/-- What was left running: a task, or what came out at once. -/
inductive Left where
  | task (number : Nat)
  | done (upshot : Upshot)

/-- A step, as it shows from the outside. -/
structure Report where
  upshot : Upshot
  /-- How the session stood before; none at the first step. -/
  before : Option Observation
  after : Observation
  news : News

end Scenario

/-- A world and what its steps refer to. -/
structure Scenario where
  setup : Setup := {}
  world : World := {}
  /-- The session in use. -/
  current : Nat := 0
  /-- What was left running, by the name it was given. -/
  running : List (String × Scenario.Left) := []
  readers : List (String × Nat) := []
  /-- The stop hooks that were added, by the name they were given. -/
  hooks : List (String × Nat) := []
  nextHook : Nat := 0
  /-- The number of the last notice seen. -/
  lastNotice : Int := 0

namespace Scenario

/-- A scenario before its first step. -/
def start (setup : Setup) : Scenario where
  setup := setup
  world :=
    { sessions := [setup.session 0]
      storage := { kind := setup.kind }
      script := setup.script }

/-- The world is changed. -/
def onWorld (s : Scenario) (f : World → World) : Scenario := { s with world := f s.world }

/-- The session in use is changed. -/
def onSession (s : Scenario) (f : Session → Session) : Scenario :=
  s.onWorld fun w => w.onSession s.current f

/-- What is asked of a session, once it is known whether the session has a part for it. -/
def operation (action : Except Fault Action) (ofWhole : Bool) : Op Result := do
  if ofWhole && (← Op.session).isBare then Op.fail .missingPart
  (← Op.ofExcept action).op

/-- Something is asked of the session in use. -/
def ask (s : Scenario) (op : Op Result) : Nat × Scenario :=
  let (t, w) := s.world.spawn s.current (.ofOp op)
  (t, { s with world := w.rest })

/-- A task is waited for. -/
def await (s : Scenario) (t : Nat) : Scenario × Upshot :=
  let (w, result) := s.world.await t
  ({ s with world := w }, .ofResult result)

/-- Something is left under a name. -/
def leave (s : Scenario) (name : String) (l : Left) : Scenario × Upshot :=
  ({ s with running := put s.running name l }, .leftRunning)

/-- What was left under a name is waited for. -/
def join (s : Scenario) (name : String) : Except Fault (Scenario × Upshot) :=
  match s.running.lookup name with
  | some (.task t) => .ok (s.await t)
  | some (.done upshot) => .ok (s, upshot)
  | none => .error (.unknownName (.text name))

/-- Does something with what has a name. -/
def named (s : Scenario) (things : List (String × Nat)) (name : String)
    (f : Nat → Scenario) : Scenario × Upshot :=
  match things.lookup name with
  | some t => (f t, .nothing)
  | none => (s, .failed (.unknownName (.text name)))

/-- A reader of the run begins. One that goes through a session that is not whole fails at once. -/
def read (s : Scenario) (name : String) (includeCurrent : Option Bool) : Scenario :=
  if includeCurrent.isNone && (s.world.session s.current).isBare then
    let (t, w) := s.world.spawn s.current (.ofOp (Op.fail .missingPart))
    { s with world := w, readers := put s.readers name t }
  else
    let number := (s.world.session s.current).nextStream
    let s := s.onSession fun session => { session with nextStream := number + 1 }
    let (t, w) := s.world.fork s.current (.reader number name (includeCurrent.getD true))
    { s with world := w, readers := put s.readers name t }

/-- A stop hook is added. -/
def hook (s : Scenario) (name : String) (fails : Bool) : Scenario :=
  let s := s.onSession fun session =>
    { session with hooks := session.hooks ++ [.user s.nextHook name fails] }
  { s with hooks := put s.hooks name s.nextHook, nextHook := s.nextHook + 1 }

/-- The stop hook has a number. -/
def hasNumber (number : Nat) : StopHook → Bool
  | .user n _ _ => n = number
  | _ => false

/-- A stop hook is removed. -/
def unhook (s : Scenario) (number : Nat) : Scenario :=
  s.onSession fun session => { session with hooks := session.hooks.eraseP (hasNumber number) }

/-- A new session takes over, on the store that was opened last. -/
def restart (s : Scenario) : Scenario :=
  let session := s.setup.session s.world.storage.current
  { s with
    world := { s.world with sessions := s.world.sessions ++ [session] }
    current := s.world.sessions.length
    lastNotice := 0 }

/-- The storage is changed. -/
def onStorage (s : Scenario) (f : Storage → Storage) : Scenario :=
  s.onWorld fun w => { w with storage := f w.storage }

/-- A deed that takes no time. -/
def act (s : Scenario) : Deed → Scenario × Upshot
  | .read name includeCurrent => (s.read name includeCurrent, .nothing)
  | .stopReading name => s.named s.readers name fun t => s.onWorld fun w => w.cancel t
  | .hook name fails => (s.hook name fails, .nothing)
  | .unhook name => s.named s.hooks name s.unhook
  | .restart => (s.restart, .nothing)
  | .reopen => (s.onStorage Storage.reopen, .nothing)
  | .script routes => (s.onWorld fun w => { w with script := w.script.revise routes }, .nothing)
  | .faults change => (s.onStorage fun st => st.onFaults st.current change, .nothing)
  | .unknown name => (s, .failed (.unknownStep name))
  | .ask .. | .join _ | .advance _ => (s, .nothing)

/-- What a step does to the scenario, before everything comes to rest. -/
def perform (s : Scenario) (step : Step) : Except Fault (Scenario × Upshot) :=
  match step.deed with
  | .join name => s.join name
  | .advance d => .ok (s.onWorld fun w => w.advance d, .nothing)
  | .ask action ofWhole =>
    let (t, s) := s.ask (operation action ofWhole)
    match step.leave with
    | some name => .ok (s.leave name (.task t))
    | none => .ok (s.await t)
  | deed =>
    let (s, upshot) := s.act deed
    match step.leave with
    | some name => .ok (s.leave name (.done upshot))
    | none => .ok (s, upshot)

/-- **One step**, after which everything has come to rest. -/
def take (s : Scenario) (before : Option Observation) (step : Step) :
    Except Fault (Scenario × Report) := do
  let (s, upshot) ← s.perform step
  let s := s.onWorld World.rest
  let (news, w) := s.world.takeNews s.current s.lastNotice
  let lastNotice := news.notices.foldl (fun seen n => max seen n.id) s.lastNotice
  let after := w.observe s.current
  return ({ s with world := w, lastNotice }, { upshot, before, after, news })

/-- The steps of a scenario one after the other. -/
def takeAll (s : Scenario) (before : Option Observation) :
    List Step → Except Fault (List Report)
  | [] => .ok []
  | step :: rest => do
    let (s, report) ← s.take before step
    return report :: (← takeAll s (some report.after) rest)

/-- **The reports of all steps.** There are none if a step waits for what was never left. -/
def run (setup : Setup) (steps : List Step) : Except Fault (List Report) :=
  takeAll (start setup) none steps

end Scenario

end Cutover
