import Cutover.World

/-!
# Running tasks

A task runs until it has to wait: its effects are carried out one after the other. The tasks that can
go on do so in the order in which their waits ended.

* `World.perform`: an effect is carried out, or begins a wait;
* `World.cancel`: a task is cancelled;
* `World.run`: a task works until it waits or ends;
* `World.next?`: what happens next without time passing;
* `World.settle`: everything that can happen without time passing has happened.
-/

namespace Cutover

/-- What comes of an effect: a reply at once, or a wait. -/
inductive Uptake (α : Type) where
  | reply (a : α)
  | wait (alarm : Option (Alarm α))

/-- The reply to an effect whose wait is broken off; none for an effect that is no wait. -/
def Effect.brokenOff : (e : Effect) → Option e.Reply
  | .acquire _ => some .cancelled
  | .sleep _ => some .cancelled
  | .storageTurn => some .cancelled
  | .send _ => some .cancelled
  | .join _ => some .cancelled
  | .watchLatch _ => some .cancelled
  | .receive _ => some .cancelled
  | _ => none

/-- The reply to an effect once its task is cancelled. A latch that was raised stays raised. -/
def Effect.afterCancel : (e : Effect) → e.Reply → e.Reply
  | .watchLatch _, .back true => .back true
  | e, r => e.brokenOff.getD r

/-- What the watchers of a task are told. -/
def outcomeOf : Except Exit Result → Except Exit Unit
  | .ok _ => .ok ()
  | .error e => .error e

namespace World

/-! ## Cancelling -/

/-- A task leaves the queue it waits in. -/
def withdraw (w : World) (t : Nat) : Effect → World
  | .acquire g =>
    let n := w.sessionOf t
    w.onSession n fun s => s.setGate ((s.gate g).withdraw t) g
  | .storageTurn => { w with storageQueue := w.storageQueue.filter (· ≠ t) }
  | _ => w

/-- **A task is cancelled.** One that waits for another cancels the other instead, which may be as
deep as there are tasks. -/
def cancelWithin : Nat → World → Nat → World
  | 0, w, _ => w
  | depth + 1, w, t =>
    match (w.tasks[t]?).map Task.stage with
    | some (.fresh _) => w.setStage t (.fresh (.done (.error .cancelled)))
    | some (.woken e next reply) => w.setStage t (.woken e next (e.afterCancel reply))
    | some (.waiting (.join other) _ _) => cancelWithin depth w other
    | some (.waiting e next _) =>
      match e.brokenOff with
      | some reply => ((w.withdraw t e).setStage t (.woken e next reply)).enqueue t
      | none => w
    | _ => w

/-- A task is cancelled. -/
def cancel (w : World) (t : Nat) : World := cancelWithin (w.tasks.length + 1) w t

/-! ## Effects -/

/-- All tasks, by number. -/
def taskNumbers (w : World) : List Nat := List.range w.tasks.length

/-- The latch of a session is raised, and whoever watches it is told. -/
def raiseLatch (w : World) (n : Nat) : World :=
  let w := w.onSession n fun s => { s with latch := { s.latch with raised := true } }
  w.taskNumbers.foldl (wakeAtLatch n) w

/-- An item is put into the mailbox of a reader. -/
def deliver (w : World) (n : Nat) (item : Option RunState) (stream : Nat) : World :=
  w.onSession n fun s =>
    { s with
      streams := s.streams.map fun r =>
        if r.number = stream then { r with mailbox := r.mailbox ++ [item] } else r }

/-- An item is given to a reader: handed over if it waits for one, put into its mailbox if not. -/
def offer (n : Nat) (item : Option RunState) (w : World) (stream : Nat) : World :=
  (w.taskNumbers.findSome? (w.hand n stream item)).getD (w.deliver n item stream)

/-- An item is given to all readers of a session. -/
def publish (w : World) (n : Nat) (item : Option RunState) : World :=
  ((w.session n).streams.map Stream.number).foldl (offer n item) w

/-- The first item is taken out of the mailbox of a reader. -/
def take? (w : World) (n stream : Nat) : Option (Option RunState × World) :=
  match (w.session n).streams.find? fun r => r.number = stream with
  | some { mailbox := item :: rest, .. } =>
    some (item, w.onSession n fun s =>
      { s with
        streams := s.streams.map fun r =>
          if r.number = stream then { r with mailbox := rest } else r })
  | _ => none

/-- A message is sent, and a reply comes at once or after a while. -/
def send (w : World) (m : Message) : World × Uptake (Waited Outcome) :=
  let (line, script) := w.script.next m
  let w := { w with script, sent := w.sent ++ [m] }
  if line.delay ≤ 0 then (w, .reply (.back line.outcome))
  else (w, .wait (some ⟨w.now + line.delay, .back line.outcome⟩))

/-- A task goes through a gate, or waits in its queue. -/
def acquire (w : World) (t : Nat) (name : GateName) : World × Uptake (Waited Unit) :=
  let n := w.sessionOf t
  match ((w.session n).gate name).enter? with
  | some g => (w.onSession n fun s => s.setGate g name, .reply (.back ()))
  | none => (w.onSession n fun s => s.setGate ((s.gate name).queueUp t) name, .wait none)

/-- A task waits for its turn at the storage, unless the storage is in memory. -/
def awaitStorage (w : World) (t : Nat) : World × Uptake (Waited Unit) :=
  match w.storage.kind with
  | .memory => (w, .reply (.back ()))
  | .rows => ({ w with storageQueue := w.storageQueue ++ [t] }, .wait none)

/-- A task waits for the end of another. -/
def join (w : World) (t other : Nat) : World × Uptake (Waited (Except Exit Unit)) :=
  match (w.tasks[other]?).map Task.stage with
  | some (.ended result) => (w, .reply (.back (outcomeOf result)))
  | some _ => (w.onTask other fun task => { task with watchers := task.watchers ++ [t] }, .wait none)
  | none => (w, .reply (.back (.ok ())))

/-- A task watches the latch of its session. -/
def watchLatch (w : World) (n : Nat) (timeout : Option Int) : World × Uptake (Waited Bool) :=
  if (w.session n).latch.raised then (w, .reply (.back true))
  else (w, .wait (timeout.map fun d => ⟨w.now + d, .back false⟩))

/-- **An effect of a task is carried out**, or begins a wait. -/
def perform (w : World) (t : Nat) : (e : Effect) → World × Uptake e.Reply
  | .look => (w, .reply (w.site (w.sessionOf t)))
  | .change s => (w.setSite (w.sessionOf t) s, .reply ())
  | .acquire g => w.acquire t g
  | .release g =>
    let n := w.sessionOf t
    (w.callAtGate n g ((w.session n).gate g).leave, .reply ())
  | .sleep d => (w, .wait (some ⟨w.now + d, .back ()⟩))
  | .storageTurn => w.awaitStorage t
  | .send m => w.send m
  | .join other => w.join t other
  | .hasEnded other => (w, .reply (w.hasEnded other))
  | .fork b =>
    let (number, w) := w.fork (w.sessionOf t) b
    (w, .reply number)
  | .cancel other => (w.cancel other, .reply ())
  | .watchLatch d => w.watchLatch (w.sessionOf t) d
  | .raiseLatch => (w.raiseLatch (w.sessionOf t), .reply ())
  | .publish item => (w.publish (w.sessionOf t) item, .reply ())
  | .receive stream =>
    match w.take? (w.sessionOf t) stream with
    | some (item, w) => (w, .reply (.back item))
    | none => (w, .wait none)

/-! ## Running -/

/-- A task has ended, and whoever waits for that is told. -/
def finish (w : World) (t : Nat) (result : Except Exit Result) : World :=
  let watchers := ((w.tasks[t]?).map Task.watchers).getD []
  watchers.foldl (wakeWatcher (outcomeOf result)) (w.setStage t (.ended result))

/-- A stretch of work is done. Another round begins before anybody else goes on. -/
def conclude (w : World) (t : Nat) : Except Exit Outturn → World
  | .error e => w.finish t (.error e)
  | .ok (.result r) => w.finish t (.ok r)
  | .ok .again =>
    match (w.tasks[t]?).bind Task.loop with
    | some b =>
      let w := w.setStage t (.fresh (.ofRound b.round))
      { w with ready := ⟨t, 0⟩ :: w.ready }
    | none => w.finish t (.ok .nothing)

/-- **A task works** until it waits or ends. -/
def run (t : Nat) : Job → World → World
  | .done result, w => w.conclude t result
  | .ask e next, w =>
    match w.perform t e with
    | (w, .reply r) => run t (next r) w
    | (w, .wait alarm) => w.setStage t (.waiting e next alarm)

/-- What a task does on going on, before it works: it goes through the gate it was let into, or leaves
the queue of the gate it no longer waits for. -/
def settleAtGate (w : World) (t : Nat) : (e : Effect) → e.Reply → World
  | .acquire g, .back () => w.onSession (w.sessionOf t) fun s => s.setGate ((s.gate g).letIn t) g
  | .acquire g, .cancelled =>
    let n := w.sessionOf t
    w.callAtGate n g (((w.session n).gate g).giveUp t)
  | _, _ => w

/-- A task goes on. -/
def resume (w : World) (t : Nat) : World :=
  match (w.tasks[t]?).map Task.stage with
  | some (.fresh job) => run t job w
  | some (.woken e next reply) => run t (next reply) (w.settleAtGate t e reply)
  | _ => w

/-- **What happens next without time passing**: the first task of the queue goes on, or, if there is
none, the storage serves the first that waits for it. -/
def next? (w : World) : Option World :=
  match w.ready, w.storageQueue with
  | ⟨t, 0⟩ :: rest, _ => some (resume { w with ready := rest } t)
  | ⟨t, laps + 1⟩ :: rest, _ => some { w with ready := rest ++ [⟨t, laps⟩] }
  | [], t :: rest => some (wakeAtStorage { w with storageQueue := rest } t)
  | [], [] => none

/-- Everything that can happen without time passing happens, in at most so many steps. -/
def settle : Nat → World → World
  | 0, w => w
  | steps + 1, w =>
    match w.next? with
    | some w => settle steps w
    | none => w

end World

end Cutover
