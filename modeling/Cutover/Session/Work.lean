import Cutover.Session

/-!
# Work

An operation of a session is a piece of work. It runs by itself until it has to wait, and only then
others run. What it does to the outside it asks for, one effect after the other, and goes on with the
reply. A wait may be broken off by a cancellation.

* `Effect`: what work asks for, each with the type of its `Effect.Reply`;
* `Work`: a piece of work: done, or asking and going on with any reply;
* `Op`: work that may end early, by a fault or a cancellation;
* `ensure`: something is done at the end, however the work ends;
* `guarded`, `traced`: work behind a gate; work within a span.
-/

namespace Cutover

/-- How work ends early. -/
inductive Exit where
  | fault (f : Fault)
  | cancelled

/-- The gates of a session: one around the state of the run, one around fetching resources. -/
inductive GateName where
  | state
  | fetch
  deriving DecidableEq, Repr

/-- Work that goes on in the background, round after round. -/
inductive Background where
  | pollLoop
  | reader (stream : Nat) (id : String) (includeCurrent : Bool)
  deriving DecidableEq, Repr

/-- What a wait comes back with: a value, or a cancellation. -/
inductive Waited (α : Type) where
  | back (value : α)
  | cancelled

/-- What work asks for. -/
inductive Effect where
  /-- The site as it is. -/
  | look
  /-- The site is changed. -/
  | change (site : Site)
  /-- To go through a gate. -/
  | acquire (gate : GateName)
  /-- To open a gate. -/
  | release (gate : GateName)
  /-- To wait for some microseconds. -/
  | sleep (duration : Int)
  /-- To wait for the storage, where it takes its time. -/
  | storageTurn
  /-- To have a message answered. -/
  | send (message : Message)
  /-- To wait until a task has ended. -/
  | join (task : Nat)
  /-- Whether a task has ended. -/
  | hasEnded (task : Nat)
  /-- To start work in the background. -/
  | fork (work : Background)
  /-- To cancel a task. -/
  | cancel (task : Nat)
  /-- To wait for the latch to be raised, at most for some microseconds. -/
  | watchLatch (timeout : Option Int)
  /-- To raise the latch. -/
  | raiseLatch
  /-- To give all readers a snapshot, or the end. -/
  | publish (item : Option RunState)
  /-- To wait for the next item of a reader. -/
  | receive (stream : Nat)

namespace Effect

/-- The type of the reply to an effect. -/
def Reply : Effect → Type
  | look => Site
  | change _ => Unit
  | acquire _ => Waited Unit
  | release _ => Unit
  | sleep _ => Waited Unit
  | storageTurn => Waited Unit
  | send _ => Waited Outcome
  | join _ => Waited (Except Exit Unit)
  | hasEnded _ => Bool
  | fork _ => Nat
  | cancel _ => Unit
  | watchLatch _ => Waited Bool
  | raiseLatch => Unit
  | publish _ => Unit
  | receive _ => Waited (Option RunState)

end Effect

/-- A piece of work: done, or asking for an effect and going on with its reply. -/
inductive Work (α : Type) where
  | done (value : α)
  | ask (effect : Effect) (next : effect.Reply → Work α)

namespace Work

variable {α β γ : Type}

/-- One piece of work after another. -/
def bind : Work α → (α → Work β) → Work β
  | done a, f => f a
  | ask e next, f => ask e fun r => (next r).bind f

instance : Monad Work where
  pure := done
  bind := bind

@[simp] theorem pure_bind (a : α) (f : α → Work β) : (pure a : Work α) >>= f = f a := rfl

@[simp] theorem ask_bind (e : Effect) (next : e.Reply → Work α) (f : α → Work β) :
    ask e next >>= f = ask e fun r => next r >>= f := rfl

@[simp] theorem bind_pure (w : Work α) : w >>= pure = w := by
  induction w with
  | done a => rfl
  | ask e next ih => exact congrArg (ask e) (funext ih)

theorem bind_assoc (w : Work α) (f : α → Work β) (g : β → Work γ) :
    w >>= f >>= g = w >>= fun a => f a >>= g := by
  induction w with
  | done a => rfl
  | ask e next ih => exact congrArg (ask e) (funext ih)

/-- Asks for one effect. -/
def perform (e : Effect) : Work e.Reply := ask e done

/-- The site as it is. -/
def site : Work Site := perform .look

/-- The site is changed by a function. -/
def update (f : Site → Site) : Work Unit := do perform (.change (f (← site)))

end Work

/-- Work that may end early. -/
abbrev Op (α : Type) := ExceptT Exit Work α

namespace Op

variable {α β : Type}

/-- Work that cannot end early. -/
def lift (w : Work α) : Op α := ExceptT.lift w

/-- Asks for an effect that is no wait. -/
def perform (e : Effect) : Op e.Reply := lift (Work.perform e)

/-- What a wait came back with. -/
def unwrap : Waited α → Op α
  | .back a => pure a
  | .cancelled => throw .cancelled

/-- The site as it is. -/
def site : Op Site := lift Work.site

/-- The session as it is. -/
def session : Op Session := do return (← site).session

/-- The session is changed. -/
def modify (f : Session → Session) : Op Unit := lift (Work.update (Site.onSession f))

/-- Ends by a fault. -/
def fail (f : Fault) : Op α := throw (.fault f)

/-- Ends by a fault that the client reports by class. -/
def failClient (f : ClientFault) : Op α := fail (.client f)

/-- A value, or the fault that stands for it. -/
def ofExcept : Except Fault α → Op α
  | .ok a => pure a
  | .error f => fail f

/-- Something is done at the end, however the work ends. -/
def ensure (w : Op α) (after : Work Unit) : Op α :=
  ExceptT.mk do
    let result ← w.run
    after
    return result

/-- Faults of calls to the service are handled. -/
def rescue (w : Op α) (handle : ServiceFault → Op α) : Op α :=
  tryCatch w fun
    | .fault (.client (.service f)) => handle f
    | e => throw e

/-- Goes through a gate. -/
def enter (g : GateName) : Op Unit := do unwrap (← perform (.acquire g))

/-- **Work behind a gate**, which opens again however the work ends. -/
def guarded (g : GateName) (w : Op α) : Op α := do
  enter g
  ensure w (Work.perform (.release g))

/-- Waits for the storage, where it takes its time. -/
def storageTurn : Op Unit := do unwrap (← perform .storageTurn)

/-- Waits for some microseconds. -/
def sleep (duration : Int) : Op Unit := do unwrap (← perform (.sleep duration))

/-! ## Spans -/

/-- Begins a span. -/
def enterSpan (s : Span) : Op Nat := lift do
  let site ← Work.site
  let (id, trace) := site.trace.enter s
  Work.perform (.change { site with trace })
  return id

/-- Gives an open span an attribute. -/
def tag (span : Nat) (key : String) (value : Value) : Op Unit :=
  lift (Work.update fun s => { s with trace := s.trace.tag span key value })

/-- **Work within a span**, which ends however the work ends. -/
def traced (s : Span) (w : Nat → Op α) : Op α := do
  let id ← enterSpan s
  ensure (w id) (Work.update fun site => { site with trace := site.trace.leave id })

/-! ## Notices -/

/-- Raises a notice that expires. -/
def announce (message : String) (level : Level := .info) : Op Unit := do
  let s ← site
  let (board, result) := s.session.board.transient s.now (.text message) level
  modify fun session => { session with board }
  let _ ← ofExcept result

/-- Raises a notice that stays. -/
def alarm (message : Value) : Op Unit := do
  let s ← site
  let (board, _) := s.session.board.persistent s.now message .error
  modify fun session => { session with board }

end Op

end Cutover
