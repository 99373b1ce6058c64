import Cutover.Proofs.RunState.Course
import Cutover.Proofs.Store.Whole
import Cutover.Session.Controlling

/-!
# What lies behind the gate

A `Core` is the part of a site that changes only behind the state gate. Readers, raised notices, the
trace and the gate itself are left out. Every operation on the run is given here as a function on the
core, with all waits taken out; what it depends on beside the core are its `Conditions`.

* `Site.core`: the core of a site;
* `Core.Turn`: what comes of an operation on the core;
* `Core.begin`, `Core.restore`, `Core.reset`, `Core.apply`: the operations on the run;
* `Core.Stays`, `Core.Kept`: what no operation, and what no report, changes.
-/

namespace Cutover

/-- A session without its readers, the state gate and the notices that were raised. -/
def Session.core (s : Session) : Session :=
  { s with streams := [], nextStream := 0, stateGate := {}, board := { ttl := s.board.ttl } }

/-- The part of a site that changes only behind the state gate. -/
structure Core where
  session : Session
  storage : Storage
  hookCalls : List HookCall

/-- The core of a site. -/
def Site.core (s : Site) : Core := ⟨s.session.core, s.storage, s.hookCalls⟩

/-- What an operation depends on beside the core: how a request for the resources is answered, and
whether a notice that expires can be raised. -/
structure Conditions where
  answer : Outcome
  notice : Except Fault Unit := .ok ()

/-- What a call receives: an answer, or the fault that there is none. -/
def Outcome.received (call : Call) : Outcome → Except Fault Answer
  | answered a => .ok a
  | unreachable _ text => .error (.client (.service (call.unreachable text)))
  | failed f => .error f

/-- The resources by shard that an answer to a request for them holds, or the fault it makes. -/
def Outcome.shards : Outcome → Except Fault ShardMap
  | answered a => a.toShardMap.mapError fun f => .service f.toFetchFault
  | unreachable _ text => .error (.service (Call.getResources.unreachable text).toFetchFault)
  | failed (.client (.service f)) => .error (.service f.toFetchFault)
  | failed f => .error f

theorem Outcome.shards_failed {f : Fault} (h : ∀ g, f ≠ .client (.service g)) :
    (Outcome.failed f).shards = .error f := by
  unfold shards
  split
  next hf => cases hf
  next hf => cases hf
  next g hf =>
    cases hf
    exact absurd rfl (h g)
  next hf =>
    cases hf
    rfl

/-- The resources that an answer to a request for them holds, or the fault it makes. -/
def Outcome.resources (o : Outcome) : Except Fault (List Resource) := o.shards.map flattenResources

/-- An answer of the service, or a failure on the way to it; nothing else breaks. -/
def Outcome.isReply : Outcome → Bool
  | failed _ => false
  | _ => true

namespace Core

/-- What comes of an operation: a value or a fault, and the core afterwards. -/
structure Turn (α : Type) where
  result : Except Fault α
  core : Core

variable {α β : Type}

/-- An operation that gives a value. -/
def giving (c : Core) (a : α) : Turn α := ⟨.ok a, c⟩

/-- An operation that ends by a fault. -/
def failing (c : Core) (f : Fault) : Turn α := ⟨.error f, c⟩

/-- One operation after another; a fault of the first ends both. -/
def Turn.andThen (t : Turn α) (f : α → Core → Turn β) : Turn β :=
  match t.result with
  | .ok a => f a t.core
  | .error e => t.core.failing e

theorem andThen_ok {t : Turn α} {a : α} (h : t.result = .ok a) (f : α → Core → Turn β) :
    t.andThen f = f a t.core := by
  rw [Turn.andThen, h]

theorem andThen_error {t : Turn α} {e : Fault} (h : t.result = .error e) (f : α → Core → Turn β) :
    t.andThen f = t.core.failing e := by
  rw [Turn.andThen, h]

/-- Where both operations came out normally, the second went on from the first. -/
theorem of_andThen_ok {t : Turn α} {f : α → Core → Turn β} {b : β}
    (h : (t.andThen f).result = .ok b) : ∃ a, t.result = .ok a ∧ t.andThen f = f a t.core := by
  cases hr : t.result with
  | error e =>
    rw [andThen_error hr] at h
    cases h
  | ok a => exact ⟨a, rfl, andThen_ok hr f⟩

/-- What holds after the first operation, and is kept by the second, holds after both. -/
theorem core_andThen {P : Core → Prop} {t : Turn α} {f : α → Core → Turn β} (h : P t.core)
    (hf : ∀ a, t.result = .ok a → P (f a t.core).core) : P (t.andThen f).core := by
  cases hr : t.result with
  | error e =>
    rw [andThen_error hr]
    exact h
  | ok a =>
    rw [andThen_ok hr]
    exact hf a hr

@[simp] theorem andThen_giving (c : Core) (a : α) (f : α → Core → Turn β) :
    (c.giving a).andThen f = f a c := rfl

@[simp] theorem andThen_failing (c : Core) (e : Fault) (f : α → Core → Turn β) :
    (c.failing e : Turn α).andThen f = c.failing e := rfl

@[simp] theorem giving_result (c : Core) (a : α) : (c.giving a).result = .ok a := rfl
@[simp] theorem giving_core (c : Core) (a : α) : (c.giving a).core = c := rfl
@[simp] theorem failing_result (c : Core) (e : Fault) : (c.failing e : Turn α).result = .error e := rfl
@[simp] theorem failing_core (c : Core) (e : Fault) : (c.failing e : Turn α).core = c := rfl

/-- The session of a core is changed. -/
def onSession (c : Core) (f : Session → Session) : Core := { c with session := f c.session }

/-- The state of a core is changed. -/
def onState (c : Core) (f : RunState → RunState) : Core :=
  c.onSession fun s => { s with state := f s.state }

/-- The record as it is stored. -/
def stored (c : Core) : Table := c.storage.table c.session.store

/-- The record that the state makes. -/
def record (c : Core) : Record := c.session.record

/-- What is put in the way of the store. -/
def faults (c : Core) : StoreFaults := c.storage.faults c.session.store

/-! ## The parts of operations -/

/-- A snapshot of the state, which is checked like every state. -/
def snapshot (c : Core) : Turn RunState := ⟨c.session.state.check, c⟩

/-- The storage after something was done with it. -/
def withStorage (c : Core) (r : Except Fault Unit × Storage) : Turn Unit :=
  ⟨r.1, { c with storage := r.2 }⟩

/-- The current state is stored. -/
def persist (c : Core) : Turn Unit :=
  match c.faults.saveError with
  | some text => c.failing (.storage text)
  | none => c.withStorage (c.storage.save c.session.store c.record.encode)

/-- The record is removed. -/
def clear (c : Core) : Turn Unit :=
  match c.faults.clearError with
  | some text => c.failing (.storage text)
  | none => c.withStorage (c.storage.clear c.session.store)

/-- A stop hook is called. -/
def runHook (phase : Phase) (c : Core) : StopHook → Turn Unit
  | .polling =>
    (c.onSession fun s => { s with latch := { s.latch with raised := true } }).giving ()
  | .configuration =>
    (if phase = .complete then c.onSession Session.forgetConfiguration else c).giving ()
  | .user _ id fails =>
    let stored := !(c.storage.table c.storage.current).isEmpty
    let c := { c with hookCalls := c.hookCalls ++ [HookCall.mk id phase stored] }
    if fails then c.failing (.broken "hook") else c.giving ()

/-- Stop hooks are called in order; the first that fails ends it. -/
def runHooks (phase : Phase) : List StopHook → Core → Turn Unit
  | [], c => c.giving ()
  | h :: rest, c => (c.runHook phase h).andThen fun _ c => runHooks phase rest c

/-- The resources, asked for unless they are kept. -/
def fetch (o : Outcome) (c : Core) : Turn (List Resource) :=
  match c.session.resources with
  | some items => c.giving items
  | none =>
    let c := c.onSession fun s => { s with fetchCount := s.fetchCount + 1 }
    match o.resources with
    | .ok items => (c.onSession fun s => { s with resources := some items }).giving items
    | .error f => c.failing f

/-- What a fault of fetching the resources does: one of the service is kept in mind. -/
def fetchFailed (c : Core) : Fault → Turn Unit
  | .client (.service f) =>
    if f.kind = .resourceFetch then
      (c.onSession fun s => { s with lastFetchFault := some f }).giving ()
    else c.failing (.client (.service f))
  | f => c.failing f

theorem fetchFailed_other {c : Core} {f : Fault} (h : ∀ g, f ≠ .client (.service g)) :
    c.fetchFailed f = c.failing f := by
  unfold fetchFailed
  split
  next g => exact absurd rfl (h g)
  next => rfl

/-- The resources of the run are still to be fetched. -/
def isDue (c : Core) : Bool := !c.session.isBare && !c.session.state.isReconciled

/-- The run is marked as having its resources. -/
def reconciled (c : Core) : Core := c.onState fun s => s.marked (.bool true)

/-- The resources are fetched once in a run. -/
def reconcileOnce (o : Outcome) (c : Core) : Turn Unit :=
  if c.isDue then
    match (c.fetch o).result with
    | .ok _ => (c.fetch o).core.reconciled.giving ()
    | .error f => (c.fetch o).core.fetchFailed f
  else c.giving ()

theorem reconcileOnce_idle {o : Outcome} {c : Core} (h : c.isDue = false) :
    c.reconcileOnce o = c.giving () := by
  rw [reconcileOnce, h]
  rfl

theorem reconcileOnce_ok {o : Outcome} {c : Core} {items : List Resource} (hdue : c.isDue = true)
    (h : (c.fetch o).result = .ok items) :
    c.reconcileOnce o = (c.fetch o).core.reconciled.giving () := by
  rw [reconcileOnce, hdue, h]
  rfl

theorem reconcileOnce_error {o : Outcome} {c : Core} {f : Fault} (hdue : c.isDue = true)
    (h : (c.fetch o).result = .error f) : c.reconcileOnce o = (c.fetch o).core.fetchFailed f := by
  rw [reconcileOnce, hdue, h]
  rfl

/-- The record is removed, and the user is told if the notice can be raised. -/
def cleanUp (notice : Except Fault Unit) (c : Core) : Turn Unit :=
  c.clear.andThen fun _ d => ⟨notice, d⟩

/-- What is left to do for a complete run once its hooks were called. -/
def roundOff (k : Conditions) (c : Core) : Turn Unit :=
  (c.reconcileOnce k.answer).andThen fun _ d => d.cleanUp k.notice

/-- The core of a run that is no longer in progress. -/
def stopped (c : Core) : Core := c.onState RunState.stopped

/-- The run is complete. -/
def complete (k : Conditions) (c : Core) : Turn Unit :=
  (c.stopped.runHooks .complete c.session.hooks).andThen fun _ d => d.roundOff k

/-- The core once a run has failed, before anybody is told. -/
def failed (c : Core) (errorText : Value) : Core :=
  c.onSession fun s =>
    { s with
      state := s.state.afterFailure s.mode errorText
      lastFailure := some ⟨errorText, s.state.phase⟩ }

/-- The run has failed. -/
def failRun (errorText : Value) (c : Core) : Turn Unit :=
  ((c.failed errorText).runHooks .failed c.session.hooks).andThen fun _ d => d.clear

/-- The state moves on, and provisioning is announced if the notice can be raised. -/
def advance (notice : Except Fault Unit) (report : Status) (c : Core) : Turn RunState.Advance :=
  match c.session.state.advance c.session.mode c.session.transfer report with
  | .error f => c.failing f
  | .ok a =>
    let d := c.onState fun _ => a.state
    if a.provisions then ⟨notice.map fun _ => a, d⟩ else d.giving a

theorem advance_notice {x y : Except Fault Unit} {report : Status} {c : Core}
    {a : RunState.Advance} (h : (c.advance x report).result = .ok a) (ha : a.provisions = false) :
    c.advance y report = c.advance x report := by
  unfold advance at h ⊢
  split at h
  · cases h
  next b hb =>
    cases hp : b.provisions with
    | false => rfl
    | true =>
      simp only [hp, if_true] at h
      cases x with
      | error f => cases h
      | ok _ =>
        cases h
        rw [hp] at ha
        cases ha

theorem advance_ok {x : Except Fault Unit} {report : Status} {c : Core} {a : RunState.Advance}
    (h : (c.advance x report).result = .ok a) :
    c.session.state.advance c.session.mode c.session.transfer report = .ok a ∧
      (c.advance x report).core = c.onState fun _ => a.state := by
  unfold advance at h ⊢
  split at h
  · cases h
  next b hb =>
    cases hp : b.provisions with
    | false =>
      simp only [hp] at h
      cases h
      exact ⟨hb, rfl⟩
    | true =>
      simp only [hp, if_true] at h
      cases x with
      | error f => cases h
      | ok _ =>
        cases h
        exact ⟨hb, rfl⟩

theorem advance_provisioning {x : Except Fault Unit} {report : Status} {c : Core}
    {a : RunState.Advance} (hactive : c.session.state.phase.isActive = true)
    (h : (c.advance x report).result = .ok a) (ha : a.provisions = true) :
    (c.advance x report).core.session.state.phase ≠ .complete := by
  obtain ⟨hadv, hcore⟩ := advance_ok h
  obtain ⟨q, -, hcourse⟩ := RunState.Course.of_advance hactive hadv
  have hphase : (c.advance x report).core.session.state.phase = .provisioning := by
    rw [hcore]
    exact hcourse.provisioning ha
  rw [hphase]
  exact nofun

/-- The state has moved on: a complete run is closed, any other is stored. -/
def settle (k : Conditions) (a : RunState.Advance) (c : Core) : Turn Unit :=
  if c.session.state.phase = .complete then c.complete k
  else if a.reconciles then (c.reconcileOnce k.answer).andThen fun _ d => d.persist
  else c.persist

theorem settle_notice {o : Outcome} {x y : Except Fault Unit} {a : RunState.Advance} {c : Core}
    (h : c.session.state.phase ≠ .complete) : c.settle ⟨o, x⟩ a = c.settle ⟨o, y⟩ a := by
  rw [settle, settle, if_neg h, if_neg h]

/-- What a report that is no failure does in an active phase; none when it changes something. -/
def follow (k : Conditions) (report : Status) (before : RunState) (c : Core) :
    Turn (Option Transition) :=
  (c.advance k.notice report).andThen fun a d =>
    if d.session.state.sameAs before then d.giving (some ⟨c.session.state.phase, before, false⟩)
    else (d.settle k a).andThen fun _ e => e.giving none

/-- What a report does in an active phase; none when it changes something. -/
def applyActive (k : Conditions) (report : Status) (c : Core) : Turn (Option Transition) :=
  if report.isFailure then (c.failRun report.errorText).andThen fun _ d => d.giving none
  else c.snapshot.andThen fun before _ => c.follow k report before

/-- A report is ignored in an active phase because the state after it looks the same. -/
theorem applyActive_some {k : Conditions} {report : Status} {c : Core} {t : Transition}
    (h : (c.applyActive k report).result = .ok (some t)) :
    ∃ before a, c.snapshot.result = .ok before ∧ (c.advance k.notice report).result = .ok a ∧
      (c.advance k.notice report).core.session.state.sameAs before = true ∧
      t = ⟨c.session.state.phase, before, false⟩ ∧
      (c.applyActive k report).core = (c.advance k.notice report).core := by
  unfold applyActive at h ⊢
  split at h
  · cases hr : (c.failRun report.errorText).result with
    | error f =>
      rw [andThen_error hr] at h
      cases h
    | ok _ =>
      rw [andThen_ok hr] at h
      cases h
  next hfailure =>
    rw [if_neg hfailure]
    cases hsnap : c.snapshot.result with
    | error f =>
      rw [andThen_error hsnap] at h
      cases h
    | ok before =>
      rw [andThen_ok hsnap, follow] at h ⊢
      cases hadv : (c.advance k.notice report).result with
      | error f =>
        rw [andThen_error hadv] at h
        cases h
      | ok a =>
        rw [andThen_ok hadv] at h ⊢
        split at h
        next hsame =>
          cases h
          exact ⟨before, a, rfl, rfl, hsame, rfl, by rw [if_pos hsame]; rfl⟩
        next hsame =>
          cases hr : ((c.advance k.notice report).core.settle k a).result with
          | error f =>
            rw [andThen_error hr] at h
            cases h
          | ok _ =>
            rw [andThen_ok hr] at h
            cases h

/-- The end of a report that was not ignored. -/
def concluded (previous : Phase) (c : Core) : Turn Transition :=
  c.snapshot.andThen fun state _ => c.giving ⟨previous, state, true⟩

/-! ## The operations -/

/-- **A status report is applied.** -/
def apply (k : Conditions) (report : Status) (c : Core) : Turn Transition :=
  let previous := c.session.state.phase
  if previous.isActive then
    (c.applyActive k report).andThen fun ignored d =>
      match ignored with
      | some t => d.giving t
      | none => d.concluded previous
  else c.snapshot.andThen fun state _ => c.giving ⟨previous, state, false⟩

/-- The core of a run that was just launched. -/
def launched (mode : Mode) (transfer : Transfer) (shards instances : Value) (c : Core) : Core :=
  c.onSession fun s =>
    { s with
      state := .launched mode
      mode := some mode
      transfer := some transfer
      shardCount := shards
      instanceCount := instances
      lastFailure := none
      lastFetchFault := none }

/-- **A run begins**, unless one is in progress. -/
def begin (mode : Mode) (transfer : Transfer) (shards instances : Value) (c : Core) : Turn RunState :=
  if c.session.state.isRunning then c.failing (.client (.alreadyRunning c.session.state.phase))
  else
    (c.launched mode transfer shards instances).persist.andThen fun _ c => c.snapshot

/-- The core of a run that was forgotten. -/
def forgotten (c : Core) : Core :=
  c.onSession fun s =>
    { s with
      state := {}, mode := none, transfer := none, shardCount := .whole 0
      instanceCount := .whole 0 }

/-- **The run is forgotten.** -/
def reset (c : Core) : Turn Unit :=
  c.forgotten.clear.andThen fun _ d => d.snapshot.andThen fun _ _ => d.giving ()

theorem snapshot_forgotten {c : Core} (h : c.session.state = {}) : c.snapshot.result = .ok {} := by
  rw [snapshot, h]
  exact RunState.sound_default.check_eq

/-- **A stored run is taken up.** -/
def restore (r : Record) (c : Core) : Turn RunState :=
  match r.toState with
  | .error f => c.failing f
  | .ok state =>
    let c := c.onState fun _ => state
    match r.readMode with
    | .error f => c.failing f
    | .ok mode =>
      let c := c.onSession fun s => { s with mode }
      match r.readTransfer with
      | .error f => c.failing f
      | .ok transfer =>
        (c.onSession fun s =>
          { s with transfer, shardCount := r.shardCount, instanceCount := r.instanceCount }).snapshot

/-! ## What stays -/

/-- What no operation on the run changes. -/
structure Stays (c d : Core) : Prop where
  store : d.session.store = c.session.store
  isBare : d.session.isBare = c.session.isBare
  hooks : d.session.hooks = c.session.hooks
  fetchGate : d.session.fetchGate = c.session.fetchGate
  board : d.session.board = c.session.board
  storage : c.storage.Keeps d.storage

/-- What no report changes: that, and what is migrated and how. -/
structure Kept (c d : Core) : Prop extends Stays c d where
  context : d.session.context = c.session.context

variable {c d e : Core} {k : Conditions}

theorem Stays.refl (c : Core) : c.Stays c := ⟨rfl, rfl, rfl, rfl, rfl, .refl _⟩

theorem Stays.trans (h : c.Stays d) (h' : d.Stays e) : c.Stays e :=
  ⟨h'.store.trans h.store, h'.isBare.trans h.isBare, h'.hooks.trans h.hooks,
    h'.fetchGate.trans h.fetchGate, h'.board.trans h.board, h.storage.trans h'.storage⟩

theorem Kept.refl (c : Core) : c.Kept c := ⟨.refl c, rfl⟩

theorem Kept.trans (h : c.Kept d) (h' : d.Kept e) : c.Kept e :=
  ⟨h.toStays.trans h'.toStays, h'.context.trans h.context⟩

theorem kept_andThen {α β : Type} {t : Turn α} {f : α → Core → Turn β} (h : c.Kept t.core)
    (hf : ∀ a, (t.core).Kept (f a t.core).core) : c.Kept (t.andThen f).core := by
  rw [Turn.andThen]
  cases t.result with
  | error e => exact h
  | ok a => exact h.trans (hf a)

theorem kept_persist (c : Core) : c.Kept c.persist.core := by
  rw [persist]
  split
  · exact .refl c
  · exact ⟨⟨rfl, rfl, rfl, rfl, rfl, Storage.keeps_save ..⟩, rfl⟩

theorem kept_clear (c : Core) : c.Kept c.clear.core := by
  rw [clear]
  split
  · exact .refl c
  · exact ⟨⟨rfl, rfl, rfl, rfl, rfl, Storage.keeps_clear ..⟩, rfl⟩

theorem kept_runHook (phase : Phase) (c : Core) (h : StopHook) : c.Kept (c.runHook phase h).core := by
  cases h with
  | polling => exact ⟨⟨rfl, rfl, rfl, rfl, rfl, .refl _⟩, rfl⟩
  | configuration =>
    rw [runHook]
    split
    · exact ⟨⟨rfl, rfl, rfl, rfl, rfl, .refl _⟩, rfl⟩
    · exact .refl c
  | user number id fails =>
    cases fails
    · exact ⟨⟨rfl, rfl, rfl, rfl, rfl, .refl _⟩, rfl⟩
    · exact ⟨⟨rfl, rfl, rfl, rfl, rfl, .refl _⟩, rfl⟩

theorem kept_runHooks (phase : Phase) (hooks : List StopHook) (c : Core) :
    c.Kept (c.runHooks phase hooks).core := by
  induction hooks generalizing c with
  | nil => exact .refl c
  | cons h rest ih => exact kept_andThen (kept_runHook phase c h) fun _ => ih _

theorem session_clear (c : Core) : c.clear.core.session = c.session := by
  rw [clear]
  split <;> rfl

theorem session_persist (c : Core) : c.persist.core.session = c.session := by
  rw [persist]
  split <;> rfl

theorem kept_fetch (o : Outcome) (c : Core) : c.Kept (c.fetch o).core := by
  rw [fetch]
  split
  · exact .refl c
  · dsimp only
    split
    · exact ⟨⟨rfl, rfl, rfl, rfl, rfl, .refl _⟩, rfl⟩
    · exact ⟨⟨rfl, rfl, rfl, rfl, rfl, .refl _⟩, rfl⟩

theorem kept_fetchFailed (c : Core) (f : Fault) : c.Kept (c.fetchFailed f).core := by
  unfold fetchFailed
  split
  · split
    · exact ⟨⟨rfl, rfl, rfl, rfl, rfl, .refl _⟩, rfl⟩
    · exact .refl c
  · exact .refl c

theorem kept_reconcileOnce (o : Outcome) (c : Core) : c.Kept (c.reconcileOnce o).core := by
  have h := kept_fetch o c
  rw [reconcileOnce]
  split
  · split
    · exact h.trans ⟨⟨rfl, rfl, rfl, rfl, rfl, .refl _⟩, rfl⟩
    · exact h.trans (kept_fetchFailed _ _)
  · exact .refl c

theorem kept_advance (notice : Except Fault Unit) (report : Status) (c : Core) :
    c.Kept (c.advance notice report).core := by
  rw [advance]
  split
  · exact .refl c
  · dsimp only
    split
    · exact ⟨⟨rfl, rfl, rfl, rfl, rfl, .refl _⟩, rfl⟩
    · exact ⟨⟨rfl, rfl, rfl, rfl, rfl, .refl _⟩, rfl⟩

theorem kept_roundOff (k : Conditions) (c : Core) : c.Kept (c.roundOff k).core :=
  kept_andThen (kept_reconcileOnce ..) fun _ => kept_andThen (kept_clear _) fun _ => .refl _

theorem kept_stopped (c : Core) : c.Kept c.stopped := ⟨⟨rfl, rfl, rfl, rfl, rfl, .refl _⟩, rfl⟩

theorem kept_complete (k : Conditions) (c : Core) : c.Kept (c.complete k).core :=
  (kept_stopped c).trans (kept_andThen (kept_runHooks ..) fun _ => kept_roundOff ..)

theorem kept_failed (c : Core) (errorText : Value) : c.Kept (c.failed errorText) :=
  ⟨⟨rfl, rfl, rfl, rfl, rfl, .refl _⟩, rfl⟩

theorem kept_failRun (errorText : Value) (c : Core) : c.Kept (c.failRun errorText).core :=
  (kept_failed c errorText).trans (kept_andThen (kept_runHooks ..) fun _ => kept_clear _)

theorem kept_settle (k : Conditions) (a : RunState.Advance) (c : Core) :
    c.Kept (c.settle k a).core := by
  rw [settle]
  split
  · exact kept_complete k c
  · split
    · exact kept_andThen (kept_reconcileOnce ..) fun _ => kept_persist _
    · exact kept_persist c

theorem kept_follow (k : Conditions) (report : Status) (before : RunState) (c : Core) :
    c.Kept (c.follow k report before).core := by
  refine kept_andThen (kept_advance ..) fun _ => ?_
  split
  · exact .refl _
  · exact kept_andThen (kept_settle ..) fun _ => .refl _

theorem kept_applyActive (k : Conditions) (report : Status) (c : Core) :
    c.Kept (c.applyActive k report).core := by
  rw [applyActive]
  split
  · exact kept_andThen (kept_failRun ..) fun _ => .refl _
  · exact kept_andThen (t := c.snapshot) (.refl c) fun _ => kept_follow ..

theorem kept_apply (k : Conditions) (report : Status) (c : Core) :
    c.Kept (c.apply k report).core := by
  rw [apply]
  split
  · refine kept_andThen (kept_applyActive ..) fun ignored => ?_
    cases ignored with
    | some t => exact .refl _
    | none => exact kept_andThen (t := snapshot _) (.refl _) fun _ => .refl _
  · exact kept_andThen (t := c.snapshot) (.refl c) fun _ => .refl _

theorem stays_launched (mode : Mode) (transfer : Transfer) (shards instances : Value) (c : Core) :
    c.Stays (c.launched mode transfer shards instances) := ⟨rfl, rfl, rfl, rfl, rfl, .refl _⟩

theorem stays_forgotten (c : Core) : c.Stays c.forgotten := ⟨rfl, rfl, rfl, rfl, rfl, .refl _⟩

theorem stays_begin (mode : Mode) (transfer : Transfer) (shards instances : Value) (c : Core) :
    c.Stays (c.begin mode transfer shards instances).core := by
  have hpersist := (stays_launched mode transfer shards instances c).trans (kept_persist _).toStays
  rw [begin]
  split
  · exact .refl c
  · generalize (c.launched mode transfer shards instances).persist = t at hpersist
    cases hr : t.result with
    | error f =>
      rw [andThen_error hr]
      exact hpersist
    | ok _ =>
      rw [andThen_ok hr]
      exact hpersist

theorem stays_reset (c : Core) : c.Stays c.reset.core := by
  have hclear := (stays_forgotten c).trans (kept_clear _).toStays
  rw [reset]
  generalize c.forgotten.clear = t at hclear
  cases hr : t.result with
  | error f =>
    rw [andThen_error hr]
    exact hclear
  | ok _ =>
    rw [andThen_ok hr]
    cases hr' : (snapshot t.core).result with
    | error f =>
      rw [andThen_error hr']
      exact hclear
    | ok _ =>
      rw [andThen_ok hr']
      exact hclear

/-! ## Parts that leave the storage alone -/

/-- **What stop hooks leave alone**: all that hangs neither on the latch nor on the configuration nor on the calls of
hooks. -/
theorem runHook_same {β : Type} {f : Core → β} (phase : Phase) (c : Core) (h : StopHook)
    (latch : ∀ c : Core, f (c.onSession fun s => { s with latch := { s.latch with raised := true } }) = f c)
    (configuration : ∀ c : Core, f (c.onSession Session.forgetConfiguration) = f c)
    (calls : ∀ (c : Core) (hookCalls : List HookCall), f { c with hookCalls } = f c) :
    f (c.runHook phase h).core = f c := by
  cases h with
  | polling => exact latch c
  | configuration =>
    rw [runHook]
    split
    · exact configuration c
    · rfl
  | user number id fails => cases fails <;> exact calls c _

theorem runHooks_same {β : Type} {f : Core → β} (phase : Phase) (hooks : List StopHook) (c : Core)
    (same : ∀ c h, f (runHook phase c h).core = f c) : f (c.runHooks phase hooks).core = f c := by
  induction hooks generalizing c with
  | nil => rfl
  | cons h rest ih =>
    exact core_andThen (P := fun d => f d = f c) (same c h) fun _ _ => (ih _).trans (same c h)

theorem storage_runHook (phase : Phase) (c : Core) (h : StopHook) : (c.runHook phase h).core.storage = c.storage :=
  runHook_same phase c h (fun _ => rfl) (fun _ => rfl) fun _ _ => rfl

theorem storage_runHooks (phase : Phase) (hooks : List StopHook) (c : Core) :
    (c.runHooks phase hooks).core.storage = c.storage := runHooks_same phase hooks c (storage_runHook phase)

theorem storage_fetch (o : Outcome) (c : Core) : (c.fetch o).core.storage = c.storage := by
  rw [fetch]
  split
  · rfl
  · dsimp only
    split
    · rfl
    · rfl

theorem storage_reconcileOnce (o : Outcome) (c : Core) :
    (c.reconcileOnce o).core.storage = c.storage := by
  rw [reconcileOnce]
  split
  · split
    · exact storage_fetch o c
    · unfold fetchFailed
      split
      · split
        · exact storage_fetch o c
        · exact storage_fetch o c
      · exact storage_fetch o c
  · rfl

theorem storage_advance (notice : Except Fault Unit) (report : Status) (c : Core) :
    (c.advance notice report).core.storage = c.storage := by
  rw [advance]
  split
  · rfl
  · dsimp only
    split
    · rfl
    · rfl

end Core

end Cutover
