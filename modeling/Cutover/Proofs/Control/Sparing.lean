import Cutover.Proofs.Work.Accord
import Cutover.Session.Action
import Cutover.Session.Background

/-!
# What spares the poll loop

Most work has nothing to do with which task polls: it does not change that, starts no poll loop and
cancels no task. Such work is made of parts that spare the loop. Everything that can be asked of a session
is, save what starts the loop and what stops it, and so is a round of the loop.

* `sparing`: the contract of work that spares the poll loop;
* `Op.Spares`: an operation spares it, with lemmas for the parts that operations are made of;
* `Action.starts`, `Action.stops`: the actions that may start and stop polling;
* `Background.spares`: the work in the background spares the loop;
* `Action.spares`: **every other action spares it**.
-/

namespace Cutover

/-- What has to do with the poll loop of a session: which task polls, and whether a status is being
applied. -/
def Session.pollView (s : Session) : Option Nat × Bool := (s.pollTask, s.applying)

/-- **The contract of work that spares the poll loop.** While the work waits, others may change what is
seen. Only work that applies a status marks that. -/
def sparing (marks : Bool) : Contract (Option Nat × Bool) where
  allows v
    | .change x => x.session.pollView = v ∨ marks = true ∧ x.session.pollTask = v.1
    | .fork b => b ≠ .pollLoop
    | .cancel _ => False
    | _ => True
  leads v
    | .look, r, v' => v' = v ∧ r.session.pollView = v
    | .change x, _, v' => v' = x.session.pollView
    | e, _, v' => e.isWait = false → v' = v

variable {marks : Bool}

/-- Work spares the poll loop. -/
def Work.Spares {α : Type} (marks : Bool) (w : Work α) : Prop :=
  ∀ v, w.Meets (sparing marks) (fun _ _ => True) v

namespace Op

variable {α β : Type}

/-- **An operation spares the poll loop.** -/
def Spares (marks : Bool) (op : Op α) : Prop := ∀ v, op.Meets (sparing marks) (fun _ _ => True) v

variable {op : Op α}

/-! ## One operation after another -/

theorem spares_pure (a : α) : Spares marks (pure a : Op α) := fun _ => trivial

theorem spares_throw (e : Exit) : Spares marks (throw e : Op α) := fun _ => trivial

theorem spares_fail (f : Fault) : Spares marks (fail f : Op α) := spares_throw _

theorem spares_bind {f : α → Op β} (h : op.Spares marks) (hf : ∀ a, (f a).Spares marks) : Spares marks (op >>= f) := by
  refine fun known => meets_bind.mpr ((h known).mono ?_)
  rintro (e | a) known' -
  · trivial
  · exact hf a known'

theorem spares_map {f : α → β} (h : op.Spares marks) : Spares marks (f <$> op) :=
  fun known => meets_map.mpr ((h known).mono fun _ _ _ => trivial)

theorem spares_tryCatch {handle : Exit → Op α} (h : op.Spares marks) (hhandle : ∀ e, (handle e).Spares marks) :
    Spares marks (tryCatch op handle) := by
  refine fun known => meets_tryCatch.mpr ((h known).mono ?_)
  rintro (e | a) known' -
  · exact hhandle e known'
  · trivial

theorem spares_rescue {handle : ServiceFault → Op α} (h : op.Spares marks)
    (hhandle : ∀ f, (handle f).Spares marks) : (rescue op handle).Spares marks := by
  refine spares_tryCatch h fun e => ?_
  split
  · exact hhandle _
  · exact spares_throw _

theorem spares_ensure {last : Work Unit} (h : op.Spares marks) (hlast : last.Spares marks) :
    (op.ensure last).Spares marks :=
  fun known => meets_ensure.mpr ((h known).mono fun _ known' _ => hlast known')

theorem spares_ite {c : Prop} [Decidable c] {op' : Op α} (h : op.Spares marks) (h' : op'.Spares marks) :
    Spares marks (if c then op else op') := by
  split
  · exact h
  · exact h'

theorem spares_ofExcept (x : Except Fault α) : (ofExcept x).Spares marks := by
  cases x with
  | ok a => exact spares_pure a
  | error f => exact spares_fail f

theorem spares_unwrap (x : Waited α) : (unwrap x).Spares marks := by
  cases x with
  | back a => exact spares_pure a
  | cancelled => exact spares_throw _

theorem spares_quietly {op : Op Unit} (h : op.Spares marks) : (quietly op).Spares marks :=
  spares_bind h fun _ => spares_pure _

/-! ## Effects -/

theorem spares_perform (e : Effect) (he : e.isOther = true) (hfork : ∀ b, e = .fork b → b ≠ .pollLoop)
    (hcancel : ∀ t, e ≠ .cancel t) : (perform e).Spares marks := by
  refine fun known => meets_perform.mpr ⟨?_, fun _ _ _ => trivial⟩
  cases e with
  | change x => cases he
  | fork b => exact hfork b rfl
  | cancel t => exact absurd rfl (hcancel t)
  | _ => trivial

theorem spares_release (g : GateName) : (Work.perform (.release g)).Spares marks :=
  fun _ => ⟨trivial, fun _ _ _ => trivial⟩

theorem spares_site : site.Spares marks := fun _ => ⟨trivial, fun _ _ _ => trivial⟩

theorem spares_session : session.Spares marks := spares_bind spares_site fun x => spares_pure x.session

theorem spares_update {f : Site → Site} (hf : ∀ x, (f x).session.pollView = x.session.pollView) :
    (Work.update f).Spares marks := by
  refine fun v => ⟨trivial, ?_⟩
  rintro x v' ⟨rfl, hx⟩
  exact ⟨.inl ((hf x).trans hx), fun _ _ _ => trivial⟩

theorem spares_mark {f : Site → Site} (hf : ∀ x, (f x).session.pollTask = x.session.pollTask) :
    (Work.update f).Spares true := by
  refine fun v => ⟨trivial, ?_⟩
  rintro x v' ⟨rfl, hx⟩
  exact ⟨.inr ⟨rfl, (hf x).trans (congrArg Prod.fst hx)⟩, fun _ _ _ => trivial⟩

theorem spares_lift {w : Work α} (h : w.Spares marks) : (lift w).Spares marks :=
  fun known => meets_lift.mpr (h known)

theorem spares_modify {f : Session → Session} (hf : ∀ x, (f x).pollView = x.pollView) :
    (modify f).Spares marks := spares_lift (spares_update fun x => hf x.session)

/-! ## Gates, spans and notices -/

theorem spares_enter (g : GateName) : (enter g).Spares marks :=
  spares_bind (spares_perform (.acquire g) rfl nofun nofun) fun _ => spares_unwrap _

theorem spares_guarded {g : GateName} (h : op.Spares marks) : (guarded g op).Spares marks :=
  spares_bind (spares_enter g) fun _ => spares_ensure h (spares_release g)

theorem spares_enterSpan (s : Span) : (enterSpan s).Spares marks := by
  refine spares_lift fun known => ⟨trivial, ?_⟩
  rintro x known' ⟨rfl, hx⟩
  exact ⟨.inl hx, fun _ _ _ => trivial⟩

theorem spares_traced {s : Span} {w : Nat → Op α} (h : ∀ id, (w id).Spares marks) : (traced s w).Spares marks :=
  spares_bind (spares_enterSpan s) fun id => spares_ensure (h id) (spares_update fun _ => rfl)

theorem spares_tag (id : Nat) (key : String) (value : Value) : (tag id key value).Spares marks :=
  spares_lift (spares_update fun _ => rfl)

theorem spares_announce (text : String) (level : Level) : (announce text level).Spares marks :=
  spares_bind spares_site fun _ => spares_bind (spares_modify fun _ => rfl) fun _ =>
    spares_bind (spares_ofExcept _) fun _ => spares_pure _

theorem spares_alarm (message : Value) : (alarm message).Spares marks :=
  spares_bind spares_site fun _ => spares_modify fun _ => rfl

theorem spares_sleep (d : Int) : (sleep d).Spares marks :=
  spares_bind (spares_perform (.sleep d) rfl nofun nofun) fun _ => spares_unwrap _

theorem spares_storageTurn : storageTurn.Spares marks :=
  spares_bind (spares_perform .storageTurn rfl nofun nofun) fun _ => spares_unwrap _

end Op

open Op

variable {α : Type}

/-! ## Storing -/

namespace Keep

theorem spares_transact (f : Storage → Except Fault α × Storage) : (transact f).Spares marks := by
  refine spares_bind spares_storageTurn fun _ known => meets_bind.mpr ?_
  refine meets_lift.mpr ⟨trivial, ?_⟩
  rintro x known' ⟨rfl, hx⟩
  refine meets_bind.mpr (meets_lift.mpr ⟨.inl hx, fun _ known' _ => ?_⟩)
  exact spares_ofExcept _ known'

theorem spares_traced (operation : String) (f : Storage → Except Fault α × Storage) :
    (traced operation f).Spares marks :=
  spares_bind spares_site fun _ => Op.spares_traced fun _ => spares_transact f

theorem spares_obstacle (error : Option String) : (obstacle error).Spares marks := by
  cases error with
  | some text => exact spares_fail _
  | none => exact spares_pure _

theorem spares_load (store : Nat) : (load store).Spares marks := spares_traced _ _

theorem spares_save (store : Nat) (r : Record) : (save store r).Spares marks := by
  refine spares_bind spares_site fun x => ?_
  have hrest : Spares marks (do
      obstacle ((← site).storage.faults store).saveError
      traced "save" fun s => s.save store r.encode) :=
    spares_bind spares_site fun _ => spares_bind (spares_obstacle _) fun _ => spares_traced _ _
  cases (x.storage.faults store).saveDelay with
  | some d => exact spares_bind (spares_sleep d) fun _ => hrest
  | none => exact hrest

theorem spares_clear (store : Nat) : (clear store).Spares marks :=
  spares_bind spares_site fun _ => spares_bind (spares_obstacle _) fun _ => spares_traced _ _

theorem spares_fieldName (name : Value) : (fieldName name).Spares marks := by
  unfold fieldName
  split
  · exact spares_ite (spares_pure _) (spares_fail _)
  · exact spares_fail _

theorem spares_getField (store : Nat) (name : Value) : (getField store name).Spares marks :=
  spares_bind (spares_fieldName name) fun _ => spares_transact _

theorem spares_setField (store : Nat) (name value : Value) : (setField store name value).Spares marks :=
  spares_bind (spares_fieldName name) fun _ => spares_transact _

end Keep

/-! ## Calling the service -/

namespace Call

theorem spares_send (c : Call) : c.send.Spares marks := by
  refine Op.spares_traced fun span => ?_
  dsimp only
  refine spares_ite (spares_bind (spares_fail _) fun _ => ?_) ?_
  all_goals
    refine spares_bind (spares_perform (.send c.message) rfl nofun nofun) fun w => ?_
    refine spares_bind (spares_unwrap w) fun o => ?_
    cases o with
    | answered a => exact spares_bind (spares_tag _ _ _) fun _ => spares_pure a
    | unreachable failure text => exact spares_bind (spares_tag _ _ _) fun _ => spares_fail _
    | failed f => exact spares_fail f

theorem spares_ofService (x : Except ServiceFault α) : (ofService x).Spares marks := by
  cases x with
  | ok a => exact spares_pure a
  | error f => exact spares_fail _

theorem spares_write (c : Call) : c.write.Spares marks :=
  spares_bind (spares_send c) fun _ => spares_ofService _

theorem spares_readStatus : readStatus.Spares marks :=
  spares_bind (spares_send .getStatus) fun _ => spares_ofService _

theorem spares_readSummary : readSummary.Spares marks :=
  spares_bind (spares_send .getSummary) fun _ => spares_ofService _

theorem spares_readResources : readResources.Spares marks :=
  spares_rescue (spares_bind (spares_send .getResources) fun _ => spares_ofService _) fun _ =>
    spares_fail _

end Call

/-! ## The run -/

namespace Control

theorem spares_snapshot : snapshot.Spares marks := spares_bind spares_session fun _ => spares_ofExcept _

theorem spares_publish : publish.Spares marks :=
  spares_bind spares_snapshot fun _ => spares_perform _ rfl nofun nofun

theorem spares_persist : persist.Spares marks := spares_bind spares_session fun _ => Keep.spares_save _ _

theorem spares_begin (mode : Mode) (transfer : Transfer) (shards instances : Value) :
    (begin mode transfer shards instances).Spares marks := by
  have hrest : Spares marks (do
      Op.modify fun s =>
        { s with
          state := .launched mode
          mode := some mode
          transfer := some transfer
          shardCount := shards
          instanceCount := instances
          lastFailure := none
          lastFetchFault := none }
      persist
      publish
      snapshot) :=
    spares_bind (spares_modify fun _ => rfl) fun _ => spares_bind spares_persist fun _ =>
      spares_bind spares_publish fun _ => spares_snapshot
  exact spares_guarded (spares_bind spares_session fun _ =>
    spares_ite (spares_bind (spares_fail _) fun _ => hrest) hrest)

theorem spares_restore (r : Record) : (restore r).Spares marks :=
  spares_guarded (spares_bind (spares_ofExcept _) fun _ => spares_bind (spares_modify fun _ => rfl) fun _ =>
    spares_bind (spares_ofExcept _) fun _ => spares_bind (spares_modify fun _ => rfl) fun _ =>
      spares_bind (spares_ofExcept _) fun _ => spares_bind (spares_modify fun _ => rfl) fun _ =>
        spares_bind spares_publish fun _ => spares_snapshot)

theorem spares_reset : reset.Spares marks :=
  spares_guarded (spares_bind (spares_modify fun _ => rfl) fun _ => spares_bind spares_session fun _ =>
    spares_bind (Keep.spares_clear _) fun _ => spares_publish)

theorem spares_fetch : Reconcile.fetch.Spares marks := by
  refine spares_guarded (spares_bind spares_session fun x => ?_)
  cases x.resources with
  | some resources => exact spares_pure _
  | none =>
    refine spares_bind (spares_traced fun _ => ?_) fun _ => spares_bind (spares_modify fun _ => rfl)
      fun _ => spares_pure _
    exact spares_bind (spares_modify fun _ => rfl) fun _ => spares_bind Call.spares_readResources
      fun _ => spares_bind (spares_tag _ _ _) fun _ => spares_pure _

theorem spares_reconcile : reconcile.Spares marks :=
  spares_bind spares_session fun _ =>
    spares_ite (spares_bind (spares_fail _) fun _ => spares_guarded spares_fetch)
      (spares_guarded spares_fetch)

theorem spares_reconcileOnce : reconcileOnce.Spares marks := by
  refine spares_bind spares_session fun _ => spares_ite ?_ (spares_pure _)
  refine spares_rescue (spares_bind spares_fetch fun _ => spares_modify fun _ => rfl) fun f => ?_
  exact spares_ite (spares_bind (spares_modify fun _ => rfl) fun _ => spares_alarm _) (spares_fail _)

theorem spares_runHooks (phase : Phase) (hooks : List StopHook) : (runHooks phase hooks).Spares marks := by
  induction hooks with
  | nil => exact spares_pure _
  | cons hook rest ih =>
    refine spares_bind ?_ fun _ => ih
    cases hook with
    | polling => exact spares_perform _ rfl nofun nofun
    | configuration => exact spares_ite (spares_modify fun _ => rfl) (spares_pure _)
    | user number id fails =>
      exact spares_bind (spares_lift (spares_update fun _ => rfl)) fun _ =>
        spares_ite (spares_fail _) (spares_pure _)

theorem spares_complete : complete.Spares marks :=
  spares_bind (spares_modify fun _ => rfl) fun _ => spares_bind spares_session fun _ =>
    spares_bind (spares_runHooks _ _) fun _ => spares_bind spares_reconcileOnce fun _ =>
      spares_bind spares_session fun _ => spares_bind (Keep.spares_clear _) fun _ => spares_announce _ _

theorem spares_failRun (errorText : Value) : (failRun errorText).Spares marks :=
  spares_bind (spares_modify fun _ => rfl) fun _ => spares_bind spares_session fun _ =>
    spares_bind (spares_runHooks _ _) fun _ => spares_bind spares_session fun _ =>
      spares_bind (Keep.spares_clear _) fun _ => spares_alarm _

theorem spares_advance (report : Status) : (advance report).Spares marks := by
  refine spares_bind spares_session fun _ => spares_bind (spares_ofExcept _) fun a =>
    spares_bind (spares_modify fun _ => rfl) fun _ => ?_
  exact spares_ite (spares_bind (spares_announce _ _) fun _ => spares_pure _) (spares_pure _)

theorem spares_settle (a : RunState.Advance) : (settle a).Spares marks := by
  refine spares_bind spares_session fun _ => spares_ite spares_complete ?_
  exact spares_ite (spares_bind spares_reconcileOnce fun _ => spares_persist) spares_persist

theorem spares_applyActive (previous : Phase) (report : Status) :
    (applyActive previous report).Spares marks := by
  refine spares_ite (spares_bind (spares_failRun _) fun _ => spares_pure _) ?_
  refine spares_bind spares_snapshot fun _ => spares_bind (spares_advance report) fun a =>
    spares_bind spares_session fun _ => ?_
  exact spares_ite (spares_pure _) (spares_bind (spares_settle a) fun _ => spares_pure _)

theorem spares_apply (report : Status) : (apply report).Spares marks := by
  refine spares_guarded (spares_bind spares_session fun _ => spares_bind (spares_traced fun _ => ?_)
    fun ignored => ?_)
  · refine spares_ite (spares_bind (spares_applyActive _ _) fun _ => ?_)
      (spares_bind spares_snapshot fun _ => spares_pure _)
    exact spares_ite (spares_bind spares_session fun _ => spares_bind (spares_tag _ _ _) fun _ =>
      spares_pure _) (spares_pure _)
  · cases ignored with
    | some ignored => exact spares_pure _
    | none =>
      exact spares_bind spares_publish fun _ => spares_bind spares_snapshot fun _ => spares_pure _

theorem spares_close : close.Spares marks := spares_perform _ rfl nofun nofun

end Control

/-! ## The loop and the readers -/

namespace Poll

theorem spares_applyMarked (report : Status) : (applyMarked report).Spares true :=
  spares_bind (spares_lift (spares_mark fun _ => rfl)) fun _ =>
    spares_ensure (spares_bind (Control.spares_apply report) fun _ => spares_pure _)
      (spares_mark fun _ => rfl)

theorem spares_read (span : Nat) : (read span).Spares marks :=
  spares_rescue (spares_map Call.spares_readStatus) fun _ => spares_bind (spares_modify fun _ => rfl) fun _ =>
    spares_bind (spares_tag _ _ _) fun _ => spares_bind (spares_announce _ _) fun _ => spares_pure _

theorem spares_once : once.Spares true := by
  refine spares_bind (spares_modify fun _ => rfl) fun _ => spares_bind spares_session fun _ =>
    spares_traced fun id => spares_bind (spares_read id) fun report => ?_
  cases report with
  | some report => exact spares_applyMarked report
  | none => exact spares_pure _

theorem spares_onceOrReport : onceOrReport.Spares true := by
  refine spares_tryCatch spares_once fun e => ?_
  cases e with
  | cancelled => exact spares_throw _
  | fault f => exact spares_bind (spares_modify fun _ => rfl) fun _ => spares_announce _ _

/-- **A round of the poll loop starts no other loop.** -/
theorem spares_round : round.Spares true := by
  refine spares_bind (spares_bind spares_session fun _ => spares_pure _) fun raised =>
    spares_ite (spares_pure _) (spares_bind spares_session fun x => ?_)
  refine spares_bind (spares_perform (.watchLatch (durationOf x.interval)) rfl nofun nofun) fun w =>
    spares_bind (spares_unwrap w) fun _ => spares_bind spares_session fun _ => ?_
  exact spares_ite (spares_pure _) (spares_bind spares_onceOrReport fun _ => spares_pure _)

theorem spares_wait : wait.Spares marks := by
  refine spares_bind spares_session fun x => ?_
  cases x.pollTask with
  | none => exact spares_pure _
  | some task =>
    refine spares_bind (spares_perform (.join task) rfl nofun nofun) fun w => spares_bind (spares_unwrap w) fun r => ?_
    cases r with
    | ok _ => exact spares_pure _
    | error e => exact spares_throw e

end Poll

namespace Reader

theorem spares_leave (number : Nat) : (leave number).Spares marks := spares_modify fun _ => rfl

theorem spares_report (id : String) (state : Option RunState) : (report id state).Spares marks :=
  spares_lift (spares_update fun _ => rfl)

theorem spares_give (number : Nat) (id : String) (state : RunState) : (give number id state).Spares marks :=
  spares_bind (spares_report id _) fun _ => spares_ite (spares_bind (spares_bind (spares_leave number) fun _ =>
    spares_report id none) fun _ => spares_pure _) (spares_pure _)

theorem spares_begin (number : Nat) (id : String) (includeCurrent : Bool) :
    (begin number id includeCurrent).Spares marks := by
  refine spares_bind (spares_modify fun _ => rfl) fun _ =>
    spares_ite (spares_bind spares_session fun x => ?_) (spares_pure _)
  cases x.state.check with
  | ok s => exact spares_give number id s
  | error f => exact spares_bind (spares_leave number) fun _ => spares_fail f

theorem spares_round (number : Nat) (id : String) : (round number id).Spares marks := by
  refine spares_bind (spares_perform (.receive number) rfl nofun nofun) fun w => ?_
  split
  · exact spares_give number id _
  · exact spares_bind (spares_bind (spares_leave number) fun _ => spares_report id none) fun _ =>
      spares_pure _
  · exact spares_bind (spares_leave number) fun _ => spares_throw _

end Reader

/-- **The work in the background spares the poll loop.** -/
theorem Background.spares (b : Background) : b.begin.Spares true ∧ b.round.Spares true := by
  cases b with
  | pollLoop => exact ⟨Poll.spares_round, Poll.spares_round⟩
  | reader number id includeCurrent =>
    exact ⟨Reader.spares_begin number id includeCurrent, Reader.spares_round number id⟩

/-! ## Configuring -/

namespace Configure

theorem spares_modify (f : FragmentSet → FragmentSet) : (modify f).Spares marks := Op.spares_modify fun _ => rfl

theorem spares_trimmedName (name : Value) : (trimmedName name).Spares marks := by
  unfold trimmedName
  split
  · exact spares_pure _
  · exact spares_fail _

theorem spares_push (c : Call) : (push c).Spares marks := by
  have hcall : Spares marks (rescue (do
      c.write
      return true) fun f => do
        Op.announce f.message .error
        return false) :=
    spares_rescue (spares_bind (Call.spares_write c) fun _ => spares_pure _) fun _ =>
      spares_bind (spares_announce _ _) fun _ => spares_pure _
  exact spares_bind spares_session fun _ => spares_ite (spares_bind (spares_fail _) fun _ => hcall) hcall

theorem spares_setShared (sharded : Bool) (c : Call) (set : FragmentSet → FragmentSet) :
    (setShared sharded c set).Spares marks := by
  have hset (taken : Bool) : Spares marks (do
      if taken then modify set
      return taken) := spares_ite (spares_bind (spares_modify _) fun _ => spares_pure _) (spares_pure _)
  exact spares_ite (spares_bind (spares_push c) hset) (spares_bind (spares_pure _) hset)

theorem spares_finalizeShards : finalizeShards.Spares marks := by
  refine spares_bind spares_session fun _ => spares_bind (spares_ofExcept _) fun _ =>
    spares_bind (spares_traced fun _ => spares_push _) fun taken => ?_
  exact spares_ite (spares_bind (spares_modify _) fun _ => spares_pure _) (spares_pure _)

theorem spares_modifyWizard (f : Wizard → Wizard) : (modifyWizard f).Spares marks :=
  Op.spares_modify fun _ => rfl

theorem spares_reset : reset.Spares marks := Op.spares_modify fun _ => rfl

end Configure

open Configure in
theorem ConfigureAction.spares (a : ConfigureAction) : a.op.Spares marks := by
  have hname (flag : String → FragmentSet → FragmentSet) (name : Value) : Spares marks (do
      let name ← trimmedName name
      if name = "" then return false
      else
        Configure.modify (flag name)
        return true) :=
    spares_bind (spares_trimmedName name) fun name => spares_ite (spares_pure _)
      (spares_bind (Configure.spares_modify _) fun _ => spares_pure _)
  cases a with
  | target t transfer =>
    exact spares_map (spares_ite (spares_bind (Configure.spares_modify _) fun _ => spares_pure _)
      (spares_pure _))
  | sourceProfile name => exact spares_map (hname _ name)
  | targetProfile name => exact spares_map (hname _ name)
  | metadata path =>
    exact spares_map (spares_ite (spares_bind (Configure.spares_modify _) fun _ => spares_pure _)
      (spares_pure _))
  | streaming t sharded => exact spares_map (spares_setShared _ _ _)
  | staging t sharded => exact spares_map (spares_setShared _ _ _)
  | compute t sharded => exact spares_map (spares_setShared _ _ _)
  | shardEntry entry =>
    exact spares_map (spares_bind spares_session fun _ => spares_bind (spares_ofExcept _) fun _ =>
      spares_bind (spares_modifyWizard _) fun _ => spares_pure _)
  | shardText text =>
    exact spares_map (spares_bind spares_session fun _ => spares_bind (spares_modifyWizard _) fun _ =>
      spares_ofExcept _)
  | addShard shard =>
    exact spares_quietly (spares_bind spares_session fun _ => spares_bind (spares_ofExcept _) fun _ =>
      spares_modifyWizard _)
  | clearShards => exact spares_quietly (spares_modifyWizard _)
  | finalize => exact spares_map spares_finalizeShards
  | engine name => exact spares_bind (spares_modifyWizard _) fun _ => spares_pure _
  | isSet fragment => exact spares_bind spares_session fun _ => spares_pure _
  | reset => exact spares_quietly Configure.spares_reset
  | snapshot => exact spares_bind spares_session fun _ => spares_pure _

/-- The action may start polling. -/
def Action.starts : Action → Bool
  | whole .begin => true
  | whole (.launch _) => true
  | poll .start => true
  | poll (.submit _) => true
  | _ => false

/-- The action may stop polling. -/
def Action.stops : Action → Bool
  | whole .cancel => true
  | whole .abandon => true
  | whole .close => true
  | poll .stop => true
  | _ => false

/-! ## What goes on beside starting and stopping -/

namespace Launch

theorem spares_refuseSecond : refuseSecond.Spares marks :=
  spares_bind spares_session fun _ => spares_ite
    (spares_bind Control.spares_snapshot fun _ => spares_fail _) (spares_pure _)

theorem spares_send (r : Request) (span : Nat) : (send r span).Spares marks :=
  spares_rescue (Call.spares_write _) fun _ => spares_bind (spares_tag _ _ _) fun _ =>
    spares_bind (spares_announce _ _) fun _ => spares_fail _

theorem spares_assembled (o : Order) : (assembled o).Spares marks :=
  spares_bind spares_session fun _ => spares_traced fun _ => spares_ofExcept _

end Launch

theorem Conduct.spares_readSummary : readSummary.Spares marks := by
  refine spares_bind (spares_rescue (spares_map Call.spares_readSummary) fun _ =>
    spares_bind (spares_announce _ _) fun _ => spares_pure _) fun summary => ?_
  cases summary with
  | some summary => exact spares_modify fun _ => rfl
  | none => exact spares_pure _

/-! ## All other actions -/

theorem Conduct.spares_reconcileNow : reconcileNow.Spares marks := by
  refine spares_rescue Control.spares_reconcile fun f => ?_
  exact spares_ite (spares_bind (spares_alarm _) fun _ => spares_fail _) (spares_fail _)

theorem Reconcile.spares_forget : forget.Spares marks := spares_modify fun _ => rfl

theorem WholeAction.spares {a : WholeAction} (hstarts : (Action.whole a).starts = false)
    (hstops : (Action.whole a).stops = false) : a.op.Spares marks := by
  cases a with
  | reconcileNow => exact spares_map Conduct.spares_reconcileNow
  | page number size =>
    exact spares_map (spares_bind spares_session fun _ => spares_ofExcept _)
  | offers =>
    exact spares_bind spares_session fun _ => spares_bind (spares_ofExcept _) fun _ => spares_pure _
  | summary => exact spares_bind spares_session fun _ => spares_pure _
  | standing =>
    exact spares_bind Control.spares_snapshot fun _ => spares_bind spares_session fun _ => spares_pure _
  | kept => exact spares_bind spares_session fun _ => spares_pure _
  | forget => exact spares_quietly Reconcile.spares_forget
  | begin => cases hstarts
  | launch order => cases hstarts
  | cancel => cases hstops
  | abandon => cases hstops
  | close => cases hstops

theorem RunAction.spares (a : RunAction) : a.op.Spares marks := by
  cases a with
  | begin mode transfer shards instances => exact spares_map (Control.spares_begin _ _ _ _)
  | restore record => exact spares_map (Control.spares_restore record)
  | apply report => exact spares_map (Control.spares_apply report)
  | reset => exact spares_quietly Control.spares_reset
  | reconcile => exact spares_map Control.spares_reconcile
  | close => exact spares_quietly Control.spares_close

theorem PollAction.spares {a : PollAction} (hstarts : (Action.poll a).starts = false)
    (hstops : (Action.poll a).stops = false) : a.op.Spares true := by
  cases a with
  | requestStop => exact spares_quietly (spares_perform _ rfl nofun nofun)
  | wait => exact spares_quietly Poll.spares_wait
  | once => exact spares_quietly Poll.spares_once
  | start => cases hstarts
  | submit request => cases hstarts
  | stop => cases hstops

theorem NoticeAction.spares (a : NoticeAction) : a.op.Spares marks := by
  cases a with
  | visible =>
    exact spares_bind spares_site fun _ => spares_bind (spares_modify fun _ => rfl) fun _ => spares_pure _
  | dismiss id =>
    exact spares_bind spares_session fun _ => spares_bind (spares_ofExcept _) fun _ =>
      spares_bind (spares_modify fun _ => rfl) fun _ => spares_pure _

theorem StoreAction.spares (a : StoreAction) : a.op.Spares marks := by
  refine spares_bind spares_site fun x => ?_
  cases a with
  | load => exact spares_map (Keep.spares_load _)
  | save record => exact spares_quietly (Keep.spares_save _ _)
  | clear => exact spares_quietly (Keep.spares_clear _)
  | get name => exact spares_map (Keep.spares_getField _ _)
  | set name value => exact spares_quietly (Keep.spares_setField _ _ _)

theorem ServiceAction.spares (a : ServiceAction) : a.op.Spares marks := by
  cases a with
  | status => exact spares_map Call.spares_readStatus
  | resources => exact spares_map Call.spares_readResources
  | summary => exact spares_map Call.spares_readSummary
  | write call => exact spares_quietly (Call.spares_write call)
  | visit => exact spares_pure _

/-- **Whatever neither starts nor stops polling spares the loop.** -/
theorem Action.spares {a : Action} (hstarts : a.starts = false) (hstops : a.stops = false) :
    a.op.Spares true := by
  cases a with
  | whole a =>
    exact spares_bind spares_session fun _ => spares_ite
      (spares_bind (spares_fail _) fun _ => WholeAction.spares hstarts hstops)
      (WholeAction.spares hstarts hstops)
  | run a => exact RunAction.spares a
  | poll a => exact PollAction.spares hstarts hstops
  | configure a => exact ConfigureAction.spares a
  | notice a => exact NoticeAction.spares a
  | store a => exact StoreAction.spares a
  | service a => exact ServiceAction.spares a

end Cutover
