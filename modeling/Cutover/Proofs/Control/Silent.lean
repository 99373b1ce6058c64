import Cutover.Proofs.Work.Contract
import Cutover.Session.Action

/-!
# Work that tells readers nothing

A call on the run does most of its work without a word to the readers: it looks at the site and changes it, goes
through gates, waits for the storage and for the service, and calls the stop hooks. Only then is a snapshot
published.

* `silent`: the contract of work that asks for nothing else;
* `Op.Silent`: an operation keeps to it, with lemmas for the parts that operations are made of;
* `Control.silent_applyTraced`: **a report is applied without a word to the readers**, whatever comes of it.
-/

namespace Cutover

/-- The effect is none that readers or other work in the background would notice. -/
def Effect.isSilent : Effect → Bool
  | look | change _ | acquire _ | release _ | sleep _ | storageTurn | send _ | raiseLatch => true
  | _ => false

/-- **The contract of work that asks only for such effects.** -/
def silent : Contract Unit where
  allows _ e := e.isSilent = true
  leads _ _ _ _ := True

namespace Op

variable {α β : Type} {p : α → Prop} {op : Op α}

/-- **An operation tells readers nothing**, and gives what `p` says. -/
abbrev Silently (p : α → Prop) (op : Op α) : Prop := op.Upholds silent (fun _ => True) p

/-- An operation that gives anything tells readers nothing. -/
abbrev Silent (op : Op α) : Prop := op.Silently fun _ => True

/-! ## Effects -/

theorem silent_perform {e : Effect} (he : e.isSilent = true) : (perform e).Silent :=
  fun _ _ => meets_perform.mpr ⟨he, fun _ _ _ => upheld_ok trivial trivial⟩

theorem silent_update (f : Site → Site) : (Work.update f).Upholds silent fun _ => True :=
  fun _ _ => ⟨rfl, fun _ _ _ => ⟨rfl, fun _ _ _ => trivial⟩⟩

theorem silent_site : site.Silent := silent_perform (e := .look) rfl

theorem silent_session : session.Silent := upholds_bind silent_site fun _ _ => upholds_pure trivial

theorem silent_modify (f : Session → Session) : (modify f).Silent := upholds_lift (silent_update _)

theorem silent_unwrap (r : Waited α) : (unwrap r).Silent := upholds_unwrap fun _ _ => trivial

theorem silent_ofExcept (r : Except Fault α) : (ofExcept r).Silent := upholds_ofExcept fun _ _ => trivial

theorem silent_sleep (d : Int) : (sleep d).Silent :=
  upholds_bind (silent_perform (e := .sleep d) rfl) fun r _ => silent_unwrap r

theorem silent_storageTurn : storageTurn.Silent :=
  upholds_bind (silent_perform (e := .storageTurn) rfl) fun r _ => silent_unwrap r

theorem silent_enter (g : GateName) : (enter g).Silent :=
  upholds_bind (silent_perform (e := .acquire g) rfl) fun r _ => silent_unwrap r

theorem silent_guarded {g : GateName} (h : op.Silently p) : (guarded g op).Silently p :=
  upholds_bind (silent_enter g) fun _ _ => upholds_ensure h fun _ _ => ⟨rfl, fun _ _ _ => trivial⟩

theorem silent_traced {s : Span} {w : Nat → Op α} (h : ∀ id, (w id).Silently p) : (traced s w).Silently p :=
  upholds_bind (p := fun _ => True)
    (upholds_lift fun _ _ => ⟨rfl, fun _ _ _ => ⟨rfl, fun _ _ _ => trivial⟩⟩) fun id _ =>
      upholds_ensure (h id) (silent_update _)

theorem silent_tag (id : Nat) (key : String) (value : Value) : (tag id key value).Silent :=
  upholds_lift (silent_update _)

theorem silent_announce (text : String) (level : Level) : (announce text level).Silent :=
  upholds_bind silent_site fun _ _ => upholds_bind (silent_modify _) fun _ _ =>
    upholds_bind (silent_ofExcept _) fun _ _ => upholds_pure trivial

theorem silent_alarm (message : Value) : (alarm message).Silent :=
  upholds_bind silent_site fun _ _ => silent_modify _

end Op

open Op

/-! ## Storage and service -/

namespace Keep

variable {α : Type}

theorem silent_transact (f : Storage → Except Fault α × Storage) : (transact f).Silent :=
  upholds_bind silent_storageTurn fun _ _ => upholds_bind silent_site fun x _ =>
    upholds_bind (silent_perform (e := .change { x with storage := (f x.storage).2 }) rfl) fun _ _ =>
      silent_ofExcept _

theorem silent_keep (operation : String) (f : Storage → Except Fault α × Storage) : (traced operation f).Silent :=
  upholds_bind silent_site fun _ _ => silent_traced fun _ => silent_transact f

theorem silent_obstacle (error : Option String) : (obstacle error).Silent := by
  cases error with
  | some text => exact upholds_fail _
  | none => exact upholds_pure trivial

theorem silent_save (store : Nat) (r : Record) : (save store r).Silent := by
  refine upholds_bind silent_site fun x _ => ?_
  have hrest : Silent (do
      obstacle ((← site).storage.faults store).saveError
      traced "save" fun s => s.save store r.encode) :=
    upholds_bind silent_site fun _ _ => upholds_bind (silent_obstacle _) fun _ _ => silent_keep _ _
  cases (x.storage.faults store).saveDelay with
  | some d => exact upholds_bind (silent_sleep d) fun _ _ => hrest
  | none => exact hrest

theorem silent_clear (store : Nat) : (clear store).Silent :=
  upholds_bind silent_site fun _ _ => upholds_bind (silent_obstacle _) fun _ _ => silent_keep _ _

end Keep

theorem Call.silent_send (c : Call) : c.send.Silent := by
  refine silent_traced fun _ => upholds_unless (b := ()) ?_
  refine upholds_bind (silent_perform (e := .send c.message) rfl) fun r _ =>
    upholds_bind (silent_unwrap r) fun o _ => ?_
  cases o with
  | answered a => exact upholds_bind (silent_tag _ _ _) fun _ _ => upholds_pure trivial
  | unreachable failure text => exact upholds_bind (silent_tag _ _ _) fun _ _ => upholds_fail _
  | failed f => exact upholds_fail f

theorem Call.silent_readResources : readResources.Silent := by
  refine upholds_rescue (upholds_bind (silent_send .getResources) fun a _ => ?_) fun _ => upholds_fail _
  cases a.toShardMap with
  | ok m => exact upholds_pure trivial
  | error f => exact upholds_fail _

theorem Reconcile.silent_fetch : fetch.Silent := by
  refine silent_guarded (upholds_bind silent_session fun s _ => ?_)
  cases s.resources with
  | some items => exact upholds_pure trivial
  | none =>
    refine upholds_bind (silent_traced fun _ => ?_) fun _ (_ : True) =>
      upholds_bind (silent_modify _) fun _ _ => upholds_pure trivial
    exact upholds_bind (silent_modify _) fun _ _ => upholds_bind Call.silent_readResources fun _ _ =>
      upholds_bind (silent_tag _ _ _) fun _ _ => upholds_pure trivial

/-! ## The run -/

namespace Control

theorem silent_snapshot : snapshot.Silent := upholds_bind silent_session fun _ _ => silent_ofExcept _

theorem silent_persist : persist.Silent := upholds_bind silent_session fun _ _ => Keep.silent_save _ _

theorem silent_reconcile : reconcile.Silent := by
  have hfetch : (guarded .state Reconcile.fetch).Silent := silent_guarded Reconcile.silent_fetch
  exact upholds_bind silent_session fun _ _ => upholds_unless (b := ()) hfetch

theorem silent_reconcileOnce : reconcileOnce.Silent := by
  refine upholds_bind silent_session fun _ _ => upholds_ite (fun _ => ?_) fun _ => upholds_pure trivial
  refine upholds_rescue (upholds_bind Reconcile.silent_fetch fun _ _ => silent_modify _) fun _ => ?_
  exact upholds_ite (fun _ => upholds_bind (silent_modify _) fun _ _ => silent_alarm _) fun _ => upholds_fail _

theorem silent_runHooks (phase : Phase) (hooks : List StopHook) : (runHooks phase hooks).Silent := by
  induction hooks with
  | nil => exact upholds_pure trivial
  | cons hook rest ih =>
    refine upholds_bind (p := fun _ => True) ?_ fun _ _ => ih
    cases hook with
    | polling => exact silent_perform (e := .raiseLatch) rfl
    | configuration => exact upholds_ite (fun _ => silent_modify _) fun _ => upholds_pure trivial
    | user number id fails =>
      exact upholds_bind (upholds_lift (silent_update _)) fun _ _ =>
        upholds_ite (fun _ => upholds_fail _) fun _ => upholds_pure trivial

theorem silent_complete : complete.Silent :=
  upholds_bind (silent_modify _) fun _ _ => upholds_bind silent_session fun _ _ =>
    upholds_bind (silent_runHooks _ _) fun _ _ => upholds_bind silent_reconcileOnce fun _ _ =>
      upholds_bind silent_session fun _ _ => upholds_bind (Keep.silent_clear _) fun _ _ => silent_announce _ _

theorem silent_failRun (errorText : Value) : (failRun errorText).Silent :=
  upholds_bind (silent_modify _) fun _ _ => upholds_bind silent_session fun _ _ =>
    upholds_bind (silent_runHooks _ _) fun _ _ => upholds_bind silent_session fun _ _ =>
      upholds_bind (Keep.silent_clear _) fun _ _ => silent_alarm _

theorem silent_advance (report : Status) : (advance report).Silent :=
  upholds_bind silent_session fun _ _ => upholds_bind (silent_ofExcept _) fun _ _ =>
    upholds_bind (silent_modify _) fun _ _ => upholds_ite
      (fun _ => upholds_bind (silent_announce _ _) fun _ _ => upholds_pure trivial) fun _ => upholds_pure trivial

theorem silent_settle (a : RunState.Advance) : (settle a).Silent :=
  upholds_bind silent_session fun _ _ => upholds_ite (fun _ => silent_complete) fun _ =>
    upholds_ite (fun _ => upholds_bind silent_reconcileOnce fun _ _ => silent_persist) fun _ => silent_persist

/-- What is ignored has changed nothing. -/
def Ignored (ignored : Option Transition) : Prop := ∀ t, ignored = some t → t.changed = false

theorem ignored_none : Ignored none := fun _ h => nomatch h

theorem ignored_some (previous : Phase) (state : RunState) : Ignored (some ⟨previous, state, false⟩) := by
  intro t ht
  rw [← Option.some.inj ht]

theorem silent_applyActive (previous : Phase) (report : Status) :
    (applyActive previous report).Silently Ignored := by
  refine upholds_ite (fun _ => upholds_bind (silent_failRun _) fun _ _ => upholds_pure ignored_none) fun _ => ?_
  refine upholds_bind silent_snapshot fun _ _ => upholds_bind (silent_advance report) fun a _ =>
    upholds_bind silent_session fun _ _ => upholds_ite (fun _ => upholds_pure (ignored_some _ _)) fun _ => ?_
  exact upholds_bind (silent_settle a) fun _ _ => upholds_pure ignored_none

/-- **What a report does within its span tells readers nothing.** -/
theorem silent_applyTraced (previous : Phase) (report : Status) (span : Nat) :
    (applyTraced previous report span).Silently Ignored := by
  refine upholds_ite (fun _ => upholds_bind (silent_applyActive _ _) fun ignored hignored => ?_) fun _ =>
    upholds_bind silent_snapshot fun _ _ => upholds_pure (ignored_some _ _)
  have hgives : (pure ignored : Op (Option Transition)).Silently Ignored := upholds_pure hignored
  exact upholds_ite (fun _ => upholds_bind silent_session fun _ _ =>
    upholds_bind (silent_tag _ _ _) fun _ _ => hgives) fun _ => hgives

end Control

end Cutover
