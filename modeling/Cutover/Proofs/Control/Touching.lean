import Cutover.Proofs.Work.Touching
import Cutover.Session.Action
import Cutover.Session.Background

/-!
# What can be asked touches

Everything that can be asked of a session touches a few things, and what goes on in the background does
as well. The lists are those of the whole action, however it goes.

* `Concern.ofReport`: what a report touches;
* `Poll.upholds_round`: a round of polling upholds what a report upholds;
* `Background.concerns`, `Background.touches`: the work in the background;
* `Action.concerns`, `Action.touches`: **every action touches its concerns** and nothing else.
-/

namespace Cutover

open Op

variable {cs : List Concern}

namespace Concern

/-- What fetching the resources touches. -/
def ofFetch : List Concern := [resources, counts, gate .fetch, call .resources]

/-- What a report touches that is applied. -/
def ofReport : List Concern :=
  [run, resources, counts, configuration, board, storage, hookCalls, gate .state, gate .fetch, call .resources]

/-- What a poll touches. -/
def ofPoll : List Concern := applying :: call .status :: ofReport

end Concern

open Concern (ofFetch ofReport ofPoll)

/-! ## The run -/

theorem Reconcile.touches_fetch : fetch.Touches ofFetch := by
  refine touches_guarded (by decide) (touches_bind touches_session fun x => ?_)
  cases x.resources with
  | some resources => exact touches_pure _
  | none =>
    refine touches_bind (touches_traced fun _ => touches_bind ?_ fun _ => ?_) fun _ =>
      touches_bind ?_ fun _ => touches_pure _
    · refine touches_modifyOne .counts (by decide) (fun _ => rfl) (fun _ => rfl) fun x d hd => ?_
      cases d <;> first | rfl | trivial
    · exact touches_bind (Call.touches_readResources.mono (by decide)) fun _ =>
        touches_bind (touches_tag _ _ _) fun _ => touches_pure _
    · refine touches_modifyOne .resources (by decide) (fun _ => rfl) (fun _ => rfl) fun x d hd => ?_
      cases d <;> first | rfl | trivial

theorem Reconcile.touches_forget : forget.Touches [.resources] := by
  refine touches_modifyOne .resources (by decide) (fun _ => rfl) (fun _ => rfl) fun x d hd => ?_
  cases d <;> first | rfl | trivial

theorem Configure.touches_change {f : Session → Session} (hc : .configuration ∈ cs)
    (hf : ∀ s, ∃ fragments wizard, f s = { s with fragments, wizard }) : (Op.modify f).Touches cs := by
  refine touches_modifyOne .configuration hc (fun s => ?_) (fun s => ?_) fun x d hd => ?_
  · obtain ⟨_, _, h⟩ := hf s
    rw [h]
    rfl
  · obtain ⟨_, _, h⟩ := hf s
    rw [h]
    rfl
  · obtain ⟨_, _, h⟩ := hf x.session
    rw [Site.onSession, h]
    cases d <;> first | rfl | trivial

namespace Control

theorem touches_snapshot : snapshot.Touches cs := touches_bind touches_session fun _ => touches_ofExcept _

theorem touches_publish : publish.Touches cs :=
  touches_bind touches_snapshot fun _ => touches_perform _ rfl trivial

theorem touches_persist : persist.Touches [.storage] :=
  touches_bind touches_session fun _ => Keep.touches_save _ _

theorem touches_begin (mode : Mode) (transfer : Transfer) (shards instances : Value) :
    (begin mode transfer shards instances).Touches [.run, .storage, .gate .state] := by
  refine touches_guarded (by decide) (touches_bind touches_session fun x => ?_)
  refine touches_unless (b := ()) (touches_bind (touches_step (by decide) fun s => ?_) fun _ => ?_)
  · exact .launched mode transfer shards instances
  · exact touches_bind (touches_persist.mono (by decide)) fun _ => touches_bind touches_publish
      fun _ => touches_snapshot

theorem touches_restore (r : Record) : (restore r).Touches [.run, .gate .state] := by
  refine touches_guarded (by decide) (touches_given fun state hstate => ?_)
  refine touches_bind (touches_step (by decide) fun _ => .restored hstate) fun _ => ?_
  refine touches_given fun mode hmode => ?_
  refine touches_bind (touches_step (by decide) fun _ => .restoredMode hmode) fun _ => ?_
  refine touches_given fun transfer htransfer => ?_
  refine touches_bind (touches_step (by decide) fun _ => .restoredTransfer htransfer) fun _ => ?_
  exact touches_bind touches_publish fun _ => touches_snapshot

theorem touches_reset : reset.Touches [.run, .storage, .gate .state] :=
  touches_guarded (by decide) (touches_bind (touches_step (by decide) fun _ => .forgotten) fun _ =>
    touches_bind touches_session fun _ => touches_bind ((Keep.touches_clear _).mono (by decide)) fun _ =>
      touches_publish)

theorem touches_reconcile : reconcile.Touches (.gate .state :: ofFetch) :=
  touches_bind touches_session fun _ =>
    touches_unless (b := ()) (touches_guarded (by decide) (Reconcile.touches_fetch.mono (by decide)))

theorem touches_reconcileOnce : reconcileOnce.Touches ofReport := by
  refine touches_bind touches_session fun _ => touches_ite ?_ (touches_pure _)
  refine touches_rescue (touches_bind (Reconcile.touches_fetch.mono (by decide)) fun _ => ?_) fun f => ?_
  · exact touches_step (by decide) fun _ => .reconciled
  · refine touches_ite (touches_bind (touches_step (by decide) fun _ => ?_) fun _ => ?_) (touches_fail _)
    · exact .fetchFailed f
    · exact (touches_alarm _).mono (by decide)

theorem touches_runHooks (phase : Phase) (hooks : List StopHook) :
    (runHooks phase hooks).Touches [.configuration, .hookCalls] := by
  induction hooks with
  | nil => exact touches_pure _
  | cons hook rest ih =>
    refine touches_bind ?_ fun _ => ih
    cases hook with
    | polling => exact touches_perform _ rfl trivial
    | configuration =>
      exact touches_ite (Configure.touches_change (by decide) fun _ => ⟨_, _, rfl⟩) (touches_pure _)
    | user number id fails =>
      refine touches_bind (touches_lift (touches_update fun x => ?_)) fun _ =>
        touches_ite (touches_fail _) (touches_pure _)
      refine .of_one .hookCalls (by decide) rfl rfl fun d hd => ?_
      cases d <;> first | rfl | trivial

theorem touches_complete : complete.Touches ofReport :=
  touches_bind (touches_step (by decide) fun _ => .completed) fun _ => touches_bind touches_session fun _ =>
    touches_bind ((touches_runHooks _ _).mono (by decide)) fun _ => touches_bind touches_reconcileOnce
      fun _ => touches_bind touches_session fun _ =>
        touches_bind ((Keep.touches_clear _).mono (by decide)) fun _ => (touches_announce _ _).mono (by decide)

theorem touches_failRun (errorText : Value) :
    (failRun errorText).Touches [.run, .configuration, .board, .storage, .hookCalls] :=
  touches_bind (touches_step (by decide) fun _ => .failed errorText) fun _ =>
    touches_bind touches_session fun _ => touches_bind ((touches_runHooks _ _).mono (by decide)) fun _ =>
      touches_bind touches_session fun _ => touches_bind ((Keep.touches_clear _).mono (by decide)) fun _ =>
        (touches_alarm _).mono (by decide)

theorem touches_advance (report : Status) : (advance report).Touches ofReport := by
  refine fun x => meets_thenLooked (meets_bind.mpr (meets_ofExcept.mpr ?_))
  cases hadvance : x.session.state.advance x.session.mode x.session.transfer report with
  | error f => exact trivial
  | ok a =>
    refine meets_thenTouches (meets_lift.mpr (meets_updateTouches ?_)) fun _ => ?_
    · exact .of_step (by decide) (.advanced hadvance) rfl rfl rfl
    · exact touches_ite (touches_bind ((touches_announce _ _).mono (by decide)) fun _ => touches_pure _)
        (touches_pure _)

theorem touches_settle (a : RunState.Advance) : (settle a).Touches ofReport := by
  refine touches_bind touches_session fun _ => touches_ite touches_complete ?_
  exact touches_ite (touches_bind touches_reconcileOnce fun _ => touches_persist.mono (by decide))
    (touches_persist.mono (by decide))

theorem touches_applyActive (previous : Phase) (report : Status) :
    (applyActive previous report).Touches ofReport := by
  refine touches_ite (touches_bind ((touches_failRun _).mono (by decide)) fun _ => touches_pure _) ?_
  refine touches_bind touches_snapshot fun _ => touches_bind (touches_advance report) fun a =>
    touches_bind touches_session fun _ => ?_
  exact touches_ite (touches_pure _) (touches_bind (touches_settle a) fun _ => touches_pure _)

theorem touches_apply (report : Status) : (apply report).Touches ofReport := by
  refine touches_guarded (by decide) (touches_bind touches_session fun _ => touches_bind (touches_traced fun _ => ?_)
    fun ignored => ?_)
  · refine touches_ite (touches_bind (touches_applyActive _ _) fun _ => ?_)
      (touches_bind touches_snapshot fun _ => touches_pure _)
    exact touches_ite (touches_bind touches_session fun _ => touches_bind (touches_tag _ _ _) fun _ =>
      touches_pure _) (touches_pure _)
  · cases ignored with
    | some ignored => exact touches_pure _
    | none =>
      exact touches_bind touches_publish fun _ => touches_bind touches_snapshot fun _ => touches_pure _

theorem touches_close : close.Touches cs := touches_perform _ rfl trivial

end Control

/-! ## The loop and the readers -/

namespace Poll

theorem changes_mark (hc : .applying ∈ cs) (x : Site) (applying : Bool) :
    x.Changes cs (x.onSession fun s => { s with applying }) := by
  refine .of_one .applying hc rfl rfl fun d hd => ?_
  cases d <;> first | rfl | trivial

theorem touches_applyMarked (report : Status) : (applyMarked report).Touches ofPoll :=
  touches_bind (touches_modify fun x => changes_mark (by decide) x true) fun _ =>
    touches_ensure (touches_bind ((Control.touches_apply report).mono (by decide)) fun _ => touches_pure _)
      (touches_update fun x => changes_mark (by decide) x false)

theorem touches_countFailure (hc : .counts ∈ cs) :
    (Op.modify fun s => { s with failureCount := s.failureCount + 1 }).Touches cs := by
  refine touches_modifyOne .counts hc (fun _ => rfl) (fun _ => rfl) fun x d hd => ?_
  cases d <;> first | rfl | trivial

/-- What a poll touches before and after a report is applied. -/
def aside : List Concern := [.counts, .board, .call .status]

theorem touches_read (span : Nat) : (read span).Touches aside :=
  touches_rescue (touches_map (Call.touches_readStatus.mono (by decide))) fun _ =>
    touches_bind (touches_countFailure (by decide)) fun _ => touches_bind (touches_tag _ _ _) fun _ =>
      touches_bind ((touches_announce _ _).mono (by decide)) fun _ => touches_pure _

theorem touches_countPoll (hc : .counts ∈ cs) :
    (Op.modify fun s => { s with pollCount := s.pollCount + 1 }).Touches cs := by
  refine touches_modifyOne .counts hc (fun _ => rfl) (fun _ => rfl) fun x d hd => ?_
  cases d <;> first | rfl | trivial

theorem touches_once : once.Touches ofPoll := by
  refine touches_bind (touches_countPoll (by decide)) fun _ => touches_bind touches_session fun _ =>
    touches_traced fun id => touches_bind ((touches_read id).mono (by decide)) fun report => ?_
  cases report with
  | some report => exact touches_applyMarked report
  | none => exact touches_pure _

theorem touches_reportFault (hcs : [.counts, .board] ⊆ cs) :
    Touches cs (do
      Op.modify fun s => { s with failureCount := s.failureCount + 1 }
      announce ProgressText.pollFailed .error) :=
  touches_bind (touches_countFailure (hcs (by decide))) fun _ =>
    (touches_announce _ _).mono fun _ hc => hcs (List.mem_cons_of_mem _ hc)

theorem touches_onceOrReport : onceOrReport.Touches ofPoll := by
  refine touches_tryCatch touches_once fun e => ?_
  cases e with
  | cancelled => exact touches_throw _
  | fault f => exact touches_reportFault (by decide)

theorem touches_round : round.Touches ofPoll := by
  refine touches_bind (touches_bind touches_session fun _ => touches_pure _) fun raised =>
    touches_ite (touches_pure _) (touches_bind touches_session fun x => ?_)
  refine touches_bind (touches_perform (.watchLatch (durationOf x.interval)) rfl trivial) fun w =>
    touches_bind (touches_unwrap w) fun _ => touches_bind touches_session fun _ => ?_
  exact touches_ite (touches_pure _) (touches_bind touches_onceOrReport fun _ => touches_pure _)

section
variable {σ : Type} {C : Contract σ} {site : σ → Site} {I : σ → Prop}

theorem upholds_applyMarked (hosts : Hosts C site I [.applying])
    (happly : ∀ report, (Control.apply report).Upholding C I) (report : Status) :
    (applyMarked report).Upholding C I :=
  upholds_bind ((touches_modify fun x => changes_mark List.mem_cons_self x true).upholds hosts) fun _ _ =>
    upholds_ensure (upholds_bind (happly report) fun _ _ => upholds_pure trivial)
      (Work.Touches.upholds (touches_update fun x => changes_mark List.mem_cons_self x false) hosts)

variable (hosts : Hosts C site I aside) (happly : ∀ report, (applyMarked report).Upholding C I)
include hosts happly

/-- **A poll upholds what its report upholds**, if nothing breaks it that is done beside that. -/
theorem upholds_once : once.Upholding C I := by
  refine upholds_bind ((touches_countPoll (by decide)).upholds hosts) fun _ _ =>
    upholds_bind (touches_session.upholds hosts) fun _ _ => hosts.upholds_traced fun id =>
      upholds_bind ((touches_read id).upholds hosts) fun report _ => ?_
  cases report with
  | some report => exact happly report
  | none => exact upholds_pure trivial

/-- **So does a round of the loop.** -/
theorem upholds_round : round.Upholding C I := by
  have honce : onceOrReport.Upholding C I := by
    refine upholds_tryCatch (upholds_once hosts happly) fun e => ?_
    cases e with
    | cancelled => exact upholds_throw _
    | fault f => exact (touches_reportFault (by decide)).upholds hosts
  refine upholds_bind (upholds_bind (touches_session.upholds hosts) fun _ _ => upholds_pure (p := fun _ => True) trivial)
    fun raised _ => upholds_ite (fun _ => upholds_pure trivial) fun _ =>
      upholds_bind (touches_session.upholds hosts) fun x _ => ?_
  refine upholds_bind ((touches_perform (.watchLatch (durationOf x.interval)) rfl trivial).upholds hosts) fun w _ =>
    upholds_bind ((touches_unwrap w).upholds hosts) fun _ _ => upholds_bind (touches_session.upholds hosts) fun _ _ => ?_
  exact upholds_ite (fun _ => upholds_pure trivial) fun _ => upholds_bind honce fun _ _ => upholds_pure trivial

end

theorem touches_isRunning : isRunning.Touches cs := by
  refine touches_bind touches_session fun x => ?_
  cases x.pollTask with
  | none => exact touches_pure _
  | some t => exact touches_bind (touches_perform (.hasEnded t) rfl trivial) fun _ => touches_pure _

theorem touches_start : start.Touches [.loop] := by
  refine touches_bind touches_isRunning fun _ => touches_ite (touches_bind ?_ fun _ => ?_) (touches_pure _)
  · refine touches_modifyOne .loop (by decide) (fun _ => rfl) (fun _ => rfl) fun x d hd => ?_
    cases d <;> first | rfl | trivial
  · refine touches_bind (touches_perform (.fork .pollLoop) rfl ⟨rfl, List.mem_cons_self⟩) fun task => ?_
    refine touches_modifyOne .loop (by decide) (fun _ => rfl) (fun _ => rfl) fun x d hd => ?_
    cases d <;> first | rfl | trivial

theorem touches_joinQuietly (task : Nat) : (joinQuietly task).Touches [.loop] := by
  refine touches_bind (touches_perform (.join task) rfl List.mem_cons_self) fun w => ?_
  split
  · exact touches_fail _
  · exact touches_pure _

theorem touches_stop : stop.Touches [.loop] := by
  refine touches_bind (touches_perform .raiseLatch rfl trivial) fun _ => touches_bind touches_session
    fun x => ?_
  cases x.pollTask with
  | none => exact touches_pure _
  | some task =>
    have hforget : Touches [.loop] (Op.modify fun s => { s with pollTask := none }) := by
      refine touches_modifyOne .loop (by decide) (fun _ => rfl) (fun _ => rfl) fun x d hd => ?_
      cases d <;> first | rfl | trivial
    have hjoin := touches_bind (touches_joinQuietly task) fun _ => hforget
    refine touches_bind (touches_perform (.hasEnded task) rfl trivial) fun _ => touches_ite ?_ hforget
    refine touches_bind touches_session fun _ => touches_ite (touches_bind ?_ fun _ => hjoin) hjoin
    exact touches_perform (.cancel task) rfl List.mem_cons_self

theorem touches_wait : wait.Touches [.loop] := by
  refine touches_bind touches_session fun x => ?_
  cases x.pollTask with
  | none => exact touches_pure _
  | some task =>
    refine touches_bind (touches_perform (.join task) rfl List.mem_cons_self) fun w =>
      touches_bind (touches_unwrap w) fun r => ?_
    cases r with
    | ok _ => exact touches_pure _
    | error e => exact touches_throw e

end Poll

namespace Reader

theorem touches_readers (f : List Stream → List Stream) :
    (Op.modify fun s => { s with streams := f s.streams }).Touches [.readers, .events] := by
  refine touches_modifyOne .readers (by decide) (fun _ => rfl) (fun _ => rfl) fun x d hd => ?_
  cases d <;> first | rfl | trivial

theorem touches_leave (number : Nat) : (leave number).Touches [.readers, .events] := touches_readers _

theorem touches_report (id : String) (state : Option RunState) : (report id state).Touches [.readers, .events] := by
  refine touches_lift (touches_update fun x => .of_one .events (by decide) rfl rfl fun d hd => ?_)
  cases d <;> first | rfl | trivial

theorem touches_give (number : Nat) (id : String) (state : RunState) :
    (give number id state).Touches [.readers, .events] :=
  touches_bind (touches_report id _) fun _ => touches_ite (touches_bind (touches_bind (touches_leave number)
    fun _ => touches_report id none) fun _ => touches_pure _) (touches_pure _)

theorem touches_begin (number : Nat) (id : String) (includeCurrent : Bool) :
    (begin number id includeCurrent).Touches [.readers, .events] := by
  have henter : (enter number id).Touches [.readers, .events] :=
    touches_readers fun readers => readers ++ [({ number, id } : Stream)]
  refine touches_bind henter fun _ => touches_ite (touches_bind touches_session fun x => ?_) (touches_pure _)
  cases x.state.check with
  | ok s => exact touches_give number id s
  | error f => exact touches_bind (touches_leave number) fun _ => touches_fail f

theorem touches_round (number : Nat) (id : String) : (round number id).Touches [.readers, .events] := by
  refine touches_bind (touches_perform (.receive number) rfl trivial) fun w => ?_
  split
  · exact touches_give number id _
  · exact touches_bind (touches_bind (touches_leave number) fun _ => touches_report id none) fun _ =>
      touches_pure _
  · exact touches_bind (touches_leave number) fun _ => touches_throw _

end Reader

namespace Background

/-- What work in the background touches. -/
def concerns : Background → List Concern
  | pollLoop => ofPoll
  | reader .. => [.readers, .events]

/-- **The work in the background touches its concerns** and nothing else. -/
theorem touches (b : Background) : b.begin.Touches b.concerns ∧ b.round.Touches b.concerns := by
  cases b with
  | pollLoop => exact ⟨Poll.touches_round, Poll.touches_round⟩
  | reader number id includeCurrent =>
    exact ⟨Reader.touches_begin number id includeCurrent, Reader.touches_round number id⟩

end Background

/-! ## Configuring -/

namespace Configure

theorem touches_modify (f : FragmentSet → FragmentSet) (hc : .configuration ∈ cs) : (modify f).Touches cs :=
  touches_change hc fun _ => ⟨_, _, rfl⟩

theorem touches_modifyWizard (f : Wizard → Wizard) : (modifyWizard f).Touches [.configuration] :=
  touches_change (by decide) fun _ => ⟨_, _, rfl⟩

theorem touches_reset : reset.Touches [.configuration] :=
  touches_change (by decide) fun _ => ⟨_, _, rfl⟩

theorem touches_trimmedName (name : Value) : (trimmedName name).Touches cs := by
  unfold trimmedName
  split
  · exact touches_pure _
  · exact touches_fail _

theorem touches_setName (name : Value) (set : String → FragmentSet → FragmentSet) :
    Touches [.configuration] (do
      let name ← trimmedName name
      if name = "" then return false
      else
        modify (set name)
        return true) :=
  touches_bind (touches_trimmedName name) fun name => touches_ite (touches_pure _)
    (touches_bind (touches_modify _ (by decide)) fun _ => touches_pure _)

/-- What setting a shared fragment touches. -/
def concerns : List Concern := [.configuration, .board, .call .configuration]

theorem touches_push {c : Call} (hc : c.kind = .configuration) : (push c).Touches concerns := by
  refine touches_bind touches_session fun _ => touches_unless (b := ()) ?_
  refine touches_rescue (touches_bind ((Call.touches_write c).mono ?_) fun _ => touches_pure _) fun _ => ?_
  · rw [hc]
    decide
  · exact touches_bind ((touches_announce _ _).mono (by decide)) fun _ => touches_pure _

theorem touches_setShared (sharded : Bool) {c : Call} (hc : c.kind = .configuration)
    (set : FragmentSet → FragmentSet) : (setShared sharded c set).Touches concerns := by
  have hset (taken : Bool) : Touches concerns (do
      if taken then modify set
      return taken) :=
    touches_ite (touches_bind (touches_modify _ (by decide)) fun _ => touches_pure _) (touches_pure _)
  exact touches_ite (touches_bind (touches_push hc) hset) (touches_bind (touches_pure _) hset)

theorem touches_finalizeShards : finalizeShards.Touches concerns := by
  refine touches_bind touches_session fun x => touches_bind (touches_ofExcept _) fun _ =>
    touches_bind (touches_traced fun _ => touches_push rfl) fun taken => ?_
  exact touches_ite (touches_bind (touches_modify _ (by decide)) fun _ => touches_pure _) (touches_pure _)

end Configure

/-! ## Launching and conducting -/

namespace Launch

/-- What a launch touches. -/
def concerns : List Concern := [.launching, .run, .resources, .loop, .board, .storage, .gate .state, .call .launch]

theorem touches_refuseSecond : refuseSecond.Touches cs :=
  touches_bind touches_session fun _ => touches_ite
    (touches_bind Control.touches_snapshot fun _ => touches_fail _) (touches_pure _)

theorem touches_send (r : Request) (span : Nat) : (send r span).Touches [.board, .call .launch] :=
  have hwrite : (Call.submit r).write.Touches [.call .launch] := Call.touches_write (.submit r)
  touches_rescue (hwrite.mono (by decide)) fun _ => touches_bind (touches_tag _ _ _) fun _ =>
    touches_bind ((touches_announce _ _).mono (by decide)) fun _ => touches_fail _

theorem touches_assembled (o : Order) : (assembled o).Touches cs :=
  touches_bind touches_session fun _ => touches_traced fun _ => touches_ofExcept _

theorem touches_taken (r : Request) : Touches [.run, .resources, .loop, .storage, .gate .state] (do
    if !(← session).isBare then Reconcile.forget
    let count : Int := r.shards.length
    let state ← Control.begin r.mode r.transfer (.whole count) (.whole (max 1 count))
    Poll.start
    return state) := by
  have hbegin : Touches [.run, .resources, .loop, .storage, .gate .state] (do
      let count : Int := r.shards.length
      let state ← Control.begin r.mode r.transfer (.whole count) (.whole (max 1 count))
      Poll.start
      return state) :=
    touches_bind ((Control.touches_begin _ _ _ _).mono (by decide)) fun _ =>
      touches_bind (Poll.touches_start.mono (by decide)) fun _ => touches_pure _
  exact touches_bind touches_session fun _ => touches_ite
    (touches_bind (Reconcile.touches_forget.mono (by decide)) fun _ => hbegin) hbegin

theorem touches_submit (r : Request) : (submit r).Touches concerns :=
  touches_traced fun id => touches_bind ((touches_send r id).mono (by decide)) fun _ =>
    (touches_taken r).mono (by decide)

theorem changes_mark (hc : .launching ∈ cs) (x : Site) (launching : Bool) :
    x.Changes cs (x.onSession fun s => { s with launching }) := by
  refine .of_one .launching hc rfl rfl fun d hd => ?_
  cases d <;> first | rfl | trivial

theorem touches_request (r : Request) : (request r).Touches concerns :=
  touches_bind touches_refuseSecond fun _ =>
    touches_bind (touches_modify fun x => changes_mark (by decide) x true) fun _ =>
      touches_bind (touches_ensure (touches_submit r)
        (touches_update fun x => changes_mark (by decide) x false)) fun _ =>
        touches_bind ((touches_announce _ _).mono (by decide)) fun _ => touches_pure _

theorem touches_order (o : Order) : (order o).Touches concerns :=
  touches_bind touches_refuseSecond fun _ => touches_bind (touches_assembled o) touches_request

end Launch

namespace Conduct

/-- What beginning a session touches. -/
def concerns : List Concern :=
  [.summary, .configuration, .board, .storage, .run, .loop, .gate .state, .call .summary]

theorem touches_readSummary : readSummary.Touches concerns := by
  refine touches_bind (touches_rescue (touches_map (Call.touches_readSummary.mono (by decide))) fun _ =>
    touches_bind ((touches_announce _ _).mono (by decide)) fun _ => touches_pure _) fun summary => ?_
  cases summary with
  | none => exact touches_pure _
  | some summary =>
    refine touches_modify fun x => ⟨rfl, fun d hd => ?_, .inl rfl⟩
    cases d <;> first | rfl | trivial

theorem touches_begin : begin.Touches concerns := by
  refine touches_bind touches_readSummary fun _ => touches_bind touches_session fun x =>
    touches_bind ((Keep.touches_load _).mono (by decide)) fun r => ?_
  cases r with
  | none => exact Control.touches_snapshot
  | some r =>
    exact touches_ite (touches_bind ((Control.touches_restore r).mono (by decide)) fun _ =>
      touches_bind (Poll.touches_start.mono (by decide)) fun _ => touches_pure _) Control.touches_snapshot

theorem touches_abandon : abandon.Touches [.loop, .run, .storage, .configuration, .resources, .gate .state] :=
  touches_bind (Poll.touches_stop.mono (by decide)) fun _ =>
    touches_bind (Control.touches_reset.mono (by decide)) fun _ =>
      touches_bind (Configure.touches_reset.mono (by decide)) fun _ =>
        Reconcile.touches_forget.mono (by decide)

theorem touches_reconcileNow : reconcileNow.Touches (.board :: .gate .state :: ofFetch) := by
  refine touches_rescue (Control.touches_reconcile.mono (by decide)) fun f => ?_
  exact touches_ite (touches_bind ((touches_alarm _).mono (by decide)) fun _ => touches_fail _)
    (touches_fail _)

theorem touches_close : close.Touches [.loop] :=
  touches_bind Poll.touches_stop fun _ => Control.touches_close

end Conduct

/-! ## All actions -/

/-- What an action on the session as a whole touches. -/
def WholeAction.concerns : WholeAction → List Concern
  | begin => Conduct.concerns
  | launch _ => Launch.concerns
  | cancel | close => [.loop]
  | abandon => [.loop, .run, .storage, .configuration, .resources, .gate .state]
  | reconcileNow => .board :: .gate .state :: ofFetch
  | forget => [.resources]
  | page .. | offers | summary | standing | kept => []

/-- What an action on the run touches. -/
def RunAction.concerns : RunAction → List Concern
  | begin .. | reset => [.run, .storage, .gate .state]
  | restore _ => [.run, .gate .state]
  | apply _ => ofReport
  | reconcile => .gate .state :: ofFetch
  | close => []

/-- What an action on the poll loop touches. -/
def PollAction.concerns : PollAction → List Concern
  | start | stop | wait => [.loop]
  | requestStop => []
  | once => ofPoll
  | submit _ => Launch.concerns

/-- What an action on the configuration touches. -/
def ConfigureAction.concerns : ConfigureAction → List Concern
  | streaming .. | staging .. | compute .. | finalize => Configure.concerns
  | isSet _ | snapshot => []
  | _ => [.configuration]

/-- What an action on the store touches. -/
def StoreAction.concerns (_ : StoreAction) : List Concern := [.storage]

/-- What an action on the service touches. -/
def ServiceAction.concerns : ServiceAction → List Concern
  | status => [.call .status]
  | resources => [.call .resources]
  | summary => [.call .summary]
  | write call => [.call call.kind]
  | visit => []

/-- **What an action touches.** -/
def Action.concerns : Action → List Concern
  | whole a => a.concerns
  | run a => a.concerns
  | poll a => a.concerns
  | configure a => a.concerns
  | notice _ => [.board]
  | store a => a.concerns
  | service a => a.concerns

theorem WholeAction.touches (a : WholeAction) : a.op.Touches a.concerns := by
  cases a with
  | begin => exact touches_map Conduct.touches_begin
  | launch order => exact touches_map (Launch.touches_order order)
  | cancel => exact touches_quietly Poll.touches_stop
  | abandon => exact touches_quietly Conduct.touches_abandon
  | reconcileNow => exact touches_map Conduct.touches_reconcileNow
  | page number size => exact touches_map (touches_bind touches_session fun _ => touches_ofExcept _)
  | offers =>
    exact touches_bind touches_session fun _ => touches_bind (touches_ofExcept _) fun _ => touches_pure _
  | summary => exact touches_bind touches_session fun _ => touches_pure _
  | standing =>
    exact touches_bind Control.touches_snapshot fun _ => touches_bind touches_session fun _ => touches_pure _
  | close => exact touches_quietly Conduct.touches_close
  | kept => exact touches_bind touches_session fun _ => touches_pure _
  | forget => exact touches_quietly Reconcile.touches_forget

theorem RunAction.touches (a : RunAction) : a.op.Touches a.concerns := by
  cases a with
  | begin mode transfer shards instances => exact touches_map (Control.touches_begin _ _ _ _)
  | restore record => exact touches_map (Control.touches_restore record)
  | apply report => exact touches_map (Control.touches_apply report)
  | reset => exact touches_quietly Control.touches_reset
  | reconcile => exact touches_map Control.touches_reconcile
  | close => exact touches_quietly Control.touches_close

theorem PollAction.touches (a : PollAction) : a.op.Touches a.concerns := by
  cases a with
  | start => exact touches_quietly Poll.touches_start
  | stop => exact touches_quietly Poll.touches_stop
  | requestStop => exact touches_quietly (touches_perform _ rfl trivial)
  | wait => exact touches_quietly Poll.touches_wait
  | once => exact touches_quietly Poll.touches_once
  | submit request => exact touches_map (Launch.touches_request request)

open Configure in
theorem ConfigureAction.touches (a : ConfigureAction) : a.op.Touches a.concerns := by
  cases a with
  | target t transfer =>
    exact touches_map (touches_ite (touches_bind (touches_modify _ List.mem_cons_self) fun _ => touches_pure _)
      (touches_pure _))
  | sourceProfile name => exact touches_map (touches_setName name _)
  | targetProfile name => exact touches_map (touches_setName name _)
  | metadata path =>
    exact touches_map (touches_ite (touches_bind (touches_modify _ List.mem_cons_self) fun _ => touches_pure _)
      (touches_pure _))
  | streaming t sharded => exact touches_map (touches_setShared _ rfl _)
  | staging t sharded => exact touches_map (touches_setShared _ rfl _)
  | compute t sharded => exact touches_map (touches_setShared _ rfl _)
  | shardEntry entry =>
    exact touches_map (touches_bind touches_session fun _ => touches_bind (touches_ofExcept _) fun _ =>
      touches_bind (touches_modifyWizard _) fun _ => touches_pure _)
  | shardText text =>
    exact touches_map (touches_bind touches_session fun _ => touches_bind (touches_modifyWizard _) fun _ =>
      touches_ofExcept _)
  | addShard shard =>
    exact touches_quietly (touches_bind touches_session fun _ => touches_bind (touches_ofExcept _) fun _ =>
      touches_modifyWizard _)
  | clearShards => exact touches_quietly (touches_modifyWizard _)
  | finalize => exact touches_map touches_finalizeShards
  | engine name => exact touches_bind (touches_modifyWizard _) fun _ => touches_pure _
  | isSet fragment => exact touches_bind touches_session fun _ => touches_pure _
  | reset => exact touches_quietly Configure.touches_reset
  | snapshot => exact touches_bind touches_session fun _ => touches_pure _

theorem ttl_dismissValue {b : Board} {v : Value} {p : Board × Bool} (h : b.dismissValue v = .ok p) :
    p.1.ttl = b.ttl := by
  rw [Board.dismissValue] at h
  split at h
  · split at h
    · cases h
      rfl
    · cases h
      rfl
  · cases h

theorem NoticeAction.touches (a : NoticeAction) : a.op.Touches [.board] := by
  cases a with
  | visible =>
    exact touches_seen fun _ => meets_thenTouches (meets_reboard List.mem_cons_self rfl) fun _ => touches_pure _
  | dismiss id =>
    refine fun x => meets_thenLooked (meets_bind.mpr (meets_ofExcept.mpr ?_))
    cases hdismiss : x.session.board.dismissValue id with
    | error f => exact trivial
    | ok p => exact meets_thenTouches (meets_reboard List.mem_cons_self (ttl_dismissValue hdismiss)) fun _ => touches_pure _

theorem StoreAction.touches (a : StoreAction) : a.op.Touches a.concerns := by
  refine touches_bind touches_site fun x => ?_
  cases a with
  | load => exact touches_map (Keep.touches_load _)
  | save record => exact touches_quietly (Keep.touches_save _ _)
  | clear => exact touches_quietly (Keep.touches_clear _)
  | get name => exact touches_map (Keep.touches_getField _ _)
  | set name value => exact touches_quietly (Keep.touches_setField _ _ _)

theorem ServiceAction.touches (a : ServiceAction) : a.op.Touches a.concerns := by
  cases a with
  | status => exact touches_map Call.touches_readStatus
  | resources => exact touches_map Call.touches_readResources
  | summary => exact touches_map Call.touches_readSummary
  | write call => exact touches_quietly (Call.touches_write call)
  | visit => exact touches_pure _

/-- **Every action touches its concerns** and nothing else. -/
theorem Action.touches (a : Action) : a.op.Touches a.concerns := by
  cases a with
  | whole a => exact touches_bind touches_session fun _ => touches_unless (b := ()) (WholeAction.touches a)
  | run a => exact RunAction.touches a
  | poll a => exact PollAction.touches a
  | configure a => exact ConfigureAction.touches a
  | notice a => exact NoticeAction.touches a
  | store a => exact StoreAction.touches a
  | service a => exact ServiceAction.touches a

end Cutover
