import Cutover.Proofs.Record.RoundTrip
import Cutover.Proofs.RunState.Lawful
import Cutover.Proofs.Work.Accord

/-!
# Operations on the run are lawful

Whenever an operation on the run waits, the state of the run is lawful, and so is every state that
others find. What work may do to the phase from one wait to the next is what the table of phases
allows, unless it begins a run, takes one up or forgets one.

* `RunView`, `Accord.lawful`: what is seen of a session, and what all work keeps to;
* `Accord.Saved`: the records of lawful sessions;
* `Accord.keeps_begin`, `Accord.keeps_restore`, `Accord.keeps_reset`, `Accord.keeps_apply`: operations
  on the run keep to it.
-/

namespace Cutover

/-- What is seen of a session: its run and the resources it keeps. -/
structure RunView where
  state : RunState
  mode : Option Mode
  resources : Option (List Resource)

/-- What is seen of a session. -/
def Session.runView (s : Session) : RunView := ⟨s.state, s.mode, s.resources⟩

/-- The resources that an answer holds are as `shown` says. -/
def Answer.Shows (shown : List Resource → Prop) (a : Answer) : Prop :=
  ∀ m, a.toShardMap = .ok m → shown (flattenResources m)

/-- **What all work on a run keeps to.** The state is lawful, and the resources are as `shown` says if
those are that the service answers. -/
def Accord.lawful (shown : List Resource → Prop) : Accord RunView where
  view := Session.runView
  holds v := v.state.Lawful v.mode ∧ ∀ resources, v.resources = some resources → shown resources
  may v v' := v.state.phase.Leads v'.state.phase
  answers m o := (∀ f, o = .failed f → f.isUnsound = false) ∧
    (m = Call.getResources.message → ∀ a, o = .answered a → a.Shows shown)
  exits e := ∀ f, e = .fault f → f.isUnsound = false
  gives r := ∀ resources, r = .resources resources ∨ r = .kept (some resources) → shown resources
  blind _ _ _ _ _ _ := rfl
  may_refl _ := .refl _
  may_trans := Phase.Leads.trans
  exits_cancelled := nofun
  gives_nothing := nofun
  exits_sound hf _ h := by
    cases h
    exact hf
  exits_failed h := fun _ hf => h.1 _ (by cases hf; rfl)

namespace Accord

variable {shown : List Resource → Prop} {anew : Bool} {α : Type} {p : α → Prop}
  {s : Stretch RunView}

/-- The record that a session in a lawful state stores. -/
def Saved (r : Record) : Prop := ∃ s : Session, s.state.Lawful s.mode ∧ r = s.record

theorem state_of_view {x : Session} {v : RunView} (h : x.runView = v) : x.state = v.state := by
  rw [← h]
  rfl

/-! ## Snapshots, storing and publishing -/

theorem keeps_snapshot : (lawful shown).Keeping anew Control.snapshot := by
  refine keeps_bind keeps_session fun x hx => keeps_ofExcept (fun _ _ => trivial) fun f hf => ?_
  have hcheck : x.state.check = .ok x.state := hx.1.sound.check_eq
  rw [hcheck] at hf
  cases hf

theorem keeps_publish : (lawful shown).Keeping anew Control.publish :=
  keeps_bind keeps_snapshot fun s _ => (keeps_perform (.publish (some s)) rfl).keeping

theorem keeps_persist : (lawful shown).Keeping anew Control.persist :=
  keeps_bind keeps_session fun s _ => keeps_save s.store s.record

/-! ## Beginning, restoring and forgetting -/

/-- What is done behind the gate when a run begins. -/
def launching (mode : Mode) (transfer : Transfer) (shards instances : Value) : Op RunState := do
  let s ← Op.session
  if s.state.isRunning then Op.failClient (.alreadyRunning s.state.phase)
  Op.modify fun s =>
    { s with
      state := .launched mode
      mode := some mode
      transfer := some transfer
      shardCount := shards
      instanceCount := instances
      lastFailure := none
      lastFetchFault := none }
  Control.persist
  Control.publish
  Control.snapshot

/-- What is kept of resources is as `shown` says. -/
def Shown (shown : List Resource → Prop) (v : RunView) : Prop :=
  ∀ resources, v.resources = some resources → shown resources

/-- **A run begins lawfully** in any state that is not running, lawful or not. -/
theorem meets_launching {mode : Mode} {transfer : Transfer} {shards instances : Value}
    (hshown : Shown shown s.now)
    (hrunning : s.now.state.isRunning = true → (lawful shown).Settled true s) :
    (launching mode transfer shards instances).Meets ((lawful shown).contract true)
      ((lawful shown).Well true fun _ => True) s := by
  refine Op.meets_bind.mpr (meets_session fun x hx => ?_)
  have hstate : x.state = s.now.state := state_of_view hx
  by_cases hr : s.now.state.isRunning = true
  · have hsettled := hrunning hr
    simp only [Op.after_ok, hstate, hr, if_true]
    exact meets_then (p := fun _ => False) (keeps_fail rfl _ hsettled) fun _ => False.elim
  · simp only [Op.after_ok, hstate, hr]
    refine Op.meets_bind.mpr (meets_modify (fun v => ⟨.launched mode, some mode, v.resources⟩)
      (fun _ => rfl) ?_)
    refine keeps_bind keeps_persist (fun _ _ => keeps_bind keeps_publish fun _ _ => keeps_snapshot) _ ?_
    exact ⟨⟨RunState.lawful_launched mode, hshown⟩, .inl rfl⟩

theorem keeps_begin (mode : Mode) (transfer : Transfer) (shards instances : Value) :
    (lawful shown).Keeping true (Control.begin mode transfer shards instances) :=
  keeps_guarded fun _ hs => meets_launching hs.holds.2 fun _ => hs

/-- What is done behind the gate when a run is taken up. -/
def restoring (r : Record) : Op RunState := do
  let state ← Op.ofExcept r.toState
  Op.modify fun s => { s with state }
  let mode ← Op.ofExcept r.readMode
  Op.modify fun s => { s with mode }
  let transfer ← Op.ofExcept r.readTransfer
  Op.modify fun s =>
    { s with transfer, shardCount := r.shardCount, instanceCount := r.instanceCount }
  Control.publish
  Control.snapshot

/-- **A run that was saved is taken up lawfully** in any state. -/
theorem meets_restoring {r : Record} (hr : Saved r) (hshown : Shown shown s.now) :
    (restoring r).Meets ((lawful shown).contract true) ((lawful shown).Well true fun _ => True) s := by
  obtain ⟨saved, hlawful, rfl⟩ := hr
  have hstate : saved.record.toState = .ok saved.state := Record.toState_ofState hlawful.sound
  have hmode : saved.record.readMode = .ok saved.mode := Record.readMode_ofState
  have htransfer : saved.record.readTransfer = .ok saved.transfer := Record.readTransfer_ofState
  -- Nothing waits before the state and the mode are both there.
  rw [restoring, hstate, Op.meets_bind]
  refine Op.meets_ofExcept.mpr (Op.meets_bind.mpr ?_)
  refine meets_modify (fun v => ⟨saved.state, v.mode, v.resources⟩) (fun _ => rfl) ?_
  rw [Op.after_ok, hmode, Op.meets_bind]
  refine Op.meets_ofExcept.mpr (Op.meets_bind.mpr ?_)
  refine meets_modify (fun v => ⟨v.state, saved.mode, v.resources⟩) (fun _ => rfl) ?_
  rw [Op.after_ok, htransfer, Op.meets_bind]
  refine Op.meets_ofExcept.mpr (Op.meets_bind.mpr ?_)
  refine meets_modify_blind (fun _ => rfl) ?_
  refine keeps_bind keeps_publish (fun _ _ => keeps_snapshot) _ ?_
  exact ⟨⟨hlawful, hshown⟩, .inl rfl⟩

theorem keeps_restore {r : Record} (hr : Saved r) : (lawful shown).Keeping true (Control.restore r) :=
  keeps_guarded fun _ hs => meets_restoring hr hs.holds.2

theorem keeps_reset : (lawful shown).Keeping true Control.reset := by
  refine keeps_guarded (keeps_bind (keeps_modify fun x hx => ?_) fun _ _ => ?_)
  · exact ⟨⟨RunState.lawful_default none, hx.2⟩, .inl rfl⟩
  · exact keeps_bind keeps_session fun x _ => keeps_bind (keeps_clear x.store) fun _ _ => keeps_publish

/-! ## Fetching the resources -/

/-- **Resources that are fetched are those that the service answers**, or were kept. -/
theorem keeps_fetch : (lawful shown).Keeps anew shown Reconcile.fetch := by
  refine keeps_guarded (keeps_bind keeps_session fun x hx => ?_)
  cases hres : x.resources with
  | some resources => exact keeps_pure (hx.2 resources hres)
  | none =>
    refine keeps_bind (p := shown) ?_ fun resources hresources => ?_
    · refine keeps_traced fun span => keeps_bind (keeps_modify_blind fun _ => rfl) fun _ _ => ?_
      refine keeps_bind keeps_readResources fun m hm => ?_
      obtain ⟨a, ha, hm⟩ := hm
      exact keeps_bind (keeps_tag _ _ _) fun _ _ => keeps_pure (ha.2 rfl a rfl m hm)
    · refine keeps_bind (keeps_modify fun x hx => ⟨⟨hx.1, ?_⟩, .inr (.refl _)⟩) fun _ _ =>
        keeps_pure hresources
      intro other hother
      cases hother
      exact hresources

theorem keeps_reconcile : (lawful shown).Keeps anew shown Control.reconcile := by
  refine keeps_bind keeps_session fun x _ => ?_
  exact keeps_ite (fun _ => keeps_bind (p := fun _ => False) (keeps_fail rfl) nofun) fun _ =>
    keeps_guarded keeps_fetch

theorem keeps_reconcileOnce : (lawful shown).Keeping anew Control.reconcileOnce := by
  refine keeps_bind keeps_session fun x _ => keeps_ite (fun _ => ?_) fun _ => keeps_pure trivial
  refine keeps_rescue (keeps_bind keeps_fetch fun _ _ => ?_) fun f => keeps_ite (fun _ => ?_) fun _ => ?_
  · exact keeps_modify fun y hy => ⟨⟨hy.1.marked _, hy.2⟩, .inr (.refl _)⟩
  · exact keeps_bind (keeps_modify_blind fun _ => rfl) fun _ _ => keeps_alarm _
  · exact keeps_fail rfl

/-! ## The end of a run -/

theorem keeps_runHooks (phase : Phase) (hooks : List StopHook) :
    (lawful shown).Keeping anew (Control.runHooks phase hooks) := by
  induction hooks with
  | nil => exact keeps_pure trivial
  | cons hook rest ih =>
    refine keeps_bind (p := fun _ => True) ?_ fun _ _ => ih
    cases hook with
    | polling => exact (keeps_perform .raiseLatch rfl).keeping
    | configuration =>
      exact keeps_ite (fun _ => keeps_modify_blind fun _ => rfl) fun _ => keeps_pure trivial
    | user number id fails =>
      exact keeps_bind (keeps_update fun _ => rfl) fun _ _ =>
        keeps_ite (fun _ => keeps_fail rfl) fun _ => keeps_pure trivial

/-- **A run that is complete is lawful** once it is no longer in progress; nothing waits before. -/
theorem meets_complete (hlawful : ({ s.now.state with inProgress := .bool false } : RunState).Lawful
      s.now.mode) (hshown : Shown shown s.now)
    (hgranted : (lawful shown).Grants anew s.start s.now) :
    Control.complete.Meets ((lawful shown).contract anew)
      ((lawful shown).Well anew fun _ => True) s := by
  refine Op.meets_bind.mpr (meets_modify
    (fun v => ⟨{ v.state with inProgress := .bool false }, v.mode, v.resources⟩) (fun _ => rfl) ?_)
  refine keeps_bind keeps_session (fun x _ => keeps_bind (keeps_runHooks _ _) fun _ _ =>
    keeps_bind keeps_reconcileOnce fun _ _ => keeps_bind keeps_session fun y _ =>
      keeps_bind (keeps_clear _) fun _ _ => keeps_announce _ _) _ ?_
  exact ⟨⟨hlawful, hshown⟩, hgranted.trans (.inr (.refl _))⟩

theorem leads_failed {q : Phase} (h : q.isActive = true) : q.Leads .failed := .inr ⟨h, h⟩

/-- **A run that fails is lawful still.** -/
theorem meets_failRun {errorText : Value} (hs : (lawful shown).Settled anew s)
    (hactive : s.now.state.phase.isActive = true) (herror : errorText.isTruthy = true) :
    (Control.failRun errorText).Meets ((lawful shown).contract anew)
      ((lawful shown).Well anew fun _ => True) s := by
  refine Op.meets_bind.mpr (meets_modify
    (fun v => ⟨v.state.afterFailure v.mode errorText, v.mode, v.resources⟩) (fun _ => rfl) ?_)
  refine keeps_bind keeps_session (fun x _ => keeps_bind (keeps_runHooks _ _) fun _ _ =>
    keeps_bind keeps_session fun y _ => keeps_bind (keeps_clear _) fun _ _ => keeps_alarm _) _ ?_
  exact ⟨⟨hs.holds.1.afterFailure herror, hs.holds.2⟩,
    hs.granted.trans (.inr (leads_failed hactive))⟩

/-! ## Status reports -/

theorem meets_snapshot {Q : Except Exit RunState → Stretch RunView → Prop}
    (hs : (lawful shown).Settled anew s) (hQ : Q (.ok s.now.state) s) :
    Control.snapshot.Meets ((lawful shown).contract anew) Q s := by
  refine Op.meets_bind.mpr (meets_session fun x hx => Op.meets_ofExcept.mpr ?_)
  rw [state_of_view hx, hs.holds.1.sound.check_eq]
  exact hQ

theorem advance_error {t : RunState} {mode : Option Mode} {transfer : Option Transfer}
    {report : Status} {f : Fault} (hactive : t.phase.isActive = true)
    (h : t.advance mode transfer report = .error f) : f = .illTyped := by
  cases hq : report.clamped? with
  | none =>
    rw [RunState.advance, hq] at h
    cases h
    rfl
  | some q =>
    obtain ⟨a, ha, -⟩ := RunState.advance_course mode transfer hactive hq
    rw [ha] at h
    cases h

theorem isPercentage_of_clamped? {report : Status} {q : Quantity} (h : report.clamped? = some q) :
    q.isPercentage = true := by
  obtain ⟨p, -, rfl⟩ := Option.map_eq_some_iff.mp h
  exact p.isPercentage_clamped

/-- What is seen once the state has moved on. -/
def moved (a : RunState.Advance) (v : RunView) : RunView := ⟨a.state, v.mode, v.resources⟩

theorem settled_moved {a : RunState.Advance} {q : Quantity} (hs : (lawful shown).Settled anew s)
    (hactive : s.now.state.phase.isActive = true) (hq : q.isPercentage = true)
    (hcourse : RunState.Course s.now.state s.now.mode q a) (ha : a.state.phase.isActive = true) :
    (lawful shown).Settled anew { s with now := moved a s.now } :=
  ⟨⟨hcourse.lawful_of_active hs.holds.1 hactive hq ha, hs.holds.2⟩,
    hs.granted.trans (.inr (hcourse.leads hactive))⟩

/-- **A state that has moved on is settled lawfully.** One that is still active is lawful already; a
complete one is before anything waits. -/
theorem meets_settle {a : RunState.Advance} {q : Quantity} (hs : (lawful shown).Settled anew s)
    (hactive : s.now.state.phase.isActive = true) (hq : q.isPercentage = true)
    (hcourse : RunState.Course s.now.state s.now.mode q a) :
    (Control.settle a).Meets ((lawful shown).contract anew) ((lawful shown).Well anew fun _ => True)
      { s with now := moved a s.now } := by
  have hgranted : (lawful shown).Grants anew s.start (moved a s.now) :=
    hs.granted.trans (.inr (hcourse.leads hactive))
  have hlawful := hcourse.lawful hs.holds.1 hactive hq
  refine Op.meets_bind.mpr (meets_session fun x hx => ?_)
  rw [Op.after_ok, state_of_view hx]
  show Op.Meets _ _ (if a.state.phase = .complete then _ else _) _
  split
  next hcomplete =>
    rw [hcomplete] at hlawful
    exact meets_complete hlawful hs.holds.2 hgranted
  next hgoing =>
    have ha : a.state.phase.isActive = true :=
      (hcourse.isActive_or_complete hactive).resolve_right hgoing
    exact keeps_ite (fun _ => keeps_bind keeps_reconcileOnce fun _ _ => keeps_persist)
      (fun _ => keeps_persist) _ (settled_moved hs hactive hq hcourse ha)

/-- **A report is applied lawfully** in an active phase. -/
theorem meets_applyActive {previous : Phase} {report : Status} (hs : (lawful shown).Settled anew s)
    (hactive : s.now.state.phase.isActive = true) :
    (Control.applyActive previous report).Meets ((lawful shown).contract anew)
      ((lawful shown).Well anew fun _ => True) s := by
  unfold Control.applyActive
  split
  next hfailure =>
    exact meets_then (meets_failRun hs hactive hfailure) fun _ _ => keeps_pure trivial
  next =>
    refine Op.meets_bind.mpr (meets_snapshot hs ?_)
    refine Op.meets_bind.mpr (Op.meets_bind.mpr (meets_session fun x hx => ?_))
    have hstate : x.state = s.now.state := state_of_view hx
    have hmode : x.mode = s.now.mode := by
      rw [← hx]
      rfl
    rw [Op.after_ok, hstate, hmode]
    refine Op.meets_bind.mpr (Op.meets_ofExcept.mpr ?_)
    -- The report takes one of its courses, or its progress is no number.
    cases ha : s.now.state.advance s.now.mode x.transfer report with
    | error f =>
      obtain rfl := advance_error hactive ha
      exact ⟨hs, (lawful shown).exits_sound rfl⟩
    | ok a =>
      obtain ⟨q, hq, hcourse⟩ := RunState.Course.of_advance hactive ha
      have hpercentage := isPercentage_of_clamped? hq
      refine Op.meets_bind.mpr (meets_modify (moved a) (fun _ => rfl) ?_)
      -- What looks the same is the same; anything else is settled.
      have hrest : (do
          if (← Op.session).state.sameAs s.now.state then return some ⟨previous, s.now.state, false⟩
          else
            Control.settle a
            return none : Op (Option Transition)).Meets ((lawful shown).contract anew)
              ((lawful shown).Well anew fun _ => True) { s with now := moved a s.now } := by
        refine Op.meets_bind.mpr (meets_session fun y hy => ?_)
        rw [Op.after_ok, state_of_view hy]
        show Op.Meets _ _ (if a.state.sameAs s.now.state = true then _ else _) _
        split
        next hsame =>
          have hback : moved a s.now = s.now := by
            rw [moved, hcourse.eq_of_sameAs hsame]
          rw [hback]
          exact ⟨hs, trivial⟩
        next => exact meets_then (meets_settle hs hactive hpercentage hcourse) fun _ _ => keeps_pure trivial
      rw [Op.after_ok]
      show Op.Meets _ _ (if a.provisions = true then _ else _) _
      split
      next hprovisions =>
        have hphase := hcourse.provisioning hprovisions
        have hmoved := settled_moved hs hactive hpercentage hcourse (by rw [hphase]; rfl)
        exact Op.meets_bind.mpr (meets_announce hrest fun f hf =>
          ⟨hmoved, (lawful shown).exits_sound hf⟩)
      next => exact hrest

/-- **A report is applied lawfully.** -/
theorem keeps_apply (report : Status) : (lawful shown).Keeping anew (Control.apply report) := by
  refine keeps_guarded fun s hs => Op.meets_bind.mpr (meets_session fun x hx => ?_)
  rw [Op.after_ok, state_of_view hx]
  -- Between the look at the phase and what depends on it nothing waits.
  have htraced : (Op.traced (Control.applySpan x report)
      (Control.applyTraced s.now.state.phase report)).Meets ((lawful shown).contract anew)
        ((lawful shown).Well anew fun _ => True) s := by
    refine meets_traced fun span => ?_
    unfold Control.applyTraced
    split
    next hactive =>
      refine meets_then (meets_applyActive hs hactive) fun result _ => ?_
      exact keeps_ite (fun _ => keeps_bind keeps_session fun _ _ => keeps_bind (keeps_tag _ _ _)
        fun _ _ => keeps_pure trivial) fun _ => keeps_pure trivial
    next => exact keeps_bind keeps_snapshot (fun _ _ => keeps_pure trivial) _ hs
  refine meets_then htraced fun ignored _ => ?_
  cases ignored with
  | some ignored => exact keeps_pure trivial
  | none => exact keeps_bind keeps_publish fun _ _ => keeps_bind keeps_snapshot fun _ _ => keeps_pure trivial

end Accord

end Cutover
