import Cutover.Proofs.Control.Alike
import Cutover.Proofs.Control.Applying
import Cutover.Proofs.RunState.Lawful
import Cutover.Proofs.RunState.Soundness

/-!
# What a session holds of the resources

A report asks for the resources when it takes the run to the foreign keys, and when it completes the run and no
stop hook fails. What comes of that depends on what the session keeps, on the mark of the run and on the
answer, and on nothing else.

* `Holding`: what is kept, what was counted and how the run is marked;
* `Holding.fetched`, `Holding.reconciled`: what comes of a fetch, and of one for the run;
* `callsFor`: a run that goes from one phase to another calls for the resources;
* `Core.holding_apply`: **what a report does about the resources**;
* `Core.leads_apply`: a report takes a run to a phase that may come.
-/

namespace Cutover

/-- What a session holds of the resources: those it keeps, the fetches it counted, and the mark of its run. -/
structure Holding where
  kept : Option (List Resource)
  counted : Nat
  mark : Value

namespace Holding

/-- The resources are fetched, unless they are kept. -/
def fetched (o : Outcome) (h : Holding) : Holding :=
  match h.kept with
  | some _ => h
  | none =>
    match o.resources with
    | .ok items => { h with kept := some items, counted := h.counted + 1 }
    | .error _ => { h with counted := h.counted + 1 }

/-- The resources are fetched for a run that is not marked, which is marked if there are any. -/
def reconciled (o : Outcome) (h : Holding) : Holding :=
  if h.mark.isTruthy then h
  else if (h.fetched o).kept.isSome then { h.fetched o with mark := .bool true }
  else h.fetched o

variable {o : Outcome} {h : Holding} {items : List Resource} {f : Fault}

theorem fetched_some (hkept : h.kept = some items) : h.fetched o = h := by rw [fetched, hkept]

theorem fetched_ok (hkept : h.kept = none) (ho : o.resources = .ok items) :
    h.fetched o = { h with kept := some items, counted := h.counted + 1 } := by
  simp only [fetched, hkept, ho]

theorem fetched_error (hkept : h.kept = none) (ho : o.resources = .error f) :
    h.fetched o = { h with counted := h.counted + 1 } := by
  simp only [fetched, hkept, ho]

theorem reconciled_marked (hmark : h.mark.isTruthy = true) : h.reconciled o = h := if_pos hmark

theorem reconciled_some (hmark : h.mark.isTruthy = false) (hkept : h.kept = some items) :
    h.reconciled o = { h with mark := .bool true } := by
  simp [reconciled, hmark, fetched_some hkept, hkept]

theorem reconciled_ok (hmark : h.mark.isTruthy = false) (hkept : h.kept = none) (ho : o.resources = .ok items) :
    h.reconciled o = ⟨some items, h.counted + 1, .bool true⟩ := by
  simp [reconciled, hmark, fetched_ok hkept ho]

theorem reconciled_error (hmark : h.mark.isTruthy = false) (hkept : h.kept = none) (ho : o.resources = .error f) :
    h.reconciled o = { h with counted := h.counted + 1 } := by
  simp [reconciled, hmark, fetched_error hkept ho, hkept]

end Holding

/-- **A run that goes from one phase to another calls for the resources** when it comes to apply foreign keys, and
when it is complete and no stop hook fails. -/
def callsFor (hooks : List StopHook) (before after : Phase) : Bool :=
  before ≠ after && (after = .foreignKeys || after = .complete && !hooks.any StopHook.fails)

theorem callsFor_self (hooks : List StopHook) (p : Phase) : callsFor hooks p p = false := by simp [callsFor]

namespace Core

variable {c : Core} {k : Conditions} {o : Outcome} {report : Status} {a : RunState.Advance}

/-- What the session of a core holds of the resources. -/
def holding (c : Core) : Holding := ⟨c.session.resources, c.session.fetchCount, c.session.state.reconciled⟩

theorem holding_of_session {d : Core} (h : d.session = c.session) : d.holding = c.holding := by
  rw [holding, h, holding]

theorem holding_persist (c : Core) : c.persist.core.holding = c.holding := holding_of_session (session_persist c)

theorem holding_clear (c : Core) : c.clear.core.holding = c.holding := holding_of_session (session_clear c)

theorem holding_runHooks (phase : Phase) (hooks : List StopHook) (c : Core) :
    (c.runHooks phase hooks).core.holding = c.holding :=
  runHooks_same phase hooks c fun c h => runHook_same phase c h (fun _ => rfl) (fun _ => rfl) fun _ _ => rfl

theorem holding_concluded (previous : Phase) (c : Core) : (c.concluded previous).core.holding = c.holding := by
  rw [core_concluded]

/-! ## Fetching -/

theorem holding_fetch (o : Outcome) (c : Core) : (c.fetch o).core.holding = c.holding.fetched o := by
  cases hkept : c.session.resources with
  | some items => rw [Holding.fetched_some (h := c.holding) hkept, fetch, hkept, giving_core]
  | none =>
    cases ho : o.resources with
    | ok items =>
      rw [Holding.fetched_ok (h := c.holding) hkept ho]
      simp only [fetch, hkept, ho]
      rfl
    | error f =>
      rw [Holding.fetched_error (h := c.holding) hkept ho]
      simp only [fetch, hkept, ho]
      rfl

theorem kept_of_fetch_ok {items : List Resource} (h : (c.fetch o).result = .ok items) :
    (c.holding.fetched o).kept = some items := by
  cases hkept : c.session.resources with
  | some old =>
    rw [fetch, hkept] at h
    cases h
    rw [Holding.fetched_some (h := c.holding) hkept]
    exact hkept
  | none =>
    cases ho : o.resources with
    | ok new =>
      simp only [fetch, hkept, ho] at h
      cases h
      rw [Holding.fetched_ok (h := c.holding) hkept ho]
    | error f =>
      simp only [fetch, hkept, ho] at h
      cases h

theorem kept_of_fetch_error {f : Fault} (h : (c.fetch o).result = .error f) :
    (c.holding.fetched o).kept = none := by
  cases hkept : c.session.resources with
  | some old =>
    rw [fetch, hkept] at h
    cases h
  | none =>
    cases ho : o.resources with
    | ok new =>
      simp only [fetch, hkept, ho] at h
      cases h
    | error f =>
      rw [Holding.fetched_error (h := c.holding) hkept ho]
      exact hkept

theorem holding_reconcileOnce (o : Outcome) (hwhole : c.session.isBare = false) :
    (c.reconcileOnce o).core.holding = c.holding.reconciled o := by
  cases hmark : c.session.state.isReconciled with
  | true =>
    have hidle : c.isDue = false := by simp [isDue, hmark]
    rw [reconcileOnce_idle hidle, Holding.reconciled_marked (h := c.holding) hmark, giving_core]
  | false =>
    have hdue : c.isDue = true := by simp [isDue, hmark, hwhole]
    have hholding := holding_fetch o c
    have hreconciled : c.holding.reconciled o = if (c.holding.fetched o).kept.isSome then
        { c.holding.fetched o with mark := .bool true } else c.holding.fetched o :=
      if_neg (by rw [show c.holding.mark.isTruthy = false from hmark]; exact Bool.false_ne_true)
    cases hr : (c.fetch o).result with
    | ok items =>
      rw [reconcileOnce_ok hdue hr, hreconciled, kept_of_fetch_ok hr, ← hholding]
      rfl
    | error f =>
      rw [reconcileOnce_error hdue hr, hreconciled, kept_of_fetch_error hr, ← hholding]
      unfold fetchFailed
      split
      · split <;> rfl
      · rfl

/-! ## A report -/

theorem holding_failRun (errorText : Value) (c : Core) : (c.failRun errorText).core.holding = c.holding := by
  refine core_andThen (P := fun d => d.holding = c.holding) (holding_runHooks ..) fun _ _ => ?_
  exact (holding_clear _).trans (holding_runHooks ..)

/-- A run that is complete has its resources fetched, unless a stop hook fails. -/
theorem holding_complete (k : Conditions) (hwhole : c.session.isBare = false) :
    (c.complete k).core.holding =
      if c.session.hooks.any StopHook.fails then c.holding else c.holding.reconciled k.answer := by
  have hhooks : (c.stopped.runHooks .complete c.session.hooks).core.holding = c.holding := holding_runHooks ..
  have hresult := result_runHooks .complete c.session.hooks c.stopped
  rw [complete]
  cases hfails : c.session.hooks.any StopHook.fails with
  | true =>
    rw [hfails, if_pos rfl] at hresult
    rw [andThen_error hresult, if_pos rfl]
    exact hhooks
  | false =>
    rw [hfails, if_neg Bool.false_ne_true] at hresult
    rw [andThen_ok hresult, if_neg Bool.false_ne_true]
    have hbare : (c.stopped.runHooks .complete c.session.hooks).core.session.isBare = false :=
      (((kept_stopped c).trans (kept_runHooks ..)).isBare).trans hwhole
    have hfetched := holding_reconcileOnce k.answer hbare
    rw [hhooks] at hfetched
    refine core_andThen (P := fun d => d.holding = _) hfetched fun _ _ => ?_
    exact core_andThen (P := fun d => d.holding = _) ((holding_clear _).trans hfetched) fun _ _ =>
      (holding_clear _).trans hfetched

theorem holding_settle (k : Conditions) (a : RunState.Advance) (hwhole : c.session.isBare = false)
    (hphase : c.session.state.phase ≠ .complete) :
    (c.settle k a).core.holding = if a.reconciles then c.holding.reconciled k.answer else c.holding := by
  rw [settle, if_neg hphase]
  split
  · have hfetched := holding_reconcileOnce k.answer hwhole
    exact core_andThen (P := fun d => d.holding = _) hfetched fun _ _ => (holding_persist _).trans hfetched
  · exact holding_persist c

theorem reconciles_iff {s : RunState} {mode : Option Mode} {q : Quantity} (h : RunState.Course s mode q a) :
    a.reconciles = true ↔ s.phase ≠ a.state.phase ∧ a.state.phase = .foreignKeys ∧ s.isReconciled = false := by
  cases h with
  | startsForeignKeys hbefore =>
    have hphase : s.phase ≠ .foreignKeys := fun h => by
      rw [h] at hbefore
      cases hbefore
    show (!s.isReconciled) = true ↔ s.phase ≠ .foreignKeys ∧ Phase.foreignKeys = .foreignKeys ∧ _
    simp [hphase]
  | stays | raisesSchema | raisesData | raisesForeignKeys => exact ⟨nofun, fun h => absurd rfl h.1⟩
  | _ => exact ⟨nofun, fun h => nomatch h.2.1⟩

theorem holding_of_course {mode : Option Mode} {q : Quantity} (h : RunState.Course c.session.state mode q a) :
    (c.moved a).holding = c.holding := by
  show Holding.mk _ _ a.state.reconciled = _
  rw [h.reconciled]
  rfl

/-- A run that goes on without being complete calls for the resources as the course says. -/
theorem holding_settled (hwhole : c.session.isBare = false) {mode : Option Mode} {q : Quantity}
    (hcourse : RunState.Course c.session.state mode q a) (hphase : a.state.phase ≠ .complete) (k : Conditions) :
    ((c.moved a).settle k a).core.holding =
      if callsFor c.session.hooks c.session.state.phase a.state.phase then c.holding.reconciled k.answer
      else c.holding := by
  have hsettled := holding_settle (c := c.moved a) k a hwhole hphase
  rw [hsettled, holding_of_course hcourse]
  cases hcalls : callsFor c.session.hooks c.session.state.phase a.state.phase with
  | false =>
    cases hr : a.reconciles with
    | false => rfl
    | true =>
      obtain ⟨hne, hforeign, -⟩ := (reconciles_iff hcourse).mp hr
      rw [hforeign] at hne hcalls
      simp [callsFor, hne] at hcalls
  | true =>
    simp only [callsFor, hphase, decide_false, Bool.false_and, Bool.or_false, Bool.and_eq_true,
      decide_eq_true_eq] at hcalls
    cases hmark : c.session.state.isReconciled with
    | true =>
      rw [Holding.reconciled_marked (h := c.holding) hmark]
      split <;> rfl
    | false =>
      rw [(reconciles_iff hcourse).mpr ⟨hcalls.1, hcalls.2, hmark⟩]

theorem holding_moved (hwhole : c.session.isBare = false) (hactive : c.session.state.phase.isActive = true)
    (ha : c.course report = .ok a) :
    (((c.told k a).andThen fun _ d => d.settle k a).andThen fun _ e =>
      e.concluded c.session.state.phase).core.holding =
        if callsFor c.session.hooks c.session.state.phase a.state.phase then c.holding.reconciled k.answer
        else c.holding := by
  obtain ⟨q, -, hcourse⟩ := RunState.Course.of_advance hactive ha
  have hconcluded : (((c.told k a).andThen fun _ d => d.settle k a).andThen fun _ e =>
      e.concluded c.session.state.phase).core.holding =
        ((c.told k a).andThen fun _ d => d.settle k a).core.holding :=
    core_andThen (P := fun d => d.holding = _) rfl fun _ _ => holding_concluded ..
  rw [hconcluded]
  by_cases hphase : a.state.phase = .complete
  · have hquiet : a.provisions = false := by
      cases hp : a.provisions with
      | false => rfl
      | true => cases (hcourse.provisioning hp).symm.trans hphase
    have htold : c.told k a = (c.moved a).giving () := by
      rw [told, hquiet]
      rfl
    have hcomplete : (c.moved a).settle k a = (c.moved a).complete k := if_pos hphase
    have hleft : c.session.state.phase ≠ .complete := fun h => by
      rw [h] at hactive
      cases hactive
    rw [htold, andThen_giving, hcomplete, holding_complete (c := c.moved a) k hwhole, holding_of_course hcourse, hphase]
    show (if c.session.hooks.any StopHook.fails then _ else _) = _
    cases hfails : c.session.hooks.any StopHook.fails with
    | true => simp [callsFor, hfails]
    | false => simp [callsFor, hfails, hleft]
  · cases hr : (c.told k a).result with
    | ok _ =>
      rw [andThen_ok hr]
      exact holding_settled hwhole hcourse hphase k
    | error f =>
      -- Only provisioning is told, and it calls for nothing.
      have hprovisions : a.provisions = true := by
        cases hp : a.provisions with
        | true => rfl
        | false =>
          rw [told, hp] at hr
          cases hr
      rw [andThen_error hr, hcourse.provisioning hprovisions]
      have hquiet : callsFor c.session.hooks c.session.state.phase .provisioning = false := by simp [callsFor]
      rw [hquiet]
      exact holding_of_course hcourse

/-- **What a report does about the resources**: a run that comes to apply foreign keys, or is complete with every
stop hook called, has them reconciled, and any other report leaves them alone. -/
theorem holding_apply (hsound : c.session.state.Sound) (hwhole : c.session.isBare = false) (k : Conditions)
    (report : Status) :
    (c.apply k report).core.holding =
      if callsFor c.session.hooks c.session.state.phase (c.apply k report).core.session.state.phase then
        c.holding.reconciled k.answer
      else c.holding := by
  refine apply_cases (P := fun t => t.core.holding =
    if callsFor c.session.hooks c.session.state.phase t.core.session.state.phase then
      c.holding.reconciled k.answer else c.holding) hsound ?idle ?failure ?refused ?same ?moves
  case idle =>
    intro _
    rw [giving_core, callsFor_self]
    rfl
  case failure =>
    intro _ _
    have hcore : ((c.failRun report.errorText).andThen fun _ d => d.concluded c.session.state.phase).core =
        (c.failRun report.errorText).core := core_andThen (P := fun d => d = _) rfl fun _ _ => core_concluded ..
    have hphase : (c.session.state.afterFailure c.session.mode report.errorText).phase = .failed := rfl
    rw [hcore, state_failRun, holding_failRun, hphase]
    simp [callsFor]
  case refused =>
    intro _ _ f _
    rw [failing_core, callsFor_self]
    rfl
  case same =>
    intro _ _ a _ _
    rw [giving_core, callsFor_self]
    rfl
  case moves =>
    intro hactive _ a ha _
    obtain ⟨v, -, hstate⟩ := state_moved (k := k) hactive ha
    have hphase : (((c.told k a).andThen fun _ d => d.settle k a).andThen fun _ e =>
        e.concluded c.session.state.phase).core.session.state.phase = a.state.phase := by
      rw [hstate]
      split <;> rfl
    rw [hphase]
    exact holding_moved hwhole hactive ha

/-! ## The phase and the state after a report -/

theorem leads_apply (hsound : c.session.state.Sound) :
    c.session.state.phase.Leads (c.apply k report).core.session.state.phase := by
  have hcourse : ∀ {a}, c.session.state.phase.isActive = true → c.course report = .ok a →
      c.session.state.phase.Leads a.state.phase := by
    intro a hactive ha
    obtain ⟨q, -, hq⟩ := RunState.Course.of_advance hactive ha
    exact hq.leads hactive
  refine state_apply (P := fun s => c.session.state.phase.Leads s.phase) hsound (.refl _)
    (fun hactive _ => .inr ⟨hactive, hactive⟩) ?_ ?_
  · exact fun hactive a ha _ v _ => hcourse hactive ha
  · exact fun hactive a ha _ v _ => hcourse hactive ha

theorem sound_apply (hsound : c.session.state.Sound) : (c.apply k report).core.session.state.Sound := by
  refine state_apply (P := RunState.Sound) hsound hsound (fun _ _ => hsound.afterFailure _ _) ?_ ?_
  · intro _ a ha _ v _
    have h := hsound.advance ha
    exact ⟨h.schema, h.data, h.foreignKeys, h.error⟩
  · intro _ a ha _ v _
    have h := (hsound.advance ha).stopped
    exact ⟨h.schema, h.data, h.foreignKeys, h.error⟩

theorem core_of_unchanged {t : Transition} (hsound : c.session.state.Sound)
    (hok : (c.apply k report).result = .ok t) (hchanged : t.changed = false) : (c.apply k report).core = c := by
  have hconcluded : ∀ d : Core, (d.concluded c.session.state.phase).result ≠ .ok t := by
    intro d hr
    obtain ⟨_, -, hrest⟩ := of_andThen_ok hr
    have heq : d.concluded c.session.state.phase = _ := hrest
    rw [heq] at hr
    cases hr
    cases hchanged
  revert hok
  refine apply_cases (P := fun u => u.result = .ok t → u.core = c) hsound ?idle ?failure ?refused ?same ?moves
  case idle => exact fun _ _ => rfl
  case failure =>
    intro _ _ hok
    obtain ⟨_, -, hrest⟩ := of_andThen_ok hok
    exact absurd (hrest ▸ hok) (hconcluded _)
  case refused => exact fun _ _ _ _ hok => nomatch hok
  case same => exact fun _ _ _ _ _ _ => rfl
  case moves =>
    intro _ _ a _ _ hok
    obtain ⟨_, -, hrest⟩ := of_andThen_ok hok
    exact absurd (hrest ▸ hok) (hconcluded _)

end Core

end Cutover
