import Cutover.Proofs.Control.Agreement

/-!
# What a report does

A report that is applied to a sound state does one of five things: it is passed over outside of an
active phase, it fails the run, it is refused, it changes nothing, or the state moves on.

* `Core.apply_idle`, `Core.apply_failure`, `Core.apply_refused`, `Core.apply_same`, `Core.apply_moved`:
  one equation for each;
* `Core.apply_cases`: there is nothing else;
* `Core.state_apply`: what a report makes of the state.
-/

namespace Cutover

namespace Core

/-- The core of a run that has moved on. -/
def moved (c : Core) (a : RunState.Advance) : Core := c.onState fun _ => a.state

/-- The run has moved on, and the user is told of provisioning if the notice can be raised. -/
def told (k : Conditions) (a : RunState.Advance) (c : Core) : Turn Unit :=
  ⟨if a.provisions then k.notice else .ok (), c.moved a⟩

variable {c : Core} {k : Conditions} {report : Status} {a : RunState.Advance}

/-- Where the run would move on a report that is no failure. -/
abbrev course (c : Core) (report : Status) : Except Fault RunState.Advance :=
  c.session.state.advance c.session.mode c.session.transfer report

theorem snapshot_eq (h : c.session.state.Sound) : c.snapshot = c.giving c.session.state :=
  congrArg (Turn.mk · _) h.check_eq

theorem advance_refused {x : Except Fault Unit} {f : Fault} (h : c.course report = .error f) :
    c.advance x report = c.failing f := by
  unfold course at h
  rw [advance, h]

theorem advance_told (h : c.course report = .ok a) :
    c.advance k.notice report = (c.told k a).andThen fun _ d => d.giving a := by
  unfold course at h
  rw [advance, h, told]
  dsimp only
  cases a.provisions with
  | false => rfl
  | true => cases k.notice <;> rfl

theorem apply_idle (hsound : c.session.state.Sound)
    (hidle : c.session.state.phase.isActive = false) :
    c.apply k report = c.giving ⟨c.session.state.phase, c.session.state, false⟩ := by
  rw [apply, if_neg (by rw [hidle]; exact Bool.false_ne_true), snapshot_eq hsound]
  rfl

theorem apply_failure (hactive : c.session.state.phase.isActive = true)
    (hfailure : report.isFailure = true) :
    c.apply k report = (c.failRun report.errorText).andThen fun _ d =>
      d.concluded c.session.state.phase := by
  rw [apply, if_pos hactive, applyActive, if_pos hfailure]
  cases hr : (c.failRun report.errorText).result with
  | error f => rw [andThen_error hr, andThen_error hr, andThen_failing]
  | ok _ => rw [andThen_ok hr, andThen_ok hr, andThen_giving]

theorem apply_follow (hactive : c.session.state.phase.isActive = true)
    (hsound : c.session.state.Sound) (hfailure : report.isFailure = false) :
    c.apply k report = (c.follow k report c.session.state).andThen fun ignored d =>
      match ignored with
      | some t => d.giving t
      | none => d.concluded c.session.state.phase := by
  rw [apply, if_pos hactive, applyActive, if_neg (by rw [hfailure]; exact Bool.false_ne_true),
    snapshot_eq hsound]
  rfl

theorem apply_refused (hactive : c.session.state.phase.isActive = true)
    (hsound : c.session.state.Sound) (hfailure : report.isFailure = false) {f : Fault}
    (hcourse : c.course report = .error f) : c.apply k report = c.failing f := by
  rw [apply_follow hactive hsound hfailure, follow, advance_refused hcourse]
  rfl

theorem apply_same (hactive : c.session.state.phase.isActive = true)
    (hsound : c.session.state.Sound) (hfailure : report.isFailure = false)
    (hcourse : c.course report = .ok a) (hsame : a.state.sameAs c.session.state = true) :
    c.apply k report = c.giving ⟨c.session.state.phase, c.session.state, false⟩ := by
  obtain ⟨q, -, hq⟩ := RunState.Course.of_advance hactive hcourse
  have hstate : a.state = c.session.state := hq.eq_of_sameAs hsame
  have hquiet : a.provisions = false := by
    cases hp : a.provisions with
    | false => rfl
    | true =>
      -- Provisioning begins in another phase.
      have hphase := hq.provisioning hp
      rw [hstate] at hphase
      cases hq with
      | provisions h => cases hphase.symm.trans h
      | _ => cases hp
  have htold : c.told k a = c.giving () := by
    rw [told, hquiet, moved, hstate]
    rfl
  rw [hstate] at hsame
  rw [apply_follow hactive hsound hfailure, follow, advance_told hcourse, htold, andThen_giving,
    andThen_giving, if_pos hsame, andThen_giving]

/-- A report that changes something moves the run on, which is then closed or stored. -/
theorem apply_moved (hactive : c.session.state.phase.isActive = true)
    (hsound : c.session.state.Sound) (hfailure : report.isFailure = false)
    (hcourse : c.course report = .ok a) (hsame : a.state.sameAs c.session.state = false) :
    c.apply k report = ((c.told k a).andThen fun _ d => d.settle k a).andThen fun _ e =>
      e.concluded c.session.state.phase := by
  rw [apply_follow hactive hsound hfailure, follow, advance_told hcourse]
  cases htold : (c.told k a).result with
  | error f => simp only [andThen_error htold, andThen_failing]
  | ok _ =>
    have hstate : (c.told k a).core.session.state = a.state := rfl
    simp only [andThen_ok htold, andThen_giving, hstate, hsame, Bool.false_eq_true, if_false]
    cases hr : ((c.told k a).core.settle k a).result with
    | error f => simp only [andThen_error hr, andThen_failing]
    | ok _ => simp only [andThen_ok hr, andThen_giving]

/-- **There is nothing else that a report can do.** -/
theorem apply_cases {P : Turn Transition → Prop} (hsound : c.session.state.Sound)
    (idle : c.session.state.phase.isActive = false →
      P (c.giving ⟨c.session.state.phase, c.session.state, false⟩))
    (failure : c.session.state.phase.isActive = true → report.isFailure = true →
      P ((c.failRun report.errorText).andThen fun _ d => d.concluded c.session.state.phase))
    (refused : c.session.state.phase.isActive = true → report.isFailure = false →
      ∀ f, c.course report = .error f → P (c.failing f))
    (same : c.session.state.phase.isActive = true → report.isFailure = false →
      ∀ a, c.course report = .ok a → a.state = c.session.state →
        P (c.giving ⟨c.session.state.phase, c.session.state, false⟩))
    (moves : c.session.state.phase.isActive = true → report.isFailure = false →
      ∀ a, c.course report = .ok a → a.state.sameAs c.session.state = false →
        P (((c.told k a).andThen fun _ d => d.settle k a).andThen fun _ e =>
          e.concluded c.session.state.phase)) : P (c.apply k report) := by
  cases hactive : c.session.state.phase.isActive with
  | false => exact apply_idle hsound hactive ▸ idle hactive
  | true =>
    cases hfailure : report.isFailure with
    | true => exact apply_failure hactive hfailure ▸ failure hactive hfailure
    | false =>
      cases hcourse : c.course report with
      | error f => exact apply_refused hactive hsound hfailure hcourse ▸ refused hactive hfailure f hcourse
      | ok a =>
        cases hsame : a.state.sameAs c.session.state with
        | false =>
          exact apply_moved hactive hsound hfailure hcourse hsame ▸
            moves hactive hfailure a hcourse hsame
        | true =>
          obtain ⟨q, -, hq⟩ := RunState.Course.of_advance hactive hcourse
          exact apply_same hactive hsound hfailure hcourse hsame ▸
            same hactive hfailure a hcourse (hq.eq_of_sameAs hsame)

/-! ## What a report makes of the state -/

theorem core_concluded (previous : Phase) (c : Core) : (c.concluded previous).core = c :=
  core_andThen (P := fun d => d = c) (t := c.snapshot) rfl fun _ _ => rfl

/-- A failed run is left in the state after the failure, whatever else comes of it. -/
theorem state_failRun (errorText : Value) (c : Core) :
    (c.failRun errorText).core.session.state
      = c.session.state.afterFailure c.session.mode errorText := by
  have hhooks : ((c.failed errorText).runHooks .failed c.session.hooks).core.session.state
      = c.session.state.afterFailure c.session.mode errorText := state_runHooks ..
  refine core_andThen (P := fun d => d.session.state = _) hhooks fun _ _ => ?_
  rw [session_clear]
  exact hhooks

/-- A complete run is no longer in progress, and its resources are marked at most. -/
theorem state_complete (k : Conditions) (c : Core) :
    ∃ v, (v = c.session.state.reconciled ∨ v = .bool true) ∧ (c.complete k).core.session.state
      = c.session.state.stopped.marked v := by
  have hhooks : (c.stopped.runHooks .complete c.session.hooks).core.session.state
      = c.session.state.stopped := state_runHooks ..
  refine core_andThen (P := fun d => ∃ v, (v = c.session.state.reconciled ∨ v = .bool true) ∧
    d.session.state = c.session.state.stopped.marked v)
    ⟨_, .inl rfl, hhooks⟩ fun _ _ => ?_
  obtain ⟨v, hv, hstate⟩ := state_reconcileOnce k.answer
    (c.stopped.runHooks .complete c.session.hooks).core
  rw [hhooks] at hv hstate
  refine core_andThen (P := fun d => ∃ v, (v = c.session.state.reconciled ∨ v = .bool true) ∧
    d.session.state = c.session.state.stopped.marked v)
    ⟨v, hv, hstate⟩ fun _ _ => ?_
  rw [← session_clear] at hstate
  exact core_andThen (P := fun d => ∃ v, (v = c.session.state.reconciled ∨ v = .bool true) ∧
    d.session.state = c.session.state.stopped.marked v)
    ⟨v, hv, hstate⟩ fun _ _ => ⟨v, hv, hstate⟩

theorem state_settle {c : Core} (h : c.session.state.phase ≠ .complete) (k : Conditions)
    (a : RunState.Advance) : ∃ v, (v = c.session.state.reconciled ∨ v = .bool true) ∧
      (c.settle k a).core.session.state = c.session.state.marked v := by
  rw [settle, if_neg h]
  split
  · obtain ⟨v, hv, hstate⟩ := state_reconcileOnce k.answer c
    refine ⟨v, hv, core_andThen (P := fun d => d.session.state = _) hstate fun _ _ => ?_⟩
    rw [session_persist]
    exact hstate
  · refine ⟨c.session.state.reconciled, .inl rfl, ?_⟩
    rw [session_persist]
    rfl

/-- A run that a report moves on is left where the report takes it, however that ends. A complete run is
no longer in progress, and the resources are marked at most. -/
theorem state_moved (hactive : c.session.state.phase.isActive = true)
    (ha : c.course report = .ok a) : ∃ v, (v = a.state.reconciled ∨ v = .bool true) ∧
      (((c.told k a).andThen fun _ d => d.settle k a).andThen fun _ e =>
        e.concluded c.session.state.phase).core.session.state
          = (if a.state.phase = .complete then a.state.stopped else a.state).marked v := by
  have hconcluded : (((c.told k a).andThen fun _ d => d.settle k a).andThen fun _ e =>
      e.concluded c.session.state.phase).core = ((c.told k a).andThen fun _ d => d.settle k a).core :=
    core_andThen (P := fun d => d = _) rfl fun _ _ => core_concluded ..
  rw [hconcluded]
  by_cases hphase : a.state.phase = .complete
  · -- Nobody is told of provisioning when the run is complete.
    have hquiet : a.provisions = false := by
      obtain ⟨q, -, hcourse⟩ := RunState.Course.of_advance hactive ha
      cases hp : a.provisions with
      | false => rfl
      | true => cases (hcourse.provisioning hp).symm.trans hphase
    have htold : c.told k a = (c.moved a).giving () := by
      rw [told, hquiet]
      rfl
    have hcomplete : (c.moved a).settle k a = (c.moved a).complete k := if_pos hphase
    rw [if_pos hphase, htold, andThen_giving, hcomplete]
    exact state_complete k (c.moved a)
  · rw [if_neg hphase]
    refine core_andThen (P := fun d => ∃ v, (v = a.state.reconciled ∨ v = .bool true) ∧
      d.session.state = a.state.marked v) ⟨a.state.reconciled, .inl rfl, rfl⟩ fun _ _ => ?_
    exact state_settle (c := c.moved a) hphase k a

/-- **What a report makes of the state**, however it ends: the state stays, the run fails, goes on or
is complete. -/
theorem state_apply {P : RunState → Prop} (hsound : c.session.state.Sound)
    (stays : P c.session.state)
    (fails : c.session.state.phase.isActive = true → report.isFailure = true →
      P (c.session.state.afterFailure c.session.mode report.errorText))
    (moves : c.session.state.phase.isActive = true → ∀ a, c.course report = .ok a →
      a.state.phase ≠ .complete → ∀ v, (v = a.state.reconciled ∨ v = .bool true) →
        P (a.state.marked v))
    (completes : c.session.state.phase.isActive = true → ∀ a, c.course report = .ok a →
      a.state.phase = .complete → ∀ v, (v = a.state.reconciled ∨ v = .bool true) →
        P (a.state.stopped.marked v)) :
    P (c.apply k report).core.session.state := by
  refine apply_cases (P := fun u => P u.core.session.state) hsound (fun _ => stays) ?_
    (fun _ _ _ _ => stays) (fun _ _ _ _ _ => stays) ?_
  · intro hactive hfailure
    have hstate := fails hactive hfailure
    rw [← state_failRun] at hstate
    exact core_andThen (P := fun d => P d.session.state) hstate fun _ _ => by
      rw [core_concluded]
      exact hstate
  · intro hactive _ a ha _
    obtain ⟨v, hv, hstate⟩ := state_moved (k := k) hactive ha
    rw [hstate]
    split
    next hphase => exact completes hactive a ha hphase v hv
    next hphase => exact moves hactive a ha hphase v hv

/-! ## What is stored after a report that ends normally -/

theorem stored_persist (hknown : c.session.store < c.storage.stores.length)
    (h : c.persist.result = .ok ()) : c.persist.core.stored = c.record.encode := by
  unfold persist at h ⊢
  split at h
  · cases h
  next hfault =>
    exact (Storage.save_spec hknown c.record.encode_names).2

theorem stored_clear (hknown : c.session.store < c.storage.stores.length)
    (h : c.clear.result = .ok ()) : c.clear.core.stored = [] := by
  unfold clear at h ⊢
  split at h
  · cases h
  next hfault =>
    exact (Storage.clear_spec hknown).2

theorem stored_failRun {errorText : Value} (hknown : c.session.store < c.storage.stores.length)
    (h : (c.failRun errorText).result = .ok ()) : (c.failRun errorText).core.stored = [] := by
  obtain ⟨_, -, hrest⟩ := of_andThen_ok h
  have hkept := (kept_failed c errorText).trans (kept_runHooks .failed c.session.hooks _)
  have heq : c.failRun errorText = _ := hrest
  rw [heq] at h ⊢
  refine stored_clear ?_ h
  rw [hkept.store, hkept.storage.count]
  exact hknown

theorem stored_complete (hknown : c.session.store < c.storage.stores.length)
    (h : (c.complete k).result = .ok ()) : (c.complete k).core.stored = [] := by
  obtain ⟨_, -, hhooks⟩ := of_andThen_ok h
  have heq : c.complete k = _ := hhooks
  rw [heq] at h ⊢
  obtain ⟨_, -, hresources⟩ := of_andThen_ok h
  have heq' : (c.stopped.runHooks .complete c.session.hooks).core.roundOff k = _ := hresources
  rw [heq'] at h ⊢
  obtain ⟨_, hok, hclear⟩ := of_andThen_ok h
  have hkept := ((kept_stopped c).trans (kept_runHooks .complete c.session.hooks _)).trans
    (kept_reconcileOnce k.answer (c.stopped.runHooks .complete c.session.hooks).core)
  rw [cleanUp, hclear]
  refine stored_clear ?_ hok
  rw [hkept.store, hkept.storage.count]
  exact hknown

theorem stored_settle (hknown : c.session.store < c.storage.stores.length)
    (hphase : c.session.state.phase ≠ .complete) (h : (c.settle k a).result = .ok ()) :
    (c.settle k a).core.stored = (c.settle k a).core.record.encode := by
  have hpersist : ∀ d : Core, d.session.store < d.storage.stores.length → d.persist.result = .ok () →
      d.persist.core.stored = d.persist.core.record.encode := by
    intro d hd hr
    rw [record, session_persist]
    exact stored_persist hd hr
  rw [settle, if_neg hphase] at h ⊢
  split at h
  next hreconciles =>
    obtain ⟨_, -, hrest⟩ := of_andThen_ok h
    rw [if_pos hreconciles]
    rw [hrest] at h ⊢
    refine hpersist _ ?_ h
    rw [(kept_reconcileOnce k.answer c).store, storage_reconcileOnce]
    exact hknown
  next hreconciles =>
    rw [if_neg hreconciles]
    exact hpersist c hknown h

end Core

end Cutover
