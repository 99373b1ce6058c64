import Cutover.Proofs.Control.Agreement

/-!
# Alike runs

Two sessions may differ in much that no report depends on. Where they follow the same run on the same
storage, a report comes out the same in both, and they go on to follow the same run. The resources
that are kept matter only as long as those of the run are still to be fetched.

* `Core.Alike`: two sessions follow the same run;
* `Core.Turn.Alike`: an operation comes out the same in both;
* `Core.Alike.apply`: **a report comes out the same**.
-/

namespace Cutover

namespace Core

/-- **Two sessions follow the same run** on the same storage, and a stop hook fails in both or in
none. -/
structure Alike (c d : Core) : Prop where
  state : d.session.state = c.session.state
  context : d.session.context = c.session.context
  store : d.session.store = c.session.store
  isBare : d.session.isBare = c.session.isBare
  storage : d.storage = c.storage
  hooks : d.session.hooks.any StopHook.fails = c.session.hooks.any StopHook.fails
  resources : c.isDue = true → d.session.resources = c.session.resources

/-- An operation comes out the same in two sessions, which follow the same run afterwards. -/
structure Turn.Alike {α : Type} (t u : Turn α) : Prop where
  result : u.result = t.result
  core : t.core.Alike u.core

variable {α β : Type} {b c d : Core}

namespace Alike

theorem refl (c : Core) : c.Alike c := ⟨rfl, rfl, rfl, rfl, rfl, rfl, fun _ => rfl⟩

theorem isDue (h : c.Alike d) : d.isDue = c.isDue := by
  rw [Core.isDue, Core.isDue, h.isBare, h.state]

theorem symm (h : c.Alike d) : d.Alike c where
  state := h.state.symm
  context := h.context.symm
  store := h.store.symm
  isBare := h.isBare.symm
  storage := h.storage.symm
  hooks := h.hooks.symm
  resources hdue := (h.resources (h.isDue ▸ hdue)).symm

theorem trans (h : b.Alike c) (h' : c.Alike d) : b.Alike d where
  state := h'.state.trans h.state
  context := h'.context.trans h.context
  store := h'.store.trans h.store
  isBare := h'.isBare.trans h.isBare
  storage := h'.storage.trans h.storage
  hooks := h'.hooks.trans h.hooks
  resources hdue := (h'.resources (h.isDue.trans hdue)).trans (h.resources hdue)

theorem mode (h : c.Alike d) : d.session.mode = c.session.mode :=
  congrArg Record.Context.mode h.context

theorem transfer (h : c.Alike d) : d.session.transfer = c.session.transfer :=
  congrArg Record.Context.transfer h.context

theorem record (h : c.Alike d) : d.record = c.record := by
  rw [Core.record, Session.record, h.state, h.context, Core.record, Session.record]

theorem stored (h : c.Alike d) : d.stored = c.stored := by
  rw [Core.stored, h.storage, h.store, Core.stored]

theorem faults (h : c.Alike d) : d.faults = c.faults := by
  rw [Core.faults, h.storage, h.store, Core.faults]

/-- The states of both are changed in the same way, which leaves none of their resources due that were
not. -/
theorem onState (h : c.Alike d) (f : RunState → RunState)
    (hdue : (f c.session.state).isReconciled = false → c.session.state.isReconciled = false) :
    (c.onState f).Alike (d.onState f) where
  state := congrArg f h.state
  context := h.context
  store := h.store
  isBare := h.isBare
  storage := h.storage
  hooks := h.hooks
  resources hd := by
    refine h.resources ?_
    simp only [Core.isDue, Core.onState, onSession, Bool.and_eq_true, Bool.not_eq_true'] at hd ⊢
    exact ⟨hd.1, hdue hd.2⟩

theorem withStorage (h : c.Alike d) (r : Except Fault Unit × Storage) :
    (c.withStorage r).Alike (d.withStorage r) :=
  ⟨rfl, { h with storage := rfl }⟩

end Alike

namespace Turn.Alike

variable {t u : Turn α}

theorem giving (h : c.Alike d) (a : α) : (c.giving a).Alike (d.giving a) := ⟨rfl, h⟩

theorem failing (h : c.Alike d) (f : Fault) : (c.failing f : Turn α).Alike (d.failing f) := ⟨rfl, h⟩

theorem andThen {f g : α → Core → Turn β} (h : t.Alike u)
    (hf : ∀ a, t.result = .ok a → (f a t.core).Alike (g a u.core)) :
    (t.andThen f).Alike (u.andThen g) := by
  cases hr : t.result with
  | error e =>
    rw [andThen_error hr, andThen_error (h.result.trans hr)]
    exact .failing h.core e
  | ok a =>
    rw [andThen_ok hr, andThen_ok (h.result.trans hr)]
    exact hf a hr

end Turn.Alike

/-! ## The parts of operations -/

namespace Alike

variable {k : Conditions}

theorem snapshot (h : c.Alike d) : c.snapshot.Alike d.snapshot :=
  ⟨congrArg RunState.check h.state, h⟩

theorem persist (h : c.Alike d) : c.persist.Alike d.persist := by
  rw [Core.persist, Core.persist, h.faults, h.storage, h.store, h.record]
  split
  · exact .failing h _
  · exact h.withStorage _

theorem clear (h : c.Alike d) : c.clear.Alike d.clear := by
  rw [Core.clear, Core.clear, h.faults, h.storage, h.store]
  split
  · exact .failing h _
  · exact h.withStorage _

theorem runHook (phase : Phase) (c : Core) (hook : StopHook) :
    c.Alike (c.runHook phase hook).core := by
  have hkept := kept_runHook phase c hook
  exact ⟨state_runHook .., hkept.context, hkept.store, hkept.isBare, storage_runHook .., by rw [hkept.hooks],
    fun _ => runHook_same (f := fun d => d.session.resources) phase c hook (fun _ => rfl) (fun _ => rfl) fun _ _ => rfl⟩

theorem runHooks (phase : Phase) (hooks : List StopHook) (c : Core) :
    c.Alike (c.runHooks phase hooks).core := by
  induction hooks generalizing c with
  | nil => exact .refl c
  | cons hook rest ih =>
    rw [Core.runHooks]
    cases hr : (c.runHook phase hook).result with
    | error f =>
      rw [andThen_error hr]
      exact runHook phase c hook
    | ok _ =>
      rw [andThen_ok hr]
      exact (runHook phase c hook).trans (ih _)

end Alike

theorem result_runHooks (phase : Phase) (hooks : List StopHook) (c : Core) :
    (c.runHooks phase hooks).result =
      if hooks.any StopHook.fails then .error (.broken "hook") else .ok () := by
  induction hooks generalizing c with
  | nil => rfl
  | cons hook rest ih =>
    rw [runHooks, List.any_cons]
    cases hf : hook.fails with
    | false => rw [andThen_ok (runHook_ok hf), ih, Bool.false_or]
    | true =>
      cases hook with
      | polling => cases hf
      | configuration => cases hf
      | user number id fails =>
        cases hf
        rfl

namespace Alike

variable {k : Conditions}

theorem allHooks (h : c.Alike d) (phase : Phase) {hooks hooks' : List StopHook}
    (hsame : hooks'.any StopHook.fails = hooks.any StopHook.fails) :
    (c.runHooks phase hooks).Alike (d.runHooks phase hooks') := by
  refine ⟨?_, ((runHooks phase hooks c).symm.trans h).trans (runHooks phase hooks' d)⟩
  rw [result_runHooks, result_runHooks, hsame]

theorem fetch (h : c.Alike d) (hdue : c.isDue = true) (o : Outcome) :
    (c.fetch o).Alike (d.fetch o) := by
  have hresources := h.resources hdue
  rw [Core.fetch, Core.fetch, hresources]
  split
  · exact .giving h _
  · dsimp only
    split
    · exact ⟨rfl, h.state, h.context, h.store, h.isBare, h.storage, h.hooks, fun _ => rfl⟩
    · exact ⟨rfl, h.state, h.context, h.store, h.isBare, h.storage, h.hooks, fun _ => hresources⟩

theorem fetchFailed (h : c.Alike d) (f : Fault) : (c.fetchFailed f).Alike (d.fetchFailed f) := by
  unfold Core.fetchFailed
  split
  · split
    · exact ⟨rfl, h.state, h.context, h.store, h.isBare, h.storage, h.hooks, h.resources⟩
    · exact .failing h _
  · exact .failing h _

/-- **The resources are fetched in both sessions or in none.** -/
theorem reconcileOnce (h : c.Alike d) (o : Outcome) :
    (c.reconcileOnce o).Alike (d.reconcileOnce o) := by
  cases hdue : c.isDue with
  | false =>
    rw [reconcileOnce_idle hdue, reconcileOnce_idle (h.isDue.trans hdue)]
    exact .giving h ()
  | true =>
    have hfetch := h.fetch hdue o
    cases hr : (c.fetch o).result with
    | ok items =>
      rw [reconcileOnce_ok hdue hr,
        reconcileOnce_ok (h.isDue.trans hdue) (hfetch.result.trans hr)]
      have hreconciled : (c.fetch o).core.reconciled.Alike (d.fetch o).core.reconciled :=
        hfetch.core.onState _ fun hdone => nomatch (show true = false from hdone)
      exact .giving hreconciled ()
    | error f =>
      rw [reconcileOnce_error hdue hr,
        reconcileOnce_error (h.isDue.trans hdue) (hfetch.result.trans hr)]
      exact hfetch.core.fetchFailed f

theorem cleanUp (h : c.Alike d) (notice : Except Fault Unit) :
    (c.cleanUp notice).Alike (d.cleanUp notice) :=
  h.clear.andThen fun _ _ => ⟨rfl, h.clear.core⟩

theorem complete (h : c.Alike d) (k : Conditions) : (c.complete k).Alike (d.complete k) := by
  have hstopped : c.stopped.Alike d.stopped := h.onState _ id
  have hhooks := hstopped.allHooks .complete h.hooks
  refine hhooks.andThen fun _ _ => ?_
  have hresources := hhooks.core.reconcileOnce k.answer
  exact hresources.andThen fun _ _ => hresources.core.cleanUp k.notice

theorem failed (h : c.Alike d) (errorText : Value) :
    (c.failed errorText).Alike (d.failed errorText) := by
  have hstate : d.session.state.afterFailure d.session.mode errorText
      = c.session.state.afterFailure c.session.mode errorText := by rw [h.state, h.mode]
  exact { h with state := hstate, resources := h.resources }

theorem failRun (h : c.Alike d) (errorText : Value) :
    (c.failRun errorText).Alike (d.failRun errorText) := by
  have hhooks := (h.failed errorText).allHooks .failed h.hooks
  exact hhooks.andThen fun _ _ => hhooks.core.clear

/-! ## Reports -/

theorem advance (h : c.Alike d) (notice : Except Fault Unit) (report : Status)
    (hactive : c.session.state.phase.isActive = true) :
    (c.advance notice report).Alike (d.advance notice report) := by
  rw [Core.advance, Core.advance, h.state, h.mode, h.transfer]
  split
  · exact .failing h _
  next a ha =>
    obtain ⟨q, -, hcourse⟩ := RunState.Course.of_advance hactive ha
    have hcore : (c.onState fun _ => a.state).Alike (d.onState fun _ => a.state) :=
      h.onState _ fun hdue => by
        rw [RunState.isReconciled, hcourse.reconciled] at hdue
        exact hdue
    dsimp only
    split
    · exact ⟨rfl, hcore⟩
    · exact .giving hcore a

theorem settle (h : c.Alike d) (k : Conditions) (a : RunState.Advance) :
    (c.settle k a).Alike (d.settle k a) := by
  rw [Core.settle, Core.settle, h.state]
  split
  · exact h.complete k
  · split
    · have hresources := h.reconcileOnce k.answer
      exact hresources.andThen fun _ _ => hresources.core.persist
    · exact h.persist

theorem follow (h : c.Alike d) (k : Conditions) (report : Status) (before : RunState)
    (hactive : c.session.state.phase.isActive = true) :
    (c.follow k report before).Alike (d.follow k report before) := by
  have hadvance := h.advance k.notice report hactive
  refine hadvance.andThen fun a _ => ?_
  rw [hadvance.core.state, h.state]
  split
  · exact .giving hadvance.core _
  · have hsettled := hadvance.core.settle k a
    exact hsettled.andThen fun _ _ => .giving hsettled.core none

theorem applyActive (h : c.Alike d) (k : Conditions) (report : Status)
    (hactive : c.session.state.phase.isActive = true) :
    (c.applyActive k report).Alike (d.applyActive k report) := by
  rw [Core.applyActive, Core.applyActive]
  split
  · have hfailed := h.failRun report.errorText
    exact hfailed.andThen fun _ _ => .giving hfailed.core none
  · exact h.snapshot.andThen fun before _ => h.follow k report before hactive

/-- **A report comes out the same** in two sessions that follow the same run, and they go on to follow
the same run. -/
theorem apply (h : c.Alike d) (k : Conditions) (report : Status) :
    (c.apply k report).Alike (d.apply k report) := by
  rw [Core.apply, Core.apply, h.state]
  split
  next hactive =>
    have hdone := h.applyActive k report hactive
    refine hdone.andThen fun ignored _ => ?_
    cases ignored with
    | some t => exact .giving hdone.core t
    | none => exact hdone.core.snapshot.andThen fun _ _ => .giving hdone.core _
  next => exact h.snapshot.andThen fun _ _ => .giving h _

end Alike

end Core

end Cutover
