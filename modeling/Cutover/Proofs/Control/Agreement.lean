import Cutover.Proofs.Control.Operations
import Cutover.Proofs.RunState.Soundness

/-!
# Memory and store agree

While a run is in progress its record is stored, and none is stored otherwise. Every operation on the
run keeps that so, as long as hooks and store do what they are asked and fetching the resources fails
in no other way than the service can make it fail.

* `Core.Agrees`: memory and store agree;
* `Core.Reliable`: hooks and store do what they are asked;
* `Core.Orderly`: what holds of the core whenever nobody is behind the gate;
* `Core.Orderly.begin`, `Core.Orderly.reset`, `Core.Orderly.apply`, `Core.Orderly.fetch`: every
  operation keeps it.
-/

namespace Cutover

/-- The hook ends by a fault. -/
def StopHook.fails : StopHook → Bool
  | user _ _ fails => fails
  | _ => false

namespace Core

/-- **Memory and store agree**: the record of the state is stored while the run is in progress, and
nothing otherwise. -/
def Agrees (c : Core) : Prop :=
  c.stored = if c.session.state.isRunning then c.record.encode else []

/-- Hooks and store do what they are asked. -/
structure Reliable (c : Core) : Prop where
  hooks : ∀ h ∈ c.session.hooks, h.fails = false
  save : c.faults.saveError = none
  clear : c.faults.clearError = none
  known : c.session.store < c.storage.stores.length

/-- **What holds whenever nobody is behind the gate.** -/
structure Orderly (c : Core) : Prop where
  reliable : c.Reliable
  agrees : c.Agrees
  running : c.session.state.phase.isActive = true → c.session.state.isRunning = true
  fetchGate : c.session.fetchGate = {}

variable {c d : Core} {k : Conditions}

theorem Reliable.kept (h : c.Reliable) (hkept : c.Stays d) : d.Reliable := by
  have hfaults : d.faults = c.faults := by rw [faults, hkept.store, hkept.storage.faults, faults]
  refine ⟨hkept.hooks ▸ h.hooks, hfaults ▸ h.save, hfaults ▸ h.clear, ?_⟩
  rw [hkept.store, hkept.storage.count]
  exact h.known

theorem Orderly.kept (h : c.Orderly) (hkept : c.Stays d) (hagrees : d.Agrees)
    (hrunning : d.session.state.phase.isActive = true → d.session.state.isRunning = true) :
    d.Orderly :=
  ⟨h.reliable.kept hkept, hagrees, hrunning, hkept.fetchGate.trans h.fetchGate⟩

/-! ## The store -/

/-- **What is saved is the record of the state.** -/
theorem Reliable.persist (h : c.Reliable) : c.persist.result = .ok () ∧
    c.persist.core.stored = c.record.encode := by
  rw [Core.persist, h.save]
  exact Storage.save_spec h.known c.record.encode_names

/-- **Nothing is stored any more.** -/
theorem Reliable.clear_spec (h : c.Reliable) : c.clear.result = .ok () ∧
    c.clear.core.stored = [] := by
  rw [Core.clear, h.clear]
  exact Storage.clear_spec h.known

/-! ## Hooks and resources -/

theorem state_runHook (phase : Phase) (c : Core) (h : StopHook) :
    (c.runHook phase h).core.session.state = c.session.state :=
  runHook_same (f := fun d => d.session.state) phase c h (fun _ => rfl) (fun _ => rfl) fun _ _ => rfl

theorem state_runHooks (phase : Phase) (hooks : List StopHook) (c : Core) :
    (c.runHooks phase hooks).core.session.state = c.session.state :=
  runHooks_same (f := fun d => d.session.state) phase hooks c (state_runHook phase)

theorem runHook_ok {phase : Phase} {h : StopHook} (hok : h.fails = false) :
    (c.runHook phase h).result = .ok () := by
  cases h with
  | polling => rfl
  | configuration => rfl
  | user number id fails =>
    cases hok
    rfl

theorem runHooks_ok {phase : Phase} {hooks : List StopHook} (hok : ∀ h ∈ hooks, h.fails = false) :
    (c.runHooks phase hooks).result = .ok () := by
  induction hooks generalizing c with
  | nil => rfl
  | cons h rest ih =>
    rw [runHooks, andThen_ok (runHook_ok (hok h List.mem_cons_self))]
    exact ih fun h' hh' => hok h' (List.mem_cons_of_mem _ hh')

theorem state_fetch (o : Outcome) (c : Core) :
    (c.fetch o).core.session.state = c.session.state := by
  rw [fetch]
  split
  · rfl
  · dsimp only
    split
    · rfl
    · rfl

theorem state_reconcileOnce (o : Outcome) (c : Core) :
    ∃ v, (v = c.session.state.reconciled ∨ v = .bool true) ∧
      (c.reconcileOnce o).core.session.state = c.session.state.marked v := by
  cases hdue : c.isDue with
  | false =>
    rw [reconcileOnce_idle hdue]
    exact ⟨_, .inl rfl, rfl⟩
  | true =>
    cases hr : (c.fetch o).result with
    | ok items =>
      rw [reconcileOnce_ok hdue hr]
      exact ⟨.bool true, .inr rfl, by rw [← state_fetch o c]; rfl⟩
    | error f =>
      rw [reconcileOnce_error hdue hr]
      refine ⟨c.session.state.reconciled, .inl rfl, ?_⟩
      have hstate : ((c.fetch o).core.fetchFailed f).core.session.state =
          (c.fetch o).core.session.state := by
        unfold fetchFailed
        split
        · split <;> rfl
        · rfl
      exact hstate.trans (state_fetch o c)

/-- An answer of the service that holds no resources makes a fault of fetching them. -/
theorem resources_of_isReply {o : Outcome} (h : o.isReply = true) {f : Fault}
    (hf : o.resources = .error f) : ∃ g, f = .client (.service g) ∧ g.kind = .resourceFetch := by
  cases o with
  | answered a =>
    rw [Outcome.resources, Outcome.shards] at hf
    cases hm : a.toShardMap with
    | ok m =>
      rw [hm] at hf
      cases hf
    | error g =>
      rw [hm] at hf
      cases hf
      exact ⟨_, rfl, rfl⟩
  | unreachable failure text =>
    cases hf
    exact ⟨_, rfl, rfl⟩
  | failed g => cases h

/-- A request for the resources that the service answers does not stop the run. -/
theorem reconcileOnce_isReply {o : Outcome} (h : o.isReply = true) :
    (c.reconcileOnce o).result = .ok () := by
  cases hdue : c.isDue with
  | false => rw [reconcileOnce_idle hdue, giving_result]
  | true =>
    cases hr : (c.fetch o).result with
    | ok items => rw [reconcileOnce_ok hdue hr, giving_result]
    | error f =>
      rw [reconcileOnce_error hdue hr]
      have hf : o.resources = .error f := by
        rw [fetch] at hr
        split at hr
        · cases hr
        · dsimp only at hr
          cases ho : o.resources with
          | ok items =>
            rw [ho] at hr
            cases hr
          | error g =>
            rw [ho] at hr
            exact hr
      obtain ⟨g, rfl, hkind⟩ := resources_of_isReply h hf
      rw [fetchFailed, if_pos hkind, giving_result]

/-! ## The end of a run -/

/-- The run is over: it is not in progress and nothing is stored. -/
structure Over (c d : Core) : Prop where
  stays : c.Stays d
  stored : d.stored = []
  stopped : d.session.state.isRunning = false
  terminal : d.session.state.phase.isActive = false

theorem Over.orderly (h : c.Over d) (hc : c.Orderly) : d.Orderly := by
  refine hc.kept h.stays ?_ fun hactive => ?_
  · rw [Agrees, h.stopped]
    exact h.stored
  · rw [h.terminal] at hactive
    cases hactive

theorem Reliable.over_clear (h : d.Reliable) (hkept : c.Stays d)
    (hstopped : d.session.state.isRunning = false)
    (hterminal : d.session.state.phase.isActive = false) : c.Over d.clear.core := by
  obtain ⟨-, hstored⟩ := h.clear_spec
  refine ⟨hkept.trans (kept_clear d).toStays, hstored, ?_, ?_⟩
  · rw [session_clear]
    exact hstopped
  · rw [session_clear]
    exact hterminal

/-- **A complete run is carried through.** -/
theorem Reliable.complete (h : c.Reliable) (hphase : c.session.state.phase = .complete)
    (hreply : k.answer.isReply = true) :
    (c.complete k).result = k.notice ∧ c.Over (c.complete k).core := by
  have hhooks : (c.stopped.runHooks .complete c.session.hooks).result = .ok () :=
    runHooks_ok h.hooks
  generalize hd : (c.stopped.runHooks .complete c.session.hooks).core = d
  have hstate : d.session.state = c.stopped.session.state := by
    rw [← hd]
    exact state_runHooks ..
  have hkept : c.Kept d := by
    rw [← hd]
    exact (kept_stopped c).trans (kept_runHooks ..)
  generalize he : (d.reconcileOnce k.answer).core = e
  obtain ⟨v, -, hv⟩ := state_reconcileOnce k.answer d
  rw [he, hstate] at hv
  have hkept' : c.Kept e := by
    rw [← he]
    exact hkept.trans (kept_reconcileOnce ..)
  have hreliable := h.kept hkept'.toStays
  have heq : c.complete k = ⟨k.notice, e.clear.core⟩ := by
    rw [Core.complete, andThen_ok hhooks, hd, roundOff, andThen_ok (reconcileOnce_isReply hreply), he,
      cleanUp, andThen_ok hreliable.clear_spec.1]
  rw [heq]
  refine ⟨rfl, hreliable.over_clear hkept'.toStays ?_ ?_⟩
  · rw [hv]
    rfl
  · rw [hv]
    show c.session.state.phase.isActive = false
    rw [hphase]
    rfl

/-- **A failed run is carried through.** -/
theorem Reliable.failRun (h : c.Reliable) (errorText : Value) :
    (c.failRun errorText).result = .ok () ∧ c.Over (c.failRun errorText).core := by
  have hhooks : ((c.failed errorText).runHooks .failed c.session.hooks).result = .ok () :=
    runHooks_ok h.hooks
  generalize hd : ((c.failed errorText).runHooks .failed c.session.hooks).core = d
  have hstate : d.session.state = (c.failed errorText).session.state := by
    rw [← hd]
    exact state_runHooks ..
  have hkept : c.Kept d := by
    rw [← hd]
    exact (kept_failed c errorText).trans (kept_runHooks ..)
  have hreliable := h.kept hkept.toStays
  have heq : c.failRun errorText = d.clear := by
    rw [Core.failRun, andThen_ok hhooks, hd]
  rw [heq]
  refine ⟨hreliable.clear_spec.1, hreliable.over_clear hkept.toStays ?_ ?_⟩
  · rw [hstate]
    rfl
  · rw [hstate]
    rfl

/-! ## The operations -/

theorem Orderly.persist (h : c.Orderly) (hkept : c.Stays d)
    (hrunning : d.session.state.isRunning = true) :
    d.persist.result = .ok () ∧ d.persist.core.Orderly := by
  obtain ⟨hok, hstored⟩ := (h.reliable.kept hkept).persist
  have hsession := session_persist d
  refine ⟨hok, h.kept (hkept.trans (kept_persist d).toStays) ?_ ?_⟩
  · rw [Agrees, hstored, record, record, hsession, if_pos hrunning]
  · rw [hsession]
    exact fun _ => hrunning

/-- **Moving on keeps memory and store in agreement.** -/
theorem Orderly.settle (h : c.Orderly) (hkept : c.Stays d)
    (hrunning : d.session.state.isRunning = true) {a : RunState.Advance}
    (hreply : k.answer.isReply = true) (hnotice : k.notice = .ok ()) :
    (d.settle k a).result = .ok () ∧ (d.settle k a).core.Orderly := by
  have hreliable := h.reliable.kept hkept
  rw [Core.settle]
  by_cases hphase : d.session.state.phase = .complete
  · obtain ⟨hok, hover⟩ := hreliable.complete hphase hreply
    rw [if_pos hphase]
    refine ⟨hok.trans hnotice, Over.orderly ?_ h⟩
    exact ⟨hkept.trans hover.stays, hover.stored, hover.stopped, hover.terminal⟩
  · rw [if_neg hphase]
    cases a.reconciles with
    | false => exact h.persist hkept hrunning
    | true =>
      obtain ⟨v, -, hv⟩ := state_reconcileOnce k.answer d
      rw [if_pos rfl, andThen_ok (reconcileOnce_isReply hreply)]
      refine h.persist (hkept.trans (kept_reconcileOnce ..).toStays) ?_
      rw [hv]
      exact hrunning

theorem Orderly.follow (h : c.Orderly) (hactive : c.session.state.phase.isActive = true)
    (hreply : k.answer.isReply = true) (hnotice : k.notice = .ok ()) {report : Status} :
    (c.follow k report c.session.state).core.Orderly := by
  rw [Core.follow]
  have hkept := kept_advance k.notice report c
  have hrunning := h.running hactive
  cases hadv : (c.advance k.notice report).result with
  | error f =>
    rw [andThen_error hadv, failing_core]
    -- With the notice raised only the report itself can be refused, before anything is changed.
    have hcore : (c.advance k.notice report).core = c := by
      rw [hnotice, advance] at hadv ⊢
      split
      · rfl
      next a ha =>
        simp only [ha] at hadv
        split at hadv <;> cases hadv
    rw [hcore]
    exact h
  | ok a =>
    obtain ⟨ha, hcore⟩ := advance_ok hadv
    obtain ⟨q, -, hcourse⟩ := RunState.Course.of_advance hactive ha
    rw [andThen_ok hadv]
    rw [hcore] at hkept ⊢
    split
    next hsame =>
      have hstate : a.state = c.session.state := hcourse.eq_of_sameAs hsame
      rw [giving_core, hstate]
      exact h
    next =>
      have hrunning' : (c.onState fun _ => a.state).session.state.isRunning = true := by
        show a.state.inProgress.isTruthy = true
        rw [hcourse.inProgress]
        exact hrunning
      obtain ⟨hok, horderly⟩ := h.settle (a := a) hkept.toStays hrunning' hreply hnotice
      rw [andThen_ok hok]
      exact horderly

/-- **Applying a report keeps memory and store in agreement.** -/
theorem Orderly.apply (h : c.Orderly) (hreply : k.answer.isReply = true)
    (hnotice : k.notice = .ok ()) (report : Status) : (c.apply k report).core.Orderly := by
  rw [Core.apply]
  split
  next hactive =>
    have hdone : (c.applyActive k report).core.Orderly := by
      rw [applyActive]
      split
      · obtain ⟨hok, hover⟩ := h.reliable.failRun report.errorText
        rw [andThen_ok hok]
        exact hover.orderly h
      · cases hsnap : c.snapshot.result with
        | error f =>
          rw [andThen_error hsnap]
          exact h
        | ok before =>
          obtain ⟨rfl, -⟩ := RunState.sound_of_check hsnap
          rw [andThen_ok hsnap]
          exact h.follow hactive hreply hnotice
    cases hr : (c.applyActive k report).result with
    | error f =>
      rw [andThen_error hr]
      exact hdone
    | ok ignored =>
      rw [andThen_ok hr]
      cases ignored with
      | some t => exact hdone
      | none =>
        dsimp only [concluded]
        cases hsnap : (c.applyActive k report).core.snapshot.result with
        | error f =>
          rw [andThen_error hsnap]
          exact hdone
        | ok t =>
          rw [andThen_ok hsnap]
          exact hdone
  next =>
    cases hsnap : c.snapshot.result with
    | error f =>
      rw [andThen_error hsnap]
      exact h
    | ok t =>
      rw [andThen_ok hsnap]
      exact h

theorem isRunning_launched (mode : Mode) : (RunState.launched mode).isRunning = true := by
  cases mode <;> rfl

/-- **A run that begins is stored.** -/
theorem Orderly.begin (h : c.Orderly) (mode : Mode) (transfer : Transfer) (shards instances : Value) :
    (c.begin mode transfer shards instances).core.Orderly := by
  rw [Core.begin]
  split
  · exact h
  · obtain ⟨hok, horderly⟩ := h.persist (stays_launched mode transfer shards instances c)
      (isRunning_launched mode)
    rw [andThen_ok hok]
    exact horderly

/-- **Nothing is stored of a run that was forgotten.** -/
theorem Orderly.reset (h : c.Orderly) : c.reset.core.Orderly := by
  have hkept := stays_forgotten c
  have hreliable := h.reliable.kept hkept
  have hover : c.Over c.forgotten.clear.core := hreliable.over_clear hkept rfl rfl
  have hsnap : c.forgotten.clear.core.snapshot.result = .ok {} :=
    snapshot_forgotten (by rw [session_clear]; rfl)
  rw [Core.reset, andThen_ok hreliable.clear_spec.1, andThen_ok hsnap]
  exact hover.orderly h

/-- **Fetching the resources leaves memory and store as they are.** -/
theorem Orderly.fetch (h : c.Orderly) (o : Outcome) : (c.fetch o).core.Orderly := by
  have hkept := kept_fetch o c
  have hstorage := storage_fetch o c
  have hstate := state_fetch o c
  refine h.kept hkept.toStays ?_ ?_
  · have hrecord : (c.fetch o).core.record = c.record := by
      rw [Core.fetch]
      split
      · rfl
      · dsimp only
        split
        · rfl
        · rfl
    rw [Agrees, stored, hstorage, hkept.store, hstate, hrecord]
    exact h.agrees
  · rw [hstate]
    exact h.running

end Core

end Cutover
