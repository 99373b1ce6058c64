import Cutover.Proofs.Control.Alike
import Cutover.Proofs.Control.Repeating

/-!
# The end of a run

A report that fails or completes a run changes the state first. Then the stop hooks are called in
order, the resources of a complete run are fetched, the record is removed and the user is told. Whatever
breaks one of these steps ends the rest of them.

* `StopHook.called`: the stop hooks that are called;
* `Core.Ends`: a report ends a run, and `Core.Live.ends`: no other report does;
* `Core.Ends.calls`, `Core.Ends.ok_iff`, `Core.Ends.hook_fails`, `Core.Ends.stored`: what comes of the
  steps.
-/

namespace Cutover

namespace StopHook

/-- **The stop hooks that are called**: all of them up to the first that fails. -/
def called : List StopHook → List StopHook
  | [] => []
  | h :: rest => if h.fails then [h] else h :: called rest

/-- What is reported of a stop hook that is called; only hooks outside report something. -/
def report (phase : Phase) (stored : Bool) : StopHook → Option HookCall
  | user _ id _ => some ⟨id, phase, stored⟩
  | _ => none

variable {hooks : List StopHook}

theorem called_of_none (h : hooks.any fails = false) : called hooks = hooks := by
  induction hooks with
  | nil => rfl
  | cons hook rest ih =>
    rw [List.any_cons, Bool.or_eq_false_iff] at h
    rw [called, h.1, ih h.2]
    rfl

end StopHook

namespace Core

variable {c d e : Core} {k : Conditions} {report : Status} {p : Phase} {f : Fault}

/-! ## The steps -/

/-- Whether a record is stored, as a stop hook sees it. -/
def keepsRecord (c : Core) : Bool := !(c.storage.table c.storage.current).isEmpty

theorem hookCalls_runHook (phase : Phase) (c : Core) (hook : StopHook) :
    (c.runHook phase hook).core.hookCalls
      = c.hookCalls ++ (hook.report phase c.keepsRecord).toList := by
  cases hook with
  | polling => exact (List.append_nil _).symm
  | configuration =>
    rw [runHook]
    split
    · exact (List.append_nil _).symm
    · exact (List.append_nil _).symm
  | user number id fails => cases fails <;> rfl

/-- **Every hook that is called is called once**, in order. -/
theorem hookCalls_runHooks (phase : Phase) (hooks : List StopHook) (c : Core) :
    (c.runHooks phase hooks).core.hookCalls
      = c.hookCalls ++ (StopHook.called hooks).filterMap (StopHook.report phase c.keepsRecord) := by
  induction hooks generalizing c with
  | nil => exact (List.append_nil _).symm
  | cons hook rest ih =>
    have hcall := hookCalls_runHook phase c hook
    have hone : [hook].filterMap (StopHook.report phase c.keepsRecord)
        = (hook.report phase c.keepsRecord).toList := by
      cases hr : hook.report phase c.keepsRecord with
      | none => rw [List.filterMap_cons_none hr, List.filterMap_nil, Option.toList_none]
      | some x => rw [List.filterMap_cons_some hr, List.filterMap_nil, Option.toList_some]
    rw [runHooks, StopHook.called]
    cases hf : hook.fails with
    | true =>
      have hresult : (c.runHook phase hook).result = .error (.broken "hook") := by
        cases hook with
        | polling => cases hf
        | configuration => cases hf
        | user number id fails =>
          cases hf
          rfl
      rw [andThen_error hresult, failing_core, hcall, if_pos rfl, hone]
    | false =>
      have hsame : (c.runHook phase hook).core.keepsRecord = c.keepsRecord := by
        rw [keepsRecord, storage_runHook, keepsRecord]
      rw [andThen_ok (runHook_ok hf), ih, hcall, hsame, if_neg Bool.false_ne_true, List.append_assoc,
        ← hone, ← List.filterMap_append]
      rfl

theorem hookCalls_clear (c : Core) : c.clear.core.hookCalls = c.hookCalls := by
  rw [clear]
  split <;> rfl

/-- The resources being fetched once in a run touches nothing of the core but them and the mark of the run. -/
theorem core_reconcileOnce (o : Outcome) (c : Core) : ∃ fetchCount resources lastFetchFault state,
    (c.reconcileOnce o).core = c.onSession fun s => { s with fetchCount, resources, lastFetchFault, state } := by
  have hfetch : ∃ fetchCount resources,
      (c.fetch o).core = c.onSession fun s => { s with fetchCount, resources } := by
    rw [fetch]
    split
    · exact ⟨_, _, rfl⟩
    · dsimp only
      split
      · exact ⟨_, _, rfl⟩
      · exact ⟨_, _, rfl⟩
  obtain ⟨fetchCount, resources, hfetch⟩ := hfetch
  rw [reconcileOnce, hfetch]
  split
  · split
    · exact ⟨_, _, _, _, rfl⟩
    · unfold fetchFailed
      split
      · split
        · exact ⟨_, _, _, _, rfl⟩
        · exact ⟨_, _, _, _, rfl⟩
      · exact ⟨_, _, _, _, rfl⟩
  · exact ⟨_, _, _, _, rfl⟩

theorem hookCalls_reconcileOnce (o : Outcome) (c : Core) :
    (c.reconcileOnce o).core.hookCalls = c.hookCalls := by
  obtain ⟨_, _, _, _, hcore⟩ := core_reconcileOnce o c
  rw [hcore]
  rfl

theorem result_clear (hknown : c.session.store < c.storage.stores.length) :
    c.clear.result = .ok () ↔ c.faults.clearError = none := by
  rw [clear]
  split
  next text hfault =>
    rw [hfault]
    exact ⟨fun h => (by cases h), fun h => (by cases h)⟩
  next hfault =>
    exact ⟨fun _ => hfault, fun _ => (Storage.clear_spec hknown).1⟩

theorem core_clear_error (hknown : c.session.store < c.storage.stores.length)
    (h : c.clear.result = .error f) : c.clear.core = c := by
  rw [clear] at h ⊢
  split at h
  next => rfl
  next => cases (Storage.clear_spec hknown).1.symm.trans h

/-- What is left to do at the end of a run once its stop hooks were called. -/
def finish (k : Conditions) (p : Phase) (c : Core) : Turn Unit :=
  if p = .complete then c.roundOff k else c.clear

theorem hookCalls_finish (k : Conditions) (p : Phase) (c : Core) :
    (c.finish k p).core.hookCalls = c.hookCalls := by
  have hfetched := hookCalls_reconcileOnce k.answer c
  rw [finish]
  split
  · refine core_andThen (P := fun d => d.hookCalls = _) hfetched fun _ _ => ?_
    have hcleared := (hookCalls_clear (c.reconcileOnce k.answer).core).trans hfetched
    exact core_andThen (P := fun d => d.hookCalls = _) hcleared fun _ _ => hcleared
  · exact hookCalls_clear c

theorem phase_finish (k : Conditions) (p : Phase) (c : Core) :
    (c.finish k p).core.session.state.phase = c.session.state.phase := by
  obtain ⟨v, -, hstate⟩ := state_reconcileOnce k.answer c
  have hfetched : (c.reconcileOnce k.answer).core.session.state.phase = c.session.state.phase := by
    rw [hstate]
    rfl
  rw [finish]
  split
  · refine core_andThen (P := fun d => d.session.state.phase = _) hfetched fun _ _ => ?_
    rw [← session_clear] at hfetched
    exact core_andThen (P := fun d => d.session.state.phase = _) hfetched fun _ _ => hfetched
  · rw [session_clear]

/-- **When all that is left is done**: the record can be removed, and a complete run gets its resources
and its notice. -/
theorem finish_ok_iff (hknown : c.session.store < c.storage.stores.length) :
    (c.finish k p).result = .ok () ↔ c.faults.clearError = none ∧
      (p = .complete → (c.reconcileOnce k.answer).result = .ok () ∧ k.notice = .ok ()) := by
  rw [finish]
  split
  next hp =>
    have hkept := kept_reconcileOnce k.answer c
    have hknown' : (c.reconcileOnce k.answer).core.session.store
        < (c.reconcileOnce k.answer).core.storage.stores.length := by
      rw [hkept.store, hkept.storage.count]
      exact hknown
    have hfaults : (c.reconcileOnce k.answer).core.faults = c.faults := by
      rw [faults, hkept.store, hkept.storage.faults, faults]
    rw [← hfaults, ← result_clear hknown', roundOff]
    constructor
    · intro hok
      obtain ⟨_, hfetched, hrest⟩ := of_andThen_ok hok
      rw [hrest] at hok
      obtain ⟨_, hcleared, htold⟩ := of_andThen_ok hok
      rw [cleanUp, htold] at hok
      exact ⟨hcleared, fun _ => ⟨hfetched, hok⟩⟩
    · rintro ⟨hcleared, hcomplete⟩
      obtain ⟨hfetched, hnotice⟩ := hcomplete hp
      rw [andThen_ok hfetched, cleanUp, andThen_ok hcleared]
      exact hnotice
  next hp =>
    rw [result_clear hknown]
    exact ⟨fun h => ⟨h, fun h' => absurd h' hp⟩, And.left⟩

/-- **What is stored afterwards**: nothing if all was done; otherwise what was stored before, unless
only the notice could not be raised. -/
theorem stored_finish (hknown : c.session.store < c.storage.stores.length) :
    ((c.finish k p).result = .ok () → (c.finish k p).core.stored = []) ∧
      ∀ f, (c.finish k p).result = .error f → (c.finish k p).core.stored = c.stored ∨
        p = .complete ∧ k.notice = .error f ∧ (c.finish k p).core.stored = [] := by
  rw [finish]
  split
  next hp =>
    have hkept := kept_reconcileOnce k.answer c
    have hstorage := storage_reconcileOnce k.answer c
    have hstored : (c.reconcileOnce k.answer).core.stored = c.stored := by
      rw [stored, hstorage, hkept.store, stored]
    have hknown' : (c.reconcileOnce k.answer).core.session.store
        < (c.reconcileOnce k.answer).core.storage.stores.length := by
      rw [hkept.store, hstorage]
      exact hknown
    rw [roundOff]
    cases hr : (c.reconcileOnce k.answer).result with
    | error g =>
      rw [andThen_error hr]
      exact ⟨fun h => (by cases h), fun _ _ => .inl hstored⟩
    | ok _ =>
      rw [andThen_ok hr, cleanUp]
      cases hcleared : (c.reconcileOnce k.answer).core.clear.result with
      | error g =>
        rw [andThen_error hcleared, failing_core, core_clear_error hknown' hcleared]
        exact ⟨fun h => (by cases h), fun _ _ => .inl hstored⟩
      | ok _ =>
        rw [andThen_ok hcleared]
        have hnone := stored_clear hknown' hcleared
        exact ⟨fun _ => hnone, fun _ hnotice => .inr ⟨hp, hnotice, hnone⟩⟩
  next hp =>
    refine ⟨stored_clear hknown, fun f hf => .inl ?_⟩
    rw [core_clear_error hknown hf]

/-! ## Reports that end a run -/

/-- **A report ends a run**, which it fails or completes; the core is that of the run before anybody is
told. -/
inductive Ends (c : Core) (report : Status) : Phase → Core → Prop
  | fails (active : c.session.state.phase.isActive = true) (failure : report.isFailure = true) :
    Ends c report .failed (c.failed report.errorText)
  | completes {a : RunState.Advance} (active : c.session.state.phase.isActive = true)
    (failure : report.isFailure = false) (course : c.course report = .ok a)
    (phase : a.state.phase = .complete) : Ends c report .complete (c.moved a).stopped

/-- **Whatever a report ends, it ended in this way.** -/
theorem Live.ends (h : c.Live) (hactive : c.session.state.phase.isActive = true)
    (hover : (c.apply k report).core.session.state.phase.isActive = false) :
    ∃ p d, c.Ends report p d := by
  revert hover
  refine state_apply (P := fun s => s.phase.isActive = false → ∃ p d, c.Ends report p d)
    h.plain.state.sound (fun hidle => absurd (hidle.symm.trans hactive) Bool.false_ne_true)
    (fun _ hfailure _ => ⟨_, _, .fails hactive hfailure⟩) ?_ ?_
  · intro _ a ha hphase v _ hover
    obtain ⟨q, -, hcourse⟩ := RunState.Course.of_advance hactive ha
    have hgoes : a.state.phase.isActive = true :=
      (hcourse.isActive_or_complete hactive).resolve_right hphase
    cases hgoes.symm.trans hover
  · intro _ a ha hphase _ _ _
    cases hfailure : report.isFailure with
    | true => exact ⟨_, _, .fails hactive hfailure⟩
    | false => exact ⟨_, _, .completes hactive hfailure ha hphase⟩

namespace Ends

theorem terminal (h : c.Ends report p d) : p.isActive = false := by
  cases h <;> rfl

theorem phase (h : c.Ends report p d) : d.session.state.phase = p := by
  cases h with
  | fails => rfl
  | completes _ _ _ hphase => exact hphase

theorem kept (h : c.Ends report p d) : c.Kept d := by
  cases h with
  | fails => exact kept_failed c _
  | completes => exact ⟨⟨rfl, rfl, rfl, rfl, rfl, .refl _⟩, rfl⟩

theorem stored_eq (h : c.Ends report p d) : d.stored = c.stored := by
  cases h <;> rfl

theorem hookCalls_eq (h : c.Ends report p d) :
    d.hookCalls = c.hookCalls ∧ d.keepsRecord = c.keepsRecord := by
  cases h <;> exact ⟨rfl, rfl⟩

/-- **What a report does that ends a run**: hooks first, then what is left. -/
theorem apply_eq (h : c.Ends report p d) (hsound : c.session.state.Sound) :
    c.apply k report = ((d.runHooks p c.session.hooks).andThen fun _ e => e.finish k p).andThen
      fun _ e => e.concluded c.session.state.phase := by
  cases h with
  | fails hactive hfailure => exact apply_failure hactive hfailure
  | @completes a hactive hfailure hcourse hphase =>
    obtain ⟨q, -, hq⟩ := RunState.Course.of_advance hactive hcourse
    have hsame : a.state.sameAs c.session.state = false := by
      refine Bool.eq_false_iff.mpr fun hsame => ?_
      rw [← hq.eq_of_sameAs hsame, hphase] at hactive
      cases hactive
    have hquiet : a.provisions = false :=
      Bool.eq_false_iff.mpr fun hp => nomatch (hq.provisioning hp).symm.trans hphase
    have htold : c.told k a = (c.moved a).giving () := by
      rw [told, hquiet]
      rfl
    have hsettle : (c.moved a).settle k a = (c.moved a).complete k := if_pos hphase
    rw [apply_moved hactive hsound hfailure hcourse hsame, htold, andThen_giving, hsettle]
    rfl

section
variable (h : c.Ends report p d) (hlive : c.Live)
include h hlive

/-- The core at the end of the steps is that after the report, and a run that has ended shows its
state. -/
theorem core_eq (hreport : report.Plain) :
    (c.apply k report).core
      = ((d.runHooks p c.session.hooks).andThen fun _ e => e.finish k p).core ∧
    (c.apply k report).result
      = ((d.runHooks p c.session.hooks).andThen fun _ e => e.finish k p).result.map fun _ =>
        ⟨c.session.state.phase, (c.apply k report).core.session.state, true⟩ := by
  have hsound := (hlive.apply (k := k) hreport).plain.state.sound
  rw [h.apply_eq hlive.plain.state.sound] at hsound ⊢
  generalize (d.runHooks p c.session.hooks).andThen (fun _ e => e.finish k p) = t at hsound ⊢
  have hcore : (t.andThen fun _ e => e.concluded c.session.state.phase).core = t.core :=
    core_andThen (P := fun e => e = t.core) rfl fun _ _ => core_concluded ..
  rw [hcore] at hsound ⊢
  refine ⟨rfl, ?_⟩
  cases hr : t.result with
  | error f =>
    rw [andThen_error hr]
    rfl
  | ok _ =>
    rw [andThen_ok hr, concluded, snapshot_eq hsound]
    rfl

theorem afterHooks : d.Alike (d.runHooks p c.session.hooks).core ∧
    (d.runHooks p c.session.hooks).core.session.store
      < (d.runHooks p c.session.hooks).core.storage.stores.length := by
  have halike := Alike.runHooks p c.session.hooks d
  refine ⟨halike, ?_⟩
  rw [halike.store, halike.storage, h.kept.store, h.kept.storage.count]
  exact hlive.known

/-- **Exactly the hooks up to the first that fails are called**, each once, and the run is over. -/
theorem calls (hreport : report.Plain) :
    (c.apply k report).core.session.state.phase = p ∧ (c.apply k report).core.hookCalls
      = c.hookCalls ++
        (StopHook.called c.session.hooks).filterMap (StopHook.report p c.keepsRecord) := by
  obtain ⟨hcore, -⟩ := h.core_eq hlive (k := k) hreport
  have hphase : (d.runHooks p c.session.hooks).core.session.state.phase = p := by
    rw [state_runHooks]
    exact h.phase
  have hcalls := hookCalls_runHooks p c.session.hooks d
  rw [h.hookCalls_eq.1, h.hookCalls_eq.2] at hcalls
  rw [hcore]
  constructor
  · refine core_andThen (P := fun e => e.session.state.phase = p) hphase fun _ _ => ?_
    rw [phase_finish]
    exact hphase
  · refine core_andThen (P := fun e => e.hookCalls = _) hcalls fun _ _ => ?_
    rw [hookCalls_finish]
    exact hcalls

/-- **When the report ends normally**: no hook fails, the record can be removed, and a complete run gets
its resources and its notice. -/
theorem ok_iff (hreport : report.Plain) :
    (∃ t, (c.apply k report).result = .ok t) ↔ c.session.hooks.any StopHook.fails = false ∧
      c.faults.clearError = none ∧
      (p = .complete → (d.reconcileOnce k.answer).result = .ok () ∧ k.notice = .ok ()) := by
  obtain ⟨-, hresult⟩ := h.core_eq hlive (k := k) hreport
  obtain ⟨halike, hknown⟩ := h.afterHooks hlive
  have hhooks := result_runHooks p c.session.hooks d
  have hfaults : (d.runHooks p c.session.hooks).core.faults = c.faults := by
    rw [halike.faults, faults, h.kept.store, h.kept.storage.faults, faults]
  rw [← (halike.reconcileOnce k.answer).result, ← hfaults, ← finish_ok_iff hknown, hresult]
  cases hany : c.session.hooks.any StopHook.fails with
  | true =>
    rw [hany, if_pos rfl] at hhooks
    rw [andThen_error hhooks]
    constructor
    · rintro ⟨t, ht⟩
      cases ht
    · rintro ⟨hno, -⟩
      cases hno
  | false =>
    rw [hany, if_neg Bool.false_ne_true] at hhooks
    rw [andThen_ok hhooks]
    cases hr : ((d.runHooks p c.session.hooks).core.finish k p).result with
    | error f =>
      constructor
      · rintro ⟨t, ht⟩
        cases ht
      · rintro ⟨-, hno⟩
        cases hno
    | ok _ => exact ⟨fun _ => ⟨rfl, rfl⟩, fun _ => ⟨_, rfl⟩⟩

/-- **A stop hook that fails** breaks off the report, and the record stays. -/
theorem hook_fails (hreport : report.Plain) (hfails : c.session.hooks.any StopHook.fails = true) :
    (c.apply k report).result = .error (.broken "hook") ∧
      (c.apply k report).core.stored = c.stored := by
  obtain ⟨hcore, hresult⟩ := h.core_eq hlive (k := k) hreport
  obtain ⟨halike, -⟩ := h.afterHooks hlive
  have hhooks := result_runHooks p c.session.hooks d
  rw [if_pos hfails] at hhooks
  rw [hresult, hcore, andThen_error hhooks]
  exact ⟨rfl, halike.stored.trans h.stored_eq⟩

/-- **What is stored at the end**: nothing if the report ends normally, and then readers are given the
last state. If a step breaks, the record stays as it was, unless it was only the notice. -/
theorem stored (hreport : report.Plain) :
    (∀ t, (c.apply k report).result = .ok t → (c.apply k report).core.stored = [] ∧
      t = ⟨c.session.state.phase, (c.apply k report).core.session.state, true⟩) ∧
    ∀ f, (c.apply k report).result = .error f → (c.apply k report).core.stored = c.stored ∨
      p = .complete ∧ k.notice = .error f ∧ (c.apply k report).core.stored = [] := by
  obtain ⟨hcore, hresult⟩ := h.core_eq hlive (k := k) hreport
  obtain ⟨halike, hknown⟩ := h.afterHooks hlive
  obtain ⟨hdone, hbroken⟩ := stored_finish (k := k) (p := p) hknown
  have hbefore : (d.runHooks p c.session.hooks).core.stored = c.stored :=
    halike.stored.trans h.stored_eq
  rw [hresult, hcore]
  cases hr : (d.runHooks p c.session.hooks).result with
  | error g =>
    rw [andThen_error hr]
    exact ⟨fun t ht => (nomatch ht), fun _ _ => .inl hbefore⟩
  | ok _ =>
    rw [andThen_ok hr, ← hbefore]
    cases hr' : ((d.runHooks p c.session.hooks).core.finish k p).result with
    | error g =>
      refine ⟨fun t ht => (nomatch ht), fun f hf => hbroken f ?_⟩
      cases hf
      exact hr'
    | ok _ =>
      refine ⟨fun t ht => ⟨hdone hr', ?_⟩, fun f hf => (nomatch hf)⟩
      cases ht
      rfl

end

end Ends

end Core

end Cutover
