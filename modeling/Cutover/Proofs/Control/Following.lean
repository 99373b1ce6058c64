import Cutover.Proofs.Control.Alike
import Cutover.Proofs.Control.Applying
import Cutover.Proofs.Control.Restoring

/-!
# Following a run

A run that began and was moved on by reports, all of which came out normally, is in the store as long
as it is in progress, and no resources are kept that are still to be fetched. Whoever takes it up
follows the same run.

* `Core.Followed`: what holds all through such a run;
* `Core.followed_begin`, `Core.Followed.apply`: it holds at the beginning and after every report;
* `Core.Followed.takenUp`: **whoever takes up the run follows the same run**.
-/

namespace Cutover

namespace Core

variable {c d : Core} {k : Conditions} {report : Status}

/-! ## The parts of a report -/

theorem isDue_persist (c : Core) : c.persist.core.isDue = c.isDue := by
  rw [isDue, session_persist, isDue]

/-- Where the resources are still to be fetched after they were asked for, none are kept that were not
kept before. -/
theorem resources_reconcileOnce (o : Outcome) (h : c.isDue = true → c.session.resources = none)
    (hdue : (c.reconcileOnce o).core.isDue = true) :
    (c.reconcileOnce o).core.session.resources = none := by
  cases hd : c.isDue with
  | false =>
    rw [reconcileOnce_idle hd] at hdue
    rw [giving_core, hd] at hdue
    cases hdue
  | true =>
    have hnone := h hd
    cases hr : (c.fetch o).result with
    | ok items =>
      rw [reconcileOnce_ok hd hr] at hdue
      have hdone : (c.fetch o).core.reconciled.isDue = false := by
        rw [isDue, reconciled, RunState.isReconciled]
        exact Bool.and_false _
      rw [giving_core, hdone] at hdue
      cases hdue
    | error f =>
      rw [reconcileOnce_error hd hr]
      have hfetch : (c.fetch o).core.session.resources = none := by
        rw [fetch, hnone] at hr ⊢
        dsimp only at hr ⊢
        cases ho : o.resources with
        | ok items =>
          rw [ho] at hr
          cases hr
        | error g => exact hnone
      unfold fetchFailed
      split
      · split
        · exact hfetch
        · exact hfetch
      · exact hfetch

/-! ## The whole run -/

/-- **A run that was followed from its beginning** by calls that came out normally: it is plain, and
while it is in progress it is in the store, and no resources are kept that are still to be fetched. -/
structure Followed (c : Core) : Prop where
  plain : c.Plain
  known : c.session.store < c.storage.stores.length
  stored : c.session.state.isRunning = true → c.stored = c.record.encode
  resources : c.session.state.isRunning = true → c.isDue = true → c.session.resources = none

theorem followed_begin {mode : Mode} {transfer : Transfer} {shards instances : Value} {s : RunState}
    (hknown : c.session.store < c.storage.stores.length) (hnone : c.session.resources = none)
    (hshards : shards.IsWhole) (hinstances : instances.IsWhole)
    (h : (c.begin mode transfer shards instances).result = .ok s) :
    (c.begin mode transfer shards instances).core.Followed := by
  have hplain := plain_launched c mode transfer hshards hinstances
  unfold begin at h ⊢
  split at h
  · cases h
  next hrunning =>
    rw [if_neg hrunning]
    obtain ⟨_, hok, hrest⟩ := of_andThen_ok h
    generalize hd : c.launched mode transfer shards instances = d at hok hplain hrest ⊢
    have hcore : (d.persist.andThen fun _ e => e.snapshot).core = d.persist.core := by rw [hrest]; rfl
    have hknown' : d.session.store < d.storage.stores.length := hd ▸ hknown
    have hkept := kept_persist d
    rw [hcore]
    refine ⟨hplain.persist, ?_, fun _ => ?_, fun _ _ => ?_⟩
    · rw [hkept.store]
      exact Nat.lt_of_lt_of_eq hknown' hkept.storage.count.symm
    · rw [record, session_persist]
      exact stored_persist hknown' hok
    · rw [session_persist, ← hd]
      exact hnone

namespace Followed

/-- No resources are kept of a run that has moved on, as long as they are still to be fetched. -/
theorem settle {a : RunState.Advance}
    (hnone : c.session.state.isRunning = true → c.isDue = true → c.session.resources = none)
    (h : (c.settle k a).result = .ok ())
    (hrunning : (c.settle k a).core.session.state.isRunning = true) :
    (c.settle k a).core.isDue = true → (c.settle k a).core.session.resources = none := by
  have hpersist : ∀ d : Core, (d.isDue = true → d.session.resources = none) →
      d.persist.core.isDue = true → d.persist.core.session.resources = none := by
    intro d hd
    rw [isDue_persist, session_persist]
    exact hd
  unfold Core.settle at h hrunning ⊢
  split at h
  next hphase =>
    obtain ⟨v, -, hstate⟩ := state_complete k c
    rw [if_pos hphase, hstate] at hrunning
    cases hrunning
  next hphase =>
    rw [if_neg hphase] at hrunning ⊢
    split at h
    next hreconciles =>
      rw [if_pos hreconciles] at hrunning ⊢
      obtain ⟨_, -, hrest⟩ := of_andThen_ok h
      rw [hrest] at hrunning ⊢
      rw [session_persist] at hrunning
      obtain ⟨v, -, hv⟩ := state_reconcileOnce k.answer c
      rw [hv] at hrunning
      exact hpersist _ (resources_reconcileOnce k.answer (hnone hrunning))
    next hreconciles =>
      rw [if_neg hreconciles] at hrunning ⊢
      rw [session_persist] at hrunning
      exact hpersist c (hnone hrunning)

/-- **A report that comes out normally keeps the run in the store.** -/
theorem apply (h : c.Followed) (hreport : report.Plain) {t : Transition}
    (hresult : (c.apply k report).result = .ok t) : (c.apply k report).core.Followed := by
  have hplain := h.plain.apply (k := k) hreport
  have hkept := kept_apply k report c
  have hknown : (c.apply k report).core.session.store < (c.apply k report).core.storage.stores.length := by
    rw [hkept.store]
    exact Nat.lt_of_lt_of_eq h.known hkept.storage.count.symm
  suffices hrun : (c.apply k report).core.session.state.isRunning = true →
      (c.apply k report).core.stored = (c.apply k report).core.record.encode ∧
        ((c.apply k report).core.isDue = true → (c.apply k report).core.session.resources = none) from
    ⟨hplain, hknown, fun hr => (hrun hr).1, fun hr => (hrun hr).2⟩
  clear hplain hkept hknown
  revert hresult
  refine apply_cases (P := fun u => u.result = .ok t → u.core.session.state.isRunning = true →
    u.core.stored = u.core.record.encode ∧
      (u.core.isDue = true → u.core.session.resources = none)) h.plain.state.sound ?_ ?_ ?_ ?_ ?_
  · exact fun _ _ hr => ⟨h.stored hr, h.resources hr⟩
  · intro _ _ hresult hr
    obtain ⟨_, -, hrest⟩ := of_andThen_ok hresult
    rw [hrest, core_concluded, state_failRun] at hr
    cases hr
  · exact fun _ _ _ _ hresult => nomatch hresult
  · exact fun _ _ _ _ _ _ hr => ⟨h.stored hr, h.resources hr⟩
  · intro hactive _ a ha _ hresult
    obtain ⟨q, -, hcourse⟩ := RunState.Course.of_advance hactive ha
    obtain ⟨_, hsettled, hrest⟩ := of_andThen_ok hresult
    obtain ⟨_, -, hmoved⟩ := of_andThen_ok hsettled
    rw [hmoved] at hsettled
    rw [hrest, hmoved, core_concluded]
    intro hr
    have hphase : a.state.phase ≠ .complete := by
      intro hcomplete
      obtain ⟨v, -, hstate⟩ := state_complete k (c.moved a)
      have hcore : (c.moved a).settle k a = (c.moved a).complete k := if_pos hcomplete
      have hstopped : ((c.moved a).settle k a).core.session.state.isRunning = true := hr
      rw [hcore, hstate] at hstopped
      cases hstopped
    refine ⟨stored_settle (c := c.moved a) h.known hphase hsettled,
      settle (c := c.moved a) (fun hr hdue => h.resources ?_ ?_) hsettled hr⟩
    · rw [← hr, RunState.isRunning, ← hcourse.inProgress]
      rfl
    · rw [← hdue, isDue, RunState.isReconciled, ← hcourse.reconciled]
      rfl

theorem alike (h : c.Followed) (halike : c.Alike d) : d.Followed where
  plain := by
    refine ⟨halike.state ▸ h.plain.state, ?_, ?_⟩
    · rw [show d.session.shardCount = c.session.shardCount from
        congrArg Record.Context.shardCount halike.context]
      exact h.plain.shardCount
    · rw [show d.session.instanceCount = c.session.instanceCount from
        congrArg Record.Context.instanceCount halike.context]
      exact h.plain.instanceCount
  known := by
    rw [halike.store, halike.storage]
    exact h.known
  stored hr := by
    rw [halike.stored, halike.record]
    exact h.stored (halike.state ▸ hr)
  resources hr hdue := by
    have hdue' : c.isDue = true := halike.isDue ▸ hdue
    rw [halike.resources hdue']
    exact h.resources (halike.state ▸ hr) hdue'

end Followed

/-- **Whoever takes up a run that was followed follows the same run**: on the same storage, with hooks
that fail as before, and without resources of its own. -/
theorem Followed.takenUp (h : c.Followed) (hrunning : c.session.state.isRunning = true)
    (hstorage : d.storage = c.storage) (hstore : d.session.store = c.session.store)
    (hbare : d.session.isBare = c.session.isBare)
    (hhooks : d.session.hooks.any StopHook.fails = c.session.hooks.any StopHook.fails)
    (hnone : d.session.resources = none) : c.Alike (d.takenUp c) where
  state := rfl
  context := rfl
  store := hstore
  isBare := hbare
  storage := hstorage
  hooks := hhooks
  resources hdue := hnone.trans (h.resources hrunning hdue).symm

end Core

end Cutover
