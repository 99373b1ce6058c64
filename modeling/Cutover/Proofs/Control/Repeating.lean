import Cutover.Proofs.Control.Following

/-!
# The same report again

A report may be broken off after the state has moved on: telling the user of provisioning, fetching the
resources or saving the record ends it by a fault. The state is then ahead of what is stored, and since
it already is where the report takes it, the same report is passed over from then on.

* `Core.Live`: what holds of every run that the client works on;
* `Core.Live.brokenOff`: what is left of a report that was broken off;
* `Core.apply_again`: **the same report is passed over**;
* `Core.Live.apply_ok`: a report that ends normally changes nothing, or brings store and state in
  agreement.
-/

namespace Cutover

namespace Core

variable {c d : Core} {k : Conditions} {report : Status} {f : Fault}

/-- **What holds of every run that the client works on**: it is plain, its store is known, and in an
active phase it is in progress. -/
structure Live (c : Core) : Prop where
  plain : c.Plain
  known : c.session.store < c.storage.stores.length
  running : c.session.state.phase.isActive = true → c.session.state.isRunning = true

theorem Live.kept (h : c.Live) (hstays : c.Stays d) (hplain : d.Plain)
    (hrunning : d.session.state.phase.isActive = true → d.session.state.isRunning = true) : d.Live where
  plain := hplain
  known := by
    rw [hstays.store, hstays.storage.count]
    exact h.known
  running := hrunning

theorem Live.ofRun (h : c.Live) (hstate : d.session.state = c.session.state)
    (hcontext : d.session.context = c.session.context)
    (hknown : d.session.store < d.storage.stores.length) : d.Live := by
  refine ⟨⟨hstate ▸ h.plain.state, ?_, ?_⟩, hknown, hstate ▸ h.running⟩
  · have hcount : d.session.shardCount = c.session.shardCount :=
      congrArg Record.Context.shardCount hcontext
    exact hcount ▸ h.plain.shardCount
  · have hcount : d.session.instanceCount = c.session.instanceCount :=
      congrArg Record.Context.instanceCount hcontext
    exact hcount ▸ h.plain.instanceCount

theorem Live.begin (h : c.Live) {mode : Mode} {transfer : Transfer} {shards instances : Value}
    (hshards : shards.IsWhole) (hinstances : instances.IsWhole) :
    (c.begin mode transfer shards instances).core.Live := by
  have hstays := stays_begin mode transfer shards instances c
  have hplain := plain_launched c mode transfer hshards hinstances
  unfold Core.begin at hstays ⊢
  split at hstays
  next hrunning =>
    rw [if_pos hrunning]
    exact h
  next hrunning =>
    rw [if_neg hrunning]
    have hcore : ((c.launched mode transfer shards instances).persist.andThen
        fun _ d => d.snapshot).core = (c.launched mode transfer shards instances).persist.core :=
      core_andThen (P := fun d => d = _) rfl fun _ _ => rfl
    rw [hcore] at hstays ⊢
    refine h.kept hstays hplain.persist fun _ => ?_
    rw [session_persist]
    exact isRunning_launched mode

theorem Live.apply (h : c.Live) (hreport : report.Plain) : (c.apply k report).core.Live := by
  refine h.kept (kept_apply k report c).toStays (h.plain.apply hreport) ?_
  refine state_apply (P := fun s => s.phase.isActive = true → s.isRunning = true)
    h.plain.state.sound h.running (fun _ _ => nofun) ?_ ?_
  · intro hactive a ha _ v _ _
    obtain ⟨q, -, hcourse⟩ := RunState.Course.of_advance hactive ha
    have hsame : (a.state.marked v).isRunning = c.session.state.isRunning :=
      congrArg Value.isTruthy hcourse.inProgress
    exact hsame.trans (h.running hactive)
  · intro _ a _ hphase v _ hactive
    have hcomplete : (a.state.stopped.marked v).phase = .complete := hphase
    rw [hcomplete] at hactive
    cases hactive

/-! ## Reports that are broken off -/

theorem storage_persist (hknown : c.session.store < c.storage.stores.length)
    (h : c.persist.result = .error f) : c.persist.core.storage = c.storage := by
  unfold persist at h ⊢
  split at h
  next hfault => rfl
  next hfault =>
    have hok : (c.storage.save c.session.store c.record.encode).1 = .ok () :=
      (Storage.save_spec hknown c.record.encode_names).1
    cases hok.symm.trans h

theorem storage_settle {a : RunState.Advance} (hknown : c.session.store < c.storage.stores.length)
    (hphase : c.session.state.phase ≠ .complete) (h : (c.settle k a).result = .error f) :
    (c.settle k a).core.storage = c.storage := by
  rw [settle, if_neg hphase] at h ⊢
  split at h
  next hreconciles =>
    rw [if_pos hreconciles]
    have hstorage := storage_reconcileOnce k.answer c
    cases hr : (c.reconcileOnce k.answer).result with
    | error g =>
      rw [andThen_error hr]
      exact hstorage
    | ok _ =>
      rw [andThen_ok hr] at h ⊢
      rw [storage_persist ?_ h]
      · exact hstorage
      · rw [(kept_reconcileOnce k.answer c).store, hstorage]
        exact hknown
  next hreconciles =>
    rw [if_neg hreconciles]
    exact storage_persist hknown h

/-- **What is left of a report that was broken off** while the run goes on: the state has moved on, and
nothing was stored. -/
theorem Live.brokenOff (h : c.Live) (hreport : report.Plain)
    (herror : (c.apply k report).result = .error f)
    (hactive : (c.apply k report).core.session.state.phase.isActive = true)
    (hchanged : (c.apply k report).core.session.state ≠ c.session.state) :
    c.session.state.phase.isActive = true ∧ report.isFailure = false ∧
      (c.apply k report).core.storage = c.storage ∧ ∃ a v, c.course report = .ok a ∧
        a.state.phase ≠ .complete ∧ (c.apply k report).core.session.state = a.state.marked v := by
  have hsound := (h.apply (k := k) hreport).plain.state.sound
  revert herror hactive hchanged hsound
  refine apply_cases (P := fun u => u.result = .error f → u.core.session.state.phase.isActive = true →
    u.core.session.state ≠ c.session.state → u.core.session.state.Sound →
      c.session.state.phase.isActive = true ∧ report.isFailure = false ∧
        u.core.storage = c.storage ∧ ∃ a v, c.course report = .ok a ∧ a.state.phase ≠ .complete ∧
          u.core.session.state = a.state.marked v) h.plain.state.sound ?_ ?_ ?_ ?_ ?_
  · exact fun _ herror => by cases herror
  · intro _ _ _ hactive
    have hfailed : ((c.failRun report.errorText).andThen fun _ d =>
        d.concluded c.session.state.phase).core.session.state
          = c.session.state.afterFailure c.session.mode report.errorText :=
      core_andThen (P := fun d => d.session.state = _) (state_failRun ..) fun _ _ => by
        rw [core_concluded, state_failRun]
    rw [hfailed] at hactive
    cases hactive
  · exact fun _ _ _ _ _ _ hchanged => absurd rfl hchanged
  · exact fun _ _ _ _ _ herror => by cases herror
  · intro hactive hfailure a ha _ herror hactive' _ hsound
    have hcore : (((c.told k a).andThen fun _ d => d.settle k a).andThen fun _ e =>
        e.concluded c.session.state.phase).core
          = ((c.told k a).andThen fun _ d => d.settle k a).core :=
      core_andThen (P := fun d => d = _) rfl fun _ _ => core_concluded ..
    rw [hcore] at hactive' hsound ⊢
    refine ⟨hactive, hfailure, ?_⟩
    cases htold : (c.told k a).result with
    | error g =>
      -- The user cannot be told of provisioning.
      have hphase : a.state.phase ≠ .complete := by
        obtain ⟨q, -, hcourse⟩ := RunState.Course.of_advance hactive ha
        cases hp : a.provisions with
        | false => rw [told, hp] at htold; cases htold
        | true => rw [hcourse.provisioning hp]; decide
      rw [andThen_error htold]
      exact ⟨rfl, a, a.state.reconciled, ha, hphase, rfl⟩
    | ok _ =>
      rw [andThen_ok htold] at herror hactive' hsound ⊢
      have hphase : a.state.phase ≠ .complete := by
        intro hcomplete
        obtain ⟨v, -, hstate⟩ := state_complete k (c.moved a)
        have hsettle : (c.told k a).core.settle k a = (c.moved a).complete k := if_pos hcomplete
        rw [hsettle, hstate] at hactive'
        have hphase' : ((c.moved a).session.state.stopped.marked v).phase = .complete := hcomplete
        rw [hphase'] at hactive'
        cases hactive'
      obtain ⟨v, -, hstate⟩ := state_settle (c := c.moved a) hphase k a
      refine ⟨storage_settle (c := c.moved a) (f := f) h.known hphase ?_, a, v, ha, hphase, hstate⟩
      cases hsettled : ((c.told k a).core.settle k a).result with
      | error g =>
        rw [andThen_error hsettled] at herror
        cases herror
        exact hsettled
      | ok _ =>
        rw [andThen_ok hsettled, concluded, snapshot_eq hsound] at herror
        cases herror

/-- **The same report is passed over** once the state is where it takes the run. -/
theorem apply_again {a : RunState.Advance} {v : Value} (hactive : c.session.state.phase.isActive = true)
    (hfailure : report.isFailure = false) (hcourse : c.course report = .ok a)
    (hphase : a.state.phase ≠ .complete) (hstate : d.session.state = a.state.marked v)
    (hcontext : d.session.context = c.session.context) (hsound : d.session.state.Sound) :
    d.apply k report = d.giving ⟨d.session.state.phase, d.session.state, false⟩ := by
  have hmode : d.session.mode = c.session.mode := congrArg Record.Context.mode hcontext
  have htransfer : d.session.transfer = c.session.transfer :=
    congrArg Record.Context.transfer hcontext
  have hactive' : d.session.state.phase.isActive = true := by
    obtain ⟨q, -, hq⟩ := RunState.Course.of_advance hactive hcourse
    rw [hstate]
    exact (hq.isActive_or_complete hactive).resolve_right hphase
  have hagain := RunState.advance_again hactive hcourse hphase
  have hmarked := RunState.advance_marked a.state v c.session.mode c.session.transfer report
  rw [hagain, ← hstate, ← hmode, ← htransfer] at hmarked
  have hmarked : (d.course report).map RunState.Advance.state = .ok (a.state.marked v) := hmarked
  cases hnext : d.course report with
  | error g =>
    rw [hnext] at hmarked
    cases hmarked
  | ok b =>
    rw [hnext] at hmarked
    have hsame : b.state = d.session.state := (Except.ok.inj hmarked).trans hstate.symm
    refine apply_same hactive' hsound hfailure hnext ?_
    rw [hsame]
    exact hsound.sameAs_self

/-! ## Reports that end normally -/

/-- **A report that ends normally** changes nothing, or brings store and state in agreement; what it
gives is the state. -/
theorem Live.apply_ok {t : Transition} (h : c.Live) (hreport : report.Plain)
    (hok : (c.apply k report).result = .ok t) :
    t.state = (c.apply k report).core.session.state ∧
      (t.changed = false → (c.apply k report).core = c) ∧
      (t.changed = true → (c.apply k report).core.Agrees) := by
  have hrunning := (h.apply (k := k) hreport).running
  have hsound := (h.apply (k := k) hreport).plain.state.sound
  have hconcluded : ∀ {d : Core}, d.session.state.Sound → d.Agrees →
      (d.concluded c.session.state.phase).result = .ok t →
        t.state = (d.concluded c.session.state.phase).core.session.state ∧
          (t.changed = false → (d.concluded c.session.state.phase).core = c) ∧
          (t.changed = true → (d.concluded c.session.state.phase).core.Agrees) := by
    intro d hd hagrees hr
    rw [concluded, snapshot_eq hd] at hr ⊢
    cases hr
    exact ⟨rfl, fun h => (by cases h), fun _ => hagrees⟩
  revert hok hrunning hsound
  refine apply_cases (P := fun u => u.result = .ok t →
    (u.core.session.state.phase.isActive = true → u.core.session.state.isRunning = true) →
      u.core.session.state.Sound → t.state = u.core.session.state ∧
        (t.changed = false → u.core = c) ∧ (t.changed = true → u.core.Agrees))
    h.plain.state.sound ?_ ?_ ?_ ?_ ?_
  · intro _ hok _ _
    cases hok
    exact ⟨rfl, fun _ => rfl, fun h => by cases h⟩
  · intro _ _ hok _ hsound
    obtain ⟨_, hfailed, hrest⟩ := of_andThen_ok hok
    rw [hrest, core_concluded] at hsound
    rw [hrest] at hok ⊢
    refine hconcluded hsound ?_ hok
    rw [Agrees, stored_failRun h.known hfailed, state_failRun]
    rfl
  · exact fun _ _ _ _ hok => by cases hok
  · intro _ _ _ _ _ hok _ _
    cases hok
    exact ⟨rfl, fun _ => rfl, fun h => by cases h⟩
  · intro hactive _ a ha _ hok hrunning hsound
    obtain ⟨_, hsettled, hrest⟩ := of_andThen_ok hok
    obtain ⟨_, -, hmoved⟩ := of_andThen_ok hsettled
    rw [hrest, hmoved, core_concluded] at hrunning hsound
    rw [hmoved] at hsettled
    rw [hrest, hmoved] at hok ⊢
    refine hconcluded hsound ?_ hok
    by_cases hphase : a.state.phase = .complete
    · have hcomplete : (c.told k a).core.settle k a = (c.moved a).complete k := if_pos hphase
      obtain ⟨v, -, hstate⟩ := state_complete k (c.moved a)
      rw [hcomplete] at hsettled ⊢
      rw [Agrees, stored_complete (c := c.moved a) h.known hsettled, hstate]
      rfl
    · obtain ⟨v, -, hstate⟩ := state_settle (c := c.moved a) hphase k a
      obtain ⟨q, -, hcourse⟩ := RunState.Course.of_advance hactive ha
      have hactive' : (a.state.marked v).phase.isActive = true :=
        (hcourse.isActive_or_complete hactive).resolve_right hphase
      rw [Agrees, if_pos]
      · exact stored_settle (c := c.moved a) h.known hphase hsettled
      · refine hrunning ?_
        show ((c.moved a).settle k a).core.session.state.phase.isActive = true
        rw [hstate]
        exact hactive'

end Core

end Cutover
