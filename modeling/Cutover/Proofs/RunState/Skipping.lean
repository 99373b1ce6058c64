import Cutover.Proofs.RunState.Order
import Mathlib.Data.List.Induction

/-!
# The last report says it all

The service reports its steps in order. Each signal implies that the steps before it are done, so where
a run that migrates data stands depends on the last report alone, whichever were missed on the way.

* `RunState.Mark`: how far a run is, with `RunState.Mark.next`, what a signal makes of that;
* `RunState.mark_after`: a report does to a run what its signal does to the mark;
* `Status.InOrder`: reports in the order of the service;
* `RunState.mark_afterAll`: **where reports in order take a run, the last of them takes it alone**.
-/

namespace Cutover

/-! ## Reports in order -/

namespace Signal

/-- The step of a signal in the order of the service. -/
def step : Signal → Nat
  | quiet => 0
  | schemaInProgress => 1
  | schemaComplete => 2
  | dataInProgress => 3
  | foreignKeysInProgress => 4
  | dataComplete | foreignKeysComplete => 5

/-- The signal ends a run. -/
def isLast : Signal → Bool
  | dataComplete | foreignKeysComplete => true
  | _ => false

end Signal

namespace Status

/-- **One report may come after another**: its signal is a later one, or the same with no less
progress. Nothing comes after the end, and once foreign keys were reported the data alone does not end
a run. -/
structure Follows (earlier later : Status) : Prop where
  goesOn : earlier.signal.isLast = false
  comes : earlier.signal.step < later.signal.step ∨ earlier.signal = later.signal ∧
    ∃ m n : Int, earlier.progress = .whole m ∧ later.progress = .whole n ∧ m ≤ n
  apart : ¬(earlier.signal = .foreignKeysInProgress ∧ later.signal = .dataComplete)

/-- The reports that tell something. -/
def telling (reports : List Status) : List Status := reports.filter (·.signal ≠ .quiet)

/-- The last report that tells something. -/
def last? (reports : List Status) : Option Status := (telling reports).getLast?

/-- **Reports in the order of the service**, none of them a failure. -/
structure InOrder (reports : List Status) : Prop where
  plain : ∀ r ∈ reports, r.Plain
  noFailure : ∀ r ∈ reports, r.isFailure = false
  ordered : (telling reports).Pairwise Follows

variable {reports : List Status} {report : Status}

theorem telling_concat_quiet (h : report.signal = .quiet) :
    telling (reports ++ [report]) = telling reports := by
  simp [telling, h]

theorem telling_concat (h : report.signal ≠ .quiet) :
    telling (reports ++ [report]) = telling reports ++ [report] := by
  simp [telling, h]

theorem InOrder.sublist {fewer : List Status} (h : InOrder reports) (hfewer : fewer.Sublist reports) :
    InOrder fewer where
  plain r hr := h.plain r (hfewer.mem hr)
  noFailure r hr := h.noFailure r (hfewer.mem hr)
  ordered := h.ordered.sublist (hfewer.filter _)

end Status

namespace RunState

/-! ## How far a run is -/

/-- **How far a run is.** -/
structure Mark where
  phase : Phase
  inProgress : Value
  schema : Quantity
  data : Quantity
  foreignKeys : Quantity
  deriving DecidableEq

/-- How far a run is. -/
def mark (s : RunState) : Mark :=
  ⟨s.phase, s.inProgress, s.schemaProgress, s.dataProgress, s.foreignKeyProgress⟩

namespace Mark

/-- The schema is done, if the mode includes it. -/
def schemaDone (mode : Mode) (m : Mark) : Mark :=
  if mode.migratesSchema then { m with schema := .whole 100 } else m

/-- The run is complete. -/
def ended (m : Mark) : Mark := { m with phase := .complete, inProgress := .bool false }

/-- **What a signal makes of how far a run is**, in a mode that includes data. -/
def next (mode : Mode) (transfer : Transfer) (signal : Signal) (q : Quantity) (m : Mark) : Mark :=
  match signal with
  | .quiet => m
  | .schemaInProgress =>
    if m.phase = .schemaMigrating then { m with schema := raised m.schema q } else m
  | .schemaComplete =>
    if m.phase = .schemaMigrating then
      { m.schemaDone mode with
        phase := if transfer = .lowDowntime then .provisioning else .dataMigrating }
    else m
  | .dataInProgress =>
    if m.phase = .schemaMigrating ∨ m.phase = .provisioning then
      { m.schemaDone mode with phase := .dataMigrating, data := raised m.data q }
    else if m.phase = .dataMigrating then { m with data := raised m.data q } else m
  | .dataComplete =>
    if m.phase.beforeForeignKeys then { m.schemaDone mode with data := .whole 100 }.ended else m
  | .foreignKeysInProgress =>
    if m.phase.beforeForeignKeys then
      { m.schemaDone mode with
        phase := .foreignKeys, data := .whole 100, foreignKeys := raised m.foreignKeys q }
    else if m.phase = .foreignKeys then { m with foreignKeys := raised m.foreignKeys q } else m
  | .foreignKeysComplete => ({ m with
      schema := .whole 100, data := .whole 100, foreignKeys := .whole 100 } : Mark).ended

end Mark

variable {s : RunState} {mode : Mode} {transfer : Transfer} {report : Status} {q : Quantity}

theorem mark_settled_of_ne {a : Advance} (h : a.state.phase ≠ .complete) :
    a.settled.mark = a.state.mark := by
  rw [Advance.settled, if_neg h]

theorem mark_settled_of_eq {a : Advance} (h : a.state.phase = .complete) :
    a.settled.mark = { a.state.mark with inProgress := .bool false } := by
  rw [Advance.settled, if_pos h]
  rfl

variable {a : Advance}

theorem mark_onSchemaComplete (hmode : mode.migratesData = true) (hactive : s.phase.isActive = true)
    (h : s.onSchemaComplete (some mode) (some transfer) = .ok a) :
    a.settled.mark = s.mark.next mode transfer .schemaComplete q := by
  have hschema : ∀ p, ({ s.finishSchema (some mode) with phase := p } : RunState).mark
      = { s.mark.schemaDone mode with phase := p } := by
    intro p
    cases mode <;> rfl
  unfold onSchemaComplete at h
  split at h
  next hp =>
    cases h
    have hphase : s.mark.phase ≠ .schemaMigrating := hp
    rw [Mark.next, if_neg hphase]
    refine mark_settled_of_ne fun hcomplete => ?_
    rw [hcomplete] at hactive
    cases hactive
  next hp =>
    rw [Decidable.not_not] at hp
    have hphase : s.mark.phase = .schemaMigrating := hp
    rw [Mark.next, if_pos hphase]
    split at h
    next hschemaOnly =>
      cases hschemaOnly
      cases hmode
    · split at h
      next htransfer =>
        cases htransfer
        rw [moveTo_eq (by simp [hp]; rfl)] at h
        cases h
        rw [mark_settled_of_ne (by decide : Phase.provisioning ≠ .complete), if_pos rfl]
        exact hschema .provisioning
      next htransfer =>
        rw [startData, moveTo_eq (by simp [hp]; rfl)] at h
        cases h
        rw [mark_settled_of_ne (by decide : Phase.dataMigrating ≠ .complete),
          if_neg fun hlow => htransfer (congrArg some hlow)]
        exact hschema .dataMigrating

theorem mark_onDataProgress (hactive : s.phase.isActive = true)
    (h : s.onDataProgress (some mode) q = .ok a) :
    a.settled.mark = s.mark.next mode transfer .dataInProgress q := by
  unfold onDataProgress at h
  by_cases hp : s.phase = .schemaMigrating ∨ s.phase = .provisioning
  · have hmay : (s.finishSchema (some mode)).phase.mayBecome .dataMigrating = true := by
      rcases hp with hp | hp <;> (rw [phase_finishSchema, hp]; rfl)
    have hphase : s.mark.phase = .schemaMigrating ∨ s.mark.phase = .provisioning := hp
    rw [if_pos hp, startData, moveTo_eq hmay] at h
    cases h
    rw [Mark.next, if_pos hphase, mark_settled_of_ne (by decide : Phase.dataMigrating ≠ .complete)]
    cases mode <;> rfl
  · have hphase : ¬(s.mark.phase = .schemaMigrating ∨ s.mark.phase = .provisioning) := hp
    simp only [if_neg hp, pure_bind] at h
    rw [Mark.next, if_neg hphase]
    by_cases hd : s.phase = .dataMigrating
    · have hphase' : s.mark.phase = .dataMigrating := hd
      simp only [if_pos hd] at h
      cases h
      have hgoes : (s.raiseData q).phase ≠ .complete := by
        show s.phase ≠ .complete
        rw [hd]
        decide
      rw [if_pos hphase', mark_settled_of_ne hgoes]
      rfl
    · have hphase' : ¬s.mark.phase = .dataMigrating := hd
      simp only [if_neg hd] at h
      cases h
      rw [if_neg hphase']
      refine mark_settled_of_ne fun hcomplete => ?_
      rw [hcomplete] at hactive
      cases hactive

theorem mark_onDataComplete (hactive : s.phase.isActive = true)
    (h : s.onDataComplete (some mode) = .ok a) :
    a.settled.mark = s.mark.next mode transfer .dataComplete q := by
  unfold onDataComplete at h
  split at h
  next hp =>
    have hphase : s.mark.phase.beforeForeignKeys = true := hp
    rw [moveTo_eq (by simpa using mayBecome_complete (isActive_of_beforeForeignKeys hp))] at h
    cases h
    rw [Mark.next, if_pos hphase, mark_settled_of_eq rfl]
    cases mode <;> rfl
  next hp =>
    have hphase : ¬s.mark.phase.beforeForeignKeys = true := hp
    cases h
    rw [Mark.next, if_neg hphase]
    refine mark_settled_of_ne fun hcomplete => ?_
    rw [hcomplete] at hactive
    cases hactive

theorem mark_onForeignKeyProgress (hactive : s.phase.isActive = true)
    (h : s.onForeignKeyProgress (some mode) q = .ok a) :
    a.settled.mark = s.mark.next mode transfer .foreignKeysInProgress q := by
  unfold onForeignKeyProgress at h
  split at h
  next hp =>
    have hphase : s.mark.phase.beforeForeignKeys = true := hp
    rw [moveTo_eq (mayBecome_foreignKeys (some mode) hp)] at h
    cases h
    rw [Mark.next, if_pos hphase, mark_settled_of_ne (by decide : Phase.foreignKeys ≠ .complete)]
    cases mode <;> rfl
  next hp =>
    have hf := Phase.eq_foreignKeys hactive hp
    have hphase : ¬s.mark.phase.beforeForeignKeys = true := hp
    have hphase' : s.mark.phase = .foreignKeys := hf
    rw [if_pos hf] at h
    cases h
    have hgoes : (s.raiseForeignKeys q).phase ≠ .complete := by
      show s.phase ≠ .complete
      rw [hf]
      decide
    rw [Mark.next, if_neg hphase, if_pos hphase', mark_settled_of_ne hgoes]
    rfl

/-- **A report does to a run what its signal does to how far it is.** -/
theorem mark_after (hmode : mode.migratesData = true) (hactive : s.phase.isActive = true)
    (hfailure : report.isFailure = false) (hq : report.clamped? = some q) :
    (s.after (some mode) (some transfer) report).mark
      = s.mark.next mode transfer report.signal q := by
  obtain ⟨a, ha, -⟩ := advance_course (some mode) (some transfer) hactive hq
  have hincludes : some mode ≠ some .schemaOnly := by
    rintro ⟨⟩
    cases hmode
  have hgoes : s.phase ≠ .complete := by
    rintro hcomplete
    rw [hcomplete] at hactive
    cases hactive
  rw [after_ok hactive hfailure ha]
  simp only [advance, hq, advanceTo] at ha
  cases hsignal : report.signal with
  | quiet =>
    simp only [hsignal] at ha
    cases ha
    exact mark_settled_of_ne hgoes
  | schemaInProgress =>
    simp only [hsignal] at ha
    cases ha
    by_cases hp : s.phase = .schemaMigrating
    · have hphase : s.mark.phase = .schemaMigrating := hp
      simp only [if_pos hp]
      rw [Mark.next, if_pos hphase, mark_settled_of_ne hgoes]
      rfl
    · have hphase : ¬s.mark.phase = .schemaMigrating := hp
      simp only [if_neg hp]
      rw [Mark.next, if_neg hphase, mark_settled_of_ne hgoes]
  | schemaComplete =>
    simp only [hsignal] at ha
    exact mark_onSchemaComplete hmode hactive ha
  | dataInProgress =>
    simp only [hsignal, if_neg hincludes] at ha
    exact mark_onDataProgress hactive ha
  | dataComplete =>
    simp only [hsignal, if_neg hincludes] at ha
    exact mark_onDataComplete hactive ha
  | foreignKeysInProgress =>
    simp only [hsignal, if_neg hincludes] at ha
    exact mark_onForeignKeyProgress hactive ha
  | foreignKeysComplete =>
    simp only [hsignal, if_neg hincludes] at ha
    rw [moveTo_eq (by simpa using mayBecome_complete hactive)] at ha
    cases ha
    exact mark_settled_of_eq rfl

/-! ## One signal after another -/

theorem isActive_launched (mode : Mode) : (launched mode).phase.isActive = true := by
  cases mode <;> rfl

theorem isActive_next {signal : Signal} (hmode : mode.migratesData = true)
    (hlast : signal.isLast = false) :
    ((launched mode).mark.next mode transfer signal q).phase.isActive = true := by
  cases mode with
  | schemaOnly => cases hmode
  | dataOnly => cases signal <;> first | rfl | cases hlast
  | schemaAndData => cases transfer <;> cases signal <;> first | rfl | cases hlast

/-- **A later signal implies what an earlier one did.** -/
theorem next_next {signal signal' : Signal} {q' : Quantity} (hmode : mode.migratesData = true)
    (hlast : signal.isLast = false) (hlater : signal.step < signal'.step)
    (hapart : ¬(signal = .foreignKeysInProgress ∧ signal' = .dataComplete)) :
    ((launched mode).mark.next mode transfer signal q).next mode transfer signal' q'
      = (launched mode).mark.next mode transfer signal' q' := by
  revert hlast hlater hapart
  cases mode with
  | schemaOnly => cases hmode
  | dataOnly =>
    cases signal <;> cases signal' <;> first
      | exact fun _ _ _ => rfl
      | exact fun hlast => absurd hlast (by decide)
      | exact fun _ hlater => absurd hlater (by decide)
      | exact fun _ _ hapart => absurd ⟨rfl, rfl⟩ hapart
  | schemaAndData =>
    cases transfer <;> cases signal <;> cases signal' <;> first
      | exact fun _ _ _ => rfl
      | exact fun hlast => absurd hlast (by decide)
      | exact fun _ hlater => absurd hlater (by decide)
      | exact fun _ _ hapart => absurd ⟨rfl, rfl⟩ hapart

theorem next_again {signal : Signal} {q' : Quantity} (hmode : mode.migratesData = true)
    (hlast : signal.isLast = false) (h : q.NoMoreThan q') :
    ((launched mode).mark.next mode transfer signal q).next mode transfer signal q'
      = (launched mode).mark.next mode transfer signal q' := by
  have hraised : raised (raised (.whole 0) q) q' = raised (.whole 0) q' :=
    raised_raised_of_noMoreThan ⟨0, rfl, by decide, by decide⟩ h
  cases mode with
  | schemaOnly => cases hmode
  | dataOnly =>
    cases signal with
    | dataInProgress => exact congrArg (fun r => { (launched .dataOnly).mark with data := r }) hraised
    | foreignKeysInProgress =>
      exact congrArg (fun r => Mark.mk .foreignKeys (.bool true) (.whole 0) (.whole 100) r) hraised
    | dataComplete => cases hlast
    | foreignKeysComplete => cases hlast
    | _ => rfl
  | schemaAndData =>
    cases signal with
    | schemaInProgress =>
      exact congrArg (fun r => { (launched .schemaAndData).mark with schema := r }) hraised
    | dataInProgress =>
      exact congrArg (fun r => Mark.mk .dataMigrating (.bool true) (.whole 100) r (.whole 0)) hraised
    | foreignKeysInProgress =>
      exact congrArg (fun r => Mark.mk .foreignKeys (.bool true) (.whole 100) (.whole 100) r) hraised
    | schemaComplete => cases transfer <;> rfl
    | dataComplete => cases hlast
    | foreignKeysComplete => cases hlast
    | quiet => rfl

/-! ## Reports in order -/

theorem mark_told (hmode : mode.migratesData = true) (hfailure : report.isFailure = false)
    (hq : report.clamped? = some q) :
    ((launched mode).after (some mode) (some transfer) report).mark
      = (launched mode).mark.next mode transfer report.signal q :=
  mark_after hmode (isActive_launched mode) hfailure hq

theorem clamped_of_plain (h : report.Plain) : ∃ n : Int, report.progress = .whole n ∧
    report.clamped? = some (.whole (max 0 (min 100 n))) := by
  obtain ⟨n, hn⟩ := h.progress
  refine ⟨n, hn, ?_⟩
  rw [Status.clamped?, hn, ← Quantity.clamped_whole]
  rfl

/-- **A report takes a run where it would have taken it alone**, if only one that it may follow came
before. -/
theorem next_of_follows {earlier later : Status} {q' : Quantity} (hmode : mode.migratesData = true)
    (hfollows : Status.Follows earlier later) (hplain : earlier.Plain) (hplain' : later.Plain)
    (hq : earlier.clamped? = some q) (hq' : later.clamped? = some q') :
    ((launched mode).mark.next mode transfer earlier.signal q).next mode transfer later.signal q'
      = (launched mode).mark.next mode transfer later.signal q' := by
  rcases hfollows.comes with hstep | ⟨hsame, m, n, hm, hn, hmn⟩
  · exact next_next hmode hfollows.goesOn hstep hfollows.apart
  · rw [← hsame]
    refine next_again hmode hfollows.goesOn ?_
    obtain ⟨m', hm', hclamped⟩ := clamped_of_plain hplain
    obtain ⟨n', hn', hclamped'⟩ := clamped_of_plain hplain'
    cases hm.symm.trans hm'
    cases hn.symm.trans hn'
    cases hq.symm.trans hclamped
    cases hq'.symm.trans hclamped'
    exact ⟨_, _, rfl, rfl, by omega⟩

theorem mark_after_quiet (hmode : mode.migratesData = true) (hplain : report.Plain)
    (hfailure : report.isFailure = false) (hquiet : report.signal = .quiet) :
    (s.after (some mode) (some transfer) report).mark = s.mark := by
  obtain ⟨n, -, hq⟩ := clamped_of_plain hplain
  cases hactive : s.phase.isActive with
  | false => rw [after_idle hactive]
  | true =>
    rw [mark_after hmode hactive hfailure hq, hquiet]
    rfl

/-- **Where reports in order take a run, the last of them takes it alone.** -/
theorem mark_afterAll {reports : List Status} (hmode : mode.migratesData = true)
    (h : Status.InOrder reports) :
    ((launched mode).afterAll (some mode) (some transfer) reports).mark
      = ((launched mode).afterAll (some mode) (some transfer) (Status.last? reports).toList).mark := by
  induction reports using List.reverseRecOn with
  | nil => rfl
  | append_singleton reports report ih =>
    have hplain := h.plain report (by simp)
    have hfailure := h.noFailure report (by simp)
    specialize ih (h.sublist (List.sublist_append_left reports [report]))
    rw [afterAll_concat]
    by_cases hquiet : report.signal = .quiet
    · rw [mark_after_quiet hmode hplain hfailure hquiet, ih, Status.last?, Status.last?,
        Status.telling_concat_quiet hquiet]
    · obtain ⟨n, -, hq⟩ := clamped_of_plain hplain
      have hlast : Status.last? (reports ++ [report]) = some report := by
        rw [Status.last?, Status.telling_concat hquiet, List.getLast?_concat]
      have hordered := h.ordered
      rw [Status.telling_concat hquiet, List.pairwise_append] at hordered
      rw [hlast]
      show _ = ((launched mode).after (some mode) (some transfer) report).mark
      rw [mark_told hmode hfailure hq]
      cases hbefore : Status.last? reports with
      | none =>
        -- Nothing was told before, so the run is as far as it was launched.
        rw [hbefore] at ih
        have hactive := isActive_launched mode
        rw [show (launched mode).phase = _ from (congrArg Mark.phase ih).symm] at hactive
        rw [mark_after hmode hactive hfailure hq, ih]
        rfl
      | some earlier =>
        have hmem : earlier ∈ Status.telling reports := List.mem_of_getLast? hbefore
        have hfollows := hordered.2.2 earlier hmem report List.mem_cons_self
        have hmem' : earlier ∈ reports ++ [report] :=
          List.mem_append_left _ (List.mem_filter.mp hmem).1
        obtain ⟨n', -, hq'⟩ := clamped_of_plain (h.plain earlier hmem')
        rw [hbefore] at ih
        have ih : ((launched mode).afterAll (some mode) (some transfer) reports).mark
            = ((launched mode).after (some mode) (some transfer) earlier).mark := ih
        rw [mark_told hmode (h.noFailure earlier hmem') hq'] at ih
        have hactive : ((launched mode).mark.next mode transfer earlier.signal
            (.whole (max 0 (min 100 n')))).phase.isActive = true := isActive_next hmode hfollows.goesOn
        rw [← ih] at hactive
        rw [mark_after hmode hactive hfailure hq, ih]
        exact next_of_follows hmode hfollows (h.plain earlier hmem') hplain hq' hq

end RunState

end Cutover
