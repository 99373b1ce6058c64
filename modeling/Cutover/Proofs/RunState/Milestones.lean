import Cutover.Proofs.RunState.Messages
import Cutover.Proofs.RunState.Order
import Mathlib.Data.List.Induction

/-!
# The flags of a record

A record says which steps of a run were begun, and whether the data is done. These flags are worked out
from the phase and the progress whenever the record is made; nothing of what came before is kept for
them. They tell it all the same, since progress goes with the phases. Only that the data is done is taken
from its progress alone, and all of it may be reported written before that step is over.

* `Status.WritesAll`: a report tells that all of the data is written;
* `RunState.Underlies`: **how progress goes with the phases and the reports** as long as a run goes on,
  with `RunState.underlies_afterAll`;
* `Record.Tells`: the flags tell what a run went through;
* `RunState.Underlies.tells_record`: **those of the record of a run that goes on do**;
* `Record.Tells.flagsStay`: no flag that tells the past goes back.
-/

namespace Cutover

/-! ## Flags -/

namespace Value

variable {v v' : Value} {p q : Prop}

/-- The value is the truth value of a proposition. -/
def Says (v : Value) (p : Prop) : Prop := ∃ b : Bool, v = .bool b ∧ (b = true ↔ p)

theorem Says.mono (h : v.Says p) (h' : v'.Says q) (hpq : p → q) (hv : v = .bool true) :
    v' = .bool true := by
  obtain ⟨b, rfl, hb⟩ := h
  obtain ⟨b', rfl, hb'⟩ := h'
  cases hv
  rw [hb'.mpr (hpq (hb.mp rfl))]

end Value

/-- **A report tells that all of the data is written**, though not that the step is over. -/
structure Status.WritesAll (report : Status) : Prop where
  noFailure : report.isFailure = false
  signal : report.signal = .dataInProgress
  progress : ∃ n : Int, report.progress = .whole n ∧ 100 ≤ n

theorem Status.WritesAll.clamped {report : Status} (h : report.WritesAll) :
    report.clamped? = some (.whole 100) := by
  obtain ⟨n, hn, hall⟩ := h.progress
  rw [clamped?, hn]
  show some (Quantity.whole n).clamped = _
  rw [Quantity.clamped_whole, Option.some.injEq, Quantity.whole.injEq]
  omega

namespace Record

/-- **The flags tell what a run of some mode went through**: which phases it has entered, and what was
reported to it. The data counts as done once foreign keys are applied, and if the run moves more than the
schema, also once all of the data is reported written. -/
structure Tells (r : Record) (mode : Mode) (entered : Phase → Prop) (reports : List Status) :
    Prop where
  schemaStarted : r.schemaStarted.Says (mode ≠ .dataOnly)
  dataStarted : r.dataStarted.Says (entered .dataMigrating ∨ entered .foreignKeys)
  dataCompleted : r.dataCompleted.Says
    (entered .foreignKeys ∨ mode ≠ .schemaOnly ∧ ∃ report ∈ reports, report.WritesAll)
  foreignKeysStarted : r.foreignKeysStarted.Says (entered .foreignKeys)

/-- **No flag goes back** from one record to another. -/
structure FlagsStay (r r' : Record) : Prop where
  schemaStarted : r.schemaStarted = .bool true → r'.schemaStarted = .bool true
  dataStarted : r.dataStarted = .bool true → r'.dataStarted = .bool true
  dataCompleted : r.dataCompleted = .bool true → r'.dataCompleted = .bool true
  foreignKeysStarted : r.foreignKeysStarted = .bool true → r'.foreignKeysStarted = .bool true

theorem FlagsStay.refl (r : Record) : r.FlagsStay r := ⟨id, id, id, id⟩

/-- **No flag that tells the past goes back**, as the past only grows. -/
theorem Tells.flagsStay {r r' : Record} {mode : Mode} {entered entered' : Phase → Prop}
    {reports more : List Status} (h : r.Tells mode entered reports)
    (h' : r'.Tells mode entered' (reports ++ more)) (hentered : ∀ p, entered p → entered' p) :
    r.FlagsStay r' where
  schemaStarted := h.schemaStarted.mono h'.schemaStarted id
  dataStarted := h.dataStarted.mono h'.dataStarted (Or.imp (hentered _) (hentered _))
  dataCompleted := by
    refine h.dataCompleted.mono h'.dataCompleted (Or.imp (hentered _) ?_)
    rintro ⟨hmode, report, hreport, hall⟩
    exact ⟨hmode, report, List.mem_append_left more hreport, hall⟩
  foreignKeysStarted := h.foreignKeysStarted.mono h'.foreignKeysStarted (hentered _)

end Record

namespace RunState

variable {s : RunState} {mode : Mode} {transfer : Option Transfer} {report : Status}
variable {reports : List Status} {q : Quantity} {a : Advance}

/-! ## How progress goes with the phases -/

/-- **What underlies the flags of a run that goes on** after some reports. Its messages and its progress
go with its phase, foreign keys have no progress before they are applied, and all of the data counts as
written once it is reported so or foreign keys are applied. -/
structure Underlies (mode : Mode) (reports : List Status) (s : RunState) : Prop where
  plain : s.Plain
  tells : s.Telling mode
  unapplied : s.phase.beforeForeignKeys = true → s.foreignKeyProgress = .whole 0
  written : s.dataProgress = .whole 100 ↔
    s.phase = .foreignKeys ∨ mode ≠ .schemaOnly ∧ ∃ report ∈ reports, report.WritesAll

theorem underlies_launched (mode : Mode) : (launched mode).Underlies mode [] := by
  refine ⟨plain_launched mode, telling_launched mode, fun _ => ?_, ?_⟩
  · cases mode <;> rfl
  · have hnone : (launched mode).dataProgress ≠ .whole 100 := by cases mode <;> decide
    have hphase : (launched mode).phase ≠ .foreignKeys := by cases mode <;> decide
    simp [hnone, hphase]

theorem Underlies.marked (h : s.Underlies mode reports) {v : Value} (hplain : (s.marked v).Plain) :
    (s.marked v).Underlies mode reports :=
  ⟨hplain, h.tells.marked v, h.unapplied, h.written⟩

theorem Course.unapplied {mode : Option Mode} (h : Course s mode q a)
    (hs : s.phase.beforeForeignKeys = true → s.foreignKeyProgress = .whole 0)
    (ha : a.state.phase.beforeForeignKeys = true) : a.state.foreignKeyProgress = .whole 0 := by
  have hschema : (s.finishSchema mode).foreignKeyProgress = s.foreignKeyProgress := by
    unfold finishSchema
    split <;> rfl
  cases h with
  | stays | raisesSchema _ | raisesData _ => exact hs ha
  | raisesForeignKeys hp => cases (congrArg Phase.beforeForeignKeys hp).symm.trans ha
  | provisions hp | startsData hp => exact hschema.trans (hs (by rw [hp]; rfl))
  | writesData hp => exact hschema.trans (hs (by rcases hp with hp | hp <;> (rw [hp]; rfl)))
  | startsForeignKeys _ | completesSchema _ | completesData _ | completes _ => cases ha

/-! ## What changes the progress of the data -/

theorem dataProgress_finishSchema (s : RunState) (mode : Option Mode) :
    (s.finishSchema mode).dataProgress = s.dataProgress := (rest_finishSchema s mode).2.2

theorem dataProgress_onSchemaComplete {mode : Option Mode}
    (h : s.onSchemaComplete mode transfer = .ok a) (hphase : a.state.phase = .dataMigrating) :
    a.state.dataProgress = s.dataProgress := by
  unfold onSchemaComplete at h
  split at h
  · cases h
    rfl
  next hp =>
    rw [Decidable.not_not] at hp
    split at h
    · rw [moveTo_eq (by simp [hp]; rfl)] at h
      cases h
      cases hphase
    · split at h
      · rw [moveTo_eq (by simp [hp]; rfl)] at h
        cases h
        cases hphase
      · rw [startData, moveTo_eq (by simp [hp]; rfl)] at h
        cases h
        exact dataProgress_finishSchema s mode

theorem dataProgress_onDataProgress {mode : Option Mode} (h : s.onDataProgress mode q = .ok a) :
    a.state.dataProgress = s.dataProgress ∨ a.state.dataProgress = raised s.dataProgress q := by
  unfold onDataProgress at h
  by_cases hp : s.phase = .schemaMigrating ∨ s.phase = .provisioning
  · have hmay : (s.finishSchema mode).phase.mayBecome .dataMigrating = true := by
      rcases hp with hp | hp <;> (rw [phase_finishSchema, hp]; rfl)
    rw [if_pos hp, startData, moveTo_eq hmay] at h
    cases h
    rw [← dataProgress_finishSchema s mode]
    exact .inr rfl
  · simp only [if_neg hp, pure_bind] at h
    by_cases hd : s.phase = .dataMigrating
    · simp only [if_pos hd] at h
      cases h
      exact .inr rfl
    · simp only [if_neg hd] at h
      cases h
      exact .inl rfl

theorem dataProgress_onDataComplete {mode : Option Mode} (h : s.onDataComplete mode = .ok a)
    (hphase : a.state.phase = .dataMigrating) : a.state.dataProgress = s.dataProgress := by
  unfold onDataComplete at h
  split at h
  next hp =>
    rw [moveTo_eq (by simpa using mayBecome_complete (isActive_of_beforeForeignKeys hp))] at h
    cases h
    cases hphase
  next =>
    cases h
    rfl

theorem dataProgress_onForeignKeyProgress {mode : Option Mode}
    (h : s.onForeignKeyProgress mode q = .ok a) (hphase : a.state.phase = .dataMigrating) :
    a.state.dataProgress = s.dataProgress := by
  unfold onForeignKeyProgress at h
  split at h
  next hp =>
    rw [moveTo_eq (mayBecome_foreignKeys mode hp)] at h
    cases h
    cases hphase
  next => split at h <;> (cases h; rfl)

/-- **While data is written only a report of that changes its progress.** -/
theorem dataProgress_advance {mode : Option Mode} (hactive : s.phase.isActive = true)
    (hq : report.clamped? = some q) (h : s.advance mode transfer report = .ok a)
    (hphase : a.state.phase = .dataMigrating) : a.state.dataProgress = s.dataProgress ∨
      mode ≠ some .schemaOnly ∧ report.signal = .dataInProgress ∧
        a.state.dataProgress = raised s.dataProgress q := by
  simp only [advance, hq, advanceTo] at h
  cases hsignal : report.signal with
  | quiet =>
    simp only [hsignal] at h
    cases h
    exact .inl rfl
  | schemaInProgress =>
    simp only [hsignal] at h
    cases h
    left
    split <;> rfl
  | schemaComplete =>
    simp only [hsignal] at h
    exact .inl (dataProgress_onSchemaComplete h hphase)
  | dataInProgress =>
    simp only [hsignal] at h
    split at h
    · cases h
      exact .inl rfl
    next hmode => exact (dataProgress_onDataProgress h).imp_right fun hraised => ⟨hmode, rfl, hraised⟩
  | dataComplete =>
    simp only [hsignal] at h
    split at h
    · cases h
      exact .inl rfl
    · exact .inl (dataProgress_onDataComplete h hphase)
  | foreignKeysInProgress =>
    simp only [hsignal] at h
    split at h
    · cases h
      exact .inl rfl
    · exact .inl (dataProgress_onForeignKeyProgress h hphase)
  | foreignKeysComplete =>
    simp only [hsignal] at h
    split at h
    · cases h
      exact .inl rfl
    · rw [moveTo_eq (by simpa using mayBecome_complete hactive)] at h
      cases h
      cases hphase

/-! ## When all of the data counts as written -/

/-- **Only a report that tells so makes all of the data count as written** while that is going on. -/
theorem writesAll_of_advance {mode : Option Mode} (hs : s.Plain) (hreport : report.Plain)
    (hfailure : report.isFailure = false) (hactive : s.phase.isActive = true)
    (h : s.advance mode transfer report = .ok a) (hphase : a.state.phase = .dataMigrating)
    (hdata : a.state.dataProgress = .whole 100) :
    s.dataProgress = .whole 100 ∨ mode ≠ some .schemaOnly ∧ report.WritesAll := by
  obtain ⟨m, hm, -⟩ := hs.dataProgress
  obtain ⟨n, hn⟩ := hreport.progress
  have hq : report.clamped? = some (Quantity.whole n).clamped := by
    rw [Status.clamped?, hn]
    rfl
  rcases dataProgress_advance hactive hq h hphase with hsame | ⟨hmode, hsignal, hraised⟩
  · exact .inl (hsame.symm.trans hdata)
  · rw [hdata, hm, Quantity.clamped_whole, raised_whole, Quantity.whole.injEq] at hraised
    by_cases hall : 100 ≤ n
    · exact .inr ⟨hmode, hfailure, hsignal, n, hn, hall⟩
    · left
      rw [hm, Quantity.whole.injEq]
      omega

theorem Telling.dataProgress (h : s.Telling mode) (hp : s.phase = .foreignKeys) :
    s.dataProgress = .whole 100 := by
  have hin : Step.data.isIn mode = true := by
    cases mode with
    | schemaOnly => cases hp.symm.trans (h.schemaOnly rfl)
    | _ => rfl
  exact h.done .data hin (by rw [hp]; rfl)

/-- Where data has any progress it is being written, or foreign keys are applied. -/
theorem Telling.phase_of_progress (h : s.Telling mode) (hactive : s.phase.isActive = true)
    (hdata : s.dataProgress ≠ .whole 0) : s.phase = .dataMigrating ∨ s.phase = .foreignKeys := by
  have hlate : ¬(s.phase = .schemaMigrating ∨ s.phase = .provisioning) := fun hearly =>
    hdata (h.unwritten hearly)
  revert hlate hactive
  cases s.phase <;> decide

theorem eq_hundred (hq : q.IsPlain) (h : (Quantity.whole 100).NoMoreThan q) : q = .whole 100 := by
  obtain ⟨n, rfl, -, hle⟩ := hq
  obtain ⟨_, _, hm, hn, hmn⟩ := h
  cases hm
  cases hn
  rw [Quantity.whole.injEq]
  omega

theorem written_of_writesAll (hs : s.Plain) (hwrites : report.WritesAll) (hmode : mode ≠ .schemaOnly)
    (hactive : s.phase.isActive = true) (h : s.advance (some mode) transfer report = .ok a)
    (hplain : a.state.Plain) (htells : a.state.Telling mode) (hgoes : a.state.phase.isActive = true) :
    a.state.dataProgress = .whole 100 := by
  have hcovers : a.state.Covers (some mode) (.whole 100) report.signal :=
    covers_advance hs isPlain_hundred hactive hwrites.clamped h
  rw [hwrites.signal] at hcovers
  rcases hcovers with hschema | hpast | ⟨-, hmuch⟩
  · exact absurd (Option.some.inj hschema) hmode
  · refine htells.dataProgress (Phase.eq_foreignKeys hgoes fun hbefore => ?_)
    exact absurd hpast (Nat.not_lt.mpr (Phase.place_of_beforeForeignKeys hbefore))
  · exact eq_hundred hplain.dataProgress hmuch

/-- **A report that leaves a run active keeps it so.** -/
theorem Underlies.advance (h : s.Underlies mode reports) (hreport : report.Plain)
    (hfailure : report.isFailure = false) (hactive : s.phase.isActive = true)
    (ha : s.advance (some mode) transfer report = .ok a) (hgoes : a.state.phase.isActive = true) :
    a.state.Underlies mode (reports ++ [report]) := by
  obtain ⟨q, hclamped, hcourse⟩ := Course.of_advance hactive ha
  have hq := isPlain_clamped hreport hclamped
  have hplain := h.plain.course hq hcourse
  have htells := h.tells.advance hactive ha hgoes
  have hprecedes := hcourse.precedes h.plain hq hactive
  refine ⟨hplain, htells, hcourse.unapplied h.unapplied, ?_, ?_⟩
  · intro hdata
    rcases htells.phase_of_progress hgoes (by rw [hdata]; decide) with hp | hp
    · have hfrom := writesAll_of_advance h.plain hreport hfailure hactive ha hp hdata
      rcases hfrom with hbefore | ⟨hmode, hall⟩
      · rcases h.written.mp hbefore with hforeignKeys | ⟨hmode, earlier, hmem, hall⟩
        · -- A run does not go back to the data.
          have hplace := hprecedes.phase
          rw [hforeignKeys, hp] at hplace
          exact absurd hplace (by decide)
        · exact .inr ⟨hmode, earlier, List.mem_append_left _ hmem, hall⟩
      · exact .inr ⟨fun hschema => hmode (congrArg some hschema), report,
          List.mem_append_right _ (List.mem_singleton_self _), hall⟩
    · exact .inl hp
  · rintro (hp | ⟨hmode, writing, hmem, hall⟩)
    · exact htells.dataProgress hp
    · rcases List.mem_append.mp hmem with hmem | hmem
      · have hmuch := hprecedes.data
        rw [h.written.mpr (.inr ⟨hmode, writing, hmem, hall⟩)] at hmuch
        exact eq_hundred hplain.dataProgress hmuch
      · rw [List.mem_singleton.mp hmem] at hall
        exact written_of_writesAll h.plain hall hmode hactive ha hplain htells hgoes

theorem Underlies.after (h : s.Underlies mode reports) (hreport : report.Plain)
    (hgoes : (s.after (some mode) transfer report).phase.isActive = true) :
    (s.after (some mode) transfer report).Underlies mode (reports ++ [report]) := by
  revert hgoes
  refine after_cases (P := fun t => t.phase.isActive = true → t.Underlies mode (reports ++ [report]))
    hreport (fun hidle hgoes => ?_) (fun _ _ hgoes => ?_) fun hactive hfailure _ a _ _ ha _ => ?_
  · cases hidle.symm.trans hgoes
  · cases hgoes
  · unfold Advance.settled
    split
    next hcomplete =>
      intro hgoes
      cases (congrArg Phase.isActive hcomplete).symm.trans hgoes
    next => exact h.advance hreport hfailure hactive ha

/-- **It is so as long as a run goes on.** -/
theorem underlies_afterAll (hreports : ∀ r ∈ reports, r.Plain)
    (hgoes : ((launched mode).afterAll (some mode) transfer reports).phase.isActive = true) :
    ((launched mode).afterAll (some mode) transfer reports).Underlies mode reports := by
  induction reports using List.reverseRecOn with
  | nil => exact underlies_launched mode
  | append_singleton reports report ih =>
    obtain ⟨hreports, hreport⟩ := List.forall_mem_append.mp hreports
    rw [afterAll_concat] at hgoes ⊢
    refine (ih hreports ?_).after (hreport report (List.mem_singleton_self _)) hgoes
    rw [← Bool.not_eq_false]
    intro hidle
    rw [after_idle hidle] at hgoes
    cases hidle.symm.trans hgoes

/-! ## Runs in progress -/

theorem isActive_after {mode : Option Mode} (h : s.isRunning = true → s.phase.isActive = true)
    (hreport : report.Plain) : (s.after mode transfer report).isRunning = true →
      (s.after mode transfer report).phase.isActive = true := by
  refine after_cases (P := fun t => t.isRunning = true → t.phase.isActive = true) hreport (fun _ => h)
    (fun _ _ hrunning => ?_) fun hactive _ q a _ _ _ hcourse => ?_
  · cases hrunning
  · unfold Advance.settled
    split
    next hcomplete =>
      intro hrunning
      cases hrunning
    next hphase => exact fun _ => (hcourse.isActive_or_complete hactive).resolve_right hphase

theorem isActive_afterAll (hreports : ∀ r ∈ reports, r.Plain)
    (hrunning : ((launched mode).afterAll (some mode) transfer reports).isRunning = true) :
    ((launched mode).afterAll (some mode) transfer reports).phase.isActive = true := by
  induction reports using List.reverseRecOn with
  | nil => cases mode <;> rfl
  | append_singleton reports report ih =>
    obtain ⟨hreports, hreport⟩ := List.forall_mem_append.mp hreports
    rw [afterAll_concat] at hrunning ⊢
    exact isActive_after (ih hreports) (hreport report (List.mem_singleton_self _)) hrunning

/-! ## The flags of its record -/

theorem same_hundred (h : q.IsPlain) : q.same (.whole 100) = true ↔ q = .whole 100 := by
  obtain ⟨n, rfl, -⟩ := h
  rw [Quantity.same, Quantity.compare?_whole, Quantity.whole.injEq]
  simp

theorem ne_zero_of_isPositive (h : Record.isPositive q = true) : q ≠ .whole 0 := by
  rintro rfl
  cases h

/-- **The flags of a run that goes on tell what it went through**, if it has entered the phase it is in
and none that comes later. -/
theorem Underlies.tells_record (h : s.Underlies mode reports) (hactive : s.phase.isActive = true)
    {c : Record.Context} (hmode : c.mode = some mode) {entered : Phase → Prop}
    (hhere : entered s.phase) (hpast : ∀ p, entered p → p.place ≤ s.phase.place) :
    (Record.ofState s c).Tells mode entered reports := by
  have hforeignKeys : s.phase = .foreignKeys ↔ entered .foreignKeys := by
    refine ⟨fun hp => hp ▸ hhere, fun hentered => Phase.eq_foreignKeys hactive fun hbefore => ?_⟩
    exact absurd (Nat.le_trans (hpast _ hentered) (Phase.place_of_beforeForeignKeys hbefore)) (by decide)
  have hdata : s.phase = .dataMigrating ∨ s.phase = .foreignKeys ↔
      entered .dataMigrating ∨ entered .foreignKeys := by
    refine ⟨Or.imp (fun hp => hp ▸ hhere) hforeignKeys.mp, ?_⟩
    rintro (hentered | hentered)
    · have hplace := hpast _ hentered
      revert hplace hactive
      cases s.phase <;> decide
    · exact .inr (hforeignKeys.mpr hentered)
  refine ⟨⟨_, rfl, ?_⟩, ⟨_, rfl, ?_⟩, ⟨_, rfl, ?_⟩, ⟨_, rfl, ?_⟩⟩
  · have hlaunched : s.phase ≠ .idle := fun hidle => by
      rw [hidle] at hactive
      cases hactive
    simp [hlaunched, hmode]
  · rw [← hdata, Bool.or_eq_true, Bool.or_eq_true, decide_eq_true_eq, decide_eq_true_eq]
    refine or_iff_left_of_imp fun hpositive => ?_
    exact h.tells.phase_of_progress hactive (ne_zero_of_isPositive hpositive)
  · rw [same_hundred h.plain.dataProgress, h.written, hforeignKeys]
  · rw [← hforeignKeys, Bool.or_eq_true, decide_eq_true_eq]
    refine or_iff_left_of_imp fun hpositive => Phase.eq_foreignKeys hactive fun hbefore => ?_
    exact ne_zero_of_isPositive hpositive (h.unapplied hbefore)

end RunState

end Cutover
