import Cutover.Proofs.Control.Restoring
import Cutover.Proofs.RunState.Confined

/-!
# What a run says of its steps

A run has up to three steps, and a message for each of them. Which one is in flight, which are done and
which are still to come shows in the phase, and while the run goes on the messages say just that. When
it fails, what is cancelled is decided by numbers instead: a step that reports all of its progress is
taken for one that is done.

* `RunState.Step`: the steps of a run, and where they stand in a phase;
* `RunState.Telling`: **the messages say where the steps stand**;
* `RunState.telling_launched`, `RunState.Telling.advance`: it is so from the beginning, and reports keep
  it so;
* `RunState.Telling.afterFailure`: **what the messages say once the run has failed**.
-/

namespace Cutover

namespace RunState

/-- A step of a run. -/
inductive Step where
  | schema
  | data
  | foreignKeys
  deriving DecidableEq

/-- Where a step stands: it is still to come, in flight or done. -/
inductive Standing where
  | toCome
  | inFlight
  | done
  deriving DecidableEq

namespace Step

/-- The mode includes the step. Foreign keys go with the data. -/
def isIn (mode : Mode) : Step → Bool
  | schema => mode.migratesSchema
  | data | foreignKeys => mode.migratesData

/-- **Where a step stands** in an active phase. Data is in flight as soon as resources are provisioned
for it. -/
def standing (p : Phase) : Step → Standing
  | schema => if p = .schemaMigrating then .inFlight else .done
  | data => if p = .schemaMigrating then .toCome else if p = .foreignKeys then .done else .inFlight
  | foreignKeys => if p = .foreignKeys then .inFlight else .toCome

/-- The progress of a step. -/
def progress (s : RunState) : Step → Quantity
  | schema => s.schemaProgress
  | data => s.dataProgress
  | foreignKeys => s.foreignKeyProgress

/-- The message of a step. -/
def message (s : RunState) : Step → Value
  | schema => s.schemaMessage
  | data => s.dataMessage
  | foreignKeys => s.foreignKeyMessage

/-- What is said of a step in flight. -/
def inProgress : Step → String
  | schema => ProgressText.schemaInProgress
  | data => ProgressText.dataInProgress
  | foreignKeys => ProgressText.foreignKeysInProgress

/-- What is said of a step that is done. -/
def completed : Step → String
  | schema => ProgressText.schemaCompleted
  | data => ProgressText.dataCompleted
  | foreignKeys => ProgressText.foreignKeysCompleted

/-- What is said of a step that was cancelled. -/
def cancelled : Step → String
  | schema => ProgressText.schemaCancelled
  | data => ProgressText.dataCancelled
  | foreignKeys => ProgressText.foreignKeysCancelled

/-- What is said of a step in an active phase. While resources are provisioned there is nothing to say
of the data yet. -/
def said (p : Phase) (step : Step) : String :=
  match step.standing p with
  | .toCome => ""
  | .inFlight => if p = .provisioning then "" else step.inProgress
  | .done => step.completed

/-- **What an active run says of a step.** -/
def told (mode : Mode) (p : Phase) (step : Step) : String :=
  if step.isIn mode then step.said p else ""

/-- **What a run says of a step once it has failed.** What was in flight is cancelled, and so is data
that was still to come; but schema and data that report all of their progress are passed over. -/
def toldOnFailure (mode : Mode) (s : RunState) (step : Step) : String :=
  if step.isIn mode then
    match step.standing s.phase with
    | .toCome => if step = .data then step.cancelled else ""
    | .inFlight =>
      if step ≠ .foreignKeys ∧ step.progress s = .whole 100 then step.inProgress else step.cancelled
    | .done => step.completed
  else ""

end Step

/-- **The messages say where the steps stand**, a step that is done has all of its progress, and data
has none before it is written. A run of the schema alone has only one phase. -/
structure Telling (mode : Mode) (s : RunState) : Prop where
  messages : ∀ step : Step, step.message s = .text (step.told mode s.phase)
  done : ∀ step : Step, step.isIn mode = true → step.standing s.phase = .done →
    step.progress s = .whole 100
  unwritten : s.phase = .schemaMigrating ∨ s.phase = .provisioning → s.dataProgress = .whole 0
  schemaOnly : mode = .schemaOnly → s.phase = .schemaMigrating

variable {s : RunState} {mode : Mode} {q : Quantity} {a : Advance}

/-- **A run begins telling** where its steps stand. -/
theorem telling_launched (mode : Mode) : (launched mode).Telling mode := by
  cases mode with
  | dataOnly =>
    refine ⟨fun step => ?_, fun step hin hdone => ?_, fun hp => ?_, nofun⟩
    · cases step <;> rfl
    · cases step with
      | schema => cases hin
      | data => exact absurd hdone (by decide)
      | foreignKeys => exact absurd hdone (by decide)
    · rcases hp with hp | hp <;> cases hp
  | _ =>
    refine ⟨fun step => ?_, fun step _ hdone => ?_, fun _ => rfl, fun _ => rfl⟩
    · cases step <;> rfl
    · cases step <;> cases hdone

theorem Telling.marked (h : s.Telling mode) (v : Value) : (s.marked v).Telling mode where
  messages step := by
    have hmessage := h.messages step
    cases step <;> exact hmessage
  done step hin hdone := by
    have hprogress := h.done step hin hdone
    cases step <;> exact hprogress
  unwritten := h.unwritten
  schemaOnly := h.schemaOnly

/-! ## Reports -/

/-- The schema is done and told to be, if the mode includes it. -/
structure SchemaTold (mode : Mode) (s : RunState) : Prop where
  message : s.schemaMessage = .text (if mode.migratesSchema then ProgressText.schemaCompleted else "")
  progress : mode.migratesSchema = true → s.schemaProgress = .whole 100

theorem Telling.finishSchema (h : s.Telling mode) :
    (s.finishSchema (some mode)).SchemaTold mode := by
  have hmessage : s.schemaMessage = .text (Step.schema.told mode s.phase) := h.messages .schema
  rw [RunState.finishSchema, show includesSchema (some mode) = mode.migratesSchema from rfl]
  cases hm : mode.migratesSchema with
  | true =>
    rw [if_pos rfl]
    exact ⟨by rw [hm]; rfl, fun _ => rfl⟩
  | false =>
    rw [if_neg Bool.false_ne_true]
    refine ⟨?_, fun hin => ?_⟩
    · rw [hmessage, Step.told, show Step.schema.isIn mode = mode.migratesSchema from rfl, hm]
      rfl
    · rw [hm] at hin
      cases hin

/-- Past the schema, the state is told if it is of the data and the foreign keys. -/
theorem SchemaTold.telling (h : s.SchemaTold mode) (hmode : mode.migratesData = true)
    (hpast : s.phase ≠ .schemaMigrating)
    (hdata : s.dataMessage = .text (Step.data.told mode s.phase))
    (hforeignKeys : s.foreignKeyMessage = .text (Step.foreignKeys.told mode s.phase))
    (hwritten : s.phase = .foreignKeys → s.dataProgress = .whole 100)
    (hunwritten : s.phase = .provisioning → s.dataProgress = .whole 0) : s.Telling mode where
  messages step := by
    cases step with
    | schema =>
      rw [Step.told, Step.said, Step.standing, if_neg hpast]
      exact h.message
    | data => exact hdata
    | foreignKeys => exact hforeignKeys
  done step hin hdone := by
    cases step with
    | schema => exact h.progress hin
    | data =>
      rw [Step.standing, if_neg hpast] at hdone
      split at hdone
      next hp => exact hwritten hp
      next => cases hdone
    | foreignKeys =>
      rw [Step.standing] at hdone
      split at hdone <;> cases hdone
  unwritten hp := hunwritten (hp.resolve_left hpast)
  schemaOnly hm := by
    rw [hm] at hmode
    cases hmode

theorem Telling.raised {t : RunState} (h : s.Telling mode) (hphase : t.phase = s.phase)
    (hmessage : ∀ step : Step, step.message t = step.message s)
    (hprogress : ∀ step : Step, step.standing s.phase = .done → step.progress t = step.progress s)
    (hunwritten : s.phase = .schemaMigrating ∨ s.phase = .provisioning →
      t.dataProgress = s.dataProgress) : t.Telling mode where
  messages step := by
    rw [hmessage, hphase]
    exact h.messages step
  done step hin hdone := by
    rw [hphase] at hdone
    rw [hprogress step hdone]
    exact h.done step hin hdone
  unwritten hp := by
    rw [hphase] at hp
    rw [hunwritten hp]
    exact h.unwritten hp
  schemaOnly hm := hphase.trans (h.schemaOnly hm)

theorem rest_finishSchema (s : RunState) (mode : Option Mode) :
    (s.finishSchema mode).dataMessage = s.dataMessage ∧
      (s.finishSchema mode).foreignKeyMessage = s.foreignKeyMessage ∧
      (s.finishSchema mode).dataProgress = s.dataProgress := by
  unfold finishSchema
  split <;> exact ⟨rfl, rfl, rfl⟩

theorem Step.told_of_isIn {step : Step} (hin : step.isIn mode = true) (p : Phase) :
    step.told mode p = step.said p := if_pos hin

/-- A report keeps a run that migrates data telling, as long as the run goes on. -/
theorem Course.telling (h : Course s (some mode) q a) (hs : s.Telling mode)
    (hmode : mode.migratesData = true) (ha : a.state.phase.isActive = true) :
    a.state.Telling mode := by
  obtain ⟨hdata, hforeignKeys, hprogress⟩ := rest_finishSchema s (some mode)
  have hschema := hs.finishSchema
  have hdataIn : Step.data.isIn mode = true := hmode
  have hforeignKeysIn : Step.foreignKeys.isIn mode = true := hmode
  -- Where foreign keys are not applied yet, nothing is said of them.
  have hquiet : ∀ p, s.phase ≠ .foreignKeys → p ≠ .foreignKeys →
      (s.finishSchema (some mode)).foreignKeyMessage = .text (Step.foreignKeys.told mode p) := by
    intro p hs' hp
    have hmessage : s.foreignKeyMessage = .text (Step.foreignKeys.told mode s.phase) :=
      hs.messages .foreignKeys
    rw [hforeignKeys, hmessage, Step.told_of_isIn hforeignKeysIn, Step.told_of_isIn hforeignKeysIn,
      Step.said, Step.said, Step.standing, Step.standing, if_neg hp, if_neg hs']
  cases h with
  | stays => exact hs
  | raisesSchema hp =>
    refine hs.raised rfl (fun step => by cases step <;> rfl) (fun step hdone => ?_) fun _ => rfl
    cases step with
    | schema =>
      rw [hp] at hdone
      cases hdone
    | _ => rfl
  | raisesData hp =>
    refine hs.raised rfl (fun step => by cases step <;> rfl) (fun step hdone => ?_) fun hbefore => ?_
    · cases step with
      | data =>
        rw [hp] at hdone
        cases hdone
      | _ => rfl
    · rw [hp] at hbefore
      rcases hbefore with hbefore | hbefore <;> cases hbefore
  | raisesForeignKeys hp =>
    refine hs.raised rfl (fun step => by cases step <;> rfl) (fun step hdone => ?_) fun _ => rfl
    cases step with
    | foreignKeys =>
      rw [hp] at hdone
      cases hdone
    | _ => rfl
  | provisions hp =>
    refine SchemaTold.telling ⟨hschema.message, hschema.progress⟩ hmode nofun ?_ ?_ nofun fun _ => ?_
    · have hmessage : s.dataMessage = .text (Step.data.told mode s.phase) := hs.messages .data
      rw [hp, Step.told_of_isIn hdataIn] at hmessage
      rw [Step.told_of_isIn hdataIn]
      exact hdata.trans hmessage
    · exact hquiet .provisioning (by rw [hp]; decide) (by decide)
    · exact hprogress.trans (hs.unwritten (.inl hp))
  | startsData hp =>
    refine SchemaTold.telling ⟨hschema.message, hschema.progress⟩ hmode nofun ?_ ?_ nofun nofun
    · exact congrArg Value.text (Step.told_of_isIn hdataIn .dataMigrating).symm
    · exact hquiet .dataMigrating (by rw [hp]; decide) (by decide)
  | writesData hp =>
    refine SchemaTold.telling ⟨hschema.message, hschema.progress⟩ hmode nofun ?_ ?_ nofun nofun
    · exact congrArg Value.text (Step.told_of_isIn hdataIn .dataMigrating).symm
    · exact hquiet .dataMigrating (by rcases hp with hp | hp <;> (rw [hp]; decide)) (by decide)
  | startsForeignKeys hp =>
    refine SchemaTold.telling ⟨hschema.message, hschema.progress⟩ hmode nofun ?_ ?_ (fun _ => rfl) nofun
    · exact congrArg Value.text (Step.told_of_isIn hdataIn .foreignKeys).symm
    · exact congrArg Value.text (Step.told_of_isIn hforeignKeysIn .foreignKeys).symm
  | completesSchema _ => cases ha
  | completesData _ => cases ha
  | completes _ => cases ha

/-- **A report keeps a run telling**, as long as the run goes on. -/
theorem Telling.advance {transfer : Option Transfer} {report : Status} (h : s.Telling mode)
    (hactive : s.phase.isActive = true) (ha : s.advance (some mode) transfer report = .ok a)
    (hgoes : a.state.phase.isActive = true) : a.state.Telling mode := by
  obtain ⟨q, -, hcourse⟩ := Course.of_advance hactive ha
  by_cases hmode : mode = .schemaOnly
  · subst hmode
    have hp := h.schemaOnly rfl
    have hstays : a.state.phase = .schemaMigrating :=
      (phase_schemaOnly hp ha).resolve_right fun hcomplete => by
        rw [hcomplete] at hgoes
        cases hgoes
    -- Of all that a report can do only progress of the schema leaves the run where it is.
    cases hcourse with
    | stays => exact h
    | raisesSchema _ =>
      refine h.raised rfl (fun step => by cases step <;> rfl) (fun step hdone => ?_) fun _ => rfl
      cases step with
      | schema =>
        rw [hp] at hdone
        cases hdone
      | _ => rfl
    | raisesData hp' => cases hp.symm.trans hp'
    | raisesForeignKeys hp' => cases hp.symm.trans hp'
    | _ => cases hstays
  · refine hcourse.telling h ?_ hgoes
    cases mode with
    | schemaOnly => exact absurd rfl hmode
    | _ => rfl

/-! ## Failures -/

theorem isBelow_hundred {q : Quantity} (h : q.IsPlain) : q.isBelow 100 = !decide (q = .whole 100) := by
  obtain ⟨n, rfl, -, hle⟩ := h
  rw [Quantity.isBelow_whole, ← decide_not, decide_eq_decide, Quantity.whole.injEq]
  omega

/-- What is in flight or to come while resources are provisioned has not all of its progress. -/
theorem Telling.ne_hundred (h : s.Telling mode) {step : Step} (hp : s.phase = .provisioning)
    (hflight : step.standing s.phase = .inFlight) : step.progress s ≠ .whole 100 := by
  intro hprogress
  cases step with
  | data => cases (h.unwritten (.inr hp)).symm.trans hprogress
  | _ =>
    rw [hp] at hflight
    cases hflight

/-- **Numbers decide** what becomes of the schema and the data: the step is taken for done if it has all
of its progress. -/
theorem Telling.decided (h : s.Telling mode) {step : Step} (hstep : step ≠ .foreignKeys)
    (hplain : (step.progress s).IsPlain) :
    textIf (step.isIn mode && (step.progress s).isBelow 100) step.cancelled (step.message s)
      = .text (step.toldOnFailure mode s) := by
  rw [h.messages, Step.told, Step.toldOnFailure, isBelow_hundred hplain]
  cases hin : step.isIn mode with
  | false => rfl
  | true =>
    rw [Bool.true_and, if_pos rfl, if_pos rfl, Step.said]
    cases hstanding : step.standing s.phase with
    | toCome =>
      cases step with
      | data =>
        have hp : s.phase = .schemaMigrating := by
          rw [Step.standing] at hstanding
          split at hstanding
          next hp => exact hp
          next => split at hstanding <;> cases hstanding
        have hprogress : Step.data.progress s = .whole 0 := h.unwritten (.inl hp)
        rw [hprogress]
        rfl
      | schema =>
        rw [Step.standing] at hstanding
        split at hstanding <;> cases hstanding
      | foreignKeys => exact absurd rfl hstep
    | inFlight =>
      by_cases hprogress : step.progress s = .whole 100
      · have hp : s.phase ≠ .provisioning := fun hp => h.ne_hundred hp hstanding hprogress
        simp [hprogress, hp, hstep, textIf]
      · simp [hprogress, textIf]
    | done => simp [h.done step hin hstanding, textIf]

/-- **What a run says once it has failed**: it tells of each step what became of it, and its progress is
what it was. -/
theorem Telling.afterFailure (h : s.Telling mode) (hplain : s.Plain) (errorText : Value) (step : Step) :
    step.message (s.afterFailure (some mode) errorText) = .text (step.toldOnFailure mode s) ∧
      step.progress (s.afterFailure (some mode) errorText) = step.progress s := by
  cases step with
  | schema =>
    have hprogress : (Step.schema.progress s).IsPlain := hplain.schemaProgress
    exact ⟨h.decided Step.noConfusion hprogress, rfl⟩
  | data =>
    have hprogress : (Step.data.progress s).IsPlain := hplain.dataProgress
    exact ⟨h.decided Step.noConfusion hprogress, rfl⟩
  | foreignKeys =>
    refine ⟨?_, rfl⟩
    have hmessage : s.foreignKeyMessage = .text (Step.foreignKeys.told mode s.phase) :=
      h.messages .foreignKeys
    rw [Step.message, RunState.afterFailure, hmessage, Step.told, Step.said, Step.toldOnFailure,
      Step.standing]
    by_cases hp : s.phase = .foreignKeys
    · have hin : Step.foreignKeys.isIn mode = true := by
        cases mode with
        | schemaOnly => cases hp.symm.trans (h.schemaOnly rfl)
        | _ => rfl
      have hcancelled : Step.foreignKeys.cancelled = ProgressText.foreignKeysCancelled := rfl
      simp [hp, hin, hcancelled, textIf]
    · simp [hp, textIf]

end RunState

end Cutover
