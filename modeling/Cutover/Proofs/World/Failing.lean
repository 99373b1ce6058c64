import Cutover.Proofs.RunState.Messages
import Cutover.Proofs.World.Forward

/-!
# What is said of a run that fails

While a run goes on its messages say where its steps stand, however it came to its state: begun, moved
on by reports and taken up elsewhere, with stores, hooks and resources failing on the way. So what they
say after a reported failure can be told from the phase, the mode and the progress before.

* `World.Reached.tells`: a run that goes on tells where its steps stand;
* `World.failure_told`: **what a failure leaves said of each step**.
-/

namespace Cutover

/-- If the run goes on, it has a mode and tells where its steps stand. -/
def Session.Tells (s : Session) : Prop :=
  s.state.phase.isActive = true → ∃ mode, s.mode = some mode ∧ s.state.Telling mode

namespace Core

variable {c : Core} {k : Conditions} {report : Status}

theorem tells_begin (h : c.session.Tells) (mode : Mode) (transfer : Transfer)
    (shards instances : Value) : (c.begin mode transfer shards instances).core.session.Tells := by
  have hlaunched : (c.launched mode transfer shards instances).session.Tells :=
    fun _ => ⟨mode, rfl, RunState.telling_launched mode⟩
  unfold Core.begin
  split
  · exact h
  · rw [← session_persist] at hlaunched
    exact core_andThen (P := fun d => d.session.Tells) hlaunched fun _ _ => hlaunched

theorem state_apply_failure (hactive : c.session.state.phase.isActive = true)
    (hfailure : report.isFailure = true) : (c.apply k report).core.session.state
      = c.session.state.afterFailure c.session.mode report.errorText := by
  rw [apply_failure hactive hfailure]
  refine core_andThen (P := fun d => d.session.state = _) (state_failRun ..) fun _ _ => ?_
  rw [core_concluded]
  exact state_failRun ..

/-- **A report keeps a session telling**, however that ends. -/
theorem tells_apply (h : c.session.Tells) (hlive : c.Live) :
    (c.apply k report).core.session.Tells := by
  have hmode : (c.apply k report).core.session.mode = c.session.mode :=
    congrArg Record.Context.mode (kept_apply k report c).context
  rw [Session.Tells, hmode]
  refine state_apply (P := fun s => s.phase.isActive = true → ∃ mode, c.session.mode = some mode ∧
    s.Telling mode) hlive.plain.state.sound h (fun _ _ hgoes => by cases hgoes) ?_ ?_
  · intro hactive a ha _ v _ hgoes
    obtain ⟨mode, hmode, htells⟩ := h hactive
    rw [course, hmode] at ha
    exact ⟨mode, hmode, (htells.advance hactive ha hgoes).marked v⟩
  · intro _ a _ hcomplete v _ hgoes
    have hphase : (a.state.stopped.marked v).phase = .complete := hcomplete
    rw [hphase] at hgoes
    cases hgoes

end Core

namespace World

variable {n : Nat} {w w' : World} {r : Except Exit Result} {report : Status}

/-- **Whatever a run has come to, it tells where its steps stand** as long as it goes on. -/
theorem Reached.tells (h : Reached n w) : (w.session n).Tells := by
  induction h with
  | idle _ _ state =>
    intro hactive
    rw [state] at hactive
    cases hactive
  | goesOn _ _ _ state context ih =>
    intro hactive
    rw [state] at hactive ⊢
    obtain ⟨mode, hmode, htells⟩ := ih hactive
    exact ⟨mode, (congrArg Record.Context.mode context).trans hmode, htells⟩
  | @begins n w w' mode transfer shards instances r reached _ _ does ih =>
    have htells : ((w.site n).core.begin mode transfer shards instances).core.session.Tells :=
      Core.tells_begin ih mode transfer shards instances
    rw [← (does.beginRun reached.live.1).core] at htells
    exact htells
  | @applies n w w' report r reached _ does ih =>
    obtain ⟨hrests, hlive⟩ := reached.live
    obtain ⟨k, hcame⟩ := does.applied hrests
    have htells : ((w.site n).core.apply k report).core.session.Tells := Core.tells_apply ih hlive
    rw [← hcame.core] at htells
    exact htells

/-- **What a failure leaves said of each step.** A session in the middle of a run is told that the run
has failed. The progress of every step stays what it was. Of the steps that the mode includes, those
that are done stay told so; what was in flight is cancelled, and so is data that was still to come; but
schema and data that were in flight and had all of their progress go on to be told in progress. Nothing
is said of the other steps. -/
theorem failure_told (hw : Reached n w) (hactive : (w.session n).state.phase.isActive = true)
    (hfailure : report.isFailure = true) (hdoes : Does n (RunAction.apply report).op w w' r) :
    ∃ mode, (w.session n).mode = some mode ∧ (w'.session n).state.phase = .failed ∧
      ∀ step : RunState.Step,
        step.progress (w'.session n).state = step.progress (w.session n).state ∧
        step.message (w'.session n).state = .text (step.toldOnFailure mode (w.session n).state) := by
  obtain ⟨hrests, hlive⟩ := hw.live
  obtain ⟨mode, hmode, htells⟩ := hw.tells hactive
  obtain ⟨k, hcame⟩ := hdoes.applied hrests
  have hstate : (w'.session n).state
      = (w.session n).state.afterFailure (some mode) report.errorText := by
    have hfailed := Core.state_apply_failure (k := k) (c := (w.site n).core) hactive hfailure
    rw [← hcame.core] at hfailed
    rw [← hmode]
    exact hfailed
  rw [hstate]
  refine ⟨mode, hmode, rfl, fun step => ?_⟩
  obtain ⟨hmessage, hprogress⟩ := htells.afterFailure hlive.plain.state.plain report.errorText step
  exact ⟨hprogress, hmessage⟩

/-- All of the schema is reported written, but not that it is done. -/
def drafted : Status where
  signal := .schemaInProgress
  progress := .whole 100

/-- That is reported to a run of schema and data. -/
def wholeDrafted : World := wholeBegun.after 0 (RunAction.apply drafted).op

/-- Then the run has failed. -/
def wholeFailed : World := wholeDrafted.after 0 (RunAction.apply broken).op

/-- A run that failed when all of the schema was written tells that data was cancelled, and that the
schema goes on. -/
theorem failure_told_drafted : (wholeFailed.session 0).state.phase = .failed ∧
    (wholeFailed.session 0).state.schemaProgress = .whole 100 ∧
    (wholeFailed.session 0).state.schemaMessage = .text ProgressText.schemaInProgress ∧
    (wholeFailed.session 0).state.dataMessage = .text ProgressText.dataCancelled ∧
    (wholeFailed.session 0).state.foreignKeyMessage = .text "" := by
  have hwhole (n : Int) (h : 0 ≤ n) (h' : n ≤ 100) : (Value.whole n).IsWhole := Value.isWhole_whole h h'
  have hsingle : Reached 0 single :=
    .idle ⟨by decide, rfl, rfl⟩ (by decide) rfl (hwhole 0 (by decide) (by decide))
      (hwhole 0 (by decide) (by decide))
  have hbegun : Reached 0 wholeBegun :=
    hsingle.begins (hwhole 2 (by decide) (by decide)) (hwhole 3 (by decide) (by decide))
      (does_after (r := .ok (.state (.launched .schemaAndData))) rfl)
  have hdrafted : Reached 0 wholeDrafted :=
    hbegun.applies (r := .ok _) ⟨⟨100, rfl⟩, ⟨"", rfl⟩⟩ (does_after rfl)
  obtain ⟨mode, hmode, hphase, hsteps⟩ :=
    failure_told hdrafted rfl (rfl : broken.isFailure = true) (does_after (r := .ok _) rfl)
  cases Option.some.inj hmode
  exact ⟨hphase, (hsteps .schema).1, (hsteps .schema).2, (hsteps .data).2, (hsteps .foreignKeys).2⟩

end World

end Cutover
