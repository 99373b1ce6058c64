import Cutover.Proofs.RunState.Soundness

/-!
# Lawful states

What is true of the state of a run from its beginning to its end, however it gets there.

* `RunState.Lawful`: **what is true of the state of a run** of some mode;
* `RunState.lawful_launched`: it is true where a run begins;
* `RunState.Course.lawful`, `RunState.Lawful.afterFailure`: reports and failures keep it true;
* `Phase.Leads`, `RunState.Course.leads`: the phases that come after a phase.
-/

namespace Cutover

namespace Phase

/-- The schema is done in this phase. -/
def afterSchema : Phase → Bool
  | provisioning | dataMigrating | foreignKeys | complete => true
  | _ => false

/-- The data is done in this phase. -/
def afterData : Phase → Bool
  | foreignKeys | complete => true
  | _ => false

/-- A run in one phase stays there or goes on to another. -/
def Leads (p q : Phase) : Prop := p = q ∨ p.isActive = true ∧ p.mayBecome q = true

instance (p q : Phase) : Decidable (p.Leads q) := inferInstanceAs (Decidable (_ ∨ _))

theorem Leads.refl (p : Phase) : p.Leads p := .inl rfl

theorem Leads.trans {p q r : Phase} : p.Leads q → q.Leads r → p.Leads r := by
  cases p <;> cases q <;> cases r <;> decide

end Phase

namespace RunState

/-- **What is true of the state of a run** of some mode. -/
structure Lawful (mode : Option Mode) (s : RunState) : Prop where
  /-- The progress values are percentages. -/
  measured : s.Measured
  /-- The run is in progress exactly in the active phases. -/
  inProgress : s.inProgress = .bool s.phase.isActive
  /-- There is an error text exactly on a failed run. -/
  error : s.errorText.isTruthy = true ↔ s.phase = .failed
  /-- The schema is done before anything else is, unless the run leaves it out. -/
  schema : s.phase.afterSchema = true → mode ≠ some .dataOnly → s.schemaProgress = .whole 100
  /-- The data is done before foreign keys are applied. -/
  data : s.phase.afterData = true → s.dataProgress = .whole 100

variable {s : RunState} {mode : Option Mode} {q : Quantity} {a : Advance}

namespace Lawful

theorem isRunning (h : s.Lawful mode) : s.isRunning = s.phase.isActive := by
  rw [RunState.isRunning, h.inProgress]
  rfl

theorem sound (h : s.Lawful mode) : s.Sound := by
  refine ⟨h.measured.schema, h.measured.data, h.measured.foreignKeys, ?_⟩
  rw [errorFits, h.isRunning]
  by_cases hfailed : s.phase = .failed
  · simp [hfailed, Phase.isActive]
  · have herror : s.errorText.isTruthy = false := by
      rw [← Bool.not_eq_true]
      exact fun htext => hfailed (h.error.mp htext)
    simp [herror]

theorem noError (h : s.Lawful mode) (hactive : s.phase.isActive = true) :
    s.errorText.isTruthy = false := h.sound.noError hactive

theorem marked (h : s.Lawful mode) (v : Value) : (s.marked v).Lawful mode :=
  ⟨⟨h.measured.schema, h.measured.data, h.measured.foreignKeys⟩, h.inProgress, h.error, h.schema,
    h.data⟩

/-- **A run that fails is lawful still.** -/
theorem afterFailure (h : s.Lawful mode) {errorText : Value} (herror : errorText.isTruthy = true) :
    (s.afterFailure mode errorText).Lawful mode where
  measured := ⟨h.measured.schema, h.measured.data, h.measured.foreignKeys⟩
  inProgress := rfl
  error := ⟨fun _ => rfl, fun _ => herror⟩
  schema := nofun
  data := nofun

end Lawful

theorem lawful_default (mode : Option Mode) : ({} : RunState).Lawful mode :=
  ⟨sound_default.measured, rfl, by decide, nofun, nofun⟩

/-- **A run begins lawfully.** -/
theorem lawful_launched (mode : Mode) : (launched mode).Lawful (some mode) := by
  refine ⟨(sound_launched mode).measured, ?_, ?_, ?_, ?_⟩
  · cases mode <;> rfl
  · cases mode <;> decide
  · cases mode with
    | dataOnly => exact fun _ hmode => absurd rfl hmode
    | _ => exact nofun
  · cases mode <;> exact nofun

theorem includesSchema_of_ne (h : mode ≠ some .dataOnly) : includesSchema mode = true := by
  rcases mode with _ | _ | _ | _ <;> first | rfl | exact absurd rfl h

theorem schemaProgress_finishSchema (h : mode ≠ some .dataOnly) :
    (s.finishSchema mode).schemaProgress = .whole 100 := by
  rw [finishSchema, if_pos (includesSchema_of_ne h)]

namespace Course

theorem schemaProgress (h : Course s mode q a) (hs : s.Lawful mode)
    (hafter : a.state.phase.afterSchema = true) (hmode : mode ≠ some .dataOnly) :
    a.state.schemaProgress = .whole 100 := by
  have hdone := schemaProgress_finishSchema (s := s) hmode
  cases h with
  | stays => exact hs.schema hafter hmode
  | raisesSchema hp =>
    rw [raiseSchema, hp] at hafter
    cases hafter
  | raisesData _ => exact hs.schema hafter hmode
  | raisesForeignKeys _ => exact hs.schema hafter hmode
  | provisions _ => exact hdone
  | startsData _ => exact hdone
  | writesData _ => exact hdone
  | startsForeignKeys _ => exact hdone
  | completesSchema _ => rfl
  | completesData _ => exact hdone
  | completes _ => rfl

theorem dataProgress (h : Course s mode q a) (hs : s.Lawful mode)
    (hafter : a.state.phase.afterData = true) : a.state.dataProgress = .whole 100 := by
  cases h with
  | stays => exact hs.data hafter
  | raisesSchema _ => exact hs.data hafter
  | raisesData hp =>
    rw [raiseData, hp] at hafter
    cases hafter
  | raisesForeignKeys _ => exact hs.data hafter
  | provisions _ => cases hafter
  | startsData _ => cases hafter
  | writesData _ => cases hafter
  | startsForeignKeys _ => rfl
  | completesSchema _ => rfl
  | completesData _ => rfl
  | completes _ => rfl

/-- **A report takes a run to a phase that may come.** -/
theorem leads (h : Course s mode q a) (hactive : s.phase.isActive = true) :
    s.phase.Leads a.state.phase := by
  cases h with
  | stays => exact .refl _
  | raisesSchema _ => exact .refl _
  | raisesData _ => exact .refl _
  | raisesForeignKeys _ => exact .refl _
  | provisions hp =>
    rw [hp]
    exact .inr ⟨rfl, rfl⟩
  | startsData hp =>
    rw [hp]
    exact .inr ⟨rfl, rfl⟩
  | writesData hp => rcases hp with hp | hp <;> exact .inr ⟨hactive, by rw [hp]; rfl⟩
  | startsForeignKeys hp =>
    have hmay := mayBecome_foreignKeys mode hp
    rw [phase_finishData, phase_finishSchema] at hmay
    exact .inr ⟨hactive, hmay⟩
  | completesSchema _ => exact .inr ⟨hactive, mayBecome_complete hactive⟩
  | completesData _ => exact .inr ⟨hactive, mayBecome_complete hactive⟩
  | completes _ => exact .inr ⟨hactive, mayBecome_complete hactive⟩

/-- **A report keeps a run lawful**, once a complete run is no longer marked as in progress. -/
theorem lawful (h : Course s mode q a) (hs : s.Lawful mode) (hactive : s.phase.isActive = true)
    (hq : q.isPercentage = true) :
    ({ a.state with inProgress := .bool a.state.phase.isActive } : RunState).Lawful mode where
  measured :=
    have hmeasured := h.measured hs.measured hq
    ⟨hmeasured.schema, hmeasured.data, hmeasured.foreignKeys⟩
  inProgress := rfl
  error := by
    have hphase : a.state.phase ≠ .failed := by
      rcases h.isActive_or_complete hactive with hp | hp
      · exact fun hfailed => by simp [hfailed, Phase.isActive] at hp
      · rw [hp]
        decide
    have herror : a.state.errorText.isTruthy = false := by
      rw [h.errorText]
      exact hs.noError hactive
    exact ⟨fun htext => by simp [herror] at htext, fun hfailed => absurd hfailed hphase⟩
  schema := h.schemaProgress hs
  data := h.dataProgress hs

theorem lawful_of_active (h : Course s mode q a) (hs : s.Lawful mode)
    (hactive : s.phase.isActive = true) (hq : q.isPercentage = true)
    (ha : a.state.phase.isActive = true) : a.state.Lawful mode := by
  have hlawful := h.lawful hs hactive hq
  have hsame : a.state.inProgress = .bool a.state.phase.isActive := by
    rw [h.inProgress, hs.inProgress, hactive, ha]
  rwa [← hsame] at hlawful

end Course

end RunState

end Cutover
