import Cutover.Proofs.RunState.Course
import Cutover.Session

/-!
# Sound states stay sound

Every state that a run comes to passes the check of states, which then changes nothing. All that is ever
done to the run of a session is one of a few steps, and none of them makes a sound state unsound, whatever
was asked for and whenever.

* `RunState.sound_of_check`: a state that passes the check is sound;
* `Quantity.isPercentage_clamped`: what is held within 0 and 100 is a percentage;
* `RunState.Course.sound`, `RunState.Sound.afterFailure`: reports and failures keep a state sound;
* `RunState.advance_inactive`: a report changes nothing where the service does no work;
* `Session.RunStep`: **what work may do to the run**;
* `Session.RunStep.sound`: a step keeps the state sound.
-/

namespace Cutover

theorem Quantity.isPercentage_clamped (q : Quantity) : q.clamped.isPercentage = true := by
  unfold clamped
  dsimp only
  have hless : ∀ p : Quantity, (whole 0).isLess p = true → p.isBelow 0 = false := by
    intro p h
    have hlt : (whole 0).compare? p = some .lt := by simpa [isLess] using h
    rw [isBelow, isLess, compare?_swap, hlt]
    rfl
  by_cases hbelow : q.isBelow 100 = true
  · rw [if_pos hbelow]
    by_cases hpositive : (whole 0).isLess q = true
    · have hlt : q.compare? (whole 100) = some .lt := by simpa [isBelow, isLess] using hbelow
      rw [if_pos hpositive, isPercentage, hless q hpositive, isAtMost, hlt]
      rfl
    · rw [if_neg hpositive]
      decide
  · rw [if_neg hbelow]
    decide

theorem Quantity.same_self_of_isPercentage {q : Quantity} (h : q.isPercentage = true) : q.same q = true := by
  have hatMost : q.isAtMost 100 = true := by
    rw [Quantity.isPercentage, Bool.and_eq_true] at h
    exact h.2
  unfold Quantity.isAtMost at hatMost
  unfold Quantity.same
  cases q with
  | flag b => simp [Quantity.compare?, Quantity.toRatio?]
  | whole n => simp
  | real x =>
    cases x with
    | nan => simp [Quantity.compare?, Quantity.toRatio?, Double.toRatio?, Quantity.side?] at hatMost
    | infinite negative => simp [Quantity.compare?, Quantity.toRatio?, Double.toRatio?, Quantity.side?]
    | finite => simp [Quantity.compare?, Quantity.toRatio?, Double.toRatio?]

namespace RunState

variable {s t : RunState} {mode : Option Mode} {q : Quantity}

theorem percentage_ok {field : String} {p : Quantity} (h : percentage field q.toValue = .ok p) :
    p = q ∧ q.isPercentage = true := by
  simp only [percentage, Form.asQuantity, Quantity.quantity?_toValue, bind, Except.bind] at h
  split at h
  next hq =>
    cases h
    exact ⟨rfl, hq⟩
  next => cases h

/-- **A state that passes the check is sound**, and stays as it is. -/
theorem sound_of_check (h : s.check = .ok t) : t = s ∧ s.Sound := by
  unfold check withProgress at h
  simp only [bind, Except.bind] at h
  split at h
  next => cases h
  next schema hschema =>
    split at h
    next => cases h
    next data hdata =>
      split at h
      next => cases h
      next foreignKeys hforeignKeys =>
        obtain ⟨rfl, hschema'⟩ := percentage_ok hschema
        obtain ⟨rfl, hdata'⟩ := percentage_ok hdata
        obtain ⟨rfl, hforeignKeys'⟩ := percentage_ok hforeignKeys
        split at h
        next herror =>
          cases h
          exact ⟨rfl, hschema', hdata', hforeignKeys', herror⟩
        next => cases h

theorem sound_iff_check : s.Sound ↔ s.check = .ok s :=
  ⟨Sound.check_eq, fun h => (sound_of_check h).2⟩

theorem isPercentage_raised {p : Quantity} (hp : p.isPercentage = true) (hq : q.isPercentage = true) :
    (raised p q).isPercentage = true := by
  unfold raised
  split
  · exact hq
  · exact hp

theorem sound_launched (mode : Mode) : (launched mode).Sound := by
  cases mode <;> exact ⟨by decide, by decide, by decide, by decide⟩

theorem Sound.phase_of_error (h : s.Sound) (herror : s.errorText.isTruthy = true) :
    s.phase = .failed := by
  have hfits := h.error
  rw [errorFits, herror] at hfits
  simp only [Bool.not_true, Bool.false_or, Bool.and_eq_true, decide_eq_true_eq] at hfits
  exact hfits.1

theorem Sound.noError (h : s.Sound) (hactive : s.phase.isActive = true) :
    s.errorText.isTruthy = false := by
  cases herror : s.errorText.isTruthy with
  | false => rfl
  | true =>
    rw [h.phase_of_error herror] at hactive
    cases hactive

theorem errorFits_of_noError (h : s.errorText.isTruthy = false) : s.errorFits = true := by
  rw [errorFits, h]
  rfl

/-- The progress values are percentages. -/
structure Measured (s : RunState) : Prop where
  schema : s.schemaProgress.isPercentage
  data : s.dataProgress.isPercentage
  foreignKeys : s.foreignKeyProgress.isPercentage

theorem Sound.measured (h : s.Sound) : s.Measured := ⟨h.schema, h.data, h.foreignKeys⟩

theorem Measured.finishSchema (h : s.Measured) (mode : Option Mode) :
    (s.finishSchema mode).Measured := by
  unfold RunState.finishSchema
  split
  · exact ⟨(by decide : (Quantity.whole 100).isPercentage = true), h.data, h.foreignKeys⟩
  · exact h

theorem Measured.finishData (h : s.Measured) : s.finishData.Measured :=
  ⟨h.schema, (by decide : (Quantity.whole 100).isPercentage = true), h.foreignKeys⟩

theorem measured_finishAll (s : RunState) (mode : Option Mode) : (s.finishAll mode).Measured :=
  ⟨(by decide : (Quantity.whole 100).isPercentage = true),
    (by decide : (Quantity.whole 100).isPercentage = true),
    (by decide : (Quantity.whole 100).isPercentage = true)⟩

namespace Course

variable {a : Advance}

theorem measured (h : Course s mode q a) (hs : s.Measured) (hq : q.isPercentage = true) :
    a.state.Measured := by
  have hschema := hs.finishSchema mode
  cases h with
  | stays => exact hs
  | raisesSchema _ => exact ⟨isPercentage_raised hs.schema hq, hs.data, hs.foreignKeys⟩
  | raisesData _ => exact ⟨hs.schema, isPercentage_raised hs.data hq, hs.foreignKeys⟩
  | raisesForeignKeys _ => exact ⟨hs.schema, hs.data, isPercentage_raised hs.foreignKeys hq⟩
  | provisions _ => exact ⟨hschema.schema, hschema.data, hschema.foreignKeys⟩
  | startsData _ => exact ⟨hschema.schema, hschema.data, hschema.foreignKeys⟩
  | writesData _ =>
    exact ⟨hschema.schema, isPercentage_raised hschema.data hq, hschema.foreignKeys⟩
  | startsForeignKeys _ =>
    have hdata := hschema.finishData
    exact ⟨hdata.schema, hdata.data, isPercentage_raised hdata.foreignKeys hq⟩
  | completesSchema _ =>
    have hall := measured_finishAll (s.finishSchema mode) mode
    exact ⟨hall.schema, hall.data, hall.foreignKeys⟩
  | completesData _ =>
    have hdata := hschema.finishData
    exact ⟨hdata.schema, hdata.data, hdata.foreignKeys⟩
  | completes _ =>
    have hall := measured_finishAll s mode
    exact ⟨hall.schema, hall.data, hall.foreignKeys⟩

/-- **A report keeps the state of an active run sound.** -/
theorem sound (h : Course s mode q a) (hs : s.Sound) (hactive : s.phase.isActive = true)
    (hq : q.isPercentage = true) : a.state.Sound := by
  obtain ⟨hschema, hdata, hforeignKeys⟩ := h.measured hs.measured hq
  refine ⟨hschema, hdata, hforeignKeys, errorFits_of_noError ?_⟩
  rw [h.errorText]
  exact hs.noError hactive

end Course

/-- **A failed run is in a sound state.** -/
theorem Sound.afterFailure (h : s.Sound) (mode : Option Mode) (errorText : Value) :
    (s.afterFailure mode errorText).Sound := by
  refine ⟨h.schema, h.data, h.foreignKeys, ?_⟩
  rw [errorFits, Bool.or_eq_true]
  exact .inr rfl

theorem Sound.sameAs_self {s : RunState} (h : s.Sound) : s.sameAs s = true := by
  simp [sameAs, Value.alike, Quantity.same_self_of_isPercentage, h.schema, h.data, h.foreignKeys]

end RunState

/-! ## The steps of a run -/

theorem Phase.closed_of_inactive {p : Phase} (h : p.isActive = false) :
    (p ≠ .schemaMigrating ∧ p ≠ .provisioning ∧ p ≠ .dataMigrating ∧ p ≠ .foreignKeys) ∧
      p.beforeForeignKeys = false ∧ p.mayBecome .complete = false := by
  revert h
  cases p <;> decide

namespace RunState

variable {s : RunState} {mode : Option Mode} {transfer : Option Transfer} {report : Status} {a : Advance}

/-- **A report changes nothing** outside of the active phases. -/
theorem advance_inactive (hidle : s.phase.isActive = false) (h : s.advance mode transfer report = .ok a) :
    a.state = s := by
  obtain ⟨⟨hschema, hprovisioning, hdata, hforeignKeys⟩, hbefore, hcomplete⟩ := Phase.closed_of_inactive hidle
  unfold advance at h
  split at h
  next =>
    unfold advanceTo at h
    split at h
    next =>
      cases h
      simp [hschema]
    next =>
      simp only [onSchemaComplete, ne_eq, hschema, not_false_eq_true, if_true, Except.ok.injEq] at h
      rw [← h]
    next =>
      cases h
      rfl
    next =>
      split at h
      next =>
        cases h
        rfl
      next =>
        split at h
        next =>
          simp only [onDataProgress, hschema, hprovisioning, hdata, or_self, if_false, bind, Except.bind, pure,
            Except.pure, Except.ok.injEq] at h
          rw [← h]
        next =>
          simp only [onDataComplete, hbefore, Bool.false_eq_true, if_false, Except.ok.injEq] at h
          rw [← h]
        next =>
          simp only [onForeignKeyProgress, hbefore, hforeignKeys, Bool.false_eq_true, if_false,
            Except.ok.injEq] at h
          rw [← h]
        next => simp [moveTo, hcomplete, bind, Except.bind] at h
        next =>
          cases h
          rfl
  next => cases h

theorem isPercentage_of_clamped {q : Quantity} (h : report.clamped? = some q) : q.isPercentage = true := by
  obtain ⟨p, -, rfl⟩ := Option.map_eq_some_iff.mp h
  exact p.isPercentage_clamped

theorem Sound.advance (hs : s.Sound) (h : s.advance mode transfer report = .ok a) : a.state.Sound := by
  cases hactive : s.phase.isActive with
  | false => rwa [advance_inactive hactive h]
  | true =>
    obtain ⟨q, hq, hcourse⟩ := Course.of_advance hactive h
    exact hcourse.sound hs hactive (isPercentage_of_clamped hq)

theorem Sound.stopped (hs : s.Sound) : ({ s with inProgress := .bool false } : RunState).Sound := by
  refine ⟨hs.schema, hs.data, hs.foreignKeys, ?_⟩
  have herror := hs.error
  unfold errorFits at herror ⊢
  simp only [Bool.or_eq_true, Bool.and_eq_true] at herror ⊢
  exact herror.imp_right fun h => ⟨h.1, rfl⟩

theorem Sound.marked (hs : s.Sound) (v : Value) : (s.marked v).Sound :=
  ⟨hs.schema, hs.data, hs.foreignKeys, hs.error⟩

theorem isPercentage_of_percentage {field : String} {v : Value} {q : Quantity}
    (h : percentage field v = .ok q) : q.isPercentage = true := by
  simp only [percentage, bind, Except.bind] at h
  split at h
  next => cases h
  next =>
    split at h
    next hq =>
      cases h
      exact hq
    next => cases h

theorem sound_of_withProgress {schema data foreignKeys : Value} {t : RunState}
    (h : s.withProgress schema data foreignKeys = .ok t) : t.Sound := by
  unfold withProgress at h
  cases hschema : percentage "schema_progress" schema with
  | error f => simp [hschema, bind, Except.bind] at h
  | ok p =>
    cases hdata : percentage "data_progress" data with
    | error f => simp [hschema, hdata, bind, Except.bind] at h
    | ok q =>
      cases hforeignKeys : percentage "foreign_key_progress" foreignKeys with
      | error f => simp [hschema, hdata, hforeignKeys, bind, Except.bind] at h
      | ok r =>
        simp only [hschema, hdata, hforeignKeys, bind, Except.bind] at h
        split at h
        next herror =>
          cases h
          exact ⟨isPercentage_of_percentage hschema, isPercentage_of_percentage hdata,
            isPercentage_of_percentage hforeignKeys, herror⟩
        next => cases h

theorem sound_of_toState {r : Record} (h : r.toState = .ok s) : s.Sound := by
  unfold Record.toState at h
  cases hphase : (Vocabulary.read r.phase : Except Fault Phase) with
  | error f => simp [hphase, bind, Except.bind] at h
  | ok phase =>
    simp only [hphase, bind, Except.bind] at h
    exact sound_of_withProgress h

end RunState

namespace Session

variable {s t : Session}

/-- **What work may do to the run**: it is launched, taken up, forgotten or moved on by a report, it is
complete or fails, or its resources were fetched or not. -/
inductive RunStep (s : Session) : Session → Prop
  | launched (mode : Mode) (transfer : Transfer) (shards instances : Value) : RunStep s
    { s with
      state := .launched mode
      mode := some mode
      transfer := some transfer
      shardCount := shards
      instanceCount := instances
      lastFailure := none
      lastFetchFault := none }
  | restored {r : Record} {state : RunState} (reads : r.toState = .ok state) : RunStep s { s with state }
  | restoredMode {r : Record} {mode : Option Mode} (reads : r.readMode = .ok mode) : RunStep s { s with mode }
  | restoredTransfer {r : Record} {transfer : Option Transfer} (reads : r.readTransfer = .ok transfer) :
    RunStep s { s with transfer, shardCount := r.shardCount, instanceCount := r.instanceCount }
  | forgotten : RunStep s
    { s with state := {}, mode := none, transfer := none, shardCount := .whole 0, instanceCount := .whole 0 }
  | advanced {report : Status} {a : RunState.Advance}
    (advances : s.state.advance s.mode s.transfer report = .ok a) : RunStep s { s with state := a.state }
  | completed : RunStep s { s with state := { s.state with inProgress := .bool false } }
  | failed (errorText : Value) : RunStep s
    { s with
      state := s.state.afterFailure s.mode errorText
      lastFailure := some ⟨errorText, s.state.phase⟩ }
  | reconciled : RunStep s { s with state := { s.state with reconciled := .bool true } }
  | fetchFailed (f : ServiceFault) : RunStep s { s with lastFetchFault := some f }

/-- **A step keeps the state sound.** -/
theorem RunStep.sound (h : s.RunStep t) (hs : s.state.Sound) : t.state.Sound := by
  cases h with
  | launched mode => exact RunState.sound_launched mode
  | restored reads => exact RunState.sound_of_toState reads
  | restoredMode => exact hs
  | restoredTransfer => exact hs
  | forgotten => exact RunState.sound_default
  | advanced advances => exact hs.advance advances
  | completed => exact hs.stopped
  | failed errorText => exact hs.afterFailure _ errorText
  | reconciled => exact ⟨hs.schema, hs.data, hs.foreignKeys, hs.error⟩
  | fetchFailed => exact hs

end Session

end Cutover
