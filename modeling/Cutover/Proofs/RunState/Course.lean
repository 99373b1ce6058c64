import Cutover.RunState.Transition

/-!
# The course of a run

A report that is no failure takes an active run one of few ways. Each is a constructor of `Course`,
and what is true of every report is shown by going through them.

* `RunState.Course`: what a report can do to a run;
* `RunState.advance_course`: a report does one of these, and is never refused in an active phase;
* `RunState.advance_again`: the same report changes nothing a second time, unless the run is complete;
* `RunState.advance_marked`: it makes no difference whether the resources were fetched;
* `RunState.Course.eq_of_sameAs`: what looks the same is the same.
-/

namespace Cutover

/-! ## Quantities -/

namespace Quantity

theorem compare?_swap (p q : Quantity) : q.compare? p = (p.compare? q).map Ordering.swap := by
  unfold compare?
  rcases hp : p.toRatio? with _ | ⟨a, b⟩ <;> rcases hq : q.toRatio? with _ | ⟨c, d⟩
  case some.some =>
    simp only [Option.map_some]
    rw [Int.compare_swap]
  all_goals
    rcases p.side? with _ | _ | _ | _ <;> rcases q.side? with _ | _ | _ | _ <;> rfl

@[simp] theorem isLess_self (q : Quantity) : q.isLess q = false := by
  have h := compare?_swap q q
  unfold isLess
  rcases hc : q.compare? q with _ | _ | _ | _
  · rfl
  · rw [hc] at h
    cases h
  · rfl
  · rfl

theorem same_of_isLess {p q : Quantity} (h : p.isLess q = true) : q.same p = false := by
  have hlt : p.compare? q = some .lt := by simpa [isLess] using h
  rw [same, compare?_swap, hlt]
  rfl

end Quantity

namespace RunState

theorem raised_raised (p q : Quantity) : raised (raised p q) q = raised p q := by
  unfold raised
  by_cases h : p.isLess q = true
  · simp [h]
  · simp [h]

theorem raised_of_same {p q : Quantity} (h : (raised p q).same p = true) : raised p q = p := by
  unfold raised at h ⊢
  split at h
  next hless =>
    rw [Quantity.same_of_isLess hless] at h
    cases h
  next hless => exact if_neg hless

/-- The state of a run that went on to migrate data. -/
def dataStarted (s : RunState) (mode : Option Mode) : RunState :=
  { s.finishSchema mode with
    phase := .dataMigrating, dataMessage := .text ProgressText.dataInProgress }

/-- The state of a run that went on to apply foreign keys. -/
def foreignKeysStarted (s : RunState) (mode : Option Mode) : RunState :=
  { (s.finishSchema mode).finishData with
    phase := .foreignKeys, foreignKeyMessage := .text ProgressText.foreignKeysInProgress }

/-- **What a report can do to a run**: nothing, raise the progress of the phase, or take the run to a
later phase. -/
inductive Course (s : RunState) (mode : Option Mode) (q : Quantity) : Advance → Prop
  | stays : Course s mode q ⟨s, false, false⟩
  | raisesSchema (h : s.phase = .schemaMigrating) : Course s mode q ⟨s.raiseSchema q, false, false⟩
  | raisesData (h : s.phase = .dataMigrating) : Course s mode q ⟨s.raiseData q, false, false⟩
  | raisesForeignKeys (h : s.phase = .foreignKeys) :
    Course s mode q ⟨s.raiseForeignKeys q, false, false⟩
  | provisions (h : s.phase = .schemaMigrating) :
    Course s mode q ⟨{ s.finishSchema mode with phase := .provisioning }, true, false⟩
  | startsData (h : s.phase = .schemaMigrating) : Course s mode q ⟨s.dataStarted mode, false, false⟩
  | writesData (h : s.phase = .schemaMigrating ∨ s.phase = .provisioning) :
    Course s mode q ⟨(s.dataStarted mode).raiseData q, false, false⟩
  | startsForeignKeys (h : s.phase.beforeForeignKeys = true) :
    Course s mode q
      ⟨(s.foreignKeysStarted mode).raiseForeignKeys q, false, !s.isReconciled⟩
  | completesSchema (h : s.phase = .schemaMigrating) :
    Course s mode q ⟨{ (s.finishSchema mode).finishAll mode with phase := .complete }, false, false⟩
  | completesData (h : s.phase.beforeForeignKeys = true) :
    Course s mode q ⟨{ (s.finishSchema mode).finishData with phase := .complete }, false, false⟩
  | completes (h : s.phase.isActive = true) :
    Course s mode q ⟨{ s.finishAll mode with phase := .complete }, false, false⟩

@[simp] theorem phase_finishSchema (s : RunState) (mode : Option Mode) :
    (s.finishSchema mode).phase = s.phase := by
  unfold finishSchema
  split <;> rfl

@[simp] theorem phase_finishData (s : RunState) : s.finishData.phase = s.phase := rfl

@[simp] theorem phase_finishAll (s : RunState) (mode : Option Mode) :
    (s.finishAll mode).phase = s.phase := rfl

theorem moveTo_eq {s : RunState} {target : Phase} (h : s.phase.mayBecome target = true) :
    s.moveTo target = .ok { s with phase := target } := if_pos h

theorem mayBecome_complete {p : Phase} (h : p.isActive = true) : p.mayBecome .complete = true := by
  cases p <;> first | rfl | cases h

theorem isActive_of_beforeForeignKeys {p : Phase} (h : p.beforeForeignKeys = true) :
    p.isActive = true := by
  cases p <;> first | rfl | cases h

section
variable {s : RunState} {mode : Option Mode} {transfer : Option Transfer} {q : Quantity}

theorem onSchemaComplete_course :
    ∃ a, s.onSchemaComplete mode transfer = .ok a ∧ Course s mode q a := by
  unfold onSchemaComplete
  by_cases hp : s.phase = .schemaMigrating
  · rw [if_neg (not_not_intro hp)]
    split
    · rw [moveTo_eq (by simp [hp]; rfl)]
      exact ⟨_, rfl, .completesSchema hp⟩
    · split
      · rw [moveTo_eq (by simp [hp]; rfl)]
        exact ⟨_, rfl, .provisions hp⟩
      · rw [startData, moveTo_eq (by simp [hp]; rfl)]
        exact ⟨_, rfl, .startsData hp⟩
  · rw [if_pos hp]
    exact ⟨_, rfl, .stays⟩

theorem onDataProgress_course : ∃ a, s.onDataProgress mode q = .ok a ∧ Course s mode q a := by
  unfold onDataProgress
  by_cases hp : s.phase = .schemaMigrating ∨ s.phase = .provisioning
  · have hmay : (s.finishSchema mode).phase.mayBecome .dataMigrating = true := by
      rcases hp with hp | hp <;> (rw [phase_finishSchema, hp]; rfl)
    rw [if_pos hp, startData, moveTo_eq hmay]
    exact ⟨_, rfl, .writesData hp⟩
  · rw [if_neg hp]
    by_cases hd : s.phase = .dataMigrating
    · refine ⟨⟨s.raiseData q, false, false⟩, ?_, .raisesData hd⟩
      simp [pure, Except.pure, bind, Except.bind, hd]
    · refine ⟨⟨s, false, false⟩, ?_, .stays⟩
      simp [pure, Except.pure, bind, Except.bind, hd]

theorem onDataComplete_course : ∃ a, s.onDataComplete mode = .ok a ∧ Course s mode q a := by
  unfold onDataComplete
  by_cases hp : s.phase.beforeForeignKeys = true
  · rw [if_pos hp, moveTo_eq (by simpa using mayBecome_complete (isActive_of_beforeForeignKeys hp))]
    exact ⟨_, rfl, .completesData hp⟩
  · rw [if_neg hp]
    exact ⟨_, rfl, .stays⟩

theorem isReconciled_finishSchema (s : RunState) (mode : Option Mode) :
    (s.finishSchema mode).isReconciled = s.isReconciled := by
  unfold finishSchema
  split <;> rfl

theorem mayBecome_foreignKeys (mode : Option Mode) (h : s.phase.beforeForeignKeys = true) :
    (s.finishSchema mode).finishData.phase.mayBecome .foreignKeys = true := by
  rw [phase_finishData, phase_finishSchema]
  revert h
  cases s.phase <;> first | exact fun _ => rfl | exact nofun

theorem onForeignKeyProgress_course :
    ∃ a, s.onForeignKeyProgress mode q = .ok a ∧ Course s mode q a := by
  unfold onForeignKeyProgress
  by_cases hp : s.phase.beforeForeignKeys = true
  · rw [if_pos hp, moveTo_eq (mayBecome_foreignKeys mode hp)]
    refine ⟨_, rfl, ?_⟩
    have hcourse : Course s mode q _ := .startsForeignKeys hp
    rw [← isReconciled_finishSchema s mode] at hcourse
    exact hcourse
  · rw [if_neg hp]
    by_cases hf : s.phase = .foreignKeys
    · rw [if_pos hf]
      exact ⟨_, rfl, .raisesForeignKeys hf⟩
    · rw [if_neg hf]
      exact ⟨_, rfl, .stays⟩

theorem advanceTo_course (hactive : s.phase.isActive = true) (signal : Signal) :
    ∃ a, s.advanceTo mode transfer signal q = .ok a ∧ Course s mode q a := by
  cases signal with
  | quiet => exact ⟨_, rfl, .stays⟩
  | schemaInProgress =>
    simp only [advanceTo]
    split
    next hp => exact ⟨_, rfl, .raisesSchema hp⟩
    next => exact ⟨_, rfl, .stays⟩
  | schemaComplete => exact onSchemaComplete_course
  | dataInProgress =>
    simp only [advanceTo]
    split
    · exact ⟨_, rfl, .stays⟩
    · exact onDataProgress_course
  | dataComplete =>
    simp only [advanceTo]
    split
    · exact ⟨_, rfl, .stays⟩
    · exact onDataComplete_course
  | foreignKeysInProgress =>
    simp only [advanceTo]
    split
    · exact ⟨_, rfl, .stays⟩
    · exact onForeignKeyProgress_course
  | foreignKeysComplete =>
    simp only [advanceTo]
    split
    · exact ⟨_, rfl, .stays⟩
    · rw [moveTo_eq (by simpa using mayBecome_complete hactive)]
      exact ⟨_, rfl, .completes hactive⟩

/-- **A report does one of these**, and is never refused in an active phase. -/
theorem advance_course (mode : Option Mode) (transfer : Option Transfer) {report : Status}
    (hactive : s.phase.isActive = true)
    (hq : report.clamped? = some q) :
    ∃ a, s.advance mode transfer report = .ok a ∧ Course s mode q a := by
  simp only [advance, hq]
  exact advanceTo_course hactive report.signal

theorem Course.of_advance {report : Status} {a : Advance} (hactive : s.phase.isActive = true)
    (h : s.advance mode transfer report = .ok a) :
    ∃ q, report.clamped? = some q ∧ Course s mode q a := by
  cases hq : report.clamped? with
  | none =>
    simp only [advance, hq] at h
    cases h
  | some q =>
    obtain ⟨b, hb, hcourse⟩ := advance_course mode transfer hactive hq
    rw [hb] at h
    cases h
    exact ⟨q, rfl, hcourse⟩

/-! ## What is true of every course -/

namespace Course

variable {a : Advance}

theorem inProgress (h : Course s mode q a) : a.state.inProgress = s.inProgress := by
  cases h <;> first | rfl | (simp only [dataStarted, foreignKeysStarted, finishSchema]; split <;> rfl)

theorem errorText (h : Course s mode q a) : a.state.errorText = s.errorText := by
  cases h <;> first | rfl | (simp only [dataStarted, foreignKeysStarted, finishSchema]; split <;> rfl)

theorem reconciled (h : Course s mode q a) : a.state.reconciled = s.reconciled := by
  cases h <;> first | rfl | (simp only [dataStarted, foreignKeysStarted, finishSchema]; split <;> rfl)

theorem provisioning (h : Course s mode q a) (hp : a.provisions = true) :
    a.state.phase = .provisioning := by
  cases h <;> first | rfl | cases hp

theorem isActive_or_complete (h : Course s mode q a) (hs : s.phase.isActive = true) :
    a.state.phase.isActive = true ∨ a.state.phase = .complete := by
  cases h with
  | stays => exact .inl hs
  | raisesSchema _ => exact .inl hs
  | raisesData _ => exact .inl hs
  | raisesForeignKeys _ => exact .inl hs
  | provisions _ => exact .inl rfl
  | startsData _ => exact .inl rfl
  | writesData _ => exact .inl rfl
  | startsForeignKeys _ => exact .inl rfl
  | completesSchema _ => exact .inr rfl
  | completesData _ => exact .inr rfl
  | completes _ => exact .inr rfl

theorem phase_of_sameAs {t : RunState} (h : t.sameAs s = true) : t.phase = s.phase := by
  unfold sameAs at h
  simp only [Bool.and_eq_true, decide_eq_true_eq] at h
  exact h.1.1.1.1.1.1.1.1.1

/-- **What looks the same is the same**: a report that seems to change nothing changes nothing. -/
theorem eq_of_sameAs (h : Course s mode q a) (hsame : a.state.sameAs s = true) : a.state = s := by
  have hphase := phase_of_sameAs hsame
  unfold sameAs at hsame
  simp only [Bool.and_eq_true] at hsame
  cases h with
  | stays => rfl
  | raisesSchema _ =>
    simp only [raiseSchema] at hsame ⊢
    rw [raised_of_same hsame.1.1.1.1.1.1.1.1.2]
  | raisesData _ =>
    simp only [raiseData] at hsame ⊢
    rw [raised_of_same hsame.1.1.1.1.1.1.1.2]
  | raisesForeignKeys _ =>
    simp only [raiseForeignKeys] at hsame ⊢
    rw [raised_of_same hsame.1.1.1.1.1.1.2]
  | provisions hp => cases hphase.trans hp
  | startsData hp => cases hphase.trans hp
  | writesData hp => rcases hp with hp | hp <;> cases hphase.trans hp
  | startsForeignKeys hp =>
    rw [← hphase] at hp
    cases hp
  | completesSchema hp => cases hphase.trans hp
  | completesData hp =>
    rw [← hphase] at hp
    cases hp
  | completes hp =>
    rw [← hphase] at hp
    cases hp

end Course

/-! ## The same report again -/

@[simp] theorem raiseSchema_again (s : RunState) (q : Quantity) :
    (s.raiseSchema q).raiseSchema q = s.raiseSchema q := by
  simp only [raiseSchema, raised_raised]

@[simp] theorem raiseData_again (s : RunState) (q : Quantity) :
    (s.raiseData q).raiseData q = s.raiseData q := by
  simp only [raiseData, raised_raised]

@[simp] theorem raiseForeignKeys_again (s : RunState) (q : Quantity) :
    (s.raiseForeignKeys q).raiseForeignKeys q = s.raiseForeignKeys q := by
  simp only [raiseForeignKeys, raised_raised]

theorem onSchemaComplete_again {a : Advance} (h : s.onSchemaComplete mode transfer = .ok a)
    (ha : a.state.phase ≠ .complete) :
    a.state.onSchemaComplete mode transfer = .ok ⟨a.state, false, false⟩ := by
  have hleft : a.state.phase ≠ .schemaMigrating := by
    unfold onSchemaComplete at h
    split at h
    next hp =>
      cases h
      exact hp
    next hp =>
      rw [Decidable.not_not] at hp
      split at h
      · rw [moveTo_eq (by simp [hp]; rfl)] at h
        cases h
        exact absurd rfl ha
      · split at h
        · rw [moveTo_eq (by simp [hp]; rfl)] at h
          cases h
          exact nofun
        · rw [startData, moveTo_eq (by simp [hp]; rfl)] at h
          cases h
          exact nofun
  rw [onSchemaComplete, if_pos hleft]

theorem onDataProgress_again {a : Advance} (h : s.onDataProgress mode q = .ok a) :
    a.state.onDataProgress mode q = .ok ⟨a.state, false, false⟩ := by
  unfold onDataProgress at h
  by_cases hp : s.phase = .schemaMigrating ∨ s.phase = .provisioning
  · have hmay : (s.finishSchema mode).phase.mayBecome .dataMigrating = true := by
      rcases hp with hp | hp <;> (rw [phase_finishSchema, hp]; rfl)
    rw [if_pos hp, startData, moveTo_eq hmay] at h
    cases h
    exact congrArg (fun t => Except.ok (Advance.mk t false false)) (raiseData_again _ q)
  · simp only [if_neg hp, pure_bind] at h
    by_cases hd : s.phase = .dataMigrating
    · simp only [if_pos hd] at h
      cases h
      have hd' : (s.raiseData q).phase = .dataMigrating := hd
      simp [onDataProgress, hd', pure, Except.pure, bind, Except.bind]
    · simp only [if_neg hd] at h
      cases h
      simp [onDataProgress, hp, hd, pure, Except.pure, bind, Except.bind]

theorem onDataComplete_again {a : Advance} (h : s.onDataComplete mode = .ok a)
    (ha : a.state.phase ≠ .complete) :
    a.state.onDataComplete mode = .ok ⟨a.state, false, false⟩ := by
  unfold onDataComplete at h
  split at h
  next hp =>
    rw [moveTo_eq (by simpa using mayBecome_complete (isActive_of_beforeForeignKeys hp))] at h
    cases h
    exact absurd rfl ha
  next hp =>
    cases h
    rw [onDataComplete, if_neg hp]

theorem onForeignKeyProgress_again {a : Advance} (h : s.onForeignKeyProgress mode q = .ok a) :
    a.state.onForeignKeyProgress mode q = .ok ⟨a.state, false, false⟩ := by
  unfold onForeignKeyProgress at h
  split at h
  next hp =>
    rw [moveTo_eq (mayBecome_foreignKeys mode hp)] at h
    cases h
    exact congrArg (fun t => Except.ok (Advance.mk t false false)) (raiseForeignKeys_again _ q)
  next hp =>
    split at h
    next hf =>
      cases h
      have hp' : ¬ (s.raiseForeignKeys q).phase.beforeForeignKeys = true := hp
      have hf' : (s.raiseForeignKeys q).phase = .foreignKeys := hf
      rw [onForeignKeyProgress, if_neg hp', if_pos hf', raiseForeignKeys_again]
    next hf =>
      cases h
      rw [onForeignKeyProgress, if_neg hp, if_neg hf]

/-- **A report changes nothing a second time**, unless it completed the run. -/
theorem advance_again {report : Status} {a : Advance} (hactive : s.phase.isActive = true)
    (h : s.advance mode transfer report = .ok a) (ha : a.state.phase ≠ .complete) :
    a.state.advance mode transfer report = .ok ⟨a.state, false, false⟩ := by
  cases hq : report.clamped? with
  | none =>
    simp only [advance, hq] at h
    cases h
  | some q =>
    simp only [advance, hq, advanceTo] at h ⊢
    cases hsignal : report.signal with
    | quiet => rfl
    | schemaInProgress =>
      simp only [hsignal] at h ⊢
      cases h
      by_cases hp : s.phase = .schemaMigrating
      · have hp' : (s.raiseSchema q).phase = .schemaMigrating := hp
        simp only [if_pos hp, if_pos hp', raiseSchema_again]
      · simp only [if_neg hp]
    | schemaComplete =>
      simp only [hsignal] at h ⊢
      exact onSchemaComplete_again h ha
    | dataInProgress =>
      simp only [hsignal] at h ⊢
      split at h
      next hmode => rw [if_pos hmode]
      next hmode => rw [if_neg hmode, onDataProgress_again h]
    | dataComplete =>
      simp only [hsignal] at h ⊢
      split at h
      next hmode => rw [if_pos hmode]
      next hmode => rw [if_neg hmode, onDataComplete_again h ha]
    | foreignKeysInProgress =>
      simp only [hsignal] at h ⊢
      split at h
      next hmode => rw [if_pos hmode]
      next hmode => rw [if_neg hmode, onForeignKeyProgress_again h]
    | foreignKeysComplete =>
      simp only [hsignal] at h ⊢
      split at h
      next hmode => rw [if_pos hmode]
      next hmode =>
        rw [moveTo_eq (by simpa using mayBecome_complete hactive)] at h
        cases h
        exact absurd rfl ha

/-! ## The mark of the resources -/

/-- The state of a run that is no longer in progress. -/
def stopped (s : RunState) : RunState := { s with inProgress := .bool false }

/-- The state with another mark of whether the resources were fetched. -/
def marked (s : RunState) (v : Value) : RunState := { s with reconciled := v }

theorem moveTo_marked (s : RunState) (v : Value) (target : Phase) :
    (s.marked v).moveTo target = (s.moveTo target).map (·.marked v) := by
  unfold moveTo
  show (if s.phase.mayBecome target = true then _ else _) = _
  split <;> rfl

theorem finishSchema_marked (s : RunState) (v : Value) (mode : Option Mode) :
    (s.marked v).finishSchema mode = (s.finishSchema mode).marked v := by
  unfold finishSchema
  split <;> rfl

theorem startData_marked (s : RunState) (v : Value) :
    (s.marked v).startData = s.startData.map (·.marked v) := by
  unfold startData
  rw [moveTo_marked]
  cases s.moveTo .dataMigrating <;> rfl

theorem onSchemaComplete_marked (s : RunState) (v : Value) :
    ((s.marked v).onSchemaComplete mode transfer).map Advance.state
      = (s.onSchemaComplete mode transfer).map fun a => a.state.marked v := by
  have hall : ((s.finishSchema mode).marked v).finishAll mode
      = ((s.finishSchema mode).finishAll mode).marked v := rfl
  unfold onSchemaComplete
  rw [finishSchema_marked, hall, moveTo_marked, moveTo_marked, startData_marked]
  show Except.map _ (if s.phase ≠ .schemaMigrating then _ else _) = _
  split
  · rfl
  · split
    · cases ((s.finishSchema mode).finishAll mode).moveTo .complete <;> rfl
    · split
      · cases (s.finishSchema mode).moveTo .provisioning <;> rfl
      · cases (s.finishSchema mode).startData <;> rfl

theorem onDataProgress_marked (s : RunState) (v : Value) :
    ((s.marked v).onDataProgress mode q).map Advance.state
      = (s.onDataProgress mode q).map fun a => a.state.marked v := by
  have hraise : ∀ t : RunState, (if (t.marked v).phase = .dataMigrating then (t.marked v).raiseData q
      else t.marked v) = (if t.phase = .dataMigrating then t.raiseData q else t).marked v := by
    intro t
    show (if t.phase = .dataMigrating then _ else _) = _
    split <;> rfl
  unfold onDataProgress
  rw [finishSchema_marked, startData_marked]
  show Except.map _ (do
    let t ← if s.phase = .schemaMigrating ∨ s.phase = .provisioning then _ else _
    _) = _
  split
  · cases (s.finishSchema mode).startData with
    | error f => rfl
    | ok t => exact congrArg Except.ok (hraise t)
  · exact congrArg Except.ok (hraise s)

theorem onDataComplete_marked (s : RunState) (v : Value) :
    ((s.marked v).onDataComplete mode).map Advance.state
      = (s.onDataComplete mode).map fun a => a.state.marked v := by
  have hdata : ((s.finishSchema mode).marked v).finishData = ((s.finishSchema mode).finishData).marked v :=
    rfl
  unfold onDataComplete
  rw [finishSchema_marked, hdata, moveTo_marked]
  show Except.map _ (if s.phase.beforeForeignKeys = true then _ else _) = _
  split
  · cases (s.finishSchema mode).finishData.moveTo .complete <;> rfl
  · rfl

theorem onForeignKeyProgress_marked (s : RunState) (v : Value) :
    ((s.marked v).onForeignKeyProgress mode q).map Advance.state
      = (s.onForeignKeyProgress mode q).map fun a => a.state.marked v := by
  have hdata : ((s.finishSchema mode).marked v).finishData = ((s.finishSchema mode).finishData).marked v :=
    rfl
  unfold onForeignKeyProgress
  rw [finishSchema_marked, hdata, moveTo_marked]
  show Except.map _ (if s.phase.beforeForeignKeys = true then _
    else if s.phase = .foreignKeys then _ else _) = _
  split
  · cases (s.finishSchema mode).finishData.moveTo .foreignKeys <;> rfl
  · split <;> rfl

/-- **Whether the resources were fetched makes no difference** to where a report takes the run. -/
theorem advance_marked (s : RunState) (v : Value) (mode : Option Mode) (transfer : Option Transfer)
    (report : Status) : ((s.marked v).advance mode transfer report).map Advance.state
      = (s.advance mode transfer report).map fun a => a.state.marked v := by
  unfold advance
  cases report.clamped? with
  | none => rfl
  | some q =>
    simp only [advanceTo]
    cases report.signal with
    | quiet => rfl
    | schemaInProgress =>
      show Except.ok (if s.phase = .schemaMigrating then _ else _) = _
      dsimp only
      split <;> rfl
    | schemaComplete => exact onSchemaComplete_marked s v
    | dataInProgress =>
      dsimp only
      split
      · rfl
      · exact onDataProgress_marked s v
    | dataComplete =>
      dsimp only
      split
      · rfl
      · exact onDataComplete_marked s v
    | foreignKeysInProgress =>
      dsimp only
      split
      · rfl
      · exact onForeignKeyProgress_marked s v
    | foreignKeysComplete =>
      dsimp only
      split
      · rfl
      · have hall : (s.marked v).finishAll mode = (s.finishAll mode).marked v := rfl
        rw [hall, moveTo_marked]
        cases (s.finishAll mode).moveTo .complete <;> rfl

end

end RunState

end Cutover
