import Cutover.Proofs.Control.Restoring

/-!
# A run only goes forward

A report takes a run to a later phase or leaves it in its phase, and no progress value gets less. What
a run knows of a report it goes on to know, and a report that a run knows changes nothing.

* `RunState.after`, `RunState.afterAll`: the state after reports, once nothing of them is left to be
  done;
* `RunState.Precedes`: one state comes before another, with `RunState.precedes_afterAll`;
* `RunState.Knows`: what the state says already covers a report;
* `RunState.knows_afterAll`: **a report that was applied is known from then on**;
* `RunState.Knows.passesOver`: a report that is known is passed over.
-/

namespace Cutover

/-! ## Quantities and phases -/

namespace Quantity

/-- Both are whole numbers, and the first is no more than the second. -/
def NoMoreThan (p q : Quantity) : Prop := ∃ m n : Int, p = .whole m ∧ q = .whole n ∧ m ≤ n

variable {p q r : Quantity}

theorem NoMoreThan.trans (h : p.NoMoreThan q) (h' : q.NoMoreThan r) : p.NoMoreThan r := by
  obtain ⟨m, n, rfl, rfl, hmn⟩ := h
  obtain ⟨n', k, hn, rfl, hnk⟩ := h'
  cases hn
  exact ⟨m, k, rfl, rfl, Int.le_trans hmn hnk⟩

theorem IsPlain.noMoreThan_self (h : p.IsPlain) : p.NoMoreThan p := by
  obtain ⟨n, rfl, -⟩ := h
  exact ⟨n, n, rfl, rfl, Int.le_refl n⟩

theorem IsPlain.noMoreThan_hundred (h : p.IsPlain) : p.NoMoreThan (.whole 100) := by
  obtain ⟨n, rfl, -, hle⟩ := h
  exact ⟨n, 100, rfl, rfl, hle⟩

end Quantity

namespace Phase

/-- How far along a phase is: the end of a run comes last, whether it is complete or has failed. -/
def place : Phase → Nat
  | idle => 0
  | schemaMigrating => 1
  | provisioning => 2
  | dataMigrating => 3
  | foreignKeys => 4
  | complete | failed => 5

theorem place_of_isActive {p : Phase} (h : p.isActive = true) : 1 ≤ p.place ∧ p.place ≤ 4 := by
  cases p <;> first | decide | cases h

theorem place_of_not_active {p : Phase} (h : p.isActive = false) (hidle : p ≠ .idle) :
    complete.place ≤ p.place := by
  cases p <;> first | decide | exact absurd rfl hidle | cases h

theorem place_of_beforeForeignKeys {p : Phase} (h : p.beforeForeignKeys = true) : p.place ≤ 3 := by
  cases p <;> first | decide | cases h

/-- An active phase in which foreign keys are not to come is that of foreign keys. -/
theorem eq_foreignKeys {p : Phase} (hactive : p.isActive = true)
    (h : ¬p.beforeForeignKeys = true) : p = .foreignKeys := by
  cases p <;> first | rfl | exact absurd rfl h | cases hactive

end Phase

namespace RunState

variable {s t u : RunState} {mode : Option Mode} {transfer : Option Transfer} {report : Status}
variable {p q : Quantity} {a : Advance}

theorem raised_whole (m n : Int) : raised (.whole m) (.whole n) = .whole (max m n) := by
  unfold raised
  rw [Quantity.isLess_whole]
  by_cases h : m < n
  · rw [if_pos (decide_eq_true h), Int.max_eq_right (Int.le_of_lt h)]
  · rw [if_neg (by simpa using h), Int.max_eq_left (Int.not_lt.mp h)]

theorem noMoreThan_raised (hp : p.IsPlain) (hq : q.IsPlain) : p.NoMoreThan (raised p q) := by
  obtain ⟨m, rfl, -⟩ := hp
  obtain ⟨n, rfl, -⟩ := hq
  exact ⟨m, max m n, rfl, raised_whole m n, Int.le_max_left m n⟩

theorem raised_noMoreThan (hp : p.IsPlain) (hq : q.IsPlain) : q.NoMoreThan (raised p q) := by
  obtain ⟨m, rfl, -⟩ := hp
  obtain ⟨n, rfl, -⟩ := hq
  exact ⟨n, max m n, rfl, raised_whole m n, Int.le_max_right m n⟩

theorem raised_eq (h : q.NoMoreThan p) : raised p q = p := by
  obtain ⟨n, m, rfl, rfl, hle⟩ := h
  rw [raised_whole, Int.max_eq_left hle]

theorem raised_raised_of_noMoreThan {r : Quantity} (hp : p.IsPlain) (h : q.NoMoreThan r) :
    raised (raised p q) r = raised p r := by
  obtain ⟨k, rfl, -⟩ := hp
  obtain ⟨m, n, rfl, rfl, hmn⟩ := h
  rw [raised_whole, raised_whole, raised_whole, Int.max_assoc, Int.max_eq_right hmn]

/-! ## After a report -/

/-- The state once a run that is complete was closed. -/
def Advance.settled (a : Advance) : RunState :=
  if a.state.phase = .complete then a.state.stopped else a.state

/-- **The state after a report**, once nothing of it is left to be done. -/
def after (s : RunState) (mode : Option Mode) (transfer : Option Transfer) (report : Status) :
    RunState :=
  if s.phase.isActive then
    if report.isFailure then s.afterFailure mode report.errorText
    else
      match s.advance mode transfer report with
      | .ok a => a.settled
      | .error _ => s
  else s

/-- The state after several reports, one after the other. -/
def afterAll (s : RunState) (mode : Option Mode) (transfer : Option Transfer)
    (reports : List Status) : RunState :=
  reports.foldl (fun s report => s.after mode transfer report) s

theorem after_idle (h : s.phase.isActive = false) : s.after mode transfer report = s := by
  rw [after, h]
  rfl

theorem after_failure (h : s.phase.isActive = true) (hfailure : report.isFailure = true) :
    s.after mode transfer report = s.afterFailure mode report.errorText := by
  rw [after, if_pos h, if_pos hfailure]

theorem after_ok (h : s.phase.isActive = true) (hfailure : report.isFailure = false)
    (ha : s.advance mode transfer report = .ok a) : s.after mode transfer report = a.settled := by
  rw [after, if_pos h, if_neg (by rw [hfailure]; exact Bool.false_ne_true), ha]

/-- **What a plain report can do to a state**: nothing, let the run fail, or move it on. -/
theorem after_cases {P : RunState → Prop} (hreport : report.Plain)
    (idle : s.phase.isActive = false → P s)
    (fails : s.phase.isActive = true → report.isFailure = true →
      P (s.afterFailure mode report.errorText))
    (moves : s.phase.isActive = true → report.isFailure = false → ∀ q a, q.IsPlain →
      report.clamped? = some q → s.advance mode transfer report = .ok a → Course s mode q a →
        P a.settled) : P (s.after mode transfer report) := by
  cases hactive : s.phase.isActive with
  | false => exact (after_idle hactive).symm ▸ idle hactive
  | true =>
    cases hfailure : report.isFailure with
    | true => exact (after_failure hactive hfailure).symm ▸ fails hactive hfailure
    | false =>
      obtain ⟨n, hn⟩ := hreport.progress
      have hq : report.clamped? = some (Quantity.whole n).clamped := by
        rw [Status.clamped?, hn]
        rfl
      obtain ⟨a, ha, hcourse⟩ := advance_course mode transfer hactive hq
      rw [after_ok hactive hfailure ha]
      exact moves hactive hfailure _ a (isPlain_clamped hreport hq) hq ha hcourse

theorem PlainSound.settled (h : a.state.PlainSound) : a.settled.PlainSound := by
  unfold Advance.settled
  split
  · exact h.stopped
  · exact h

theorem PlainSound.after (h : s.PlainSound) (hreport : report.Plain) :
    (s.after mode transfer report).PlainSound :=
  after_cases hreport (fun _ => h) (fun _ _ => h.afterFailure hreport)
    fun hactive _ _ _ _ _ ha _ => (h.course hreport hactive ha).settled

theorem afterAll_append (s : RunState) (reports more : List Status) :
    s.afterAll mode transfer (reports ++ more)
      = (s.afterAll mode transfer reports).afterAll mode transfer more := List.foldl_append

theorem afterAll_concat (s : RunState) (mode : Option Mode) (transfer : Option Transfer)
    (reports : List Status) (report : Status) :
    s.afterAll mode transfer (reports ++ [report])
      = (s.afterAll mode transfer reports).after mode transfer report := by
  rw [afterAll_append]
  rfl

theorem PlainSound.afterAll {reports : List Status} (h : s.PlainSound)
    (hreports : ∀ r ∈ reports, r.Plain) : (s.afterAll mode transfer reports).PlainSound := by
  induction reports generalizing s with
  | nil => exact h
  | cons report rest ih =>
    obtain ⟨hreport, hrest⟩ := List.forall_mem_cons.mp hreports
    exact ih (h.after hreport) hrest

theorem after_marked (s : RunState) (v : Value) (mode : Option Mode) (transfer : Option Transfer)
    (report : Status) :
    (s.marked v).after mode transfer report = (s.after mode transfer report).marked v := by
  have hphase : (s.marked v).phase = s.phase := rfl
  have hadvance := advance_marked s v mode transfer report
  simp only [after, hphase]
  split
  · split
    · rfl
    · cases ha : s.advance mode transfer report with
      | error f =>
        rw [ha] at hadvance
        cases hb : (s.marked v).advance mode transfer report with
        | error g => rfl
        | ok b =>
          rw [hb] at hadvance
          cases hadvance
      | ok a =>
        rw [ha] at hadvance
        cases hb : (s.marked v).advance mode transfer report with
        | error g =>
          rw [hb] at hadvance
          cases hadvance
        | ok b =>
          rw [hb] at hadvance
          have hstate : b.state = a.state.marked v := Except.ok.inj hadvance
          show b.settled = a.settled.marked v
          simp only [Advance.settled, hstate]
          show (if a.state.phase = .complete then _ else _) = _
          split <;> rfl
  · rfl

/-! ## States in order -/

/-- **One state comes before another**: it is in no later phase, and no progress value is more. -/
structure Precedes (s t : RunState) : Prop where
  phase : s.phase.place ≤ t.phase.place
  schema : s.schemaProgress.NoMoreThan t.schemaProgress
  data : s.dataProgress.NoMoreThan t.dataProgress
  foreignKeys : s.foreignKeyProgress.NoMoreThan t.foreignKeyProgress

theorem Precedes.trans (h : s.Precedes t) (h' : t.Precedes u) : s.Precedes u where
  phase := Nat.le_trans h.phase h'.phase
  schema := h.schema.trans h'.schema
  data := h.data.trans h'.data
  foreignKeys := h.foreignKeys.trans h'.foreignKeys

theorem Plain.precedes_self (h : s.Plain) : s.Precedes s where
  phase := Nat.le_refl _
  schema := h.schemaProgress.noMoreThan_self
  data := h.dataProgress.noMoreThan_self
  foreignKeys := h.foreignKeyProgress.noMoreThan_self

/-- What comes before a state comes before another of the same progress in a later phase. -/
theorem Precedes.inPhase (h : s.Precedes t) (target : Phase)
    (hphase : s.phase.place ≤ target.place) : s.Precedes { t with phase := target } :=
  { h with phase := hphase }

theorem precedes_finishSchema (h : s.Plain) (mode : Option Mode) :
    s.Precedes (s.finishSchema mode) := by
  unfold finishSchema
  split
  · exact { h.precedes_self with schema := h.schemaProgress.noMoreThan_hundred }
  · exact h.precedes_self

theorem precedes_finishData (h : s.Plain) : s.Precedes s.finishData :=
  { h.precedes_self with data := h.dataProgress.noMoreThan_hundred }

theorem precedes_finishAll (h : s.Plain) (mode : Option Mode) : s.Precedes (s.finishAll mode) where
  phase := Nat.le_refl _
  schema := h.schemaProgress.noMoreThan_hundred
  data := h.dataProgress.noMoreThan_hundred
  foreignKeys := h.foreignKeyProgress.noMoreThan_hundred

/-- **A report takes a run to a state that comes after.** -/
theorem Course.precedes (h : Course s mode q a) (hs : s.Plain) (hq : q.IsPlain)
    (hactive : s.phase.isActive = true) : s.Precedes a.state := by
  have hself := hs.precedes_self
  have hschema := precedes_finishSchema hs mode
  have hdata := hschema.trans (precedes_finishData (hs.finishSchema mode))
  have hplace := Phase.place_of_isActive hactive
  have hend : s.phase.place ≤ Phase.complete.place := Nat.le_succ_of_le hplace.2
  cases h with
  | stays => exact hself
  | raisesSchema _ => exact { hself with schema := noMoreThan_raised hs.schemaProgress hq }
  | raisesData _ => exact { hself with data := noMoreThan_raised hs.dataProgress hq }
  | raisesForeignKeys _ =>
    exact { hself with foreignKeys := noMoreThan_raised hs.foreignKeyProgress hq }
  | provisions hp => exact hschema.inPhase .provisioning (by rw [hp]; decide)
  | startsData hp =>
    have hphase : s.phase.place ≤ Phase.dataMigrating.place := by rw [hp]; decide
    exact { hschema with phase := hphase }
  | writesData hp =>
    have hraised := noMoreThan_raised (hs.finishSchema mode).dataProgress hq
    have hphase : s.phase.place ≤ Phase.dataMigrating.place := by
      rcases hp with hp | hp <;> (rw [hp]; decide)
    exact { hschema with phase := hphase, data := hschema.data.trans hraised }
  | startsForeignKeys hp =>
    have hraised := noMoreThan_raised (hs.finishSchema mode).foreignKeyProgress hq
    exact { hdata with
      phase := Nat.le_succ_of_le (Phase.place_of_beforeForeignKeys hp)
      foreignKeys := hschema.foreignKeys.trans hraised }
  | completesSchema _ =>
    exact (hschema.trans (precedes_finishAll (hs.finishSchema mode) mode)).inPhase .complete hend
  | completesData _ => exact hdata.inPhase .complete hend
  | completes _ => exact (precedes_finishAll hs mode).inPhase .complete hend

theorem Precedes.settled (h : s.Precedes a.state) : s.Precedes a.settled := by
  unfold Advance.settled
  split
  · exact ⟨h.phase, h.schema, h.data, h.foreignKeys⟩
  · exact h

/-- **A run only goes forward.** -/
theorem precedes_after (h : s.Plain) (hreport : report.Plain) :
    s.Precedes (s.after mode transfer report) := by
  have hself := h.precedes_self
  refine after_cases hreport (fun _ => hself) (fun hactive _ => ?_)
    fun hactive _ q a hq _ _ hcourse => (hcourse.precedes h hq hactive).settled
  exact { hself with phase := Nat.le_succ_of_le (Phase.place_of_isActive hactive).2 }

theorem precedes_afterAll {reports : List Status} (h : s.PlainSound)
    (hreports : ∀ r ∈ reports, r.Plain) : s.Precedes (s.afterAll mode transfer reports) := by
  induction reports generalizing s with
  | nil => exact h.plain.precedes_self
  | cons report rest ih =>
    obtain ⟨hreport, hrest⟩ := List.forall_mem_cons.mp hreports
    exact (precedes_after h.plain hreport).trans (ih (h.after hreport) hrest)

theorem Precedes.ne_idle (h : s.Precedes t) (hs : s.phase ≠ .idle) : t.phase ≠ .idle := by
  have hplace := h.phase
  intro ht
  rw [ht] at hplace
  revert hs hplace
  cases s.phase <;> decide

/-! ## What a run knows -/

/-- The run is past a phase, or has come to it and is at least this far in it. -/
def Beyond (s : RunState) (phase : Phase) (reported progress : Quantity) : Prop :=
  phase.place < s.phase.place ∨ phase.place ≤ s.phase.place ∧ reported.NoMoreThan progress

/-- What the state says covers a signal. A run of the schema alone knows all about data and foreign
keys that it will ever know. -/
def Covers (s : RunState) (mode : Option Mode) (q : Quantity) : Signal → Prop
  | .quiet => True
  | .schemaInProgress => s.Beyond .schemaMigrating q s.schemaProgress
  | .schemaComplete => Phase.schemaMigrating.place < s.phase.place
  | .dataInProgress => mode = some .schemaOnly ∨ s.Beyond .dataMigrating q s.dataProgress
  | .dataComplete => mode = some .schemaOnly ∨ Phase.foreignKeys.place ≤ s.phase.place
  | .foreignKeysInProgress =>
    mode = some .schemaOnly ∨ s.Beyond .foreignKeys q s.foreignKeyProgress
  | .foreignKeysComplete => mode = some .schemaOnly ∨ Phase.complete.place ≤ s.phase.place

/-- **What the state says already covers a report.** At its end a run knows everything. -/
def Knows (s : RunState) (mode : Option Mode) (report : Status) : Prop :=
  Phase.complete.place ≤ s.phase.place ∨
    report.isFailure = false ∧ ∃ q, report.clamped? = some q ∧ s.Covers mode q report.signal

theorem Beyond.later {phase : Phase} (h : s.Beyond phase p q) {r : Quantity}
    (hphase : s.phase.place ≤ t.phase.place) (hprogress : q.NoMoreThan r) : t.Beyond phase p r := by
  rcases h with hpast | ⟨hthere, hmuch⟩
  · exact .inl (Nat.lt_of_lt_of_le hpast hphase)
  · exact .inr ⟨Nat.le_trans hthere hphase, hmuch.trans hprogress⟩

theorem Covers.later {signal : Signal} (h : s.Covers mode q signal) (hst : s.Precedes t) :
    t.Covers mode q signal := by
  cases signal with
  | quiet => trivial
  | schemaInProgress => exact Beyond.later h hst.phase hst.schema
  | schemaComplete => exact Nat.lt_of_lt_of_le h hst.phase
  | dataInProgress => exact h.imp_right fun hbeyond => hbeyond.later hst.phase hst.data
  | dataComplete => exact h.imp_right fun hplace => Nat.le_trans hplace hst.phase
  | foreignKeysInProgress => exact h.imp_right fun hbeyond => hbeyond.later hst.phase hst.foreignKeys
  | foreignKeysComplete => exact h.imp_right fun hplace => Nat.le_trans hplace hst.phase

/-- **What a run knows it goes on to know.** -/
theorem Knows.later (h : s.Knows mode report) (hst : s.Precedes t) : t.Knows mode report := by
  rcases h with hend | ⟨hfailure, q, hq, hcovers⟩
  · exact .inl (Nat.le_trans hend hst.phase)
  · exact .inr ⟨hfailure, q, hq, hcovers.later hst⟩

/-! ## A report that was applied is known -/

theorem place_onSchemaComplete (hactive : s.phase.isActive = true)
    (h : s.onSchemaComplete mode transfer = .ok a) :
    Phase.schemaMigrating.place < a.state.phase.place := by
  have hplace := (Phase.place_of_isActive hactive).1
  unfold onSchemaComplete at h
  split at h
  next hp =>
    cases h
    refine Nat.lt_of_le_of_ne hplace fun heq => hp ?_
    revert heq
    cases s.phase <;> decide
  next hp =>
    rw [Decidable.not_not] at hp
    split at h
    · rw [moveTo_eq (by simp [hp]; rfl)] at h
      cases h
      exact (by decide : Phase.schemaMigrating.place < Phase.complete.place)
    · split at h
      · rw [moveTo_eq (by simp [hp]; rfl)] at h
        cases h
        exact (by decide : Phase.schemaMigrating.place < Phase.provisioning.place)
      · rw [startData, moveTo_eq (by simp [hp]; rfl)] at h
        cases h
        exact (by decide : Phase.schemaMigrating.place < Phase.dataMigrating.place)

theorem beyond_onDataProgress (hs : s.Plain) (hq : q.IsPlain) (hactive : s.phase.isActive = true)
    (h : s.onDataProgress mode q = .ok a) : a.state.Beyond .dataMigrating q a.state.dataProgress := by
  unfold onDataProgress at h
  by_cases hp : s.phase = .schemaMigrating ∨ s.phase = .provisioning
  · have hmay : (s.finishSchema mode).phase.mayBecome .dataMigrating = true := by
      rcases hp with hp | hp <;> (rw [phase_finishSchema, hp]; rfl)
    rw [if_pos hp, startData, moveTo_eq hmay] at h
    cases h
    exact .inr ⟨Nat.le_refl _, raised_noMoreThan (hs.finishSchema mode).dataProgress hq⟩
  · simp only [if_neg hp, pure_bind] at h
    by_cases hd : s.phase = .dataMigrating
    · simp only [if_pos hd] at h
      cases h
      exact .inr ⟨Nat.le_of_eq (congrArg Phase.place hd.symm), raised_noMoreThan hs.dataProgress hq⟩
    · simp only [if_neg hd] at h
      cases h
      left
      revert hp hd hactive
      cases s.phase <;> decide

theorem place_onDataComplete (hactive : s.phase.isActive = true)
    (h : s.onDataComplete mode = .ok a) : Phase.foreignKeys.place ≤ a.state.phase.place := by
  unfold onDataComplete at h
  split at h
  next hp =>
    rw [moveTo_eq (by simpa using mayBecome_complete (isActive_of_beforeForeignKeys hp))] at h
    cases h
    exact (by decide : Phase.foreignKeys.place ≤ Phase.complete.place)
  next hp =>
    cases h
    exact Nat.le_of_eq (congrArg Phase.place (Phase.eq_foreignKeys hactive hp).symm)

theorem beyond_onForeignKeyProgress (hs : s.Plain) (hq : q.IsPlain) (hactive : s.phase.isActive = true)
    (h : s.onForeignKeyProgress mode q = .ok a) :
    a.state.Beyond .foreignKeys q a.state.foreignKeyProgress := by
  unfold onForeignKeyProgress at h
  split at h
  next hp =>
    rw [moveTo_eq (mayBecome_foreignKeys mode hp)] at h
    cases h
    exact .inr ⟨Nat.le_refl _, raised_noMoreThan (hs.finishSchema mode).foreignKeyProgress hq⟩
  next hp =>
    have hphase := Phase.eq_foreignKeys hactive hp
    rw [if_pos hphase] at h
    cases h
    exact .inr ⟨Nat.le_of_eq (congrArg Phase.place hphase.symm),
      raised_noMoreThan hs.foreignKeyProgress hq⟩

/-- **Where a report has taken a run, what the state says covers it.** -/
theorem covers_advance (hs : s.Plain) (hq : q.IsPlain) (hactive : s.phase.isActive = true)
    (hreport : report.clamped? = some q) (h : s.advance mode transfer report = .ok a) :
    a.state.Covers mode q report.signal := by
  simp only [advance, hreport, advanceTo] at h
  cases hsignal : report.signal with
  | quiet => trivial
  | schemaInProgress =>
    simp only [hsignal] at h
    cases h
    by_cases hp : s.phase = .schemaMigrating
    · rw [if_pos hp]
      exact .inr ⟨Nat.le_of_eq (congrArg Phase.place hp.symm),
        raised_noMoreThan hs.schemaProgress hq⟩
    · rw [if_neg hp]
      left
      revert hp hactive
      cases s.phase <;> decide
  | schemaComplete =>
    simp only [hsignal] at h
    exact place_onSchemaComplete hactive h
  | dataInProgress =>
    simp only [hsignal] at h
    split at h
    next hmode => exact .inl hmode
    next hmode => exact .inr (beyond_onDataProgress hs hq hactive h)
  | dataComplete =>
    simp only [hsignal] at h
    split at h
    next hmode => exact .inl hmode
    next hmode => exact .inr (place_onDataComplete hactive h)
  | foreignKeysInProgress =>
    simp only [hsignal] at h
    split at h
    next hmode => exact .inl hmode
    next hmode => exact .inr (beyond_onForeignKeyProgress hs hq hactive h)
  | foreignKeysComplete =>
    simp only [hsignal] at h
    split at h
    next hmode => exact .inl hmode
    next hmode =>
      rw [moveTo_eq (by simpa using mayBecome_complete hactive)] at h
      cases h
      exact .inr (Nat.le_refl _)

/-- **A report that was applied is known.** -/
theorem knows_after (hs : s.Plain) (hreport : report.Plain) (hlaunched : s.phase ≠ .idle) :
    (s.after mode transfer report).Knows mode report := by
  refine after_cases (P := fun t => t.Knows mode report) hreport
    (fun hidle => .inl (Phase.place_of_not_active hidle hlaunched))
    (fun _ _ => .inl (Nat.le_refl _)) fun hactive hfailure q a hq hclamped ha _ => ?_
  refine .inr ⟨hfailure, q, hclamped, ?_⟩
  have hcovers := covers_advance hs hq hactive hclamped ha
  unfold Advance.settled
  split
  · exact hcovers
  · exact hcovers

theorem knows_afterAll {reports : List Status} (hs : s.PlainSound) (hlaunched : s.phase ≠ .idle)
    (hreports : ∀ r ∈ reports, r.Plain) (hmem : report ∈ reports) :
    (s.afterAll mode transfer reports).Knows mode report := by
  induction reports generalizing s with
  | nil => exact absurd hmem List.not_mem_nil
  | cons first rest ih =>
    obtain ⟨hfirst, hrest⟩ := List.forall_mem_cons.mp hreports
    have hafter : (s.after mode transfer first).PlainSound := hs.after hfirst
    rcases List.mem_cons.mp hmem with rfl | hmem
    · exact (knows_after hs.plain hfirst hlaunched).later (precedes_afterAll hafter hrest)
    · exact ih hafter ((precedes_after hs.plain hfirst).ne_idle hlaunched) hrest hmem

/-! ## A report that is known changes nothing -/

theorem Beyond.raised_eq (h : s.Beyond s.phase q p) : raised p q = p := by
  rcases h with hpast | ⟨-, hmuch⟩
  · exact absurd hpast (Nat.lt_irrefl _)
  · exact RunState.raised_eq hmuch

theorem onDataProgress_eq (h : s.Beyond .dataMigrating q s.dataProgress) :
    s.onDataProgress mode q = .ok ⟨s, false, false⟩ := by
  have hplace : Phase.dataMigrating.place ≤ s.phase.place :=
    h.elim Nat.le_of_lt And.left
  have hp : ¬(s.phase = .schemaMigrating ∨ s.phase = .provisioning) := by
    rintro (hp | hp)
    all_goals
      rw [hp] at hplace
      revert hplace
      decide
  simp only [onDataProgress, if_neg hp, pure_bind]
  by_cases hd : s.phase = .dataMigrating
  · rw [if_pos hd, raiseData, Beyond.raised_eq (hd ▸ h)]
    rfl
  · rw [if_neg hd]
    rfl

theorem onDataComplete_eq (h : Phase.foreignKeys.place ≤ s.phase.place) :
    s.onDataComplete mode = .ok ⟨s, false, false⟩ := by
  refine if_neg fun hp => ?_
  exact absurd (Nat.le_trans h (Phase.place_of_beforeForeignKeys hp)) (by decide)

theorem onForeignKeyProgress_eq (hactive : s.phase.isActive = true)
    (h : s.Beyond .foreignKeys q s.foreignKeyProgress) :
    s.onForeignKeyProgress mode q = .ok ⟨s, false, false⟩ := by
  have hplace : Phase.foreignKeys.place ≤ s.phase.place :=
    h.elim Nat.le_of_lt And.left
  have hp : ¬s.phase.beforeForeignKeys = true := fun hp =>
    absurd (Nat.le_trans hplace (Phase.place_of_beforeForeignKeys hp)) (by decide)
  have hf := Phase.eq_foreignKeys hactive hp
  rw [onForeignKeyProgress, if_neg hp, if_pos hf, raiseForeignKeys, Beyond.raised_eq (hf ▸ h)]

theorem Covers.advance_eq (h : s.Covers mode q report.signal) (hreport : report.clamped? = some q)
    (hactive : s.phase.isActive = true) :
    s.advance mode transfer report = .ok ⟨s, false, false⟩ := by
  simp only [advance, hreport, advanceTo]
  cases hsignal : report.signal with
  | quiet => rfl
  | schemaInProgress =>
    rw [hsignal] at h
    have hbeyond : s.Beyond .schemaMigrating q s.schemaProgress := h
    have hsame : (if s.phase = .schemaMigrating then s.raiseSchema q else s) = s := by
      split
      next hp => rw [raiseSchema, Beyond.raised_eq (hp ▸ hbeyond)]
      next => rfl
    exact congrArg (fun t => Except.ok (Advance.mk t false false)) hsame
  | schemaComplete =>
    rw [hsignal] at h
    refine if_pos fun hp => ?_
    have hplace : Phase.schemaMigrating.place < s.phase.place := h
    rw [hp] at hplace
    exact Nat.lt_irrefl _ hplace
  | dataInProgress =>
    rw [hsignal] at h
    dsimp only
    split
    next => rfl
    next hmode => exact onDataProgress_eq (h.resolve_left hmode)
  | dataComplete =>
    rw [hsignal] at h
    dsimp only
    split
    next => rfl
    next hmode => exact onDataComplete_eq (h.resolve_left hmode)
  | foreignKeysInProgress =>
    rw [hsignal] at h
    dsimp only
    split
    next => rfl
    next hmode => exact onForeignKeyProgress_eq hactive (h.resolve_left hmode)
  | foreignKeysComplete =>
    rw [hsignal] at h
    dsimp only
    split
    next => rfl
    next hmode =>
      have hplace : Phase.complete.place ≤ s.phase.place := h.resolve_left hmode
      exact absurd (Nat.le_trans hplace (Phase.place_of_isActive hactive).2) (by decide)

/-- **A report is passed over**: the run is in no active phase, or the report leaves the state as it
is. -/
def PassesOver (s : RunState) (mode : Option Mode) (transfer : Option Transfer) (report : Status) :
    Prop :=
  s.phase.isActive = false ∨
    report.isFailure = false ∧ s.advance mode transfer report = .ok ⟨s, false, false⟩

/-- **A report that is known is passed over.** -/
theorem Knows.passesOver (h : s.Knows mode report) : s.PassesOver mode transfer report := by
  cases hactive : s.phase.isActive with
  | false => exact .inl hactive
  | true =>
    rcases h with hend | ⟨hfailure, q, hq, hcovers⟩
    · exact absurd (Nat.le_trans hend (Phase.place_of_isActive hactive).2) (by decide)
    · exact .inr ⟨hfailure, hcovers.advance_eq hq hactive⟩

end RunState

end Cutover
