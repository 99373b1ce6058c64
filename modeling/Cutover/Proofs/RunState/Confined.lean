import Cutover.Proofs.RunState.Order

/-!
# A run stays inside its mode

Which phases a run may come to depends on what it migrates and how. The table of phases says nothing of
that: it is the order in which a report is looked at that keeps a run where it belongs.

* `RunState.Confined`: the state is one of a run of some mode and transfer;
* `RunState.confined_launched`: a run begins in such a state;
* `RunState.transfer_of_provisions`: resources are provisioned for low downtime alone;
* `RunState.Confined.advance`, `RunState.Confined.afterFailure`: **a report keeps a run inside its mode**.
-/

namespace Cutover

namespace RunState

/-- **The state is one of a run of some mode and transfer.** A run of the schema alone is at the schema
or at its end; a run of the data alone is never at the schema, and says nothing of it; resources are
provisioned only where schema and data are migrated with low downtime. -/
structure Confined (mode : Mode) (transfer : Transfer) (s : RunState) : Prop where
  schemaOnly : mode = .schemaOnly →
    s.phase = .schemaMigrating ∨ s.phase = .complete ∨ s.phase = .failed
  dataOnly : mode = .dataOnly →
    s.phase ≠ .schemaMigrating ∧ s.phase ≠ .provisioning ∧ s.schemaMessage = .text ""
  provisioning : s.phase = .provisioning → mode = .schemaAndData ∧ transfer = .lowDowntime

variable {s : RunState} {mode : Mode} {transfer : Transfer} {report : Status} {a : Advance}
variable {q : Quantity}

/-- **A run begins inside its mode.** -/
theorem confined_launched (mode : Mode) (transfer : Transfer) :
    (launched mode).Confined mode transfer := by
  cases mode with
  | schemaOnly => exact ⟨fun _ => .inl rfl, nofun, nofun⟩
  | dataOnly => exact ⟨nofun, fun _ => ⟨nofun, nofun, rfl⟩, nofun⟩
  | schemaAndData => exact ⟨nofun, nofun, nofun⟩

namespace Confined

theorem marked (h : s.Confined mode transfer) (v : Value) : (s.marked v).Confined mode transfer :=
  ⟨h.schemaOnly, h.dataOnly, h.provisioning⟩

theorem stopped (h : s.Confined mode transfer) : s.stopped.Confined mode transfer :=
  ⟨h.schemaOnly, h.dataOnly, h.provisioning⟩

theorem afterFailure (h : s.Confined mode transfer) (errorText : Value) :
    (s.afterFailure (some mode) errorText).Confined mode transfer := by
  refine ⟨fun _ => .inr (.inr rfl), ?_, nofun⟩
  rintro rfl
  exact ⟨nofun, nofun, (h.dataOnly rfl).2.2⟩

end Confined

/-! ## Where a report takes a run -/

theorem phase_schemaOnly (hs : s.phase = .schemaMigrating) {transfer : Option Transfer}
    (h : s.advance (some .schemaOnly) transfer report = .ok a) :
    a.state.phase = .schemaMigrating ∨ a.state.phase = .complete := by
  unfold advance at h
  cases hq : report.clamped? with
  | none =>
    rw [hq] at h
    cases h
  | some q =>
    simp only [hq, advanceTo] at h
    cases hsignal : report.signal with
    | schemaInProgress =>
      simp only [hsignal, if_pos hs] at h
      cases h
      exact .inl hs
    | schemaComplete =>
      have hmay : ((s.finishSchema (some .schemaOnly)).finishAll (some .schemaOnly)).phase.mayBecome
          .complete = true := by
        rw [phase_finishAll, phase_finishSchema, hs]
        rfl
      simp only [hsignal, onSchemaComplete, if_neg (not_not_intro hs), if_true, moveTo_eq hmay] at h
      cases h
      exact .inr rfl
    | _ =>
      simp only [hsignal, if_true] at h
      cases h
      exact .inl hs

/-- A run of the data alone does not come to the schema, and says nothing of it. -/
theorem Course.dataOnly (h : Course s (some .dataOnly) q a) (hschema : s.phase ≠ .schemaMigrating)
    (hprovisioning : s.phase ≠ .provisioning) : a.state.phase ≠ .schemaMigrating ∧
      a.state.phase ≠ .provisioning ∧ a.state.schemaMessage = s.schemaMessage := by
  cases h with
  | stays => exact ⟨hschema, hprovisioning, rfl⟩
  | raisesSchema hp => exact absurd hp hschema
  | raisesData _ => exact ⟨hschema, hprovisioning, rfl⟩
  | raisesForeignKeys _ => exact ⟨hschema, hprovisioning, rfl⟩
  | provisions hp => exact absurd hp hschema
  | startsData hp => exact absurd hp hschema
  | writesData hp => exact absurd hp (not_or.mpr ⟨hschema, hprovisioning⟩)
  | startsForeignKeys _ => exact ⟨nofun, nofun, rfl⟩
  | completesSchema hp => exact absurd hp hschema
  | completesData _ => exact ⟨nofun, nofun, rfl⟩
  | completes _ => exact ⟨nofun, nofun, rfl⟩

theorem provisions_of_return {x : Except Fault RunState} {f : RunState → Advance}
    (hf : ∀ t, (f t).provisions = false) (h : (do return f (← x)) = Except.ok a) :
    a.provisions = false := by
  cases x with
  | error e => cases h
  | ok t =>
    cases h
    exact hf t

theorem transfer_of_onSchemaComplete {mode : Option Mode} {transfer : Option Transfer}
    (h : s.onSchemaComplete mode transfer = .ok a) (ha : a.provisions = true) :
    mode ≠ some .schemaOnly ∧ transfer = some .lowDowntime := by
  have hquiet : a.provisions ≠ false := ne_false_of_eq_true ha
  unfold onSchemaComplete at h
  split at h
  · cases h
    cases ha
  · split at h
    · exact absurd (provisions_of_return (fun _ => rfl) h) hquiet
    · split at h
      next hmode htransfer => exact ⟨hmode, htransfer⟩
      next => exact absurd (provisions_of_return (fun _ => rfl) h) hquiet

theorem provisions_onDataProgress {mode : Option Mode} (h : s.onDataProgress mode q = .ok a) :
    a.provisions = false := by
  unfold onDataProgress at h
  split at h
  · exact provisions_of_return (fun _ => rfl) h
  · exact provisions_of_return (fun _ => rfl) h

theorem provisions_onDataComplete {mode : Option Mode} (h : s.onDataComplete mode = .ok a) :
    a.provisions = false := by
  unfold onDataComplete at h
  split at h
  · exact provisions_of_return (fun _ => rfl) h
  · cases h
    rfl

theorem provisions_onForeignKeyProgress {mode : Option Mode}
    (h : s.onForeignKeyProgress mode q = .ok a) : a.provisions = false := by
  unfold onForeignKeyProgress at h
  split at h
  · exact provisions_of_return (fun _ => rfl) h
  · split at h
    · cases h
      rfl
    · cases h
      rfl

/-- **Resources are provisioned for low downtime alone**, and never for the schema alone. Only the report
that the schema is done comes to that. -/
theorem transfer_of_provisions {mode : Option Mode} {transfer : Option Transfer}
    (h : s.advance mode transfer report = .ok a) (ha : a.provisions = true) :
    mode ≠ some .schemaOnly ∧ transfer = some .lowDowntime := by
  have hquiet : a.provisions ≠ false := ne_false_of_eq_true ha
  unfold advance at h
  cases hq : report.clamped? with
  | none =>
    rw [hq] at h
    cases h
  | some q =>
    simp only [hq] at h
    unfold advanceTo at h
    split at h
    · cases h
      cases ha
    · exact transfer_of_onSchemaComplete h ha
    · cases h
      cases ha
    · split at h
      · cases h
        cases ha
      · split at h
        · exact absurd (provisions_onDataProgress h) hquiet
        · exact absurd (provisions_onDataComplete h) hquiet
        · exact absurd (provisions_onForeignKeyProgress h) hquiet
        · exact absurd (provisions_of_return (fun _ => rfl) h) hquiet
        · cases h
          cases ha

/-- A run comes to provision resources from the schema alone, when it is told that this is done. -/
theorem Course.provisions_of_phase {mode : Option Mode} (h : Course s mode q a)
    (hs : s.phase ≠ .provisioning) (ha : a.state.phase = .provisioning) : a.provisions = true := by
  cases h with
  | stays => exact absurd ha hs
  | raisesSchema _ => exact absurd ha hs
  | raisesData _ => exact absurd ha hs
  | raisesForeignKeys _ => exact absurd ha hs
  | provisions _ => rfl
  | startsData _ => cases ha
  | writesData _ => cases ha
  | startsForeignKeys _ => cases ha
  | completesSchema _ => cases ha
  | completesData _ => cases ha
  | completes _ => cases ha

/-- **A report that moves a run on keeps it inside its mode.** -/
theorem Confined.advance (h : s.Confined mode transfer) (hactive : s.phase.isActive = true)
    (ha : s.advance (some mode) (some transfer) report = .ok a) :
    a.state.Confined mode transfer := by
  obtain ⟨q, -, hcourse⟩ := Course.of_advance hactive ha
  refine ⟨?_, ?_, fun hp => ?_⟩
  · rintro rfl
    have hs : s.phase = .schemaMigrating := (h.schemaOnly rfl).resolve_right fun hover => by
      rcases hover with hp | hp <;> (rw [hp] at hactive; cases hactive)
    exact (phase_schemaOnly hs ha).imp_right .inl
  · rintro rfl
    obtain ⟨hschema, hprovisioning, hmessage⟩ := h.dataOnly rfl
    obtain ⟨hschema', hprovisioning', hmessage'⟩ := hcourse.dataOnly hschema hprovisioning
    exact ⟨hschema', hprovisioning', hmessage'.trans hmessage⟩
  · by_cases hs : s.phase = .provisioning
    · exact h.provisioning hs
    · obtain ⟨hmode, htransfer⟩ := transfer_of_provisions ha (hcourse.provisions_of_phase hs hp)
      refine ⟨?_, Option.some.inj htransfer⟩
      cases mode with
      | schemaOnly => exact absurd rfl hmode
      | schemaAndData => rfl
      | dataOnly =>
        obtain ⟨hschema, hprovisioning, -⟩ := h.dataOnly rfl
        exact absurd hp (hcourse.dataOnly hschema hprovisioning).2.1

end RunState

end Cutover
