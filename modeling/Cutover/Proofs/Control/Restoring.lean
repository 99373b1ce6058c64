import Cutover.Proofs.Control.Applying
import Cutover.Proofs.Record.RoundTrip

/-!
# Taking up a run

A run that is launched and moved on with plain values stays plain, so that its record can be read back,
and a session that takes it up comes to the same state, mode, transfer and counts.

* `Core.Plain`: the run holds values of the types that the client gives them;
* `Core.Plain.apply`: a plain report keeps it so;
* `Core.restore_record`: **a run that is taken up is the run that was stored**.
-/

namespace Cutover

/-! ## Plain runs -/

/-- The report holds a whole number and a text. -/
structure Status.Plain (report : Status) : Prop where
  progress : ∃ n : Int, report.progress = .whole n
  errorText : report.errorText.IsText

/-- The state is plain and sound. -/
structure RunState.PlainSound (s : RunState) : Prop where
  plain : s.Plain
  sound : s.Sound

namespace RunState

variable {s : RunState} {mode : Option Mode} {transfer : Option Transfer} {q : Quantity}
variable {report : Status}

theorem isPlain_hundred : (Quantity.whole 100).IsPlain := ⟨100, rfl, by decide, by decide⟩

theorem isPlain_raised {p : Quantity} (hp : p.IsPlain) (hq : q.IsPlain) : (raised p q).IsPlain := by
  unfold raised
  split
  · exact hq
  · exact hp

theorem isText_textIf {b : Bool} {text : String} {v : Value} (h : v.IsText) :
    (textIf b text v).IsText := by
  unfold textIf
  split
  · exact ⟨_, rfl⟩
  · exact h

theorem isPlain_clamped (h : report.Plain) (hq : report.clamped? = some q) : q.IsPlain := by
  obtain ⟨n, hn⟩ := h.progress
  rw [Status.clamped?, hn] at hq
  cases hq
  rw [Quantity.clamped_whole]
  exact ⟨_, rfl, by omega, by omega⟩

theorem Plain.finishSchema (h : s.Plain) (mode : Option Mode) : (s.finishSchema mode).Plain := by
  unfold RunState.finishSchema
  split
  · exact { h with schemaProgress := isPlain_hundred, schemaMessage := ⟨_, rfl⟩ }
  · exact h

theorem Plain.finishData (h : s.Plain) : s.finishData.Plain :=
  { h with dataProgress := isPlain_hundred, dataMessage := ⟨_, rfl⟩ }

theorem Plain.finishAll (h : s.Plain) (mode : Option Mode) : (s.finishAll mode).Plain :=
  { h with
    schemaProgress := isPlain_hundred
    dataProgress := isPlain_hundred
    foreignKeyProgress := isPlain_hundred
    schemaMessage := isText_textIf h.schemaMessage
    dataMessage := isText_textIf h.dataMessage
    foreignKeyMessage := isText_textIf h.foreignKeyMessage }

theorem Plain.inPhase (h : s.Plain) (phase : Phase) : { s with phase }.Plain := { h with }

theorem Plain.course {a : Advance} (h : s.Plain) (hq : q.IsPlain) (hcourse : Course s mode q a) :
    a.state.Plain := by
  have hstarted : (s.dataStarted mode).Plain := { h.finishSchema mode with dataMessage := ⟨_, rfl⟩ }
  cases hcourse with
  | stays => exact h
  | raisesSchema _ => exact { h with schemaProgress := isPlain_raised h.schemaProgress hq }
  | raisesData _ => exact { h with dataProgress := isPlain_raised h.dataProgress hq }
  | raisesForeignKeys _ =>
    exact { h with foreignKeyProgress := isPlain_raised h.foreignKeyProgress hq }
  | provisions _ => exact (h.finishSchema mode).inPhase _
  | startsData _ => exact hstarted
  | writesData _ => exact { hstarted with dataProgress := isPlain_raised hstarted.dataProgress hq }
  | startsForeignKeys _ =>
    have hdone : ((s.finishSchema mode).finishData).Plain := (h.finishSchema mode).finishData
    exact { hdone with
      foreignKeyProgress := isPlain_raised hdone.foreignKeyProgress hq
      foreignKeyMessage := ⟨_, rfl⟩ }
  | completesSchema _ => exact ((h.finishSchema mode).finishAll mode).inPhase _
  | completesData _ => exact ((h.finishSchema mode).finishData).inPhase _
  | completes _ => exact (h.finishAll mode).inPhase _

theorem plain_default : Plain {} where
  schemaProgress := ⟨0, rfl, by decide, by decide⟩
  dataProgress := ⟨0, rfl, by decide, by decide⟩
  foreignKeyProgress := ⟨0, rfl, by decide, by decide⟩
  schemaMessage := ⟨_, rfl⟩
  dataMessage := ⟨_, rfl⟩
  foreignKeyMessage := ⟨_, rfl⟩
  errorText := ⟨_, rfl⟩
  inProgress := ⟨_, rfl⟩
  reconciled := ⟨_, rfl⟩

theorem plain_launched (mode : Mode) : (launched mode).Plain := by
  unfold launched
  split
  · exact { plain_default with dataMessage := ⟨_, rfl⟩, inProgress := ⟨_, rfl⟩ }
  · exact { plain_default with schemaMessage := ⟨_, rfl⟩, inProgress := ⟨_, rfl⟩ }

namespace PlainSound

theorem course {a : Advance} (h : s.PlainSound) (hreport : report.Plain)
    (hactive : s.phase.isActive = true) (ha : s.advance mode transfer report = .ok a) :
    a.state.PlainSound := by
  obtain ⟨q, hq, hcourse⟩ := Course.of_advance hactive ha
  have hplain := isPlain_clamped hreport hq
  exact ⟨h.plain.course hplain hcourse, hcourse.sound h.sound hactive hplain.isPercentage⟩

theorem stopped (h : s.PlainSound) : s.stopped.PlainSound := by
  refine ⟨{ h.plain with inProgress := ⟨_, rfl⟩ }, h.sound.schema, h.sound.data,
    h.sound.foreignKeys, ?_⟩
  cases herror : s.errorText.isTruthy with
  | false => exact errorFits_of_noError herror
  | true =>
    have hphase : s.stopped.phase = .failed := h.sound.phase_of_error herror
    rw [errorFits, hphase]
    exact Bool.or_true _

theorem marked {v : Value} (h : s.PlainSound) (hv : v = s.reconciled ∨ v = .bool true) :
    (s.marked v).PlainSound := by
  refine ⟨{ h.plain with reconciled := ?_ }, h.sound.schema, h.sound.data, h.sound.foreignKeys,
    h.sound.error⟩
  rcases hv with rfl | rfl
  · exact h.plain.reconciled
  · exact ⟨_, rfl⟩

theorem afterFailure (h : s.PlainSound) (hreport : report.Plain) :
    (s.afterFailure mode report.errorText).PlainSound := by
  refine ⟨?_, h.sound.afterFailure mode report.errorText⟩
  exact { h.plain with
    schemaMessage := isText_textIf h.plain.schemaMessage
    dataMessage := isText_textIf h.plain.dataMessage
    foreignKeyMessage := isText_textIf h.plain.foreignKeyMessage
    errorText := hreport.errorText
    inProgress := ⟨_, rfl⟩ }

end PlainSound

end RunState

namespace Core

/-- **The run is plain**: it holds values of the types that the client gives them. -/
structure Plain (c : Core) : Prop where
  state : c.session.state.PlainSound
  shardCount : c.session.shardCount.IsWhole
  instanceCount : c.session.instanceCount.IsWhole

variable {b c : Core} {k : Conditions}

theorem plain_launched (c : Core) (mode : Mode) (transfer : Transfer) {shards instances : Value}
    (hshards : shards.IsWhole) (hinstances : instances.IsWhole) :
    (c.launched mode transfer shards instances).Plain :=
  ⟨⟨RunState.plain_launched mode, RunState.sound_launched mode⟩, hshards, hinstances⟩

theorem Plain.persist (h : c.Plain) : c.persist.core.Plain := by
  have hsession := session_persist c
  exact ⟨hsession ▸ h.state, hsession ▸ h.shardCount, hsession ▸ h.instanceCount⟩

theorem Plain.apply (h : c.Plain) {report : Status} (hreport : report.Plain) :
    (c.apply k report).core.Plain := by
  have hcontext := (kept_apply k report c).context
  refine ⟨?_, ?_, ?_⟩
  · refine state_apply h.state.sound h.state (fun _ _ => h.state.afterFailure hreport) ?_ ?_
    · exact fun hactive a ha _ v hv => (h.state.course hreport hactive ha).marked hv
    · exact fun hactive a ha _ v hv => ((h.state.course hreport hactive ha).stopped).marked hv
  · rw [show (c.apply k report).core.session.shardCount = c.session.shardCount from
      congrArg Record.Context.shardCount hcontext]
    exact h.shardCount
  · rw [show (c.apply k report).core.session.instanceCount = c.session.instanceCount from
      congrArg Record.Context.instanceCount hcontext]
    exact h.instanceCount

theorem Plain.record (h : c.Plain) : c.record.Plain :=
  Record.plain_ofState h.state.plain ⟨⟨_, rfl⟩, h.shardCount, h.instanceCount⟩

/-- The core after it took up the run of another. -/
def takenUp (c b : Core) : Core :=
  c.onSession fun s =>
    { s with
      state := b.session.state
      mode := b.session.mode
      transfer := b.session.transfer
      shardCount := b.session.shardCount
      instanceCount := b.session.instanceCount }

/-- **A run that is taken up is the run that was stored.** -/
theorem restore_record (h : b.session.state.Sound) (c : Core) :
    c.restore b.record = (c.takenUp b).giving b.session.state := by
  have hstate : b.record.toState = .ok b.session.state := Record.toState_ofState h
  have hmode : b.record.readMode = .ok b.session.mode := Record.readMode_ofState
  have htransfer : b.record.readTransfer = .ok b.session.transfer := Record.readTransfer_ofState
  have hsnap : (c.takenUp b).snapshot = (c.takenUp b).giving b.session.state :=
    congrArg (Turn.mk · _) h.check_eq
  simp only [restore, hstate, hmode, htransfer]
  exact hsnap

@[simp] theorem record_takenUp (c b : Core) : (c.takenUp b).record = b.record := rfl

/-- **A plain run is read back from what is stored.** -/
theorem Plain.decode (h : c.Plain) : Record.decode c.record.encode = .ok c.record :=
  Record.decode_encode h.record

end Core

end Cutover
