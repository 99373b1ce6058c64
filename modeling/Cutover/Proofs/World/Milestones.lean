import Cutover.Proofs.Control.Ending
import Cutover.Proofs.RunState.Milestones
import Cutover.Proofs.World.Forward

/-!
# What is stored tells the history of a run

The record in the store was made at some point of the run, the present one or, where a report could not
be saved, an earlier one. Its flags tell which phases the run had entered by then, and none of them goes
back to false as long as there is a record.

* `Core.Live.stored_apply`: what is stored after a report;
* `World.CameThrough`, `World.Entered`: the points that a run came through, and the phases it has entered;
* `World.Onward.stored`: **where the stored record comes from**;
* `World.flags_tell_history`: **its flags tell the history of the run**.
-/

namespace Cutover

/-! ## What is stored after a report -/

namespace Core

variable {c : Core} {k : Conditions} {report : Status} {a : RunState.Advance}

/-- What is stored of a run that moves on: its record, or what was stored before. -/
theorem Live.stored_moved (h : c.Live) (hphase : a.state.phase ≠ .complete) :
    ((c.told k a).andThen fun _ d => d.settle k a).core.stored = c.stored ∨
      ((c.told k a).andThen fun _ d => d.settle k a).core.stored
        = ((c.told k a).andThen fun _ d => d.settle k a).core.record.encode := by
  cases htold : (c.told k a).result with
  | error f =>
    rw [andThen_error htold]
    exact .inl rfl
  | ok _ =>
    have hmoved : (c.told k a).core = c.moved a := rfl
    have hknown : (c.moved a).session.store < (c.moved a).storage.stores.length := h.known
    rw [andThen_ok htold, hmoved]
    cases hsettled : ((c.moved a).settle k a).result with
    | error f =>
      left
      rw [stored, (kept_settle k a _).store, storage_settle hknown hphase hsettled]
      rfl
    | ok _ => exact .inr (stored_settle hknown hphase hsettled)

/-- **What is stored after a report**, however it ends: what was stored before, nothing, or the record of a
run that goes on. -/
theorem Live.stored_apply (h : c.Live) (hreport : report.Plain) :
    (c.apply k report).core.stored = c.stored ∨ (c.apply k report).core.stored = [] ∨
      (c.apply k report).core.session.state.phase.isActive = true ∧
        (c.apply k report).core.stored = (c.apply k report).core.record.encode := by
  have hsound := h.plain.state.sound
  cases hactive : c.session.state.phase.isActive with
  | false =>
    rw [apply_idle hsound hactive]
    exact .inl rfl
  | true =>
    cases hgoes : (c.apply k report).core.session.state.phase.isActive with
    | false =>
      obtain ⟨p, d, hends⟩ := h.ends hactive hgoes
      obtain ⟨hdone, hbroken⟩ := hends.stored h (k := k) hreport
      cases hr : (c.apply k report).result with
      | ok t => exact .inr (.inl (hdone t hr).1)
      | error f => exact (hbroken f hr).imp_right fun hnotice => .inl hnotice.2.2
    | true =>
      obtain ⟨v, hv⟩ : ∃ v, (c.apply k report).core.session.state
          = (c.session.state.after c.session.mode c.session.transfer report).marked v :=
        state_after hsound
      cases hfailure : report.isFailure with
      | true =>
        rw [hv, RunState.after_failure hactive hfailure] at hgoes
        cases hgoes
      | false =>
        cases hcourse : c.course report with
        | error f =>
          rw [apply_refused hactive hsound hfailure hcourse]
          exact .inl rfl
        | ok a =>
          cases hsame : a.state.sameAs c.session.state with
          | true =>
            rw [apply_same hactive hsound hfailure hcourse hsame]
            exact .inl rfl
          | false =>
            have hphase : a.state.phase ≠ .complete := by
              intro hcomplete
              have hover : (a.state.stopped.marked v).phase = .complete := hcomplete
              rw [hv, RunState.after_ok hactive hfailure hcourse, RunState.Advance.settled,
                if_pos hcomplete, hover] at hgoes
              cases hgoes
            have hcore : (((c.told k a).andThen fun _ d => d.settle k a).andThen fun _ e =>
                e.concluded c.session.state.phase).core
                  = ((c.told k a).andThen fun _ d => d.settle k a).core :=
              core_andThen (P := fun d => d = _) rfl fun _ _ => core_concluded ..
            rw [apply_moved hactive hsound hfailure hcourse hsame, hcore]
            exact (h.stored_moved hphase).imp_right fun hsaved => .inr ⟨rfl, hsaved⟩

end Core

namespace World

variable {n m k j : Nat} {w u v x : World} {mode : Mode} {transfer : Transfer} {calm : Bool}
variable {log past before more : List Status} {r : Record}

/-! ## Points of a run -/

theorem Onward.trans (h : Onward calm n w log m u) (h' : Onward calm m u more k v) :
    Onward calm n w (log ++ more) k v := by
  induction h' with
  | here =>
    rw [List.append_nil]
    exact h
  | applies _ plain does normal ih =>
    rw [← List.append_assoc]
    exact (ih h).applies plain does normal
  | passes _ undisturbed ih => exact (ih h).passes undisturbed
  | restarts _ running succeeds does agrees ih => exact (ih h).restarts running succeeds does agrees

/-- **A run came through a point** on its way to another, after some of the reports. -/
structure CameThrough (calm : Bool) (n : Nat) (w : World) (log : List Status) (m : Nat) (u : World)
    (before : List Status) (k : Nat) (v : World) : Prop where
  onward : Onward calm n w before k v
  rest : ∃ after, log = before ++ after ∧ Onward calm k v after m u

/-- **A run has entered a phase** on its way. -/
def Entered (calm : Bool) (n : Nat) (w : World) (log : List Status) (m : Nat) (u : World) (p : Phase) :
    Prop :=
  ∃ before k v, CameThrough calm n w log m u before k v ∧ (v.session k).state.phase = p

theorem Onward.cameThrough (h : Onward calm n w log m u) : CameThrough calm n w log m u log m u :=
  ⟨h, [], (List.append_nil log).symm, .here m u⟩

theorem CameThrough.later (h : CameThrough calm n w log m u before k v)
    (h' : Onward calm m u more j x) : CameThrough calm n w (log ++ more) j x before k v := by
  obtain ⟨after, rfl, hrest⟩ := h.rest
  exact ⟨h.onward, after ++ more, List.append_assoc .., hrest.trans h'⟩

theorem Entered.later {p : Phase} (h : Entered calm n w log m u p) (h' : Onward calm m u more j x) :
    Entered calm n w (log ++ more) j x p := by
  obtain ⟨before, k, v, hcame, hp⟩ := h
  exact ⟨before, k, v, hcame.later h', hp⟩

theorem Begun.place_entered (hbegun : Begun mode transfer n w) (h : Onward calm n w log m u) {p : Phase}
    (hentered : Entered calm n w log m u p) : p.place ≤ (u.session m).state.phase.place := by
  obtain ⟨before, k, v, hcame, rfl⟩ := hentered
  obtain ⟨after, rfl, -⟩ := hcame.rest
  obtain ⟨x, hx⟩ := (hbegun.underway_of_onward h).state
  obtain ⟨y, hy⟩ := (hbegun.underway_of_onward hcame.onward).state
  have hplain : ((RunState.launched mode).afterAll (some mode) (some transfer) before).PlainSound :=
    (plainSound_launched mode).afterAll hcame.onward.plain
  have hprecedes : ((RunState.launched mode).afterAll (some mode) (some transfer) before).Precedes
      (((RunState.launched mode).afterAll (some mode) (some transfer) before).afterAll (some mode)
        (some transfer) after) :=
    RunState.precedes_afterAll hplain (List.forall_mem_append.mp h.plain).2
  rw [hx, hy, RunState.afterAll_append]
  exact hprecedes.phase

/-! ## The record of the present point -/

/-- **A record is stored** for a session. -/
def Stores (w : World) (n : Nat) (r : Record) : Prop :=
  Storage.recordOf (w.storage.table (w.session n).store) = .ok (some r)

theorem recordOf_encode {c : Core} (h : c.Plain) :
    Storage.recordOf c.record.encode = .ok (some c.record) := by
  rw [Storage.recordOf, if_neg, h.decode]
  · rfl
  · rw [List.isEmpty_iff]
    exact Record.encode_ne_nil _

theorem Underway.isActive (h : Underway calm mode transfer log n w) (hplain : ∀ r ∈ log, r.Plain)
    (hrunning : (w.session n).state.isRunning = true) : (w.session n).state.phase.isActive = true := by
  obtain ⟨v, hv⟩ := h.state
  rw [hv] at hrunning ⊢
  exact RunState.isActive_afterAll hplain hrunning

/-- **What underlies the flags of a run that goes on.** -/
theorem Underway.underlies (h : Underway calm mode transfer log n w) (hplain : ∀ r ∈ log, r.Plain)
    (hactive : (w.session n).state.phase.isActive = true) :
    (w.session n).state.Underlies mode log := by
  obtain ⟨v, hv⟩ := h.state
  have hplainState : (w.session n).state.Plain := h.live.plain.state.plain
  rw [hv] at hactive hplainState ⊢
  exact (RunState.underlies_afterAll hplain hactive).marked hplainState

/-- **The record of a run that goes on tells its history.** -/
theorem Begun.tells (hbegun : Begun mode transfer n w) (h : Onward calm n w log m u)
    (hactive : (u.session m).state.phase.isActive = true) :
    (u.session m).record.Tells mode (Entered calm n w log m u) log := by
  have hu := hbegun.underway_of_onward h
  exact (hu.underlies h.plain hactive).tells_record hactive hu.ofMode ⟨log, m, u, h.cameThrough, rfl⟩
    fun p => hbegun.place_entered h

/-- Where memory and store agree a record is stored exactly as long as the run goes on, and it is that of
the run as it stands. -/
theorem Underway.stores_iff (h : Underway calm mode transfer log n w) (hplain : ∀ r ∈ log, r.Plain)
    (hagrees : (w.site n).core.Agrees) :
    w.Stores n r ↔ (w.session n).state.phase.isActive = true ∧ r = (w.session n).record := by
  have hstored : w.storage.table (w.session n).store
      = if (w.session n).state.isRunning then (w.site n).core.record.encode else [] := hagrees
  rw [Stores, hstored]
  constructor
  · intro hstores
    split at hstores
    next hrunning =>
      rw [recordOf_encode h.live.plain] at hstores
      cases hstores
      exact ⟨h.isActive hplain hrunning, rfl⟩
    next => cases hstores
  · rintro ⟨hactive, rfl⟩
    have hrunning : (w.session n).state.isRunning = true := h.live.running hactive
    rw [if_pos hrunning]
    exact recordOf_encode h.live.plain

/-! ## Where the stored record comes from -/

/-- **A record is that of a point that a run came through** in an active phase. -/
def Recorded (calm : Bool) (n : Nat) (w : World) (log : List Status) (m : Nat) (u : World) (r : Record) :
    Prop :=
  ∃ before k v, CameThrough calm n w log m u before k v ∧
    (v.session k).state.phase.isActive = true ∧ r = (v.session k).record

theorem Recorded.later (h : Recorded calm n w log m u r) (h' : Onward calm m u more j x) :
    Recorded calm n w (log ++ more) j x r := by
  obtain ⟨before, k, v, hcame, hrecord⟩ := h
  exact ⟨before, k, v, hcame.later h', hrecord⟩

/-- **Where a stored record comes from**: it was stored at the beginning, or the run came through a point
whose record it is. -/
theorem Onward.stored (h : Onward calm n w log m u) (hw : Underway calm mode transfer past n w)
    (hpast : ∀ r ∈ past, r.Plain) (hstores : u.Stores m r) :
    w.Stores n r ∨ Recorded calm n w log m u r := by
  induction h with
  | here => exact .inl hstores
  | @applies m w u u' log report _ onward plain does normal ih =>
    have hu := onward.underway hw
    obtain ⟨k, hcame⟩ := does.applied hu.rests
    have hstored := hu.live.stored_apply (k := k) plain
    rw [← hcame.core] at hstored
    rcases hstored with hsame | hnone | ⟨hactive, hsaved⟩
    · rw [Stores, show u'.storage.table (u'.session m).store = _ from hsame] at hstores
      exact (ih hw hstores).imp_right fun hrecorded =>
        hrecorded.later (.applies (.here m u) plain does normal)
    · rw [Stores, show u'.storage.table (u'.session m).store = _ from hnone] at hstores
      cases hstores
    · rw [Stores, show u'.storage.table (u'.session m).store = _ from hsaved,
        recordOf_encode (hu.applies plain does normal).live.plain] at hstores
      cases hstores
      exact .inr ⟨_, m, u', (onward.applies plain does normal).cameThrough, hactive, rfl⟩
  | @passes m w u u' log onward undisturbed ih =>
    rw [Stores, undisturbed.store, undisturbed.stored] at hstores
    refine (ih hw hstores).imp_right fun hrecorded => ?_
    rw [← List.append_nil log]
    exact hrecorded.later (.passes (.here m u) undisturbed)
  | @restarts m k w u v v' log _ onward running succeeds does agrees ih =>
    have hu := onward.underway hw
    have hagrees := hu.inAgreement agrees
    have hagreed : Underway true mode transfer (past ++ log) m u :=
      ⟨hu.rests, hu.live, hu.ofMode, hu.ofTransfer, hu.state, fun _ => hagrees⟩
    obtain ⟨hv, -⟩ := hagreed.restarts running hagrees succeeds does
    have hplain : ∀ r ∈ past ++ log, r.Plain := List.forall_mem_append.mpr ⟨hpast, onward.plain⟩
    have hnow := (hv.stores_iff hplain (hv.agrees rfl)).mp hstores
    exact .inr ⟨log, k, v', (onward.restarts running succeeds does agrees).cameThrough, hnow⟩

theorem Begun.recorded (hbegun : Begun mode transfer n w) (h : Onward calm n w log m u)
    (hstores : u.Stores m r) : Recorded calm n w log m u r := by
  have hnone : ∀ report ∈ ([] : List Status), report.Plain :=
    fun _ hmem => absurd hmem List.not_mem_nil
  rcases h.stored hbegun.underway hnone hstores with hfirst | hrecorded
  · have hbegins : Underway true mode transfer [] n w := hbegun.underway
    have hrecord := (hbegins.stores_iff hnone (hbegins.agrees rfl)).mp hfirst
    exact ⟨[], n, w, ⟨.here n w, log, rfl, h⟩, hrecord⟩
  · exact hrecorded

/-! ## The history in the flags -/

/-- **The flags of a stored record tell the history of the run.** A record that is in the store at any
point of a run is that of a point the run came through, and of the present one if memory and store agree,
as they do where every report came out normally. It says that the schema was begun exactly if the run does
not move data alone; that the data was begun, exactly if the run had entered the phase of the data or that
of the foreign keys by then; that foreign keys were begun, exactly if it had entered theirs; and that the
data is done, exactly if it had entered theirs or, moving more than the schema, was told that all of the
data is written. And as long as there is a record no flag goes back to false, whichever session takes the
run up. -/
theorem flags_tell_history (hbegun : Begun mode transfer n w) (h : Onward calm n w log m u)
    (hstores : u.Stores m r) :
    (∃ before k v, CameThrough calm n w log m u before k v ∧
      (calm = true ∨ (u.site m).core.Agrees → before = log ∧ k = m ∧ v = u) ∧
        r = (v.session k).record ∧ r.Tells mode (Entered calm n w before k v) before) ∧
      ∀ more k v r', Onward calm m u more k v → v.Stores k r' → r.FlagsStay r' := by
  have hu : Underway calm mode transfer log m u := hbegun.underway_of_onward h
  have hrecorded := hbegun.recorded h hstores
  constructor
  · by_cases hagrees : (u.site m).core.Agrees
    · obtain ⟨hactive, rfl⟩ := (hu.stores_iff h.plain hagrees).mp hstores
      exact ⟨log, m, u, h.cameThrough, fun _ => ⟨rfl, rfl, rfl⟩, rfl, hbegun.tells h hactive⟩
    · obtain ⟨before, k, v, hcame, hactive, rfl⟩ := hrecorded
      refine ⟨before, k, v, hcame, fun hnow => ?_, rfl, hbegun.tells hcame.onward hactive⟩
      exact absurd (hnow.elim hu.agrees id) hagrees
  · intro more k v r' h' hstores'
    rcases h'.stored hu h.plain hstores' with hsame | hlater
    · cases hstores.symm.trans hsame
      exact .refl r
    · obtain ⟨before, i, x, hcame, hactive, rfl⟩ := hrecorded
      obtain ⟨before', j, y, hcame', hactive', rfl⟩ := hlater
      obtain ⟨after, rfl, hrest⟩ := hcame.rest
      have hfollows : Onward calm i x (after ++ before') j y := hrest.trans hcame'.onward
      have htells := hbegun.tells (hcame.onward.trans hfollows) hactive'
      exact (hbegun.tells hcame.onward hactive).flagsStay htells fun _ hentered => hentered.later hfollows

/-- All of the data is written, and that is still the step the run is at. -/
def allWritten : Status where
  signal := .dataInProgress
  progress := .whole 100

/-- That is reported to the second of two sessions. -/
def twinsWritten : World := twinsSucceeded.after 1 (RunAction.apply allWritten).op

/-- Once all of the data is reported written it is stored that the data is done, though the run has not
come to the foreign keys. -/
theorem twins_flags_tell : (twinsWritten.session 1).record.dataCompleted = .bool true ∧
    twinsWritten.Stores 1 (twinsWritten.session 1).record ∧
      ¬Entered true 0 twinsBegun [tenth, allWritten] 1 twinsWritten .foreignKeys := by
  have hplain : allWritten.Plain := ⟨⟨100, rfl⟩, ⟨"", rfl⟩⟩
  have honward : Onward true 0 twinsBegun ([tenth] ++ [allWritten]) 1 twinsWritten :=
    .applies (r := .ok _) onward_twins hplain (does_after rfl) fun _ => ⟨_, rfl⟩
  have hu : Underway true .dataOnly .bulk [tenth, allWritten] 1 twinsWritten :=
    begun_twins.underway_of_onward honward
  have hstores : twinsWritten.Stores 1 (twinsWritten.session 1).record :=
    (hu.stores_iff honward.plain (hu.agrees rfl)).mpr ⟨rfl, rfl⟩
  obtain ⟨⟨before, k, v, -, hnow, -, htells⟩, -⟩ := flags_tell_history begun_twins honward hstores
  obtain ⟨rfl, rfl, rfl⟩ := hnow (.inl rfl)
  refine ⟨rfl, hstores, fun hentered => ?_⟩
  obtain ⟨b, hb, hset⟩ := htells.foreignKeysStarted
  rw [hset.mpr hentered] at hb
  cases hb

end World

end Cutover
