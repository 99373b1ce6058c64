import Cutover.Proofs.Control.Repeating
import Cutover.Proofs.World.Doing

/-!
# A report that was broken off is not made good

A report may change the state and then end by a fault, because the user cannot be told, the resources
cannot be fetched or the record cannot be saved. Whoever applies it again once everything works is told
that nothing has changed: the record stays as it was before, and no reader hears of the state. What
makes it good is only another report that changes the state once more.

* `World.Reached`: what a session may have come to;
* `World.BrokenOff`: a report was broken off while the run goes on;
* `World.Undisturbed`: what may go on before the next report;
* `World.retry_passed_over`: **the same report is passed over**, and only one that changes the state
  brings memory and store together again.
-/

namespace Cutover

namespace World

variable {n : Nat} {w w' u u' : World} {r : Except Exit Result} {report : Status}

/-- **What a session may have come to**: its run was never begun or is forgotten, goes on from that of
a session, was begun or was moved on by a report, however the calls ended. -/
inductive Reached : Nat → World → Prop
  | idle {n : Nat} {w : World} (rests : w.Rests n)
    (store : (w.session n).store < w.storage.stores.length) (state : (w.session n).state = {})
    (shardCount : (w.session n).shardCount.IsWhole)
    (instanceCount : (w.session n).instanceCount.IsWhole) : Reached n w
  | goesOn {m n : Nat} {v w : World} (reached : Reached m v) (rests : w.Rests n)
    (store : (w.session n).store < w.storage.stores.length)
    (state : (w.session n).state = (v.session m).state)
    (context : (w.session n).context = (v.session m).context) : Reached n w
  | begins {n : Nat} {w w' : World} {mode : Mode} {transfer : Transfer} {shards instances : Value}
    {r : Except Exit Result} (reached : Reached n w) (shardCount : shards.IsWhole)
    (instanceCount : instances.IsWhole)
    (does : Does n (RunAction.begin mode transfer shards instances).op w w' r) : Reached n w'
  | applies {n : Nat} {w w' : World} {report : Status} {r : Except Exit Result}
    (reached : Reached n w) (plain : report.Plain)
    (does : Does n (RunAction.apply report).op w w' r) : Reached n w'

/-- Whatever a session has come to, it is at rest, and what holds of every run holds of its own. -/
theorem Reached.live (h : Reached n w) : w.Rests n ∧ (w.site n).core.Live := by
  induction h with
  | idle rests store state shardCount instanceCount =>
    have hplain : RunState.PlainSound {} := ⟨RunState.plain_default, RunState.sound_default⟩
    refine ⟨rests, ⟨?_, shardCount, instanceCount⟩, store, fun hactive => ?_⟩
    · exact state.symm ▸ hplain
    · have hidle : (Site.core (World.site _ _)).session.state = {} := state
      rw [hidle] at hactive
      cases hactive
  | goesOn _ rests store state context ih => exact ⟨rests, ih.2.ofRun state context store⟩
  | begins _ shardCount instanceCount does ih =>
    obtain ⟨hrests, hlive⟩ := ih
    have hcame := does.beginRun hrests
    refine ⟨hcame.rests hrests (Core.stays_begin ..), ?_⟩
    rw [hcame.core]
    exact hlive.begin shardCount instanceCount
  | applies _ plain does ih =>
    obtain ⟨hrests, hlive⟩ := ih
    obtain ⟨k, hcame⟩ := does.applied hrests
    refine ⟨hcame.rests hrests (Core.kept_apply k _ _).toStays, ?_⟩
    rw [hcame.core]
    exact hlive.apply plain

/-- **A report was broken off**: it ended by a fault, but it has changed the state of a run that goes
on. -/
structure BrokenOff (n : Nat) (report : Status) (w w' : World) : Prop where
  does : ∃ e, Does n (RunAction.apply report).op w w' (.error e)
  changed : (w'.session n).state ≠ (w.session n).state
  active : (w'.session n).state.phase.isActive = true

/-- **What may go on before the next report**: anything that leaves the run and its record alone. Store
and service may be made to work again. -/
structure Undisturbed (n : Nat) (w w' : World) : Prop where
  rests : w'.Rests n
  state : (w'.session n).state = (w.session n).state
  context : (w'.session n).context = (w.session n).context
  store : (w'.session n).store = (w.session n).store
  count : w'.storage.stores.length = w.storage.stores.length
  stored : w'.storage.table (w.session n).store = w.storage.table (w.session n).store

theorem Undisturbed.reached (h : Undisturbed n w w') (hw : Reached n w) : Reached n w' := by
  obtain ⟨-, hlive⟩ := hw.live
  refine hw.goesOn h.rests ?_ h.state h.context
  rw [h.store, h.count]
  exact hlive.known

/-- What is left of a report that was broken off: the state has moved on, nothing was stored, and no
reader has heard of it. -/
theorem BrokenOff.left (h : BrokenOff n report w w') (hw : Reached n w) (hreport : report.Plain) :
    Reached n w' ∧ (w.session n).state.phase.isActive = true ∧ report.isFailure = false ∧
      (∃ a v, (w.site n).core.course report = .ok a ∧ a.state.phase ≠ .complete ∧
        (w'.session n).state = a.state.marked v) ∧
      (w'.session n).context = (w.session n).context ∧
      w'.storage.table (w'.session n).store = w.storage.table (w.session n).store ∧
      Untouched n w.tasks.length w w' := by
  obtain ⟨e, hdoes⟩ := h.does
  obtain ⟨hrests, hlive⟩ := hw.live
  obtain ⟨k, hcame⟩ := hdoes.applied hrests
  cases hr : ((w.site n).core.apply k report).result with
  | ok t =>
    have hresult := hcame.result
    rw [hr] at hresult
    cases hresult
  | error f =>
    have hkept := Core.kept_apply k report (w.site n).core
    have hcore := hcame.core
    have hactive := h.active
    have hchanged := h.changed
    have hstate : (w'.session n).state = ((w.site n).core.apply k report).core.session.state :=
      congrArg (fun c : Core => c.session.state) hcore
    rw [hstate] at hactive hchanged ⊢
    obtain ⟨hactive', hfailure, hstorage, hmoved⟩ := hlive.brokenOff hreport hr hactive hchanged
    refine ⟨hw.applies hreport hdoes, hactive', hfailure, hmoved, ?_, ?_, ?_⟩
    · exact (congrArg (fun c : Core => c.session.context) hcore).trans hkept.context
    · have hstore : (w'.session n).store = (w.session n).store :=
        (congrArg (fun c : Core => c.session.store) hcore).trans hkept.store
      have hsame : w'.storage = w.storage := (congrArg Core.storage hcore).trans hstorage
      rw [hstore, hsame]
    · have hserved := hcame.served
      rw [hr] at hserved
      exact hserved.untouched rfl

/-! ## Reports that end normally -/

theorem Came.result_ok {c : Core.Turn Transition} {items : Transition → List (Option RunState)}
    {t : Transition} (h : Came n c .transition items w w' (.ok (.transition t))) : c.result = .ok t := by
  have hresult := h.result
  cases hr : c.result with
  | error f =>
    rw [hr] at hresult
    cases hresult
  | ok t' =>
    rw [hr] at hresult
    cases hresult
    rfl

/-- **A report that ends normally** changes nothing, or brings memory and store in agreement and gives
every reader the state. -/
theorem Does.apply_ok {t : Transition}
    (h : Does n (RunAction.apply report).op w w' (.ok (.transition t))) (hw : Reached n w)
    (hreport : report.Plain) :
    (t.changed = false → (w'.site n).core = (w.site n).core ∧ Untouched n w.tasks.length w w') ∧
      (t.changed = true → (w'.site n).core.Agrees ∧ ∀ x ∈ (w.session n).streams,
        Got n w.tasks.length (some (w'.session n).state) x w w') := by
  obtain ⟨hrests, hlive⟩ := hw.live
  obtain ⟨k, hcame⟩ := h.applied hrests
  have hr := hcame.result_ok
  have hserved := hcame.served
  obtain ⟨hshown, hsame, hagrees⟩ := hlive.apply_ok hreport hr
  rw [← hcame.core] at hshown hsame hagrees
  have hshown : t.state = (w'.session n).state := hshown
  rw [hr] at hserved
  refine ⟨fun hchanged => ⟨hsame hchanged, hserved.untouched ?_⟩,
    fun hchanged => ⟨hagrees hchanged, fun x hx => ?_⟩⟩
  · simp [Surroundings.given, hchanged]
  · rw [← hshown]
    refine (hserved.got (some t.state) ?_).resolve_left List.not_mem_nil x hx
    simp [Surroundings.given, hchanged]

/-! ## The same report again -/

/-- Where memory and store agree on two runs of which one is in progress, the states are told apart by
what is stored. -/
theorem stored_ne {c d : Core} (hc : c.Live) (hd : d.Live) (hactive : c.session.state.phase.isActive = true)
    (hactive' : d.session.state.phase.isActive = true) (h : d.session.state ≠ c.session.state)
    (hagrees : c.Agrees) (hagrees' : d.Agrees) : d.stored ≠ c.stored := by
  rw [hagrees, hagrees', if_pos (hc.running hactive), if_pos (hd.running hactive')]
  intro hsame
  have hrecord : d.record = c.record := by
    have hdecode := hd.plain.decode
    rw [hsame, hc.plain.decode] at hdecode
    exact (Except.ok.inj hdecode).symm
  have hstate : d.record.toState = .ok d.session.state := Record.toState_ofState hd.plain.state.sound
  have hstate' : c.record.toState = .ok c.session.state := Record.toState_ofState hc.plain.state.sound
  rw [hrecord, hstate'] at hstate
  exact h (Except.ok.inj hstate).symm

/-- **A report that was broken off is not made good by applying it again.** Nothing was stored and no
reader was given anything. The same report then always ends normally and is passed over. A report that
ends normally leaves record and readers as they were if it is passed over, and brings memory and store
in agreement and gives every reader the state if it is not. So where memory and store agreed before,
they agree again exactly once a report changes the state. -/
theorem retry_passed_over (hw : Reached n w) (hreport : report.Plain)
    (hbroken : BrokenOff n report w w') (hu : Undisturbed n w' u) :
    (w'.storage.table (w'.session n).store = w.storage.table (w.session n).store ∧
      Untouched n w.tasks.length w w') ∧
    (∃ u', Does n (RunAction.apply report).op u u' (.ok (.transition
      ⟨(w'.session n).state.phase, (w'.session n).state, false⟩))) ∧
    ∀ (report' : Status) (u' : World) (t : Transition), report'.Plain →
      Does n (RunAction.apply report').op u u' (.ok (.transition t)) →
        (report' = report → t.changed = false) ∧
        (t.changed = false → (u'.session n).state = (w'.session n).state ∧
          u'.storage.table (u'.session n).store = w.storage.table (w.session n).store ∧
          Untouched n u.tasks.length u u') ∧
        (t.changed = true → (u'.site n).core.Agrees ∧ ∀ x ∈ (u.session n).streams,
          Got n u.tasks.length (some (u'.session n).state) x u u') ∧
        ((w.site n).core.Agrees → ((u'.site n).core.Agrees ↔ t.changed = true)) := by
  obtain ⟨hw', hactive, hfailure, ⟨a, v, hcourse, hphase, hstate⟩, hcontext, hstored, huntouched⟩ :=
    hbroken.left hw hreport
  have hreached := hu.reached hw'
  obtain ⟨hrests, hlive⟩ := hreached.live
  have hagain : ∀ k, (u.site n).core.apply k report =
      (u.site n).core.giving ⟨(w'.session n).state.phase, (w'.session n).state, false⟩ := by
    intro k
    rw [← hu.state]
    exact Core.apply_again hactive hfailure hcourse hphase (hu.state.trans hstate)
      (hu.context.trans hcontext) hlive.plain.state.sound
  refine ⟨⟨hstored, huntouched⟩, ?_, fun report' u' t hreport' hdoes => ?_⟩
  · obtain ⟨u', r, hdoes⟩ := does_apply hrests report
    obtain ⟨k, hcame⟩ := hdoes.applied hrests
    obtain rfl : r = .ok (.transition ⟨_, _, false⟩) := by
      have hresult := hcame.result
      rw [hagain k] at hresult
      exact hresult
    exact ⟨u', hdoes⟩
  · obtain ⟨hpassed, htook⟩ := hdoes.apply_ok hreached hreport'
    have hleft : (u'.site n).core = (u.site n).core → (u'.session n).state = (w'.session n).state ∧
        u'.storage.table (u'.session n).store = w.storage.table (w.session n).store := by
      intro hcore
      have hsame : (u'.session n).state = (u.session n).state :=
        congrArg (fun c : Core => c.session.state) hcore
      have hrecord : u'.storage.table (u'.session n).store = u.storage.table (u.session n).store :=
        congrArg Core.stored hcore
      exact ⟨hsame.trans hu.state, by rw [hrecord, hu.store, hu.stored, ← hstored]⟩
    refine ⟨?_, fun hchanged => ?_, htook, fun hbefore => ⟨fun hafter => ?_, fun hchanged => ?_⟩⟩
    · rintro rfl
      obtain ⟨k, hcame⟩ := hdoes.applied hrests
      have hr := hcame.result_ok
      rw [hagain k] at hr
      cases hr
      rfl
    · obtain ⟨hcore, huntouched'⟩ := hpassed hchanged
      obtain ⟨hsame, hrecord⟩ := hleft hcore
      exact ⟨hsame, hrecord, huntouched'⟩
    · cases hchanged : t.changed with
      | true => rfl
      | false =>
        -- The record is still that of the state before, which is another one.
        obtain ⟨hcore, -⟩ := hpassed hchanged
        obtain ⟨hsame, hrecord⟩ := hleft hcore
        refine absurd hrecord (stored_ne hw.live.2 ?_ hactive ?_ ?_ hbefore hafter)
        · exact hcore ▸ hlive
        · exact hsame.symm ▸ hbroken.active
        · exact hsame.symm ▸ hbroken.changed
    · exact (htook hchanged).1

/-- A single session. -/
def single : World where
  sessions := [{ board := { ttl := .whole 5 } }]

/-- It has begun a run. -/
def singleBegun : World := single.after 0 (RunAction.begin .dataOnly .bulk (.whole 2) (.whole 3)).op

/-- Half of the data is written. -/
def half : Status where
  signal := .dataInProgress
  progress := .whole 50

/-- Nothing can be saved. -/
def diskFull : World :=
  { singleBegun with
    storage := singleBegun.storage.onFaults 0 fun f => { f with saveError := some "disk full" } }

/-- A report was broken off. -/
def halfLost : World := diskFull.after 0 (RunAction.apply half).op

/-- Everything can be saved again. -/
def diskFreed : World :=
  { halfLost with storage := halfLost.storage.onFaults 0 fun f => { f with saveError := none } }

/-- A report that could not be saved is applied again, and memory and store still disagree. -/
theorem disagree_after_retry : ∃ u', Does 0 (RunAction.apply half).op diskFreed u' (.ok (.transition
    ⟨.dataMigrating, (RunState.launched .dataOnly).raiseData (.whole 50), false⟩)) ∧
      ¬(u'.site 0).core.Agrees := by
  have hplain : half.Plain := ⟨⟨50, rfl⟩, ⟨"", rfl⟩⟩
  have hzero : (Value.whole 0).IsWhole :=
    Quantity.IsPlain.isWhole (q := .whole 0) ⟨0, rfl, by decide, by decide⟩
  have htwo : (Value.whole 2).IsWhole :=
    Quantity.IsPlain.isWhole (q := .whole 2) ⟨2, rfl, by decide, by decide⟩
  have hthree : (Value.whole 3).IsWhole :=
    Quantity.IsPlain.isWhole (q := .whole 3) ⟨3, rfl, by decide, by decide⟩
  have hsingle : Reached 0 single := .idle ⟨by decide, rfl, rfl⟩ (by decide) rfl hzero hzero
  have hbegun : Reached 0 singleBegun :=
    hsingle.begins htwo hthree (does_after (r := .ok (.state (.launched .dataOnly))) rfl)
  have hreached : Reached 0 diskFull :=
    hbegun.goesOn ⟨Nat.lt_of_lt_of_eq (by decide : 0 < 1) rfl, rfl, rfl⟩
      (Nat.lt_of_lt_of_eq (by decide : 0 < 1) rfl) rfl rfl
  have hlost : Does 0 (RunAction.apply half).op diskFull halfLost
      (.error (.fault (.storage "disk full"))) := does_after rfl
  have hchanged : (halfLost.session 0).state ≠ (diskFull.session 0).state := by
    show (RunState.launched .dataOnly).raiseData (.whole 50) ≠ .launched .dataOnly
    decide
  have hfreed : Undisturbed 0 halfLost diskFreed :=
    ⟨⟨Nat.lt_of_lt_of_eq (by decide : 0 < 1) rfl, rfl, rfl⟩, rfl, rfl, rfl, rfl, rfl⟩
  obtain ⟨-, ⟨u', hdoes⟩, hlater⟩ :=
    retry_passed_over hreached hplain ⟨⟨_, hlost⟩, hchanged, rfl⟩ hfreed
  obtain ⟨-, -, -, hagain⟩ := hlater half u' _ hplain hdoes
  exact ⟨u', hdoes, fun hagrees => nomatch (hagain rfl).mp hagrees⟩

end World

end Cutover
