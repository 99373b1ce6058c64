import Cutover.Proofs.Control.Telling
import Cutover.Proofs.World.Fetching

/-!
# Two executions of a run

A run is carried out twice, and the service reports the same each time. Only the requests for the resources are
answered differently: now one of them fails, now the other. Nothing of the run shows it but its mark.

* `World.Lockstep`: **two executions of a run**, report by report;
* `Occasion.Concurs`: a report comes out the same in both;
* `Occasion.Informs`: what the user is told of the resources;
* `World.concurs_throughout`: **every report comes out the same**, and the user is told of each fetch that failed.
-/

namespace Cutover

namespace Occasion

/-- What stays on the board before. -/
def alarmsBefore (e : Occasion) : List Value := (e.before.session e.session).board.alarms

/-- What stays on the board afterwards. -/
def alarmsAfter (e : Occasion) : List Value := (e.after.session e.session).board.alarms

/-- The fault that is kept in mind before. -/
def faultBefore (e : Occasion) : Option ServiceFault := (e.before.session e.session).lastFetchFault

/-- The fault that is kept in mind afterwards. -/
def faultAfter (e : Occasion) : Option ServiceFault := (e.after.session e.session).lastFetchFault

/-- The record as it is stored afterwards. -/
def storedAfter (e : Occasion) : Table := (e.after.site e.session).core.stored

/-- **A fetch has failed** with some fault. -/
def Lacks (e : Occasion) (f : ServiceFault) : Prop :=
  e.Asks ∧ ∃ o, e.cause.answer? = some o ∧ o.fetchFault? = some f

/-- **A report comes out the same** for two executions of a run: both say the same of it or end by the same fault,
and afterwards the states are the same but for the mark of the run, and so are the records. -/
structure Concurs (e d : Occasion) : Prop where
  results : ∃ x y, Concur Transition.Abreast x y ∧
    e.result = (x.map Result.transition).mapError .fault ∧ d.result = (y.map Result.transition).mapError .fault
  states : ∃ b, (d.after.session d.session).state = (e.after.session e.session).state.marked (.bool b)
  stored : AgreeBut "resources_reconciled" e.storedAfter d.storedAfter

/-- **What the user is told of the resources**: of each fetch that fails there is one notice that stays, and its
fault is kept in mind until another fails. -/
structure Informs (e : Occasion) : Prop where
  asks : e.IsSilent ∨ e.Asks
  told : ∀ f, e.Lacks f → e.alarmsAfter = e.alarmsBefore ++ [.text f.message] ∧ e.faultAfter = some f
  kept : (∀ f, ¬e.Lacks f) → e.faultAfter = e.faultBefore

end Occasion

namespace World

variable {n m : Nat} {w v u u' x x' : World} {r q : Except Exit Result} {report : Status} {answer answer' : Outcome}
variable {delay : Int} {log : List (Occasion × Occasion)} {mode : Mode} {transfer : Transfer}

/-- **Two executions of a run**, from where each began. The same reports are applied in both, each with its own
answers to the requests for the resources, and the same comes of raising notices. What goes on in between leaves
both runs alone, and stop hooks and what is put in the way of the stores stay the same in both. -/
inductive Lockstep (n m : Nat) (w v : World) : List (Occasion × Occasion) → World → World → Prop
  | here : Lockstep n m w v [] w v
  | reports {u u' x x' : World} {log : List (Occasion × Occasion)} {report : Status} {answer answer' : Outcome}
    {delay delay' : Int} {r q : Except Exit Result} (lockstep : Lockstep n m w v log u x)
    (conclusive : answer.IsConclusive) (conclusive' : answer'.IsConclusive)
    (does : Does n (RunAction.apply report).op (u.answering ⟨answer, delay⟩) u' r)
    (does' : Does m (RunAction.apply report).op (x.answering ⟨answer', delay'⟩) x' q)
    (notices : u.dated n = u'.dated n ∧ x.dated m = u.dated n ∧ x.dated m = x'.dated m) :
    Lockstep n m w v (log ++ [(⟨n, .report report answer, u, u', r⟩, ⟨m, .report report answer', x, x', q⟩)]) u' x'
  | passes {u u' x x' : World} {log : List (Occasion × Occasion)} (lockstep : Lockstep n m w v log u x)
    (untroubled : Untroubled n u u') (untroubled' : Untroubled m x x')
    (hooks : (x'.session m).hooks = (u'.session n).hooks)
    (faults : (x'.site m).core.faults = (u'.site n).core.faults) : Lockstep n m w v log u' x'

/-! ## What the user is told -/

/-- **What a report upholds of the tally holds after it.** -/
theorem Does.tallied {J : Tally → Prop} (h : Does n (RunAction.apply report).op (w.answering ⟨answer, delay⟩) u r)
    (hw : w.Rests n) (hanswer : answer.IsConclusive)
    (hJ : ∀ S : Surroundings, Telling.Conclusive S answer →
      (Control.apply report).Upholding S.sole (Telling.Says J))
    (hstart : J (w.session n).tally) : J (u.session n).tally := by
  let S : Surroundings := spanning (w.answering ⟨answer, delay⟩) u
    (fun m o => m = Call.getResources.message → o = answer) ⟨answer, fun _ => rfl⟩
  let s : Scene := ⟨(w.answering ⟨answer, delay⟩).site n, [], []⟩
  have hcan : (w.answering ⟨answer, delay⟩).CanDo (RunAction.apply report).op s := canDo_of_boundless
    (meets_guarded (s := s) (guards_applying .boundless report) .transition
      ⟨hw.fetchGate, fun _ _ => trivial⟩ trivial hw.stateGate rfl)
  have hmeets := meets_guarded (s := s) (guards_applying S report) .transition
    ⟨hw.fetchGate, fun _ _ => trivial⟩ ⟨Int.le_refl _, h.now_le hw.known rfl hcan⟩ hw.stateGate rfl
  have hreport : (Control.apply report).Upholding S.sole (Telling.Says J) := hJ S ⟨fun o ho => ho rfl, hanswer⟩
  have hsole : (RunAction.apply report).op.Upholding S.sole (Telling.Says J) :=
    Op.upholds_map hreport fun _ _ => trivial
  obtain ⟨p, f, -, hsays, -⟩ := h.seen (S := S) hw.known rfl hcan (fun _ hx hx' => ⟨hx, hx'⟩)
    (Answers.bears (replies_answering w ⟨answer, delay⟩) fun _ _ h => h) hmeets (hsole s hstart)
  exact hsays.1

/-- **What the user is told of the resources** when a report is applied. -/
theorem Does.informs (h : Does n (RunAction.apply report).op (w.answering ⟨answer, delay⟩) u r) (hw : w.Rests n)
    (hsound : (w.session n).state.Sound) (hanswer : answer.IsConclusive) :
    Occasion.Informs ⟨n, .report report answer, w, u, r⟩ := by
  have hdoes : Does n (Action.run (.apply report)).op (w.answering ⟨answer, delay⟩) u r := h
  have hrequests : u.requests + (w.session n).fetchCount = w.requests + (u.session n).fetchCount :=
    hdoes.requests_action hw.known rfl rfl
  cases hfailure : report.isFailure with
  | true =>
    obtain ⟨hcounted, hfault⟩ := h.tallied (J := Telling.Minds (w.session n).fetchCount (w.session n).lastFetchFault)
      hw hanswer (fun S _ => Telling.frame.applyFailure hfailure (Telling.minds_failRun _ _ _)) ⟨rfl, rfl⟩
    have hcounted : (u.session n).fetchCount = (w.session n).fetchCount := hcounted
    have hsilent : u.requests = w.requests := by omega
    exact ⟨.inl hsilent, fun f hf => absurd hsilent hf.1.not_silent, fun _ => hfault⟩
  | false =>
    have htold := h.tallied (J := Telling.Told answer (w.session n).tally) hw hanswer
      (fun S hS => (Telling.pieces hS).applyPlain hfailure) (.refl ..)
    have hasks : u.requests = w.requests ∨ u.requests = w.requests + 1 := by
      cases hwhole : (w.session n).isBare with
      | true =>
        have hcounted : (u.session n).fetchCount = (w.session n).fetchCount :=
          htold.bare (htold.isBare.trans hwhole)
        exact .inl (by omega)
      | false =>
        exact (h.reported ⟨hw, hsound, hwhole⟩).cases (fun _ _ _ hsame => .inl hsame)
          (fun _ _ _ _ _ _ hsame => .inl hsame) (fun _ _ _ _ _ _ _ hmore => .inr hmore)
          fun _ _ _ _ _ _ _ hmore => .inr hmore
    refine ⟨hasks, fun f hf => ?_, fun hnone => ?_⟩
    · obtain ⟨hmore, o, ho, hfault⟩ := hf
      cases ho
      have hmore : u.requests = w.requests + 1 := hmore
      have hcounted : (u.session n).tally.fetched = (w.session n).tally.fetched + 1 := by
        show (u.session n).fetchCount = (w.session n).fetchCount + 1
        omega
      have halarms := htold.told
      have hmind := htold.fault
      rw [hcounted, hfault] at halarms hmind
      rw [if_pos (Nat.lt_succ_self _)] at hmind
      refine ⟨halarms.trans ?_, hmind⟩
      simp [Occasion.alarmsBefore, Session.tally]
    · have hmind := htold.fault
      rcases hasks with hsilent | hmore
      · have hcounted : (u.session n).tally.fetched = (w.session n).tally.fetched := by
          show (u.session n).fetchCount = (w.session n).fetchCount
          omega
        rw [hcounted, if_neg (Nat.lt_irrefl _)] at hmind
        exact hmind
      · have hfault : answer.fetchFault? = none :=
          Option.eq_none_iff_forall_ne_some.mpr fun f hf => hnone f ⟨hmore, answer, rfl, hf⟩
        rw [hfault, Option.none_or, ite_self] at hmind
        exact hmind

/-! ## Two executions -/

/-- **Two executions stand at the same point of a run.** -/
structure Level (n m : Nat) (u x : World) : Prop where
  rests : u.Rests n
  rests' : x.Rests m
  sound : (u.session n).state.Sound
  abreast : (u.site n).core.Abreast (x.site m).core

theorem level_of_begun (hu : Begun mode transfer n u) (hx : Begun mode transfer m x)
    (hcontext : (x.session m).context = (u.session n).context) (hhooks : (x.session m).hooks = (u.session n).hooks)
    (hfaults : (x.site m).core.faults = (u.site n).core.faults) : Level n m u x := by
  have hat : Underway true mode transfer [] n u := hu.underway
  have hat' : Underway true mode transfer [] m x := hx.underway
  have hstate : (x.session m).state = (u.session n).state := hx.launched.trans hu.launched.symm
  have hflag : (u.session n).state.reconciled = .bool false := by
    rw [hu.launched]
    cases mode <;> rfl
  refine ⟨hat.rests, hat'.rests, hat.live.plain.state.sound, ⟨false, ?_⟩, ⟨false, hflag⟩, hcontext, hhooks, hfaults,
    hat.live.known, hat'.live.known, ?_⟩
  · refine hstate.trans ?_
    show (u.session n).state = { (u.session n).state with reconciled := .bool false }
    rw [← hflag]
  · have hrecord : (x.site m).core.record = (u.site n).core.record := by
      show Record.ofState (x.session m).state (x.session m).context = Record.ofState (u.session n).state (u.session n).context
      rw [hstate, hcontext]
    have hstored := hat.agrees rfl
    have hstored' := hat'.agrees rfl
    rw [Core.Agrees, hrecord, show (x.site m).core.session.state = _ from hstate] at hstored'
    rw [hstored', hstored]
    exact .refl _ _

theorem Level.passes (h : Level n m u x) (hu : Untroubled n u u') (hx : Untroubled m x x')
    (hooks : (x'.session m).hooks = (u'.session n).hooks)
    (faults : (x'.site m).core.faults = (u'.site n).core.faults) : Level n m u' x' := by
  have hsession : ∀ {k : Nat} {y y' : World}, Untroubled k y y' →
      (y.session k).store < y.storage.stores.length → (y'.session k).store < y'.storage.stores.length :=
    fun hy hknown => by rw [hy.store, hy.count]; exact hknown
  have hstored : ∀ {k : Nat} {y y' : World}, Untroubled k y y' → (y'.site k).core.stored = (y.site k).core.stored := by
    intro k y y' hy
    show y'.storage.table (y'.session k).store = _
    rw [hy.store]
    exact hy.stored
  obtain ⟨b, hb⟩ := h.abreast.state
  refine ⟨hu.rests, hx.rests, hu.state.symm ▸ h.sound, ⟨b, ?_⟩, ?_, ?_, hooks, faults,
    hsession hu h.abreast.known, hsession hx h.abreast.known', ?_⟩
  · exact hx.state.trans (hb.trans (congrArg (RunState.marked · _) hu.state.symm))
  · exact hu.state.symm ▸ h.abreast.flag
  · exact hx.context.trans (h.abreast.context.trans hu.context.symm)
  · rw [hstored hu, hstored hx]
    exact h.abreast.stored

/-- **A report comes out the same** in both executions, and leaves them at the same point. -/
theorem Level.reports (h : Level n m u x) (hanswer : answer.IsConclusive) (hanswer' : answer'.IsConclusive)
    {delay' : Int} (hdoes : Does n (RunAction.apply report).op (u.answering ⟨answer, delay⟩) u' r)
    (hdoes' : Does m (RunAction.apply report).op (x.answering ⟨answer', delay'⟩) x' q)
    (hnotices : u.dated n = u'.dated n ∧ x.dated m = u.dated n ∧ x.dated m = x'.dated m) :
    Level n m u' x' ∧
      Occasion.Concurs ⟨n, .report report answer, u, u', r⟩ ⟨m, .report report answer', x, x', q⟩ := by
  obtain ⟨k, hk, hcame⟩ := hdoes.apply (A := fun m o => m = Call.getResources.message → o = answer)
    (h.rests.answering _) ⟨answer, fun _ => rfl⟩ (replies_answering u ⟨answer, delay⟩)
  obtain ⟨k', hk', hcame'⟩ := hdoes'.apply (A := fun m o => m = Call.getResources.message → o = answer')
    (h.rests'.answering _) ⟨answer', fun _ => rfl⟩ (replies_answering x ⟨answer', delay'⟩)
  have hstays := (Core.kept_apply k report (u.site n).core).toStays
  have hstays' := (Core.kept_apply k' report (x.site m).core).toStays
  have hnotice : k'.notice = k.notice :=
    (hcame'.notice hstays' hk' hnotices.2.2).trans (hnotices.2.1.trans (hcame.notice hstays hk hnotices.1).symm)
  obtain ⟨hresult, hcore⟩ := h.abreast.apply h.sound hnotice ((hk.answer rfl).symm ▸ hanswer)
    ((hk'.answer rfl).symm ▸ hanswer') report
  have hcore₁ : (u'.site n).core = ((u.site n).core.apply k report).core := hcame.core
  have hcore₂ : (x'.site m).core = ((x.site m).core.apply k' report).core := hcame'.core
  have hsound : ((u.site n).core.apply k report).core.session.state.Sound := Core.sound_apply h.sound
  rw [← hcore₁] at hsound hcore
  rw [← hcore₂] at hcore
  refine ⟨⟨hcame.rests (h.rests.answering _) hstays, hcame'.rests (h.rests'.answering _) hstays', hsound, hcore⟩,
    ⟨_, _, hresult, hcame.result, hcame'.result⟩, hcore.state, hcore.stored⟩

theorem Lockstep.level (h : Lockstep n m w v log u x) (hw : Level n m w v) :
    Level n m u x ∧ ∀ p ∈ log, p.1.Concurs p.2 ∧ p.1.Informs ∧ p.2.Informs := by
  induction h with
  | here => exact ⟨hw, fun p hp => absurd hp List.not_mem_nil⟩
  | passes _ untroubled untroubled' hooks faults ih => exact ⟨ih.1.passes untroubled untroubled' hooks faults, ih.2⟩
  | reports _ conclusive conclusive' does does' notices ih =>
    obtain ⟨hlevel, hlog⟩ := ih
    obtain ⟨hlevel', hconcurs⟩ := hlevel.reports conclusive conclusive' does does' notices
    refine ⟨hlevel', fun p hp => ?_⟩
    rcases List.mem_append.mp hp with hp | hp
    · exact hlog p hp
    · rw [List.mem_singleton.mp hp]
      exact ⟨hconcurs, does.informs hlevel.rests hlevel.sound conclusive,
        does'.informs hlevel.rests' (hlevel.abreast.sound hlevel.sound) conclusive'⟩

/-- **A fetch that fails never bends a run.** Two sessions begin the same run and are told the same of it, but the
requests for the resources are answered differently. Then every report comes out the same in both and leaves the
same state and the same record, but for the mark of the run. In each the user is told once, for good, of each
fetch that fails, and its fault is kept in mind. -/
theorem concurs_throughout (hw : Begun mode transfer n w) (hv : Begun mode transfer m v)
    (hcontext : (v.session m).context = (w.session n).context) (hhooks : (v.session m).hooks = (w.session n).hooks)
    (hfaults : (v.site m).core.faults = (w.site n).core.faults) (h : Lockstep n m w v log u x) :
    ∀ p ∈ log, p.1.Concurs p.2 ∧ p.1.Informs ∧ p.2.Informs :=
  (h.level (level_of_begun hw hv hcontext hhooks hfaults)).2

/-- A single session comes to apply foreign keys, and the service answers. -/
def singleFetched : World := (singleBegun.answering ⟨noResources, 0⟩).after 0 (RunAction.apply keysBegun).op

/-- It is complete. -/
def singleFinished : World := (singleFetched.answering ⟨noResources, 0⟩).after 0 (RunAction.apply keysThere).op

theorem dated_eq (httl : (x.session m).board.ttl = (u.session n).board.ttl) (hnow : x.now = u.now) :
    x.dated m = u.dated n := by
  simp only [dated, Board.dated, Board.expiry, httl, hnow]

/-- In one of two executions the first fetch fails. The user is told of it, and the runs come to the same end. -/
theorem single_concurs :
    (∃ f, (singleFailed.session 0).board.alarms = (singleBegun.session 0).board.alarms ++ [.text f.message] ∧
      (singleFailed.session 0).lastFetchFault = some f) ∧
    ∃ b, (singleFinished.session 0).state = (singleComplete.session 0).state.marked (.bool b) := by
  have hdown : down.IsConclusive := Outcome.isConclusive_of_isReply rfl
  have hnone : noResources.IsConclusive := Outcome.isConclusive_of_isReply rfl
  have hfailed : Does 0 (RunAction.apply keysBegun).op (singleBegun.answering ⟨down, 0⟩) singleFailed (.ok _) :=
    does_after rfl
  have hcomplete : Does 0 (RunAction.apply keysThere).op (singleFailed.answering ⟨noResources, 0⟩) singleComplete
      (.ok _) := does_after rfl
  have hfetched : Does 0 (RunAction.apply keysBegun).op (singleBegun.answering ⟨noResources, 0⟩) singleFetched (.ok _) :=
    does_after rfl
  have hfinished : Does 0 (RunAction.apply keysThere).op (singleFetched.answering ⟨noResources, 0⟩) singleFinished
      (.ok _) := does_after rfl
  have hfirst := Lockstep.reports .here hdown hnone hfailed hfetched
    ⟨dated_eq rfl rfl, dated_eq rfl rfl, dated_eq rfl rfl⟩
  have hnow : singleFailed.now = 0 ∧ singleComplete.now = 0 ∧ singleFetched.now = 0 ∧ singleFinished.now = 0 :=
    ⟨rfl, rfl, rfl, rfl⟩
  have httl : (singleFailed.session 0).board.ttl = .whole 5 ∧ (singleComplete.session 0).board.ttl = .whole 5 ∧
      (singleFetched.session 0).board.ttl = .whole 5 ∧ (singleFinished.session 0).board.ttl = .whole 5 :=
    ⟨rfl, rfl, rfl, rfl⟩
  have hlockstep := hfirst.reports hnone hnone hcomplete hfinished
    ⟨dated_eq (httl.1.trans httl.2.1.symm) (hnow.1.trans hnow.2.1.symm),
      dated_eq (httl.2.2.1.trans httl.1.symm) (hnow.2.2.1.trans hnow.1.symm),
      dated_eq (httl.2.2.1.trans httl.2.2.2.symm) (hnow.2.2.1.trans hnow.2.2.2.symm)⟩
  have hconcurs := concurs_throughout begun_single begun_single rfl rfl rfl hlockstep
  obtain ⟨-, hinforms, -⟩ := hconcurs _ (List.mem_append_left _ (List.mem_singleton_self _))
  obtain ⟨hlast, -⟩ := hconcurs _ (List.mem_append_right _ (List.mem_singleton_self _))
  have hasks : singleFailed.requests = singleBegun.requests + 1 := rfl
  have hfault : down.fetchFault? = some _ := rfl
  exact ⟨⟨_, hinforms.told _ ⟨hasks, down, rfl, hfault⟩⟩, hlast.states⟩

end World

end Cutover
