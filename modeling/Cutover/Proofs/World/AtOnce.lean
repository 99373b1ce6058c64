import Cutover.Proofs.RunState.Order
import Cutover.Proofs.World.Doing

/-!
# Work that does not wait

Work that only looks at the site, changes it and goes through a gate that is free is done before anybody
else goes on, so that all it does to the world is known. A report that is passed over is work of that
kind: it leaves a span in the trace and nothing else.

* `atOnce`: the contract of work that does not wait;
* `World.does_atOnce`: **the world after such work**;
* `World.Unmoved`: nothing has changed but the trace, and that tasks came and went;
* `World.PassesOver`: **reports that are passed over**, any number of them.
-/

namespace Cutover

/-- **The contract of work that does not wait**: it looks at the site, changes it, and goes through a
state gate that nobody is at. -/
def atOnce : Contract Site where
  allows s
    | .look => True
    | .change _ => True
    | .acquire .state => s.session.stateGate = {}
    | .release .state => s.session.stateGate = { held := true }
    | _ => False
  leads s
    | .look, r, s' => r = s ∧ s' = s
    | .change x, _, s' => s' = { x with now := s.now }
    | .acquire .state, r, s' =>
      r = .back () ∧ s' = s.onSession fun t => t.setGate { held := true } .state
    | .release .state, _, s' => s' = s.onSession fun t => t.setGate {} .state
    | _, _, _ => False

section
variable {α : Type} {x : Site} {Q : Except Exit α → Site → Prop}

theorem atOnce_site {Q : Except Exit Site → Site → Prop} (h : Q (.ok x) x) :
    Op.site.Meets atOnce Q x := by
  refine Op.meets_lift.mpr ⟨trivial, ?_⟩
  rintro _ _ ⟨rfl, rfl⟩
  exact h

theorem atOnce_session {Q : Except Exit Session → Site → Prop} (h : Q (.ok x.session) x) :
    Op.session.Meets atOnce Q x := Op.meets_bind.mpr (atOnce_site h)

theorem atOnce_update {f : Site → Site} {Q : Unit → Site → Prop}
    (h : Q () { f x with now := x.now }) : (Work.update f).Meets atOnce Q x := by
  refine ⟨trivial, ?_⟩
  rintro _ _ ⟨rfl, rfl⟩
  refine ⟨trivial, ?_⟩
  rintro _ _ rfl
  exact h

theorem atOnce_traced {s : Span} {w : Nat → Op α}
    (h : ∀ id trace, (w id).Meets atOnce (fun r y => ∀ trace, Q r { y with trace })
      { x with trace }) : (Op.traced s w).Meets atOnce Q x := by
  refine Op.meets_bind.mpr (Op.meets_lift.mpr ⟨trivial, ?_⟩)
  rintro _ _ ⟨rfl, rfl⟩
  refine ⟨trivial, ?_⟩
  rintro _ _ rfl
  refine Op.meets_ensure.mpr ((h _ _).mono fun r y hr => ?_)
  exact atOnce_update (hr _)

theorem atOnce_guarded {op : Op α} (hfree : x.session.stateGate = {})
    (h : op.Meets atOnce (fun r y => y.session.stateGate = { held := true } ∧
      Q r (y.onSession fun t => t.setGate {} .state))
      (x.onSession fun t => t.setGate { held := true } .state)) :
    (Op.guarded .state op).Meets atOnce Q x := by
  refine Op.meets_bind.mpr (Op.meets_bind.mpr (Op.meets_perform.mpr ⟨hfree, ?_⟩))
  rintro _ _ ⟨rfl, rfl⟩
  refine Op.meets_unwrap_back.mpr (Op.meets_ensure.mpr (h.mono ?_))
  rintro r y ⟨hheld, hr⟩
  refine Work.meets_perform.mpr ⟨hheld, ?_⟩
  rintro _ _ rfl
  exact hr

end

/-! ## A report that is passed over -/

namespace Control

variable {x : Site} {report : Status}

theorem atOnce_snapshot {Q : Except Exit RunState → Site → Prop} (h : x.session.state.Sound)
    (hQ : Q (.ok x.session.state) x) : snapshot.Meets atOnce Q x := by
  refine Op.meets_bind.mpr (atOnce_session (Op.meets_ofExcept.mpr ?_))
  rw [h.check_eq]
  exact hQ

theorem atOnce_applyTraced {Q : Except Exit (Option Transition) → Site → Prop} {span : Nat}
    (h : x.session.state.Sound)
    (hpasses : x.session.state.PassesOver x.session.mode x.session.transfer report)
    (hQ : Q (.ok (some ⟨x.session.state.phase, x.session.state, false⟩)) x) :
    (applyTraced x.session.state.phase report span).Meets atOnce Q x := by
  unfold applyTraced
  rcases hpasses with hidle | ⟨hfailure, hadvance⟩
  · rw [hidle]
    exact Op.meets_bind.mpr (atOnce_snapshot h hQ)
  · split
    · have hsame : x.session.state.sameAs x.session.state = true := h.sameAs_self
      refine Op.meets_bind.mpr ?_
      unfold applyActive
      rw [hfailure]
      refine Op.meets_bind.mpr (atOnce_snapshot h (Op.meets_bind.mpr ?_))
      refine Op.meets_bind.mpr (atOnce_session (Op.meets_bind.mpr (Op.meets_ofExcept.mpr ?_)))
      rw [hadvance]
      refine Op.meets_bind.mpr (Op.meets_lift.mpr (atOnce_update ?_))
      refine Op.meets_bind.mpr (atOnce_session ?_)
      show Op.Meets _ _ (if x.session.state.sameAs x.session.state = true then _ else _) _
      rw [if_pos hsame]
      exact hQ
    · exact Op.meets_bind.mpr (atOnce_snapshot h hQ)

/-- **A report that is passed over leaves a span in the trace** and nothing else. -/
theorem atOnce_apply (h : x.session.state.Sound)
    (hpasses : x.session.state.PassesOver x.session.mode x.session.transfer report)
    (hfree : x.session.stateGate = {}) :
    (apply report).Meets atOnce (fun r y => (∃ trace, y = { x with trace }) ∧
      r = .ok ⟨x.session.state.phase, x.session.state, false⟩) x := by
  refine atOnce_guarded hfree (Op.meets_bind.mpr (atOnce_session (Op.meets_bind.mpr ?_)))
  refine atOnce_traced fun id trace => ?_
  refine atOnce_applyTraced (x := { x.onSession fun t => t.setGate { held := true } .state with trace })
    h hpasses fun trace' => ?_
  refine ⟨rfl, ⟨trace', ?_⟩, rfl⟩
  have hgate : { x.session with stateGate := {} } = x.session := by rw [← hfree]
  exact congrArg (fun session => { x with session, trace := trace' }) hgate

end Control

namespace World

variable {n t : Nat} {w w' w'' : World} {op : Op Result} {report : Status}

/-! ## The world after work that does not wait -/

theorem setSite_site (hn : n < w.sessions.length) : w.setSite n (w.site n) = w := by
  have hsessions : w.sessions.set n (w.session n) = w.sessions := by
    simp [session, List.getD_eq_getElem?_getD, hn]
  rw [setSite, site, hsessions]

theorem setSite_setSite (w : World) (n : Nat) (x y : Site) :
    (w.setSite n x).setSite n y = w.setSite n y := by
  simp [setSite, List.set_set]

theorem Single.setSite (h : w.Single n t) (x : Site) : (w.setSite n x).Single n t where
  known := by
    simp only [World.setSite, List.length_set]
    exact h.known
  task := h.task

/-- **Work that does not wait** changes the site and ends its task. -/
theorem run_atOnce {job : Job} {Q : Except Exit Outturn → Site → Prop} (h : w.Single n t)
    (hmeets : job.Meets atOnce Q (w.site n)) :
    ∃ r x, Q r x ∧ run t job w = (w.setSite n x).setStage t (.ended (lastResult r)) := by
  induction job generalizing w with
  | done r => exact ⟨r, w.site n, hmeets, by rw [run, h.conclude_eq, setSite_site h.known]⟩
  | ask e next ih =>
    obtain ⟨hallows, hnext⟩ := hmeets
    -- All that is asked for comes to another site of the session.
    have hchanged : ∀ r x, w.perform t e = (w.setSite n x, .reply r) →
        atOnce.leads (w.site n) e r { x with now := w.now } →
          ∃ r x, Q r x ∧ run t (.ask e next) w
            = (w.setSite n x).setStage t (.ended (lastResult r)) := by
      intro r x hperform hleads
      obtain ⟨r', y, hQ, hrun⟩ := ih r (h.setSite x) (by
        rw [site_setSite h.known]
        exact hnext r _ hleads)
      refine ⟨r', y, hQ, ?_⟩
      rw [run, hperform]
      exact hrun.trans (by rw [setSite_setSite])
    have hgate : ∀ g, w.onSession n (fun s => s.setGate g .state)
        = w.setSite n ((w.site n).onSession fun s => s.setGate g .state) := fun _ => rfl
    cases e with
    | look =>
      refine hchanged (w.site n) (w.site n) ?_ ⟨rfl, rfl⟩
      rw [perform, h.works.session, setSite_site h.known]
    | change x =>
      refine hchanged () x ?_ rfl
      rw [perform, h.works.session]
    | acquire g =>
      cases g with
      | fetch => exact absurd hallows id
      | state =>
        refine hchanged (.back ()) ((w.site n).onSession fun s => s.setGate { held := true } .state) ?_
          ⟨rfl, rfl⟩
        rw [perform, acquire_free h.works (g := .state) hallows, hgate]
        rfl
    | release g =>
      cases g with
      | fetch => exact absurd hallows id
      | state =>
        refine hchanged () ((w.site n).onSession fun s => s.setGate {} .state) ?_ rfl
        rw [release_held h.works (g := .state) hallows, hgate]
    | _ => exact absurd hallows id

/-- **The world after an operation that does not wait.** -/
theorem does_atOnce {Q : Except Exit Result → Site → Prop} (hn : n < w.sessions.length)
    (hmeets : op.Meets atOnce Q (w.site n)) : ∃ r x, Q r x ∧
      Does n op w (((w.begun n (.ofOp op)).setSite n x).setStage w.tasks.length (.ended r)) r := by
  have hsingle := single_begun hn (.ofOp op)
  obtain ⟨r, x, hQ, hrun⟩ := run_atOnce (Q := fun r x => Q (lastResult r) x) hsingle
    (meets_ofOp hmeets)
  have hafter : w.after n op = _ := hrun
  refine ⟨lastResult r, x, hQ, ?_⟩
  rw [← hafter]
  refine does_after ?_
  rw [hafter]
  exact stage?_setStage (hsingle.setSite x).worksFor _

/-- **Nothing has changed** but the trace, and that tasks came and went. -/
structure Unmoved (w w' : World) : Prop where
  now : w'.now = w.now
  sessions : w'.sessions = w.sessions
  storage : w'.storage = w.storage
  hookCalls : w'.hookCalls = w.hookCalls
  events : w'.events = w.events
  script : w'.script = w.script
  sent : w'.sent = w.sent
  tasks : w.tasks <+: w'.tasks

theorem Unmoved.refl (w : World) : Unmoved w w :=
  ⟨rfl, rfl, rfl, rfl, rfl, rfl, rfl, List.prefix_refl _⟩

theorem Unmoved.trans (h : Unmoved w w') (h' : Unmoved w' w'') : Unmoved w w'' :=
  ⟨h'.now.trans h.now, h'.sessions.trans h.sessions, h'.storage.trans h.storage,
    h'.hookCalls.trans h.hookCalls, h'.events.trans h.events, h'.script.trans h.script,
    h'.sent.trans h.sent, h.tasks.trans h'.tasks⟩

theorem Unmoved.session (h : Unmoved w w') (n : Nat) : w'.session n = w.session n := by
  rw [World.session, h.sessions, World.session]

theorem Unmoved.rests (h : Unmoved w w') (hw : w.Rests n) : w'.Rests n where
  known := h.sessions ▸ hw.known
  stateGate := h.session n ▸ hw.stateGate
  fetchGate := h.session n ▸ hw.fetchGate

theorem does_passedOver (hw : w.Rests n) (hsound : (w.session n).state.Sound)
    (hpasses : (w.session n).state.PassesOver (w.session n).mode (w.session n).transfer report) :
    ∃ w', Unmoved w w' ∧ Does n (RunAction.apply report).op w w'
      (.ok (.transition ⟨(w.session n).state.phase, (w.session n).state, false⟩)) := by
  have hmeets : (RunAction.apply report).op.Meets atOnce (fun r y => (∃ trace, y = { w.site n with trace }) ∧
      r = .ok (.transition ⟨(w.session n).state.phase, (w.session n).state, false⟩)) (w.site n) :=
    Op.meets_map.mpr ((Control.atOnce_apply (x := w.site n) hsound hpasses hw.stateGate).mono (by
      rintro _ y ⟨hy, rfl⟩
      exact ⟨hy, rfl⟩))
  obtain ⟨r, x, ⟨⟨trace, rfl⟩, rfl⟩, hdoes⟩ := does_atOnce hw.known hmeets
  have hsessions : w.sessions.set n (w.session n) = w.sessions :=
    congrArg World.sessions (setSite_site hw.known)
  refine ⟨_, ?_, hdoes⟩
  refine ⟨rfl, hsessions, rfl, rfl, rfl, rfl, rfl, ?_⟩
  show w.tasks <+: (w.tasks ++ [_]).modify w.tasks.length _
  rw [List.modify_eq_take_drop]
  simp

/-! ## Any number of reports -/

/-- Reports are applied one after the other, with what comes of each. -/
inductive Applies (n : Nat) : List Status → World → List (Except Exit Result) → World → Prop
  | none (w : World) : Applies n [] w [] w
  | next {w u v : World} {report : Status} {reports : List Status} {r : Except Exit Result}
    {rs : List (Except Exit Result)} (does : Does n (RunAction.apply report).op w u r)
    (rest : Applies n reports u rs v) : Applies n (report :: reports) w (r :: rs) v

/-- **Reports are passed over**: they can be applied one after the other, each is said to have changed
nothing, and nothing has changed. -/
def PassesOver (n : Nat) (w : World) (reports : List Status) : Prop :=
  (∃ rs v, Applies n reports w rs v) ∧ ∀ rs v, Applies n reports w rs v →
    rs = List.replicate reports.length
      (.ok (.transition ⟨(w.session n).state.phase, (w.session n).state, false⟩)) ∧ Unmoved w v

/-- **Reports each of which is passed over are passed over together**, in any order and any number of
times. -/
theorem passesOver {reports : List Status} (hw : w.Rests n) (hsound : (w.session n).state.Sound)
    (hpasses : ∀ report ∈ reports,
      (w.session n).state.PassesOver (w.session n).mode (w.session n).transfer report) :
    PassesOver n w reports := by
  induction reports generalizing w with
  | nil =>
    refine ⟨⟨[], w, .none w⟩, fun rs v h => ?_⟩
    cases h
    exact ⟨rfl, .refl w⟩
  | cons report rest ih =>
    obtain ⟨hreport, hrest⟩ := List.forall_mem_cons.mp hpasses
    obtain ⟨u, hunmoved, hdoes⟩ := does_passedOver hw hsound hreport
    have hsession := hunmoved.session n
    obtain ⟨⟨rs, v, happlies⟩, hall⟩ := ih (hunmoved.rests hw) (hsession ▸ hsound) (hsession ▸ hrest)
    refine ⟨⟨_, v, .next hdoes happlies⟩, fun rs' v' h => ?_⟩
    cases h with
    | next does' rest' =>
      obtain ⟨rfl, rfl⟩ := does'.unique hdoes
      obtain ⟨rfl, hunmoved'⟩ := hall _ _ rest'
      refine ⟨?_, hunmoved.trans hunmoved'⟩
      rw [hsession, List.length_cons, List.replicate_succ]

end World

end Cutover
