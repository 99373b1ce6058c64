import Cutover.Proofs.Control.Inside
import Cutover.Proofs.World.Forward
import Cutover.Proofs.World.Hearing

/-!
# Runs stay inside their mode

The sessions of a run work side by side: reports are applied in each of them, its poll loop applies what
the service reports, and at any moment, also in the middle of such work, another session may take the
run up from the store. Whatever they do and in whatever order, nobody leaves the mode of the run: not its
state, not its record and not what readers are shown.

* `Stage.StaysInside`: a task that can go on wherever nothing was given up;
* `World.Leads`: **nothing is given up** in a world by the sessions of a run;
* `World.heeded`, `World.leads_run`, `World.leads_resume`: a task that works gives up nothing;
* `World.Deed`, `World.Apart`: what the sessions of a run do, and what happens beside it;
* `World.Ongoing`, `World.Ongoing.kept`: what a run goes through leaves it inside its mode;
* `World.stays_inside`: **a run stays inside its mode and type**.
-/

namespace Cutover

variable {mode : Mode} {transfer : Transfer}

/-! ## Tasks -/

/-- The rest of the work of a task keeps to the contract. There is another round only of work for a
session that has the run. -/
def Job.StaysInside (mode : Mode) (transfer : Transfer) (job : Job) (x : Site) : Prop :=
  job.Meets (inside mode transfer)
    (fun r y => r = .ok .again → y.session.Carries mode transfer) x

/-- **A task that can go on wherever nothing was given up.** -/
inductive Stage.StaysInside (mode : Mode) (transfer : Transfer) (x : Site) : Stage → Prop
  | fresh {job : Job} (goes : ∀ y, x.Leads mode transfer y → job.StaysInside mode transfer y) :
    StaysInside mode transfer x (.fresh job)
  | waiting {e : Effect} {next : e.Reply → Job} {alarm : Option (Alarm e.Reply)}
    (apart : ∀ stream, e ≠ .receive stream)
    (goes : ∀ r y, x.Leads mode transfer y → (next r).StaysInside mode transfer y) :
    StaysInside mode transfer x (.waiting e next alarm)
  | woken {e : Effect} {next : e.Reply → Job} {r : e.Reply} (apart : ∀ stream, e ≠ .receive stream)
    (goes : ∀ r y, x.Leads mode transfer y → (next r).StaysInside mode transfer y) :
    StaysInside mode transfer x (.woken e next r)
  | ended {r : Except Exit Result} : StaysInside mode transfer x (.ended r)

namespace Stage.StaysInside

variable {x y : Site} {stage stage' : Stage}

theorem lead (h : stage.StaysInside mode transfer x) (hxy : x.Leads mode transfer y) :
    stage.StaysInside mode transfer y := by
  cases h with
  | fresh goes => exact .fresh fun z hz => goes z (hxy.trans hz)
  | waiting apart goes => exact .waiting apart fun r z hz => goes r z (hxy.trans hz)
  | woken apart goes => exact .woken apart fun r z hz => goes r z (hxy.trans hz)
  | ended => exact .ended

theorem turned {tells : Nat → Except Exit Result → Prop} {breaks : Prop}
    (h : stage.StaysInside mode transfer x)
    (hturned : Relation.ReflTransGen (Stage.Turned tells breaks) stage stage') :
    stage'.StaysInside mode transfer x := by
  refine Stage.Turned.carries hturned (fun _ _ => .fresh fun _ _ hagain => by cases hagain) (fun e next r r' hs => ?_) (fun e next alarm r hs => ?_) h
  · cases hs with
    | woken apart goes => exact .woken apart goes
  · cases hs with
    | waiting apart goes => exact .woken apart goes

theorem not_hears (h : stage.StaysInside mode transfer x) (state : RunState) : ¬stage.Hears state := by
  intro hhears
  cases hhears
  cases h with
  | woken apart _ => exact apart _ rfl

end Stage.StaysInside

/-- The task works in rounds only if it polls, and stays inside the mode of the run. -/
structure Task.StaysInside (mode : Mode) (transfer : Transfer) (task : Task) (x : Site) : Prop where
  stage : task.stage.StaysInside mode transfer x
  loop : ∀ b, task.loop = some b → b = .pollLoop

/-- An operation that keeps to the contract is work that does, and works in no rounds. -/
theorem Job.staysInside_ofOp {α : Type} {op : Op α} {f : α → Result} {Q : Except Exit α → Site → Prop}
    {x : Site} (h : op.Meets (inside mode transfer) Q x) :
    (Job.ofOp (f <$> op)).StaysInside mode transfer x := by
  refine Op.meets_map.mpr (Op.meets_map.mpr (h.mono ?_))
  rintro (e | a) y - hagain <;> cases hagain

theorem Job.staysInside_ofRound {x : Site} (h : x.session.Carries mode transfer) :
    (Job.ofRound Poll.round).StaysInside mode transfer x := by
  refine Op.meets_map.mpr ((Inside.upholds_round x ⟨h, rfl⟩).mono ?_)
  exact fun r y hy _ => hy.1.1

namespace World

variable {n i t store : Nat} {w w' w'' u : World} {crew staff : List Nat} {task : Task}

/-! ## What a world never gives up -/

/-- **Nothing is given up by the sessions of a run.** Their tasks can still go on, new ones poll, and
readers are shown nothing but what is inside the mode. -/
structure Leads (mode : Mode) (transfer : Transfer) (crew : List Nat) (w w' : World) : Prop where
  length : w'.sessions.length = w.sessions.length
  sites : ∀ k ∈ crew, (w.site k).Leads mode transfer (w'.site k)
  tasks : ∀ (i : Nat) (task : Task), w.tasks[i]? = some task → ∃ task', w'.tasks[i]? = some task' ∧
    task'.session = task.session ∧ (task.session ∈ crew →
      task.StaysInside mode transfer (w.site task.session) →
        task'.StaysInside mode transfer (w'.site task.session))
  started : ∀ (i : Nat) (task' : Task), w.tasks.length ≤ i → w'.tasks[i]? = some task' →
    task'.session ∈ crew ∧ task'.StaysInside mode transfer (w'.site task'.session)
  hears : ∀ n x, w'.Hears n x → w.Hears n x ∨ x.Confined mode transfer

namespace Leads

theorem trans (h : w.Leads mode transfer crew w') (h' : w'.Leads mode transfer crew w'') :
    w.Leads mode transfer crew w'' where
  length := h'.length.trans h.length
  sites k hk := (h.sites k hk).trans (h'.sites k hk)
  tasks i task hi := by
    obtain ⟨task', hi', hsession, hstays⟩ := h.tasks i task hi
    obtain ⟨task'', hi'', hsession', hstays'⟩ := h'.tasks i task' hi'
    rw [hsession] at hsession' hstays'
    exact ⟨task'', hi'', hsession', fun hk hinside => hstays' hk (hstays hk hinside)⟩
  started i task'' hle hi'' := by
    -- it was started in the first part and has gone on in the second, or was started in the second
    rcases Nat.lt_or_ge i w'.tasks.length with hlt | hge
    · obtain ⟨hk, hinside⟩ := h.started i _ hle (List.getElem?_eq_getElem hlt)
      obtain ⟨task', hi', hsession, hstays⟩ := h'.tasks i _ (List.getElem?_eq_getElem hlt)
      rw [hi''] at hi'
      cases hi'
      rw [hsession]
      exact ⟨hk, hstays hk hinside⟩
    · exact h'.started i task'' hge hi''
  hears n x hx := (h'.hears n x hx).elim (h.hears n x) .inr

theorem of_tasks (hlength : w'.sessions.length = w.sessions.length)
    (hsites : ∀ k ∈ crew, (w.site k).Leads mode transfer (w'.site k)) (htasks : w'.tasks = w.tasks)
    (hhears : ∀ n x, w'.Hears n x → w.Hears n x ∨ x.Confined mode transfer) :
    w.Leads mode transfer crew w' where
  length := hlength
  sites := hsites
  tasks i task hi := ⟨task, by rw [htasks]; exact hi, rfl, fun hk hinside =>
    ⟨hinside.stage.lead (hsites _ hk), hinside.loop⟩⟩
  started i task' hle hi' := by
    rw [htasks, List.getElem?_eq_none hle] at hi'
    cases hi'
  hears := hhears

/-- **To wake and to cancel tasks gives up nothing**, if readers are shown nothing else. -/
theorem of_stirred (h : Stirred (fun _ _ => True) True w w') (hstorage : w'.storage = w.storage)
    (hhears : ∀ n x, w'.Hears n x → w.Hears n x ∨ x.Confined mode transfer) :
    w.Leads mode transfer crew w' := by
  have hsites (k : Nat) : (w.site k).Leads mode transfer (w'.site k) := by
    obtain ⟨stateGate, fetchGate, latch, streams, hk⟩ := h.sessions k
    refine .of_same (congrArg Session.state hk :) (congrArg Session.context hk :)
      (congrArg Session.store hk :) fun hstored => ?_
    show w'.storage.Confined mode transfer _
    rw [hstorage]
    exact hstored
  refine ⟨h.length, fun k _ => hsites k, fun i task hi => ?_, fun i task' hle hi' => ?_, hhears⟩
  · obtain ⟨stage, hi', hturned⟩ := h.tasks i task hi
    refine ⟨_, hi', rfl, fun hk hinside => ⟨?_, hinside.loop⟩⟩
    exact (hinside.stage.turned hturned).lead (hsites _)
  · rw [List.getElem?_eq_none (by rw [h.count]; exact hle)] at hi'
    cases hi'

theorem of_hushed (h : Hushed w w') : w.Leads mode transfer crew w' :=
  .of_stirred h.stirred h.storage fun n x hx => .inl (h.hears n x hx)

theorem refl (w : World) : w.Leads mode transfer crew w := .of_hushed (.refl w)

end Leads

/-- **A task works for a session of the run**, and stays inside its mode. -/
structure Employs (mode : Mode) (transfer : Transfer) (crew : List Nat) (w : World) (t : Nat)
    (task : Task) : Prop where
  there : w.tasks[t]? = some task
  member : task.session ∈ crew
  inside : task.StaysInside mode transfer (w.site task.session)

theorem Employs.lead (h : w.Employs mode transfer crew t task) (hleads : w.Leads mode transfer crew w') :
    ∃ task', w'.Employs mode transfer crew t task' ∧ task'.session = task.session := by
  obtain ⟨task', ht', hsession, hstays⟩ := hleads.tasks t task h.there
  refine ⟨task', ⟨ht', hsession ▸ h.member, ?_⟩, hsession⟩
  rw [hsession]
  exact hstays h.member h.inside

theorem leads_setStage {stage : Stage} (ht : w.tasks[t]? = some task)
    (hstage : stage.StaysInside mode transfer (w.site task.session)) :
    w.Leads mode transfer crew (w.setStage t stage) where
  length := rfl
  sites k _ := .refl _
  tasks i before hi := by
    by_cases hti : t = i
    · subst hti
      rw [ht] at hi
      cases hi
      exact ⟨{ task with stage }, tasks_setStage_self ht, rfl,
        fun _ hinside => ⟨hstage, hinside.loop⟩⟩
    · exact ⟨before, (tasks_setStage_ne hti).trans hi, rfl, fun _ hinside => hinside⟩
  started i task' hle hi' := by
    rw [List.getElem?_eq_none (by simpa [setStage, onTask] using hle)] at hi'
    cases hi'
  hears n x hx := .inl (hx.of_setStage.resolve_right fun h => hstage.not_hears x h.2)

theorem leads_spawn {job : Job} {loop : Option Background} (hn : n ∈ crew)
    (hloop : ∀ b, loop = some b → b = .pollLoop)
    (hjob : ∀ y, (w.site n).Leads mode transfer y → job.StaysInside mode transfer y) :
    w.Leads mode transfer crew (w.spawn n job loop).2 where
  length := rfl
  sites k _ := .refl _
  tasks i task hi := ⟨task, (spawn_other (List.getElem?_eq_some_iff.mp hi).1).trans hi, rfl,
    fun _ hinside => hinside⟩
  started i task' hle hi' := by
    rcases spawn_before hi' with hi | ⟨-, rfl⟩
    · rw [List.getElem?_eq_none hle] at hi
      cases hi
    · exact ⟨hn, .fresh hjob, hloop⟩
  hears _ _ hx := .inl hx.of_spawn

/-! ## A task works -/

/-- **What comes of an effect**: the contract leads on, or a wait begins. -/
inductive Heeded (mode : Mode) (transfer : Transfer) (crew : List Nat) (n : Nat) (w : World)
    (e : Effect) : World × Uptake e.Reply → Prop
  | reply {w' : World} {r : e.Reply}
    (goesOn : (inside mode transfer).leads (w.site n) e r (w'.site n))
    (leads : w.Leads mode transfer crew w') : Heeded mode transfer crew n w e (w', .reply r)
  | wait {w' : World} {alarm : Option (Alarm e.Reply)}
    (goesOn : ∀ r y, (w.site n).Leads mode transfer y →
      (inside mode transfer).leads (w.site n) e r y)
    (leads : w.Leads mode transfer crew w') : Heeded mode transfer crew n w e (w', .wait alarm)

theorem not_receive {x : Site} {e : Effect} (h : (inside mode transfer).allows x e) (stream : Nat) :
    e ≠ .receive stream := by
  rintro rfl
  exact h

/-- The sessions of a run are known, and share a store. -/
structure Manned (crew : List Nat) (store : Nat) (w : World) : Prop where
  known : ∀ k ∈ crew, k < w.sessions.length
  ofStore : ∀ k ∈ crew, (w.session k).store = store

theorem Manned.lead (h : w.Manned crew store) (hleads : w.Leads mode transfer crew w') :
    w'.Manned crew store where
  known k hk := hleads.length ▸ h.known k hk
  ofStore k hk := (hleads.sites k hk).store.trans (h.ofStore k hk)

theorem leads_setSite (hw : w.Manned crew store) (hn : n ∈ crew) {x : Site}
    (hx : (w.site n).Leads mode transfer x) (hstreams : x.session.streams = (w.session n).streams) :
    w.Leads mode transfer crew (w.setSite n x) := by
  have hown : (w.setSite n x).session n = x.session :=
    (congrArg Site.session (site_setSite (hw.known n hn) x) :)
  refine .of_tasks (by simp [setSite]) (fun k hk => ?_) rfl fun m state hstate => .inl ?_
  · by_cases hkn : k = n
    · subst hkn
      rw [site_setSite (hw.known k hk)]
      exact ⟨hx.store, hx.abides, hx.carries, hx.stored⟩
    · -- another session of the run sees the storage change, which is its own as well
      have hother : ((w.setSite n x).site k).session = w.session k := session_setSite_ne hkn x
      refine .of_same (congrArg Session.state hother) (congrArg Session.context hother)
        (congrArg Session.store hother) fun hstored => ?_
      have hstored' := hx.stored
      rw [hx.store] at hstored'
      rw [show (w.site k).session.store = (w.site n).session.store from
        (hw.ofStore k hk).trans (hw.ofStore n hn).symm] at hstored ⊢
      exact hstored' hstored
  · refine hstate.of_tasks ?_ rfl
    by_cases hmn : m = n
    · subst hmn
      exact (congrArg Session.streams hown).trans hstreams
    · rw [session_setSite_ne hmn]

/-- **A world does what the contract says.** -/
theorem heeded (e : Effect) (hw : w.Manned crew store) (ht : w.sessionOf t = n) (hn : n ∈ crew)
    (hallows : (inside mode transfer).allows (w.site n) e) :
    Heeded mode transfer crew n w e (w.perform t e) := by
  subst ht
  have hreply {e : Effect} {r : e.Reply} {w' : World} (hleads : w.Leads mode transfer crew w')
      (hgoes : ∀ y, (w.site (w.sessionOf t)).Leads mode transfer y →
        (inside mode transfer).leads (w.site (w.sessionOf t)) e r y) :
      Heeded mode transfer crew (w.sessionOf t) w e (w', .reply r) :=
    .reply (hgoes _ (hleads.sites _ hn)) hleads
  cases e with
  | look => exact .reply ⟨rfl, rfl⟩ (.refl w)
  | change x =>
    exact .reply (site_setSite (hw.known _ hn) x) (leads_setSite hw hn hallows.1 hallows.2)
  | acquire g =>
    cases hg : ((w.session (w.sessionOf t)).gate g).enter? with
    | some g' =>
      rw [perform, show w.acquire t g = (_, .reply (.back ())) by simp only [acquire, hg]; rfl]
      exact hreply (.of_hushed (hushed_setGate _ w (fun _ => g') g)) fun _ h => h
    | none =>
      rw [perform, show w.acquire t g = (_, .wait none) by simp only [acquire, hg]; rfl]
      exact .wait (fun _ _ h => h) (.of_hushed (hushed_setGate _ w _ g))
  | release g => exact hreply (.of_hushed (hushed_callAtGate ..)) fun _ h => h
  | sleep d => exact .wait (fun _ _ h => h) (.refl w)
  | storageTurn =>
    rw [perform, awaitStorage]
    split
    · exact hreply (.refl w) fun _ h => h
    · exact .wait (fun _ _ h => h) (.of_hushed (.of_same rfl rfl rfl fun _ _ h => h))
  | send m =>
    have hsent : Hushed w { w with script := (w.script.next m).2, sent := w.sent ++ [m] } :=
      .of_same rfl rfl rfl fun m' P h => h.after m
    rw [perform, send]
    dsimp only
    split
    · exact hreply (.of_hushed hsent) fun _ h => h
    · exact .wait (fun _ _ h => h) (.of_hushed hsent)
  | hasEnded other => exact hreply (.refl w) fun _ h => h
  | fork b =>
    obtain ⟨rfl, hcarries⟩ := hallows
    refine hreply (leads_spawn hn (fun b hb => (Option.some.inj hb).symm) fun y hy => ?_) fun _ h => h
    exact Job.staysInside_ofRound (hy.carries hcarries)
  | watchLatch d =>
    rw [perform, watchLatch]
    split
    · exact hreply (.refl w) fun _ h => h
    · exact .wait (fun _ _ h => h) (.refl w)
  | raiseLatch => exact hreply (.of_hushed (hushed_raiseLatch w _)) fun _ h => h
  | publish item =>
    refine hreply (.of_stirred (stirred_publish w _ item) (storage_publish w _ item)
      fun m x hx => ?_) fun _ h => h
    exact (hears_publish hx).imp_right fun h => hallows x h.2
  | join other => exact absurd hallows id
  | cancel other => exact absurd hallows id
  | receive stream => exact absurd hallows id

theorem leads_finish (ht : w.tasks[t]? = some task) (r : Except Exit Result) :
    w.Leads mode transfer crew (w.finish t r) :=
  (leads_setStage ht .ended).trans (.of_hushed (.foldl (hushed_wakeWatcher r) _ _))

theorem leads_conclude (h : w.Employs mode transfer crew t task) {r : Except Exit Outturn}
    (hr : r = .ok .again → (w.session task.session).Carries mode transfer) :
    w.Leads mode transfer crew (w.conclude t r) := by
  unfold conclude
  split
  next e => exact leads_finish h.there _
  next r => exact leads_finish h.there _
  next =>
    split
    next b hb =>
      rw [h.there] at hb
      obtain rfl := h.inside.loop b hb
      have hround : (Stage.fresh (.ofRound Poll.round)).StaysInside mode transfer
          (w.site task.session) :=
        .fresh fun y hy => Job.staysInside_ofRound (hy.carries (hr rfl))
      exact (leads_setStage h.there hround).trans (.of_hushed (.of_same rfl rfl rfl fun _ _ h => h))
    next => exact leads_finish h.there _

/-- **A task that works gives up nothing**, until it waits or ends. -/
theorem leads_run {job : Job} (hw : w.Manned crew store) (h : w.Employs mode transfer crew t task)
    (hjob : job.StaysInside mode transfer (w.site task.session)) :
    w.Leads mode transfer crew (run t job w) := by
  -- by induction on the work; the stage of the task itself is the one that it went on from, which still
  -- stands, since nothing was given up
  induction job generalizing w task with
  | done r => exact leads_conclude h hjob
  | ask e next ih =>
    obtain ⟨hallows, hnext⟩ := hjob
    have hheeded := heeded e hw
      (show w.sessionOf t = task.session by simp only [sessionOf, h.there]) h.member hallows
    rw [run]
    generalize w.perform t e = x at hheeded
    cases hheeded with
    | @reply w' r goesOn leads =>
      obtain ⟨task', h', hsession⟩ := h.lead leads
      exact leads.trans (ih r (hw.lead leads) h' (hsession ▸ hnext r _ goesOn))
    | @wait w' alarm goesOn leads =>
      obtain ⟨task', h', hsession⟩ := h.lead leads
      refine leads.trans (leads_setStage h'.there
        (.waiting (not_receive hallows) fun r y hy => hnext r y ?_))
      rw [hsession] at hy
      exact goesOn r y ((leads.sites _ h.member).trans hy)

/-- **A task that goes on gives up nothing.** -/
theorem leads_resume (hw : w.Manned crew store) (h : w.Employs mode transfer crew t task) :
    w.Leads mode transfer crew (w.resume t) := by
  unfold resume
  have hstage := h.inside.stage
  rw [h.there, Option.map_some]
  split
  next job hfresh =>
    rw [Option.some.inj hfresh] at hstage
    cases hstage with
    | fresh goes => exact leads_run hw h (goes _ (.refl _))
  next e next r hwoken =>
    rw [Option.some.inj hwoken] at hstage
    have hsettled : w.Leads mode transfer crew (w.settleAtGate t e r) :=
      .of_hushed (hushed_settleAtGate w t e r)
    obtain ⟨task', h', hsession⟩ := h.lead hsettled
    have hsite := hsettled.sites _ h.member
    cases hstage with
    | woken _ goes =>
      exact hsettled.trans (leads_run (hw.lead hsettled) h' (hsession ▸ goes r _ hsite))
  next => exact .refl w

theorem leads_ring (h : w.Employs mode transfer crew t task) : w.Leads mode transfer crew (w.ring t) := by
  refine .of_hushed (hushed_ring fun m next alarm hwait => ?_)
  have hstage := h.inside.stage
  rw [stage?, h.there, Option.map_some] at hwait
  rw [Option.some.inj hwait] at hstage
  cases hstage with
  | waiting apart _ => exact apart m rfl

theorem leads_aloneStep (hw : w.Manned crew store) (h : w.Employs mode transfer crew t task)
    (hfirst : w.alone? t = some w') : w.Leads mode transfer crew w' := by
  have hunqueued : w.Leads mode transfer crew (w.unqueue t) :=
    .of_hushed (.of_same rfl rfl rfl fun _ _ h => h)
  have hresumed : w.Leads mode transfer crew ((w.unqueue t).resume t) := by
    obtain ⟨task', h', -⟩ := h.lead hunqueued
    exact hunqueued.trans (leads_resume (hw.lead hunqueued) h')
  unfold alone? at hfirst
  split at hfirst
  next =>
    cases hfirst
    exact hresumed
  next =>
    cases hfirst
    exact hresumed
  next e next alarm hwait =>
    cases hfirst
    have hpassed : w.Leads mode transfer crew { w with now := max w.now alarm.due } :=
      .of_hushed (.of_same rfl rfl rfl fun _ _ h => h)
    obtain ⟨task', h', -⟩ := h.lead hpassed
    exact hpassed.trans (leads_ring h')
  next =>
    cases hfirst
    exact hunqueued.trans (.of_hushed (hushed_wakeAtStorage _ t))
  next => cases hfirst

/-- **A task that goes on alone gives up nothing.** -/
theorem leads_alone (halone : Alone t w w') (hw : w.Manned crew store)
    (h : w.Employs mode transfer crew t task) : w.Leads mode transfer crew w' := by
  induction halone generalizing task with
  | refl w => exact .refl w
  | step first _ ih =>
    have hfirst := leads_aloneStep hw h first
    obtain ⟨task', h', -⟩ := h.lead hfirst
    exact hfirst.trans (ih (hw.lead hfirst) h')

/-! ## What a run goes through -/

/-- The tasks of a world that another does not have yet. -/
def newTasks (w w' : World) : List Nat := List.range' w.tasks.length (w'.tasks.length - w.tasks.length)

theorem mem_newTasks : t ∈ newTasks w w' ↔ w.tasks.length ≤ t ∧ t < w'.tasks.length := by
  rw [newTasks, List.mem_range'_1]
  omega

/-- **What the sessions of a run do**, and what is done to their tasks: a report is applied, the service
is polled, a session begins and takes the run up from the store, or restores what it has loaded; a task
goes on, its wait ends, or it is cancelled. -/
inductive Deed (crew staff : List Nat) (w : World) : World → Prop
  | apply {k : Nat} {report : Status} (member : k ∈ crew) (taken : (w.session k).transfer ≠ none)
    (plain : report.Plain) : Deed crew staff w (w.spawn k (.ofOp (RunAction.apply report).op)).2
  | poll {k : Nat} (member : k ∈ crew) (taken : (w.session k).transfer ≠ none) :
    Deed crew staff w (w.fork k .pollLoop).2
  | begin {k : Nat} (member : k ∈ crew) :
    Deed crew staff w (w.spawn k (.ofOp WholeAction.begin.op)).2
  | restore {k : Nat} {r : Record} (member : k ∈ crew)
    (loaded : (w.storage.load (w.session k).store).1 = .ok (some r)) :
    Deed crew staff w (w.spawn k (.ofOp (RunAction.restore r).op)).2
  | goOn {t : Nat} (member : t ∈ staff) : Deed crew staff w (w.resume t)
  | ring {t : Nat} (member : t ∈ staff) : Deed crew staff w (w.ring t)
  | serve (t : Nat) : Deed crew staff w (w.wakeAtStorage t)
  | cancel (t : Nat) : Deed crew staff w (w.cancel t)

/-- A session that was just opened on a store, with no readers yet. -/
structure Opened (store k : Nat) (w : World) : Prop where
  known : k < w.sessions.length
  state : (w.session k).state = {}
  transfer : (w.session k).transfer = none
  store : (w.session k).store = store
  hears : ∀ x, ¬w.Hears k x

/-- **What happens beside a run**: readers read, sessions are opened, time passes, and others do what they
do elsewhere. The tasks of the run may be cancelled by that, or their waits ended. -/
structure Apart (store : Nat) (crew staff : List Nat) (w w' : World) : Prop where
  length : w.sessions.length ≤ w'.sessions.length
  state : ∀ k ∈ crew, (w'.session k).state = (w.session k).state
  context : ∀ k ∈ crew, (w'.session k).context = (w.session k).context
  ofStore : ∀ k ∈ crew, (w'.session k).store = (w.session k).store
  stored : w'.storage.table store = w.storage.table store
  tasks : ∀ t ∈ staff, ∀ task, w.tasks[t]? = some task → ∃ task', w'.tasks[t]? = some task' ∧
    task'.session = task.session ∧ task'.loop = task.loop ∧
    Relation.ReflTransGen (Stage.Turned (fun _ _ => True) True) task.stage task'.stage
  hears : ∀ k ∈ crew, ∀ x, w'.Hears k x → w.Hears k x

/-- **What a run goes through** from the world in which a session has begun it: with the sessions that
work on it side by side, and with their tasks. -/
inductive Ongoing (n : Nat) (w : World) : List Nat → List Nat → World → Prop
  | here : Ongoing n w [n] [] w
  | does {crew staff : List Nat} {u u' : World} (ongoing : Ongoing n w crew staff u)
    (deed : Deed crew staff u u') : Ongoing n w crew (staff ++ newTasks u u') u'
  | joins {crew staff : List Nat} {u : World} {k : Nat} (ongoing : Ongoing n w crew staff u)
    (opened : Opened (w.session n).store k u) : Ongoing n w (k :: crew) staff u
  | passes {crew staff : List Nat} {u u' : World} (ongoing : Ongoing n w crew staff u)
    (apart : Apart (w.session n).store crew staff u u') : Ongoing n w crew staff u'

/-- **What holds all through a run** that was begun after some world. -/
structure KeptInside (mode : Mode) (transfer : Transfer) (n : Nat) (v : World) (store : Nat)
    (crew staff : List Nat) (w : World) : Prop extends Manned crew store w where
  member : n ∈ crew
  carries : (w.session n).Carries mode transfer
  abides : ∀ k ∈ crew, (w.session k).Abides mode transfer
  stored : w.storage.Confined mode transfer store
  staffed : ∀ t ∈ staff, ∃ task, w.Employs mode transfer crew t task
  hears : ∀ k ∈ crew, ∀ x, w.Hears k x → v.Hears k x ∨ x.Confined mode transfer

variable {v : World} {k : Nat}

namespace KeptInside

theorem lead (h : KeptInside mode transfer n v store crew staff w) (hleads : w.Leads mode transfer crew w') :
    KeptInside mode transfer n v store crew (staff ++ newTasks w w') w' where
  toManned := h.toManned.lead hleads
  member := h.member
  carries := (hleads.sites n h.member).carries h.carries
  abides k hk := (hleads.sites k hk).abides (h.abides k hk)
  stored := by
    have hstored := (hleads.sites n h.member).stored
    rw [(hleads.sites n h.member).store, show (w.site n).session.store = store from
      h.ofStore n h.member] at hstored
    exact hstored h.stored
  staffed t ht := by
    rcases List.mem_append.mp ht with ht | ht
    · obtain ⟨task, htask⟩ := h.staffed t ht
      obtain ⟨task', htask', -⟩ := htask.lead hleads
      exact ⟨task', htask'⟩
    · obtain ⟨hle, hlt⟩ := mem_newTasks.mp ht
      obtain ⟨hk, hinside⟩ := hleads.started t _ hle (List.getElem?_eq_getElem hlt)
      exact ⟨_, ⟨List.getElem?_eq_getElem hlt, hk, hinside⟩⟩
  hears k hk x hx := (hleads.hears k x hx).elim (h.hears k hk x) .inr

theorem standing (h : KeptInside mode transfer n v store crew staff w) (hk : k ∈ crew) :
    w.storage.Confined mode transfer (w.session k).store := by
  rw [h.ofStore k hk]
  exact h.stored

/-- **What the sessions of a run do gives up nothing.** -/
theorem deed (h : KeptInside mode transfer n v store crew staff w) (hdeed : Deed crew staff w w') :
    w.Leads mode transfer crew w' := by
  cases hdeed with
  | @apply k report member taken plain =>
    refine leads_spawn member nofun fun y hy => ?_
    have hcarries : y.session.Carries mode transfer := hy.carries ((h.abides k member).carries taken)
    exact Job.staysInside_ofOp (Inside.upholds_apply plain y ⟨hcarries, rfl⟩)
  | @poll k member taken =>
    refine leads_spawn member (fun b hb => (Option.some.inj hb).symm) fun y hy => ?_
    exact Job.staysInside_ofRound (hy.carries ((h.abides k member).carries taken))
  | @begin k member =>
    -- the session need not have the run: what it finds in the store is the run
    refine leads_spawn member nofun fun y hy => ?_
    exact Job.staysInside_ofOp (Inside.upholds_takeUp y ⟨hy.stored (h.standing member), rfl⟩)
  | @restore k r member loaded =>
    refine leads_spawn member nofun fun y hy => ?_
    have hr : r.Confined mode transfer := (h.standing member).loaded loaded
    exact Job.staysInside_ofOp (Inside.meets_restore hr ⟨hy.stored (h.standing member), rfl⟩)
  | @goOn t member =>
    obtain ⟨task, htask⟩ := h.staffed t member
    exact leads_resume h.toManned htask
  | @ring t member =>
    obtain ⟨task, htask⟩ := h.staffed t member
    exact leads_ring htask
  | serve t => exact .of_hushed (hushed_wakeAtStorage w t)
  | cancel t => exact .of_hushed (hushed_cancelWithin _ w t)

theorem join (h : KeptInside mode transfer n v store crew staff w) (hopened : Opened store k w) :
    KeptInside mode transfer n v store (k :: crew) staff w where
  known j hj := (List.mem_cons.mp hj).elim (fun hjk => hjk ▸ hopened.known) (h.known j)
  ofStore j hj := (List.mem_cons.mp hj).elim (fun hjk => hjk ▸ hopened.store) (h.ofStore j)
  member := List.mem_cons_of_mem k h.member
  carries := h.carries
  abides j hj := by
    rcases List.mem_cons.mp hj with rfl | hj
    · exact ⟨.inl hopened.state, fun htransfer => absurd hopened.transfer htransfer⟩
    · exact h.abides j hj
  stored := h.stored
  staffed t ht := by
    obtain ⟨task, htask⟩ := h.staffed t ht
    exact ⟨task, htask.there, List.mem_cons_of_mem k htask.member, htask.inside⟩
  hears j hj x hx := by
    rcases List.mem_cons.mp hj with rfl | hj
    · exact absurd hx (hopened.hears x)
    · exact h.hears j hj x hx

theorem pass (h : KeptInside mode transfer n v store crew staff w) (ha : Apart store crew staff w w') :
    KeptInside mode transfer n v store crew staff w' where
  known k hk := Nat.lt_of_lt_of_le (h.known k hk) ha.length
  ofStore k hk := (ha.ofStore k hk).trans (h.ofStore k hk)
  member := h.member
  carries := h.carries.congr (ha.state n h.member) (ha.context n h.member)
  abides k hk := (h.abides k hk).congr (ha.state k hk) (ha.context k hk)
  stored := by
    rw [Storage.Confined, ha.stored]
    exact h.stored
  staffed t ht := by
    obtain ⟨task, htask, hk, hinside⟩ := h.staffed t ht
    obtain ⟨task', htask', hsession, hloop, hturned⟩ := ha.tasks t ht task htask
    have hleads : (w.site task.session).Leads mode transfer (w'.site task.session) := by
      refine .of_same (ha.state _ hk) (ha.context _ hk) (ha.ofStore _ hk) fun hstored => ?_
      rw [show (w.site task.session).session.store = store from h.ofStore _ hk] at hstored ⊢
      show w'.storage.Confined mode transfer store
      rw [Storage.Confined, ha.stored]
      exact hstored
    refine ⟨task', htask', hsession ▸ hk, ?_, hloop ▸ hinside.loop⟩
    rw [hsession]
    exact (hinside.stage.turned hturned).lead hleads
  hears k hk x hx := h.hears k hk x (ha.hears k hk x hx)

end KeptInside

/-- **What a run goes through leaves it inside its mode.** -/
theorem Ongoing.kept (h : Ongoing n w crew staff u)
    (hw : KeptInside mode transfer n v (w.session n).store [n] [] w) :
    KeptInside mode transfer n v (w.session n).store crew staff u := by
  induction h with
  | here => exact hw
  | does _ deed ih => exact ih.lead (ih.deed deed)
  | joins _ opened ih => exact ih.join opened
  | passes _ apart ih => exact ih.pass apart

theorem Does.keptInside {shards instances : Value} {x : Result} (hrests : v.Rests n)
    (hstore : (v.session n).store < v.storage.stores.length) (hshards : shards.IsWhole)
    (hinstances : instances.IsWhole)
    (hdoes : Does n (RunAction.begin mode transfer shards instances).op v w (.ok x)) :
    KeptInside mode transfer n v (w.session n).store [n] [] w := by
  have hmanned : v.Manned [n] (v.session n).store :=
    ⟨fun k hk => List.mem_singleton.mp hk ▸ hrests.known, fun k hk => by rw [List.mem_singleton.mp hk]⟩
  have hjob (y : Site) : (Job.ofOp (RunAction.begin mode transfer shards instances).op).StaysInside mode
      transfer y :=
    Job.staysInside_ofOp (Inside.upholds_begin hshards hinstances y rfl)
  have hcalled : v.Leads mode transfer [n]
      (v.spawn n (.ofOp (RunAction.begin mode transfer shards instances).op)).2 :=
    leads_spawn (List.mem_singleton_self n) nofun fun y _ => hjob y
  have hleads : v.Leads mode transfer [n] w :=
    hcalled.trans (leads_alone hdoes.alone (hmanned.lead hcalled)
      ⟨spawn_new, List.mem_singleton_self n, .fresh fun y _ => hjob y, nofun⟩)
  have hbegun : Underway true mode transfer [] n w :=
    (Begun.intro hrests hstore hshards hinstances hdoes).underway
  obtain ⟨r, hr⟩ := hbegun.state
  have hcarries : (w.session n).Carries mode transfer :=
    { sound := hbegun.live.plain.state
      confined := hr ▸ (RunState.confined_launched mode transfer).marked r
      ofMode := hbegun.ofMode
      ofTransfer := hbegun.ofTransfer
      shardCount := hbegun.live.plain.shardCount
      instanceCount := hbegun.live.plain.instanceCount }
  refine ⟨⟨?_, ?_⟩, List.mem_singleton_self n, hcarries, ?_, ?_, nofun, ?_⟩
  · exact fun k hk => List.mem_singleton.mp hk ▸ hbegun.rests.known
  · exact fun k hk => by rw [List.mem_singleton.mp hk]
  · exact fun k hk => List.mem_singleton.mp hk ▸ hcarries.abides
  · have hagrees : w.storage.table (w.session n).store = _ := hbegun.agrees rfl
    rw [Storage.Confined, hagrees]
    split
    · exact .inr ⟨_, hcarries.decode, hcarries.record⟩
    · exact .inl rfl
  · exact fun k _ x hx => hleads.hears k x hx

/-- **A run stays inside its mode and type.** Its sessions apply reports, poll the service and take the
run up from the store, side by side and at any moment. All the while the session that has begun it is in
a phase of its mode, and so is every other unless it is idle; the record in the store reads as such a
state; and readers are shown nothing else from the moment on at which the run was begun. -/
theorem stays_inside {shards instances : Value} {x : Result} (hrests : v.Rests n)
    (hstore : (v.session n).store < v.storage.stores.length) (hshards : shards.IsWhole)
    (hinstances : instances.IsWhole)
    (hbegin : Does n (RunAction.begin mode transfer shards instances).op v w (.ok x))
    (h : Ongoing n w crew staff u) :
    (u.session n).state.Confined mode transfer ∧
      (∀ k ∈ crew, (u.session k).state = {} ∨ (u.session k).state.Confined mode transfer) ∧
      u.storage.Confined mode transfer (w.session n).store ∧
      ∀ k ∈ crew, ∀ s, u.Hears k s → v.Hears k s ∨ s.Confined mode transfer := by
  have hkept : KeptInside mode transfer n v (w.session n).store crew staff u :=
    h.kept (hbegin.keptInside hrests hstore hshards hinstances)
  exact ⟨hkept.carries.confined, fun k hk => (hkept.abides k hk).state, hkept.stored, hkept.hears⟩

/-- Two sessions on one store, and a reader of the first. -/
def listened : World :=
  { twins with
    sessions :=
      [{ board := { ttl := .whole 5 }, streams := [{ number := 0, id := "reader" }] },
        { board := { ttl := .whole 5 } }] }

/-- The first has begun a run of the schema alone. -/
def listenedBegun : World :=
  listened.after 0 (RunAction.begin .schemaOnly .lowDowntime (.whole 2) (.whole 3)).op

/-- It is told that the run has failed, and the second session begins. -/
def listenedCalled : World :=
  ((listenedBegun.spawn 0 (.ofOp (RunAction.apply broken).op)).2.spawn 1
    (.ofOp WholeAction.begin.op)).2

/-- The second takes up the run before the report is applied. -/
def listenedAtWork : World := (listenedCalled.resume 2).resume 1

theorem ongoing_listened : ∃ staff, Ongoing 0 listenedBegun [1, 0] staff listenedAtWork := by
  have hreport : broken.Plain := ⟨⟨10, rfl⟩, ⟨"disk full", rfl⟩⟩
  have hopened : Opened (listenedBegun.session 0).store 1
      (listenedBegun.spawn 0 (.ofOp (RunAction.apply broken).op)).2 := by
    refine ⟨Nat.lt_of_lt_of_eq (by decide : 1 < 2) rfl, rfl, rfl, rfl, fun x hx => ?_⟩
    rcases hx.of_spawn with ⟨r, hr, -⟩ | ⟨t, task, ht, hsession, -⟩
    · exact absurd hr List.not_mem_nil
    · have htasks : listenedBegun.tasks.map Task.session = [0] := rfl
      have hmem := List.mem_map_of_mem (f := Task.session) (List.mem_of_getElem? ht)
      rw [htasks, hsession, List.mem_singleton] at hmem
      cases hmem
  have hcalled := ((Ongoing.here (n := 0) (w := listenedBegun)).does
    (.apply (List.mem_singleton_self 0) nofun hreport)).joins hopened
  have hbegins := hcalled.does (.begin List.mem_cons_self)
  have hsecond := hbegins.does (.goOn (List.mem_append_right _ (mem_newTasks.mpr
    ⟨Nat.le_of_eq (rfl : _ = 2), Nat.lt_of_lt_of_eq (by decide : 2 < 3) rfl⟩)))
  exact ⟨_, hsecond.does (.goOn (List.mem_append_left _ (List.mem_append_left _ (List.mem_append_right _
    (mem_newTasks.mpr ⟨Nat.le_of_eq (rfl : _ = 1), Nat.lt_of_lt_of_eq (by decide : 1 < 2) rfl⟩)))))⟩

/-- A run of the schema alone has failed. Its readers hear of that, inside its mode, and the session that
took it up stands inside it. -/
theorem listened_stays_inside : (listenedAtWork.session 0).state.phase = .failed ∧
    listenedAtWork.Hears 0 (listenedAtWork.session 0).state ∧
    (listenedAtWork.session 0).state.Confined .schemaOnly .lowDowntime ∧
    (listenedAtWork.session 1).state.Confined .schemaOnly .lowDowntime ∧
    listenedAtWork.storage.Confined .schemaOnly .lowDowntime 0 := by
  obtain ⟨staff, hongoing⟩ := ongoing_listened
  obtain ⟨-, hcrew, hstored, hhears⟩ := stays_inside (v := listened)
    (x := .state (.launched .schemaOnly)) ⟨by decide, rfl, rfl⟩ (by decide)
    (Value.isWhole_whole (by decide) (by decide)) (Value.isWhole_whole (by decide) (by decide))
    (does_after rfl) hongoing
  have hheard : listenedAtWork.Hears 0 (listenedAtWork.session 0).state :=
    .inl ⟨_, List.mem_cons_self, List.mem_cons_of_mem _ List.mem_cons_self⟩
  refine ⟨rfl, hheard, (hhears 0 (by simp) _ hheard).resolve_left ?_,
    (hcrew 1 List.mem_cons_self).resolve_left fun hidle => ?_, hstored⟩
  · rintro (⟨r, hr, hmailbox⟩ | ⟨t, task, ht, -⟩)
    · rw [List.mem_singleton.mp hr] at hmailbox
      exact absurd hmailbox List.not_mem_nil
    · cases ht
  · have hphase : (listenedAtWork.session 1).state.phase = .schemaMigrating := rfl
    rw [hidle] at hphase
    cases hphase

end World

end Cutover
