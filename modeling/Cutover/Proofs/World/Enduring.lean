import Cutover.Proofs.Control.Polling
import Cutover.Proofs.World.Fetching
import Cutover.Proofs.World.OneRequest

/-!
# A loop goes on

A loop polls, and waits for an interval before it polls again. Whatever the service answers, and whatever
breaks on the way, that goes on until the loop is stopped or the run is no longer in progress, and nothing but
the word of the service fails the run.

* `World.Awaits`: the loop of a session waits for its next round;
* `World.Lap`: a round of the loop, up to its next pause;
* `World.Rounds`: one round after the other, and what goes on between them;
* `World.Lapped`: what comes of a round;
* `World.only_service_fails`: **only the service fails a run, and the loop goes on.**
-/

namespace Cutover

/-! ## The rest of a round -/

/-- What is left of a round once the latch was watched. -/
def Poll.rest (r : Waited Bool) : Op Bool := do
  let _ ← Op.unwrap r
  let s ← Op.session
  if s.latch.raised || !s.state.isRunning then return false
  onceOrReport
  return true

theorem Poll.ofRound_round : Job.ofRound round = .ask .look fun site =>
    if site.session.latch.raised then .done (.ok (.result .nothing))
    else .ask .look fun site =>
      .ask (.watchLatch (durationOf site.session.interval)) fun r => Job.ofRound (rest r) := by
  refine congrArg (Work.ask .look) (funext fun site => ?_)
  -- The latch decides whether there is anything left of the round.
  show Job.ofRound (if site.session.latch.raised then pure false else do
    let interval := (← Op.session).interval
    rest (← Op.perform (.watchLatch (durationOf interval)))) = _
  cases h : site.session.latch.raised with
  | true => rfl
  | false => rfl

namespace Surroundings

variable {S : Surroundings} {c : Core} {s : Scene}

/-- **What the rest of a round comes to** while the latch is not raised: nothing where no run is in progress, and
else what a poll comes to. -/
inductive Rested (S : Surroundings) (c : Core) : Except Exit Bool → Scene → Prop
  | finished {s : Scene} (idle : c.session.state.isRunning = false) (shown : S.At c [] s)
    (free : s.site.session.stateGate = {}) : Rested S c (.ok false) s
  | polled {r : Except Exit Unit} {k : Conditions} {o : Outcome} {d : Core} {q : List (Option RunState)} {s : Scene}
    (running : c.session.state.isRunning = true) (polled : Polled S c k o d q s)
    (calm : S.Calm c → r = .ok () ∧ d = c.poll k o) : Rested S c (r.map fun _ => true) s

theorem alone_rest (hfree : s.site.session.stateGate = {}) (hgate : c.session.fetchGate = {})
    (hgrants : ∀ d e, S.grants d e) (hlatch : c.session.latch.raised = false) (h : S.At c [] s) :
    (Poll.rest (.back false)).Meets S.alone (S.Rested c) s := by
  refine Op.meets_bind.mpr (Op.meets_unwrap_back.mpr (Op.meets_bind.mpr (alone_session ?_)))
  have hraised : s.site.session.latch.raised = false :=
    (h.read (fun t => t.latch.raised) fun _ => rfl).trans hlatch
  show Op.Meets _ _ (if (s.site.session.latch.raised || !s.site.session.state.isRunning) = true then _ else _) _
  rw [hraised, h.state, Bool.false_or]
  cases hrunning : c.session.state.isRunning with
  | false => exact .finished hrunning h hfree
  | true =>
    refine Op.meets_bind.mpr (alone_onceOrReport hfree hgate hgrants h fun r k o d q s' hpolled hcalm => ?_)
    have hrested : S.Rested c (r.map fun _ => true) s' := .polled hrunning hpolled hcalm
    cases r with
    | ok _ => exact hrested
    | error e => exact hrested

end Surroundings

/-- There is one more notice after a round in which the status could not be read. -/
theorem Polling.meets_rest {S : Surroundings} {s : Scene} {o : Outcome} {f : Fault} {b : List Notice}
    (hS : ∀ o', S.answers Call.getStatus.message o' → o' = o) (hs : o.status = .error f)
    (hpolls : (s.site.session.latch.raised || !s.site.session.state.isRunning) = false)
    (h : View.notices.shows s = b) : (Poll.rest (.back false)).Meets S.sole (Raised b) s := by
  refine Op.meets_bind.mpr (Op.meets_unwrap_back.mpr (Op.meets_bind.mpr (View.meets_session ?_)))
  show Op.Meets _ _ (if (s.site.session.latch.raised || !s.site.session.state.isRunning) = true then _ else _) _
  rw [hpolls]
  refine Op.meets_bind.mpr ((meets_onceOrReport hS hs h).mono ?_)
  rintro (e | a) s' (⟨⟨a, ha⟩, hmore⟩ | ⟨g, hg, hsame⟩)
  · cases ha
  · cases hg
    exact .inr ⟨g, rfl, hsame⟩
  · exact .inl ⟨⟨true, rfl⟩, hmore⟩
  · cases hg

namespace World

variable {n t : Nat} {w w' u v : World}

/-! ## The end of a stretch of work -/

/-- Tasks and their queues are others, and nothing else. -/
def Reordered (w w' : World) : Prop := ∃ tasks ready storageQueue, w' = { w with tasks, ready, storageQueue }

theorem Reordered.refl (w : World) : w.Reordered w := ⟨_, _, _, rfl⟩

theorem Reordered.trans {w'' : World} (h : w.Reordered w') (h' : w'.Reordered w'') : w.Reordered w'' := by
  obtain ⟨_, _, _, rfl⟩ := h
  obtain ⟨_, _, _, rfl⟩ := h'
  exact ⟨_, _, _, rfl⟩

theorem Reordered.site (h : w.Reordered w') (n : Nat) : w'.site n = w.site n := by
  obtain ⟨_, _, _, rfl⟩ := h
  rfl

theorem Reordered.sessions (h : w.Reordered w') : w'.sessions = w.sessions := by
  obtain ⟨_, _, _, rfl⟩ := h
  rfl

/-- A task that has ended is at its end, and only tasks and their queue are others. -/
theorem finish_spec {task : Task} (ht : w.tasks[t]? = some task) (r : Except Exit Result) :
    w.Reordered (w.finish t r) ∧ (w.finish t r).stage? t = some (.ended r) := by
  obtain ⟨⟨tasks, ready, hsame⟩, hothers⟩ := wakeWatchers_same (outcomeOf r)
    (((w.tasks[t]?).map Task.watchers).getD []) (w.setStage t (.ended r))
  refine ⟨⟨tasks, ready, _, hsame⟩, ?_⟩
  have hself : (w.setStage t (.ended r)).tasks[t]? = some { task with stage := .ended r } :=
    tasks_setStage_self ht
  exact congrArg (Option.map Task.stage) (hothers t _ hself rfl)

/-! ## Waiting for the next round -/

/-- **The loop of a session waits for its next round**, which comes at some instant if there is one. -/
structure Awaits (n t : Nat) (due : Option Int) (w : World) : Prop where
  known : n < w.sessions.length
  unraised : (w.session n).latch.raised = false
  task : ∃ d watchers, w.tasks[t]? = some
    { session := n, loop := some .pollLoop, watchers,
      stage := .waiting (.watchLatch d) (fun r => Job.ofRound (Poll.rest r)) (due.map fun x => ⟨x, .back false⟩) }

/-- When the next round comes of a loop that begins to wait now. -/
def nextRound (w : World) (n : Nat) : Option Int := (Poll.durationOf (w.session n).interval).map (w.now + ·)

/-- The loop waits for its next round, or has ended. -/
def AtPause (n t : Nat) (w : World) : Prop := (∃ due, w.Awaits n t due) ∨ ∃ r, w.stage? t = some (.ended r)

/-- A task is the loop of a session. -/
structure IsLoop (n t : Nat) (w : World) : Prop where
  known : n < w.sessions.length
  task : ∃ stage watchers, w.tasks[t]? = some { session := n, loop := some .pollLoop, stage, watchers }

theorem IsLoop.worksFor (h : w.IsLoop n t) : w.WorksFor n t := by
  obtain ⟨stage, watchers, ht⟩ := h.task
  exact ⟨h.known, _, ht, rfl⟩

theorem IsLoop.beside (h : w.IsLoop n t) (hbeside : Beside n t w w') : w'.IsLoop n t := by
  obtain ⟨stage, watchers, ht⟩ := h.task
  obtain ⟨stage', ht'⟩ := hbeside.own _ ht
  exact ⟨hbeside.length ▸ h.known, stage', watchers, ht'⟩

theorem settleAtGate_watchLatch (w : World) (t : Nat) (d : Option Int) (r : Waited Bool) :
    w.settleAtGate t (.watchLatch d) r = w := rfl

/-- A round ends at once if the latch is raised, and else waits for its instant. -/
theorem run_round (h : w.IsLoop n t) : run t (.ofRound Poll.round) w =
    if (w.session n).latch.raised then w.finish t (.ok .nothing)
    else w.setStage t (.waiting (.watchLatch (Poll.durationOf (w.session n).interval))
      (fun r => Job.ofRound (Poll.rest r)) ((w.nextRound n).map fun x => ⟨x, .back false⟩)) := by
  have hn : w.sessionOf t = n := h.worksFor.works.session
  have hlook : w.perform t .look = (w, .reply (w.site n)) := by rw [perform, hn]
  rw [Poll.ofRound_round, run_reply hlook]
  have hsession : (w.site n).session = w.session n := rfl
  rw [hsession]
  cases hraised : (w.session n).latch.raised with
  | true => rfl
  | false =>
    have hwatch : w.perform t (.watchLatch (Poll.durationOf (w.session n).interval)) =
        (w, .wait ((w.nextRound n).map fun x => ⟨x, .back false⟩)) := by
      rw [perform, watchLatch, hn, hraised, nextRound, Option.map_map]
      rfl
    rw [if_neg Bool.false_ne_true, if_neg Bool.false_ne_true, run_reply hlook]
    exact run_wait hwatch

theorem untouched_setStage (w : World) (stage : Stage) : Untouched n t w (w.setStage t stage) := by
  obtain ⟨-, huntouched, -⟩ : Beside n t w (w.setStage t stage) ∧ Untouched n t w (w.setStage t stage) ∧ _ :=
    beside_setStage (Int.le_refl _) rfl rfl rfl
  exact huntouched

/-- **How the loop pauses** after a stretch of work: it waits for its next round, or has ended. -/
structure Paused (n t : Nat) (r : Except Exit Outturn) (w w' : World) : Prop where
  pauses : w'.pauses t = true
  same : w.Reordered w'
  awaits : r = .ok .again → (w.session n).latch.raised = false →
    w'.Awaits n t (w.nextRound n) ∧ Untouched n t w w'
  ended : (r = .ok .again → (w.session n).latch.raised = true) → w'.stage? t = some (.ended (lastResult r))

theorem paused_finish {task : Task} {r : Except Exit Outturn} {w₁ : World} (hsame : w.Reordered w₁)
    (ht : w₁.tasks[t]? = some task) (hr : r = .ok .again → (w.session n).latch.raised = true) :
    Paused n t r w (w₁.finish t (lastResult r)) := by
  obtain ⟨hfinish, hended⟩ := finish_spec ht (lastResult r)
  refine ⟨by rw [World.pauses, hended], hsame.trans hfinish, fun hagain hraised => ?_, fun _ => hended⟩
  rw [hr hagain] at hraised
  cases hraised

theorem paused_round {w₁ : World} (hsame : w.Reordered w₁) (huntouched : Untouched n t w w₁) (h : w₁.IsLoop n t) :
    Paused n t (.ok .again) w (run t (.ofRound Poll.round) w₁) := by
  have hsession : w₁.session n = w.session n := congrArg Site.session (hsame.site n)
  have hnext : w₁.nextRound n = w.nextRound n := by
    rw [nextRound, hsession, show w₁.now = w.now from congrArg Site.now (hsame.site n)]
    rfl
  rw [run_round h, hsession, hnext]
  obtain ⟨stage, watchers, ht⟩ := h.task
  cases hraised : (w.session n).latch.raised with
  | true => exact paused_finish (r := .ok .again) hsame ht fun _ => hraised
  | false =>
    rw [if_neg Bool.false_ne_true]
    refine ⟨?_, hsame.trans ⟨_, _, _, rfl⟩, fun _ _ => ⟨⟨h.known, ?_, ?_⟩, huntouched.trans (untouched_setStage w₁ _)⟩, fun hraises => ?_⟩
    · rw [World.pauses, stage?_setStage h.worksFor]
    · exact (congrArg (·.latch.raised) hsession).trans hraised
    · refine ⟨Poll.durationOf (w.session n).interval, watchers, ?_⟩
      exact tasks_setStage_self ht
    · rw [hraises rfl] at hraised
      cases hraised

theorem pauses_next (h : w.IsLoop n t) (r : Except Exit Outturn) :
    ∃ w', NonStop t (w.conclude t r) w' ∧ Paused n t r w w' := by
  obtain ⟨stage, watchers, ht⟩ := h.task
  rcases r with e | ⟨x | _⟩
  · have hends : w.conclude t (.error e) = w.finish t (lastResult (.error e)) := rfl
    rw [hends]
    exact ⟨_, .refl _, paused_finish (r := .error e) (.refl w) ht fun h => by cases h⟩
  · have hends : w.conclude t (.ok (.result x)) = w.finish t (lastResult (.ok (.result x))) := rfl
    rw [hends]
    exact ⟨_, .refl _, paused_finish (r := .ok (.result x)) (.refl w) ht fun h => by cases h⟩
  · -- Another round begins, which looks at the latch.
    obtain ⟨w₁, hw₁⟩ : ∃ w₁, w₁ = w.conclude t (.ok .again) := ⟨_, rfl⟩
    have hagain : w₁ = { w.setStage t (.fresh (.ofRound Poll.round)) with ready := ⟨t, 0⟩ :: w.ready } := by
      rw [hw₁, conclude, ht]
      rfl
    have hfresh : w₁.stage? t = some (.fresh (.ofRound Poll.round)) := by
      rw [hagain]
      exact stage?_setStage h.worksFor _
    have hsame : w.Reordered (w₁.unqueue t) := by
      rw [hagain]
      exact ⟨_, _, _, rfl⟩
    obtain ⟨hbeside, huntouched, -⟩ : Beside n t w (w₁.unqueue t) ∧ Untouched n t w (w₁.unqueue t) ∧ _ := by
      rw [hagain]
      exact beside_setStage (Int.le_refl _) rfl rfl rfl
    rw [← hw₁]
    exact ⟨_, .step (alone?_fresh hfresh) (by rw [World.pauses, hfresh]) (.refl _),
      paused_round hsame huntouched (h.beside hbeside)⟩

/-! ## Rounds -/

/-- The service answers the next requests for the status and for the resources as two lines say. -/
def replying (w : World) (status resources : ScriptLine) : World :=
  let lines := [(Call.getStatus.message.route, [status]), (Call.getResources.message.route, [resources])]
  { w with script := w.script.revise lines }

/-- **A round of the loop**, from the end of its wait to its next pause, while the service answers as two lines
say. -/
def Lap (t : Nat) (status resources : ScriptLine) (u v : World) : Prop :=
  ∃ u', (u.replying status resources).alone? t = some u' ∧ NonStop t u' v ∧ v.pauses t = true

theorem NonStop.trans (h : NonStop t w u) (h' : NonStop t u v) : NonStop t w v := by
  induction h with
  | refl => exact h'
  | step first busy _ ih => exact .step first busy (ih h')

theorem NonStop.unique (h : NonStop t w u) (h' : NonStop t w v) (hu : u.pauses t = true) (hv : v.pauses t = true) :
    u = v := by
  induction h with
  | refl w =>
    cases h' with
    | refl => rfl
    | step _ busy _ =>
      rw [hu] at busy
      cases busy
  | step first busy _ ih =>
    cases h' with
    | refl =>
      rw [hv] at busy
      cases busy
    | step first' _ rest' =>
      rw [first] at first'
      cases first'
      exact ih rest' hu

theorem Lap.unique {status resources : ScriptLine} (h : Lap t status resources w u) (h' : Lap t status resources w v) :
    u = v := by
  obtain ⟨w₁, hfirst, hrest, hu⟩ := h
  obtain ⟨w₁', hfirst', hrest', hv⟩ := h'
  obtain rfl : w₁ = w₁' := Option.some.inj (hfirst.symm.trans hfirst')
  exact hrest.unique hrest' hu hv

/-- Only the given answers are given to the requests for the status and for the resources. -/
theorem replies_replying (w : World) (status resources : ScriptLine) (m : Message) :
    (w.replying status resources).script.Replies m fun l =>
      (m = Call.getStatus.message → l.outcome = status.outcome) ∧
        (m = Call.getResources.message → l.outcome = resources.outcome) := by
  have hroutes : Call.getStatus.message.route ≠ Call.getResources.message.route := by decide
  have hlines : ∀ (route : String) (line : ScriptLine), m.route = route →
      (w.replying status resources).script.routes.lookup route = some [line] →
        (w.replying status resources).script.Replies m fun l => l = line := by
    rintro _ line rfl hlookup
    unfold Script.Replies
    rw [hlookup]
    exact fun l hl => List.mem_singleton.mp hl
  by_cases hstatus : m = Call.getStatus.message
  · subst hstatus
    refine (hlines _ status rfl ?_).mono fun l hl => ⟨fun _ => by rw [hl], fun h => ?_⟩
    · exact (lookup_put_of_ne _ _ hroutes).trans (lookup_put_self _ _ _)
    · exact absurd (congrArg Message.route h) hroutes
  · by_cases hresources : m = Call.getResources.message
    · subst hresources
      exact (hlines _ resources rfl (lookup_put_self _ _ _)).mono fun l hl =>
        ⟨fun h => absurd h hstatus, fun _ => by rw [hl]⟩
    · exact .of_forall fun _ => ⟨fun h => absurd h hstatus, fun h => absurd h hresources⟩

/-- **What comes of a round** of a loop that waited for it, with the answer to a request for the status. -/
structure Lapped (n t : Nat) (o : Outcome) (u v : World) : Prop where
  rests : v.Rests n
  now : u.now ≤ v.now
  kept : (u.site n).core.Kept (v.site n).core
  stands : v.AtPause n t
  /-- Where no run is in progress the loop ends, and nothing is polled. -/
  finished : (u.session n).state.isRunning = false →
    v.stage? t = some (.ended (.ok .nothing)) ∧ (v.site n).core = (u.site n).core
  /-- A poll does what a poll does, and the loop waits again unless it was told to end. -/
  polls : (u.session n).state.isRunning = true → v.dated n = .ok () →
    (∃ k, (v.site n).core = (u.site n).core.poll k o) ∧
      ((v.session n).latch.raised = true → v.stage? t = some (.ended (.ok .nothing))) ∧
      ((v.session n).latch.raised = false → v.Awaits n t (v.nextRound n) ∧
        ∀ f, o.status = .error f →
          Untouched n t u v ∧ OneMore (u.session n).board.active (v.session n).board.active)

theorem meets_ofRound {σ : Type} {C : Contract σ} {op : Op Bool} {s : σ} {Q : Except Exit Outturn → σ → Prop}
    (h : op.Meets C (fun r s' => Q (r.map fun another => if another then .again else .result .nothing) s') s) :
    (Job.ofRound op).Meets C Q s := by
  refine Op.meets_map.mpr (h.mono ?_)
  rintro (e | another) s' hQ
  · exact hQ
  · exact hQ

/-- **A loop goes through its next round**: its wait ends, it does the rest of the round, and pauses. -/
theorem lap_runs {due : Int} (hu : u.Awaits n t (some due)) (hrests : u.Rests n) (status resources : ScriptLine) :
    ∃ x y r v, Lap t status resources u v ∧ x.site n = { u.site n with now := max u.now due } ∧
      Untouched n t u x ∧ x.IsLoop n t ∧ Beside n t (u.replying status resources) x ∧
      RanOut n t x (.ofRound (Poll.rest (.back false))) y r ∧ Paused n t r y v := by
  obtain ⟨d, watchers, htask⟩ := hu.task
  obtain ⟨u₀, hu₀⟩ : ∃ u₀, u₀ = u.replying status resources := ⟨_, rfl⟩
  have hloop₀ : u₀.IsLoop n t := by
    rw [hu₀]
    exact ⟨hu.known, _, watchers, htask⟩
  have hstage₀ : u₀.stage? t = some (.waiting (.watchLatch d) (fun r => Job.ofRound (Poll.rest r))
      (some ⟨due, .back false⟩)) := by
    rw [hu₀]
    exact congrArg (Option.map Task.stage) htask
  -- The wait ends by itself.
  obtain ⟨laps, hring⟩ : ∃ laps, ring { u₀ with now := max u₀.now due } t = _ := ring_eq hstage₀
  obtain ⟨u₁, hu₁⟩ : ∃ u₁, u₁ = ring { u₀ with now := max u₀.now due } t := ⟨_, rfl⟩
  have hfirst : u₀.alone? t = some u₁ := by rw [alone?, hstage₀, hu₁]
  rw [hring] at hu₁
  have hwoken : u₁.stage? t = some (.woken (.watchLatch d) (fun r => Job.ofRound (Poll.rest r)) (.back false)) := by
    rw [hu₁]
    exact stage?_setStage (w := { u₀ with now := max u₀.now due }) ⟨hloop₀.known, hloop₀.worksFor.task⟩ _
  have hbusy : u₁.pauses t = false := by rw [World.pauses, hwoken]
  -- It goes on with the rest of the round.
  obtain ⟨x, hx⟩ : ∃ x, x = u₁.unqueue t := ⟨_, rfl⟩
  have hgoes : u₁.alone? t = some (run t (.ofRound (Poll.rest (.back false))) x) := hx ▸ alone?_woken hwoken
  obtain ⟨hbeside, huntouched, -⟩ : Beside n t u₀ x ∧ Untouched n t u₀ x ∧ _ := by
    rw [hx, hu₁]
    exact beside_setStage (Int.le_max_left _ _) rfl rfl rfl
  have hruns : x.Runs t := by
    intro e next alarm hwait
    rw [hx, show (u₁.unqueue t).stage? t = u₁.stage? t from rfl, hwoken] at hwait
    cases hwait
  have hsite : x.site n = { u.site n with now := max u.now due } := by
    rw [hx, hu₁, hu₀]
    rfl
  have hloop : x.IsLoop n t := hloop₀.beside hbeside
  have hmeets : (Job.ofRound (Poll.rest (.back false))).Meets Surroundings.boundless.alone (fun _ _ => True)
      ⟨x.site n, [], []⟩ := by
    refine meets_ofRound ((Surroundings.alone_rest (c := (u.site n).core) ?_ hrests.fetchGate
      (fun _ _ => trivial) hu.unraised ⟨?_, rfl, trivial⟩).mono fun _ _ _ => trivial)
    · rw [hsite]
      exact hrests.stateGate
    · rw [hsite]
      rfl
  obtain ⟨y, r, hran, hout⟩ := runs_out hloop.worksFor hruns (fun _ => trivial) (bears_boundless x t) rfl hmeets
  obtain ⟨v, hrest, hpaused⟩ := pauses_next (hloop.beside hout.beside) r
  refine ⟨x, y, r, v, ⟨u₁, hu₀ ▸ hfirst, .step hgoes hbusy (hran.trans hrest), hpaused.pauses⟩, hsite, ?_, hloop,
    hu₀ ▸ hbeside, hout, hpaused⟩
  rw [hu₀] at huntouched
  exact ⟨huntouched.streams, huntouched.waiting⟩

/-- How a round of a loop goes that waited for it: its rest is done in some world, and then it pauses. -/
structure GoesThrough (n t : Nat) (S : Surroundings) (o : Outcome) (u y v : World) (r : Except Exit Bool)
    (p : List (Option RunState)) : Prop where
  now : u.now ≤ v.now
  loop : y.IsLoop n t
  rested : ∃ forked, S.Rested (u.site n).core r { site := y.site n, published := p, forked }
  within : ∀ z, S.within z → z ≤ y.now
  status : ∀ o', S.answers Call.getStatus.message o' → o' = o
  readers : p = [] → Untouched n t u y
  notice : (u.session n).state.isRunning = true → ∀ f, o.status = .error f → r = .ok true →
    OneMore (u.session n).board.active (y.session n).board.active
  paused : Paused n t (r.map fun another => if another then .again else .result .nothing) y v

/-- **A loop that waits for its next round goes through it**, whatever the service answers. -/
theorem lap_goes {due : Int} (hu : u.Awaits n t (some due)) (hrests : u.Rests n) (status resources : ScriptLine) :
    ∃ S y v r p, Lap t status resources u v ∧ due ≤ v.now ∧ GoesThrough n t S status.outcome u y v r p := by
  obtain ⟨x, y, r, v, hlap, hsite, huntouched, hloop, hbeside, hran, hpaused⟩ := lap_runs hu hrests status resources
  -- The service gives only the two answers.
  have hother : Call.getResources.message ≠ Call.getStatus.message := fun h =>
    absurd (congrArg Message.route h) (by decide)
  obtain ⟨S, hS⟩ : ∃ S, S = spanning x y (fun m o => (m = Call.getStatus.message → o = status.outcome) ∧
      (m = Call.getResources.message → o = resources.outcome)) ⟨resources.outcome, fun h => absurd h hother, fun _ => rfl⟩ :=
    ⟨_, rfl⟩
  have hcore : (x.site n).core = (u.site n).core := by
    rw [hsite]
    rfl
  have hfree : (x.site n).session.stateGate = {} := by
    rw [hsite]
    exact hrests.stateGate
  have hrest : (Poll.rest (.back false)).Meets S.alone (S.Rested (u.site n).core) ⟨x.site n, [], []⟩ := by
    rw [hS]
    exact Surroundings.alone_rest hfree hrests.fetchGate (fun _ _ => trivial) hu.unraised
      ⟨hcore, rfl, Int.le_refl _, hran.beside.now⟩
  have hanswers : x.Answers S := by
    rw [hS]
    exact fun m => hbeside.replies m _ (replies_replying u status resources m)
  -- There is one more notice if the status cannot be read and that is counted.
  have hsole : (Poll.rest (.back false)).Meets S.sole (fun r s => (u.session n).state.isRunning = true →
      ∀ f, status.outcome.status = .error f → ∀ another, r = .ok another →
        OneMore (u.session n).board.active (View.notices.shows s)) ⟨x.site n, [], []⟩ := by
    by_cases hmissed : (u.session n).state.isRunning = true ∧ ∃ f, status.outcome.status = .error f
    · obtain ⟨hrunning, f, hf⟩ := hmissed
      have hpolls : ((x.site n).session.latch.raised || !(x.site n).session.state.isRunning) = false := by
        rw [hsite]
        show ((u.session n).latch.raised || !(u.session n).state.isRunning) = false
        rw [hu.unraised, hrunning]
        rfl
      have hnotices : View.notices.shows ⟨x.site n, [], []⟩ = (u.session n).board.active := by
        rw [hsite]
        rfl
      refine (Polling.meets_rest (fun o ho => ?_) hf hpolls hnotices).mono ?_
      · rw [hS] at ho
        exact ho.1 rfl
      · rintro _ s (⟨-, hmore⟩ | ⟨g, rfl, -⟩) _ _ _ another hr
        · exact hmore
        · cases hr
    · exact Surroundings.meets_sole_true.mono fun _ _ _ hrunning f hf => absurd ⟨hrunning, f, hf⟩ hmissed
  obtain ⟨p, forked, ⟨r₀, rfl, hrested⟩, hmore, hserved, -⟩ := hran.meets S ⟨x.site n, [], []⟩
    (fun r s => ∃ r₀ : Except Exit Bool, r = r₀.map (fun another => if another then .again else .result .nothing) ∧
      S.Rested (u.site n).core r₀ s)
    (fun r s => (u.session n).state.isRunning = true → ∀ f, status.outcome.status = .error f → r = .ok .again →
      OneMore (u.session n).board.active (View.notices.shows s))
    (fun z hz hz' => by rw [hS]; exact ⟨hz, hz'⟩) (hanswers.bears fun i b hb => by rw [hS] at hb; exact hb) rfl
    (meets_ofRound (hrest.mono fun r₀ _ h => ⟨r₀, rfl, h⟩))
    (meets_ofRound (hsole.mono fun r s h hrunning f hf hr => by
      cases r with
      | error e => cases hr
      | ok another => exact h hrunning f hf another rfl))
  have hnow : max u.now due ≤ v.now := by
    rw [show v.now = y.now from congrArg Site.now (hpaused.same.site n),
      show max u.now due = x.now from (congrArg Site.now hsite).symm]
    exact hran.beside.now
  refine ⟨S, y, v, r₀, p, hlap, Int.le_trans (Int.le_max_right _ _) hnow, Int.le_trans (Int.le_max_left _ _) hnow, hloop.beside hran.beside, ⟨forked, hrested⟩,
    fun z hz => ?_, fun o' ho' => ?_, fun hp => ?_, fun hrunning f hf hr => ?_, hpaused⟩
  · rw [hS] at hz
    exact hz.2
  · rw [hS] at ho'
    exact ho'.1 rfl
  · exact huntouched.trans (hserved.untouched hp)
  · exact hmore hrunning f hf (by rw [hr]; rfl)

theorem calm_of_dated {S : Surroundings} {c : Core} (hwithin : ∀ z, S.within z → z ≤ v.now)
    (httl : (v.session n).board.ttl = c.session.board.ttl) (hdated : v.dated n = .ok ()) : S.Calm c := by
  intro z hz
  have hsame : c.session.board.dated z = (v.session n).board.dated z := by
    simp only [Board.dated, Board.expiry, httl]
  exact hsame.trans (Board.dated_ok_of_le (hwithin z hz) hdated)

/-- **What comes of a round** is what its poll comes to. -/
theorem GoesThrough.lapped {S : Surroundings} {o : Outcome} {y : World} {r : Except Exit Bool} {p : List (Option RunState)}
    (h : GoesThrough n t S o u y v r p) (hrests : u.Rests n) : Lapped n t o u v := by
  have hsite : v.site n = y.site n := h.paused.same.site n
  have hsession : v.session n = y.session n := congrArg Site.session hsite
  have hnow : v.now = y.now := congrArg Site.now hsite
  have hnext : y.nextRound n = v.nextRound n := by rw [nextRound, nextRound, hsession, hnow]
  have hknown : n < v.sessions.length := by
    rw [h.paused.same.sessions]
    exact h.loop.known
  obtain ⟨forked, hrested⟩ := h.rested
  cases hrested with
  | finished idle shown free =>
    have hcore : (v.site n).core = (u.site n).core := (congrArg Site.core hsite).trans shown.core
    have hended := h.paused.ended fun h => by cases h
    exact {
      rests := ⟨hknown, hsession ▸ free, (congrArg (fun c : Core => c.session.fetchGate) hcore).trans hrests.fetchGate⟩
      now := h.now
      kept := hcore ▸ .refl _
      stands := .inr ⟨_, hended⟩
      finished := fun _ => ⟨hended, hcore⟩
      polls := fun hrunning _ => by cases idle.symm.trans hrunning }
  | @polled r k o' d q _ running polled calm =>
    have hcore : (v.site n).core = d := (congrArg Site.core hsite).trans polled.shown.core
    have hkept : (u.site n).core.Kept (v.site n).core := hcore ▸ polled.kept
    have hfetch : (v.session n).fetchGate = (u.session n).fetchGate := hkept.fetchGate
    have httl : (v.session n).board.ttl = (u.session n).board.ttl := by
      have hboard := congrArg Board.ttl hkept.board
      exact hboard
    refine {
      rests := ⟨hknown, hsession ▸ polled.free, hfetch.trans hrests.fetchGate⟩
      now := h.now
      kept := hkept
      stands := ?stands
      finished := fun hidle => by cases hidle.symm.trans running
      polls := fun _ hdated => ?polls }
    case stands =>
      by_cases hgoes : r = .ok () ∧ (y.session n).latch.raised = false
      · obtain ⟨rfl, hlatch⟩ := hgoes
        exact .inl ⟨_, (h.paused.awaits rfl hlatch).1⟩
      · refine .inr ⟨_, h.paused.ended fun hagain => ?_⟩
        cases r with
        | error e => cases hagain
        | ok _ => simpa using hgoes
    case polls =>
      have hcalm : S.Calm (u.site n).core := calm_of_dated (fun z hz => hnow ▸ h.within z hz) httl hdated
      obtain ⟨rfl, rfl⟩ := calm hcalm
      obtain rfl := h.status _ polled.answer
      refine ⟨⟨k, hcore⟩, fun hlatch => ?_, fun hlatch => ?_⟩
      · exact h.paused.ended fun _ => hsession ▸ hlatch
      · obtain ⟨hawaits, huntouched⟩ := h.paused.awaits rfl (hsession ▸ hlatch)
        refine ⟨hnext ▸ hawaits, fun f hf => ⟨?_, ?_⟩⟩
        · exact (h.readers (polled.shown.published.trans (polled.silent f hf))).trans huntouched
        · rw [hsession]
          exact h.notice running f hf rfl

theorem Lap.awaits {status resources : ScriptLine} (h : Lap t status resources u v) (hu : u.AtPause n t) :
    ∃ due, u.Awaits n t (some due) := by
  rcases hu with ⟨_ | due, hawaits⟩ | ⟨r, hended⟩
  · -- A wait without an end has no end.
    obtain ⟨d, watchers, htask⟩ := hawaits.task
    have hstage : (u.replying status resources).stage? t =
        some (.waiting (.watchLatch d) (fun r => Job.ofRound (Poll.rest r)) none) :=
      congrArg (Option.map Task.stage) htask
    obtain ⟨u', hfirst, -⟩ := h
    rw [alone?, hstage] at hfirst
    cases hfirst
  · exact ⟨due, hawaits⟩
  · obtain ⟨u', hfirst, -⟩ := h
    rw [alone?_of_ended (w := u.replying status resources) hended] at hfirst
    cases hfirst

/-- A round that a loop went through that waited for it came to what its poll came to. -/
theorem Lap.lapped {status resources : ScriptLine} (h : Lap t status resources u v) (hu : u.AtPause n t)
    (hrests : u.Rests n) : (u.session n).latch.raised = false ∧ Lapped n t status.outcome u v := by
  obtain ⟨due, hawaits⟩ := h.awaits hu
  obtain ⟨S, y, v', r, p, hlap, -, hgoes⟩ := lap_goes hawaits hrests status resources
  obtain rfl := hlap.unique h
  exact ⟨hawaits.unraised, hgoes.lapped hrests⟩

/-! ## One round after the other -/

/-- A round of a loop, with the answer to a request for the status. -/
structure Round where
  before : World
  status : Outcome
  after : World

/-- **The service says that the run has failed**, and it is polled in an active phase. -/
def Round.Fails (n : Nat) (x : Round) : Prop :=
  (x.before.session n).state.isRunning = true ∧ (x.before.session n).state.phase.isActive = true ∧
    ∃ report, x.status.status = .ok report ∧ report.isFailure = true

/-- **What goes on between the rounds of a loop**: anything that leaves the state of the run, the latch and the
loop alone, and nobody at the gates. -/
structure Idle (n t : Nat) (w w' : World) : Prop where
  sessions : w.sessions.length ≤ w'.sessions.length
  now : w.now ≤ w'.now
  state : (w'.session n).state = (w.session n).state
  latch : (w'.session n).latch = (w.session n).latch
  stateGate : (w'.session n).stateGate = (w.session n).stateGate
  fetchGate : (w'.session n).fetchGate = (w.session n).fetchGate
  ttl : (w'.session n).board.ttl = (w.session n).board.ttl
  task : ∀ task : Task, w.tasks[t]? = some task → ∃ watchers, w'.tasks[t]? = some { task with watchers }

/-- **One round of a loop after the other**, whatever the service answers. -/
inductive Rounds (n t : Nat) (w : World) : List Round → World → Prop
  | start {u : World} (idle : Idle n t w u) : Rounds n t w [] u
  | next {u v v' : World} {rounds : List Round} {status resources : ScriptLine} (past : Rounds n t w rounds u)
    (lap : Lap t status resources u v) (idle : Idle n t v v') :
    Rounds n t w (rounds ++ [⟨u, status.outcome, v⟩]) v'

/-- **What comes of a status that could not be read**: it is counted and reported, and nothing else. -/
structure Missed (n t : Nat) (w w' : World) : Prop where
  state : (w'.session n).state = (w.session n).state
  storage : w'.storage = w.storage
  resources : (w'.session n).resources = (w.session n).resources
  readers : Untouched n t w w'
  polls : (w'.session n).pollCount = (w.session n).pollCount + 1
  failures : (w'.session n).failureCount = (w.session n).failureCount + 1
  notice : OneMore (w.session n).board.active (w'.session n).board.active

/-- **What is so of every round** of a loop. -/
structure Round.Endured (n t : Nat) (x : Round) : Prop where
  fails : (x.after.session n).state.phase = .failed ↔ (x.before.session n).state.phase = .failed ∨ x.Fails n
  /-- Where no run is in progress the loop ends, and nothing is polled. -/
  finished : (x.before.session n).state.isRunning = false →
    x.after.stage? t = some (.ended (.ok .nothing)) ∧ (x.after.site n).core = (x.before.site n).core
  polls : (x.before.session n).state.isRunning = true →
    ∃ k, (x.after.site n).core = (x.before.site n).core.poll k x.status
  missed : (x.before.session n).state.isRunning = true → ∀ f, x.status.status = .error f →
    Missed n t x.before x.after
  /-- A loop that was told to end by its poll ends, and any other waits for its next round. -/
  ends : (x.before.session n).state.isRunning = true → (x.after.session n).latch.raised = true →
    x.after.stage? t = some (.ended (.ok .nothing))
  goesOn : (x.before.session n).state.isRunning = true → (x.after.session n).latch.raised = false →
    x.after.Awaits n t (x.after.nextRound n)

theorem Idle.rests (h : Idle n t w w') (hw : w.Rests n) : w'.Rests n where
  known := Nat.lt_of_lt_of_le hw.known h.sessions
  stateGate := h.stateGate.trans hw.stateGate
  fetchGate := h.fetchGate.trans hw.fetchGate

theorem Idle.atPause (h : Idle n t w w') (hw : w.AtPause n t) : w'.AtPause n t := by
  rcases hw with ⟨due, hawaits⟩ | ⟨r, hended⟩
  · obtain ⟨d, watchers, htask⟩ := hawaits.task
    obtain ⟨watchers', htask'⟩ := h.task _ htask
    exact .inl ⟨due, Nat.lt_of_lt_of_le hawaits.known h.sessions, (congrArg Latch.raised h.latch).trans hawaits.unraised,
      d, watchers', htask'⟩
  · obtain ⟨task, htask, hstage⟩ := Option.map_eq_some_iff.mp hended
    obtain ⟨watchers', htask'⟩ := h.task _ htask
    exact .inr ⟨r, by rw [stage?, htask', Option.map_some, hstage]⟩

theorem Idle.dated (h : Idle n t w w') (hdated : w'.dated n = .ok ()) : w.dated n = .ok () := by
  have hsame : (w.session n).board.dated w'.now = w'.dated n := by
    simp only [World.dated, Board.dated, Board.expiry, h.ttl]
  exact Board.dated_ok_of_le h.now (hsame.trans hdated)

theorem Rounds.atPause {rounds : List Round} (h : Rounds n t w rounds u) (hw : w.AtPause n t) (hrests : w.Rests n) :
    u.AtPause n t ∧ u.Rests n := by
  induction h with
  | start idle => exact ⟨idle.atPause hw, idle.rests hrests⟩
  | next _ lap idle ih =>
    obtain ⟨-, hlapped⟩ := lap.lapped ih.1 ih.2
    exact ⟨idle.atPause hlapped.stands, idle.rests hlapped.rests⟩

/-- **What is so of a round** that a loop went through in a sound state. -/
theorem Lapped.endured {o : Outcome} (h : Lapped n t o u v) (hunraised : (u.session n).latch.raised = false)
    (hsound : (u.session n).state.Sound) (hdated : v.dated n = .ok ()) : (Round.mk u o v).Endured n t := by
  have hover : (u.session n).state.isRunning = false → (v.session n).state = (u.session n).state := fun hidle =>
    congrArg (fun c : Core => c.session.state) (h.finished hidle).2
  have hpoll : (u.session n).state.isRunning = true → ∃ k, (v.site n).core = (u.site n).core.poll k o :=
    fun hrunning => (h.polls hrunning hdated).1
  refine ⟨?fails, h.finished, hpoll, ?missed, fun hrunning => (h.polls hrunning hdated).2.1,
    fun hrunning hlatch => ((h.polls hrunning hdated).2.2 hlatch).1⟩
  case fails =>
    show (v.session n).state.phase = .failed ↔ (u.session n).state.phase = .failed ∨
      (u.session n).state.isRunning = true ∧ (u.session n).state.phase.isActive = true ∧
        ∃ report, o.status = .ok report ∧ report.isFailure = true
    cases hrunning : (u.session n).state.isRunning with
    | false => simp [hover hrunning]
    | true =>
      obtain ⟨k, hcore⟩ := hpoll hrunning
      have hstate : (v.session n).state = ((u.site n).core.poll k o).session.state :=
        congrArg (fun c : Core => c.session.state) hcore
      have hfailed := Core.failed_poll (c := (u.site n).core) (k := k) (o := o) hsound
      simp only [hstate, hfailed, true_and]
      exact Iff.rfl
  case missed =>
    intro hrunning f hf
    obtain ⟨⟨k, hcore⟩, -, hgoesOn⟩ := h.polls hrunning hdated
    rw [Core.poll_error hf] at hcore
    -- The latch is as it was, so that the loop waits again.
    have hlatch : (v.session n).latch.raised = (u.session n).latch.raised :=
      congrArg (fun c : Core => c.session.latch.raised) hcore
    obtain ⟨-, hmissed⟩ := hgoesOn (hlatch.trans hunraised)
    obtain ⟨hreaders, hnotice⟩ := hmissed f hf
    obtain ⟨hstate, hstorage, hresources, hpolls, hfailures⟩ := Site.counted hcore
    exact ⟨hstate, hstorage, hresources, hreaders, hpolls, hfailures, hnotice⟩

theorem Lapped.dated {o : Outcome} (h : Lapped n t o u v) (hdated : v.dated n = .ok ()) : u.dated n = .ok () := by
  have httl : (v.session n).board.ttl = (u.session n).board.ttl := by
    have hboard := congrArg Board.ttl h.kept.board
    exact hboard
  have hsame : (u.session n).board.dated v.now = v.dated n := by
    simp only [World.dated, Board.dated, Board.expiry, httl]
  exact Board.dated_ok_of_le h.now (hsame.trans hdated)

theorem Lapped.sound {o : Outcome} (h : Lapped n t o u v) (hsound : (u.session n).state.Sound)
    (hdated : v.dated n = .ok ()) : (v.session n).state.Sound := by
  cases hrunning : (u.session n).state.isRunning with
  | false =>
    have hstate : (v.session n).state = (u.session n).state :=
      congrArg (fun c : Core => c.session.state) (h.finished hrunning).2
    rw [hstate]
    exact hsound
  | true =>
    obtain ⟨⟨k, hcore⟩, -⟩ := h.polls hrunning hdated
    have hstate : (v.session n).state = ((u.site n).core.poll k o).session.state :=
      congrArg (fun c : Core => c.session.state) hcore
    rw [hstate]
    exact Core.sound_poll (c := (u.site n).core) hsound

/-- **All rounds of a loop are so**, and the run is failed exactly if the service said so. -/
theorem Rounds.endured {rounds : List Round} (h : Rounds n t w rounds u) (hw : w.AtPause n t) (hrests : w.Rests n)
    (hsound : (w.session n).state.Sound) (hdated : u.dated n = .ok ()) :
    (u.session n).state.Sound ∧ ((u.session n).state.phase = .failed ↔
      (w.session n).state.phase = .failed ∨ ∃ x ∈ rounds, x.Fails n) ∧ ∀ x ∈ rounds, x.Endured n t := by
  induction h with
  | start idle =>
    refine ⟨idle.state ▸ hsound, ?_, fun x hx => by cases hx⟩
    simp [idle.state]
  | @next u v v' rounds status resources past lap idle ih =>
    obtain ⟨hstands, hrests'⟩ := past.atPause hw hrests
    obtain ⟨hunraised, hlapped⟩ := lap.lapped hstands hrests'
    have hv : v.dated n = .ok () := idle.dated hdated
    obtain ⟨hsound', hfailed, hall⟩ := ih (hlapped.dated hv)
    have hendured := hlapped.endured hunraised hsound' hv
    refine ⟨idle.state ▸ hlapped.sound hsound' hv, ?_, fun x hx => ?_⟩
    · rw [idle.state, hendured.fails, hfailed]
      simp [or_and_right, exists_or, or_assoc]
    · rcases List.mem_append.mp hx with hx | hx
      · exact hall x hx
      · rw [List.mem_singleton.mp hx]
        exact hendured

/-! ## A loop that is told to end -/

section
variable {d : Option Int} {i : Nat} {next : Waited Bool → Job} {alarm : Option (Alarm (Waited Bool))}
variable {loop : Option Background} {watchers : List Nat}

theorem tasks_wakeAtLatch_ne (hi : i ≠ t) : (wakeAtLatch n w i).tasks[t]? = w.tasks[t]? := by
  unfold wakeAtLatch
  split
  · split
    · simp [enqueue, setStage, onTask, hi]
    · rfl
  · rfl

theorem tasks_wakeAtLatch_woken {r : Waited Bool}
    (ht : w.tasks[t]? = some ⟨n, loop, .woken (.watchLatch d) next r, watchers⟩) (i : Nat) :
    (wakeAtLatch n w i).tasks[t]? = some ⟨n, loop, .woken (.watchLatch d) next r, watchers⟩ := by
  by_cases hi : i = t
  · subst hi
    simp [wakeAtLatch, ht]
  · rw [tasks_wakeAtLatch_ne hi, ht]

theorem tasks_wakeAllAtLatch {is : List Nat}
    (ht : w.tasks[t]? = some ⟨n, loop, .waiting (.watchLatch d) next alarm, watchers⟩) (hmem : t ∈ is) :
    (is.foldl (wakeAtLatch n) w).tasks[t]? = some ⟨n, loop, .woken (.watchLatch d) next (.back true), watchers⟩ := by
  have hstays : ∀ (is : List Nat) (w : World),
      w.tasks[t]? = some ⟨n, loop, .woken (.watchLatch d) next (.back true), watchers⟩ →
        (is.foldl (wakeAtLatch n) w).tasks[t]? = some ⟨n, loop, .woken (.watchLatch d) next (.back true), watchers⟩ := by
    intro is
    induction is with
    | nil => exact fun w h => h
    | cons i is ih => exact fun w h => ih _ (tasks_wakeAtLatch_woken h i)
  induction is generalizing w with
  | nil => cases hmem
  | cons i is ih =>
    by_cases hi : i = t
    · subst hi
      refine hstays is _ ?_
      simp [wakeAtLatch, ht, enqueue, setStage, onTask]
    · refine ih ((tasks_wakeAtLatch_ne hi).trans ht) ?_
      exact (List.mem_cons.mp hmem).resolve_left (Ne.symm hi)

end

theorem run_rest (h : w.IsLoop n t) (hraised : (w.session n).latch.raised = true) (flag : Bool) :
    run t (.ofRound (Poll.rest (.back flag))) w = w.conclude t (.ok (.result .nothing)) := by
  have hlook : w.perform t .look = (w, .reply (w.site n)) := by rw [perform, h.worksFor.works.session]
  have hrest : Job.ofRound (Poll.rest (.back flag)) = .ask .look fun site => Job.ofRound
      (if site.session.latch.raised || !site.session.state.isRunning then pure false
        else do
          Poll.onceOrReport
          return true) := rfl
  rw [hrest, run_reply hlook, show (w.site n).session.latch.raised = true from hraised]
  rfl

/-- **A loop that is told to end ends**, and polls no more. -/
theorem halts {due : Option Int} (hu : u.Awaits n t due) : ∃ v, NonStop t (u.raiseLatch n) v ∧
    v.stage? t = some (.ended (.ok .nothing)) ∧ v.site n = (u.raiseLatch n).site n := by
  obtain ⟨d, watchers, htask⟩ := hu.task
  -- What is done for a task that there is not leaves the loop alone but for waking it.
  obtain ⟨haside, -, hsite⟩ := aside_raiseLatch (t := u.tasks.length) hu.known fun e next alarm h => by
    rw [stage?, List.getElem?_eq_none (Nat.le_refl _)] at h
    cases h
  have ht := tasks_wakeAllAtLatch (w := u.onSession n fun s => { s with latch := { s.latch with raised := true } })
    htask (List.mem_range.mpr (List.getElem?_eq_some_iff.mp htask).1)
  obtain ⟨u₁, hu₁⟩ : ∃ u₁, u₁ = u.raiseLatch n := ⟨_, rfl⟩
  have hloop : (u₁.unqueue t).IsLoop n t := by
    rw [hu₁]
    exact ⟨haside.length ▸ hu.known, _, watchers, ht⟩
  have hwoken : u₁.stage? t = some (.woken (.watchLatch d) (fun r => Job.ofRound (Poll.rest r)) (.back true)) := by
    rw [hu₁]
    exact congrArg (Option.map Task.stage) ht
  have hraised : ((u₁.unqueue t).session n).latch.raised = true := by
    have hsession : (u₁.session n).latch.raised = true := by
      rw [hu₁]
      exact congrArg (fun x : Site => x.session.latch.raised) hsite
    exact hsession
  have hgoes : u₁.alone? t = some ((u₁.unqueue t).finish t (.ok .nothing)) :=
    (alone?_woken hwoken).trans (congrArg some (run_rest hloop hraised true))
  obtain ⟨stage, watchers', htask'⟩ := hloop.task
  obtain ⟨hsame, hended⟩ := finish_spec htask' (.ok .nothing)
  rw [← hu₁]
  exact ⟨_, .step hgoes (by rw [World.pauses, hwoken]) (.refl _), hended, hsame.site n⟩

/-! ## A run that is polled -/

/-- **Only the service fails a run, and the loop goes on.** Whatever the service answers to the polls of a loop,
while notices can be raised,

* the run is failed exactly if it was at the start, or the service said so to a poll in an active phase;
* a status that could not be read is counted and reported once, and nothing else is changed;
* while the run is in progress every round polls and waits for the next, unless its poll has told the loop to end,
  and where the run is no longer in progress the loop ends;
* the next round comes whatever is answered, and none comes once the loop is told to end. -/
theorem only_service_fails {due : Option Int} {rounds : List Round} (hw : w.Awaits n t due) (hrests : w.Rests n)
    (hsound : (w.session n).state.Sound) (h : Rounds n t w rounds u) (hdated : u.dated n = .ok ()) :
    ((u.session n).state.phase = .failed ↔ (w.session n).state.phase = .failed ∨ ∃ x ∈ rounds, x.Fails n) ∧
      (∀ x ∈ rounds, x.Endured n t) ∧
      ∀ due, u.Awaits n t due →
        (∀ instant, due = some instant → ∀ status resources, ∃ v, Lap t status resources u v ∧ instant ≤ v.now) ∧
          ∃ v, NonStop t (u.raiseLatch n) v ∧ v.stage? t = some (.ended (.ok .nothing)) ∧
            v.site n = (u.raiseLatch n).site n := by
  obtain ⟨-, hfailed, hall⟩ := h.endured (.inl ⟨due, hw⟩) hrests hsound hdated
  refine ⟨hfailed, hall, fun due hu => ⟨?_, halts hu⟩⟩
  rintro instant rfl status resources
  obtain ⟨S, y, v, r, p, hlap, hinstant, -⟩ := lap_goes hu (h.atPause (.inl ⟨_, hw⟩) hrests).2 status resources
  exact ⟨v, hlap, hinstant⟩

/-- A single session has begun a run, and its loop was started. -/
def singleLooping : World :=
  ((singleBegun.onSession 0 fun s => { s with interval := .whole 5 }).fork 0 .pollLoop).2.unqueue 1

/-- The loop waits for its first round. -/
def singleAwaits : World := run 1 (.ofRound Poll.round) singleLooping

/-- The wait is over, and the service cannot be reached. -/
def singleCalls : World := ring { singleAwaits.replying ⟨down, 0⟩ ⟨down, 0⟩ with now := 5000000 } 1

/-- The loop has polled. -/
def singleCalled : World := run 1 (.ofRound (Poll.rest (.back false))) (singleCalls.unqueue 1)

/-- The loop waits for its second round. -/
def singleMissed : World := run 1 (.ofRound Poll.round) (singleCalled.unqueue 1)

/-- A loop whose service cannot be reached counts that, tells of it and goes on. -/
theorem single_endures : Missed 0 1 singleAwaits singleMissed ∧ (singleMissed.session 0).state.phase ≠ .failed ∧
    singleMissed.Awaits 0 1 (some 10000000) := by
  have hloop : singleLooping.IsLoop 0 1 := ⟨by decide, _, _, rfl⟩
  have hawaits : singleAwaits.Awaits 0 1 (some 5000000) :=
    ((paused_round (.refl _) (.refl 0 1 _) hloop).awaits rfl rfl).1
  have hrests : singleAwaits.Rests 0 := ⟨Nat.lt_of_lt_of_eq (by decide : 0 < 1) rfl, rfl, rfl⟩
  have hcalls : (singleAwaits.replying ⟨down, 0⟩ ⟨down, 0⟩).alone? 1 = some singleCalls := by rfl
  have hwoken : singleCalls.stage? 1 = some (.woken (.watchLatch (some 5000000)) (fun r => Job.ofRound (Poll.rest r))
      (.back false)) := rfl
  have hcalled : singleCalls.alone? 1 = some singleCalled := by
    rw [alone?_woken hwoken, settleAtGate_watchLatch]
    rfl
  have hfresh : singleCalled.stage? 1 = some (.fresh (.ofRound Poll.round)) := rfl
  have hmissed : singleCalled.alone? 1 = some singleMissed := alone?_fresh hfresh
  have hlap : Lap 1 ⟨down, 0⟩ ⟨down, 0⟩ singleAwaits singleMissed :=
    ⟨_, hcalls, .step hcalled rfl (.step hmissed rfl (.refl _)), rfl⟩
  have hidle : ∀ w, Idle 0 1 w w := fun w =>
    ⟨Nat.le_refl _, Int.le_refl _, rfl, rfl, rfl, rfl, rfl, fun task h => ⟨task.watchers, h⟩⟩
  have hrounds := Rounds.next (.start (hidle singleAwaits)) hlap (hidle singleMissed)
  have hstate : (singleAwaits.session 0).state = .launched .dataOnly := rfl
  have hsound : (singleAwaits.session 0).state.Sound := hstate ▸ RunState.sound_launched .dataOnly
  obtain ⟨-, hall, -⟩ := only_service_fails hawaits hrests hsound hrounds rfl
  have hendured := hall _ (List.mem_singleton_self _)
  exact ⟨hendured.missed rfl _ rfl, by decide, hendured.goesOn rfl rfl⟩

end World

end Cutover
