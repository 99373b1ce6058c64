import Cutover.Proofs.World.Desk

/-!
# At most one request is outstanding

Whatever is asked for, in whatever order tasks go on, whatever fails and whoever is cancelled, no request is
sent while another is outstanding or a run is in progress, and a launch that is called for then is refused and
does nothing.

* `World.LaunchMove`, `World.LaunchHistory`: one thing that happens, and one after the other;
* `World.Refused`: what a launch that is refused leaves;
* `World.one_request`: **at most one request is outstanding.**
-/

namespace Cutover

/-! ## Refusals -/

/-- The contract of work that only looks. -/
def looking : Contract Site where
  allows
    | _, .look => True
    | _, _ => False
  leads
    | x, .look, r, x' => r = x ∧ x' = x
    | _, _, _, _ => False

/-- What a launch comes to that is refused in some phase. -/
abbrev Phase.refusal (p : Phase) : Exit := .fault (.client (.alreadyRunning p))

/-- The session has the part that is asked. -/
def Session.hasPart (s : Session) : Action → Bool
  | .whole _ => !s.isBare
  | _ => true

section
variable {α : Type} {x : Site} {a : Action}

theorem looking_session {Q : Except Exit Session → Site → Prop} (h : Q (.ok x.session) x) :
    Op.session.Meets looking Q x := by
  refine Op.meets_bind.mpr (Op.meets_lift.mpr ⟨trivial, ?_⟩)
  rintro _ _ ⟨rfl, rfl⟩
  exact h

/-- **While a launch or a run is under way a second one is refused**, whatever was to come after. -/
theorem Launch.looking_refuseSecond {f : Unit → Op α} (hsound : x.session.state.Sound)
    (hbusy : (x.session.launching || x.session.state.isRunning) = true) :
    (refuseSecond >>= f).Meets looking (fun r _ => r = .error x.session.state.phase.refusal) x := by
  refine Op.meets_bind.mpr (Op.meets_bind.mpr (looking_session ?_))
  show Op.Meets _ _ (if x.session.launching || x.session.state.isRunning then _ else _) _
  rw [if_pos hbusy]
  refine Op.meets_bind.mpr (Op.meets_bind.mpr (looking_session (Op.meets_ofExcept.mpr ?_)))
  rw [hsound.check_eq]
  rfl

theorem Action.looking_launch (hlaunches : a.launches = true) (hpart : x.session.hasPart a = true)
    (hsound : x.session.state.Sound) (hbusy : (x.session.launching || x.session.state.isRunning) = true) :
    a.op.Meets looking (fun r _ => r = .error x.session.state.phase.refusal) x := by
  have hmapped : ∀ {r : Except Exit RunState}, r = .error x.session.state.phase.refusal →
      r.map Result.state = .error x.session.state.phase.refusal := by
    rintro _ rfl
    rfl
  cases a with
  | whole a =>
    cases a with
    | launch o =>
      refine Op.meets_bind.mpr (looking_session ?_)
      have hwhole : x.session.isBare = false := by simpa [Session.hasPart] using hpart
      show Op.Meets _ _ (if x.session.isBare then _ else _) _
      rw [hwhole]
      exact Op.meets_map.mpr ((Launch.looking_refuseSecond hsound hbusy).mono fun _ _ => hmapped)
    | _ => cases hlaunches
  | poll a =>
    cases a with
    | submit r => exact Op.meets_map.mpr ((Launch.looking_refuseSecond hsound hbusy).mono fun _ _ => hmapped)
    | _ => cases hlaunches
  | _ => cases hlaunches

end

/-- The task waits for the end of another. -/
def Stage.joins : Stage → Bool
  | .waiting (.join _) _ _ => true
  | _ => false

namespace World

variable {w₀ w w' : World} {n i t : Nat} {task : Task}

theorem run_looking {job : Job} {Q : Except Exit Outturn → Site → Prop}
    (h : job.Meets looking Q (w.site (w.sessionOf t))) :
    ∃ r, Q r (w.site (w.sessionOf t)) ∧ run t job w = w.conclude t r := by
  induction job with
  | done r => exact ⟨r, h, rfl⟩
  | ask e next ih =>
    cases e with
    | look => exact ih _ (h.2 _ _ ⟨rfl, rfl⟩)
    | _ => exact h.1.elim

/-- **A launch was refused**, and nothing else was done: nothing was stored, sent or put on the board, no
session and no task is another, but that those that wait for the launch are told. -/
structure Refused (t : Nat) (phase : Phase) (w w' : World) : Prop where
  verdict : w'.verdict? t = some (.error phase.refusal)
  same : ∃ tasks ready, w' = { w with tasks, ready }
  others : ∀ (i : Nat) (task : Task), i ≠ t → w.tasks[i]? = some task → task.stage.joins = false →
    w'.tasks[i]? = some task

theorem wakeWatcher_same (r : Except Exit Unit) (w : World) (i : Nat) :
    ∃ tasks ready, wakeWatcher r w i = { w with tasks, ready } := by
  unfold wakeWatcher
  split <;> exact ⟨_, _, rfl⟩

theorem wakeWatcher_other {j : Nat} (r : Except Exit Unit) (hi : w.tasks[i]? = some task)
    (hjoins : task.stage.joins = false) : (wakeWatcher r w j).tasks[i]? = some task := by
  unfold wakeWatcher
  split
  next other next alarm hj =>
    have hij : j ≠ i := by
      rintro rfl
      rw [hi] at hj
      rw [Option.some.inj hj] at hjoins
      cases hjoins
    simp [enqueue, setStage, onTask, hi, hij]
  next => exact hi

theorem wakeWatchers_same (r : Except Exit Unit) (is : List Nat) (w : World) :
    (∃ tasks ready, is.foldl (wakeWatcher r) w = { w with tasks, ready }) ∧
      ∀ (i : Nat) (task : Task), w.tasks[i]? = some task → task.stage.joins = false →
        (is.foldl (wakeWatcher r) w).tasks[i]? = some task := by
  induction is generalizing w with
  | nil => exact ⟨⟨_, _, rfl⟩, fun _ _ hi _ => hi⟩
  | cons j is ih =>
    obtain ⟨⟨tasks, ready, hrest⟩, hothers⟩ := ih (wakeWatcher r w j)
    obtain ⟨_, _, hfirst⟩ := wakeWatcher_same r w j
    refine ⟨⟨tasks, ready, ?_⟩, fun i task hi hjoins => hothers i task (wakeWatcher_other r hi hjoins) hjoins⟩
    rw [List.foldl_cons, hrest, hfirst]

theorem refused_finish (ht : w.tasks[t]? = some task) (phase : Phase) :
    Refused t phase w (w.finish t (.error phase.refusal)) := by
  have htold : Stirred (fun _ _ => True) False (w.setStage t (.ended (.error phase.refusal)))
      (w.finish t (.error phase.refusal)) := stirred_wakeWatchers fun _ _ _ _ _ _ => trivial
  obtain ⟨⟨tasks, ready, hsame⟩, hothers⟩ := wakeWatchers_same (outcomeOf (.error phase.refusal))
    (((w.tasks[t]?).map Task.watchers).getD []) (w.setStage t (.ended (.error phase.refusal)))
  refine ⟨?_, ⟨tasks, ready, hsame⟩, fun i task' hit hi hjoins => hothers i task' ?_ hjoins⟩
  · rw [htold.verdict?, verdict?, stage?_setStage_self ht]
    rfl
  · exact (tasks_setStage_ne hit.symm).trans hi

/-- **A launch that is called for while another or a run is under way is refused.** -/
theorem refused_resume {a : Action} (ht : w.tasks[t]? = some task) (hfresh : task.stage = .fresh (.ofOp a.op))
    (hlaunches : a.launches = true) (hpart : (w.session task.session).hasPart a = true)
    (hsound : (w.session task.session).state.Sound)
    (hbusy : ((w.session task.session).launching || (w.session task.session).state.isRunning) = true) :
    Refused t (w.session task.session).state.phase w (w.resume t) := by
  have hsession : w.sessionOf t = task.session := by simp only [sessionOf, ht]
  have hstage : (w.tasks[t]?).map Task.stage = some (.fresh (.ofOp a.op)) := by rw [ht, ← hfresh]; rfl
  have hjob : (Job.ofOp a.op).Meets looking
      (fun r _ => r = .error (w.session task.session).state.phase.refusal) (w.site (w.sessionOf t)) := by
    rw [hsession]
    refine Op.meets_map.mpr ((Action.looking_launch hlaunches hpart hsound hbusy).mono ?_)
    rintro _ _ rfl
    rfl
  obtain ⟨r, hr, hrun⟩ := run_looking hjob
  rw [resume, hstage]
  show Refused t _ w (run t (.ofOp a.op) w)
  rw [hrun, hr]
  exact refused_finish ht _

/-! ## Histories -/

/-- **One thing that happens**: somebody calls for an action or subscribes to the states of a run, a task goes
on, a wait ends, a task is cancelled, or something changes that has nothing to do with desks and runs. No
request is sent past the desk. -/
inductive LaunchMove : World → World → Prop
  | call {w : World} {n : Nat} {a : Action} (proper : a.isProper = true) (known : n < w.sessions.length) :
    LaunchMove w (w.spawn n (.ofOp a.op)).2
  | subscribe {w : World} {n : Nat} {b : Background} (known : n < w.sessions.length) :
    LaunchMove w (w.fork n b).2
  | resume (w : World) (t : Nat) : LaunchMove w (w.resume t)
  | ring (w : World) (t : Nat) : LaunchMove w (w.ring t)
  | serve (w : World) (t : Nat) : LaunchMove w (w.wakeAtStorage t)
  | cancel (w : World) (t : Nat) : LaunchMove w (w.cancel t)
  | elsewhere {w w' : World} (length : w'.sessions.length = w.sessions.length)
    (desks : ∀ m, (w'.session m).launching = (w.session m).launching ∧
      (w'.session m).state = (w.session m).state) (tasks : w'.tasks = w.tasks) : LaunchMove w w'

/-- One thing happens after the other. -/
abbrev LaunchHistory : World → World → Prop := Relation.ReflTransGen LaunchMove

open Desk (Manned)

theorem manned_of_start (htasks : w.tasks = []) (hsound : ∀ m, (w.session m).state.Sound) :
    Manned none (fun _ => false) w := by
  have hnone : ∀ i : Nat, w.tasks[i]? = none := fun i => by rw [htasks]; rfl
  refine ⟨fun i task hi => ?_, fun i task _ hi => ?_, fun i hi => ?_, fun i j task task' hi => ?_, hsound⟩
  · cases (hnone i).symm.trans hi
  · cases (hnone i).symm.trans hi
  · cases hi
  · cases (hnone i).symm.trans hi

/-- **Whatever happens, at most one task has the desk of a session.** -/
theorem LaunchMove.manned {owns : Nat → Bool} (hw : Manned none owns w) (h : LaunchMove w w') :
    ∃ owns', Manned none owns' w' := by
  have hstirred : Stirred (fun _ _ => False) True w w' → ∃ owns', Manned none owns' w' :=
    fun h => ⟨owns, hw.eases (Desk.eases_of_stirred h)⟩
  cases h with
  | call proper known =>
    exact ⟨owns, hw.eases (Desk.eases_spawn known (Desk.stands_ofOp fun _ hd => Desk.keeps_action proper hd))⟩
  | @subscribe n b known =>
    exact ⟨owns, hw.eases (Desk.eases_spawn known (Desk.stands_ofRound (Desk.keeps_background b).1))⟩
  | resume t => exact (Desk.resume_manned hw t).1
  | ring t => exact hstirred (stirred_ring w t)
  | serve t => exact hstirred (stirred_wakeAtStorage w t)
  | cancel t => exact hstirred (stirred_cancelWithin trivial _ w t)
  | elsewhere length desks tasks => exact ⟨owns, hw.eases (Desk.eases_of_tasks length desks tasks)⟩

theorem LaunchHistory.manned {owns : Nat → Bool} (hw : Manned none owns w) (h : LaunchHistory w w') :
    ∃ owns', Manned none owns' w' := by
  induction h with
  | refl => exact ⟨owns, hw⟩
  | tail _ hmove ih =>
    obtain ⟨owns', hmanned⟩ := ih
    exact hmove.manned hmanned

/-- **At most one request is outstanding.** All through a history of one session or several,

* at most one task of a session has sent a request and not gone on since, and a launch is then under way;
* whoever sends a request when it goes on does so where no launch is under way and no run is in progress;
* a launch that is called for while a launch or a run is under way is refused, and does nothing else. -/
theorem one_request (htasks : w₀.tasks = []) (hsound : ∀ m, (w₀.session m).state.Sound)
    (h : LaunchHistory w₀ w) :
    (∀ (i j : Nat) (task task' : Task), w.tasks[i]? = some task → w.tasks[j]? = some task' →
      task.stage.submits = true → task'.stage.submits = true → task.session = task'.session →
        i = j ∧ (w.session task.session).launching = true) ∧
    (∀ t : Nat, (w.resume t).sent = w.sent ++ (w.sendingsOf t).map Prod.snd ∧
      ∀ v m, (v, m) ∈ w.sendingsOf t → m.isLaunch = true →
        (w.session (w.sessionOf t)).launching = false ∧
          (v.session (w.sessionOf t)).state.isRunning = false) ∧
    ∀ (t : Nat) (task : Task) (a : Action), w.tasks[t]? = some task → task.stage = .fresh (.ofOp a.op) →
      a.launches = true → (w.session task.session).hasPart a = true →
        ((w.session task.session).launching || (w.session task.session).state.isRunning) = true →
          Refused t (w.session task.session).state.phase w (w.resume t) := by
  obtain ⟨owns, hmanned⟩ := LaunchHistory.manned (manned_of_start htasks hsound) h
  refine ⟨fun i j task task' hi hj hsubmits hsubmits' hsession => ?_,
    fun t => ⟨sent_resume w t, (Desk.resume_manned hmanned t).2⟩,
    fun t task a ht hfresh hlaunches hpart hbusy =>
      refused_resume ht hfresh hlaunches hpart (hmanned.sound _) hbusy⟩
  have hown : owns i = true := (hmanned.stands i task nofun hi).has hsubmits
  have hown' : owns j = true := (hmanned.stands j task' nofun hj).has hsubmits'
  refine ⟨hmanned.single i j task task' hi hj hown hown' hsession, ?_⟩
  obtain ⟨_, hi', htaken⟩ := hmanned.taken i hown
  cases hi.symm.trans hi'
  exact htaken

/-- A request for a bulk run of the data. -/
def bulkRequest : Request where
  target := { database := .text "a" }
  mode := .dataOnly
  transfer := .bulk

/-- A session whose service takes its time to accept a request. -/
def unhurried : World where
  sessions := [{}]
  script := { routes := [("/Migrate", [{ Script.answering "" with delay := 2 }])] }

/-- A request is submitted, and the answer has yet to come. -/
def submitted : World := (unhurried.spawn 0 (.ofOp (Action.poll (.submit bulkRequest)).op)).2.resume 0

/-- A second run is to be launched. -/
def secondLaunch : Action := .whole (.launch { mode := .dataOnly, transfer := .bulk })

/-- Somebody is to launch it. -/
def toLaunch : World := (submitted.spawn 0 (.ofOp secondLaunch.op)).2

/-- The second launch is refused while the first waits for its answer. -/
theorem second_refused : (toLaunch.stage? 0).map Stage.submits = some true ∧
    toLaunch.sent.map Message.isLaunch = [true] ∧ Refused 1 .idle toLaunch (toLaunch.resume 1) := by
  have hcall : LaunchMove unhurried (unhurried.spawn 0 (.ofOp (Action.poll (.submit bulkRequest)).op)).2 :=
    .call rfl Nat.one_pos
  have hcall' : LaunchMove submitted toLaunch := .call rfl Nat.one_pos
  have hsound : ∀ m, (unhurried.session m).state.Sound := by
    rintro (_ | m) <;> exact RunState.sound_default
  obtain ⟨-, -, hrefused⟩ :=
    one_request rfl hsound (((Relation.ReflTransGen.single hcall).tail (.resume _ 0)).tail hcall')
  exact ⟨rfl, by decide, hrefused 1 _ secondLaunch rfl rfl rfl rfl rfl⟩

end World

end Cutover
