import Cutover.Proofs.Control.Heedless
import Cutover.Proofs.World.Mirror

/-!
# Worlds without their notices

What is on the boards of the sessions can be left out of a world, and so can what was read of it. Whatever is done to
a world is then done to what is left, but for work that puts something on a board or reads it.

* `World.hushed`: **a world without its notices**;
* `Task.Rouses`, `World.rouse_hushed`, …: tasks are woken and cancelled in the same way;
* `World.perform_hushed`: so are effects other than looks and changes;
* `World.conclude_hushed`, `World.spawn_hushed`: tasks end and begin in the same way.
-/

namespace Cutover

/-- A session without what is on its board. -/
def Session.hushed (s : Session) : Session := { s with board := {} }

/-- A stage without what was read of the notices. -/
def Stage.hushed : Stage → Stage
  | .ended r => .ended (r.map fun _ => .nothing)
  | stage => stage

/-- A task without what it has read of the notices, if it reads them. -/
def Task.hushed (reads : Bool) (task : Task) : Task :=
  if reads then { task with stage := task.stage.hushed } else task

/-- What a stretch of work comes to, without what was read of the notices. -/
def Outturn.hushed (reads : Bool) : Except Exit Outturn → Except Exit Outturn
  | .ok (.result x) => .ok (.result (if reads then .nothing else x))
  | r => r

/-- **A world without its notices**, and without what was read of them by some tasks. -/
def World.hushed (reads : Nat → Bool) (w : World) : World :=
  { w with sessions := w.sessions.map Session.hushed, tasks := w.tasks.mapIdx fun i task => task.hushed (reads i) }

/-! ## Rousing -/

namespace Task

variable {reads : Bool} {task : Task} {f : Task → Option (Stage × Nat)}

@[simp] theorem session_hushed : (task.hushed reads).session = task.session := by
  unfold hushed
  split <;> rfl

@[simp] theorem loop_hushed : (task.hushed reads).loop = task.loop := by
  unfold hushed
  split <;> rfl

@[simp] theorem watchers_hushed : (task.hushed reads).watchers = task.watchers := by
  unfold hushed
  split <;> rfl

theorem hushed_of_live (h : ∀ r, task.stage ≠ .ended r) : task.hushed reads = task := by
  unfold hushed
  split
  · obtain ⟨session, loop, stage, watchers⟩ := task
    cases stage with
    | ended r => exact absurd rfl (h r)
    | _ => rfl
  · rfl

theorem stage_hushed_ended (reads : Bool) {r : Except Exit Result} (h : task.stage = .ended r) :
    ∃ r', (task.hushed reads).stage = .ended r' ∧ outcomeOf r' = outcomeOf r := by
  unfold hushed
  split
  · rw [h]
    exact ⟨r.map fun _ => .nothing, rfl, by cases r <;> rfl⟩
  · exact ⟨r, h, rfl⟩

theorem hushed_cases (reads : Bool) (task : Task) : (∃ r r', task.stage = .ended r ∧
    (task.hushed reads).stage = .ended r' ∧ outcomeOf r' = outcomeOf r) ∨
    (∀ r, task.stage ≠ .ended r) ∧ task.hushed reads = task := by
  by_cases hended : ∃ r, task.stage = .ended r
  · obtain ⟨r, hr⟩ := hended
    obtain ⟨r', hr', houtcome⟩ := stage_hushed_ended reads hr
    exact .inl ⟨r, r', hr, hr', houtcome⟩
  · have hlive : ∀ r, task.stage ≠ .ended r := fun r hr => hended ⟨r, hr⟩
    exact .inr ⟨hlive, hushed_of_live hlive⟩

/-- Who has ended is not roused, and who is roused has not ended. -/
structure Rouses (f : Task → Option (Stage × Nat)) : Prop where
  ended : ∀ (task : Task) r, task.stage = .ended r → f task = none
  live : ∀ (task : Task) s, f task = some s → s.1.hushed = s.1

theorem Rouses.hushed (hf : Rouses f) (reads : Bool) (task : Task) : f (task.hushed reads) = f task := by
  rcases hushed_cases reads task with ⟨r, r', hr, hr', -⟩ | ⟨-, hsame⟩
  · rw [hf.ended task r hr, hf.ended _ r' hr']
  · rw [hsame]

theorem rouses_rung : Rouses rung? where
  ended task r hr := by rw [rung?, hr]
  live task s hs := by
    unfold rung? at hs
    split at hs
    · cases hs
      rfl
    · cases hs

theorem rouses_called : Rouses called? where
  ended task r hr := by rw [called?, hr]
  live task s hs := by
    unfold called? at hs
    split at hs
    · cases hs
      rfl
    · cases hs

theorem rouses_served : Rouses served? where
  ended task r hr := by rw [served?, hr]
  live task s hs := by
    unfold served? at hs
    split at hs
    · cases hs
      rfl
    · cases hs

theorem rouses_told (result : Except Exit Unit) : Rouses (told? result) where
  ended task r hr := by rw [told?, hr]
  live task s hs := by
    unfold told? at hs
    split at hs
    · cases hs
      rfl
    · cases hs

theorem rouses_raised (m : Nat) : Rouses (raised? m) where
  ended task r hr := by rw [raised?, hr]
  live task s hs := by
    unfold raised? at hs
    split at hs
    · split at hs
      · cases hs
        rfl
      · cases hs
    · cases hs

theorem rouses_handed (m stream : Nat) (item : Option RunState) : Rouses (handed? m stream item) where
  ended task r hr := by rw [handed?, hr]
  live task s hs := by
    unfold handed? at hs
    split at hs
    · split at hs
      · cases hs
        rfl
      · cases hs
    · cases hs

end Task

namespace World

variable {reads : Nat → Bool} {w : World} {n t i : Nat} {stage : Stage} {f : Task → Option (Stage × Nat)}

/-! ## What is left -/

theorem tasks_hushed (i : Nat) : (w.hushed reads).tasks[i]? = (w.tasks[i]?).map (Task.hushed (reads i)) := by
  simp [hushed]

theorem session_hushed (m : Nat) : (w.hushed reads).session m = (w.session m).hushed := by
  simp only [session, hushed, List.getD_eq_getElem?_getD, List.getElem?_map]
  cases w.sessions[m]? <;> rfl

theorem sessionOf_hushed (t : Nat) : (w.hushed reads).sessionOf t = w.sessionOf t := by
  unfold sessionOf
  rw [tasks_hushed]
  cases w.tasks[t]? with
  | none => rfl
  | some task => exact Task.session_hushed

theorem count_hushed : (w.hushed reads).tasks.length = w.tasks.length := by simp [hushed]

theorem hushed_congr {reads' : Nat → Bool} (h : ∀ i < w.tasks.length, reads' i = reads i) :
    w.hushed reads' = w.hushed reads := by
  have htasks : w.tasks.mapIdx (fun i task => task.hushed (reads' i)) =
      w.tasks.mapIdx fun i task => task.hushed (reads i) := by
    refine List.mapIdx_eq_mapIdx_iff.mpr fun i hi => ?_
    rw [h i hi]
  rw [hushed, hushed, htasks]

theorem stage?_hushed (hlive : ∀ r, stage ≠ .ended r) :
    (w.hushed reads).stage? t = some stage ↔ w.stage? t = some stage := by
  rw [stage?, stage?, tasks_hushed]
  cases w.tasks[t]? with
  | none => rfl
  | some task =>
    simp only [Option.map_some, Option.some_inj]
    rcases Task.hushed_cases (reads t) task with ⟨r, r', hr, hr', -⟩ | ⟨-, hsame⟩
    · rw [hr, hr']
      exact ⟨fun h => absurd h.symm (hlive r'), fun h => absurd h.symm (hlive r)⟩
    · rw [hsame]

/-! ## What is done to what is left -/

theorem onSession_hushed {f : Session → Session} (hf : ∀ s, (f s).hushed = f s.hushed) :
    (w.onSession n f).hushed reads = (w.hushed reads).onSession n f := by
  unfold onSession
  rw [session_hushed, ← hf]
  simp only [hushed, List.map_set]

theorem onTask_hushed {f g : Task → Task} (hf : ∀ task, (f task).hushed (reads t) = g (task.hushed (reads t))) :
    (w.onTask t f).hushed reads = (w.hushed reads).onTask t g := by
  have htasks : ((w.onTask t f).hushed reads).tasks = ((w.hushed reads).onTask t g).tasks := by
    refine List.ext_getElem? fun i => ?_
    rw [tasks_hushed]
    simp only [onTask, List.getElem?_modify, tasks_hushed]
    cases w.tasks[i]? with
    | none => rfl
    | some task =>
      by_cases hti : t = i
      · subst hti
        simp [hf]
      · simp [hti]
  simp only [hushed, onTask] at htasks ⊢
  rw [htasks]

theorem setStage_hushed (w : World) (t : Nat) (stage : Stage) : (w.setStage t stage).hushed reads =
    (w.hushed reads).setStage t (if reads t then stage.hushed else stage) := by
  refine onTask_hushed fun task => ?_
  unfold Task.hushed
  split <;> rfl

theorem setStage_live_hushed (hstage : stage.hushed = stage) :
    (w.setStage t stage).hushed reads = (w.hushed reads).setStage t stage := by
  rw [setStage_hushed, hstage, ite_self]

theorem foldl_hushed {ι : Type} {f : World → ι → World} (hf : ∀ w i, (f w i).hushed reads = f (w.hushed reads) i)
    (is : List ι) (w : World) : (is.foldl f w).hushed reads = is.foldl f (w.hushed reads) := by
  induction is generalizing w with
  | nil => rfl
  | cons i is ih =>
    rw [List.foldl_cons, List.foldl_cons, ih, hf]

/-! ## Waking -/

theorem rouse_hushed (hf : Task.Rouses f) (w : World) (i : Nat) :
    (w.rouse f i).hushed reads = (w.hushed reads).rouse f i := by
  unfold rouse
  rw [tasks_hushed]
  cases hi : w.tasks[i]? with
  | none => rfl
  | some task =>
    rw [Option.map_some, Option.bind_some, Option.bind_some, hf.hushed]
    cases hs : f task with
    | none => rfl
    | some s =>
      show ((w.setStage i s.1).hushed reads).enqueue i s.2 = _
      rw [setStage_live_hushed (hf.live task s hs)]

theorem ring_hushed (w : World) (i : Nat) : (w.ring i).hushed reads = (w.hushed reads).ring i := by
  rw [ring_eq_rouse, ring_eq_rouse, rouse_hushed Task.rouses_rung]

theorem wakeAtStorage_hushed (w : World) (i : Nat) :
    (w.wakeAtStorage i).hushed reads = (w.hushed reads).wakeAtStorage i := by
  rw [wakeAtStorage_eq_rouse, wakeAtStorage_eq_rouse, rouse_hushed Task.rouses_served]

theorem wakeAtGate_hushed (w : World) (i : Nat) : (w.wakeAtGate i).hushed reads = (w.hushed reads).wakeAtGate i := by
  rw [wakeAtGate_eq_rouse, wakeAtGate_eq_rouse, rouse_hushed Task.rouses_called]

theorem callAtGate_hushed (w : World) (n : Nat) (name : GateName) (r : Gate × Option Nat) :
    (w.callAtGate n name r).hushed reads = (w.hushed reads).callAtGate n name r := by
  have hgate : ∀ s : Session, (s.setGate r.1 name).hushed = s.hushed.setGate r.1 name := fun s => by cases name <;> rfl
  unfold callAtGate
  rw [← onSession_hushed hgate]
  cases r.2 with
  | none => rfl
  | some t => exact wakeAtGate_hushed _ t

theorem gate_hushed (s : Session) (name : GateName) : s.hushed.gate name = s.gate name := by cases name <;> rfl

theorem setGate_hushed (f : Gate → Gate) (w : World) (n : Nat) (name : GateName) :
    (w.onSession n fun s => s.setGate (f (s.gate name)) name).hushed reads =
      (w.hushed reads).onSession n fun s => s.setGate (f (s.gate name)) name :=
  onSession_hushed fun s => by cases name <;> rfl

theorem settleAtGate_hushed (w : World) (t : Nat) (e : Effect) (r : e.Reply) :
    (w.settleAtGate t e r).hushed reads = (w.hushed reads).settleAtGate t e r := by
  unfold settleAtGate
  split
  · rw [sessionOf_hushed]
    exact setGate_hushed (fun g => g.letIn t) _ _ _
  · dsimp only
    rw [sessionOf_hushed, session_hushed, gate_hushed]
    exact callAtGate_hushed _ _ _ _
  · rfl

theorem withdraw_hushed (w : World) (t : Nat) (e : Effect) :
    (w.withdraw t e).hushed reads = (w.hushed reads).withdraw t e := by
  cases e with
  | acquire g =>
    unfold withdraw
    rw [sessionOf_hushed]
    exact setGate_hushed (fun g => g.withdraw t) _ _ _
  | _ => rfl

/-- **Tasks are cancelled in the same way.** -/
theorem cancelWithin_hushed (depth : Nat) (w : World) (t : Nat) :
    (cancelWithin depth w t).hushed reads = cancelWithin depth (w.hushed reads) t := by
  induction depth generalizing t with
  | zero => rfl
  | succ depth ih =>
    unfold cancelWithin
    cases ht : w.tasks[t]? with
    | none => simp only [tasks_hushed, ht, Option.map_none]
    | some task =>
      have hlive : (∀ r, task.stage ≠ .ended r) → (w.hushed reads).tasks[t]? = some task := fun h => by
        rw [tasks_hushed, ht, Option.map_some, Task.hushed_of_live h]
      cases hstage : task.stage with
      | ended r =>
        obtain ⟨r', hr', -⟩ := Task.stage_hushed_ended (reads t) hstage
        simp only [tasks_hushed, ht, Option.map_some, hstage, hr']
      | fresh job =>
        simp only [hlive fun r hr => Stage.noConfusion (hstage.symm.trans hr), Option.map_some, hstage]
        exact setStage_live_hushed rfl
      | woken e next r =>
        simp only [hlive fun r hr => Stage.noConfusion (hstage.symm.trans hr), Option.map_some, hstage]
        exact setStage_live_hushed rfl
      | waiting e next alarm =>
        have hbroken : ∀ r : e.Reply, ((((w.withdraw t e).setStage t (.woken e next r)).enqueue t).hushed reads) =
            (((w.hushed reads).withdraw t e).setStage t (.woken e next r)).enqueue t := fun r => by
          rw [← withdraw_hushed, ← setStage_live_hushed rfl]
          rfl
        simp only [hlive fun r hr => Stage.noConfusion (hstage.symm.trans hr), Option.map_some, hstage]
        cases e with
        | join other => exact ih other
        | look => rfl
        | change x => rfl
        | release g => rfl
        | hasEnded other => rfl
        | fork b => rfl
        | cancel other => rfl
        | raiseLatch => rfl
        | publish item => rfl
        | _ => exact hbroken _

theorem cancel_hushed (w : World) (t : Nat) : (w.cancel t).hushed reads = (w.hushed reads).cancel t := by
  unfold cancel
  rw [count_hushed, cancelWithin_hushed]

/-! ## Latches and readers -/

theorem raiseLatch_hushed (w : World) (n : Nat) : (w.raiseLatch n).hushed reads = (w.hushed reads).raiseLatch n := by
  have hraised : (w.onSession n fun s => { s with latch := { s.latch with raised := true } }).hushed reads =
      (w.hushed reads).onSession n fun s => { s with latch := { s.latch with raised := true } } :=
    onSession_hushed fun _ => rfl
  unfold raiseLatch taskNumbers
  rw [wakeAtLatch_eq_rouse]
  dsimp only
  rw [foldl_hushed (rouse_hushed (Task.rouses_raised n)), hraised]
  simp only [onSession, count_hushed]

theorem hand_hushed (w : World) (n stream : Nat) (item : Option RunState) (i : Nat) :
    (w.hushed reads).hand n stream item i = (w.hand n stream item i).map (hushed reads) := by
  rw [hand_eq_rouse, hand_eq_rouse, tasks_hushed, ← rouse_hushed (Task.rouses_handed n stream item)]
  have hsame : ((w.tasks[i]?).map (Task.hushed (reads i))).bind (Task.handed? n stream item) =
      (w.tasks[i]?).bind (Task.handed? n stream item) := by
    cases w.tasks[i]? with
    | none => rfl
    | some task => exact (Task.rouses_handed n stream item).hushed (reads i) task
  rw [hsame]
  split <;> rfl

theorem offer_hushed (n : Nat) (item : Option RunState) (w : World) (stream : Nat) :
    (offer n item w stream).hushed reads = offer n item (w.hushed reads) stream := by
  have hgiven : ∀ is : List Nat, is.findSome? ((w.hushed reads).hand n stream item) =
      (is.findSome? (w.hand n stream item)).map (hushed reads) := fun is => by
    induction is with
    | nil => rfl
    | cons i is ih =>
      rw [List.findSome?_cons, List.findSome?_cons, hand_hushed, ih]
      cases w.hand n stream item i <;> rfl
  have hdelivered : (w.deliver n item stream).hushed reads = (w.hushed reads).deliver n item stream :=
    onSession_hushed fun _ => rfl
  unfold offer taskNumbers
  rw [count_hushed, hgiven, ← hdelivered]
  cases (List.range w.tasks.length).findSome? (w.hand n stream item) <;> rfl

theorem publish_hushed (w : World) (n : Nat) (item : Option RunState) :
    (w.publish n item).hushed reads = (w.hushed reads).publish n item := by
  unfold publish
  rw [foldl_hushed (offer_hushed n item), session_hushed]
  rfl

/-! ## Effects -/

theorem spawn_hushed (w : World) (n : Nat) (job : Job) (loop : Option Background) :
    (w.hushed reads).spawn n job loop = ((w.spawn n job loop).1, (w.spawn n job loop).2.hushed reads) := by
  have hnew : Task.hushed (reads w.tasks.length) { session := n, loop, stage := .fresh job } =
      { session := n, loop, stage := .fresh job } := Task.hushed_of_live fun r hr => by cases hr
  simp only [spawn, hushed, enqueue, List.length_mapIdx, List.mapIdx_append, List.mapIdx_cons, List.mapIdx_nil,
    Nat.zero_add, hnew]

theorem acquire_hushed (w : World) (t : Nat) (g : GateName) :
    (w.hushed reads).acquire t g = ((w.acquire t g).1.hushed reads, (w.acquire t g).2) := by
  unfold acquire
  dsimp only
  rw [sessionOf_hushed, session_hushed, gate_hushed]
  cases ((w.session (w.sessionOf t)).gate g).enter? with
  | some g' => exact Prod.ext (setGate_hushed (fun _ => g') _ _ _).symm rfl
  | none => exact Prod.ext (setGate_hushed (fun g => g.queueUp t) _ _ _).symm rfl

theorem join_hushed (w : World) (t other : Nat) :
    (w.hushed reads).join t other = ((w.join t other).1.hushed reads, (w.join t other).2) := by
  have hwatched : ((w.onTask other fun task => { task with watchers := task.watchers ++ [t] }).hushed reads) =
      (w.hushed reads).onTask other fun task => { task with watchers := task.watchers ++ [t] } :=
    onTask_hushed fun task => by
      unfold Task.hushed
      split <;> rfl
  unfold join
  rw [tasks_hushed]
  cases ht : w.tasks[other]? with
  | none => rfl
  | some task =>
    simp only [Option.map_some]
    rcases Task.hushed_cases (reads other) task with ⟨r, r', hr, hr', houtcome⟩ | ⟨hlive, hsame⟩
    · rw [hr, hr']
      exact Prod.ext rfl (congrArg (fun r => Uptake.reply (Waited.back r)) houtcome)
    · rw [hsame]
      cases hstage : task.stage with
      | ended r => exact absurd hstage (hlive r)
      | _ => exact Prod.ext hwatched.symm rfl

theorem hasEnded_hushed (w : World) (t : Nat) : (w.hushed reads).hasEnded t = w.hasEnded t := by
  unfold hasEnded
  rw [tasks_hushed]
  cases w.tasks[t]? with
  | none => rfl
  | some task =>
    simp only [Option.map_some, Task.hasEnded]
    rcases Task.hushed_cases (reads t) task with ⟨r, r', hr, hr', -⟩ | ⟨-, hsame⟩
    · rw [hr, hr']
    · rw [hsame]

theorem take?_hushed (w : World) (n stream : Nat) : (w.hushed reads).take? n stream =
    (w.take? n stream).map fun p => (p.1, p.2.hushed reads) := by
  have htaken : ∀ f : Stream → Stream, (w.onSession n fun s => { s with streams := s.streams.map f }).hushed reads =
      (w.hushed reads).onSession n fun s => { s with streams := s.streams.map f } :=
    fun _ => onSession_hushed fun _ => rfl
  have hstreams : (w.session n).hushed.streams = (w.session n).streams := rfl
  unfold take?
  rw [session_hushed, hstreams]
  split
  · rw [← htaken]
    rfl
  · rfl

/-- **Effects other than looks and changes are carried out in the same way.** -/
theorem perform_hushed (w : World) (t : Nat) {e : Effect} (he : e.isOther = true) :
    (w.hushed reads).perform t e = ((w.perform t e).1.hushed reads, (w.perform t e).2) := by
  have hsession : (w.hushed reads).sessionOf t = w.sessionOf t := sessionOf_hushed t
  cases e with
  | look => cases he
  | change x => cases he
  | acquire g => exact acquire_hushed w t g
  | release g =>
    rw [perform, perform, hsession]
    dsimp only
    rw [session_hushed, gate_hushed, callAtGate_hushed]
  | sleep d => rfl
  | storageTurn =>
    have hstorage : (w.hushed reads).storage = w.storage := rfl
    unfold perform awaitStorage
    rw [hstorage]
    cases w.storage.kind <;> rfl
  | send m =>
    have hscript : (w.hushed reads).script = w.script := rfl
    unfold perform send
    rw [hscript]
    dsimp only
    split <;> rfl
  | join other => exact join_hushed w t other
  | hasEnded other => exact Prod.ext rfl (congrArg Uptake.reply (hasEnded_hushed w other))
  | fork b =>
    rw [perform, perform, hsession, fork, spawn_hushed]
    rfl
  | cancel other => exact Prod.ext (cancel_hushed w other).symm rfl
  | watchLatch d =>
    unfold perform watchLatch
    rw [hsession, session_hushed]
    have hlatch : (w.session (w.sessionOf t)).hushed.latch = (w.session (w.sessionOf t)).latch := rfl
    rw [hlatch]
    split <;> rfl
  | raiseLatch =>
    rw [perform, perform, hsession, raiseLatch_hushed]
  | publish item =>
    rw [perform, perform, hsession, publish_hushed]
  | receive stream =>
    rw [perform, perform, hsession, take?_hushed]
    cases w.take? (w.sessionOf t) stream <;> rfl

/-! ## Ends -/

theorem finish_hushed {r r' : Except Exit Result} (w : World) (t : Nat) (houtcome : outcomeOf r' = outcomeOf r)
    (hr' : (if reads t then (Stage.ended r).hushed else .ended r) = .ended r') :
    (w.finish t r).hushed reads = (w.hushed reads).finish t r' := by
  have hwatchers : ((w.hushed reads).tasks[t]?).map Task.watchers = (w.tasks[t]?).map Task.watchers := by
    rw [tasks_hushed]
    cases w.tasks[t]? with
    | none => rfl
    | some task => exact congrArg some Task.watchers_hushed
  unfold finish
  rw [hwatchers, houtcome, ← hr', ← setStage_hushed, wakeWatcher_eq_rouse]
  exact foldl_hushed (rouse_hushed (Task.rouses_told _)) _ _

/-- **Tasks end in the same way**, and begin another round in the same way. -/
theorem conclude_hushed (w : World) (t : Nat) (r : Except Exit Outturn) :
    (w.conclude t r).hushed reads = (w.hushed reads).conclude t (Outturn.hushed (reads t) r) := by
  have hloop : ((w.hushed reads).tasks[t]?).bind Task.loop = (w.tasks[t]?).bind Task.loop := by
    rw [tasks_hushed]
    cases w.tasks[t]? with
    | none => rfl
    | some task => exact Task.loop_hushed
  have hover : (w.finish t (.ok .nothing)).hushed reads = (w.hushed reads).finish t (.ok .nothing) :=
    finish_hushed w t rfl (by split <;> rfl)
  rcases r with e | x | _
  · exact finish_hushed w t rfl (by split <;> rfl)
  · cases hreads : reads t with
    | true => exact finish_hushed w t rfl (by rw [hreads]; rfl)
    | false => exact finish_hushed w t rfl (by rw [hreads]; rfl)
  · simp only [conclude, Outturn.hushed, hloop]
    cases (w.tasks[t]?).bind Task.loop with
    | none => exact hover
    | some b =>
      show { (w.setStage t (.fresh (.ofRound b.round))).hushed reads with ready := ⟨t, 0⟩ :: w.ready } = _
      rw [setStage_live_hushed rfl]
      rfl

end World

end Cutover
