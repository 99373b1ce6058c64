import Cutover.Proofs.Control.Blind
import Cutover.Proofs.World.Waking

/-!
# Two worlds side by side

A world can be set beside another in which some tasks have yet to begin, while here they wait at the gate
of the state or were just let through. What else happens in the one happens in the other.

* `World.SameAround`: two worlds are the same around some tasks;
* `World.rouse`: a task is roused from its wait, with one equation for each way to rouse tasks;
* `World.Mirrors`: **a world is as another in which some tasks have yet to begin**;
* `World.Mirrors.rouse`, `World.Mirrors.publish`, …: what happens in both keeps them so.
-/

namespace Cutover

/-! ## Work that asks for the gate of the state -/

/-- **Work that asks for the gate of the state** before it does anything else, and how it goes on. It may
look first whether the session is bare. -/
inductive Job.Enters : Bool → Job → (Waited Unit → Job) → Prop
  | atOnce (bare : Bool) (next : Waited Unit → Job) : Enters bare (.ask (.acquire .state) next) next
  | checked {look : Site → Job} {next : Waited Unit → Job}
    (h : ∀ s, s.session.isBare = false → look s = .ask (.acquire .state) next) :
    Enters false (.ask .look look) next

/-- A task at this stage may be roused by others, or rouse itself. Who waits at the gate of the state is
let through by who leaves it, and by nobody else. -/
def Stage.isRousable : Stage → Bool
  | .waiting (.acquire .state) _ none => false
  | .waiting .. => true
  | _ => false

namespace World

variable {n i t : Nat} {late calls : List Nat} {w v : World}

/-- **Two worlds are the same around some tasks**: they differ at most in the gate of the state of one
session, in how far those tasks have come, and in the order in which tasks go on. -/
structure SameAround (n : Nat) (calls : List Nat) (w v : World) : Prop where
  now : v.now = w.now
  sessions : v.sessions = w.sessions.set n { w.session n with stateGate := (v.session n).stateGate }
  storage : v.storage = w.storage
  trace : v.trace = w.trace
  hookCalls : v.hookCalls = w.hookCalls
  events : v.events = w.events
  script : v.script = w.script
  sent : v.sent = w.sent
  storageQueue : v.storageQueue = w.storageQueue
  count : v.tasks.length = w.tasks.length
  others : ∀ i : Nat, i ∉ calls → v.tasks[i]? = w.tasks[i]?
  own : ∀ (i : Nat) (task : Task), w.tasks[i]? = some task → ∃ stage, v.tasks[i]? = some { task with stage }

namespace SameAround

theorem length (h : SameAround n calls w v) : v.sessions.length = w.sessions.length := by
  rw [h.sessions, List.length_set]

theorem session (h : SameAround n calls w v) (hn : n < w.sessions.length) :
    v.session n = { w.session n with stateGate := (v.session n).stateGate } := by
  have hsession : v.sessions.getD n {} = { w.session n with stateGate := (v.session n).stateGate } := by
    rw [h.sessions]
    simp [hn]
  exact hsession

theorem refl (n : Nat) (calls : List Nat) (w : World) : SameAround n calls w w where
  now := rfl
  sessions := by
    refine (List.ext_getElem? fun m => ?_).symm
    by_cases hm : n = m
    · subst hm
      by_cases hn : n < w.sessions.length
      · simp [World.session, hn]
      · simp [hn]
    · simp [hm]
  storage := rfl
  trace := rfl
  hookCalls := rfl
  events := rfl
  script := rfl
  sent := rfl
  storageQueue := rfl
  count := rfl
  others _ _ := rfl
  own _ task h := ⟨task.stage, h⟩

theorem sessionOf (h : SameAround n calls w v) (t : Nat) : v.sessionOf t = w.sessionOf t := by
  unfold World.sessionOf
  cases ht : w.tasks[t]? with
  | some task =>
    obtain ⟨stage, hstage⟩ := h.own t task ht
    rw [hstage]
  | none =>
    have hnone : v.tasks[t]? = none := by
      rw [List.getElem?_eq_none_iff, h.count]
      exact List.getElem?_eq_none_iff.mp ht
    rw [hnone]

theorem mono (h : SameAround n late w v) (hlate : ∀ i ∈ late, i ∈ calls) : SameAround n calls w v :=
  { h with others := fun i hi => h.others i fun hmem => hi (hlate i hmem) }

end SameAround

/-! ## Rousing -/

/-- A task is roused from its wait, if `f` tells to which stage it comes and after how many laps. -/
def rouse (f : Task → Option (Stage × Nat)) (w : World) (i : Nat) : World :=
  match (w.tasks[i]?).bind f with
  | some (stage, laps) => (w.setStage i stage).enqueue i laps
  | none => w

end World

namespace Task

/-- The wait of a task ends by itself. -/
def rung? (task : Task) : Option (Stage × Nat) :=
  match task.stage with
  | .waiting e next (some alarm) =>
    some (.woken e next alarm.reply, match e with
      | .watchLatch _ => 3
      | _ => 0)
  | _ => none

/-- A task that waits at a gate is let through. -/
def called? (task : Task) : Option (Stage × Nat) :=
  match task.stage with
  | .waiting (.acquire g) next _ => some (.woken (.acquire g) next (.back ()), 0)
  | _ => none

/-- A task that waits for the storage is served. -/
def served? (task : Task) : Option (Stage × Nat) :=
  match task.stage with
  | .waiting .storageTurn next _ => some (.woken .storageTurn next (.back ()), 0)
  | _ => none

/-- A task that waits for the end of another is told of it. -/
def told? (result : Except Exit Unit) (task : Task) : Option (Stage × Nat) :=
  match task.stage with
  | .waiting (.join other) next _ => some (.woken (.join other) next (.back result), 0)
  | _ => none

/-- A task that watches the latch of a session is told that it was raised. -/
def raised? (session : Nat) (task : Task) : Option (Stage × Nat) :=
  match task.stage with
  | .waiting (.watchLatch d) next _ =>
    if task.session = session then some (.woken (.watchLatch d) next (.back true), 2) else none
  | _ => none

/-- A reader that waits for an item is handed one. -/
def handed? (session stream : Nat) (item : Option RunState) (task : Task) : Option (Stage × Nat) :=
  match task.stage with
  | .waiting (.receive m) next _ =>
    if task.session = session && m = stream then some (.woken (.receive m) next (.back item), 0) else none
  | _ => none

end Task

namespace World

variable {n i t : Nat} {late calls : List Nat} {w v : World}

theorem ring_eq_rouse (w : World) (i : Nat) : w.ring i = w.rouse Task.rung? i := by
  unfold ring rouse Task.rung?
  cases w.tasks[i]? with
  | none => rfl
  | some task =>
    obtain ⟨session, loop, stage, watchers⟩ := task
    cases stage with
    | waiting e next alarm =>
      cases alarm with
      | none => rfl
      | some alarm => cases e <;> rfl
    | _ => rfl

theorem wakeAtGate_eq_rouse (w : World) (i : Nat) : w.wakeAtGate i = w.rouse Task.called? i := by
  unfold wakeAtGate rouse Task.called?
  cases w.tasks[i]? with
  | none => rfl
  | some task =>
    obtain ⟨session, loop, stage, watchers⟩ := task
    cases stage with
    | waiting e next alarm => cases e <;> rfl
    | _ => rfl

theorem wakeAtStorage_eq_rouse (w : World) (i : Nat) : w.wakeAtStorage i = w.rouse Task.served? i := by
  unfold wakeAtStorage rouse Task.served?
  cases w.tasks[i]? with
  | none => rfl
  | some task =>
    obtain ⟨session, loop, stage, watchers⟩ := task
    cases stage with
    | waiting e next alarm => cases e <;> rfl
    | _ => rfl

theorem wakeWatcher_eq_rouse (result : Except Exit Unit) :
    wakeWatcher result = rouse (Task.told? result) := by
  funext w i
  unfold wakeWatcher rouse Task.told?
  cases w.tasks[i]? with
  | none => rfl
  | some task =>
    obtain ⟨session, loop, stage, watchers⟩ := task
    cases stage with
    | waiting e next alarm => cases e <;> rfl
    | _ => rfl

theorem wakeAtLatch_eq_rouse (m : Nat) : wakeAtLatch m = rouse (Task.raised? m) := by
  funext w i
  unfold wakeAtLatch rouse Task.raised?
  cases w.tasks[i]? with
  | none => rfl
  | some task =>
    obtain ⟨session, loop, stage, watchers⟩ := task
    cases stage with
    | waiting e next alarm =>
      cases e with
      | watchLatch d =>
        by_cases hm : session = m
        · simp [hm]
        · simp [hm]
      | _ => rfl
    | _ => rfl

theorem hand_eq_rouse (w : World) (m stream : Nat) (item : Option RunState) (i : Nat) :
    w.hand m stream item i =
      if ((w.tasks[i]?).bind (Task.handed? m stream item)).isSome then
        some (w.rouse (Task.handed? m stream item) i) else none := by
  unfold hand rouse Task.handed?
  cases w.tasks[i]? with
  | none => rfl
  | some task =>
    obtain ⟨session, loop, stage, watchers⟩ := task
    cases stage with
    | waiting e next alarm =>
      cases e with
      | receive k =>
        by_cases hk : session = m ∧ k = stream
        · simp [hk]
        · simp [hk]
      | _ => rfl
    | _ => rfl

theorem bind_eq_none {f : Task → Option (Stage × Nat)}
    (hf : ∀ task s, f task = some s → task.stage.isRousable = true)
    (hi : ∀ task, w.tasks[i]? = some task → task.stage.isRousable = false) :
    (w.tasks[i]?).bind f = none := by
  refine Option.bind_eq_none_iff.mpr fun task htask => ?_
  refine Option.eq_none_iff_forall_ne_some.mpr fun s hs => ?_
  have hnot := hi task htask
  rw [hf task s hs] at hnot
  cases hnot

theorem rouse_eq_self {f : Task → Option (Stage × Nat)}
    (hf : ∀ task s, f task = some s → task.stage.isRousable = true)
    (hi : ∀ task, w.tasks[i]? = some task → task.stage.isRousable = false) : w.rouse f i = w := by
  rw [rouse, bind_eq_none hf hi]

theorem rouse_tasks_ne {f : Task → Option (Stage × Nat)} {j : Nat} (hij : i ≠ j) :
    (w.rouse f i).tasks[j]? = w.tasks[j]? := by
  unfold rouse
  split
  · simp [enqueue, setStage, onTask, hij]
  · rfl

theorem rouse_sessions (f : Task → Option (Stage × Nat)) (w : World) (i : Nat) :
    (w.rouse f i).sessions = w.sessions := by
  unfold rouse
  split <;> rfl

theorem rouseAll_sessions (f : Task → Option (Stage × Nat)) (is : List Nat) (w : World) :
    (is.foldl (rouse f) w).sessions = w.sessions := by
  induction is generalizing w with
  | nil => rfl
  | cons i is ih => exact (ih _).trans (rouse_sessions f w i)

theorem rouse_tasks_of_none {f : Task → Option (Stage × Nat)} {j : Nat}
    (hj : (w.tasks[j]?).bind f = none) : (w.rouse f i).tasks[j]? = w.tasks[j]? := by
  by_cases hij : i = j
  · rw [rouse, hij, hj]
  · exact rouse_tasks_ne hij

theorem rouseAll_tasks_of_none {f : Task → Option (Stage × Nat)} {j : Nat}
    (hj : (w.tasks[j]?).bind f = none) (is : List Nat) :
    (is.foldl (rouse f) w).tasks[j]? = w.tasks[j]? := by
  induction is generalizing w with
  | nil => rfl
  | cons i is ih =>
    have hfirst : (w.rouse f i).tasks[j]? = w.tasks[j]? := rouse_tasks_of_none hj
    refine Eq.trans (ih ?_) hfirst
    rw [hfirst, hj]

theorem rouse_still {f : Task → Option (Stage × Nat)}
    (hf : ∀ task s, f task = some s → task.stage.isRousable = true) {j : Nat} {task : Task}
    (hj : w.tasks[j]? = some task) (hstill : task.stage.isRousable = false) :
    (w.rouse f i).tasks[j]? = some task := by
  by_cases hij : i = j
  · subst hij
    rw [rouse_eq_self hf fun other hother => ?_]
    · exact hj
    · cases hj.symm.trans hother
      exact hstill
  · rw [rouse_tasks_ne hij, hj]

theorem rouse_called_of_runs (hi : w.Runs i) : w.rouse Task.called? i = w := by
  have hnone : (w.tasks[i]?).bind Task.called? = none := by
    refine Option.bind_eq_none_iff.mpr fun task htask => ?_
    unfold Task.called?
    split
    next hstage => exact absurd (by rw [stage?, htask, Option.map_some, hstage]) (hi _ _ _)
    next => rfl
  rw [rouse, hnone]

theorem rousable_of_rung {task : Task} {s : Stage × Nat} (h : task.rung? = some s) :
    task.stage.isRousable = true := by
  unfold Task.rung? at h
  split at h
  next e next alarm hstage =>
    rw [hstage]
    unfold Stage.isRousable
    split
    next heq => cases heq
    next => rfl
    next hnot => exact absurd rfl (hnot _ _ _)
  next => cases h

theorem rousable_of_served {task : Task} {s : Stage × Nat} (h : task.served? = some s) :
    task.stage.isRousable = true := by
  unfold Task.served? at h
  split at h
  next hstage => rw [hstage]; rfl
  next => cases h

theorem rousable_of_told {result : Except Exit Unit} {task : Task} {s : Stage × Nat}
    (h : task.told? result = some s) : task.stage.isRousable = true := by
  unfold Task.told? at h
  split at h
  next hstage => rw [hstage]; rfl
  next => cases h

theorem rousable_of_raised {m : Nat} {task : Task} {s : Stage × Nat} (h : task.raised? m = some s) :
    task.stage.isRousable = true := by
  unfold Task.raised? at h
  split at h
  next hstage => rw [hstage]; rfl
  next => cases h

theorem rousable_of_handed {m stream : Nat} {item : Option RunState} {task : Task} {s : Stage × Nat}
    (h : task.handed? m stream item = some s) : task.stage.isRousable = true := by
  unfold Task.handed? at h
  split at h
  next hstage => rw [hstage]; rfl
  next => cases h

/-! ## Mirrors -/

/-- **A world is as another in which some tasks have yet to begin**: here they wait at the gate of the state,
or were just let through. -/
structure Mirrors (n : Nat) (late : List Nat) (w v : World) : Prop extends SameAround n late w v where
  known : n < w.sessions.length
  waits : ∀ i ∈ late, ∃ next job, (w.stage? i = some (.waiting (.acquire .state) next none) ∨
    w.stage? i = some (.woken (.acquire .state) next (.back ()))) ∧ v.stage? i = some (.fresh job) ∧
      job.Enters (w.session n).isBare next

namespace Mirrors

theorem of_tasks {w' v' : World} (h : Mirrors n late w v) (hsame : SameAround n late w' v')
    (hlength : w'.sessions.length = w.sessions.length)
    (hbare : (w'.session n).isBare = (w.session n).isBare) (hw : w'.tasks = w.tasks)
    (hv : v'.tasks = v.tasks) : Mirrors n late w' v' where
  toSameAround := hsame
  known := hlength ▸ h.known
  waits i hi := by
    unfold stage?
    rw [hw, hv, hbare]
    exact h.waits i hi

theorem enqueue (h : Mirrors n late w v) (i laps laps' : Nat) :
    Mirrors n late (w.enqueue i laps) (v.enqueue i laps') :=
  h.of_tasks { h.toSameAround with } rfl rfl rfl rfl

theorem enqueue_left (h : Mirrors n late w v) (i laps : Nat) : Mirrors n late (w.enqueue i laps) v :=
  h.of_tasks { h.toSameAround with } rfl rfl rfl rfl

theorem setStage {late' : List Nat} (h : Mirrors n late w v) (s : Stage)
    (hlate : ∀ i, i ∈ late' ↔ i ∈ late ∧ i ≠ t) : Mirrors n late' (w.setStage t s) (v.setStage t s) where
  toSameAround :=
    { h.toSameAround with
      count := by simp [World.setStage, onTask, h.count]
      others := fun i hi => by
        simp only [World.setStage, onTask, List.getElem?_modify]
        by_cases hit : t = i
        · subst hit
          cases hw : w.tasks[t]? with
          | none =>
            have hv : v.tasks[t]? = none := by
              rw [List.getElem?_eq_none_iff, h.count]
              exact List.getElem?_eq_none_iff.mp hw
            rw [hv]
          | some task =>
            obtain ⟨stage, hv⟩ := h.own t task hw
            rw [hv]
            simp
        · rw [h.others i fun hmem => hi ((hlate i).mpr ⟨hmem, Ne.symm hit⟩)]
      own := fun i task hi => by
        simp only [World.setStage, onTask, List.getElem?_modify] at hi ⊢
        obtain ⟨before, hbefore, heq⟩ := Option.map_eq_some_iff.mp hi
        obtain ⟨stage, hv⟩ := h.own i before hbefore
        rw [hv, ← heq]
        by_cases hit : t = i
        · exact ⟨s, by simp [hit]⟩
        · exact ⟨stage, by simp [hit]⟩ }
  known := h.known
  waits i hi := by
    obtain ⟨hmem, hit⟩ := (hlate i).mp hi
    rw [stage?_setStage_ne (Ne.symm hit), stage?_setStage_ne (Ne.symm hit)]
    exact h.waits i hmem

theorem stage? (h : Mirrors n late w v) (hi : i ∉ late) : v.stage? i = w.stage? i := by
  unfold World.stage?
  rw [h.others i hi]

theorem not_rousable (h : Mirrors n late w v) (hi : i ∈ late) :
    (∀ task, w.tasks[i]? = some task → task.stage.isRousable = false) ∧
      ∀ task, v.tasks[i]? = some task → task.stage.isRousable = false := by
  obtain ⟨next, job, hw, hv, -⟩ := h.waits i hi
  refine ⟨fun task htask => ?_, fun task htask => ?_⟩
  · unfold World.stage? at hw
    rw [htask, Option.map_some, Option.some_inj, Option.some_inj] at hw
    rcases hw with hw | hw
    · rw [hw]
      rfl
    · rw [hw]
      rfl
  · unfold World.stage? at hv
    rw [htask, Option.map_some, Option.some_inj] at hv
    rw [hv]
    rfl

theorem runs (h : Mirrors n late w v) (hi : w.Runs i) : v.Runs i := by
  intro e next alarm hwait
  by_cases hmem : i ∈ late
  · obtain ⟨_, job, _, hfresh, _⟩ := h.waits i hmem
    rw [hfresh] at hwait
    cases hwait
  · rw [h.stage? hmem] at hwait
    exact hi e next alarm hwait

theorem rouse_of_not_late (h : Mirrors n late w v) (f : Task → Option (Stage × Nat)) (hi : i ∉ late) :
    Mirrors n late (w.rouse f i) (v.rouse f i) := by
  unfold World.rouse
  rw [h.others i hi]
  split
  · refine (h.setStage _ fun j => ⟨fun hj => ⟨hj, ?_⟩, fun hj => hj.1⟩).enqueue i _ _
    rintro rfl
    exact hi hj
  · exact h

/-- **Whoever is roused in one world is roused in the other.** -/
theorem rouse (h : Mirrors n late w v) {f : Task → Option (Stage × Nat)}
    (hf : ∀ task s, f task = some s → task.stage.isRousable = true) (i : Nat) :
    Mirrors n late (w.rouse f i) (v.rouse f i) := by
  by_cases hi : i ∈ late
  · obtain ⟨hw, hv⟩ := h.not_rousable hi
    rw [rouse_eq_self hf hw, rouse_eq_self hf hv]
    exact h
  · exact h.rouse_of_not_late f hi

theorem rouseAll (h : Mirrors n late w v) {f : Task → Option (Stage × Nat)}
    (hf : ∀ task s, f task = some s → task.stage.isRousable = true) (is : List Nat) :
    Mirrors n late (is.foldl (World.rouse f) w) (is.foldl (World.rouse f) v) := by
  induction is generalizing w v with
  | nil => exact h
  | cons i is ih => exact ih (h.rouse hf i)

theorem rouseEverybody (h : Mirrors n late w v) {f : Task → Option (Stage × Nat)}
    (hf : ∀ task s, f task = some s → task.stage.isRousable = true) :
    Mirrors n late (w.taskNumbers.foldl (World.rouse f) w) (v.taskNumbers.foldl (World.rouse f) v) := by
  rw [taskNumbers, taskNumbers, h.count]
  exact h.rouseAll hf _

/-! ## Sessions -/

theorem session (h : Mirrors n late w v) :
    v.session n = { w.session n with stateGate := (v.session n).stateGate } :=
  h.toSameAround.session h.known

theorem known' (h : Mirrors n late w v) : n < v.sessions.length := h.length ▸ h.known

theorem site (h : Mirrors n late w v) : v.site n = (w.site n).withGate (v.session n).stateGate := by
  unfold World.site Site.withGate
  rw [h.storage, h.trace, h.hookCalls, h.events, h.now, ← h.session]

theorem onSession {f f' : Session → Session} (h : Mirrors n late w v)
    (hf : f' (v.session n) = { f (w.session n) with stateGate := (f' (v.session n)).stateGate })
    (hbare : (f (w.session n)).isBare = (w.session n).isBare) :
    Mirrors n late (w.onSession n f) (v.onSession n f') := by
  refine h.of_tasks { h.toSameAround with sessions := ?_ } (by simp [World.onSession]) ?_ rfl rfl
  · rw [session_onSession h.known, session_onSession h.known', ← hf]
    simp only [World.onSession, h.sessions, List.set_set]
  · rw [session_onSession h.known, hbare]

theorem onSession_of_bounds {f : Session → Session} (h : Mirrors n late w v)
    (hf : ∀ s b, f (s.withBounds b) = (f s).withBounds b) :
    Mirrors n late (w.onSession n f) (v.onSession n f) := by
  have hbounds : (f (w.session n)).bounds = (w.session n).bounds := Session.bounds_of_withBounds hf _
  have hsame : f (v.session n) = { f (w.session n) with stateGate := (v.session n).stateGate } := by
    calc f (v.session n)
        = f ((w.session n).withBounds ((v.session n).stateGate, (w.session n).bounds.2)) :=
          congrArg f h.session
      _ = (f (w.session n)).withBounds ((v.session n).stateGate, (f (w.session n)).bounds.2) := by
          rw [hf, hbounds]
  refine h.onSession ?_ (congrArg (·.2.2) hbounds)
  rw [hsame]

theorem regate (h : Mirrors n late w v) (g g' : Session → Gate) :
    Mirrors n late (w.onSession n fun s => s.setGate (g s) .state)
      (v.onSession n fun s => s.setGate (g' s) .state) := by
  refine h.onSession ?_ rfl
  have hsession := h.session
  generalize v.session n = s at hsession ⊢
  rw [hsession]
  rfl

theorem regate_left (h : Mirrors n late w v) (g : Gate) :
    Mirrors n late (w.onSession n fun s => s.setGate g .state) v := by
  refine h.of_tasks { h.toSameAround with sessions := ?_ } (by simp [World.onSession]) ?_ rfl rfl
  · rw [session_onSession h.known]
    refine h.sessions.trans ?_
    simp only [World.onSession, List.set_set]
    rfl
  · rw [session_onSession h.known]
    rfl

theorem queueUp (h : Mirrors n late w v) {job : Job} {next : Waited Unit → Job} (ht : t ∉ late)
    (hw : w.stage? t = some (.fresh job)) (henters : job.Enters (w.session n).isBare next) :
    Mirrors n (late ++ [t]) (w.setStage t (.waiting (.acquire .state) next none)) v where
  toSameAround :=
    { h.toSameAround with
      count := by simp [World.setStage, onTask, h.count]
      others := fun i hi => by
        have hne : t ≠ i := by
          rintro rfl
          exact hi (List.mem_append_right _ (List.mem_singleton_self t))
        rw [h.others i fun hmem => hi (List.mem_append_left _ hmem)]
        simp [World.setStage, onTask, hne]
      own := fun i task hi => by
        obtain ⟨before, hbefore, heq⟩ := onTask_before hi
        obtain ⟨stage, hstage⟩ := h.own i before hbefore
        refine ⟨stage, hstage.trans ?_⟩
        rw [heq]
        split <;> rfl }
  known := h.known
  waits i hi := by
    by_cases hit : t = i
    · subst hit
      obtain ⟨task, htask, _⟩ := Option.map_eq_some_iff.mp hw
      refine ⟨next, job, .inl (stage?_setStage_self htask), ?_, henters⟩
      rw [h.stage? ht, hw]
    · rcases List.mem_append.mp hi with hmem | hmem
      · rw [stage?_setStage_ne hit]
        exact h.waits i hmem
      · exact absurd (List.mem_singleton.mp hmem).symm hit

theorem setFetchGate (h : Mirrors n late w v) (g : Gate) :
    Mirrors n late (w.onSession n fun s => s.setGate g .fetch)
      (v.onSession n fun s => s.setGate g .fetch) := by
  refine h.onSession ?_ rfl
  have hsession := h.session
  generalize v.session n = s at hsession ⊢
  rw [hsession]
  rfl

theorem setSite (h : Mirrors n late w v) {x : Site} (g : Gate)
    (hbare : x.session.isBare = (w.session n).isBare) :
    Mirrors n late (w.setSite n x) (v.setSite n (x.withGate g)) := by
  have hw : (w.setSite n x).session n = x.session := by simp [World.setSite, World.session, h.known]
  have hv : (v.setSite n (x.withGate g)).session n = (x.withGate g).session := by
    simp [World.setSite, World.session, h.known']
  refine h.of_tasks
    { h.toSameAround with
      sessions := ?_
      storage := rfl
      trace := rfl
      hookCalls := rfl
      events := rfl } (by simp [World.setSite]) ?_ rfl rfl
  · rw [hw, hv]
    simp only [World.setSite, h.sessions, List.set_set]
    rfl
  · rw [hw, hbare]

/-! ## Latches and readers -/

theorem raiseLatch (h : Mirrors n late w v) : Mirrors n late (w.raiseLatch n) (v.raiseLatch n) := by
  unfold World.raiseLatch
  rw [wakeAtLatch_eq_rouse]
  exact (h.onSession_of_bounds fun _ _ => rfl).rouseEverybody fun _ _ => rousable_of_raised

theorem hand (h : Mirrors n late w v) (m stream : Nat) (item : Option RunState) (is : List Nat) :
    (is.findSome? (w.hand m stream item) = none ∧ is.findSome? (v.hand m stream item) = none) ∨
      ∃ w' v', is.findSome? (w.hand m stream item) = some w' ∧
        is.findSome? (v.hand m stream item) = some v' ∧ Mirrors n late w' v' := by
  induction is with
  | nil => exact .inl ⟨rfl, rfl⟩
  | cons i is ih =>
    have hsame : (v.tasks[i]?).bind (Task.handed? m stream item) =
        (w.tasks[i]?).bind (Task.handed? m stream item) := by
      by_cases hi : i ∈ late
      · obtain ⟨hw, hv⟩ := h.not_rousable hi
        rw [bind_eq_none (fun _ _ => rousable_of_handed) hw, bind_eq_none (fun _ _ => rousable_of_handed) hv]
      · rw [h.others i hi]
    rw [List.findSome?_cons, List.findSome?_cons, hand_eq_rouse, hand_eq_rouse, hsame]
    by_cases hthere : ((w.tasks[i]?).bind (Task.handed? m stream item)).isSome = true
    · rw [if_pos hthere, if_pos hthere]
      exact .inr ⟨_, _, rfl, rfl, h.rouse (fun _ _ => rousable_of_handed) i⟩
    · rw [if_neg hthere, if_neg hthere]
      exact ih

theorem offer (h : Mirrors n late w v) (item : Option RunState) (stream : Nat) :
    Mirrors n late (World.offer n item w stream) (World.offer n item v stream) := by
  unfold World.offer taskNumbers
  rw [h.count]
  rcases h.hand n stream item (List.range w.tasks.length) with ⟨hw, hv⟩ | ⟨w', v', hw, hv, h'⟩
  · rw [hw, hv]
    refine h.onSession_of_bounds (f := fun s =>
      { s with
        streams := s.streams.map fun r =>
          if r.number = stream then { r with mailbox := r.mailbox ++ [item] } else r }) fun _ _ => rfl
  · rw [hw, hv]
    exact h'

theorem publish (h : Mirrors n late w v) (item : Option RunState) :
    Mirrors n late (w.publish n item) (v.publish n item) := by
  have hstreams : (v.session n).streams = (w.session n).streams := by rw [h.session]
  unfold World.publish
  rw [hstreams]
  generalize (w.session n).streams.map Stream.number = streams
  clear hstreams
  induction streams generalizing w v with
  | nil => exact h
  | cons stream streams ih => exact ih (h.offer item stream)

/-! ## The end of a task -/

theorem finish {late' : List Nat} (h : Mirrors n late w v) {task : Task} (ht : w.tasks[t]? = some task)
    (hlate : ∀ i, i ∈ late' ↔ i ∈ late ∧ i ≠ t) (r : Except Exit Result) :
    Mirrors n late' (w.finish t r) (v.finish t r) := by
  obtain ⟨stage, hv⟩ := h.own t task ht
  unfold World.finish
  rw [ht, hv, wakeWatcher_eq_rouse]
  exact (h.setStage _ hlate).rouseAll (fun _ _ => rousable_of_told) _

end Mirrors

end World

end Cutover
