import Cutover.Proofs.Control.Looping
import Cutover.Proofs.World.Waking

/-!
# The poll loops of a world

Each task has a role, and may go on in it after what others may do meanwhile. Whoever waits for a task is
told only when that has ended.

* `World.looped`: the poll loops of a session;
* `Looped.Stands`: a task that may go on in its role;
* `Looped.Attended`: **every task may go on**, with one lemma for each change of the tasks;
* `Looped.Unawaited`: no stop of a session waits for a loop to end;
* `Looped.looped_setSite`, `Looped.looped_setStage`, `Looped.looped_ended`, `Looped.looped_spawn_loop`:
  what the loops become.
-/

namespace Cutover

open Looped (contract Closes)

namespace Stage

/-- The task can go on. -/
def works : Stage → Bool
  | .fresh _ => true
  | .woken .. => true
  | _ => false

/-- The task waits for the end of another, or was told of it and has yet to go on. -/
def awaitsEnd : Stage → Bool
  | .waiting (.join _) _ _ => true
  | .woken (.join _) _ _ => true
  | _ => false

theorem verdict?_of_works {stage : Stage} (h : stage.works = true) : stage.verdict? = none := by
  cases stage with
  | ended => cases h
  | _ => rfl

variable {tells : Nat → Except Exit Result → Prop} {breaks : Prop} {a b : Stage}

theorem Turned.works (h : Relation.ReflTransGen (Turned tells breaks) a b) (ha : a.works = true) :
    b.works = true := by
  induction h with
  | refl => exact ha
  | tail _ hstep ih => cases hstep <;> rfl

theorem Turned.awaitsEnd (h : Relation.ReflTransGen (Turned tells breaks) a b) (ha : a.awaitsEnd = false) :
    b.awaitsEnd = false :=
  carries (P := fun stage => stage.awaitsEnd = false) h (fun _ _ => rfl) (fun e _ _ _ he => by cases e <;> exact he)
    (fun e _ _ _ he => by cases e <;> exact he) ha

end Stage

namespace World

variable {n t : Nat} {w w' : World}

/-- For which session a task works, and what it does round after round. -/
def badge? (w : World) (t : Nat) : Option (Nat × Option Background) :=
  (w.tasks[t]?).map fun task => (task.session, task.loop)

/-- A poll loop that was started for a session. -/
def Loops (w : World) (n t : Nat) : Prop := w.badge? t = some (n, some .pollLoop)

/-- **A poll loop that is alive.** -/
def Polling (w : World) (n t : Nat) : Prop := w.Loops n t ∧ w.verdict? t = none

/-- The poll loops of a session. -/
def looped (w : World) (n : Nat) : Looped where
  known := (w.session n).pollTask
  applying := (w.session n).applying
  loops := w.Loops n
  alive := w.Polling n

theorem badge?_eq {task : Task} (ht : w.tasks[t]? = some task) :
    w.badge? t = some (task.session, task.loop) := by
  rw [badge?, ht, Option.map_some]

theorem verdict?_eq {task : Task} (ht : w.tasks[t]? = some task) :
    w.verdict? t = task.stage.verdict? := by
  rw [verdict?, stage?, ht]
  rfl

theorem looped_congr (hview : (w'.session n).pollView = (w.session n).pollView)
    (hbadge : w'.badge? = w.badge?) (hverdict : w'.verdict? = w.verdict?) :
    w'.looped n = w.looped n := by
  have hloops : w'.Loops n = w.Loops n := by
    funext t
    rw [Loops, hbadge, Loops]
  have halive : w'.Polling n = w.Polling n := by
    funext t
    rw [Polling, hloops, hverdict, Polling]
  have hknown : (w'.session n).pollTask = (w.session n).pollTask := congrArg Prod.fst hview
  have happlying : (w'.session n).applying = (w.session n).applying := congrArg Prod.snd hview
  rw [looped, hknown, happlying, hloops, halive, looped]

section
variable {tells : Nat → Except Exit Result → Prop} {breaks : Prop}

theorem Stirred.badge? (h : Stirred tells breaks w w') : w'.badge? = w.badge? := by
  funext t
  cases ht : w.tasks[t]? with
  | none =>
    have ht' : w'.tasks[t]? = none := by
      rw [List.getElem?_eq_none_iff, h.count]
      exact List.getElem?_eq_none_iff.mp ht
    rw [World.badge?, World.badge?, ht, ht']
  | some task =>
    obtain ⟨stage, ht', -⟩ := h.tasks t task ht
    rw [badge?_eq ht, badge?_eq ht']

theorem Stirred.pollView (h : Stirred tells breaks w w') (m : Nat) :
    (w'.session m).pollView = (w.session m).pollView := by
  obtain ⟨_, _, _, _, hm⟩ := h.sessions m
  rw [hm]
  rfl

theorem Stirred.pollTask (h : Stirred tells breaks w w') (m : Nat) :
    (w'.session m).pollTask = (w.session m).pollTask := congrArg Prod.fst (h.pollView m)

theorem Stirred.looped (h : Stirred tells breaks w w') (m : Nat) : w'.looped m = w.looped m :=
  looped_congr (h.pollView m) h.badge? h.verdict?

end

end World

/-- The role of a task: work in the background spares the loops, and a call has the role of its
action. -/
def Task.role (roles : Nat → Role) (i : Nat) (task : Task) : Role :=
  if task.loop.isSome then .spares else roles i

namespace Looped

variable {roles : Nat → Role} {began : Nat → Nat} {ρ : Role} {since : Nat} {s s' : Looped}
  {ended ended' : Nat → Prop} {stage stage' : Stage} {w w' : World} {n t i : Nat} {task : Task}

/-! ## Tasks that may go on -/

/-- The rest of the work of a task does what it may. -/
abbrev Goes (ρ : Role) (since : Nat) (job : Job) (s : Looped) : Prop :=
  job.Meets (contract ρ since) (Closes ρ since) s

/-- Work may go on after a wait, on what it relies. -/
def GoesOn (ρ : Role) (since : Nat) (s : Looped) (e : Effect) (next : e.Reply → Job) : Prop :=
  ∀ (r : e.Reply) (s' : Looped), s.Resumes since s' →
    (∀ other, e = .join other → ρ.Relies s.known s'.known ∧ ¬s'.alive other) → Goes ρ since (next r) s'

/-- **A task that may go on in its role**, where it is known which task polls and which tasks have
ended. Who waits for another task is not told before that has ended. -/
inductive Stands (ρ : Role) (since : Nat) (s : Looped) (ended : Nat → Prop) : Stage → Prop
  | fresh {job : Job} (goes : ∀ (since : Nat) (s : Looped), s.Sound → Goes ρ since job s) :
    Stands ρ since s ended (.fresh job)
  | waiting {e : Effect} {next : e.Reply → Job} {alarm : Option (Alarm e.Reply)}
    (silent : ∀ other, e = .join other → alarm.isNone = true) (goes : GoesOn ρ since s e next) :
    Stands ρ since s ended (.waiting e next alarm)
  | woken {e : Effect} {next : e.Reply → Job} {r : e.Reply}
    (joined : ∀ other, e = .join other → ended other) (goes : GoesOn ρ since s e next) :
    Stands ρ since s ended (.woken e next r)
  | ended {r : Except Exit Result} : Stands ρ since s ended (.ended r)

theorem GoesOn.move {e : Effect} {next : e.Reply → Job} (h : GoesOn ρ since s e next)
    (hlater : ∀ i, s'.alive i → s.alive i ∨ since ≤ i)
    (hrelies : ∀ other, e = .join other → ρ.Relies s.known s'.known) : GoesOn ρ since s' e next := by
  refine fun r s'' hs hjoin => h r s'' ⟨hs.sound, fun i hi => (hs.later i hi).elim (hlater i) .inr⟩ ?_
  exact fun other heq => ⟨(hrelies other heq).trans (hjoin other heq).1, (hjoin other heq).2⟩

theorem Stands.move (h : Stands ρ since s ended stage) (hlater : ∀ i, s'.alive i → s.alive i ∨ since ≤ i)
    (hrelies : stage.awaitsEnd = true → ρ.Relies s.known s'.known) (hended : ∀ i, ended i → ended' i) :
    Stands ρ since s' ended' stage := by
  cases h with
  | fresh goes => exact .fresh goes
  | waiting silent goes =>
    refine .waiting silent (goes.move hlater fun other heq => hrelies ?_)
    subst heq
    rfl
  | woken joined goes =>
    refine .woken (fun other h => hended other (joined other h)) (goes.move hlater fun other heq => hrelies ?_)
    subst heq
    rfl
  | ended => exact .ended

theorem Stands.turned {tells : Nat → Except Exit Result → Prop} {breaks : Prop}
    (htells : ∀ other r, tells other r → ended other) (h : Stands ρ since s ended stage)
    (hturned : Relation.ReflTransGen (Stage.Turned tells breaks) stage stage') :
    Stands ρ since s ended stage' := by
  induction hturned with
  | refl => exact h
  | tail _ hstep ih =>
    cases hstep with
    | cancelled => exact .fresh fun _ _ hs => closes_error _ hs
    | again =>
      cases ih with
      | woken joined goes => exact .woken joined goes
    | broken may breaksOff apart =>
      cases ih with
      | waiting silent goes => exact .woken (fun other h => absurd h (apart other)) goes
    | rings =>
      cases ih with
      | waiting silent goes => exact .woken (fun other h => by cases silent other h) goes
    | told told =>
      cases ih with
      | waiting silent goes =>
        refine .woken (fun other h => ?_) goes
        cases h
        exact htells _ _ told
    | enters =>
      cases ih with
      | waiting silent goes => exact .woken (fun other h => by cases h) goes
    | served =>
      cases ih with
      | waiting silent goes => exact .woken (fun other h => by cases h) goes
    | raised =>
      cases ih with
      | waiting silent goes => exact .woken (fun other h => by cases h) goes
    | handed =>
      cases ih with
      | waiting silent goes => exact .woken (fun other h => by cases h) goes

/-- **Every task may go on in its role**, and whoever stands in the list of a task that has not ended
waits for it. Of each task it is noted from which number on loops were started after it had begun. -/
structure Attended (roles : Nat → Role) (began : Nat → Nat) (w : World) : Prop where
  known : ∀ (i : Nat) (task : Task), w.tasks[i]? = some task → task.session < w.sessions.length
  early : ∀ i, began i ≤ w.tasks.length
  stands : ∀ (i : Nat) (task : Task), w.tasks[i]? = some task →
    Stands (task.role roles i) (began i) (w.looped task.session) (fun j => w.verdict? j ≠ none) task.stage
  watched : ∀ (i : Nat) (task : Task), w.tasks[i]? = some task → task.stage.verdict? = none →
    ∀ j ∈ task.watchers, ∃ next alarm, w.stage? j = some (.waiting (.join i) next alarm)

/-- **To wake and to cancel tasks does no harm.** -/
theorem Attended.stirred {tells : Nat → Except Exit Result → Prop} {breaks : Prop} (hw : Attended roles began w)
    (htells : ∀ other r, tells other r → w.verdict? other ≠ none) (h : World.Stirred tells breaks w w') :
    Attended roles began w' where
  known i task' hi' := by
    obtain ⟨task, stage, hi, rfl, -⟩ := h.before hi'
    rw [h.length]
    exact hw.known i task hi
  early i := h.count.symm ▸ hw.early i
  stands i task' hi' := by
    obtain ⟨task, stage, hi, rfl, hturned⟩ := h.before hi'
    rw [h.verdict?, h.looped]
    exact (hw.stands i task hi).turned htells hturned
  watched i task' hi' hnone j hj := by
    obtain ⟨task, stage, hi, rfl, hturned⟩ := h.before hi'
    have hlive : task.stage.verdict? = none := (Stage.Turned.verdict? hturned).symm.trans hnone
    obtain ⟨next, alarm, hwait⟩ := hw.watched i task hi hlive j hj
    obtain ⟨waiter, hwaiter, hstage⟩ := Option.map_eq_some_iff.mp hwait
    obtain ⟨stage', hj', hturned'⟩ := h.tasks j waiter hwaiter
    refine ⟨next, alarm, ?_⟩
    rw [World.stage?, hj', Option.map_some]
    -- Nothing ends this wait but the end of the other task.
    have hstands := hw.stands j waiter hwaiter
    rw [hstage] at hturned' hstands
    have hsilent : alarm = none := by
      cases hstands with
      | waiting silent _ => exact Option.isNone_iff_eq_none.mp (silent i rfl)
    subst hsilent
    rcases Relation.ReflTransGen.cases_head hturned' with rfl | ⟨mid, hstep, -⟩
    · rfl
    · cases hstep with
      | broken may breaksOff apart => exact absurd rfl (apart i)
      | told told => exact absurd ((World.verdict?_eq hi).trans hlive) (htells i _ told)

/-! ## The task that works -/

theorem badge?_setStage : (w.setStage t stage).badge? = w.badge? := by
  funext j
  by_cases hij : t = j
  · subst hij
    cases ht : w.tasks[t]? <;> simp [World.badge?, World.setStage, World.onTask, ht]
  · simp [World.badge?, World.setStage, World.onTask, hij]

/-- A loop that is alive once a task has come to another stage was alive before. -/
theorem alive_setStage (ht : w.tasks[t]? = some task) (hworks : task.stage.works = true) {m : Nat}
    (h : (w.setStage t stage).Polling m i) : w.Polling m i := by
  obtain ⟨hloops, hlive⟩ := h
  rw [World.Loops, badge?_setStage] at hloops
  refine ⟨hloops, ?_⟩
  by_cases hti : t = i
  · subst hti
    exact (World.verdict?_eq ht).trans (Stage.verdict?_of_works hworks)
  · rwa [World.verdict?, World.stage?_setStage_ne hti] at hlive

/-- **A task that goes on** comes to a stage from which it can go on again. Nobody waits for its wait. -/
theorem Attended.staged (hw : Attended roles began w) (ht : w.tasks[t]? = some task)
    (hworks : task.stage.works = true)
    (hstands : Stands (task.role roles t) (began t) (w.looped task.session) (fun j => w.verdict? j ≠ none)
      stage) : Attended roles began (w.setStage t stage) := by
  -- What has ended has ended still.
  have hended : ∀ j, w.verdict? j ≠ none → (w.setStage t stage).verdict? j ≠ none := by
    intro j hj
    have hne : t ≠ j := by
      rintro rfl
      exact hj ((World.verdict?_eq ht).trans (Stage.verdict?_of_works hworks))
    rwa [World.verdict?, World.stage?_setStage_ne hne]
  refine ⟨fun i other hi => ?_, fun i => ?_, fun i other hi => ?_, fun i other hi hlive j hj => ?_⟩
  · rcases World.setStage_cases hi with ⟨-, before, hbefore, rfl⟩ | ⟨-, hbefore⟩
    · exact hw.known i before hbefore
    · exact hw.known i other hbefore
  · rw [World.setStage, World.onTask, List.length_modify]
    exact hw.early i
  · rcases World.setStage_cases hi with ⟨rfl, before, hbefore, rfl⟩ | ⟨-, hbefore⟩
    · cases ht.symm.trans hbefore
      exact hstands.move (fun _ hi => .inl (alive_setStage ht hworks hi)) (fun _ => Role.relies_refl _ _) hended
    · exact (hw.stands i other hbefore).move (fun _ hi => .inl (alive_setStage ht hworks hi))
        (fun _ => Role.relies_refl _ _) hended
  · have hwatched : ∃ next alarm, w.stage? j = some (.waiting (.join i) next alarm) := by
      rcases World.setStage_cases hi with ⟨rfl, before, hbefore, rfl⟩ | ⟨-, hbefore⟩
      · cases ht.symm.trans hbefore
        exact hw.watched i _ hbefore (Stage.verdict?_of_works hworks) j hj
      · exact hw.watched i other hbefore hlive j hj
    obtain ⟨next, alarm, hwait⟩ := hwatched
    refine ⟨next, alarm, ?_⟩
    have hne : t ≠ j := by
      rintro rfl
      rw [World.stage?, ht, Option.map_some, Option.some_inj] at hwait
      rw [hwait] at hworks
      cases hworks
    rwa [World.stage?_setStage_ne hne]

/-- A task stands in the list of another. -/
def listed (w : World) (other j : Nat) : World :=
  w.onTask other fun task => { task with watchers := task.watchers ++ [j] }

theorem stage?_listed (w : World) (other j : Nat) : (listed w other j).stage? = w.stage? := by
  funext k
  by_cases hk : other = k
  · subst hk
    cases ht : w.tasks[other]? <;> simp [listed, World.stage?, World.onTask, ht]
  · simp [listed, World.stage?, World.onTask, hk]

theorem looped_listed (w : World) (other j m : Nat) : (listed w other j).looped m = w.looped m := by
  refine World.looped_congr rfl ?_ ?_
  · funext k
    by_cases hk : other = k
    · subst hk
      cases ht : w.tasks[other]? <;> simp [listed, World.badge?, World.onTask, ht]
    · simp [listed, World.badge?, World.onTask, hk]
  · funext k
    rw [World.verdict?, stage?_listed]
    rfl

/-- A task may come to a stage before or after another stands in the list of a third. -/
theorem setStage_listed (w : World) (other j : Nat) (stage : Stage) :
    (listed w other j).setStage t stage = listed (w.setStage t stage) other j := by
  have htasks : ((listed w other j).setStage t stage).tasks =
      (listed (w.setStage t stage) other j).tasks := by
    refine List.ext_getElem? fun k => ?_
    simp only [listed, World.setStage, World.onTask, List.getElem?_modify]
    cases w.tasks[k]? with
    | none => rfl
    | some task => by_cases htk : t = k <;> by_cases hok : other = k <;> simp [htk, hok]
  rw [World.setStage, World.onTask] at htasks ⊢
  rw [listed, World.onTask] at htasks ⊢
  exact congrArg (fun tasks => { w with tasks }) htasks

theorem Attended.watch (hw : Attended roles began w) {other j : Nat} {next : Waited (Except Exit Unit) → Job}
    {alarm : Option (Alarm (Waited (Except Exit Unit)))}
    (hj : w.stage? j = some (.waiting (.join other) next alarm)) : Attended roles began (listed w other j) := by
  refine ⟨fun i task hi => ?_, fun i => ?_, fun i task hi => ?_, fun i task hi hlive k hk => ?_⟩
  all_goals try obtain ⟨before, hbefore, rfl⟩ := World.onTask_before hi
  · have hknown := hw.known i before hbefore
    split <;> exact hknown
  · rw [listed, World.onTask, List.length_modify]
    exact hw.early i
  · have hended : (listed w other j).verdict? = w.verdict? := by
      unfold World.verdict?
      rw [stage?_listed]
    have hstands := hw.stands i before hbefore
    rw [hended, looped_listed]
    split <;> exact hstands
  · have hlive' : before.stage.verdict? = none := by
      split at hlive <;> exact hlive
    rw [stage?_listed]
    by_cases hio : other = i
    · rw [if_pos hio] at hk
      rcases List.mem_append.mp hk with hk | hk
      · exact hw.watched i before hbefore hlive' k hk
      · rw [List.mem_singleton.mp hk, ← hio]
        exact ⟨next, alarm, hj⟩
    · rw [if_neg hio] at hk
      exact hw.watched i before hbefore hlive' k hk

/-! ## New tasks -/

section
variable {job : Job} {loop : Option Background}

theorem badge?_spawn (i : Nat) : (w.spawn n job loop).2.badge? i =
    if i = w.tasks.length then some (n, loop) else w.badge? i := by
  by_cases hi : i = w.tasks.length
  · rw [if_pos hi, hi, World.badge?_eq World.spawn_new]
  · rw [if_neg hi, World.badge?, World.badge?]
    rcases Nat.lt_or_gt_of_ne hi with hlt | hgt
    · rw [World.spawn_other hlt]
    · rw [List.getElem?_eq_none (by simp [World.spawn, World.enqueue]; omega),
        List.getElem?_eq_none (by omega)]

theorem verdict?_spawn (i : Nat) : (w.spawn n job loop).2.verdict? i = w.verdict? i := by
  rcases Nat.lt_trichotomy i w.tasks.length with hlt | rfl | hgt
  · rw [World.verdict?, World.stage?, World.spawn_other hlt]
    rfl
  · rw [World.verdict?_eq World.spawn_new, World.verdict?, World.stage?, List.getElem?_eq_none (Nat.le_refl _)]
    rfl
  · rw [World.verdict?, World.verdict?, World.stage?, World.stage?,
      List.getElem?_eq_none (by simp [World.spawn, World.enqueue]; omega),
      List.getElem?_eq_none (by omega)]

theorem loops_spawn (m i : Nat) : (w.spawn n job loop).2.Loops m i ↔
    (i = w.tasks.length ∧ m = n ∧ loop = some .pollLoop) ∨ w.Loops m i := by
  rw [World.Loops, badge?_spawn]
  by_cases hi : i = w.tasks.length
  · have hno : ¬w.Loops m i := by
      rw [World.Loops, World.badge?, List.getElem?_eq_none (by omega)]
      exact fun h => by cases h
    rw [if_pos hi]
    constructor
    · intro h
      cases h
      exact .inl ⟨hi, rfl, rfl⟩
    · rintro (⟨-, rfl, rfl⟩ | h)
      · rfl
      · exact absurd h hno
  · rw [if_neg hi]
    exact ⟨.inr, fun h => h.resolve_left fun h => hi h.1⟩

theorem looped_spawn_other {m : Nat} (h : ¬(m = n ∧ loop = some .pollLoop)) :
    (w.spawn n job loop).2.looped m = w.looped m := by
  have hloops : (w.spawn n job loop).2.Loops m = w.Loops m := by
    funext i
    exact propext ((loops_spawn m i).trans ⟨fun h' => h'.resolve_left fun h' => h h'.2, .inr⟩)
  have halive : (w.spawn n job loop).2.Polling m = w.Polling m := by
    funext i
    rw [World.Polling, hloops, verdict?_spawn, World.Polling]
  rw [World.looped, hloops, halive]
  rfl

theorem looped_spawn_loop : (w.spawn n job (some .pollLoop)).2.looped n =
    (w.looped n).started w.tasks.length := by
  have hloops : (w.spawn n job (some .pollLoop)).2.Loops n =
      ((w.looped n).started w.tasks.length).loops := by
    funext i
    refine propext ((loops_spawn n i).trans (or_congr_left ?_))
    exact ⟨fun h => h.1, fun h => ⟨h, rfl, rfl⟩⟩
  have hnew : w.verdict? w.tasks.length = none := by
    rw [World.verdict?, World.stage?, List.getElem?_eq_none (Nat.le_refl _)]
    rfl
  have halive : (w.spawn n job (some .pollLoop)).2.Polling n =
      ((w.looped n).started w.tasks.length).alive := by
    funext i
    rw [World.Polling, hloops, verdict?_spawn]
    refine propext ⟨fun h => h.1.imp_right fun hloop => ⟨hloop, h.2⟩, ?_⟩
    rintro (rfl | h)
    · exact ⟨.inl rfl, hnew⟩
    · exact ⟨.inr h.1, h.2⟩
  rw [World.looped, hloops, halive]
  rfl

theorem polling_spawn {m : Nat} (hi : (w.spawn n job loop).2.Polling m i) :
    w.Polling m i ∨ i = w.tasks.length := by
  obtain ⟨hloops, hlive⟩ := hi
  rw [verdict?_spawn] at hlive
  rcases (loops_spawn m i).mp hloops with ⟨rfl, -⟩ | hloops
  · exact .inr rfl
  · exact .inl ⟨hloops, hlive⟩

theorem Attended.spawn (hw : Attended roles began w) (hn : n < w.sessions.length)
    (hgoes : ∀ (since : Nat) (s : Looped), s.Sound →
      Goes (if loop.isSome then .spares else roles w.tasks.length) since job s) :
    Attended roles began (w.spawn n job loop).2 := by
  refine ⟨fun i task hi => ?_, fun i => ?_, fun i task hi => ?_, fun i task hi hlive j hj => ?_⟩
  all_goals try rcases World.spawn_before hi with hi | ⟨rfl, rfl⟩
  · exact hw.known i task hi
  · exact hn
  · have hearly := hw.early i
    simp only [World.spawn, World.enqueue, List.length_append, List.length_cons, List.length_nil]
    omega
  · refine (hw.stands i task hi).move (fun k hk => ?_) (fun _ => Role.relies_refl _ _) fun k hk => ?_
    · refine (polling_spawn hk).imp_right ?_
      rintro rfl
      exact hw.early i
    · rwa [verdict?_spawn]
  · exact .fresh hgoes
  · obtain ⟨next, alarm, hwait⟩ := hw.watched i task hi hlive j hj
    have hlt : j < w.tasks.length := by
      obtain ⟨waiter, hwaiter, -⟩ := Option.map_eq_some_iff.mp hwait
      exact (List.getElem?_eq_some_iff.mp hwaiter).1
    exact ⟨next, alarm, by rwa [World.stage?, World.spawn_other hlt]⟩
  · cases hj

end

/-! ## The loop that is known -/

/-- **No stop of a session waits for a loop to end**, nor has one just been told of that. -/
def Unawaited (roles : Nat → Role) (n : Nat) (w : World) : Prop :=
  ∀ (i : Nat) (task : Task), w.tasks[i]? = some task → task.session = n → task.role roles i = .stops →
    task.stage.awaitsEnd = false

theorem Sound.may (hs : s.Sound) {known : Option Nat} (h : Role.starts.May s.alive s.known known) :
    known = s.known := by
  rcases h with hsame | ⟨i, rfl, hi⟩
  · exact hsame
  · exact (hs.single i hi).symm

theorem looped_setSite (x : Site) (hn : n < w.sessions.length) :
    (w.setSite n x).looped n = (w.looped n).seen x.session := by
  have hnew : (w.setSite n x).session n = x.session := congrArg Site.session (World.site_setSite hn x)
  rw [World.looped, hnew]
  rfl

theorem looped_setSite_ne {m : Nat} (hm : m ≠ n) (x : Site) : (w.setSite n x).looped m = w.looped m := by
  rw [World.looped, World.session_setSite_ne hm]
  rfl

/-- **Who changes a session** as the role allows does no harm to those that wait for a loop to end. -/
theorem Attended.setSite (hw : Attended roles began w) (x : Site) (hn : n < w.sessions.length)
    (hmay : ρ.May (w.Polling n) (w.session n).pollTask x.session.pollTask)
    (hclear : ρ = .starts → (w.looped n).Sound ∨ Unawaited roles n w) :
    Attended roles began (w.setSite n x) := by
  have hverdict : (w.setSite n x).verdict? = w.verdict? := rfl
  refine ⟨fun i task hi => ?_, hw.early, fun i task hi => ?_, fun i task hi => hw.watched i task hi⟩
  · rw [show (w.setSite n x).sessions.length = w.sessions.length by simp [World.setSite]]
    exact hw.known i task hi
  · have hstands := hw.stands i task hi
    rw [hverdict]
    by_cases hsession : task.session = n
    · subst hsession
      rw [looped_setSite x hn]
      refine hstands.move (fun _ => .inl) (fun hawaits => ?_) fun _ h => h
      cases hrole : task.role roles i with
      | starts => trivial
      | spares => trivial
      | stops =>
        cases ρ with
        | stops => exact hmay
        | spares => exact .inl hmay
        | starts =>
          rcases hclear rfl with hsound | hclear
          · exact .inl (hsound.may hmay)
          · cases (hclear i task hi rfl hrole).symm.trans hawaits
    · rw [looped_setSite_ne hsession]
      exact hstands

/-! ## A task comes to another stage -/

theorem looped_setStage (ht : w.tasks[t]? = some task) (hworks : task.stage.works = true)
    (hlive : stage.verdict? = none) (m : Nat) : (w.setStage t stage).looped m = w.looped m := by
  refine World.looped_congr rfl badge?_setStage ?_
  funext j
  by_cases htj : t = j
  · subst htj
    rw [World.verdict?, World.stage?_setStage_self ht, World.verdict?_eq ht, Stage.verdict?_of_works hworks]
    exact hlive
  · rw [World.verdict?, World.stage?_setStage_ne htj]
    rfl

/-- The loops without one that has ended. -/
def without (s : Looped) (t : Nat) : Looped := { s with alive := fun i => i ≠ t ∧ s.alive i }

theorem looped_ended (ht : w.tasks[t]? = some task) (r : Except Exit Result) (m : Nat) :
    (w.setStage t (.ended r)).looped m = (w.looped m).without t := by
  have hloops : (w.setStage t (.ended r)).Loops m = w.Loops m := by
    funext j
    rw [World.Loops, badge?_setStage, World.Loops]
  have halive : (w.setStage t (.ended r)).Polling m = ((w.looped m).without t).alive := by
    funext j
    by_cases hjt : t = j
    · subst hjt
      refine propext ⟨fun h => ?_, fun h => absurd rfl h.1⟩
      rw [World.Polling, World.verdict?, World.stage?_setStage_self ht] at h
      cases h.2
    · have hverdict : (w.setStage t (.ended r)).verdict? j = w.verdict? j := by
        rw [World.verdict?, World.stage?_setStage_ne hjt]
        rfl
      rw [World.Polling, hloops, hverdict]
      exact propext ⟨fun h => ⟨fun heq => hjt heq.symm, h⟩, fun h => h.2⟩
  rw [World.looped, hloops, halive]
  rfl

theorem sound_without {s : Looped} (hs : s.Sound) (t : Nat) : (s.without t).Sound where
  single i hi := hs.single i hi.2
  started := hs.started
  alive_loops i hi := hs.alive_loops i hi.2

theorem without_other {m : Nat} (ht : w.tasks[t]? = some task) (hm : m ≠ task.session) :
    (w.looped m).without t = w.looped m := by
  have halive : ((w.looped m).without t).alive = (w.looped m).alive := by
    funext j
    refine propext ⟨fun h => h.2, fun h => ⟨?_, h⟩⟩
    rintro rfl
    have hbadge := (World.badge?_eq ht).symm.trans h.1
    exact hm (congrArg Prod.fst (Option.some.inj hbadge)).symm
  rw [without, show (fun i => i ≠ t ∧ (w.looped m).alive i) = (w.looped m).alive from halive]

end Looped

end Cutover
