import Cutover.Proofs.World.Effects
import Mathlib.Logic.Relation

/-!
# What effects do to other tasks

Most effects do nothing to tasks but end their waits and cancel them, and nothing to sessions but open
and close gates, raise latches and serve readers.

* `Stage.Turned`, `Stage.Turned.carries`: what may be done to a task from outside, and what holds of it still;
* `World.Stirred`: **nothing else was done to the world**, with one lemma for each effect of that kind;
* `World.onTask_before`, `World.setStage_cases`, `World.spawn_before`: the tasks before one was changed or is new.
-/

namespace Cutover

/-- **What may be done to a task from outside**: its wait ends, or it is cancelled where tasks may be.
Who waits for another task may be told that it has ended. -/
inductive Stage.Turned (tells : Nat → Except Exit Result → Prop) (breaks : Prop) : Stage → Stage → Prop
  | cancelled {job : Job} (may : breaks) : Turned tells breaks (.fresh job) (.fresh (.done (.error .cancelled)))
  | again {e : Effect} {next : e.Reply → Job} {r : e.Reply} (may : breaks) :
    Turned tells breaks (.woken e next r) (.woken e next (e.afterCancel r))
  | broken {e : Effect} {next : e.Reply → Job} {alarm : Option (Alarm e.Reply)} {r : e.Reply}
    (may : breaks) (breaksOff : e.brokenOff = some r) (apart : ∀ other, e ≠ .join other) :
    Turned tells breaks (.waiting e next alarm) (.woken e next r)
  | rings {e : Effect} {next : e.Reply → Job} {a : Alarm e.Reply} :
    Turned tells breaks (.waiting e next (some a)) (.woken e next a.reply)
  | enters {g : GateName} {next : Waited Unit → Job} {alarm : Option (Alarm (Waited Unit))} :
    Turned tells breaks (.waiting (.acquire g) next alarm) (.woken (.acquire g) next (.back ()))
  | served {next : Waited Unit → Job} {alarm : Option (Alarm (Waited Unit))} :
    Turned tells breaks (.waiting .storageTurn next alarm) (.woken .storageTurn next (.back ()))
  | raised {d : Option Int} {next : Waited Bool → Job} {alarm : Option (Alarm (Waited Bool))} :
    Turned tells breaks (.waiting (.watchLatch d) next alarm) (.woken (.watchLatch d) next (.back true))
  | handed {stream : Nat} {next : Waited (Option RunState) → Job}
    {alarm : Option (Alarm (Waited (Option RunState)))} {item : Option RunState} :
    Turned tells breaks (.waiting (.receive stream) next alarm)
      (.woken (.receive stream) next (.back item))
  | told {other : Nat} {next : Waited (Except Exit Unit) → Job}
    {alarm : Option (Alarm (Waited (Except Exit Unit)))} {r : Except Exit Result}
    (told : tells other r) :
    Turned tells breaks (.waiting (.join other) next alarm)
      (.woken (.join other) next (.back (outcomeOf r)))

/-- What a task has come to at a stage. -/
def Stage.verdict? : Stage → Option (Except Exit Result)
  | .ended r => some r
  | _ => none

theorem Stage.Turned.verdict? {tells : Nat → Except Exit Result → Prop} {breaks : Prop} {a b : Stage}
    (h : Relation.ReflTransGen (Turned tells breaks) a b) : b.verdict? = a.verdict? := by
  induction h with
  | refl => rfl
  | tail _ hstep ih =>
    rw [← ih]
    cases hstep <;> rfl

/-- **What holds of a task still does once something was done to it from outside**, if it hangs neither on the reply
that the task is woken with nor on whether it is cancelled. -/
theorem Stage.Turned.carries {tells : Nat → Except Exit Result → Prop} {breaks : Prop} {a b : Stage} {P : Stage → Prop}
    (h : Relation.ReflTransGen (Turned tells breaks) a b)
    (cancelled : ∀ job, P (.fresh job) → P (.fresh (.done (.error .cancelled))))
    (again : ∀ (e : Effect) (next : e.Reply → Job) (r r' : e.Reply), P (.woken e next r) → P (.woken e next r'))
    (woken : ∀ (e : Effect) (next : e.Reply → Job) (alarm : Option (Alarm e.Reply)) (r : e.Reply),
      P (.waiting e next alarm) → P (.woken e next r)) (ha : P a) : P b := by
  induction h with
  | refl => exact ha
  | tail _ hstep ih =>
    cases hstep with
    | cancelled => exact cancelled _ ih
    | again => exact again _ _ _ _ ih
    | _ => exact woken _ _ _ _ ih

/-- **Nothing was done to a task but to end its wait as it may end.** -/
abbrev Stage.Served : Stage → Stage → Prop := Relation.ReflTransGen (Turned (fun _ _ => True) False)

theorem Stage.Turned.unbroken {tells : Nat → Except Exit Result → Prop} {a b : Stage}
    (h : Turned tells False a b) : Turned (fun _ _ => True) False a b := by
  cases h with
  | cancelled may => exact may.elim
  | again may => exact may.elim
  | broken may => exact may.elim
  | rings => exact .rings
  | enters => exact .enters
  | served => exact .served
  | raised => exact .raised
  | handed => exact .handed
  | told => exact .told trivial

theorem Stage.Served.of_turned {tells : Nat → Except Exit Result → Prop} {a b : Stage}
    (h : Relation.ReflTransGen (Turned tells False) a b) : a.Served b := by
  induction h with
  | refl => exact .refl
  | tail _ hstep ih => exact ih.tail hstep.unbroken

/-- A wait that was served goes on or came back, and was not broken off unless its alarm does that. -/
theorem Stage.Served.of_waiting {e : Effect} {next : e.Reply → Job} {alarm : Option (Alarm e.Reply)}
    {b : Stage} (h : (Stage.waiting e next alarm).Served b) : b = .waiting e next alarm ∨
      ∃ r, b = .woken e next r ∧ (e.brokenOff = some r → ∃ a, alarm = some a ∧ a.reply = r) := by
  induction h with
  | refl => exact .inl rfl
  | tail _ hstep ih =>
    rcases ih with rfl | ⟨r, rfl, hr⟩
    · refine .inr ?_
      cases hstep with
      | broken may => exact may.elim
      | rings => exact ⟨_, rfl, fun _ => ⟨_, rfl, rfl⟩⟩
      | enters => exact ⟨_, rfl, fun h => by cases h⟩
      | served => exact ⟨_, rfl, fun h => by cases h⟩
      | raised => exact ⟨_, rfl, fun h => by cases h⟩
      | handed => exact ⟨_, rfl, fun h => by cases h⟩
      | told => exact ⟨_, rfl, fun h => by cases h⟩
    · cases hstep with
      | again may => exact may.elim

theorem Stage.Served.of_fresh {job : Job} {b : Stage} (h : (Stage.fresh job).Served b) : b = .fresh job := by
  induction h with
  | refl => rfl
  | tail _ hstep ih =>
    subst ih
    cases hstep with
    | cancelled may => exact may.elim

theorem Stage.Served.of_ended {r : Except Exit Result} {b : Stage} (h : (Stage.ended r).Served b) : b = .ended r := by
  induction h with
  | refl => rfl
  | tail _ hstep ih =>
    subst ih
    cases hstep

theorem Stage.Served.of_woken {e : Effect} {next : e.Reply → Job} {r : e.Reply} {b : Stage}
    (h : (Stage.woken e next r).Served b) : b = .woken e next r := by
  induction h with
  | refl => rfl
  | tail _ hstep ih =>
    subst ih
    cases hstep with
    | again may => exact may.elim

namespace World

variable {n i : Nat} {w w' w'' : World} {tells : Nat → Except Exit Result → Prop} {breaks : Prop}

/-- What a task has come to. -/
def verdict? (w : World) (t : Nat) : Option (Except Exit Result) := (w.stage? t).bind Stage.verdict?

/-- **Nothing was done but to open and close gates, raise latches, serve readers, end waits and cancel
tasks.** -/
structure Stirred (tells : Nat → Except Exit Result → Prop) (breaks : Prop) (w w' : World) : Prop where
  length : w'.sessions.length = w.sessions.length
  sessions : ∀ m, ∃ stateGate fetchGate latch streams,
    w'.session m = { w.session m with stateGate, fetchGate, latch, streams }
  replies : ∀ m P, w.script.Replies m P → w'.script.Replies m P
  count : w'.tasks.length = w.tasks.length
  tasks : ∀ (i : Nat) (task : Task), w.tasks[i]? = some task → ∃ stage,
    w'.tasks[i]? = some { task with stage } ∧ Relation.ReflTransGen (Stage.Turned tells breaks) task.stage stage

namespace Stirred

theorem refl (w : World) : Stirred tells breaks w w where
  length := rfl
  sessions _ := ⟨_, _, _, _, rfl⟩
  replies _ _ h := h
  count := rfl
  tasks _ _ hi := ⟨_, hi, .refl⟩

theorem verdict? (h : Stirred tells breaks w w') : w'.verdict? = w.verdict? := by
  funext i
  unfold World.verdict? stage?
  cases hi : w.tasks[i]? with
  | none =>
    have hi' : w'.tasks[i]? = none := by
      rw [List.getElem?_eq_none_iff, h.count]
      exact List.getElem?_eq_none_iff.mp hi
    rw [hi']
  | some task =>
    obtain ⟨stage, hi', hturned⟩ := h.tasks i task hi
    rw [hi']
    exact Stage.Turned.verdict? hturned

theorem trans (h : Stirred tells breaks w w') (h' : Stirred tells breaks w' w'') : Stirred tells breaks w w'' where
  length := h'.length.trans h.length
  sessions m := by
    obtain ⟨_, _, _, _, hm⟩ := h.sessions m
    obtain ⟨stateGate, fetchGate, latch, streams, hm'⟩ := h'.sessions m
    exact ⟨stateGate, fetchGate, latch, streams, by rw [hm', hm]⟩
  replies m P hm := h'.replies m P (h.replies m P hm)
  count := h'.count.trans h.count
  tasks i task hi := by
    obtain ⟨stage, hi', hturned⟩ := h.tasks i task hi
    obtain ⟨stage', hi'', hturned'⟩ := h'.tasks i _ hi'
    exact ⟨stage', hi'', hturned.trans hturned'⟩

theorem of_tasks (hlength : w'.sessions.length = w.sessions.length)
    (hsessions : ∀ m, ∃ stateGate fetchGate latch streams,
      w'.session m = { w.session m with stateGate, fetchGate, latch, streams })
    (hreplies : ∀ m P, w.script.Replies m P → w'.script.Replies m P) (htasks : w'.tasks = w.tasks) : Stirred tells breaks w w' where
  length := hlength
  sessions := hsessions
  replies := hreplies
  count := by rw [htasks]
  tasks i task hi := ⟨_, by rw [htasks]; exact hi, .refl⟩

theorem foldl {ι : Type} {f : World → ι → World} (hf : ∀ w i, Stirred tells breaks w (f w i)) (is : List ι)
    (w : World) : Stirred tells breaks w (is.foldl f w) := by
  induction is generalizing w with
  | nil => exact refl w
  | cons i is ih => exact (hf w i).trans (ih (f w i))

theorem before (h : Stirred tells breaks w w') {task' : Task} (hi : w'.tasks[i]? = some task') :
    ∃ task stage, w.tasks[i]? = some task ∧ task' = { task with stage } ∧
      Relation.ReflTransGen (Stage.Turned tells breaks) task.stage stage := by
  have hlt : i < w.tasks.length := h.count ▸ (List.getElem?_eq_some_iff.mp hi).1
  obtain ⟨stage, hi', hturned⟩ := h.tasks i _ (List.getElem?_eq_getElem hlt)
  rw [hi] at hi'
  exact ⟨_, stage, List.getElem?_eq_getElem hlt, Option.some.inj hi', hturned⟩

theorem waiting (h : Stirred tells breaks w w') {e : Effect} {next : e.Reply → Job}
    {alarm : Option (Alarm e.Reply)} (hi : w'.stage? i = some (.waiting e next alarm)) :
    w.stage? i = some (.waiting e next alarm) := by
  obtain ⟨task', hi', hstage⟩ := Option.map_eq_some_iff.mp hi
  have hlt : i < w.tasks.length := h.count ▸ (List.getElem?_eq_some_iff.mp hi').1
  obtain ⟨stage, hi'', hturned⟩ := h.tasks i _ (List.getElem?_eq_getElem hlt)
  rw [hi'] at hi''
  cases hi''
  rw [stage?, List.getElem?_eq_getElem hlt, Option.map_some]
  cases hturned with
  | refl => rw [hstage]
  | tail _ hstep =>
    rw [show stage = _ from hstage] at hstep
    cases hstep

end Stirred

/-! ## Tasks -/

section
variable {job : Job} {loop : Option Background} {stage : Stage} {task : Task} {t : Nat}

theorem onTask_before {f : Task → Task} {j : Nat} (h : (w.onTask i f).tasks[j]? = some task) :
    ∃ before, w.tasks[j]? = some before ∧ task = if i = j then f before else before := by
  rw [onTask, List.getElem?_modify] at h
  obtain ⟨before, hbefore, hj⟩ := Option.map_eq_some_iff.mp h
  refine ⟨before, hbefore, ?_⟩
  split at hj
  next hij => rw [if_pos hij, ← hj]
  next hij => exact hj.symm.trans (if_neg hij).symm

theorem tasks_setStage_self (ht : w.tasks[t]? = some task) :
    (w.setStage t stage).tasks[t]? = some { task with stage } := by
  simp [setStage, onTask, ht]

theorem tasks_setStage_ne (hti : t ≠ i) : (w.setStage t stage).tasks[i]? = w.tasks[i]? := by
  simp [setStage, onTask, hti]

theorem setStage_cases (h : (w.setStage t stage).tasks[i]? = some task) :
    (i = t ∧ ∃ before, w.tasks[i]? = some before ∧ task = { before with stage }) ∨
      t ≠ i ∧ w.tasks[i]? = some task := by
  obtain ⟨before, hbefore, htask⟩ := onTask_before h
  split at htask
  next hti => exact .inl ⟨hti.symm, before, hbefore, htask⟩
  next hti => exact .inr ⟨hti, htask ▸ hbefore⟩

theorem stage?_setStage_ne {j : Nat} (hij : i ≠ j) : (w.setStage i stage).stage? j = w.stage? j := by
  rw [stage?, tasks_setStage_ne hij, stage?]

theorem stage?_setStage_self (ht : w.tasks[t]? = some task) : (w.setStage t stage).stage? t = some stage := by
  rw [stage?, tasks_setStage_self ht, Option.map_some]

theorem spawn_before (h : (w.spawn n job loop).2.tasks[i]? = some task) :
    w.tasks[i]? = some task ∨
      i = w.tasks.length ∧ task = { session := n, loop, stage := .fresh job } := by
  simp only [spawn, enqueue] at h
  rcases Nat.lt_or_ge i w.tasks.length with hlt | hge
  · rw [List.getElem?_append_left hlt] at h
    exact .inl h
  · rw [List.getElem?_append_right hge, List.getElem?_singleton] at h
    split at h
    next heq =>
      cases h
      exact .inr ⟨by omega, rfl⟩
    next => cases h

theorem spawn_other (hi : i < w.tasks.length) :
    (w.spawn n job loop).2.tasks[i]? = w.tasks[i]? := List.getElem?_append_left hi

theorem spawn_new :
    (w.spawn n job loop).2.tasks[w.tasks.length]? = some { session := n, loop, stage := .fresh job } := by
  simp [spawn, enqueue]

end

/-! ## Sessions -/

theorem stirred_onSession {f : Session → Session} (hf : ∀ s, ∃ stateGate fetchGate latch streams,
    f s = { s with stateGate, fetchGate, latch, streams }) (n : Nat) (w : World) :
    Stirred tells breaks w (w.onSession n f) := by
  refine .of_tasks (by simp [onSession]) (fun m => ?_) (fun _ _ h => h) rfl
  by_cases hm : m = n
  · subst hm
    by_cases hknown : m < w.sessions.length
    · rw [session_onSession hknown]
      exact hf _
    · refine ⟨_, _, _, _, show (w.onSession m f).session m = w.session m from ?_⟩
      simp [onSession, session, hknown]
  · exact ⟨_, _, _, _, session_onSession_ne hm f⟩

theorem setGate_eq (s : Session) (g : Gate) (name : GateName) :
    ∃ stateGate fetchGate latch streams,
      s.setGate g name = { s with stateGate, fetchGate, latch, streams } := by
  cases name <;> exact ⟨_, _, _, _, rfl⟩

theorem stirred_setGate (n : Nat) (w : World) (f : Session → Gate) (name : GateName) :
    Stirred tells breaks w (w.onSession n fun s => s.setGate (f s) name) :=
  stirred_onSession (fun s => setGate_eq s (f s) name) n w

/-! ## Waking -/

theorem stirred_turn {stage stage' : Stage} (hi : w.stage? i = some stage)
    (hturned : Stage.Turned tells breaks stage stage') : Stirred tells breaks w (w.setStage i stage') where
  length := rfl
  sessions _ := ⟨_, _, _, _, rfl⟩
  replies _ _ h := h
  count := by simp [setStage, onTask]
  tasks j task hj := by
    by_cases hij : i = j
    · subst hij
      rw [stage?, hj, Option.map_some, Option.some_inj] at hi
      subst hi
      exact ⟨stage', tasks_setStage_self hj, .single hturned⟩
    · exact ⟨task.stage, (tasks_setStage_ne hij).trans hj, .refl⟩

theorem stirred_enqueue (w : World) (i laps : Nat) : Stirred tells breaks w (w.enqueue i laps) :=
  .of_tasks rfl (fun _ => ⟨_, _, _, _, rfl⟩) (fun _ _ h => h) rfl

theorem stirred_wake {e : Effect} {next : e.Reply → Job} {alarm : Option (Alarm e.Reply)}
    {r : e.Reply} (hi : w.stage? i = some (.waiting e next alarm))
    (hturned : Stage.Turned tells breaks (.waiting e next alarm) (.woken e next r)) (laps : Nat) :
    Stirred tells breaks w ((w.setStage i (.woken e next r)).enqueue i laps) :=
  (stirred_turn hi hturned).trans (stirred_enqueue _ _ _)

theorem stirred_ring (w : World) (i : Nat) : Stirred tells breaks w (w.ring i) := by
  unfold ring
  split
  next e next alarm hi => exact stirred_wake hi .rings _
  next => exact .refl w

theorem stirred_wakeAtGate (w : World) (i : Nat) : Stirred tells breaks w (w.wakeAtGate i) := by
  unfold wakeAtGate
  split
  next hi => exact stirred_wake hi .enters _
  next => exact .refl w

theorem stirred_wakeAtStorage (w : World) (i : Nat) : Stirred tells breaks w (w.wakeAtStorage i) := by
  unfold wakeAtStorage
  split
  next hi => exact stirred_wake hi .served _
  next => exact .refl w

theorem stirred_wakeAtLatch (m : Nat) (w : World) (i : Nat) : Stirred tells breaks w (wakeAtLatch m w i) := by
  rcases wakeAtLatch_eq m i w with h | ⟨task, d, next, alarm, hi, hstage, h⟩
  · rw [h]
    exact .refl w
  · rw [h]
    have hwait : w.stage? i = some (.waiting (.watchLatch d) next alarm) := by
      rw [stage?, hi, Option.map_some, hstage]
    exact stirred_wake hwait .raised _

theorem stirred_callAtGate (w : World) (n : Nat) (name : GateName) (r : Gate × Option Nat) :
    Stirred tells breaks w (w.callAtGate n name r) := by
  unfold callAtGate
  split
  · exact (stirred_setGate n w _ name).trans (stirred_wakeAtGate _ _)
  · exact stirred_setGate n w _ name

theorem stirred_settleAtGate (w : World) (t : Nat) (e : Effect) (r : e.Reply) :
    Stirred tells breaks w (w.settleAtGate t e r) := by
  unfold settleAtGate
  split
  · exact stirred_setGate _ w _ _
  · exact stirred_callAtGate _ _ _ _
  · exact .refl w

/-! ## Cancelling -/

theorem stirred_withdraw (w : World) (t : Nat) (e : Effect) : Stirred tells breaks w (w.withdraw t e) := by
  unfold withdraw
  split
  · exact stirred_setGate _ w _ _
  · exact .of_tasks rfl (fun _ => ⟨_, _, _, _, rfl⟩) (fun _ _ h => h) rfl
  · exact .refl w

theorem tasks_withdraw (w : World) (t : Nat) (e : Effect) : (w.withdraw t e).tasks = w.tasks := by
  unfold withdraw
  split <;> rfl

/-- **To cancel a task** is to end its wait, or that of the task that it waits for. -/
theorem stirred_cancelWithin (may : breaks) (depth : Nat) (w : World) (t : Nat) :
    Stirred tells breaks w (cancelWithin depth w t) := by
  induction depth generalizing t with
  | zero => exact .refl w
  | succ depth ih =>
    unfold cancelWithin
    split
    next job hi => exact stirred_turn hi (.cancelled may)
    next e next r hi => exact stirred_turn hi (.again may)
    next => exact ih _
    next e next alarm hjoin hi =>
      split
      next r hr =>
        have hwait : (w.withdraw t e).stage? t = some (.waiting e next alarm) := by
          rw [stage?, tasks_withdraw]
          exact hi
        refine (stirred_withdraw w t e).trans (stirred_wake hwait (.broken may hr ?_) _)
        rintro other rfl
        exact hjoin other next alarm rfl HEq.rfl HEq.rfl
      next => exact .refl w
    next => exact .refl w

/-! ## Latches and readers -/

theorem stirred_raiseLatch (w : World) (n : Nat) : Stirred tells breaks w (w.raiseLatch n) :=
  (stirred_onSession (fun _ => ⟨_, _, _, _, rfl⟩) n w).trans (.foldl (stirred_wakeAtLatch n) _ _)

theorem stirred_publish (w : World) (n : Nat) (item : Option RunState) :
    Stirred tells breaks w (w.publish n item) := by
  refine .foldl (fun w stream => ?_) _ w
  rcases offer_cases n item w stream with ⟨i, hi⟩ | h
  · obtain ⟨task, next, alarm, htask, -, hstage, hoffer⟩ := hand_eq hi
    rw [hoffer]
    have hwait : w.stage? i = some (.waiting (.receive stream) next alarm) := by
      rw [stage?, htask, Option.map_some, hstage]
    exact stirred_wake hwait .handed _
  · rw [h]
    exact stirred_onSession (fun _ => ⟨_, _, _, _, rfl⟩) n w

theorem stirred_wakeWatcher {r : Except Exit Result} (htells : ∀ other next alarm,
      w.stage? i = some (.waiting (.join other) next alarm) → tells other r) :
    Stirred tells breaks w (wakeWatcher (outcomeOf r) w i) := by
  unfold wakeWatcher
  split
  next hi => exact stirred_wake hi (.told (htells _ _ _ hi)) _
  next => exact .refl w

theorem stirred_wakeWatchers {r : Except Exit Result} {is : List Nat} (htells : ∀ i ∈ is,
      ∀ other next alarm, w.stage? i = some (.waiting (.join other) next alarm) → tells other r) :
    Stirred tells breaks w (is.foldl (wakeWatcher (outcomeOf r)) w) := by
  induction is generalizing w with
  | nil => exact .refl w
  | cons i is ih =>
    have hfirst : Stirred tells breaks w (wakeWatcher (outcomeOf r) w i) :=
      stirred_wakeWatcher (htells i List.mem_cons_self)
    refine hfirst.trans (ih fun j hj other next alarm hwait => ?_)
    exact htells j (List.mem_cons_of_mem i hj) other next alarm (hfirst.waiting hwait)

end World

end Cutover
