import Cutover.Proofs.Work.Accord
import Cutover.Proofs.World.Waking

/-!
# What is done beside the site

Effects other than looks and changes do nothing to the site of a session but what gates, latch and readers
show, and nothing to other tasks but to wake, to cancel and to watch them. New tasks work in the background.

* `World.Indoors`: nothing was changed but sessions, tasks and queues;
* `World.Astir`, `World.astir_perform`: **all that an effect does to sessions and tasks**;
* `World.isWait_of_perform`: only a wait begins one;
* `World.Bypasses`, `World.resume_bypasses`: **a task that goes on passes other sessions by**.
-/

namespace Cutover

namespace World

variable {w w' w'' : World} {n i t : Nat}

/-! ## What stays -/

/-- **Nothing was changed but sessions, tasks and queues.** -/
def Indoors (w w' : World) : Prop := ∃ sessions tasks ready storageQueue,
  w' = { w with sessions, tasks, ready, storageQueue }

theorem Indoors.refl (w : World) : w.Indoors w := ⟨_, _, _, _, rfl⟩

theorem Indoors.trans (h : w.Indoors w') (h' : w'.Indoors w'') : w.Indoors w'' := by
  obtain ⟨_, _, _, _, rfl⟩ := h
  obtain ⟨_, _, _, _, rfl⟩ := h'
  exact ⟨_, _, _, _, rfl⟩

theorem Indoors.sent (h : w.Indoors w') : w'.sent = w.sent := by
  obtain ⟨_, _, _, _, rfl⟩ := h
  rfl

theorem Indoors.site (h : w.Indoors w') (m : Nat) : w'.site m = { w.site m with session := w'.session m } := by
  obtain ⟨_, _, _, _, rfl⟩ := h
  rfl

theorem indoors_foldl {ι : Type} {f : World → ι → World} (hf : ∀ w i, Indoors w (f w i)) (is : List ι)
    (w : World) : w.Indoors (is.foldl f w) := by
  induction is generalizing w with
  | nil => exact .refl w
  | cons i is ih => exact (hf w i).trans (ih (f w i))

theorem indoors_wakeAtGate (w : World) (i : Nat) : w.Indoors (w.wakeAtGate i) := by
  unfold wakeAtGate
  split <;> exact ⟨_, _, _, _, rfl⟩

theorem indoors_wakeAtStorage (w : World) (i : Nat) : w.Indoors (w.wakeAtStorage i) := by
  unfold wakeAtStorage
  split <;> exact ⟨_, _, _, _, rfl⟩

theorem indoors_ring (w : World) (i : Nat) : w.Indoors (w.ring i) := by
  unfold ring
  split <;> exact ⟨_, _, _, _, rfl⟩

theorem indoors_callAtGate (w : World) (n : Nat) (name : GateName) (r : Gate × Option Nat) :
    w.Indoors (w.callAtGate n name r) := by
  unfold callAtGate
  split
  · exact .trans ⟨_, _, _, _, rfl⟩ (indoors_wakeAtGate _ _)
  · exact ⟨_, _, _, _, rfl⟩

theorem indoors_settleAtGate (w : World) (t : Nat) (e : Effect) (r : e.Reply) :
    w.Indoors (w.settleAtGate t e r) := by
  unfold settleAtGate
  split
  · exact ⟨_, _, _, _, rfl⟩
  · exact indoors_callAtGate _ _ _ _
  · exact .refl w

theorem indoors_cancelWithin (depth : Nat) (w : World) (t : Nat) : w.Indoors (cancelWithin depth w t) := by
  induction depth generalizing t with
  | zero => exact .refl w
  | succ depth ih =>
    unfold cancelWithin
    split
    · exact ⟨_, _, _, _, rfl⟩
    · exact ⟨_, _, _, _, rfl⟩
    · exact ih _
    · split
      · refine .trans (show w.Indoors (w.withdraw _ _) from ?_) ⟨_, _, _, _, rfl⟩
        unfold withdraw
        split <;> exact ⟨_, _, _, _, rfl⟩
      · exact .refl w
    · exact .refl w

theorem indoors_raiseLatch (w : World) (n : Nat) : w.Indoors (w.raiseLatch n) := by
  refine .trans ⟨_, _, _, _, rfl⟩ (indoors_foldl (fun w i => ?_) _ _)
  unfold wakeAtLatch
  split
  · split <;> exact ⟨_, _, _, _, rfl⟩
  · exact .refl w

theorem indoors_publish (w : World) (n : Nat) (item : Option RunState) : w.Indoors (w.publish n item) := by
  refine indoors_foldl (fun w stream => ?_) _ w
  rcases offer_cases n item w stream with ⟨i, hi⟩ | h
  · obtain ⟨task, next, alarm, -, -, -, hoffer⟩ := hand_eq hi
    rw [hoffer]
    exact ⟨_, _, _, _, rfl⟩
  · rw [h]
    exact ⟨_, _, _, _, rfl⟩

theorem indoors_finish (w : World) (t : Nat) (r : Except Exit Result) : w.Indoors (w.finish t r) := by
  refine .trans (show w.Indoors (w.setStage t _) from ⟨_, _, _, _, rfl⟩) (indoors_foldl (fun w i => ?_) _ _)
  unfold wakeWatcher
  split <;> exact ⟨_, _, _, _, rfl⟩

theorem indoors_conclude (w : World) (t : Nat) (r : Except Exit Outturn) : w.Indoors (w.conclude t r) := by
  unfold conclude
  split
  · exact indoors_finish _ _ _
  · exact indoors_finish _ _ _
  · split
    · exact ⟨_, _, _, _, rfl⟩
    · exact indoors_finish _ _ _

/-- **Only what is sent goes outside**, and what is changed. -/
theorem indoors_perform (w : World) (t : Nat) {e : Effect} (he : e.isOther = true) (hsend : ∀ m, e ≠ .send m) :
    w.Indoors (w.perform t e).1 := by
  cases e with
  | look => cases he
  | change x => cases he
  | send m => exact absurd rfl (hsend m)
  | acquire g =>
    rw [perform, acquire]
    cases ((w.session (w.sessionOf t)).gate g).enter? <;> exact ⟨_, _, _, _, rfl⟩
  | release g => exact indoors_callAtGate _ _ _ _
  | sleep d => exact .refl w
  | storageTurn =>
    rw [perform, awaitStorage]
    split <;> exact ⟨_, _, _, _, rfl⟩
  | join other =>
    rw [perform, join]
    split <;> exact ⟨_, _, _, _, rfl⟩
  | hasEnded other => exact .refl w
  | fork b => exact ⟨_, _, _, _, rfl⟩
  | cancel other => exact indoors_cancelWithin _ w other
  | watchLatch d =>
    rw [perform, watchLatch]
    split <;> exact .refl w
  | raiseLatch => exact indoors_raiseLatch w _
  | publish item => exact indoors_publish w _ item
  | receive stream =>
    rw [perform]
    split
    next htake =>
      unfold take? at htake
      split at htake
      · cases htake
        exact ⟨_, _, _, _, rfl⟩
      · cases htake
    next => exact .refl w

theorem site_perform (w : World) (t : Nat) {e : Effect} (he : e.isOther = true) (m : Nat) :
    (w.perform t e).1.site m = { w.site m with session := (w.perform t e).1.session m } := by
  by_cases hsend : ∃ message, e = .send message
  · obtain ⟨message, rfl⟩ := hsend
    rw [perform, send]
    dsimp only
    split <;> rfl
  · exact (indoors_perform w t he fun message h => hsend ⟨message, h⟩).site m

/-! ## Sessions and tasks -/

/-- **Nothing was done to sessions but what gates, latches and readers show, and nothing to tasks but to wake,
to cancel and to watch them**; new tasks of a session work in the background. -/
structure Astir (n : Nat) (w w' : World) : Prop where
  length : w'.sessions.length = w.sessions.length
  sessions : ∀ m, ∃ stateGate fetchGate latch streams,
    w'.session m = { w.session m with stateGate, fetchGate, latch, streams }
  onward : ∀ (i : Nat) (task : Task), w.tasks[i]? = some task → ∃ stage watchers,
    w'.tasks[i]? = some { task with stage, watchers } ∧
      Relation.ReflTransGen (Stage.Turned (fun _ _ => True) True) task.stage stage
  fresh : ∀ (i : Nat) (task' : Task), w.tasks[i]? = none → w'.tasks[i]? = some task' →
    task'.session = n ∧ ∃ b : Background, task'.loop = some b ∧ task'.stage = .fresh (.ofRound b.begin)

theorem Astir.of_stirred (h : Stirred (fun _ _ => True) True w w') : Astir n w w' where
  length := h.length
  sessions := h.sessions
  onward i task hi := by
    obtain ⟨stage, hi', hturned⟩ := h.tasks i task hi
    exact ⟨stage, task.watchers, hi', hturned⟩
  fresh i task' hnone hi' := by
    rw [List.getElem?_eq_none_iff, ← h.count, ← List.getElem?_eq_none_iff, hi'] at hnone
    cases hnone

theorem Astir.refl (w : World) : Astir n w w := .of_stirred (.refl w)

theorem Astir.before (h : Astir n w w') {task' : Task} (hi' : w'.tasks[i]? = some task') :
    (∃ task stage watchers, w.tasks[i]? = some task ∧ task' = { task with stage, watchers } ∧
      Relation.ReflTransGen (Stage.Turned (fun _ _ => True) True) task.stage stage) ∨
    w.tasks[i]? = none ∧ task'.session = n ∧
      ∃ b : Background, task'.loop = some b ∧ task'.stage = .fresh (.ofRound b.begin) := by
  cases hi : w.tasks[i]? with
  | none => exact .inr ⟨rfl, h.fresh i task' hi hi'⟩
  | some task =>
    obtain ⟨stage, watchers, hthis, hturned⟩ := h.onward i task hi
    exact .inl ⟨task, stage, watchers, rfl, Option.some.inj (hi'.symm.trans hthis), hturned⟩

theorem astir_fork (w : World) (n : Nat) (b : Background) : Astir n w (w.fork n b).2 where
  length := rfl
  sessions _ := ⟨_, _, _, _, rfl⟩
  onward i task hi :=
    ⟨task.stage, task.watchers, (spawn_other (List.getElem?_eq_some_iff.mp hi).1).trans hi, .refl⟩
  fresh i task' hnone hi' := by
    rcases spawn_before hi' with hi | ⟨rfl, rfl⟩
    · cases hnone.symm.trans hi
    · exact ⟨rfl, b, rfl, rfl⟩

theorem astir_watch (w : World) (t other : Nat) :
    Astir n w (w.onTask other fun task => { task with watchers := task.watchers ++ [t] }) where
  length := rfl
  sessions _ := ⟨_, _, _, _, rfl⟩
  onward i task hi := by
    by_cases hio : other = i
    · subst hio
      exact ⟨task.stage, task.watchers ++ [t], by simp [onTask, hi], .refl⟩
    · exact ⟨task.stage, task.watchers, by simp [onTask, hi, hio], .refl⟩
  fresh i task' hnone hi' := by
    obtain ⟨task, hi, -⟩ := onTask_before hi'
    cases hnone.symm.trans hi

/-- **All that an effect does to sessions and tasks** that is neither a look nor a change. -/
theorem astir_perform (w : World) (t : Nat) {e : Effect} (he : e.isOther = true) :
    Astir (w.sessionOf t) w (w.perform t e).1 := by
  cases e with
  | look => cases he
  | change x => cases he
  | acquire g =>
    rw [perform, acquire]
    cases ((w.session (w.sessionOf t)).gate g).enter? with
    | some g' => exact .of_stirred (stirred_setGate _ w (fun _ => g') g)
    | none => exact .of_stirred (stirred_setGate _ w (fun s => (s.gate g).queueUp t) g)
  | release g => exact .of_stirred (stirred_callAtGate ..)
  | sleep d => exact .refl w
  | storageTurn =>
    rw [perform, awaitStorage]
    split
    · exact .refl w
    · exact .of_stirred (.of_tasks rfl (fun _ => ⟨_, _, _, _, rfl⟩) (fun _ _ h => h) rfl)
  | send m =>
    have hsent : Astir (w.sessionOf t) w { w with script := (w.script.next m).2, sent := w.sent ++ [m] } :=
      .of_stirred (.of_tasks rfl (fun _ => ⟨_, _, _, _, rfl⟩) (fun m' _ h => h.after m) rfl)
    rw [perform, send]
    dsimp only
    split <;> exact hsent
  | join other =>
    rw [perform, join]
    split
    · exact .refl w
    · exact astir_watch w t other
    · exact .refl w
  | hasEnded other => exact .refl w
  | fork b => exact astir_fork w _ b
  | cancel other => exact .of_stirred (stirred_cancelWithin trivial _ w other)
  | watchLatch d =>
    rw [perform, watchLatch]
    split <;> exact .refl w
  | raiseLatch => exact .of_stirred (stirred_raiseLatch w _)
  | publish item => exact .of_stirred (stirred_publish w _ item)
  | receive stream =>
    rw [perform]
    split
    next htake =>
      unfold take? at htake
      split at htake
      · cases htake
        exact .of_stirred (stirred_onSession (fun _ => ⟨_, _, _, _, rfl⟩) _ w)
      · cases htake
    next => exact .refl w

theorem isWait_of_perform {e : Effect} {alarm : Option (Alarm e.Reply)}
    (h : w.perform t e = (w', .wait alarm)) : e.isWait = true := by
  cases e <;> first | rfl | cases h

/-! ## Sessions that are passed by -/

/-- **A session is passed by**: nothing is done to it but what gates, latch and readers show, and nothing to its tasks
but to wake, to cancel and to watch them; new ones work in the background. -/
structure Bypasses (n : Nat) (w w' : World) : Prop where
  length : w'.sessions.length = w.sessions.length
  session : ∃ stateGate fetchGate latch streams, w'.session n = { w.session n with stateGate, fetchGate, latch, streams }
  onward : ∀ (i : Nat) (task : Task), w.tasks[i]? = some task →
    ∃ task' : Task, w'.tasks[i]? = some task' ∧ task'.session = task.session ∧ task'.loop = task.loop
  back : ∀ (i : Nat) (task' : Task), w'.tasks[i]? = some task' → task'.session = n →
    (∃ task : Task, w.tasks[i]? = some task ∧ task.session = n ∧ task'.loop = task.loop ∧
      Relation.ReflTransGen (Stage.Turned (fun _ _ => True) True) task.stage task'.stage) ∨
    ∃ b : Background, task'.loop = some b ∧
      Relation.ReflTransGen (Stage.Turned (fun _ _ => True) True) (.fresh (.ofRound b.begin)) task'.stage

namespace Bypasses

theorem trans (h : Bypasses n w w') (h' : Bypasses n w' w'') : Bypasses n w w'' where
  length := h'.length.trans h.length
  session := by
    obtain ⟨_, _, _, _, hthis⟩ := h.session
    obtain ⟨stateGate, fetchGate, latch, streams, hthat⟩ := h'.session
    exact ⟨stateGate, fetchGate, latch, streams, by rw [hthat, hthis]⟩
  onward i task hi := by
    obtain ⟨task', hi', hsession, hloop⟩ := h.onward i task hi
    obtain ⟨task'', hi'', hsession', hloop'⟩ := h'.onward i task' hi'
    exact ⟨task'', hi'', hsession'.trans hsession, hloop'.trans hloop⟩
  back i task'' hi'' hsession := by
    rcases h'.back i task'' hi'' hsession with ⟨task', hi', hsession', hloop', hturned'⟩ | hnew
    · rcases h.back i task' hi' hsession' with ⟨task, hi, hsession, hloop, hturned⟩ | ⟨b, hb, hturned⟩
      · exact .inl ⟨task, hi, hsession, hloop'.trans hloop, hturned.trans hturned'⟩
      · exact .inr ⟨b, hloop'.trans hb, hturned.trans hturned'⟩
    · exact .inr hnew

theorem of_astir {m : Nat} (h : Astir m w w') : Bypasses n w w' where
  length := h.length
  session := h.sessions n
  onward i task hi := by
    obtain ⟨stage, watchers, hi', -⟩ := h.onward i task hi
    exact ⟨_, hi', rfl, rfl⟩
  back i task' hi' hsession := by
    rcases h.before hi' with ⟨task, stage, watchers, hi, rfl, hturned⟩ | ⟨-, -, b, hb, hfresh⟩
    · exact .inl ⟨task, hi, hsession, rfl, hturned⟩
    · exact .inr ⟨b, hb, hfresh ▸ .refl⟩

theorem of_stirred (h : Stirred (fun _ _ => True) True w w') : Bypasses n w w' :=
  have hastir : Astir n w w' := .of_stirred h
  .of_astir hastir

theorem of_tasks (hlength : w'.sessions.length = w.sessions.length) (hsession : w'.session n = w.session n)
    (htasks : w'.tasks = w.tasks) : Bypasses n w w' where
  length := hlength
  session := ⟨_, _, _, _, hsession⟩
  onward _ task hi := ⟨task, htasks ▸ hi, rfl, rfl⟩
  back _ task hi hn := .inl ⟨task, htasks ▸ hi, hn, rfl, .refl⟩

theorem of_setStage {stage : Stage} (ht : ∀ task : Task, w.tasks[t]? = some task → task.session ≠ n) :
    Bypasses n w (w.setStage t stage) where
  length := rfl
  session := ⟨_, _, _, _, rfl⟩
  onward i task hi := by
    by_cases hit : t = i
    · subst hit
      exact ⟨{ task with stage }, tasks_setStage_self hi, rfl, rfl⟩
    · exact ⟨task, (tasks_setStage_ne hit).trans hi, rfl, rfl⟩
  back i task' hi' hsession := by
    rcases setStage_cases hi' with ⟨rfl, task, hi, rfl⟩ | ⟨-, hi⟩
    · exact absurd hsession (ht task hi)
    · exact .inl ⟨task', hi, hsession, rfl, .refl⟩

end Bypasses

variable {task : Task}

/-- **A task that works passes other sessions by.** -/
theorem run_bypasses {job : Job} (ht : w.tasks[t]? = some task) (hother : task.session ≠ n) :
    Bypasses n w (run t job w) := by
  have hsetStage : ∀ {v : World} {task' : Task} {stage : Stage}, v.tasks[t]? = some task' → task'.session ≠ n →
      Bypasses n v (v.setStage t stage) := fun hv hne => .of_setStage fun task'' ht'' => by
    cases hv.symm.trans ht''
    exact hne
  induction job generalizing w task with
  | done r =>
    have hfinish : ∀ result, Bypasses n w (w.finish t result) := fun result =>
      (hsetStage ht hother).trans (.of_stirred (stirred_wakeWatchers fun _ _ _ _ _ _ => trivial))
    show Bypasses n w (w.conclude t r)
    unfold conclude
    split
    · exact hfinish _
    · exact hfinish _
    · split
      · exact (hsetStage ht hother).trans (.of_tasks rfl rfl rfl)
      · exact hfinish _
  | ask e next ih =>
    have hgoes : ∀ {w' : World}, Bypasses n w w' → ∀ uptake, w.perform t e = (w', uptake) →
        Bypasses n w (run t (.ask e next) w) := by
      intro w' hpasses uptake hperform
      obtain ⟨task', ht', hsession, -⟩ := hpasses.onward t task ht
      rw [run, hperform]
      cases uptake with
      | reply r => exact hpasses.trans (ih r ht' (hsession ▸ hother))
      | wait alarm => exact hpasses.trans (hsetStage ht' (hsession ▸ hother))
    have hastir : e.isOther = true → Bypasses n w (run t (.ask e next) w) := fun he =>
      hgoes (.of_astir (astir_perform w t he)) _ rfl
    cases e with
    | look => exact hgoes (.of_tasks rfl rfl rfl) _ rfl
    | change y =>
      refine hgoes (.of_tasks ?_ (session_setSite_ne ?_ y) rfl) _ rfl
      · rw [setSite, List.length_set]
      · simpa only [sessionOf, ht] using hother.symm
    | _ => exact hastir rfl

/-- **A task that goes on passes other sessions by.** -/
theorem resume_bypasses (ht : w.tasks[t]? = some task) (hother : task.session ≠ n) : Bypasses n w (w.resume t) := by
  unfold resume
  cases hstage : task.stage with
  | fresh job =>
    simp only [ht, Option.map_some, hstage]
    exact run_bypasses ht hother
  | woken e next r =>
    simp only [ht, Option.map_some, hstage]
    have hsettled : Bypasses n w (w.settleAtGate t e r) := .of_stirred (stirred_settleAtGate w t e r)
    obtain ⟨task', ht', hsession, -⟩ := hsettled.onward t task ht
    exact hsettled.trans (run_bypasses ht' (hsession ▸ hother))
  | _ =>
    simp only [ht, Option.map_some, hstage]
    exact .of_tasks rfl rfl rfl

theorem resume_of_none (ht : w.tasks[t]? = none) : w.resume t = w := by
  rw [resume, ht]
  rfl

theorem resume_of_ended (h : ∀ task : Task, w.tasks[i]? = some task → task.stage.verdict? ≠ none) :
    w.resume i = w := by
  rw [World.resume]
  cases hi : w.tasks[i]? with
  | none => rfl
  | some task =>
    rw [Option.map_some]
    cases hstage : task.stage with
    | ended => rfl
    | _ => exact absurd (by rw [hstage]; rfl) (h task hi)

theorem resume_onward (w : World) (t : Nat) (hi : w.tasks[i]? = some task) :
    ∃ task' : Task, (w.resume t).tasks[i]? = some task' ∧ task'.session = task.session ∧ task'.loop = task.loop := by
  cases ht : w.tasks[t]? with
  | none =>
    rw [resume_of_none ht]
    exact ⟨task, hi, rfl, rfl⟩
  | some worker => exact (resume_bypasses ht (Nat.succ_ne_self worker.session).symm).onward i task hi

end World

end Cutover
