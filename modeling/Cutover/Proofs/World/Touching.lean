import Cutover.Proofs.Control.Touching
import Cutover.Proofs.World.Astir

/-!
# What the tasks of a world touch

A task that goes on leaves alone what is none of its concerns, and of other sessions everything but what gates,
latches and readers show. To other tasks it does nothing but to wake, to cancel and to watch them.

* `Task.concerns`: what a task has to do with;
* `Touching.Tracked`: **every task keeps to its concerns**;
* `Touching.Touched`: what a task leaves alone;
* `Touching.resume_touched`: **a task that goes on leaves alone what is none of its concerns**.
-/

namespace Cutover

/-- Two sites are the same in what is of some concern, but for what anybody may do: to raise the latch and to
serve readers. -/
def Site.StillIn (x y : Site) : Concern → Prop
  | .loop => y.session.pollTask = x.session.pollTask
  | .readers => y.session.nextStream = x.session.nextStream
  | c => x.SameIn y c

namespace Site

variable {x y z : Site} {c : Concern}

theorem stillIn_of_sameIn (h : x.SameIn y c) : x.StillIn y c := by
  cases c with
  | loop => exact congrArg Prod.fst h
  | readers => exact congrArg Prod.snd h
  | _ => exact h

theorem StillIn.trans (h : x.StillIn y c) (h' : y.StillIn z c) : x.StillIn z c := by
  cases c with
  | gate | call => trivial
  | _ => exact Eq.trans h' h

theorem stillIn_of_session {s : Session} (hs : ∃ stateGate fetchGate latch streams,
    s = { x.session with stateGate, fetchGate, latch, streams }) (c : Concern) :
    x.StillIn { x with session := s } c := by
  obtain ⟨_, _, _, _, rfl⟩ := hs
  cases c <;> first | rfl | trivial

end Site

/-- **What a task has to do with**: what its work in the background has, or the action that it was called for. -/
def Task.concerns (asked : Nat → Action) (i : Nat) (task : Task) : List Concern :=
  match task.loop with
  | some b => b.concerns
  | none => (asked i).concerns

namespace Touching

open World

variable {asked : Nat → Action} {cs : List Concern} {w w' w'' : World} {n i t : Nat} {task : Task}
  {stage stage' : Stage} {out : Option Nat}

/-! ## Tasks that keep to their concerns -/

/-- **The rest of the work of a task touches some things only.** -/
inductive Stands (cs : List Concern) : Stage → Prop
  | fresh {job : Job} (goes : job.Touches cs) : Stands cs (.fresh job)
  | waiting {e : Effect} {next : e.Reply → Job} {alarm : Option (Alarm e.Reply)}
    (goes : ∀ r, (next r).Touches cs) : Stands cs (.waiting e next alarm)
  | woken {e : Effect} {next : e.Reply → Job} {r : e.Reply} (goes : ∀ r, (next r).Touches cs) :
    Stands cs (.woken e next r)
  | ended {r : Except Exit Result} : Stands cs (.ended r)

theorem Stands.turned {tells : Nat → Except Exit Result → Prop} {breaks : Prop} (h : Stands cs stage)
    (hturned : Relation.ReflTransGen (Stage.Turned tells breaks) stage stage') : Stands cs stage' := by
  refine Stage.Turned.carries hturned (fun _ _ => .fresh fun _ => trivial) (fun e next r r' hs => ?_) (fun e next alarm r hs => ?_) h
  · cases hs with
    | woken goes => exact .woken goes
  · cases hs with
    | waiting goes => exact .woken goes

theorem stands_ofOp {op : Op Result} (h : op.Touches cs) : Stands cs (.fresh (.ofOp op)) :=
  .fresh (Op.touches_map h)

theorem stands_ofRound {op : Op Bool} (h : op.Touches cs) : Stands cs (.fresh (.ofRound op)) :=
  .fresh (Op.touches_map h)

/-- **Every task keeps to its concerns.** Of the task that works its stage says nothing. -/
structure Tracked (asked : Nat → Action) (out : Option Nat) (w : World) : Prop where
  known : ∀ (i : Nat) (task : Task), w.tasks[i]? = some task → task.session < w.sessions.length
  stands : ∀ (i : Nat) (task : Task), out ≠ some i → w.tasks[i]? = some task →
    Stands (task.concerns asked i) task.stage

namespace Tracked

theorem astir (h : Tracked asked out w) (hn : n < w.sessions.length) (hw : Astir n w w') :
    Tracked asked out w' where
  known i task' hi' := by
    rw [hw.length]
    rcases hw.before hi' with ⟨task, _, _, hi, rfl, -⟩ | ⟨-, rfl, -⟩
    · exact h.known i task hi
    · exact hn
  stands i task' hout hi' := by
    rcases hw.before hi' with ⟨task, _, _, hi, rfl, hturned⟩ | ⟨-, -, b, hloop, hfresh⟩
    · exact (h.stands i task hout hi).turned hturned
    · rw [hfresh, Task.concerns, hloop]
      exact stands_ofRound b.touches.1

theorem stirred (h : Tracked asked out w) (hw : Stirred (fun _ _ => True) True w w') : Tracked asked out w' where
  known i task' hi' := by
    obtain ⟨task, stage, hi, rfl, -⟩ := hw.before hi'
    rw [hw.length]
    exact h.known i task hi
  stands i task' hout hi' := by
    obtain ⟨task, stage, hi, rfl, hturned⟩ := hw.before hi'
    exact (h.stands i task hout hi).turned hturned

theorem spawn {job : Job} {loop : Option Background} (h : Tracked asked out w) (hn : n < w.sessions.length)
    (hjob : Stands (Task.concerns asked w.tasks.length { session := n, loop, stage := .fresh job }) (.fresh job)) :
    Tracked asked out (w.spawn n job loop).2 where
  known i task hi := by
    rcases spawn_before hi with hi | ⟨-, rfl⟩
    · exact h.known i task hi
    · exact hn
  stands i task hout hi := by
    rcases spawn_before hi with hi | ⟨rfl, rfl⟩
    · exact h.stands i task hout hi
    · exact hjob

theorem of_tasks (h : Tracked asked out w) (hlength : w'.sessions.length = w.sessions.length)
    (htasks : w'.tasks = w.tasks) : Tracked asked out w' where
  known i task hi := hlength ▸ h.known i task (htasks ▸ hi)
  stands i task hout hi := h.stands i task hout (htasks ▸ hi)

theorem working (h : Tracked asked none w) : Tracked asked (some t) w :=
  { h with stands := fun i task _ => h.stands i task nofun }

theorem settled (h : Tracked asked (some t) w) (ht : w.tasks[t]? = some task)
    (hstands : Stands (task.concerns asked t) stage) : Tracked asked none (w.setStage t stage) := by
  refine ⟨fun i task' hi => ?_, fun i task' _ hi => ?_⟩
  all_goals rcases setStage_cases hi with ⟨rfl, before, hbefore, rfl⟩ | ⟨hne, hbefore⟩
  · exact h.known i before hbefore
  · exact h.known i task' hbefore
  · cases ht.symm.trans hbefore
    exact hstands
  · exact h.stands i task' (fun hout => hne (Option.some.inj hout)) hbefore

end Tracked

/-! ## What a task leaves alone -/

/-- **What a task of a session leaves alone** that touches some things only. -/
structure Touched (cs : List Concern) (t n : Nat) (w w' : World) : Prop where
  length : w'.sessions.length = w.sessions.length
  store : (w'.session n).store = (w.session n).store
  here : ∀ c, c ∉ cs → (w.site n).StillIn (w'.site n) c
  apart : ∀ m, m ≠ n → ∃ stateGate fetchGate latch streams,
    w'.session m = { w.session m with stateGate, fetchGate, latch, streams }
  onward : ∀ (i : Nat) (task : Task), w.tasks[i]? = some task → ∃ stage watchers,
    w'.tasks[i]? = some { task with stage, watchers } ∧
      (i ≠ t → Relation.ReflTransGen (Stage.Turned (fun _ _ => True) True) task.stage stage)
  fresh : ∀ (i : Nat) (task' : Task), w.tasks[i]? = none → w'.tasks[i]? = some task' →
    task'.session = n ∧ ∃ b : Background, task'.loop = some b ∧
      (i ≠ t → Relation.ReflTransGen (Stage.Turned (fun _ _ => True) True) (.fresh (.ofRound b.begin)) task'.stage)

namespace Touched

theorem trans (h : Touched cs t n w w') (h' : Touched cs t n w' w'') : Touched cs t n w w'' where
  length := h'.length.trans h.length
  store := h'.store.trans h.store
  here c hc := (h.here c hc).trans (h'.here c hc)
  apart m hm := by
    obtain ⟨_, _, _, _, hfirst⟩ := h.apart m hm
    obtain ⟨_, _, _, _, hlast⟩ := h'.apart m hm
    exact ⟨_, _, _, _, by rw [hlast, hfirst]⟩
  onward i task hi := by
    obtain ⟨stage, watchers, hi', hturned⟩ := h.onward i task hi
    obtain ⟨stage', watchers', hi'', hturned'⟩ := h'.onward i _ hi'
    exact ⟨stage', watchers', hi'', fun hit => (hturned hit).trans (hturned' hit)⟩
  fresh i task'' hnone hi'' := by
    cases hi' : w'.tasks[i]? with
    | none => exact h'.fresh i task'' hi' hi''
    | some task' =>
      obtain ⟨stage, watchers, hthis, hturned'⟩ := h'.onward i task' hi'
      cases hi''.symm.trans hthis
      obtain ⟨hsession, b, hloop, hturned⟩ := h.fresh i task' hnone hi'
      exact ⟨hsession, b, hloop, fun hit => (hturned hit).trans (hturned' hit)⟩

theorem of_astir (h : Astir n w w') (hsite : w'.site n = { w.site n with session := w'.session n }) :
    Touched cs t n w w' where
  length := h.length
  store := by
    obtain ⟨_, _, _, _, hsession⟩ := h.sessions n
    rw [hsession]
  here c _ := by
    rw [hsite]
    exact Site.stillIn_of_session (h.sessions n) c
  apart m _ := h.sessions m
  onward i task hi := by
    obtain ⟨stage, watchers, hi', hturned⟩ := h.onward i task hi
    exact ⟨stage, watchers, hi', fun _ => hturned⟩
  fresh i task' hnone hi' := by
    obtain ⟨hsession, b, hloop, hfresh⟩ := h.fresh i task' hnone hi'
    exact ⟨hsession, b, hloop, fun _ => hfresh ▸ .refl⟩

theorem of_setSite {y : Site} (hn : n < w.sessions.length) (hy : (w.site n).Changes cs y) :
    Touched cs t n w (w.setSite n y) where
  length := by simp [World.setSite]
  store := by
    rw [show (w.setSite n y).session n = y.session from congrArg Site.session (site_setSite hn y)]
    exact congrArg Prod.fst hy.setup
  here c hc := by
    rw [site_setSite hn]
    have hsame := hy.same c hc
    exact Site.stillIn_of_sameIn (by cases c <;> exact hsame)
  apart m hm := ⟨_, _, _, _, session_setSite_ne hm y⟩
  onward i task hi := ⟨task.stage, task.watchers, hi, fun _ => .refl⟩
  fresh i task' hnone hi' := by cases hnone.symm.trans hi'

theorem of_setStage (w : World) (stage : Stage) : Touched cs t n w (w.setStage t stage) where
  length := rfl
  store := rfl
  here _ _ := Site.stillIn_of_sameIn (Site.sameIn_refl _ _)
  apart _ _ := ⟨_, _, _, _, rfl⟩
  onward i task hi := by
    by_cases hit : t = i
    · subst hit
      exact ⟨stage, task.watchers, tasks_setStage_self hi, fun hne => absurd rfl hne⟩
    · exact ⟨task.stage, task.watchers, (tasks_setStage_ne hit).trans hi, fun _ => .refl⟩
  fresh i task' hnone hi' := by
    obtain ⟨before, hbefore, -⟩ := onTask_before hi'
    cases hnone.symm.trans hbefore

end Touched

/-! ## A task works -/

theorem sessionOf_eq (ht : w.tasks[t]? = some task) : w.sessionOf t = task.session := by
  simp only [World.sessionOf, ht]

theorem conclude_touched (h : Tracked asked (some t) w) (ht : w.tasks[t]? = some task)
    (r : Except Exit Outturn) :
    Touched (task.concerns asked t) t task.session w (w.conclude t r) ∧ Tracked asked none (w.conclude t r) := by
  have hfinish : ∀ r, Touched (task.concerns asked t) t task.session w (w.finish t r) ∧
      Tracked asked none (w.finish t r) := by
    intro r
    have hended : Tracked asked none (w.setStage t (.ended r)) := h.settled ht .ended
    have htold : Stirred (fun _ _ => True) True (w.setStage t (.ended r)) (w.finish t r) :=
      stirred_wakeWatchers fun _ _ _ _ _ _ => trivial
    have hastir : Astir task.session (w.setStage t (.ended r)) (w.finish t r) := .of_stirred htold
    exact ⟨(Touched.of_setStage w _).trans (.of_astir hastir ((indoors_finish w t r).site _)),
      hended.astir (h.known t task ht) hastir⟩
  unfold conclude
  split
  · exact hfinish _
  · exact hfinish _
  · split
    next b hb =>
      have hloop : task.loop = some b := by rwa [ht] at hb
      have hround : Stands (task.concerns asked t) (.fresh (.ofRound b.round)) := by
        rw [Task.concerns, hloop]
        exact stands_ofRound b.touches.2
      have hready : Astir task.session (w.setStage t (.fresh (.ofRound b.round)))
          { w.setStage t (.fresh (.ofRound b.round)) with
            ready := ⟨t, 0⟩ :: (w.setStage t (.fresh (.ofRound b.round))).ready } :=
        .of_stirred (.of_tasks rfl (fun _ => ⟨_, _, _, _, rfl⟩) (fun _ _ h => h) rfl)
      exact ⟨(Touched.of_setStage w _).trans (.of_astir hready rfl), (h.settled ht hround).of_tasks rfl rfl⟩
    · exact hfinish _

/-- **A task that works leaves alone what is none of its concerns**, and so do all others after it. -/
theorem run_touched {job : Job} (h : Tracked asked (some t) w) (ht : w.tasks[t]? = some task)
    (hjob : job.Meets (touching (task.concerns asked t)) (fun _ _ => True) (w.site task.session)) :
    Touched (task.concerns asked t) t task.session w (run t job w) ∧ Tracked asked none (run t job w) := by
  induction job generalizing w task with
  | done r => exact conclude_touched h ht r
  | ask e next ih =>
    obtain ⟨hallows, hnext⟩ := hjob
    have hn := h.known t task ht
    have hother : e.isOther = true → (∀ r x, (next r).Meets (touching (task.concerns asked t)) (fun _ _ => True) x) →
        Touched (task.concerns asked t) t task.session w (run t (.ask e next) w) ∧
          Tracked asked none (run t (.ask e next) w) := by
      intro he hgoes
      have hastir : Astir task.session w (w.perform t e).1 := sessionOf_eq ht ▸ astir_perform w t he
      have htouched : Touched (task.concerns asked t) t task.session w (w.perform t e).1 :=
        .of_astir hastir (site_perform w t he _)
      have htracked := h.astir hn hastir
      obtain ⟨stage, watchers, ht', -⟩ := hastir.onward t task ht
      rw [run]
      generalize w.perform t e = done at htouched htracked ht'
      obtain ⟨w', uptake⟩ := done
      cases uptake with
      | reply r =>
        obtain ⟨hrest, hafter⟩ := ih r htracked ht' (hgoes r _)
        exact ⟨htouched.trans hrest, hafter⟩
      | wait alarm =>
        exact ⟨htouched.trans (.of_setStage w' _), htracked.settled ht' (.waiting fun r x => hgoes r x)⟩
    cases e with
    | look =>
      refine ih _ h ht (hnext _ _ ⟨?_, rfl⟩)
      rw [sessionOf_eq ht]
    | change y =>
      have htouched : Touched (task.concerns asked t) t task.session w (w.setSite task.session y) :=
        .of_setSite hn hallows
      have htracked : Tracked asked (some t) (w.setSite task.session y) :=
        h.of_tasks htouched.length rfl
      rw [run, perform, sessionOf_eq ht]
      obtain ⟨hrest, hafter⟩ := ih () htracked ht (hnext () _ (site_setSite hn y))
      exact ⟨htouched.trans hrest, hafter⟩
    | _ => exact hother rfl fun r x => hnext r x trivial

/-- **A task that goes on leaves alone what is none of its concerns.** -/
theorem resume_touched (h : Tracked asked none w) (ht : w.tasks[t]? = some task) :
    Touched (task.concerns asked t) t task.session w (w.resume t) ∧ Tracked asked none (w.resume t) := by
  have hidle : Touched (task.concerns asked t) t task.session w w ∧ Tracked asked none w :=
    ⟨.of_astir (.refl w) rfl, h⟩
  have hstands := h.stands t task nofun ht
  have hstage : (w.tasks[t]?).map Task.stage = some task.stage := by
    rw [ht]
    rfl
  rw [resume, hstage]
  cases hcase : task.stage with
  | waiting e next alarm => exact hidle
  | ended r => exact hidle
  | fresh job =>
    rw [hcase] at hstands
    cases hstands with
    | fresh goes => exact run_touched h.working ht (goes _)
  | woken e next r =>
    have hsettle : Stirred (fun _ _ => True) True w (w.settleAtGate t e r) := stirred_settleAtGate w t e r
    have hastir : Astir task.session w (w.settleAtGate t e r) := .of_stirred hsettle
    obtain ⟨stage, watchers, ht', -⟩ := hastir.onward t task ht
    rw [hcase] at hstands
    cases hstands with
    | woken goes =>
      obtain ⟨hrest, hafter⟩ := run_touched ((h.astir (h.known t task ht) hastir).working) ht' (goes r _)
      exact ⟨(Touched.of_astir hastir ((indoors_settleAtGate w t e r).site _)).trans hrest, hafter⟩

end Touching

end Cutover
