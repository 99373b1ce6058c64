import Cutover.Proofs.World.Desk
import Cutover.Proofs.World.OneLoop
import Cutover.Proofs.World.Touching
import Cutover.World.Observation

/-!
# One loop, and one status after the other

A session has at most one poll loop that is alive, and nobody but that loop marks that a status is being
applied. So the loop asks for the next status only when the last one was applied.

* `Pacing.Stands`, `Pacing.Paced`: **every loop may go on, and no status is being applied where none is alive**;
* `Pacing.resume_paced`: a loop that goes on asks for the status only where none is being applied;
* `Pacing.Steady`, `World.LoopMove.steady`: whatever happens leaves it so;
* `World.one_loop_history`: **at most one loop, stopped means stopped, and one status after the other**.
-/

namespace Cutover

namespace Pacing

open World
open Looped (Sane)
open Touching (Tracked Touched)

variable {asked : Nat → Action} {began : Nat → Nat} {applying : Bool} {stage stage' : Stage} {w w' : World}
  {n i t : Nat} {task : Task}

/-- The rest of the work of a loop keeps its pace, and leaves no status that is being applied. -/
abbrev Goes (job : Job) (x : Site) : Prop := job.Meets pacing (fun _ => Poll.Marks false) x

/-- **A loop that may go on**, where a status is being applied or not. -/
inductive Stands (applying : Bool) : Stage → Prop
  | fresh {job : Job} (idle : applying = false) (goes : ∀ x, Poll.Marks false x → Goes job x) :
    Stands applying (.fresh job)
  | waiting {e : Effect} {next : e.Reply → Job} {alarm : Option (Alarm e.Reply)}
    (goes : ∀ r x, Poll.Marks applying x → Goes (next r) x) : Stands applying (.waiting e next alarm)
  | woken {e : Effect} {next : e.Reply → Job} {r : e.Reply}
    (goes : ∀ r x, Poll.Marks applying x → Goes (next r) x) : Stands applying (.woken e next r)
  | ended {r : Except Exit Result} : Stands applying (.ended r)

theorem Stands.turned {tells : Nat → Except Exit Result → Prop} {breaks : Prop} (h : Stands applying stage)
    (hturned : Relation.ReflTransGen (Stage.Turned tells breaks) stage stage') : Stands applying stage' := by
  refine Stage.Turned.carries hturned (fun _ hs => ?_) (fun e next r r' hs => ?_) (fun e next alarm r hs => ?_) h
  · cases hs with
    | fresh idle => exact .fresh idle fun _ hx => hx
  · cases hs with
    | woken goes => exact .woken goes
  · cases hs with
    | waiting goes => exact .woken goes

theorem stands_round : Stands false (.fresh (.ofRound Poll.round)) :=
  .fresh rfl fun x hx => Op.meets_map.mpr ((Poll.paces_round x hx).mono fun _ _ hy => hy.1)

theorem stands_of_ended (h : stage.verdict? ≠ none) : Stands applying stage := by
  cases stage with
  | ended => exact .ended
  | _ => exact absurd rfl h

/-! ## A loop works -/

/-- What a loop comes to when it goes on: it may go on again, and leaves no status that is being applied if it
has ended. -/
structure Comes (t n : Nat) (w : World) : Prop where
  stands : ∀ stage, w.stage? t = some stage → Stands (w.session n).applying stage
  idle : w.verdict? t ≠ none → (w.session n).applying = false

theorem applying_of_session {s s' : Session} (h : ∃ stateGate fetchGate latch streams,
    s' = { s with stateGate, fetchGate, latch, streams }) : s'.applying = s.applying := by
  obtain ⟨_, _, _, _, rfl⟩ := h
  rfl

theorem comes_conclude (ht : w.tasks[t]? = some task) (hloop : task.loop = some .pollLoop)
    {r : Except Exit Outturn} (hidle : (w.session n).applying = false) : Comes t n (w.conclude t r) := by
  have hfinish : ∀ r, Comes t n (w.finish t r) := by
    intro r
    have htold : Stirred (fun _ _ => True) True (w.setStage t (.ended r)) (w.finish t r) :=
      stirred_wakeWatchers fun _ _ _ _ _ _ => trivial
    have hsame : ((w.finish t r).session n).applying = false :=
      (applying_of_session (htold.sessions n)).trans hidle
    refine ⟨fun stage hstage => stands_of_ended ?_, fun _ => hsame⟩
    have hverdict : (w.finish t r).verdict? t = some r := by
      rw [htold.verdict?, World.verdict?, stage?_setStage_self ht]
      rfl
    rw [World.verdict?, hstage] at hverdict
    exact fun hnone => by cases hnone.symm.trans hverdict
  unfold conclude
  split
  · exact hfinish _
  · exact hfinish _
  · split
    next b hb =>
      rw [ht] at hb
      cases hloop.symm.trans hb
      have hstage : (w.setStage t (.fresh (.ofRound Background.pollLoop.round))).stage? t = _ :=
        stage?_setStage_self ht
      refine ⟨fun stage h => ?_, fun _ => hidle⟩
      rw [show stage = _ from Option.some.inj (h.symm.trans hstage)]
      exact (show (w.session n).applying = false from hidle) ▸ stands_round
    · exact hfinish _

/-- **A loop that works** asks for the status only where none is being applied, until it waits or ends. -/
theorem run_paced {job : Job} (ht : w.tasks[t]? = some task) (hloop : task.loop = some .pollLoop)
    (hn : task.session < w.sessions.length) (hgoes : Goes job (w.site task.session)) :
    Comes t task.session (run t job w) ∧ ∀ v m, (v, m) ∈ sendings t job w → m = Call.getStatus.message →
      (v.session task.session).applying = false := by
  induction job generalizing w task with
  | done r => exact ⟨comes_conclude ht hloop hgoes, fun v m hmem => by cases hmem⟩
  | ask e next ih =>
    obtain ⟨hallows, hnext⟩ := hgoes
    have hnow : ∀ v m, (v, m) ∈ w.sending e → m = Call.getStatus.message →
        (v.session task.session).applying = false := by
      intro v m hmem hm
      cases e with
      | send m' =>
        cases List.mem_singleton.mp hmem
        exact hallows hm
      | _ => cases hmem
    have hother : e.isOther = true →
        (∀ r x, x.session.applying = (w.session task.session).applying → Goes (next r) x) →
        Comes t task.session (run t (.ask e next) w) ∧ ∀ v m, (v, m) ∈ sendings t (.ask e next) w →
          m = Call.getStatus.message → (v.session task.session).applying = false := by
      intro he hgoes
      have hastir : Astir task.session w (w.perform t e).1 := Touching.sessionOf_eq ht ▸ astir_perform w t he
      have hsame := applying_of_session (hastir.sessions task.session)
      obtain ⟨stage, watchers, ht', -⟩ := hastir.onward t task ht
      have hlength := hastir.length
      rw [run, sendings]
      generalize w.perform t e = done at hsame ht' hlength
      obtain ⟨w', uptake⟩ := done
      cases uptake with
      | reply r =>
        obtain ⟨hcomes, hlater⟩ := ih r ht' hloop (hlength ▸ hn) (hgoes r _ hsame)
        exact ⟨hcomes, fun v m hmem => (List.mem_append.mp hmem).elim (hnow v m) (hlater v m)⟩
      | wait alarm =>
        have hstage : (w'.setStage t (.waiting e next alarm)).stage? t = _ := stage?_setStage_self ht'
        refine ⟨⟨fun stage h => ?_, fun h => absurd (by rw [World.verdict?, hstage]; rfl) h⟩, fun v m hmem => ?_⟩
        · rw [show stage = _ from Option.some.inj (h.symm.trans hstage)]
          exact .waiting fun r x hx => hgoes r x (hx.trans hsame)
        · rw [List.append_nil] at hmem
          exact hnow v m hmem
    cases e with
    | look =>
      obtain ⟨hcomes, hlater⟩ := ih _ ht hloop hn (hnext _ _ ⟨rfl, rfl⟩)
      rw [run, sendings, perform, Touching.sessionOf_eq ht]
      exact ⟨hcomes, hlater⟩
    | change y =>
      have hlength : (w.setSite task.session y).sessions.length = w.sessions.length := by simp [World.setSite]
      obtain ⟨hcomes, hlater⟩ := ih () (w := w.setSite task.session y) ht hloop (hlength ▸ hn)
        (hnext () _ (site_setSite hn y))
      rw [run, sendings, perform, Touching.sessionOf_eq ht]
      exact ⟨hcomes, hlater⟩
    | _ => exact hother rfl fun r x hx => hnext r x hx

/-- **Every loop may go on, and no status is being applied where none is alive.** -/
structure Paced (w : World) : Prop where
  loops : ∀ (i : Nat) (task : Task), w.tasks[i]? = some task → task.loop = some .pollLoop →
    Stands (w.session task.session).applying task.stage
  idle : ∀ n, (∀ i, ¬w.Polling n i) → (w.session n).applying = false

/-- **A loop that goes on** asks for the status only where none is being applied. -/
theorem resume_paced (hw : Paced w) (ht : w.tasks[t]? = some task) (hloop : task.loop = some .pollLoop)
    (hn : task.session < w.sessions.length) (hlive : task.stage.verdict? = none) :
    Comes t task.session (w.resume t) ∧ ∀ v m, (v, m) ∈ w.sendingsOf t → m = Call.getStatus.message →
      (v.session task.session).applying = false := by
  have hstands := hw.loops t task ht hloop
  have hstage : (w.tasks[t]?).map Task.stage = some task.stage := by
    rw [ht]
    rfl
  rw [resume, sendingsOf, hstage]
  cases hcase : task.stage with
  | waiting e next alarm =>
    refine ⟨⟨fun stage h => ?_, fun h => absurd ((verdict?_eq ht).trans hlive) h⟩, fun v m hmem => by cases hmem⟩
    rw [World.stage?, hstage] at h
    exact Option.some.inj h ▸ hstands
  | ended r =>
    rw [hcase] at hlive
    cases hlive
  | fresh job =>
    rw [hcase] at hstands
    cases hstands with
    | fresh idle goes => exact run_paced ht hloop hn (goes _ idle)
  | woken e next r =>
    have hsettle : Stirred (fun _ _ => False) False w (w.settleAtGate t e r) := stirred_settleAtGate w t e r
    obtain ⟨stage, ht', -⟩ := hsettle.tasks t task ht
    rw [hcase] at hstands
    cases hstands with
    | woken goes =>
      have hrest := run_paced ht' hloop (hsettle.length ▸ hn) (goes r _ (applying_of_session (hsettle.sessions _)))
      exact hrest

/-! ## Whatever happens -/

theorem applying_of_concerns {a : Action} (h : a ≠ .poll .once) : .applying ∉ a.concerns := by
  cases a with
  | whole a => cases a <;> simp [Action.concerns, WholeAction.concerns, Conduct.concerns, Launch.concerns, Concern.ofFetch]
  | run a => cases a <;> simp [Action.concerns, RunAction.concerns, Concern.ofReport, Concern.ofFetch]
  | poll a =>
    cases a with
    | once => exact absurd rfl h
    | _ => simp [Action.concerns, PollAction.concerns, Launch.concerns]
  | configure a => cases a <;> simp [Action.concerns, ConfigureAction.concerns, Configure.concerns]
  | service a => cases a <;> simp [Action.concerns, ServiceAction.concerns]
  | _ => simp [Action.concerns, StoreAction.concerns]

/-- What holds all through a history in which nobody polls but the loops. -/
structure Steady (asked : Nat → Action) (began : Nat → Nat) (w : World) : Prop where
  sane : Sane (rolesOf asked) began w
  tracked : Tracked asked none w
  paced : Paced w

theorem Paced.of_same (hw : Paced w) (happlying : ∀ m, (w'.session m).applying = (w.session m).applying)
    (hlooped : ∀ m, w'.looped m = w.looped m)
    (htasks : ∀ (i : Nat) (task' : Task), w'.tasks[i]? = some task' → task'.loop = some .pollLoop →
      ∃ task : Task, w.tasks[i]? = some task ∧ task.loop = task'.loop ∧ task.session = task'.session ∧
        Relation.ReflTransGen (Stage.Turned (fun _ _ => True) True) task.stage task'.stage) : Paced w' where
  loops i task' hi' hloop := by
    obtain ⟨task, hi, hsame, hsession, hturned⟩ := htasks i task' hi' hloop
    rw [happlying, ← hsession]
    exact (hw.loops i task hi (hsame.trans hloop)).turned hturned
  idle n hnone := by
    rw [happlying]
    refine hw.idle n fun i hi => hnone i ?_
    have halive : (w.looped n).alive i := hi
    rwa [← hlooped] at halive

theorem Paced.stirred (hw : Paced w) (h : Stirred (fun _ _ => True) True w w') : Paced w' := by
  refine hw.of_same (fun m => applying_of_session (h.sessions m)) h.looped fun i task' hi' _ => ?_
  obtain ⟨task, stage, hi, rfl, hturned⟩ := h.before hi'
  exact ⟨task, hi, rfl, rfl, hturned⟩

theorem Paced.spawn (hw : Paced w) {job : Job} {loop : Option Background} (hloop : loop ≠ some .pollLoop) :
    Paced (w.spawn n job loop).2 := by
  refine hw.of_same (fun _ => rfl) (fun m => Looped.looped_spawn_other fun h => hloop h.2) fun i task' hi' hthis => ?_
  rcases spawn_before hi' with hi | ⟨rfl, rfl⟩
  · exact ⟨task', hi, rfl, rfl, .refl⟩
  · exact absurd hthis hloop

theorem polling_of_touched {cs : List Concern} {m : Nat} (h : Touched cs t n w w') (hit : i ≠ t)
    (hi : w.Polling m i) : w'.Polling m i := by
  obtain ⟨hloops, hlive⟩ := hi
  obtain ⟨other, hother, hbadge⟩ := Option.map_eq_some_iff.mp hloops
  obtain ⟨stage, watchers, hother', hturned⟩ := h.onward i other hother
  refine ⟨?_, ?_⟩
  · rw [Loops, badge?_eq hother']
    exact congrArg some hbadge
  · rw [verdict?_eq hother', Stage.Turned.verdict? (hturned hit), ← verdict?_eq hother]
    exact hlive

theorem loops_eq (ht : w.tasks[t]? = some task) : w.Loops n t ↔ task.session = n ∧ task.loop = some .pollLoop := by
  rw [Loops, badge?_eq ht, Option.some_inj, Prod.mk.injEq]

/-- Who is no loop of a session marks nothing in it. -/
theorem Steady.marks_eq (hw : Steady asked began w) (hothers : ∀ i, asked i ≠ .poll .once)
    (ht : w.tasks[t]? = some task) (hloop : ¬w.Loops n t) :
    ((w.resume t).session n).applying = (w.session n).applying := by
  have htouched := (Touching.resume_touched hw.tracked ht).1
  by_cases hn : task.session = n
  · subst hn
    refine htouched.here .applying ?_
    rw [Task.concerns]
    cases hback : task.loop with
    | none => exact applying_of_concerns (hothers t)
    | some b =>
      cases b with
      | pollLoop => exact absurd ((loops_eq ht).mpr ⟨rfl, hback⟩) hloop
      | reader stream id includeCurrent => simp [Background.concerns]
  · exact applying_of_session (htouched.apart n (Ne.symm hn))

/-- **Where none is alive but a loop that was just started** no status is being applied. -/
theorem Steady.idle (hw : Steady asked began w) (hothers : ∀ i, asked i ≠ .poll .once)
    (ht : w.tasks[t]? = some task) (hlive : task.stage.verdict? = none)
    (hnew : ∀ i, (w.resume t).Polling n i → w.tasks[i]? = none) : ((w.resume t).session n).applying = false := by
  have htouched := (Touching.resume_touched hw.tracked ht).1
  by_cases hloop : w.Loops n t
  · obtain ⟨rfl, hthis⟩ := (loops_eq ht).mp hloop
    refine (resume_paced hw.paced ht hthis (hw.sane.known t task ht) hlive).1.idle fun hstill => ?_
    obtain ⟨stage, watchers, ht', -⟩ := htouched.onward t task ht
    cases (hnew t ⟨(loops_eq ht').mpr ⟨rfl, hthis⟩, hstill⟩).symm.trans ht
  · rw [hw.marks_eq hothers ht hloop]
    refine hw.paced.idle n fun i hi => ?_
    have hit : i ≠ t := fun h => hloop (h ▸ hi.1)
    have hnone := hnew i (polling_of_touched htouched hit hi)
    rw [Polling, Loops, badge?, hnone] at hi
    cases hi.1

/-- **Whoever goes on leaves it so**: a loop as it keeps its pace, and nobody else marks anything. -/
theorem Steady.resume (hw : Steady asked began w) (hothers : ∀ i, asked i ≠ .poll .once)
    (hsane : Sane (rolesOf asked) began (w.resume t)) : Steady asked began (w.resume t) := by
  by_cases hgoes : ∃ task : Task, w.tasks[t]? = some task ∧ task.stage.verdict? = none
  · obtain ⟨task, ht, hlive⟩ := hgoes
    obtain ⟨htouched, htracked⟩ := Touching.resume_touched hw.tracked ht
    refine ⟨hsane, htracked, fun i task' hi' hloop => ?_, fun m hnone => ?_⟩
    · by_cases hlive' : task'.stage.verdict? = none
      · have hpolls : (w.resume t).Polling task'.session i :=
          ⟨(loops_eq hi').mpr ⟨rfl, hloop⟩, (verdict?_eq hi').trans hlive'⟩
        cases hi : w.tasks[i]? with
        | none =>
          obtain ⟨-, b, hb, hturned⟩ := htouched.fresh i task' hi hi'
          cases hloop.symm.trans hb
          have hit : i ≠ t := by
            rintro rfl
            cases hi.symm.trans ht
          have hidle := hw.idle hothers ht hlive (n := task'.session) fun j hj => by
            rw [(Option.some.inj (((hsane.sound _).single j hj).symm.trans ((hsane.sound _).single i hpolls)))]
            exact hi
          rw [hidle]
          exact stands_round.turned (hturned hit)
        | some other =>
          obtain ⟨stage, watchers, hother', hturned⟩ := htouched.onward i other hi
          cases hi'.symm.trans hother'
          by_cases hit : i = t
          · subst hit
            cases hi.symm.trans ht
            refine (resume_paced hw.paced ht hloop (hw.sane.known i _ ht) hlive).1.stands _ ?_
            rw [World.stage?, hi']
            rfl
          · have hpolled : w.Polling other.session i := by
              refine ⟨(loops_eq hi).mpr ⟨rfl, hloop⟩, (verdict?_eq hi).trans ?_⟩
              exact (Stage.Turned.verdict? (hturned hit)).symm.trans hlive'
            have hnot : ¬w.Loops other.session t := fun hloops => hit <| Option.some.inj <|
              ((hw.sane.sound _).single i hpolled).symm.trans
                ((hw.sane.sound _).single t ⟨hloops, (verdict?_eq ht).trans hlive⟩)
            rw [show _ = _ from hw.marks_eq hothers ht hnot]
            exact (hw.paced.loops i other hi hloop).turned (hturned hit)
      · exact stands_of_ended hlive'
    · exact hw.idle hothers ht hlive fun i hi => absurd hi (hnone i)
  · rwa [resume_of_ended fun task ht hlive => hgoes ⟨task, ht, hlive⟩]

end Pacing

namespace World

open Looped (Sane Unawaited Spawns)
open Pacing (Steady)

variable {asked : Nat → Action} {began : Nat → Nat} {w₀ w w' : World} {n t : Nat}

/-- **Whatever happens leaves it so**, as long as nobody polls but the loops. -/
theorem LoopMove.steady (hw : Steady asked began w) (hothers : ∀ i, asked i ≠ .poll .once)
    (h : LoopMove asked w w') : Steady asked began w' := by
  have hsane := (h.sane hw.sane).1
  have hstirred : Stirred (fun _ _ => True) True w w' → Steady asked began w' :=
    fun hstirred => ⟨hsane, hw.tracked.stirred hstirred, hw.paced.stirred hstirred⟩
  cases h with
  | @call n a asks known =>
    refine ⟨hsane, hw.tracked.spawn known ?_, hw.paced.spawn fun h => by cases h⟩
    rw [Task.concerns, asks]
    exact Touching.stands_ofOp a.touches
  | @subscribe n stream id includeCurrent known =>
    exact ⟨hsane, hw.tracked.spawn known (Touching.stands_ofRound (Reader.touches_begin _ _ _)),
      hw.paced.spawn fun h => by cases h⟩
  | resume => exact hw.resume hothers hsane
  | ring t => exact hstirred (stirred_ring w t)
  | serve t => exact hstirred (stirred_wakeAtStorage w t)
  | cancel t => exact hstirred (stirred_cancelWithin trivial _ w t)
  | elsewhere length views tasks =>
    have hlooped : ∀ m, w'.looped m = w.looped m := fun m => looped_congr (views m)
      (by unfold badge?; rw [tasks]) (by unfold verdict? stage?; rw [tasks])
    refine ⟨hsane, hw.tracked.of_tasks length tasks,
      hw.paced.of_same (fun m => congrArg Prod.snd (views m)) hlooped fun i task' hi' _ => ?_⟩
    exact ⟨task', tasks ▸ hi', rfl, rfl, .refl⟩

theorem LoopHistory.steady (hw : Steady asked began w) (hothers : ∀ i, asked i ≠ .poll .once)
    (h : LoopHistory asked w w') : Steady asked began w' := by
  induction h with
  | refl => exact hw
  | tail _ hmove ih => exact hmove.steady ih hothers

theorem steady_of_start (htasks : w₀.tasks = []) (hknown : ∀ m, (w₀.session m).pollTask = none)
    (hquiet : ∀ m, (w₀.session m).applying = false) : Steady asked (fun _ => 0) w₀ := by
  have hnone : ∀ i : Nat, w₀.tasks[i]? = none := fun i => by rw [htasks]; rfl
  refine ⟨sane_of_start htasks hknown, ⟨fun i task hi => ?_, fun i task _ hi => ?_⟩,
    ⟨fun i task hi => ?_, fun n _ => hquiet n⟩⟩
  all_goals cases (hnone i).symm.trans hi

/-- **At most one poll loop**: the one that is alive is the one the session knows, the session polls
exactly while there is one, and at most one loop waits for the service. -/
structure OneLoop (n : Nat) (w : World) : Prop where
  known : ∀ t, w.Polling n t → (w.session n).pollTask = some t
  polls : w.isPolling n = true ↔ ∃ t, w.Polling n t
  asks : ∀ t t', w.Loops n t → w.Loops n t' →
    (∃ m next alarm, w.stage? t = some (.waiting (.send m) next alarm)) →
    (∃ m next alarm, w.stage? t' = some (.waiting (.send m) next alarm)) → t = t'

theorem oneLoop_of_sound (hs : (w.looped n).Sound) : OneLoop n w := by
  refine ⟨hs.single, ⟨fun hpolls => ?_, ?_⟩, ?_⟩
  · rw [isPolling] at hpolls
    split at hpolls
    next t ht =>
      have hloop : w.Loops n t := hs.started t ht
      rw [Looped.hasEnded_eq hloop] at hpolls
      exact ⟨t, hloop, by simpa using hpolls⟩
    next => cases hpolls
  · rintro ⟨t, ht⟩
    rw [isPolling, show (w.session n).pollTask = some t from hs.single t ht]
    show (!w.hasEnded t) = true
    rw [Looped.hasEnded_eq ht.1, ht.2]
    rfl
  · intro t t' ht ht' hasks hasks'
    have halive : ∀ i, w.Loops n i → (∃ m next alarm, w.stage? i = some (.waiting (.send m) next alarm)) →
        w.Polling n i := by
      rintro i hi ⟨m, next, alarm, hwait⟩
      refine ⟨hi, ?_⟩
      rw [verdict?, hwait]
      rfl
    have hknown := hs.single t (halive t ht hasks)
    exact Option.some.inj (hknown.symm.trans (hs.single t' (halive t' ht' hasks')))

/-- **One loop at most, and one status after the other.** All through a history in which no loop is started while
a stop of its session waits for one to end,

* at most one poll loop of each session is alive, and the session knows it;
* once a stop has ended normally, no loop is alive that was there when it began, whatever happens then;
* a loop asks for the status only while none is being applied, if nobody polls but the loops. -/
theorem one_loop_history (htasks : w₀.tasks = []) (hknown : ∀ m, (w₀.session m).pollTask = none)
    (h : LoopHistory asked w₀ w) :
    (∀ m, OneLoop m w) ∧
    (∀ (t : Nat) (task : Task) (job : Job), w.tasks[t]? = some task → task.stage = .fresh job →
      task.role (rolesOf asked) t = .stops → ∀ (v : World) (r : Result), LoopHistory asked w v →
        v.verdict? t = none → (v.resume t).verdict? t = some (.ok r) →
          ∀ w', LoopHistory asked (v.resume t) w' → ∀ i, w.Loops task.session i → ¬w'.Polling task.session i) ∧
    ((∀ i, asked i ≠ .poll .once) → (∀ m, (w₀.session m).applying = false) →
      ∀ n t, w.Loops n t → ∀ v m, (v, m) ∈ w.sendingsOf t → m = Call.getStatus.message →
        (v.session n).applying = false) := by
  have hsane := (LoopHistory.sane (sane_of_start htasks hknown) h).1
  refine ⟨fun m => oneLoop_of_sound (hsane.sound m), ?_, ?_⟩
  · intro t task job ht hfresh hrole v r hv hlive hended w' hw' i hi hpolls
    have hstage : w.stage? t = some (.fresh job) := by rw [stage?, ht, Option.map_some, hfresh]
    obtain ⟨hsane', hages⟩ := hv.sane (hsane.begin hstage)
    obtain ⟨task', ht', hbadge⟩ := Option.map_eq_some_iff.mp (hages.badges t _ (badge?_eq ht))
    obtain ⟨hsession, hloop⟩ := Prod.mk.inj hbadge
    have hstops : task'.role (rolesOf asked) t = .stops := by rwa [Task.role, hloop]
    have hran := Looped.resume_ran hsane'.toAttended (hsane'.sound _) ht' fun hstarts => by
      cases hstops.symm.trans hstarts
    have hold : i < w.tasks.length := Looped.lt_of_badge? hi
    rcases (hw'.sane (hran.sane hsane')).2.later _ i hpolls with hthen | hnew
    · have hbegan := hran.stopped hstops hlive r hended i (hsession ▸ hthen)
      rw [Function.update_self] at hbegan
      omega
    · have hcount := hages.count
      have hcount' := hran.count
      omega
  · intro hothers hquiet n t hloop v m hmem hm
    have hsteady : Steady asked (fun _ => 0) w := h.steady (steady_of_start htasks hknown hquiet) hothers
    obtain ⟨task, ht, hbadge⟩ := Option.map_eq_some_iff.mp hloop
    obtain ⟨rfl, hthis⟩ := (Pacing.loops_eq ht).mp hloop
    by_cases hlive : task.stage.verdict? = none
    · exact (Pacing.resume_paced hsteady.paced ht hthis (hsteady.sane.known t task ht) hlive).2 v m hmem hm
    · cases hcase : task.stage with
      | ended r =>
        rw [sendingsOf, ht, Option.map_some, hcase] at hmem
        cases hmem
      | _ => exact absurd (by rw [hcase]; rfl) hlive

/-- A session with a run in progress. -/
def inProgress : World := { sessions := [{ state := .launched .dataOnly, mode := some .dataOnly }] }

/-- Its loop is to be started. -/
def toPoll : World := (inProgress.spawn 0 (.ofOp (Action.poll .start).op)).2

/-- The loop is about to ask for the status, and is to be stopped. -/
def toStop : World := ((((toPoll.resume 0).resume 1).ring 1).spawn 0 (.ofOp (Action.poll .stop).op)).2

/-- The stop has waited for the loop, which has ended. -/
def loopOver : World := (toStop.resume 2).resume 1

/-- What the tasks were called for. -/
def startThenStop (t : Nat) : Action := if t = 0 then .poll .start else .poll .stop

theorem loopHistory_toStop : LoopHistory startThenStop inProgress toStop := by
  have hcall : LoopMove startThenStop inProgress toPoll := .call rfl Nat.one_pos
  have hstart : LoopMove startThenStop toPoll (toPoll.resume 0) := by
    refine .resume fun task ht _ _ => ?_
    cases ht
    rintro (_ | i) task hi - hrole
    · cases hi
      cases hrole
    · cases hi
  have hloop : LoopMove startThenStop (toPoll.resume 0) ((toPoll.resume 0).resume 1) :=
    loopMove_resume rfl (by decide)
  have hstop : LoopMove startThenStop (((toPoll.resume 0).resume 1).ring 1) toStop := .call rfl Nat.one_pos
  exact (((Relation.ReflTransGen.single hcall).tail hstart).tail hloop).tail (.ring _ 1) |>.tail hstop

/-- A loop that is about to ask for the status is stopped, and no loop is alive any more until something starts
one. -/
theorem stopped_loop : OneLoop 0 toStop ∧ toStop.Polling 0 1 ∧
    (∃ v, (v, Call.getStatus.message) ∈ toStop.sendingsOf 1 ∧ (v.session 0).applying = false) ∧
    ∀ w', LoopHistory startThenStop (loopOver.resume 2) w' → ¬w'.Polling 0 1 := by
  have hknown : ∀ m, (inProgress.session m).pollTask = none := by
    rintro (_ | m) <;> rfl
  have hquiet : ∀ m, (inProgress.session m).applying = false := by
    rintro (_ | m) <;> rfl
  obtain ⟨hone, hstopped, hpaced⟩ := one_loop_history rfl hknown loopHistory_toStop
  have hothers : ∀ i, startThenStop i ≠ .poll .once := by
    intro i
    rw [startThenStop]
    split
    · exact fun h => by cases h
    · exact fun h => by cases h
  have hasks : (toStop.sendingsOf 1).map (fun p => (p.2.method, p.2.route, p.2.body.isNone)) =
      [("GET", "/GetProgress", true)] := by decide +kernel
  have hloops : toStop.Loops 0 1 := rfl
  have hsome : ("GET", "/GetProgress", true) ∈
      (toStop.sendingsOf 1).map (fun p => (p.2.method, p.2.route, p.2.body.isNone)) := by
    rw [hasks]
    exact List.mem_singleton_self _
  obtain ⟨⟨v, ⟨method, route, body⟩⟩, hmem, hm⟩ := List.mem_map.mp hsome
  obtain ⟨hmethod, hroute, hbody⟩ : method = "GET" ∧ route = "/GetProgress" ∧ body.isNone = true := by
    simpa only [Prod.mk.injEq] using hm
  obtain rfl : body = none := Option.isNone_iff_eq_none.mp hbody
  subst hmethod hroute
  refine ⟨hone 0, ⟨rfl, rfl⟩, ⟨v, hmem, hpaced hothers hquiet 0 1 hloops v _ hmem rfl⟩, fun w' hw' => ?_⟩
  have hstop : LoopMove startThenStop toStop (toStop.resume 2) := loopMove_resume rfl (by decide)
  have hend : LoopMove startThenStop (toStop.resume 2) loopOver := loopMove_resume rfl (by decide)
  have hover : LoopHistory startThenStop toStop loopOver := (Relation.ReflTransGen.single hstop).tail hend
  exact hstopped 2 _ _ rfl rfl rfl loopOver .nothing hover rfl rfl w' hw' 1 hloops

end World

end Cutover
