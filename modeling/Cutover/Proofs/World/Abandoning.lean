import Cutover.Proofs.Control.Abandoning
import Cutover.Proofs.World.Astir
import Cutover.Proofs.World.OneLoop
import Cutover.Proofs.World.Touching

/-!
# What is abandoned stays abandoned

While a run is abandoned its poll loop may be anywhere: between two rounds, waiting for the service, or applying
a status. The task that abandons it goes on wherever others have left alone what the run left behind. Whoever else is at
work then stands by, if it touches neither the run nor what that leaves behind; others may stop the loop as well. Once
all that was forgotten it stays so, until something is called for that touches it again.

* `Site.Unmoved`: nothing was done to what an abandoned run is about;
* `Parting.Stands`: the task that abandons it may go on, or has ended and left nothing behind;
* `StandsBy`: what may be done beside;
* `World.CallMove`, `World.CallHistory`: one thing that happens, and one after the other;
* `World.Leaving`, `World.CallMove.leaving`: **whatever happens leaves it so**;
* `World.abandon_final`: **what is abandoned stays abandoned**.
-/

namespace Cutover

/-- The site is as it was in what an abandoned run is about. -/
structure Site.Unmoved (x y : Site) : Prop where
  legacy : y.legacy = x.legacy
  pollTask : y.session.pollTask = x.session.pollTask

theorem Site.unmoved_of_session {x : Site} {s : Session} (hs : ∃ stateGate fetchGate latch streams,
    s = { x.session with stateGate, fetchGate, latch, streams }) : x.Unmoved { x with session := s } := by
  obtain ⟨_, _, _, _, rfl⟩ := hs
  exact ⟨rfl, rfl⟩

namespace World

variable {w w' : World}

/-- A session as the work knows it that abandons its run. -/
def parting (w : World) (n : Nat) : Parting := ⟨w.Loops n, w.Polling n, w.site n⟩

theorem unmoved_of_sessions {n : Nat} (hsite : w'.site n = { w.site n with session := w'.session n })
    (hsession : ∃ stateGate fetchGate latch streams,
      w'.session n = { w.session n with stateGate, fetchGate, latch, streams }) :
    (w.site n).Unmoved (w'.site n) := by
  rw [hsite]
  exact Site.unmoved_of_session hsession

end World

namespace Parting

open World
open Looped (Working)

variable {roles : Nat → Role} {began : Nat → Nat} {x y : Site} {stage stage' : Stage} {w w' : World}
  {n t : Nat} {task : Task}

/-! ## The task that abandons the run -/

/-- What is left once the work has ended normally. -/
abbrev Left (x : Site) : Prop := x.session.pollTask = none ∧ x.legacy.Forgotten

/-- The rest of the work keeps to the contract, and leaves nothing behind if it ends normally. -/
abbrev Goes (job : Job) (p : Parting) : Prop := job.Meets parting (fun r p' => ∀ a, r = .ok a → Left p'.site) p

/-- Work may go on after a wait. -/
def GoesOn (x : Site) (e : Effect) (next : e.Reply → Job) : Prop :=
  ∀ (r : e.Reply) (p : Parting), p.looped.Sound →
    Role.stops.Relies x.session.pollTask p.site.session.pollTask → (∀ other, e = .join other → ¬p.alive other) →
      (x.session.pollTask = none → p.site.legacy = x.legacy) → Goes (next r) p

/-- **The task that abandons the run of a session**, which is now as it is, and may go on or has ended. -/
inductive Stands (x : Site) : Stage → Prop
  | fresh {job : Job} (goes : ∀ p : Parting, p.looped.Sound → Goes job p) : Stands x (.fresh job)
  | waiting {e : Effect} {next : e.Reply → Job} {alarm : Option (Alarm e.Reply)} (goes : GoesOn x e next) :
    Stands x (.waiting e next alarm)
  | woken {e : Effect} {next : e.Reply → Job} {r : e.Reply} (goes : GoesOn x e next) :
    Stands x (.woken e next r)
  | ended {r : Except Exit Result} (left : ∀ a, r = .ok a → Left x) : Stands x (.ended r)

theorem Stands.turned {tells : Nat → Except Exit Result → Prop} {breaks : Prop} (h : Stands x stage)
    (hturned : Relation.ReflTransGen (Stage.Turned tells breaks) stage stage') : Stands x stage' := by
  refine Stage.Turned.carries hturned (fun _ _ => .fresh fun _ _ _ h => by cases h) (fun e next r r' hs => ?_) (fun e next alarm r hs => ?_) h
  · cases hs with
    | woken goes => exact .woken goes
  · cases hs with
    | waiting goes => exact .woken goes

theorem GoesOn.move {e : Effect} {next : e.Reply → Job} (h : GoesOn x e next)
    (hrelies : Role.stops.Relies x.session.pollTask y.session.pollTask)
    (hlegacy : x.session.pollTask = none → y.legacy = x.legacy) : GoesOn y e next := by
  refine fun r p hp hrelies' hjoin hlegacy' => h r p hp (hrelies.trans hrelies') hjoin fun hnone => ?_
  have hunknown : y.session.pollTask = none := hrelies.elim (fun hsame => hsame.trans hnone) id
  exact (hlegacy' hunknown).trans (hlegacy hnone)

theorem Stands.move (h : Stands x stage) (hrelies : Role.stops.Relies x.session.pollTask y.session.pollTask)
    (hlegacy : x.session.pollTask = none → y.legacy = x.legacy) : Stands y stage := by
  cases h with
  | fresh goes => exact .fresh goes
  | waiting goes => exact .waiting (goes.move hrelies hlegacy)
  | woken goes => exact .woken (goes.move hrelies hlegacy)
  | ended left =>
    refine .ended fun a ha => ?_
    obtain ⟨hunknown, hforgotten⟩ := left a ha
    exact ⟨hrelies.elim (fun hsame => hsame.trans hunknown) id, hlegacy hunknown ▸ hforgotten⟩

theorem Stands.unmoved (h : Stands x stage) (hxy : x.Unmoved y) : Stands y stage :=
  h.move (.inl hxy.pollTask) fun _ => hxy.legacy

theorem stands_conclude (ht : w.tasks[t]? = some task) (hloop : task.loop = none) {r : Except Exit Outturn}
    (hleft : ∀ a, r = .ok a → Left (w.site n)) :
    ∃ stage, (w.conclude t r).stage? t = some stage ∧ Stands ((w.conclude t r).site n) stage := by
  have hfinish : ∀ r : Except Exit Result, (∀ a, r = .ok a → Left (w.site n)) →
      ∃ stage, (w.finish t r).stage? t = some stage ∧ Stands ((w.finish t r).site n) stage := by
    intro r hleft
    have htold : Stirred (fun _ _ => True) True (w.setStage t (.ended r)) (w.finish t r) :=
      stirred_wakeWatchers fun _ _ _ _ _ _ => trivial
    have hended : (w.setStage t (.ended r)).tasks[t]? = some { task with stage := .ended r } := by
      simp [World.setStage, World.onTask, ht]
    obtain ⟨stage, hstage, hturned⟩ := htold.tasks t _ hended
    refine ⟨stage, by rw [World.stage?, hstage]; rfl, .turned ?_ hturned⟩
    exact (Stands.ended hleft).unmoved (unmoved_of_sessions ((indoors_finish w t r).site n) (htold.sessions n))
  unfold conclude
  split
  next e => exact hfinish (.error e) fun _ h => by cases h
  next r => exact hfinish (.ok r) fun _ _ => hleft _ rfl
  next =>
    split
    next b hb =>
      rw [ht] at hb
      cases hloop.symm.trans hb
    next => exact hfinish (.ok .nothing) fun _ _ => hleft _ rfl

/-- **It works** until it waits or has ended. -/
theorem run_parting {job : Job} (h : Working roles began .stops t n w) (ht : w.tasks[t]? = some task)
    (hloop : task.loop = none) (hgoes : Goes job (w.parting n)) :
    ∃ stage, (run t job w).stage? t = some stage ∧ Stands ((run t job w).site n) stage := by
  induction job generalizing w task with
  | done r => exact stands_conclude ht hloop hgoes
  | ask e next ih =>
    obtain ⟨hallows, hnext⟩ := hgoes
    have hother : e.isOther = true → (∀ r p', Looped.Leads .stops 0 (w.looped n) e r p'.looped ∧
        (e.isWait = true → Role.stops.Relies (w.session n).pollTask p'.site.session.pollTask) ∧
        ((e.isWait = true → (w.session n).pollTask = none) → p'.site.legacy = (w.site n).legacy) →
          parting.leads (w.parting n) e r p') →
        ∃ stage, (run t (.ask e next) w).stage? t = some stage ∧
          Stands ((run t (.ask e next) w).site n) stage := by
      intro he hleads
      have hastir : Astir (w.sessionOf t) w (w.perform t e).1 := astir_perform w t he
      have hmoved : (w.site n).Unmoved ((w.perform t e).1.site n) :=
        unmoved_of_sessions (site_perform w t he n) (hastir.sessions n)
      obtain ⟨stage, watchers, ht', -⟩ := hastir.onward t task ht
      have htaken := Looped.taken h hallows fun heq => by cases hallows.fork heq
      rw [run]
      generalize w.perform t e = done at hmoved ht' htaken
      cases htaken with
      | @reply w' r leads alive furthers known marks unbroken working =>
        exact ih r working ht' hloop (hnext r _ (hleads r _ ⟨leads.weaken, fun _ => .inl hmoved.pollTask,
          fun _ => hmoved.legacy⟩))
      | @wait w' alarm waits begins same live count unbroken =>
        refine ⟨_, stage?_setStage_self ht', .waiting fun r p hp hrelies hjoin hlegacy => ?_⟩
        have hresumes : (w.looped n).Resumes 0 p.looped := ⟨hp, fun i _ => .inr (Nat.zero_le i)⟩
        have hmeanwhile : Role.stops.Relies (w.session n).pollTask p.site.session.pollTask :=
          Role.Relies.trans (.inl hmoved.pollTask) hrelies
        refine hnext r p (hleads r p ⟨?_, fun _ => hmeanwhile, fun hnone => ?_⟩)
        · cases e with
          | join other => exact ⟨hresumes, hmeanwhile, hjoin other rfl⟩
          | acquire | sleep | storageTurn | send | watchLatch | receive => exact .inr ⟨rfl, hresumes⟩
          | _ => cases waits
        · exact (hlegacy (hmoved.pollTask.trans (hnone waits))).trans hmoved.legacy
    cases e with
    | look =>
      refine ih _ h ht hloop (hnext _ _ ⟨?_, rfl⟩)
      rw [h.sessionOf]
      rfl
    | change y =>
      have hsite : (w.setSite n y).site n = { y with now := w.now } := site_setSite h.exists_session y
      rw [run, perform, h.sessionOf]
      refine ih () (h.setSite (hallows.change y rfl)) ht hloop (hnext () _ ?_)
      show World.parting (w.setSite n y) n = _
      rw [World.parting, hsite]
      rfl
    | _ => exact hother rfl fun _ _ h => h

/-- **It goes on** until it waits or has ended. -/
theorem resume_parting (hw : Looped.Sane roles began w) (ht : w.tasks[t]? = some task)
    (hloop : task.loop = none) (hrole : roles t = .stops) (hstands : Stands (w.site task.session) task.stage) :
    ∃ stage, (w.resume t).stage? t = some stage ∧ Stands ((w.resume t).site task.session) stage := by
  have hthis : task.role roles t = .stops := by
    rw [Task.role, hloop]
    exact hrole
  have hidle : ∃ stage, w.stage? t = some stage ∧ Stands (w.site task.session) stage :=
    ⟨task.stage, by rw [World.stage?, ht]; rfl, hstands⟩
  have hstage : (w.tasks[t]?).map Task.stage = some task.stage := by
    rw [ht]
    rfl
  rw [resume, hstage]
  have hlooped := hw.stands t task ht
  have hworks : task.stage.works = true → Working roles began .stops t task.session w := fun hworks =>
    ⟨hw.toAttended, ⟨task, ht, rfl, hthis, hworks⟩, fun h => by cases h⟩
  cases hcase : task.stage with
  | waiting e next alarm => exact hidle
  | ended r => exact hidle
  | fresh job =>
    rw [hcase] at hstands hworks
    cases hstands with
    | fresh goes => exact run_parting (hworks rfl) ht hloop (goes _ (hw.sound _))
  | woken e next r =>
    rw [hcase] at hstands hworks hlooped
    have hsettle : Stirred (fun _ _ => False) False w (w.settleAtGate t e r) := stirred_settleAtGate w t e r
    obtain ⟨stage, ht', -⟩ := hsettle.tasks t task ht
    have hmoved : (w.site task.session).Unmoved ((w.settleAtGate t e r).site task.session) :=
      unmoved_of_sessions ((indoors_settleAtGate w t e r).site _) (hsettle.sessions _)
    have hsame : (w.settleAtGate t e r).looped task.session = w.looped task.session := hsettle.looped _
    cases hlooped with
    | woken joined _ =>
      cases hstands with
      | woken goes =>
        refine run_parting ((hworks rfl).stirred (fun _ _ h => h.elim) hsettle) ht' hloop ?_
        have hsound : ((w.settleAtGate t e r).looped task.session).Sound := hsame ▸ hw.sound _
        refine goes r _ hsound (.inl hmoved.pollTask) (fun other heq halive => ?_) fun _ => hmoved.legacy
        have hlives : ((w.settleAtGate t e r).looped task.session).alive other := halive
        rw [hsame] at hlives
        exact joined other heq hlives.2

end Parting

/-! ## Who stands by -/

/-- **Work stands by while the run of a session is abandoned** if it starts no poll loop and does not touch the
storage, nor in that session what the run leaves behind. -/
def StandsBy (n m : Nat) (ρ : Role) (cs : List Concern) : Prop :=
  ρ ≠ .starts ∧ .storage ∉ cs ∧ (m = n → .run ∉ cs ∧ .resources ∉ cs ∧ .configuration ∉ cs)

theorem standsBy_reader (n m stream : Nat) (id : String) (includeCurrent : Bool) :
    StandsBy n m .spares (Background.reader stream id includeCurrent).concerns :=
  ⟨by decide, by simp [Background.concerns], fun _ => by simp [Background.concerns]⟩

namespace World

open Touching (Tracked Touched)
open Looped (Sane Unawaited Spawns)

variable {asked : Nat → Action} {may : Nat → Action → Prop} {w₀ w w' : World} {n i t : Nat} {task : Task}

/-- **One thing that happens**: somebody calls for an action that may be called for or subscribes to the states of
a run, a task goes on, a wait ends, a task is cancelled, or something changes that has nothing to do with the run
and its poll loop. A loop is started only while no stop of its session waits for one to end. -/
inductive CallMove (asked : Nat → Action) (may : Nat → Action → Prop) : World → World → Prop
  | call {w : World} {n : Nat} {a : Action} (asks : asked w.tasks.length = a) (permitted : may n a)
    (known : n < w.sessions.length) : CallMove asked may w (w.spawn n (.ofOp a.op)).2
  | subscribe {w : World} {n stream : Nat} {id : String} {includeCurrent : Bool}
    (known : n < w.sessions.length) : CallMove asked may w (w.fork n (.reader stream id includeCurrent)).2
  | resume {w : World} {t : Nat} (starts : ∀ task : Task, w.tasks[t]? = some task →
      task.role (rolesOf asked) t = .starts → Spawns task.session w (w.resume t) →
        Unawaited (rolesOf asked) task.session w) : CallMove asked may w (w.resume t)
  | ring (w : World) (t : Nat) : CallMove asked may w (w.ring t)
  | serve (w : World) (t : Nat) : CallMove asked may w (w.wakeAtStorage t)
  | cancel (w : World) (t : Nat) : CallMove asked may w (w.cancel t)
  | elsewhere {w w' : World} (length : w'.sessions.length = w.sessions.length)
    (views : ∀ m, (w'.session m).pollView = (w.session m).pollView ∧ (w'.site m).legacy = (w.site m).legacy)
    (tasks : w'.tasks = w.tasks) : CallMove asked may w w'

/-- One thing happens after the other. -/
abbrev CallHistory (asked : Nat → Action) (may : Nat → Action → Prop) : World → World → Prop :=
  Relation.ReflTransGen (CallMove asked may)

theorem CallMove.loop (h : CallMove asked may w w') : LoopMove asked w w' := by
  cases h with
  | call asks permitted known => exact .call asks known
  | subscribe known => exact .subscribe known
  | resume starts => exact .resume starts
  | ring => exact .ring ..
  | serve => exact .serve ..
  | cancel => exact .cancel ..
  | elsewhere length views tasks => exact .elsewhere length (fun m => (views m).1) tasks

/-- **Every task keeps to its concerns**, whatever happens. -/
theorem CallMove.tracked (hw : Tracked asked none w) (h : CallMove asked may w w') : Tracked asked none w' := by
  cases h with
  | call asks permitted known =>
    refine hw.spawn known ?_
    rw [Task.concerns, asks]
    exact Touching.stands_ofOp (Action.touches _)
  | @subscribe n stream id includeCurrent known =>
    exact hw.spawn known (Touching.stands_ofRound (Background.reader stream id includeCurrent).touches.1)
  | @resume t _ =>
    cases ht : w.tasks[t]? with
    | none =>
      rwa [resume_of_ended fun task hi => by cases ht.symm.trans hi]
    | some task => exact (Touching.resume_touched hw ht).2
  | ring t => exact hw.stirred (stirred_ring w t)
  | serve t => exact hw.stirred (stirred_wakeAtStorage w t)
  | cancel t => exact hw.stirred (stirred_cancelWithin trivial _ w t)
  | elsewhere length views tasks => exact hw.of_tasks length tasks

/-- At most one loop of each session is alive, and every task keeps to its concerns. -/
structure Orderly (asked : Nat → Action) (w : World) : Prop where
  sane : Sane (rolesOf asked) (fun _ => 0) w
  tracked : Tracked asked none w

theorem CallMove.orderly (hw : Orderly asked w) (h : CallMove asked may w w') : Orderly asked w' :=
  ⟨(h.loop.sane hw.sane).1, h.tracked hw.tracked⟩

theorem CallHistory.orderly (hw : Orderly asked w) (h : CallHistory asked may w w') : Orderly asked w' := by
  induction h with
  | refl => exact hw
  | tail _ hmove ih => exact hmove.orderly ih

/-! ## A run is being abandoned -/

/-- A task is explained: it has ended, stands by, or is a poll loop of the session. -/
def Explained (asked : Nat → Action) (n : Nat) (w : World) (i : Nat) : Prop :=
  ∀ task : Task, w.tasks[i]? = some task → task.stage.verdict? = none →
    StandsBy n task.session (task.role (rolesOf asked) i) (task.concerns asked i) ∨ w.Loops n i

/-- **A task abandons the run of a session or has done so**, and all others are explained. -/
structure Leaving (asked : Nat → Action) (n t : Nat) (w : World) : Prop extends Orderly asked w where
  leaves : ∃ task : Task, w.tasks[t]? = some task ∧ task.session = n ∧ task.loop = none ∧
    Parting.Stands (w.site n) task.stage
  others : ∀ i, i ≠ t → Explained asked n w i

/-- Where nothing is done to the session, and to tasks nothing but to wake and to cancel them. -/
theorem Leaving.stirred (hw : Leaving asked n t w) (hmove : Orderly asked w')
    (hstirred : Stirred (fun _ _ => True) True w w') (hmoved : (w.site n).Unmoved (w'.site n)) :
    Leaving asked n t w' where
  toOrderly := hmove
  leaves := by
    obtain ⟨task, ht, hsession, hloop, hstands⟩ := hw.leaves
    obtain ⟨stage, ht', hturned⟩ := hstirred.tasks t task ht
    exact ⟨_, ht', hsession, hloop, (hstands.turned hturned).unmoved hmoved⟩
  others i hit task' hi' hlive := by
    obtain ⟨task, stage, hi, rfl, hturned⟩ := hstirred.before hi'
    rw [Loops, hstirred.badge?]
    exact hw.others i hit task hi ((Stage.Turned.verdict? hturned).symm.trans hlive)

theorem Leaving.spawn {m : Nat} {job : Job} {loop : Option Background} (hw : Leaving asked n t w)
    (hmove : Orderly asked (w.spawn m job loop).2)
    (hstandsBy : let task : Task := { session := m, loop, stage := .fresh job }
      StandsBy n m (task.role (rolesOf asked) w.tasks.length) (task.concerns asked w.tasks.length)) :
    Leaving asked n t (w.spawn m job loop).2 where
  toOrderly := hmove
  leaves := by
    obtain ⟨task, ht, hrest⟩ := hw.leaves
    exact ⟨task, (spawn_other (List.getElem?_eq_some_iff.mp ht).1).trans ht, hrest⟩
  others i hit task hi hlive := by
    rcases spawn_before hi with hi | ⟨rfl, rfl⟩
    · exact (hw.others i hit task hi hlive).imp_right fun hloops => (Looped.loops_spawn n i).mpr (.inr hloops)
    · exact .inl hstandsBy

theorem explained_of_touched {cs : List Concern} {m : Nat} (htouched : Touched cs t m w w')
    (hlive : w.verdict? t = none) (hfewer : ∀ m i, w'.Polling m i → w.Polling m i) (h : Explained asked n w i) :
    Explained asked n w' i := by
  intro task' hi' hlive'
  cases hi : w.tasks[i]? with
  | some task =>
    obtain ⟨stage, watchers, hthis, hturned⟩ := htouched.onward i task hi
    cases hi'.symm.trans hthis
    have hbefore : task.stage.verdict? = none := by
      by_cases hit : i = t
      · subst hit
        exact (verdict?_eq hi).symm.trans hlive
      · exact (Stage.Turned.verdict? (hturned hit)).symm.trans hlive'
    refine (h task hi hbefore).imp_right fun hloops => ?_
    rw [Loops, badge?_eq hi] at hloops
    rw [Loops, badge?_eq hi']
    exact hloops
  | none =>
    obtain ⟨-, b, hb, -⟩ := htouched.fresh i task' hi hi'
    cases b with
    | pollLoop =>
      have hpolls : w'.Polling task'.session i := by
        refine ⟨?_, (verdict?_eq hi').trans hlive'⟩
        rw [Loops, badge?_eq hi', hb]
      have hbefore := (hfewer _ _ hpolls).1
      rw [Loops, badge?, hi] at hbefore
      cases hbefore
    | reader stream id includeCurrent =>
      refine .inl ?_
      rw [Task.concerns, Task.role, hb]
      exact standsBy_reader ..

theorem legacy_of_touched {cs : List Concern} {ρ : Role} {m : Nat} (hw : Touched cs t m w w')
    (h : StandsBy n m ρ cs) : (w'.site n).legacy = (w.site n).legacy := by
  obtain ⟨-, hstorage, hhere⟩ := h
  have hsame : w'.storage = w.storage := hw.here .storage hstorage
  by_cases hm : m = n
  · subst hm
    obtain ⟨hrun, hresources, hconfiguration⟩ := hhere rfl
    exact Site.legacy_eq hw.store (hw.here .run hrun) (hw.here .resources hresources)
      (hw.here .configuration hconfiguration) hsame
  · have hmoved : (w.site n).Unmoved { w.site n with session := w'.session n } :=
      Site.unmoved_of_session (hw.apart n (Ne.symm hm))
    refine .trans ?_ hmoved.legacy
    exact Site.legacy_eq rfl rfl rfl rfl hsame

/-- A poll loop of the session that goes on is the one that is known, and stays so. -/
theorem known_of_loop (hw : Orderly asked w) (hi : w.tasks[i]? = some task) (hlive : task.stage.verdict? = none)
    (hloop : w.Loops n i) :
    (w.session n).pollTask = some i ∧ ((w.resume i).session n).pollTask = (w.session n).pollTask := by
  have hbadge : (task.session, task.loop) = (n, some .pollLoop) :=
    Option.some.inj ((badge?_eq hi).symm.trans hloop)
  have hconcerns : task.concerns asked i = Background.pollLoop.concerns := by
    rw [Task.concerns, show task.loop = some .pollLoop from congrArg Prod.snd hbadge]
  have htouched := (Touching.resume_touched hw.tracked hi).1
  rw [hconcerns, show task.session = n from congrArg Prod.fst hbadge] at htouched
  exact ⟨(hw.sane.sound n).single i ⟨hloop, (verdict?_eq hi).trans hlive⟩, htouched.here .loop (by decide)⟩

theorem role_of_explained (h : Explained asked n w i) (hi : w.tasks[i]? = some task)
    (hlive : task.stage.verdict? = none) : task.role (rolesOf asked) i ≠ .starts := by
  rcases h task hi hlive with hstandsBy | hloops
  · exact hstandsBy.1
  · rw [Loops, badge?_eq hi] at hloops
    rw [Task.role, show task.loop = some .pollLoop from congrArg Prod.snd (Option.some.inj hloops)]
    exact Role.noConfusion

theorem Leaving.role (hw : Leaving asked n t w) (hasked : asked t = .whole .abandon) (hi : w.tasks[i]? = some task)
    (hlive : task.stage.verdict? = none) : task.role (rolesOf asked) i ≠ .starts := by
  by_cases hit : i = t
  · subst hit
    obtain ⟨leaver, ht, -, hloop, -⟩ := hw.leaves
    cases hi.symm.trans ht
    have hrole : task.role (rolesOf asked) i = .stops := by
      rw [Task.role, hloop]
      exact congrArg Action.role hasked
    rw [hrole]
    exact Role.noConfusion
  · exact role_of_explained (hw.others i hit) hi hlive

/-- **Whoever goes on leaves it so.** -/
theorem Leaving.resume (hw : Leaving asked n t w) (hasked : asked t = .whole .abandon)
    (hmove : Orderly asked (w.resume i)) : Leaving asked n t (w.resume i) := by
  by_cases hgoes : ∃ task : Task, w.tasks[i]? = some task ∧ task.stage.verdict? = none
  · obtain ⟨task, hi, hlive⟩ := hgoes
    obtain ⟨leaver, ht, hsession, hloop, hstands⟩ := hw.leaves
    have hrole := hw.role hasked hi hlive
    have hran := Looped.resume_ran hw.sane.toAttended (hw.sane.sound _) hi fun hstarts => absurd hstarts hrole
    have hfewer : ∀ m i', (w.resume i).Polling m i' → w.Polling m i' := by
      intro m i' hi'
      by_cases hm : m = task.session
      · exact hm ▸ hran.fewer hrole i' (hm ▸ hi')
      · have halive : ((w.resume i).looped m).alive i' := hi'
        rwa [hran.apart m hm] at halive
    have hrelies : Role.stops.Relies (w.session n).pollTask ((w.resume i).session n).pollTask := by
      by_cases hn : n = task.session
      · exact hn ▸ hran.known hrole
      · exact .inl (congrArg Looped.known (hran.apart n hn))
    have htouched := (Touching.resume_touched hw.tracked hi).1
    obtain ⟨stage, watchers, ht', hturned⟩ := htouched.onward t leaver ht
    refine ⟨hmove, ⟨_, ht', hsession, hloop, ?_⟩, fun j hj =>
      explained_of_touched htouched ((verdict?_eq hi).trans hlive) hfewer (hw.others j hj)⟩
    by_cases hit : i = t
    · subst hit
      have hstops : rolesOf asked i = .stops := congrArg Action.role hasked
      obtain ⟨stage', hstage', hstands'⟩ := Parting.resume_parting hw.sane ht hloop hstops (hsession ▸ hstands)
      rw [World.stage?, ht'] at hstage'
      rw [hsession, ← Option.some.inj hstage'] at hstands'
      exact hstands'
    · have hstands' := hstands.turned (hturned (Ne.symm hit))
      rcases hw.others i hit task hi hlive with hstandsBy | hloops
      · exact hstands'.move hrelies fun _ => legacy_of_touched htouched hstandsBy
      · -- As long as a loop goes on nothing is said of what the run leaves behind.
        obtain ⟨hknown, hsame⟩ := known_of_loop hw.toOrderly hi hlive hloops
        refine hstands'.move (.inl hsame) fun hnone => ?_
        cases hknown.symm.trans hnone
  · rwa [resume_of_ended fun task hi hlive => hgoes ⟨task, hi, hlive⟩]

/-- **Whatever happens while a run is abandoned, and after that, leaves it so.** -/
theorem CallMove.leaving (hw : Leaving asked n t w) (hasked : asked t = .whole .abandon)
    (h : CallMove asked (fun m a => StandsBy n m a.role a.concerns) w w') : Leaving asked n t w' := by
  have hmove := h.orderly hw.toOrderly
  have hstirred : w.Indoors w' → Stirred (fun _ _ => True) True w w' → Leaving asked n t w' := by
    exact fun hindoors hstirred =>
      hw.stirred hmove hstirred (unmoved_of_sessions (hindoors.site n) (hstirred.sessions n))
  cases h with
  | call asks permitted known =>
    refine hw.spawn hmove ?_
    dsimp only
    rw [Task.concerns, Task.role, rolesOf, asks]
    exact permitted
  | @subscribe m stream id includeCurrent known =>
    exact hw.spawn hmove (standsBy_reader n m stream id includeCurrent)
  | resume => exact hw.resume hasked hmove
  | ring t => exact hstirred (indoors_ring w t) (stirred_ring w t)
  | serve t => exact hstirred (indoors_wakeAtStorage w t) (stirred_wakeAtStorage w t)
  | cancel t => exact hstirred (indoors_cancelWithin _ w t) (stirred_cancelWithin trivial _ w t)
  | elsewhere length views tasks =>
    obtain ⟨task, ht, hsession, hloop, hstands⟩ := hw.leaves
    obtain ⟨hview, hlegacy⟩ := views n
    refine ⟨hmove, ⟨task, tasks ▸ ht, hsession, hloop, hstands.unmoved ⟨hlegacy, congrArg Prod.fst hview⟩⟩,
      fun i hit task hi hlive => ?_⟩
    rw [tasks] at hi
    refine (hw.others i hit task hi hlive).imp_right fun hloops => ?_
    rwa [Loops, badge?, tasks]

theorem CallHistory.leaving (hw : Leaving asked n t w) (hasked : asked t = .whole .abandon)
    (h : CallHistory asked (fun m a => StandsBy n m a.role a.concerns) w w') : Leaving asked n t w' := by
  induction h with
  | refl => exact hw
  | tail _ hmove ih => exact hmove.leaving ih hasked

theorem orderly_of_start (htasks : w.tasks = []) (hknown : ∀ m, (w.session m).pollTask = none) :
    Orderly asked w := by
  have hnone : ∀ i : Nat, w.tasks[i]? = none := fun i => by rw [htasks]; rfl
  refine ⟨sane_of_start htasks hknown, fun i task hi => ?_, fun i task _ hi => ?_⟩
  all_goals cases (hnone i).symm.trans hi

theorem leaving_called (hw : Orderly asked w) (hn : n < w.sessions.length)
    (hasked : asked w.tasks.length = .whole .abandon) (hothers : ∀ i, Explained asked n w i) :
    Leaving asked n w.tasks.length (w.spawn n (.ofOp (Action.whole .abandon).op)).2 where
  toOrderly := by
    have hcall : CallMove asked (fun _ _ => True) w (w.spawn n (.ofOp (Action.whole .abandon).op)).2 :=
      .call hasked trivial hn
    exact hcall.orderly hw
  leaves := by
    refine ⟨_, spawn_new, rfl, rfl, .fresh fun p hp => ?_⟩
    refine Op.meets_map.mpr ((Parting.meets_action hp).mono fun r p' hp' a ha => ?_)
    cases r with
    | ok a' => exact hp'.legacy a' rfl
    | error e => cases ha
  others i hit task hi hlive := by
    rcases spawn_before hi with hi | ⟨rfl, -⟩
    · exact (hothers i task hi hlive).imp_right fun hloops => (Looped.loops_spawn n i).mpr (.inr hloops)
    · exact absurd rfl hit

/-- **Nothing is left of the run of a session**: it rests, nothing is stored, configured or kept, and nobody
polls. -/
structure Abandoned (n : Nat) (w : World) : Prop where
  state : (w.session n).state = {}
  mode : (w.session n).mode = none
  transfer : (w.session n).transfer = none
  stored : w.storage.table (w.session n).store = []
  flags : (w.session n).fragments.flags = []
  shards : (w.session n).fragments.shards = []
  resources : (w.session n).resources = none
  silent : ∀ i, ¬w.Polling n i

/-- **What is abandoned stays abandoned.** A run is abandoned at any time of a history. Of the tasks that are at
work then, all stand by or are poll loops of the session, whatever these are about to do; and none is called
for afterwards but such as stand by. Once the run was abandoned normally nothing is left of it, whoever went on
when, was cancelled, or still goes on. -/
theorem abandon_final (htasks : w₀.tasks = []) (hknown : ∀ m, (w₀.session m).pollTask = none)
    (hbefore : CallHistory asked (fun _ _ => True) w₀ w) (hn : n < w.sessions.length)
    (hasked : asked w.tasks.length = .whole .abandon)
    (hothers : ∀ (i : Nat) (task : Task), w.tasks[i]? = some task → w.verdict? i = none →
      StandsBy n task.session (task.role (rolesOf asked) i) (task.concerns asked i) ∨ w.Loops n i)
    (hafter : CallHistory asked (fun m a => StandsBy n m a.role a.concerns)
      (w.spawn n (.ofOp (Action.whole .abandon).op)).2 w')
    {r : Result} (hended : w'.verdict? w.tasks.length = some (.ok r)) : Abandoned n w' := by
  have horderly : Orderly asked w := hbefore.orderly (orderly_of_start htasks hknown)
  have hexplained : ∀ i, Explained asked n w i := fun i task hi hlive =>
    hothers i task hi ((verdict?_eq hi).trans hlive)
  have hleaving := hafter.leaving (leaving_called horderly hn hasked hexplained) hasked
  obtain ⟨task, ht, -, -, hstands⟩ := hleaving.leaves
  rw [verdict?_eq ht] at hended
  generalize task.stage = stage at hstands hended
  cases hstands with
  | ended left =>
    obtain ⟨hunknown, hforgotten⟩ := left r (Option.some.inj hended)
    refine ⟨hforgotten.state, hforgotten.mode, hforgotten.transfer, hforgotten.stored, hforgotten.flags,
      hforgotten.shards, hforgotten.resources, fun i hi => ?_⟩
    cases hunknown.symm.trans ((hleaving.sane.sound n).single i hi)
  | _ => cases hended

theorem callMove_resume {b : Nat × Option Background} (hbadge : w.badge? t = some b)
    (hrole : (if b.2.isSome then Role.spares else rolesOf asked t) ≠ .starts) : CallMove asked may w (w.resume t) := by
  refine .resume fun task ht hstarts => absurd ?_ hrole
  have hloop : task.loop = b.2 := congrArg Prod.snd (Option.some.inj ((badge?_eq ht).symm.trans hbadge))
  rwa [← hloop]

/-- A session with a run in progress, whose service takes its time to tell the status. -/
def slowStatus : World where
  sessions := [{
    state := .launched .dataOnly
    mode := some .dataOnly
    transfer := some .bulk
    fragments := { flags := [.target] }
    resources := some [] }]
  storage := { stores := [{ memory := [("current_phase", "data_migrating")] }] }
  script := { routes := [("/GetProgress", [{ Script.answering "" with delay := 2 }])] }

/-- The run is to be polled. -/
def toRead : World := (slowStatus.spawn 0 (.ofOp (Action.poll .start).op)).2

/-- Its status is being read. -/
def reading : World := (((toRead.resume 0).resume 1).ring 1).resume 1

/-- The run is to be abandoned. -/
def toAbandon : World := (reading.spawn 0 (.ofOp (Action.whole .abandon).op)).2

/-- The loop was cancelled, and the run is abandoned. -/
def abandoned : World := ((toAbandon.resume 2).resume 1).resume 2

/-- What the tasks were called for. -/
def startThenAbandon (t : Nat) : Action := if t = 0 then .poll .start else .whole .abandon

/-- A run is abandoned while its status is being read. -/
theorem abandoned_reading : reading.Polling 0 1 ∧ (reading.session 0).state.isRunning = true ∧
    Abandoned 0 abandoned := by
  have hstarts : CallMove startThenAbandon (fun _ _ => True) slowStatus toRead := .call rfl trivial Nat.one_pos
  have hstarted : CallMove startThenAbandon (fun _ _ => True) toRead (toRead.resume 0) := by
    refine .resume fun task ht _ _ => ?_
    cases ht
    rintro (_ | i) task hi - hrole
    · cases hi
      cases hrole
    · cases hi
  have hreads : CallHistory startThenAbandon (fun _ _ => True) slowStatus reading :=
    ((((Relation.ReflTransGen.single hstarts).tail hstarted).tail
      (callMove_resume (b := (0, some .pollLoop)) rfl (by decide))).tail (.ring _ 1)).tail
        (callMove_resume (b := (0, some .pollLoop)) rfl (by decide))
  have hothers : ∀ (i : Nat) (task : Task), reading.tasks[i]? = some task → reading.verdict? i = none →
      StandsBy 0 task.session (task.role (rolesOf startThenAbandon) i) (task.concerns startThenAbandon i) ∨
        reading.Loops 0 i := by
    rintro (_ | _ | i) task hi hlive
    · cases hlive
    · exact .inr rfl
    · cases hi
  have habandons : CallHistory startThenAbandon (fun m a => StandsBy 0 m a.role a.concerns) toAbandon abandoned :=
    ((Relation.ReflTransGen.single (callMove_resume (b := (0, none)) rfl (by decide))).tail
      (callMove_resume (b := (0, some .pollLoop)) rfl (by decide))).tail
        (callMove_resume (b := (0, none)) rfl (by decide))
  have hfresh : ∀ m, (slowStatus.session m).pollTask = none := by
    rintro (_ | m) <;> rfl
  exact ⟨⟨rfl, rfl⟩, rfl, abandon_final (r := .nothing) rfl hfresh hreads Nat.one_pos rfl hothers habandons rfl⟩

end World

end Cutover
