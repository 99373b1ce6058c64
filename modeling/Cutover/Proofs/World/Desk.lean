import Cutover.Proofs.Control.Desk
import Cutover.Proofs.World.Astir
import Mathlib.Logic.Function.Basic

/-!
# Who has the desk

Of all tasks that work for a session at most one has the desk, and only that one waits for the answer to a
request. Whatever a task does when it goes on, and whoever it wakes or cancels, leaves it so.

* `World.sendings`: what a task sends while it works, and the world in which it does;
* `Desk.Stands`, `Desk.Manned`: **every task may go on, and at most one has the desk**;
* `Desk.Eases`: nothing was done to desks and runs, as most effects do;
* `Desk.run_manned`, `Desk.resume_manned`: **a task that goes on keeps it so**.
-/

namespace Cutover

/-- The effect sends a request to launch a run. -/
def Effect.submits : Effect → Bool
  | .send m => m.isLaunch
  | _ => false

/-- The task has sent a request and has not gone on since: it waits for the answer, or has just got it. -/
def Stage.submits : Stage → Bool
  | .waiting e _ _ => e.submits
  | .woken e _ _ => e.submits
  | _ => false

namespace World

variable {w w' : World} {n t : Nat}

/-! ## What is sent -/

/-- What an effect sends. -/
def sending (w : World) : Effect → List (World × Message)
  | .send m => [(w, m)]
  | _ => []

/-- **What a task sends while it works**, each message with the world in which it is sent. -/
def sendings (t : Nat) : Job → World → List (World × Message)
  | .done _, _ => []
  | .ask e next, w => w.sending e ++
    match w.perform t e with
    | (w', .reply r) => sendings t (next r) w'
    | (_, .wait _) => []

/-- What a task sends when it goes on. -/
def sendingsOf (w : World) (t : Nat) : List (World × Message) :=
  match (w.tasks[t]?).map Task.stage with
  | some (.fresh job) => sendings t job w
  | some (.woken e next reply) => sendings t (next reply) (w.settleAtGate t e reply)
  | _ => []

theorem sent_perform (w : World) (t : Nat) (e : Effect) :
    (w.perform t e).1.sent = w.sent ++ (w.sending e).map Prod.snd := by
  have hindoors : w.Indoors (w.perform t e).1 → w.sending e = [] →
      (w.perform t e).1.sent = w.sent ++ (w.sending e).map Prod.snd := fun hindoors hnone => by
    rw [hindoors.sent, hnone, List.map_nil, List.append_nil]
  cases e with
  | send m =>
    rw [perform, send]
    dsimp only
    split <;> rfl
  | look => exact hindoors (.refl w) rfl
  | change x => exact (List.append_nil _).symm
  | _ => exact hindoors (indoors_perform w t rfl fun _ h => by cases h) rfl

theorem sent_run (t : Nat) (job : Job) (w : World) :
    (run t job w).sent = w.sent ++ (sendings t job w).map Prod.snd := by
  induction job generalizing w with
  | done r => rw [run, sendings, (indoors_conclude ..).sent, List.map_nil, List.append_nil]
  | ask e next ih =>
    have hsent := sent_perform w t e
    rw [run, sendings, List.map_append, ← List.append_assoc, ← hsent]
    cases w.perform t e with
    | mk w' uptake =>
      cases uptake with
      | reply r => exact ih r w'
      | wait alarm => exact (List.append_nil _).symm

/-- **What is sent when a task goes on** is what it sends while it works. -/
theorem sent_resume (w : World) (t : Nat) : (w.resume t).sent = w.sent ++ (w.sendingsOf t).map Prod.snd := by
  unfold resume sendingsOf
  cases (w.tasks[t]?).map Task.stage with
  | none => exact (List.append_nil _).symm
  | some stage =>
    cases stage with
    | fresh job => exact sent_run t job w
    | woken e next reply => exact (sent_run _ _ _).trans (by rw [(indoors_settleAtGate ..).sent])
    | _ => exact (List.append_nil _).symm

end World

namespace Desk

open World

variable {w w' : World} {n i t : Nat} {task : Task} {mine : Bool} {stage stage' : Stage} {out : Option Nat}
  {owns : Nat → Bool}

/-! ## Tasks that may go on -/

/-- The rest of the work of a task keeps to the contract, and does not keep the desk. -/
abbrev Goes (job : Job) (d : Desk) : Prop := job.Meets desk (fun _ d' => d'.Has false) d

/-- Work may go on after a wait. -/
def GoesOn (mine : Bool) (e : Effect) (next : e.Reply → Job) : Prop :=
  ∀ (r : e.Reply) (d : Desk), d.Has mine → d.before = d.isTaken → Goes (next r) d

/-- **A task that may go on**, and has the desk or does not have it. Who waits for the answer to a request has
it. -/
inductive Stands : Bool → Stage → Prop
  | fresh {job : Job} (goes : ∀ d : Desk, d.Fresh → Goes job d) : Stands false (.fresh job)
  | waiting {mine : Bool} {e : Effect} {next : e.Reply → Job} {alarm : Option (Alarm e.Reply)}
    (has : e.submits = true → mine = true) (goes : GoesOn mine e next) : Stands mine (.waiting e next alarm)
  | woken {mine : Bool} {e : Effect} {next : e.Reply → Job} {r : e.Reply}
    (has : e.submits = true → mine = true) (goes : GoesOn mine e next) : Stands mine (.woken e next r)
  | ended {r : Except Exit Result} : Stands false (.ended r)

theorem Stands.has (h : Stands mine stage) (hsubmits : stage.submits = true) : mine = true := by
  cases h with
  | fresh => cases hsubmits
  | waiting has => exact has hsubmits
  | woken has => exact has hsubmits
  | ended => cases hsubmits

theorem Stands.turned {tells : Nat → Except Exit Result → Prop} {breaks : Prop} (h : Stands mine stage)
    (hturned : Relation.ReflTransGen (Stage.Turned tells breaks) stage stage') : Stands mine stage' := by
  refine Stage.Turned.carries hturned (fun job hs => ?_) (fun e next r r' hs => ?_) (fun e next alarm r hs => ?_) h
  · cases hs with
    | fresh => exact .fresh fun d hd => ⟨hd.sound, hd.mine⟩
  · cases hs with
    | woken has goes => exact .woken has goes
  · cases hs with
    | waiting has goes => exact .woken has goes

theorem stands_ofOp {op : Op Result} (h : ∀ d : Desk, d.Fresh → op.Meets desk (Op.Upheld (Has false) fun _ => True) d) :
    Stands false (.fresh (.ofOp op)) :=
  .fresh fun d hd => Op.meets_map.mpr ((h d hd).mono fun _ _ hd' => hd'.1)

theorem stands_ofRound {op : Op Bool} (h : op.Upholding desk (Has false)) :
    Stands false (.fresh (.ofRound op)) :=
  .fresh fun d hd => Op.meets_map.mpr ((h d ⟨hd.sound, hd.mine⟩).mono fun _ _ hd' => hd'.1)

/-- **Every task may go on, and at most one of those that work for a session has its desk**, which is then
taken. Of the task that works its stage says nothing. -/
structure Manned (out : Option Nat) (owns : Nat → Bool) (w : World) : Prop where
  known : ∀ (i : Nat) (task : Task), w.tasks[i]? = some task → task.session < w.sessions.length
  stands : ∀ (i : Nat) (task : Task), out ≠ some i → w.tasks[i]? = some task → Stands (owns i) task.stage
  taken : ∀ i, owns i = true → ∃ task : Task, w.tasks[i]? = some task ∧ (w.session task.session).launching = true
  single : ∀ (i j : Nat) (task task' : Task), w.tasks[i]? = some task → w.tasks[j]? = some task' →
    owns i = true → owns j = true → task.session = task'.session → i = j
  sound : ∀ m, (w.session m).state.Sound

/-- Nothing was done to desks and runs, and every task may go on as it might. -/
structure Eases (w w' : World) : Prop where
  length : w'.sessions.length = w.sessions.length
  desks : ∀ m, (w'.session m).launching = (w.session m).launching ∧ (w'.session m).state = (w.session m).state
  onward : ∀ (i : Nat) (task : Task), w.tasks[i]? = some task →
    ∃ task' : Task, w'.tasks[i]? = some task' ∧ task'.session = task.session
  back : ∀ (i : Nat) (task' : Task), w'.tasks[i]? = some task' →
    (∃ task : Task, w.tasks[i]? = some task ∧ task'.session = task.session ∧
      ∀ mine, Stands mine task.stage → Stands mine task'.stage) ∨
    w.tasks[i]? = none ∧ task'.session < w.sessions.length ∧ Stands false task'.stage

theorem Manned.eases (h : Manned out owns w) (hw : Eases w w') : Manned out owns w' where
  known i task' hi' := by
    rw [hw.length]
    rcases hw.back i task' hi' with ⟨task, hi, hsession, -⟩ | ⟨-, hknown, -⟩
    · rw [hsession]
      exact h.known i task hi
    · exact hknown
  stands i task' hout hi' := by
    rcases hw.back i task' hi' with ⟨task, hi, -, hstands⟩ | ⟨hnone, -, hstands⟩
    · exact hstands _ (h.stands i task hout hi)
    · cases howns : owns i with
      | false => exact hstands
      | true =>
        obtain ⟨task, hi, -⟩ := h.taken i howns
        cases hnone.symm.trans hi
  taken i hi := by
    obtain ⟨task, htask, htaken⟩ := h.taken i hi
    obtain ⟨task', htask', hsession⟩ := hw.onward i task htask
    exact ⟨task', htask', by rw [hsession, (hw.desks _).1, htaken]⟩
  single i j task task' hi hj hown hown' hsame := by
    obtain ⟨before, hbefore, -⟩ := h.taken i hown
    obtain ⟨before', hbefore', -⟩ := h.taken j hown'
    obtain ⟨_, hi', hsession⟩ := hw.onward i before hbefore
    obtain ⟨_, hj', hsession'⟩ := hw.onward j before' hbefore'
    cases hi.symm.trans hi'
    cases hj.symm.trans hj'
    exact h.single i j before before' hbefore hbefore' hown hown' (hsession.symm.trans (hsame.trans hsession'))
  sound m := by
    rw [(hw.desks m).2]
    exact h.sound m

/-! ## What eases -/

theorem eases_of_tasks (hlength : w'.sessions.length = w.sessions.length)
    (hdesks : ∀ m, (w'.session m).launching = (w.session m).launching ∧
      (w'.session m).state = (w.session m).state) (htasks : w'.tasks = w.tasks) : Eases w w' where
  length := hlength
  desks := hdesks
  onward i task hi := ⟨task, by rw [htasks, hi], rfl⟩
  back i task hi := .inl ⟨task, by rw [← htasks, hi], rfl, fun _ h => h⟩

theorem eases_of_stirred {tells : Nat → Except Exit Result → Prop} {breaks : Prop}
    (h : Stirred tells breaks w w') : Eases w w' where
  length := h.length
  desks m := by
    obtain ⟨_, _, _, _, hm⟩ := h.sessions m
    rw [hm]
    exact ⟨rfl, rfl⟩
  onward i task hi := by
    obtain ⟨stage, hi', -⟩ := h.tasks i task hi
    exact ⟨_, hi', rfl⟩
  back i task' hi' := by
    obtain ⟨task, stage, hi, rfl, hturned⟩ := h.before hi'
    exact .inl ⟨task, hi, rfl, fun _ hstands => hstands.turned hturned⟩

theorem eases_spawn {job : Job} {loop : Option Background} (hn : n < w.sessions.length)
    (hjob : Stands false (.fresh job)) : Eases w (w.spawn n job loop).2 where
  length := rfl
  desks _ := ⟨rfl, rfl⟩
  onward i task hi := ⟨task, (spawn_other (List.getElem?_eq_some_iff.mp hi).1).trans hi, rfl⟩
  back i task hi := by
    rcases spawn_before hi with hi | ⟨rfl, rfl⟩
    · exact .inl ⟨task, hi, rfl, fun _ h => h⟩
    · exact .inr ⟨List.getElem?_eq_none (Nat.le_refl _), hn, hjob⟩

theorem eases_of_astir (hn : n < w.sessions.length) (h : Astir n w w') : Eases w w' where
  length := h.length
  desks m := by
    obtain ⟨_, _, _, _, hm⟩ := h.sessions m
    rw [hm]
    exact ⟨rfl, rfl⟩
  onward i task hi := by
    obtain ⟨stage, watchers, hi', -⟩ := h.onward i task hi
    exact ⟨_, hi', rfl⟩
  back i task' hi' := by
    rcases h.before hi' with ⟨task, stage, watchers, hi, rfl, hturned⟩ | ⟨hnone, rfl, b, -, hfresh⟩
    · exact .inl ⟨task, hi, rfl, fun _ hstands => hstands.turned hturned⟩
    · rw [hfresh]
      exact .inr ⟨hnone, hn, stands_ofRound (keeps_background b).1⟩

/-! ## A task works -/

theorem Manned.working (h : Manned none owns w) : Manned (some t) owns w :=
  { h with stands := fun i task _ => h.stands i task nofun }

theorem Manned.settled (h : Manned (some t) owns w) (hstands : Stands (owns t) stage) :
    Manned none owns (w.setStage t stage) := by
  have hbefore : ∀ (i : Nat) (task' : Task), (w.setStage t stage).tasks[i]? = some task' →
      ∃ task, w.tasks[i]? = some task ∧ task'.session = task.session ∧
        task'.stage = if t = i then stage else task.stage := by
    intro i task' hi
    obtain ⟨task, hbefore, rfl⟩ := onTask_before hi
    refine ⟨task, hbefore, ?_⟩
    split <;> exact ⟨rfl, rfl⟩
  refine ⟨fun i task' hi' => ?_, fun i task' _ hi' => ?_, fun i hi => ?_, fun i j task task' hi hj => ?_, h.sound⟩
  · obtain ⟨task, hi, hsession, -⟩ := hbefore i task' hi'
    exact hsession ▸ h.known i task hi
  · obtain ⟨task, hi, -, hstage⟩ := hbefore i task' hi'
    rw [hstage]
    split
    next hit => exact hit ▸ hstands
    next hit => exact h.stands i task (fun hout => hit (Option.some.inj hout)) hi
  · obtain ⟨task, htask, htaken⟩ := h.taken i hi
    by_cases hit : t = i
    · subst hit
      exact ⟨{ task with stage }, World.tasks_setStage_self htask, htaken⟩
    · exact ⟨task, (World.tasks_setStage_ne hit).trans htask, htaken⟩
  · obtain ⟨before, hbefore_i, hsession, -⟩ := hbefore i task hi
    obtain ⟨before', hbefore_j, hsession', -⟩ := hbefore j task' hj
    rw [hsession, hsession']
    exact h.single i j before before' hbefore_i hbefore_j

/-- **A task works**, and sees the desk of its session as it is. -/
structure Works (owns : Nat → Bool) (t n : Nat) (w : World) (d : Desk) : Prop extends Manned (some t) owns w where
  task : ∃ task : Task, w.tasks[t]? = some task ∧ task.session = n
  site : d.site = w.site n
  mine : d.mine = owns t

namespace Works

variable {d : Desk}

theorem sessionOf (h : Works owns t n w d) : w.sessionOf t = n := by
  obtain ⟨task, ht, hsession⟩ := h.task
  simp only [World.sessionOf, ht, hsession]

theorem length (h : Works owns t n w d) : n < w.sessions.length := by
  obtain ⟨task, ht, rfl⟩ := h.task
  exact h.known t task ht

theorem session (h : Works owns t n w d) : d.site.session = w.session n := congrArg Site.session h.site

theorem inOrder (h : Works owns t n w d) : d.Sound where
  sound := by
    rw [h.session]
    exact h.sound n
  held hmine := by
    obtain ⟨task, ht, htaken⟩ := h.taken t (h.mine.symm.trans hmine)
    obtain ⟨task', ht', rfl⟩ := h.task
    cases ht.symm.trans ht'
    rw [isTaken, h.session]
    exact htaken

/-- Who does not have the desk of the session works for another, or the desk is not that of who works. -/
theorem apart (h : Works owns t n w d) {task : Task} (hi : w.tasks[i]? = some task) (hown : owns i = true)
    (hit : i ≠ t) (hsession : task.session = n) : d.isTaken = true ∧ d.mine = false := by
  obtain ⟨task', ht', hsession'⟩ := h.task
  constructor
  · obtain ⟨_, hi', htaken⟩ := h.taken i hown
    cases hi.symm.trans hi'
    rw [isTaken, h.session, ← hsession]
    exact htaken
  · cases hmine : d.mine with
    | false => rfl
    | true =>
      exact absurd (h.single i t task task' hi ht' hown (h.mine.symm.trans hmine)
        (hsession.trans hsession'.symm)) hit

/-- Where somebody else has the desk it stays taken, and who works does not get it. -/
theorem kept {y : Site} (hallows : desk.allows d (.change y)) (htaken : d.isTaken = true) (hmine : d.mine = false) :
    y.session.launching = true ∧ (d.after y).mine = false := by
  have hkept : y.session.launching = true := by
    cases hgiven : y.session.launching with
    | true => rfl
    | false => cases hmine.symm.trans (hallows.2 htaken hgiven)
  refine ⟨hkept, ?_⟩
  rw [after_of_taken (hkept.trans htaken.symm)]
  exact hmine

/-- Who has the desk after a change has found it free or had it, and it is taken. -/
theorem taken_of_mine {y : Site} (h : Works owns t n w d) (hmine : (d.after y).mine = true) :
    y.session.launching = true := by
  by_cases hsame : y.session.launching = d.isTaken
  · rw [after_of_taken hsame] at hmine
    exact hsame.trans (h.inOrder.held hmine)
  · rw [after, if_neg hsame] at hmine
    exact hmine

theorem changed {y : Site} (h : Works owns t n w d) (hallows : desk.allows d (.change y)) :
    Works (Function.update owns t (d.after y).mine) t n (w.setSite n y) (d.after y) := by
  have hsame : ∀ i, i ≠ t → Function.update owns t (d.after y).mine i = owns i :=
    fun i hi => Function.update_of_ne hi _ _
  have hself : Function.update owns t (d.after y).mine t = (d.after y).mine := Function.update_self ..
  have hhere : (w.setSite n y).session n = y.session := congrArg Site.session (site_setSite h.length y)
  -- Of two who have the desk of the session one would be somebody else who had it before.
  have hother : ∀ (i : Nat) (task : Task), i ≠ t → w.tasks[i]? = some task → owns i = true →
      task.session = n → (d.after y).mine = false := by
    intro i task hi htask hown hsession
    obtain ⟨htaken, hmine⟩ := h.apart htask hown hi hsession
    exact (kept hallows htaken hmine).2
  refine ⟨⟨fun i task hi => ?_, fun i task hout hi => ?_, fun i hi => ?_, fun i j task task' hi hj hown hown' hsession => ?_,
    fun m => ?_⟩, h.task, ?_, hself.symm⟩
  · rw [World.setSite, List.length_set]
    exact h.known i task hi
  · rw [hsame i fun hit => hout (congrArg some hit.symm)]
    exact h.stands i task hout hi
  · by_cases hit : i = t
    · subst hit
      obtain ⟨task, ht, hsession⟩ := h.task
      refine ⟨task, ht, ?_⟩
      rw [hsession, hhere]
      exact h.taken_of_mine (hself.symm.trans hi)
    · rw [hsame i hit] at hi
      obtain ⟨task, htask, htaken⟩ := h.taken i hi
      refine ⟨task, htask, ?_⟩
      by_cases hsession : task.session = n
      · obtain ⟨htaken, hmine⟩ := h.apart htask hi hit hsession
        rw [hsession, hhere]
        exact (kept hallows htaken hmine).1
      · rw [session_setSite_ne hsession]
        exact htaken
  · obtain ⟨before, ht, hmine⟩ := h.task
    by_cases hit : i = t
    · subst hit
      by_cases hjt : j = i
      · exact hjt.symm
      · cases ht.symm.trans hi
        rw [hsame j hjt] at hown'
        cases (hother j task' hjt hj hown' (hsession.symm.trans hmine)).symm.trans (hself.symm.trans hown)
    · rw [hsame i hit] at hown
      by_cases hjt : j = t
      · subst hjt
        cases ht.symm.trans hj
        cases (hother i task hit hi hown (hsession.trans hmine)).symm.trans (hself.symm.trans hown')
      · rw [hsame j hjt] at hown'
        exact h.single i j task task' hi hj hown hown' hsession
  · by_cases hm : m = n
    · rw [hm, hhere]
      exact hallows.1
    · rw [session_setSite_ne hm]
      exact h.sound m
  · rw [site_setSite h.length, after, h.site]
    rfl

theorem eased (h : Works owns t n w d) (hw : Eases w w') : Works owns t n w' { d with site := w'.site n } where
  toManned := h.toManned.eases hw
  task := by
    obtain ⟨task, ht, hsession⟩ := h.task
    obtain ⟨task', ht', hsession'⟩ := hw.onward t task ht
    exact ⟨task', ht', hsession'.trans hsession⟩
  site := rfl
  mine := h.mine

end Works

theorem manned_conclude (h : Manned (some t) owns w) (howns : owns t = false) (r : Except Exit Outturn) :
    Manned none owns (w.conclude t r) := by
  have hfinish : ∀ r, Manned none owns (w.finish t r) := by
    intro r
    have htold : Stirred (fun _ _ => True) False (w.setStage t (.ended r)) (w.finish t r) :=
      stirred_wakeWatchers fun _ _ _ _ _ _ => trivial
    have hended : Stands (owns t) (.ended r) := by
      rw [howns]
      exact .ended
    exact (h.settled hended).eases (eases_of_stirred htold)
  unfold conclude
  split
  · exact hfinish _
  · exact hfinish _
  · split
    next b _ =>
      have hround : Stands (owns t) (.fresh (.ofRound b.round)) := by
        rw [howns]
        exact stands_ofRound (keeps_background b).2
      exact (h.settled hround).eases (eases_of_tasks rfl (fun _ => ⟨rfl, rfl⟩) rfl)
    · exact hfinish _

theorem stands_of_waits {d : Desk} {e : Effect} {next : e.Reply → Job} {alarm : Option (Alarm e.Reply)}
    (h : Works owns t n w d) (hwait : e.isWait = true) (hgoes : Goes (.ask e next) d) :
    Stands (owns t) (.waiting e next alarm) := by
  obtain ⟨hallows, hnext⟩ := hgoes
  refine .waiting (fun hsubmits => ?_) fun r d' hd' hbefore => hnext r d' ?_
  · cases e with
    | send m => exact h.mine.symm.trans (hallows hsubmits).1
    | _ => cases hsubmits
  · have hleads : d.Leads e d' := ⟨hd'.2.trans h.mine.symm, hd'.1, .inr ⟨hwait, hbefore⟩⟩
    cases e with
    | look => cases hwait
    | change y => cases hwait
    | _ => exact hleads

/-- **A task that works keeps it so**, and whatever it submits it submits at a desk that was free when it went
on, while no run is in progress. -/
theorem run_manned {job : Job} {d : Desk} (h : Works owns t n w d) (hgoes : Goes job d) :
    (∃ owns', Manned none owns' (run t job w)) ∧ ∀ v m, (v, m) ∈ sendings t job w → m.isLaunch = true →
      d.before = false ∧ (v.session n).state.isRunning = false := by
  induction job generalizing owns w d with
  | done r =>
    refine ⟨⟨owns, manned_conclude h.toManned (h.mine.symm.trans hgoes.2) r⟩, fun v m hmem => ?_⟩
    cases hmem
  | ask e next ih =>
    obtain ⟨hallows, hnext⟩ := hgoes
    have hnow : ∀ v m, (v, m) ∈ w.sending e → m.isLaunch = true →
        d.before = false ∧ (v.session n).state.isRunning = false := by
      intro v m hmem hlaunch
      cases e with
      | send m =>
        cases List.mem_singleton.mp hmem
        obtain ⟨-, hbefore, hrests⟩ := hallows hlaunch
        rw [isRunning, h.session] at hrests
        exact ⟨hbefore, hrests⟩
      | _ => cases hmem
    have hreply : ∀ {r : e.Reply} {w' : World} {owns' : Nat → Bool} {d' : Desk}, w.perform t e = (w', .reply r) →
        Works owns' t n w' d' → desk.leads d e r d' → d'.before = d.before →
        (∃ owns', Manned none owns' (run t (.ask e next) w)) ∧
          ∀ v m, (v, m) ∈ sendings t (.ask e next) w → m.isLaunch = true →
            d.before = false ∧ (v.session n).state.isRunning = false := by
      intro r w' owns' d' hperform hworks hleads hbefore
      obtain ⟨hmanned, hlater⟩ := ih r hworks (hnext r d' hleads)
      rw [run, sendings, hperform]
      refine ⟨hmanned, fun v m hmem hlaunch => ?_⟩
      rcases List.mem_append.mp hmem with hmem | hmem
      · exact hnow v m hmem hlaunch
      · rw [← hbefore]
        exact hlater v m hmem hlaunch
    have hother : e.isOther = true → (∀ r d', d.Leads e d' → desk.leads d e r d') →
        (∃ owns', Manned none owns' (run t (.ask e next) w)) ∧
          ∀ v m, (v, m) ∈ sendings t (.ask e next) w → m.isLaunch = true →
            d.before = false ∧ (v.session n).state.isRunning = false := by
      intro he hleads
      have heases : Eases w (w.perform t e).1 := eases_of_astir (h.sessionOf ▸ h.length) (astir_perform w t he)
      have hworks := h.eased heases
      cases hperform : w.perform t e with
      | mk w' uptake =>
        rw [hperform] at heases hworks
        cases uptake with
        | reply r =>
          refine hreply hperform hworks (hleads r _ ⟨rfl, hworks.inOrder, .inl ⟨rfl, ?_, ?_⟩⟩) rfl
          · rw [isTaken, isTaken, h.session]
            exact (heases.desks n).1
          · rw [isRunning, isRunning, h.session]
            exact congrArg _ (heases.desks n).2
        | wait alarm =>
          rw [run, sendings, hperform]
          refine ⟨⟨owns, hworks.settled (stands_of_waits h (isWait_of_perform hperform) ⟨hallows, hnext⟩)⟩,
            fun v m hmem => ?_⟩
          rw [List.append_nil] at hmem
          exact hnow v m hmem
    cases e with
    | look => exact hreply (by rw [perform, h.sessionOf]) h ⟨h.site.symm, rfl⟩ rfl
    | change y =>
      have hperform : w.perform t (.change y) = (w.setSite n y, .reply ()) := by rw [perform, h.sessionOf]
      exact hreply hperform (h.changed hallows) rfl rfl
    | _ => exact hother rfl fun _ _ h => h

/-- **A task that goes on keeps it so.** -/
theorem resume_manned (h : Manned none owns w) (t : Nat) :
    (∃ owns', Manned none owns' (w.resume t)) ∧ ∀ v m, (v, m) ∈ w.sendingsOf t → m.isLaunch = true →
      (w.session (w.sessionOf t)).launching = false ∧ (v.session (w.sessionOf t)).state.isRunning = false := by
  have hidle : (∃ owns', Manned none owns' w) ∧ ∀ v m, (v, m) ∈ ([] : List (World × Message)) →
      m.isLaunch = true → (w.session (w.sessionOf t)).launching = false ∧
        (v.session (w.sessionOf t)).state.isRunning = false := ⟨⟨owns, h⟩, fun v m hmem => by cases hmem⟩
  have hworks : ∀ {w' : World} {task : Task}, w.tasks[t]? = some task → Eases w w' →
      Works owns t (w.sessionOf t) w' ⟨owns t, (w.session (w.sessionOf t)).launching, w'.site (w.sessionOf t)⟩ := by
    intro w' task ht heases
    obtain ⟨task', ht', hsession⟩ := heases.onward t task ht
    refine ⟨(h.eases heases).working, ⟨task', ht', hsession.trans ?_⟩, rfl, rfl⟩
    simp only [World.sessionOf, ht]
  unfold resume sendingsOf
  cases ht : w.tasks[t]? with
  | none => exact hidle
  | some task =>
    have hstands := h.stands t task (Option.some_ne_none t).symm ht
    cases hstage : task.stage with
    | waiting e next alarm => simpa only [Option.map_some, hstage] using hidle
    | ended r => simpa only [Option.map_some, hstage] using hidle
    | fresh job =>
      simp only [Option.map_some, hstage]
      have hthis := hworks ht (eases_of_tasks rfl (fun _ => ⟨rfl, rfl⟩) rfl)
      rw [hstage] at hstands
      generalize hmine : owns t = mine at hstands hthis
      cases hstands with
      | fresh goes => exact run_manned hthis (goes _ ⟨hthis.inOrder, rfl, rfl⟩)
    | woken e next r =>
      simp only [Option.map_some, hstage]
      have hsettle : Stirred (fun _ _ => False) False w (w.settleAtGate t e r) := stirred_settleAtGate w t e r
      have heases := eases_of_stirred hsettle
      have hthis := hworks ht heases
      rw [hstage] at hstands
      generalize hmine : owns t = mine at hstands hthis
      cases hstands with
      | woken has goes =>
        refine run_manned hthis (goes r _ ⟨hthis.inOrder, rfl⟩ ?_)
        exact ((heases.desks _).1).symm

end Desk

end Cutover
