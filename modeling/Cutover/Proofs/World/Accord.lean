import Cutover.Proofs.Work.Accord
import Cutover.Proofs.World.Waking

/-!
# Worlds keep an accord

Where all work keeps to an accord, what the accord says of a session holds whenever no task works: each
task relies on it when it goes on, and has restored it when it waits or ends. Who goes on when, who is
cancelled and when a wait ends makes no difference.

* `Accord.Stands`: a task that can go on wherever the accord holds;
* `Accord.Kept`: **what holds all through a history**;
* `Accord.Harmless`: what the effects of one task do to the others;
* `Accord.run_kept`: a task that works keeps it, until it waits or ends;
* `Accord.Move`, `Accord.History`: one thing that happens, and one after the other.
-/

namespace Cutover

namespace Accord

variable {V : Type} (A : Accord V)

/-- What a stretch of work comes to is what may be given. -/
def Turns : Outturn → Prop
  | .result r => A.gives r
  | .again => True

/-- The rest of the work of a task keeps to the accord. -/
def Goes (anew : Bool) (job : Job) (s : Stretch V) : Prop :=
  job.Meets (A.contract anew) (A.Well anew A.Turns) s

/-- **A task that can go on wherever the accord holds.** -/
inductive Stands (anew : Bool) : Stage → Prop
  | fresh {job : Job} (goes : ∀ v, A.holds v → A.Goes anew job ⟨v, v⟩) : Stands anew (.fresh job)
  | waiting {e : Effect} {next : e.Reply → Job} {alarm : Option (Alarm e.Reply)}
    (rings : ∀ a, alarm = some a → A.Ends e a.reply)
    (goes : ∀ r v, A.Ends e r → A.holds v → A.Goes anew (next r) ⟨v, v⟩) :
    Stands anew (.waiting e next alarm)
  | woken {e : Effect} {next : e.Reply → Job} {r : e.Reply} (ends : A.Ends e r)
    (goes : ∀ r v, A.Ends e r → A.holds v → A.Goes anew (next r) ⟨v, v⟩) :
    Stands anew (.woken e next r)
  | ended {r : Except Exit Result} (results : A.Comes A.gives r) : Stands anew (.ended r)

variable (anew : Nat → Bool)

/-- Every task works for a session that there is and can go on where the accord holds, and the service
answers as the accord says. While a task works, its stage is still the one it went on from. -/
structure Staffed (w : World) : Prop where
  replies : ∀ m, w.script.Replies m fun l => A.answers m l.outcome
  known : ∀ (i : Nat) (task : Task), w.tasks[i]? = some task → task.session < w.sessions.length
  stands : ∀ (i : Nat) (task : Task), w.tasks[i]? = some task → A.Stands (anew i) task.stage

/-- **What holds all through a history.** -/
structure Kept (w : World) : Prop extends Staffed A anew w where
  holds : ∀ n, n < w.sessions.length → A.holds (A.view (w.session n))

/-- What is seen of every session, save one that is worked for, stays; and every task that could go on
still can. -/
structure Harmless (out : Option Nat) (w w' : World) : Prop where
  length : w'.sessions.length = w.sessions.length
  views : ∀ n, out ≠ some n → A.view (w'.session n) = A.view (w.session n)
  sessions : ∀ (i : Nat) (task : Task), w.tasks[i]? = some task →
    ∃ task' : Task, w'.tasks[i]? = some task' ∧ task'.session = task.session
  staffed : A.Staffed anew w → A.Staffed anew w'

variable {A} {anew} {w w' w'' : World} {out : Option Nat} {n i t : Nat} {task : Task}

/-! ## Results and replies -/

theorem goes_ofOp {b : Bool} {op : Op Result} {s : Stretch V}
    (h : op.Meets (A.contract b) (A.Well b A.gives) s) : A.Goes b (.ofOp op) s :=
  meets_map (q := A.Turns) (f := Outturn.result) h fun _ hr => hr

theorem goes_ofRound {b : Bool} {op : Op Bool} {s : Stretch V} (h : A.Keeping b op)
    (hs : A.Settled b s) : A.Goes b (.ofRound op) s := by
  refine keeps_map (q := A.Turns) h (fun another _ => ?_) s hs
  cases another with
  | true => trivial
  | false => exact A.gives_nothing

theorem stands_ofOp {b : Bool} {op : Op Result} (h : A.Keeps b A.gives op) :
    A.Stands b (.fresh (.ofOp op)) := .fresh fun _ hv => goes_ofOp (h _ (settled_fresh hv))

theorem stands_ofRound {b : Bool} {op : Op Bool} (h : A.Keeping b op) :
    A.Stands b (.fresh (.ofRound op)) := .fresh fun _ hv => goes_ofRound h (settled_fresh hv)

theorem ends_brokenOff {e : Effect} {r : e.Reply} (h : e.brokenOff = some r) : A.Ends e r := by
  cases e <;> cases h <;> trivial

theorem ends_afterCancel {e : Effect} {r : e.Reply} (h : A.Ends e r) :
    A.Ends e (e.afterCancel r) := by
  cases e <;> first | exact h | trivial

theorem ends_join {other : Nat} {r : Except Exit Result} (h : A.Comes A.gives r) :
    A.Ends (.join other) (.back (outcomeOf r)) := by
  cases r with
  | ok _ => trivial
  | error e => exact h

theorem Stands.turned {tells : Nat → Except Exit Result → Prop} {breaks : Prop} {b : Bool} {stage stage' : Stage}
    (htells : ∀ other r, tells other r → A.Comes A.gives r) (h : A.Stands b stage)
    (hturned : Relation.ReflTransGen (Stage.Turned tells breaks) stage stage') : A.Stands b stage' := by
  induction hturned with
  | refl => exact h
  | tail _ hstep ih =>
    cases hstep with
    | cancelled => exact .fresh fun v hv => ⟨settled_fresh hv, A.exits_cancelled⟩
    | again =>
      cases ih with
      | woken ends goes => exact .woken (ends_afterCancel ends) goes
    | broken may breaksOff apart =>
      cases ih with
      | waiting rings goes => exact .woken (ends_brokenOff breaksOff) goes
    | rings =>
      cases ih with
      | waiting rings goes => exact .woken (rings _ rfl) goes
    | told told =>
      cases ih with
      | waiting rings goes => exact .woken (ends_join (htells _ _ told)) goes
    | enters =>
      cases ih with
      | waiting rings goes => exact .woken trivial goes
    | served =>
      cases ih with
      | waiting rings goes => exact .woken trivial goes
    | raised =>
      cases ih with
      | waiting rings goes => exact .woken trivial goes
    | handed =>
      cases ih with
      | waiting rings goes => exact .woken trivial goes

/-! ## What does no harm -/

namespace Harmless

theorem refl (w : World) : A.Harmless anew out w w :=
  ⟨rfl, fun _ _ => rfl, fun _ task h => ⟨task, h, rfl⟩, fun h => h⟩

theorem trans (h : A.Harmless anew out w w') (h' : A.Harmless anew out w' w'') :
    A.Harmless anew out w w'' where
  length := h'.length.trans h.length
  views n hn := (h'.views n hn).trans (h.views n hn)
  sessions i task hi := by
    obtain ⟨task', hi', hsession⟩ := h.sessions i task hi
    obtain ⟨task'', hi'', hsession'⟩ := h'.sessions i task' hi'
    exact ⟨task'', hi'', hsession'.trans hsession⟩
  staffed hw := h'.staffed (h.staffed hw)

theorem same (h : A.Harmless anew none w w') (n : Nat) :
    A.view (w'.session n) = A.view (w.session n) :=
  h.views n nofun

theorem of_none (h : A.Harmless anew none w w') : A.Harmless anew out w w' :=
  { h with views := fun n _ => h.same n }

theorem of_tasks (hlength : w'.sessions.length = w.sessions.length)
    (hviews : ∀ n, out ≠ some n → A.view (w'.session n) = A.view (w.session n))
    (htasks : w'.tasks = w.tasks)
    (hreplies : (∀ m, w.script.Replies m fun l => A.answers m l.outcome) →
      ∀ m, w'.script.Replies m fun l => A.answers m l.outcome) : A.Harmless anew out w w' where
  length := hlength
  views := hviews
  sessions i task hi := ⟨task, by rw [htasks, hi], rfl⟩
  staffed hw :=
    ⟨hreplies hw.replies, by rw [htasks, hlength]; exact hw.known, by rw [htasks]; exact hw.stands⟩

theorem kept (h : A.Harmless anew none w w') (hw : A.Kept anew w) : A.Kept anew w' where
  toStaffed := h.staffed hw.toStaffed
  holds n hn := by
    rw [h.same n]
    exact hw.holds n (h.length ▸ hn)

/-- **To wake and to cancel tasks does no harm.** -/
theorem of_stirred {tells : Nat → Except Exit Result → Prop} {breaks : Prop}
    (htells : ∀ other r, tells other r → A.Comes A.gives r) (h : World.Stirred tells breaks w w') :
    A.Harmless anew out w w' where
  length := h.length
  views m _ := by
    obtain ⟨stateGate, fetchGate, latch, streams, hm⟩ := h.sessions m
    rw [hm]
    exact A.blind _ stateGate fetchGate latch streams _
  sessions i task hi := by
    obtain ⟨stage, hi', -⟩ := h.tasks i task hi
    exact ⟨_, hi', rfl⟩
  staffed hw := by
    refine ⟨fun m => h.replies m _ (hw.replies m), fun i task' hi' => ?_, fun i task' hi' => ?_⟩
    all_goals obtain ⟨task, stage, hi, rfl, hturned⟩ := h.before hi'
    · rw [h.length]
      exact hw.known i task hi
    · exact (hw.stands i task hi).turned htells hturned

theorem of_silent (h : World.Stirred (fun _ _ => False) True w w') : A.Harmless anew out w w' :=
  .of_stirred (fun _ _ h => h.elim) h

end Harmless

theorem harmless_onTask {f : Task → Task} (hsession : ∀ task, (f task).session = task.session)
    (hstands : ∀ task, w.tasks[i]? = some task → A.Stands (anew i) task.stage →
      A.Stands (anew i) (f task).stage) : A.Harmless anew out w (w.onTask i f) where
  length := rfl
  views _ _ := rfl
  sessions j task hj := by
    by_cases hij : i = j
    · subst hij
      exact ⟨f task, by simp [World.onTask, hj], hsession task⟩
    · exact ⟨task, by simp [World.onTask, hj, hij], rfl⟩
  staffed hw := by
    refine ⟨hw.replies, fun j task hj => ?_, fun j task hj => ?_⟩
    all_goals obtain ⟨before, hbefore, rfl⟩ := World.onTask_before hj
    · have hknown := hw.known j before hbefore
      split
      · rw [hsession]
        exact hknown
      · exact hknown
    · have hbefore_stands := hw.stands j before hbefore
      split
      next hij =>
        subst hij
        exact hstands before hbefore hbefore_stands
      next => exact hbefore_stands

theorem harmless_setStage {stage : Stage}
    (hstands : ∀ task, w.tasks[i]? = some task → A.Stands (anew i) task.stage →
      A.Stands (anew i) stage) : A.Harmless anew out w (w.setStage i stage) :=
  harmless_onTask (fun _ => rfl) hstands

/-! ## New tasks -/

theorem harmless_spawn {job : Job} {loop : Option Background} (hn : n < w.sessions.length)
    (hjob : A.Stands (anew w.tasks.length) (.fresh job)) :
    A.Harmless anew out w (w.spawn n job loop).2 where
  length := rfl
  views _ _ := rfl
  sessions i task hi := ⟨task, (World.spawn_other (List.getElem?_eq_some_iff.mp hi).1).trans hi, rfl⟩
  staffed hw := by
    refine ⟨hw.replies, fun i task hi => ?_, fun i task hi => ?_⟩
    all_goals rcases World.spawn_before hi with hi | ⟨rfl, rfl⟩
    · exact hw.known i task hi
    · exact hn
    · exact hw.stands i task hi
    · exact hjob

/-- The work in the background keeps to an accord. -/
def KeepsBackground (A : Accord V) : Prop :=
  ∀ (anew : Bool) (b : Background), A.Keeping anew b.begin ∧ A.Keeping anew b.round

theorem harmless_fork (hback : A.KeepsBackground) (hn : n < w.sessions.length) (b : Background) :
    A.Harmless anew out w (w.fork n b).2 := harmless_spawn hn (stands_ofRound (hback _ b).1)

/-! ## A task works -/

/-- **What comes of an effect**: the contract leads on, or a wait begins. -/
inductive Taken (A : Accord V) (anew : Nat → Bool) (n : Nat) (w : World) (s : Stretch V) (e : Effect) :
    World × Uptake e.Reply → Prop
  | reply {w' : World} {r : e.Reply} {q : Stretch V} (leads : A.Leads s e r q)
    (start : q.start = s.start) (now : A.view (w'.session n) = q.now)
    (harmless : A.Harmless anew (some n) w w') : Taken A anew n w s e (w', .reply r)
  | wait {w' : World} {alarm : Option (Alarm e.Reply)} (waits : e.isWait = true)
    (harmless : A.Harmless anew none w w') (rings : ∀ a, alarm = some a → A.Ends e a.reply) :
    Taken A anew n w s e (w', .wait alarm)

theorem taken_harmless {s : Stretch V} {e : Effect} {r : e.Reply} (hnow : A.view (w.session n) = s.now)
    (he : e.isOther = true) (hr : A.Ends e r) (h : A.Harmless anew none w w') :
    Taken A anew n w s e (w', .reply r) := by
  refine .reply (q := s) ?_ rfl ((h.same n).trans hnow) h.of_none
  cases e <;> first | exact ⟨hr, .inl rfl⟩ | cases he

/-- **A world does what the contract says.** -/
theorem taken {s : Stretch V} (e : Effect) (hback : A.KeepsBackground)
    (hw : A.Staffed anew w) (ht : w.sessionOf t = n) (hn : n < w.sessions.length)
    (hnow : A.view (w.session n) = s.now) : Taken A anew n w s e (w.perform t e) := by
  subst ht
  cases e with
  | look => exact .reply (q := s) ⟨rfl, hnow⟩ rfl hnow (.refl w)
  | change x =>
    have hview : (w.setSite (w.sessionOf t) x).session (w.sessionOf t) = x.session :=
      congrArg Site.session (World.site_setSite hn x)
    refine .reply (q := { s with now := A.view x.session }) rfl rfl (by rw [hview]) ?_
    refine .of_tasks (by simp [World.setSite]) (fun m hm => ?_) rfl fun h => h
    rw [World.session_setSite_ne fun h => hm (congrArg some h.symm)]
  | acquire g =>
    cases hg : ((w.session (w.sessionOf t)).gate g).enter? with
    | some g' =>
      rw [World.perform, show w.acquire t g = (_, .reply (.back ())) by simp only [World.acquire, hg]; rfl]
      exact taken_harmless hnow rfl trivial (.of_silent (World.stirred_setGate _ w (fun _ => g') g))
    | none =>
      rw [World.perform, show w.acquire t g = (_, .wait none) by simp only [World.acquire, hg]; rfl]
      exact .wait rfl (.of_silent (World.stirred_setGate _ w _ g)) fun _ h => by cases h
  | release g => exact taken_harmless hnow rfl trivial (.of_silent (World.stirred_callAtGate ..))
  | sleep d =>
    refine .wait rfl (.refl w) fun a ha => ?_
    cases ha
    trivial
  | storageTurn =>
    rw [World.perform, World.awaitStorage]
    split
    · exact taken_harmless hnow rfl trivial (.refl w)
    · exact .wait rfl (.of_tasks rfl (fun _ _ => rfl) rfl fun h => h) fun _ h => by cases h
  | send m =>
    have hanswer := (hw.replies m).now
    have hsent : A.Harmless anew none w
        { w with script := (w.script.next m).2, sent := w.sent ++ [m] } :=
      .of_tasks rfl (fun _ _ => rfl) rfl fun h m' => (h m').after m
    rw [World.perform, World.send]
    dsimp only
    split
    · exact taken_harmless hnow rfl hanswer hsent
    · refine .wait rfl hsent fun a ha => ?_
      cases ha
      exact hanswer
  | join other =>
    rw [World.perform, World.join]
    split
    next result hresult =>
      refine taken_harmless hnow rfl ?_ (.refl w)
      obtain ⟨task, htask, hstage⟩ := Option.map_eq_some_iff.mp hresult
      have hstands := hw.stands other task htask
      rw [hstage] at hstands
      cases hstands with
      | ended results => exact ends_join results
    next => exact .wait rfl (harmless_onTask (fun _ => rfl) fun _ _ h => h) fun _ h => by cases h
    next => exact taken_harmless hnow rfl trivial (.refl w)
  | hasEnded other => exact taken_harmless hnow rfl trivial (.refl w)
  | fork b => exact taken_harmless hnow rfl trivial (harmless_fork hback hn b)
  | cancel other => exact taken_harmless hnow rfl trivial (.of_silent (World.stirred_cancelWithin trivial _ w other))
  | watchLatch d =>
    rw [World.perform, World.watchLatch]
    split
    · exact taken_harmless hnow rfl trivial (.refl w)
    · exact .wait rfl (.refl w) fun _ _ => trivial
  | raiseLatch => exact taken_harmless hnow rfl trivial (.of_silent (World.stirred_raiseLatch w _))
  | publish item => exact taken_harmless hnow rfl trivial (.of_silent (World.stirred_publish w _ item))
  | receive stream =>
    cases htake : w.take? (w.sessionOf t) stream with
    | some taken =>
      obtain ⟨item, w'⟩ := taken
      rw [show w.perform t (.receive stream) = (w', .reply (.back item)) by
        simp only [World.perform, htake]]
      refine taken_harmless hnow rfl trivial ?_
      unfold World.take? at htake
      split at htake
      · cases htake
        exact .of_silent (World.stirred_onSession (fun _ => ⟨_, _, _, _, rfl⟩) _ w)
      · cases htake
    | none =>
      rw [show w.perform t (.receive stream) = (w, .wait none) by simp only [World.perform, htake]]
      exact .wait rfl (.refl w) fun _ _ => trivial

/-- What came of the work of a task for a session. -/
structure Ran (A : Accord V) (anew : Nat → Bool) (t n : Nat) (start : V) (w w' : World) : Prop where
  kept : A.Kept anew w'
  length : w'.sessions.length = w.sessions.length
  others : ∀ m, m ≠ n → A.view (w'.session m) = A.view (w.session m)
  granted : A.Grants (anew t) start (A.view (w'.session n))

/-- Where the accord holds again, a task comes to a stage from which it can go on. -/
theorem kept_of_settled {s : Stretch V} (hw : A.Staffed anew w)
    (hothers : ∀ m, m ≠ n → m < w.sessions.length → A.holds (A.view (w.session m)))
    (hnow : A.view (w.session n) = s.now) (hs : A.Settled (anew t) s)
    (h : A.Harmless anew none w w') : A.Ran anew t n s.start w w' where
  kept := h.kept
    { hw with
      holds := fun m hm => by
        by_cases hmn : m = n
        · rw [hmn, hnow]
          exact hs.holds
        · exact hothers m hmn hm }
  length := h.length
  others m _ := h.same m
  granted := by
    rw [h.same n, hnow]
    exact hs.granted

theorem harmless_finish {r : Except Exit Result} (hr : A.Comes A.gives r) (w : World) (t : Nat) :
    A.Harmless anew out w (w.finish t r) := by
  have htold : World.Stirred (fun _ r' => r' = r) False (w.setStage t (.ended r)) (w.finish t r) :=
    World.stirred_wakeWatchers fun _ _ _ _ _ _ => rfl
  refine (harmless_setStage fun _ _ _ => .ended hr).trans (.of_stirred ?_ htold)
  rintro - _ rfl
  exact hr

theorem harmless_conclude (hback : A.KeepsBackground) {r : Except Exit Outturn}
    (hr : A.Comes A.Turns r) (w : World) (t : Nat) : A.Harmless anew out w (w.conclude t r) := by
  unfold World.conclude
  split
  next e => exact harmless_finish (r := .error e) hr w t
  next r => exact harmless_finish (r := .ok r) hr w t
  next =>
    split
    next b _ =>
      have hround : A.Stands (anew t) (.fresh (.ofRound b.round)) := stands_ofRound (hback _ b).2
      exact (harmless_setStage fun _ _ _ => hround).trans
        (.of_tasks rfl (fun _ _ => rfl) rfl fun h => h)
    next => exact harmless_finish (r := .ok .nothing) A.gives_nothing w t

/-- **A task that works keeps the accord**, until it waits or ends. -/
theorem run_kept (hback : A.KeepsBackground) {job : Job} {s : Stretch V} (hw : A.Staffed anew w)
    (ht : w.tasks[t]? = some task) (hsession : task.session = n)
    (hothers : ∀ m, m ≠ n → m < w.sessions.length → A.holds (A.view (w.session m)))
    (hnow : A.view (w.session n) = s.now) (hgoes : A.Goes (anew t) job s) :
    A.Ran anew t n s.start w (World.run t job w) := by
  induction job generalizing w s task with
  | done r =>
    obtain ⟨hs, hr⟩ := hgoes
    exact kept_of_settled hw hothers hnow hs (harmless_conclude hback hr w t)
  | ask e next ih =>
    obtain ⟨hallows, hnext⟩ := hgoes
    have hknown : n < w.sessions.length := hsession ▸ hw.known t task ht
    have htaken := taken (s := s) e hback hw
      (show w.sessionOf t = n by simp only [World.sessionOf, ht, hsession]) hknown hnow
    rw [World.run]
    generalize w.perform t e = x at htaken
    cases htaken with
    | @reply w' r s' leads start now harmless =>
      obtain ⟨task', ht', hsession'⟩ := harmless.sessions t task ht
      have hrest := ih r (harmless.staffed hw) ht' (hsession'.trans hsession) (fun m hm hlt => by
        rw [harmless.views m fun h => hm (Option.some.inj h).symm]
        exact hothers m hm (harmless.length ▸ hlt)) now (hnext r s' leads)
      refine ⟨hrest.kept, hrest.length.trans harmless.length, fun m hm => ?_, start ▸ hrest.granted⟩
      exact (hrest.others m hm).trans (harmless.views m fun h => hm (Option.some.inj h).symm)
    | @wait w' alarm waits harmless rings =>
      refine kept_of_settled hw hothers hnow (hallows waits) (harmless.trans ?_)
      refine harmless_setStage fun _ _ _ => .waiting rings fun r v hr hv => hnext r _ ?_
      cases e <;> first | exact ⟨hr, .inr ⟨rfl, v, hv, rfl⟩⟩ | cases waits

/-- **A task that goes on keeps the accord**, and does to its session what it may. -/
theorem resume_kept (hback : A.KeepsBackground) (hw : A.Kept anew w) (t : Nat) :
    A.Kept anew (w.resume t) ∧ (w.resume t).sessions.length = w.sessions.length ∧
      ∀ m, A.Grants (anew t) (A.view (w.session m)) (A.view ((w.resume t).session m)) := by
  have hrun : ∀ {w' : World} {job : Job} {task : Task}, A.Harmless anew none w w' →
      w'.tasks[t]? = some task → (∀ v, A.holds v → A.Goes (anew t) job ⟨v, v⟩) →
      A.Kept anew (World.run t job w') ∧ (World.run t job w').sessions.length = w.sessions.length ∧
        ∀ m, A.Grants (anew t) (A.view (w.session m)) (A.view ((World.run t job w').session m)) := by
    intro w' job task h ht hgoes
    have hw' := h.kept hw
    have hran := run_kept hback hw'.toStaffed ht rfl (fun m _ hm => hw'.holds m hm) rfl
      (hgoes _ (hw'.holds _ (hw'.known t task ht)))
    refine ⟨hran.kept, hran.length.trans h.length, fun m => ?_⟩
    rw [← h.same m]
    by_cases hm : m = task.session
    · rw [hm]
      exact hran.granted
    · rw [hran.others m hm]
      exact grants_refl _
  unfold World.resume
  split
  next job hstage =>
    obtain ⟨task, ht, hfresh⟩ := Option.map_eq_some_iff.mp hstage
    have hstands := hw.stands t task ht
    rw [hfresh] at hstands
    cases hstands with
    | fresh goes => exact hrun (.refl w) ht goes
  next e next r hstage =>
    obtain ⟨task, ht, hwoken⟩ := Option.map_eq_some_iff.mp hstage
    have hstands := hw.stands t task ht
    rw [hwoken] at hstands
    have hsettle : A.Harmless anew none w (w.settleAtGate t e r) :=
      .of_silent (World.stirred_settleAtGate w t e r)
    obtain ⟨task', ht', -⟩ := hsettle.sessions t task ht
    cases hstands with
    | woken ends goes => exact hrun hsettle ht' fun v hv => goes r v ends hv
  next => exact ⟨hw, rfl, fun m => grants_refl _⟩

/-! ## Histories -/

/-- **One thing that happens**: somebody calls for an action or subscribes to the states of a run, a
task goes on, a wait ends, a task is cancelled, or something changes that the accord does not see. -/
inductive Move (A : Accord V) (permits : Nat → Action → Prop) : World → World → Prop
  | call {w : World} {n : Nat} {a : Action} (permitted : permits w.tasks.length a)
    (known : n < w.sessions.length) : Move A permits w (w.spawn n (.ofOp a.op)).2
  | subscribe {w : World} {n : Nat} {b : Background} (known : n < w.sessions.length) :
    Move A permits w (w.fork n b).2
  | resume (w : World) (t : Nat) : Move A permits w (w.resume t)
  | ring (w : World) (t : Nat) : Move A permits w (w.ring t)
  | serve (w : World) (t : Nat) : Move A permits w (w.wakeAtStorage t)
  | cancel (w : World) (t : Nat) : Move A permits w (w.cancel t)
  | elsewhere {w w' : World} (length : w'.sessions.length = w.sessions.length)
    (views : ∀ n, A.view (w'.session n) = A.view (w.session n)) (tasks : w'.tasks = w.tasks)
    (replies : ∀ m, w'.script.Replies m fun l => A.answers m l.outcome) : Move A permits w w'

/-- One thing happens after the other. -/
abbrev History (A : Accord V) (permits : Nat → Action → Prop) : World → World → Prop :=
  Relation.ReflTransGen (Move A permits)

variable {permits : Nat → Action → Prop}

theorem Move.cases_resume (hback : A.KeepsBackground)
    (hpermits : ∀ t a, permits t a → A.Keeps (anew t) A.gives a.op) (h : Move A permits w w') :
    A.Harmless anew none w w' ∨ ∃ t, w' = w.resume t := by
  cases h with
  | call permitted known => exact .inl (harmless_spawn known (stands_ofOp (hpermits _ _ permitted)))
  | subscribe known => exact .inl (harmless_fork hback known _)
  | resume t => exact .inr ⟨t, rfl⟩
  | ring t => exact .inl (.of_silent (World.stirred_ring w t))
  | serve t => exact .inl (.of_silent (World.stirred_wakeAtStorage w t))
  | cancel t => exact .inl (.of_silent (World.stirred_cancelWithin trivial _ w t))
  | elsewhere length views tasks replies =>
    exact .inl (.of_tasks length (fun n _ => views n) tasks fun _ => replies)

/-- **Whatever happens keeps the accord.** -/
theorem move_kept (hback : A.KeepsBackground)
    (hpermits : ∀ t a, permits t a → A.Keeps (anew t) A.gives a.op) (hw : A.Kept anew w)
    (h : Move A permits w w') : A.Kept anew w' := by
  rcases h.cases_resume hback hpermits with hharmless | ⟨t, rfl⟩
  · exact hharmless.kept hw
  · exact (resume_kept hback hw t).1

/-- **A history keeps the accord.** -/
theorem history_kept (hback : A.KeepsBackground)
    (hpermits : ∀ t a, permits t a → A.Keeps (anew t) A.gives a.op) (hw : A.Kept anew w)
    (h : History A permits w w') : A.Kept anew w' := by
  induction h with
  | refl => exact hw
  | tail _ hmove ih => exact move_kept hback hpermits ih hmove

end Accord

end Cutover
