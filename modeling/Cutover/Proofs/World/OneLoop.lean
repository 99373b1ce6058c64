import Cutover.Proofs.World.Astir
import Cutover.Proofs.World.Looping
import Mathlib.Logic.Function.Basic

/-!
# At most one poll loop

As long as no loop is started while a stop waits for one to end, a session has at most one poll loop that is
alive, it knows which one that is, and a stop that ends normally leaves none but such as were started after
it had begun.

* `Looped.Working`: a task at work, which may do what its role says;
* `Looped.run_ran`: **what a task does to the loops** until it waits or ends;
* `World.LoopMove`, `World.LoopHistory`: one thing that happens, and one after the other;
* `World.LoopMove.sane`: **whatever happens leaves at most one loop alive**.
-/

namespace Cutover

namespace Looped

variable {roles : Nat → Role} {began : Nat → Nat} {ρ : Role} {w w' : World} {n t : Nat} {task : Task}

/-- **A task at work for a session.** Its stage is still the one it went on from. Once it has started a loop
that the session does not know yet, no stop waits for one to end. -/
structure Working (roles : Nat → Role) (began : Nat → Nat) (ρ : Role) (t n : Nat) (w : World) : Prop
    extends Attended roles began w where
  works : ∃ task : Task, w.tasks[t]? = some task ∧ task.session = n ∧ task.role roles t = ρ ∧
    task.stage.works = true
  clear : ρ = .starts → (w.looped n).Sound ∨ Unawaited roles n w

theorem goes_ofRound {op : Op Bool} (hop : op.Spares true) {since : Nat} {s : Looped} (hs : s.Sound) :
    Goes .spares since (.ofRound op) s :=
  Op.meets_map.mpr ((keeps_marks hop (by decide) s hs).mono fun _ _ hs' =>
    ⟨hs'.sound, fun hstops => by cases hstops⟩)

theorem Unawaited.stirred {tells : Nat → Except Exit Result → Prop} {breaks : Prop} (h : Unawaited roles n w)
    (hstirred : World.Stirred tells breaks w w') : Unawaited roles n w' := by
  intro i task' hi' hsession hrole
  obtain ⟨task, stage, hi, rfl, hturned⟩ := hstirred.before hi'
  exact Stage.Turned.awaitsEnd hturned (h i task hi hsession hrole)

theorem Unawaited.spawn {job : Job} {loop : Option Background} (h : Unawaited roles n w) (m : Nat) :
    Unawaited roles n (w.spawn m job loop).2 := by
  intro i task hi hsession hrole
  rcases World.spawn_before hi with hi | ⟨rfl, rfl⟩
  · exact h i task hi hsession hrole
  · rfl

namespace Working

variable (h : Working roles began ρ t n w)
include h

theorem stirred {tells : Nat → Except Exit Result → Prop} {breaks : Prop}
    (htells : ∀ other r, tells other r → w.verdict? other ≠ none)
    (hstirred : World.Stirred tells breaks w w') :
    Working roles began ρ t n w' where
  toAttended := h.toAttended.stirred htells hstirred
  works := by
    obtain ⟨task, ht, hsession, hrole, hworks⟩ := h.works
    obtain ⟨stage, ht', hturned⟩ := hstirred.tasks t task ht
    exact ⟨_, ht', hsession, hrole, Stage.Turned.works hturned hworks⟩
  clear hstarts := by
    rw [hstirred.looped]
    exact (h.clear hstarts).imp_right fun hclear => hclear.stirred hstirred

theorem exists_session : n < w.sessions.length := by
  obtain ⟨task, ht, rfl, -⟩ := h.works
  exact h.known t task ht

theorem sessionOf : w.sessionOf t = n := by
  obtain ⟨task, ht, hsession, -⟩ := h.works
  simp only [World.sessionOf, ht, hsession]

theorem live : w.verdict? t = none := by
  obtain ⟨task, ht, -, -, hworks⟩ := h.works
  exact (World.verdict?_eq ht).trans (Stage.verdict?_of_works hworks)

theorem setSite {x : Site} (hmay : ρ.May (w.Polling n) (w.session n).pollTask x.session.pollTask) :
    Working roles began ρ t n (w.setSite n x) where
  toAttended := h.toAttended.setSite x h.exists_session hmay h.clear
  works := h.works
  clear hstarts := by
    subst hstarts
    refine (h.clear rfl).imp (fun hsound => ?_) fun hclear => hclear
    rw [looped_setSite x h.exists_session]
    exact sound_seen hsound (hsound.may hmay)

theorem fork (b : Background) (hclear : b = .pollLoop → Unawaited roles n w) :
    Working roles began ρ t n (w.fork n b).2 where
  toAttended := h.toAttended.spawn h.exists_session fun _ _ hs => goes_ofRound b.spares.1 hs
  works := by
    obtain ⟨task, ht, hrest⟩ := h.works
    exact ⟨task, (World.spawn_other (List.getElem?_eq_some_iff.mp ht).1).trans ht, hrest⟩
  clear hstarts := by
    cases b with
    | pollLoop => exact .inr ((hclear rfl).spawn n)
    | reader stream id includeCurrent =>
      have hsame : (w.fork n (.reader stream id includeCurrent)).2.looped n = w.looped n :=
        looped_spawn_other fun hloop => by cases hloop.2
      rw [hsame]
      exact (h.clear hstarts).imp_right fun hclear => hclear.spawn n

theorem waits {e : Effect} {next : e.Reply → Job} {alarm : Option (Alarm e.Reply)}
    (hsilent : ∀ other, e = .join other → alarm.isNone = true)
    (hgoes : GoesOn ρ (began t) (w.looped n) e next) :
    Attended roles began (w.setStage t (.waiting e next alarm)) := by
  obtain ⟨task, ht, rfl, rfl, hworks⟩ := h.works
  exact h.staged ht hworks (.waiting hsilent hgoes)

end Working

/-! ## Effects -/

/-- **No wait of another task was broken off.** -/
def Unbroken (t : Nat) (w w' : World) : Prop :=
  ∀ i, i ≠ t → ∀ stage, w.stage? i = some stage → ∃ stage', w'.stage? i = some stage' ∧ stage.Served stage'

theorem Unbroken.of_stages (h : ∀ i stage, w.stage? i = some stage → i ≠ t → w'.stage? i = some stage) :
    Unbroken t w w' := fun i hi stage hstage => ⟨stage, h i stage hstage hi, .refl⟩

theorem Unbroken.trans {w'' : World} (h : Unbroken t w w') (h' : Unbroken t w' w'') : Unbroken t w w'' := by
  intro i hi stage hstage
  obtain ⟨stage', hstage', hserved⟩ := h i hi stage hstage
  obtain ⟨stage'', hstage'', hserved'⟩ := h' i hi stage' hstage'
  exact ⟨stage'', hstage'', hserved.trans hserved'⟩

theorem Unbroken.of_stirred {tells : Nat → Except Exit Result → Prop}
    (h : World.Stirred tells False w w') (t : Nat) : Unbroken t w w' := by
  intro i _ stage hstage
  obtain ⟨task, hi, rfl⟩ := Option.map_eq_some_iff.mp hstage
  obtain ⟨stage', hi', hturned⟩ := h.tasks i task hi
  refine ⟨stage', by rw [World.stage?, hi']; rfl, .of_turned hturned⟩

theorem Unbroken.setStage (w : World) (t : Nat) (stage : Stage) : Unbroken t w (w.setStage t stage) :=
  .of_stages fun i stage' hi hne => by rwa [World.stage?_setStage_ne hne.symm]

/-- **What an effect does to the loops at least**: none is forgotten that was started, those that are new have
later numbers, and no stop comes to wait for one to end but the task itself. -/
structure Furthers (roles : Nat → Role) (n : Nat) (w w' : World) : Prop where
  badges : ∀ i b, w.badge? i = some b → w'.badge? i = some b
  later : ∀ i, w'.Polling n i → w.Polling n i ∨ w.tasks.length ≤ i
  clear : Unawaited roles n w → Unawaited roles n w'
  apart : ∀ m, m ≠ n → w'.looped m = w.looped m

theorem Furthers.of_stirred {tells : Nat → Except Exit Result → Prop} {breaks : Prop}
    (h : World.Stirred tells breaks w w') : Furthers roles n w w' where
  badges i b hi := h.badge?.symm ▸ hi
  later i hi := by
    have halive : (w'.looped n).alive i := hi
    rw [h.looped] at halive
    exact .inl halive
  clear hclear := hclear.stirred h
  apart m _ := h.looped m

/-- **What comes of an effect**: the contract leads on, or a wait begins. Only a new loop changes which
are alive, and only where no status is being applied is a wait broken off. -/
inductive Taken (roles : Nat → Role) (began : Nat → Nat) (ρ : Role) (t n : Nat) (w : World) (e : Effect) :
    World × Uptake e.Reply → Prop
  | reply {w' : World} {r : e.Reply} (leads : Leads ρ (began t) (w.looped n) e r (w'.looped n))
    (alive : e ≠ .fork .pollLoop → (w'.looped n).alive = (w.looped n).alive)
    (furthers : Furthers roles n w w')
    (known : ρ ≠ .starts → Role.stops.Relies (w.looped n).known (w'.looped n).known)
    (marks : ρ = .stops → (w'.looped n).applying = (w.looped n).applying)
    (unbroken : ρ ≠ .stops ∨ (w.looped n).applying = true → Unbroken t w w')
    (working : Working roles began ρ t n w') : Taken roles began ρ t n w e (w', .reply r)
  | wait {w' : World} {alarm : Option (Alarm e.Reply)} (waits : e.isWait = true)
    (begins : ∀ next, GoesOn ρ (began t) (w.looped n) e next →
      Attended roles began (w'.setStage t (.waiting e next alarm)))
    (same : ∀ next m, (w'.setStage t (.waiting e next alarm)).looped m = w.looped m)
    (live : ∀ next, (w'.setStage t (.waiting e next alarm)).verdict? t = none)
    (count : w'.tasks.length = w.tasks.length)
    (unbroken : Unbroken t w w') : Taken roles began ρ t n w e (w', .wait alarm)

theorem taken_same {tells : Nat → Except Exit Result → Prop} {breaks : Prop}
    (h : Working roles began ρ t n w)
    {e : Effect} {r : e.Reply} (htells : ∀ other r, tells other r → w.verdict? other ≠ none)
    (hbreaks : breaks → ρ = .stops ∧ (w.looped n).applying = false)
    (hstirred : World.Stirred tells breaks w w') (hleads : Leads ρ (began t) (w.looped n) e r (w.looped n)) :
    Taken roles began ρ t n w e (w', .reply r) := by
  refine .reply ?_ (fun _ => ?_) (.of_stirred hstirred) (fun _ => .inl ?_) (fun _ => ?_) (fun hquiet => ?_)
    (h.stirred htells hstirred)
  · rw [hstirred.looped]
    exact hleads
  · rw [hstirred.looped]
  · rw [hstirred.looped]
  · rw [hstirred.looped]
  · have hnone : ¬breaks := fun hb => by
      obtain ⟨hρ, happlying⟩ := hbreaks hb
      rcases hquiet with hno | hyes
      · exact hno hρ
      · cases happlying.symm.trans hyes
    exact .of_stirred (eq_false hnone ▸ hstirred) t

theorem taken_wait {tells : Nat → Except Exit Result → Prop} (h : Working roles began ρ t n w) {e : Effect}
    {alarm : Option (Alarm e.Reply)} (htells : ∀ other r, tells other r → w.verdict? other ≠ none)
    (hstirred : World.Stirred tells False w w') (hwait : e.isWait = true) (hjoin : ∀ other, e ≠ .join other) :
    Taken roles began ρ t n w e (w', .wait alarm) := by
  have h' := h.stirred htells hstirred
  obtain ⟨task, ht, -, -, hworks⟩ := h'.works
  refine .wait hwait (fun next hgoes => ?_) (fun next m => ?_) (fun next => ?_) hstirred.count
    (.of_stirred hstirred t)
  · refine h'.waits (fun other heq => absurd heq (hjoin other)) ?_
    rwa [hstirred.looped]
  · exact (looped_setStage ht hworks rfl m).trans (hstirred.looped m)
  · rw [World.verdict?, World.stage?_setStage_self ht]
    rfl

/-- **To wait for a task that has not ended.** -/
theorem taken_join (h : Working roles began ρ t n w) (hsound : (w.looped n).Sound) (other : Nat) :
    Taken roles began ρ t n w (.join other) (w.join t other) := by
  have hsame : w.verdict? other ≠ none ∨ w.badge? other = none → ∀ x,
      Taken roles began ρ t n w (.join other) (w, .reply x) := by
    intro hgone x
    have hidle : World.Stirred (fun _ _ => False) False w w := .refl w
    refine taken_same h (fun _ _ h => h.elim) False.elim hidle
      ⟨resumes_refl hsound, Role.relies_refl _ _, fun halive => ?_⟩
    rcases hgone with hended | hnone
    · exact hended halive.2
    · cases hnone.symm.trans halive.1
  rw [World.join]
  split
  next result hended =>
    exact hsame (.inl fun hnone => by rw [World.verdict?, World.stage?, hended] at hnone; cases hnone) _
  next stage hlive hstage =>
    obtain ⟨task, ht, -, -, hworks⟩ := h.works
    show Taken roles began ρ t n w (.join other) (listed w other t, .wait none)
    have hstages : Unbroken t w (listed w other t) :=
      .of_stages fun i stage hi _ => by rwa [stage?_listed]
    have hcount : (listed w other t).tasks.length = w.tasks.length := by
      rw [listed, World.onTask, List.length_modify]
    refine .wait rfl (fun next hgoes => ?_) (fun next m => ?_) (fun next => ?_) hcount hstages
    all_goals rw [setStage_listed]
    · exact (h.waits (fun _ _ => rfl) hgoes).watch (World.stage?_setStage_self ht)
    · exact (looped_listed ..).trans (looped_setStage ht hworks rfl m)
    · rw [World.verdict?, stage?_listed, World.stage?_setStage_self ht]
      rfl
  next hnone =>
    refine hsame (.inr ?_) _
    rw [World.badge?, Option.map_eq_none_iff.mp hnone]
    rfl

theorem hasEnded_eq (h : w.Loops n t) : w.hasEnded t = (w.verdict? t).isSome := by
  cases ht : w.tasks[t]? with
  | none =>
    rw [World.Loops, World.badge?, ht] at h
    cases h
  | some task =>
    rw [World.verdict?_eq ht, World.hasEnded, ht]
    show task.hasEnded = _
    rw [Task.hasEnded]
    cases task.stage <;> rfl

/-- **A world does what the contract says.** -/
theorem taken (h : Working roles began ρ t n w) {e : Effect} (hallows : Allows ρ (w.looped n) e)
    (hclear : e = .fork .pollLoop → Unawaited roles n w) :
    Taken roles began ρ t n w e (w.perform t e) := by
  have hnobody : ∀ other r, (fun (_ : Nat) (_ : Except Exit Result) => False) other r →
      w.verdict? other ≠ none := fun _ _ h => h.elim
  have hn := h.exists_session
  cases e with
  | look =>
    rw [World.perform, h.sessionOf]
    exact taken_same h hnobody False.elim (.refl w) ⟨rfl, rfl⟩
  | change x =>
    rw [World.perform, h.sessionOf]
    refine .reply (looped_setSite x hn) (fun _ => ?_) ⟨fun _ _ hi => hi, fun i hi => .inl hi, fun h => h,
      fun m hm => looped_setSite_ne hm x⟩ (fun hρ => ?_) (fun hρ => ?_) (fun _ => .of_stages fun _ _ hi _ => hi)
      (h.setSite (hallows.change x rfl))
    · rw [looped_setSite x hn]
      rfl
    · rw [looped_setSite x hn]
      exact (hallows.change x rfl).relies hρ
    · rw [looped_setSite x hn]
      exact hallows.marks x rfl hρ
  | acquire g =>
    cases hg : ((w.session (w.sessionOf t)).gate g).enter? with
    | some g' =>
      rw [World.perform, show w.acquire t g = (_, .reply (.back ())) by simp only [World.acquire, hg]; rfl]
      exact taken_same h hnobody False.elim (World.stirred_setGate _ w (fun _ => g') g) (.inl rfl)
    | none =>
      rw [World.perform, show w.acquire t g = (_, .wait none) by simp only [World.acquire, hg]; rfl]
      exact taken_wait h hnobody (World.stirred_setGate _ w _ g) rfl (fun _ h => by cases h)
  | release g => exact taken_same h hnobody False.elim (World.stirred_callAtGate ..) (.inl rfl)
  | sleep d => exact taken_wait h hnobody (.refl w) rfl (fun _ h => by cases h)
  | storageTurn =>
    rw [World.perform, World.awaitStorage]
    split
    · exact taken_same h hnobody False.elim (.refl w) (.inl rfl)
    · refine taken_wait h hnobody ?_ rfl (fun _ h => by cases h)
      exact .of_tasks rfl (fun _ => ⟨_, _, _, _, rfl⟩) (fun _ _ h => h) rfl
  | send m =>
    have hsent : World.Stirred (fun _ _ => False) False w
        { w with script := (w.script.next m).2, sent := w.sent ++ [m] } :=
      .of_tasks rfl (fun _ => ⟨_, _, _, _, rfl⟩) (fun _ _ h => h.after m) rfl
    rw [World.perform, World.send]
    dsimp only
    split
    · exact taken_same h hnobody False.elim hsent (.inl rfl)
    · exact taken_wait h hnobody hsent rfl (fun _ h => by cases h)
  | join other => exact taken_join h (hallows.waits rfl) other
  | hasEnded other =>
    refine taken_same h hnobody False.elim (.refl w) ⟨rfl, fun hended halive => ?_⟩
    have hgone := (hasEnded_eq halive.1).symm.trans hended
    rw [halive.2] at hgone
    cases hgone
  | fork b =>
    rw [World.perform, h.sessionOf]
    have hstages : Unbroken t w (w.fork n b).2 := .of_stages fun i stage hi _ => by
      obtain ⟨task, ht, hstage⟩ := Option.map_eq_some_iff.mp hi
      have hlt : i < w.tasks.length := (List.getElem?_eq_some_iff.mp ht).1
      rw [World.stage?, World.fork, World.spawn_other hlt, ht]
      exact congrArg some hstage
    have hfurthers : (∀ m, m ≠ n → (w.fork n b).2.looped m = w.looped m) → Furthers roles n w (w.fork n b).2 := by
      refine fun hapart => ⟨fun i b' hi => ?_, fun i hi => ?_, fun hclear => hclear.spawn n, hapart⟩
      · rw [World.fork, badge?_spawn, if_neg]
        · exact hi
        · rintro rfl
          rw [World.badge?, List.getElem?_eq_none (Nat.le_refl _)] at hi
          cases hi
      · exact (polling_spawn hi).imp_right fun heq => Nat.le_of_eq heq.symm
    cases b with
    | pollLoop =>
      refine .reply ⟨looped_spawn_loop, h.early t⟩ (fun hno => absurd rfl hno)
        (hfurthers fun m hm => looped_spawn_other fun hloop => hm hloop.1)
        (fun hρ => absurd (hallows.fork rfl) hρ) (fun _ => ?_) (fun _ => hstages)
        (h.fork .pollLoop fun _ => hclear rfl)
      have hstarted : (w.fork n .pollLoop).2.looped n = (w.looped n).started w.tasks.length :=
        looped_spawn_loop
      exact (congrArg Looped.applying hstarted).trans rfl
    | reader stream id includeCurrent =>
      have hsame : ∀ m, (w.fork n (.reader stream id includeCurrent)).2.looped m = w.looped m :=
        fun m => looped_spawn_other fun hloop => by cases hloop.2
      exact .reply (.inl (hsame n)) (fun _ => congrArg Looped.alive (hsame n)) (hfurthers fun m _ => hsame m)
        (fun _ => .inl (congrArg Looped.known (hsame n))) (fun _ => congrArg Looped.applying (hsame n))
        (fun _ => hstages) (h.fork _ fun heq => by cases heq)
  | cancel other =>
    exact taken_same h hnobody (fun _ => hallows.cancel other rfl) (World.stirred_cancelWithin trivial _ w other)
      (.inl rfl)
  | watchLatch d =>
    rw [World.perform, World.watchLatch]
    split
    · exact taken_same h hnobody False.elim (.refl w) (.inl rfl)
    · exact taken_wait h hnobody (.refl w) rfl (fun _ h => by cases h)
  | raiseLatch => exact taken_same h hnobody False.elim (World.stirred_raiseLatch ..) (.inl rfl)
  | publish item => exact taken_same h hnobody False.elim (World.stirred_publish ..) (.inl rfl)
  | receive stream =>
    rw [World.perform]
    split
    next item w' htake =>
      refine taken_same h hnobody False.elim ?_ (.inl rfl)
      unfold World.take? at htake
      split at htake
      · cases htake
        exact World.stirred_onSession (fun _ => ⟨_, _, _, _, rfl⟩) _ w
      · cases htake
    next => exact taken_wait h hnobody (.refl w) rfl (fun _ h => by cases h)

/-! ## A task works -/

/-- **What a task did to the loops**: it leaves at most one alive, starts one only if that is its role,
and if it stops polling and ends normally, those that are alive were started after it had begun. It broke
off no wait unless it stops polling and no status was being applied. -/
structure Ran (roles : Nat → Role) (began : Nat → Nat) (ρ : Role) (t n : Nat) (w w' : World) : Prop where
  attended : Attended roles began w'
  sound : (w'.looped n).Sound
  count : w.tasks.length ≤ w'.tasks.length
  apart : ∀ m, m ≠ n → w'.looped m = w.looped m
  later : ∀ i, w'.Polling n i → w.Polling n i ∨ w.tasks.length ≤ i
  fewer : ρ ≠ .starts → ∀ i, w'.Polling n i → w.Polling n i
  known : ρ ≠ .starts → Role.stops.Relies (w.looped n).known (w'.looped n).known
  stopped : ρ = .stops → w.verdict? t = none → ∀ r, w'.verdict? t = some (.ok r) →
    ∀ i, w'.Polling n i → began t ≤ i
  unbroken : ρ ≠ .stops ∨ (w.looped n).applying = true → Unbroken t w w'

theorem Ran.of_same (hattended : Attended roles began w') (hsound : (w.looped n).Sound)
    (hcount : w'.tasks.length = w.tasks.length) (hsame : ∀ m, w'.looped m = w.looped m)
    (hlive : w.verdict? t = none → w'.verdict? t = none)
    (hunbroken : Unbroken t w w') : Ran roles began ρ t n w w' where
  attended := hattended
  sound := by
    rw [hsame]
    exact hsound
  count := Nat.le_of_eq hcount.symm
  apart m _ := hsame m
  later i hi := by
    have halive : (w'.looped n).alive i := hi
    rw [hsame] at halive
    exact .inl halive
  fewer _ i hi := by
    have halive : (w'.looped n).alive i := hi
    rwa [hsame] at halive
  known _ := .inl (congrArg Looped.known (hsame n))
  stopped _ hbefore r hr := by cases (hlive hbefore).symm.trans hr
  unbroken _ := hunbroken

theorem length_setStage (stage : Stage) : (w.setStage t stage).tasks.length = w.tasks.length := by
  rw [World.setStage, World.onTask, List.length_modify]

/-- **A task that has ended** is no longer alive, and those that wait for it are told. -/
theorem ran_finish (h : Working roles began ρ t n w) (hsound : (w.looped n).Sound) {r : Except Exit Result}
    (hstops : ρ = .stops → ∀ a, r = .ok a → ∀ i, w.Polling n i → began t ≤ i) :
    Ran roles began ρ t n w (w.finish t r) := by
  obtain ⟨task, ht, rfl, rfl, hworks⟩ := h.works
  have hended : Attended roles began (w.setStage t (.ended r)) := h.staged ht hworks .ended
  have hverdict : (w.setStage t (.ended r)).verdict? t = some r := by
    rw [World.verdict?, World.stage?_setStage_self ht]
    rfl
  have hstirred : World.Stirred (fun other r' => other = t ∧ r' = r) False (w.setStage t (.ended r))
      (w.finish t r) := by
    refine World.stirred_wakeWatchers fun i hi other next alarm hwait => ⟨?_, rfl⟩
    rw [ht] at hi
    -- Whoever stands in the list of the task waits for it and for no other.
    obtain ⟨next', alarm', hwait'⟩ := h.watched t task ht (Stage.verdict?_of_works hworks) i hi
    have hne : t ≠ i := by
      rintro rfl
      rw [World.stage?, ht, Option.map_some, Option.some_inj] at hwait'
      rw [hwait'] at hworks
      cases hworks
    rw [World.stage?_setStage_ne hne] at hwait
    cases hwait.symm.trans hwait'
    rfl
  have hlooped : ∀ m, (w.finish t r).looped m = (w.looped m).without t :=
    fun m => (hstirred.looped m).trans (looped_ended ht r m)
  have hpolling : ∀ m i, (w.finish t r).Polling m i → w.Polling m i := fun m i hi => by
    have halive : ((w.finish t r).looped m).alive i := hi
    rw [hlooped] at halive
    exact halive.2
  refine ⟨hended.stirred ?_ hstirred, ?_, ?_, fun m hm => ?_, fun i hi => .inl (hpolling _ i hi),
    fun _ => hpolling _, fun _ => .inl ((congrArg Looped.known (hlooped _)).trans rfl), fun hρ _ a ha i hi => ?_,
    fun _ => (Unbroken.setStage w t _).trans (.of_stirred hstirred t)⟩
  · rintro other _ ⟨rfl, rfl⟩
    rw [hverdict]
    exact fun hnone => by cases hnone
  · rw [hlooped]
    exact sound_without hsound t
  · exact Nat.le_of_eq (hstirred.count.trans (length_setStage _)).symm
  · rw [hlooped, without_other ht hm]
  · rw [hstirred.verdict?, hverdict] at ha
    exact hstops hρ a (Option.some.inj ha) i (hpolling _ i hi)

/-- **A stretch of work is done**: the task has ended, or another round begins. -/
theorem ran_conclude (h : Working roles began ρ t n w) {r : Except Exit Outturn}
    (hcloses : Closes ρ (began t) r (w.looped n)) : Ran roles began ρ t n w (w.conclude t r) := by
  obtain ⟨hsound, hstops⟩ := hcloses
  unfold World.conclude
  split
  next e => exact ran_finish h hsound fun _ _ hok => by cases hok
  next r => exact ran_finish h hsound fun hρ _ _ => hstops hρ _ rfl
  next =>
    split
    next b hb =>
      obtain ⟨task, ht, rfl, rfl, hworks⟩ := h.works
      have hrole : task.role roles t = .spares := by
        rw [ht] at hb
        have hloop : task.loop = some b := hb
        rw [Task.role, hloop]
        rfl
      have hround : Attended roles began (w.setStage t (.fresh (.ofRound b.round))) := by
        refine h.staged ht hworks (.fresh fun _ s hs => ?_)
        rw [hrole]
        exact goes_ofRound b.spares.2 hs
      have hready : World.Stirred (fun _ _ => False) False (w.setStage t (.fresh (.ofRound b.round)))
          { w.setStage t (.fresh (.ofRound b.round)) with
            ready := ⟨t, 0⟩ :: (w.setStage t (.fresh (.ofRound b.round))).ready } :=
        .of_tasks rfl (fun _ => ⟨_, _, _, _, rfl⟩) (fun _ _ h => h) rfl
      refine .of_same (hround.stirred (fun _ _ h => h.elim) hready) hsound
        (hready.count.trans (length_setStage _)) (fun m => ?_) (fun _ => ?_)
        ((Unbroken.setStage w t _).trans (.of_stirred hready t))
      · exact (hready.looped m).trans (looped_setStage ht hworks rfl m)
      · rw [hready.verdict?, World.verdict?, World.stage?_setStage_self ht]
        rfl
    next => exact ran_finish h hsound fun hρ _ _ => hstops hρ _ rfl

/-- What a task is there for it is there for still once another one has worked. -/
theorem badge?_run {i : Nat} {b : Nat × Option Background} (ht : w.tasks[t]? = some task) (job : Job)
    (hi : w.badge? i = some b) : (World.run t job w).badge? i = some b := by
  obtain ⟨other, hother, rfl⟩ := Option.map_eq_some_iff.mp hi
  obtain ⟨other', hother', hsession, hloop⟩ :=
    (World.run_bypasses ht (Nat.succ_ne_self task.session).symm).onward i other hother
  rw [World.badge?_eq hother', hsession, hloop]

theorem lt_of_badge? {i : Nat} {b : Nat × Option Background} (hi : w.badge? i = some b) : i < w.tasks.length := by
  obtain ⟨task, hi, -⟩ := Option.map_eq_some_iff.mp hi
  exact (List.getElem?_eq_some_iff.mp hi).1

theorem length_le_of_badges (h : ∀ i b, w.badge? i = some b → w'.badge? i = some b) :
    w.tasks.length ≤ w'.tasks.length := by
  rcases Nat.eq_zero_or_pos w.tasks.length with hnone | hsome
  · exact hnone ▸ Nat.zero_le _
  · have hlast : w.tasks.length - 1 < w.tasks.length := by omega
    have hbadge := h _ _ (World.badge?_eq (List.getElem?_eq_getElem hlast))
    have hlt := lt_of_badge? hbadge
    omega

theorem Furthers.count (h : Furthers roles n w w') : w.tasks.length ≤ w'.tasks.length :=
  length_le_of_badges h.badges

/-- A task starts a loop for a session when it goes on. -/
abbrev Spawns (n : Nat) (w w' : World) : Prop := ∃ i, w'.Loops n i ∧ ¬w.Loops n i

/-- **A task that works does to the loops what it may**, until it waits or ends. -/
theorem run_ran {job : Job} (h : Working roles began ρ t n w) (hgoes : Goes ρ (began t) job (w.looped n))
    (hclear : ρ = .starts → Spawns n w (World.run t job w) → Unawaited roles n w) :
    Ran roles began ρ t n w (World.run t job w) := by
  induction job generalizing w with
  | done r => exact ran_conclude h hgoes
  | ask e next ih =>
    obtain ⟨hallows, hnext⟩ := hgoes
    have hfork : e = .fork .pollLoop → Unawaited roles n w := by
      rintro rfl
      obtain ⟨task, ht, -⟩ := h.works
      refine hclear (hallows.fork rfl) ⟨w.tasks.length, ?_, fun hloops => Nat.lt_irrefl _ (lt_of_badge? hloops)⟩
      have hnew : (w.fork n .pollLoop).2.Loops n w.tasks.length := World.badge?_eq World.spawn_new
      have ht' : (w.fork n .pollLoop).2.tasks[t]? = _ :=
        (World.spawn_other (List.getElem?_eq_some_iff.mp ht).1).trans ht
      rw [World.run, World.perform, h.sessionOf]
      exact badge?_run ht' _ hnew
    have htaken := taken h hallows hfork
    rw [World.run] at hclear ⊢
    generalize w.perform t e = x at htaken hclear
    cases htaken with
    | @reply w' r leads alive furthers known marks unbroken working =>
      have hrest := ih r working (hnext r _ leads) fun hρ hspawns => furthers.clear <|
        hclear hρ (hspawns.imp fun i hi => ⟨hi.1, fun hold => hi.2 (furthers.badges i _ hold)⟩)
      refine ⟨hrest.attended, hrest.sound, Nat.le_trans furthers.count hrest.count,
        fun m hm => (hrest.apart m hm).trans (furthers.apart m hm), fun i hi => ?_, ?_,
        fun hρ => (known hρ).trans (hrest.known hρ), ?_, fun hquiet => ?_⟩
      · rcases hrest.later i hi with hi | hi
        · exact furthers.later i hi
        · exact .inr (Nat.le_trans furthers.count hi)
      · intro hρ i hi
        have hno : e ≠ .fork .pollLoop := fun heq => hρ (hallows.fork heq)
        have halive : (w'.looped n).alive i := hrest.fewer hρ i hi
        rwa [alive hno] at halive
      · exact fun hρ _ => hrest.stopped hρ working.live
      · refine (unbroken hquiet).trans (hrest.unbroken ?_)
        by_cases hρ : ρ = .stops
        · rw [marks hρ]
          exact hquiet
        · exact .inl hρ
    | @wait w' alarm waits begins same live count unbroken =>
      have hsound := hallows.waits waits
      refine .of_same (begins next fun r s hs hjoin => hnext r s ?_) hsound ((length_setStage _).trans count)
        (same next) (fun _ => live next) (unbroken.trans (.setStage w' t _))
      cases e with
      | join other => exact ⟨hs, hjoin other rfl⟩
      | acquire | sleep | storageTurn | send | watchLatch | receive => exact .inr ⟨rfl, hs⟩
      | _ => cases waits

/-- **A task that goes on does to the loops of its session what it may**, if it starts one only where no stop
waits for one to end. -/
theorem resume_ran (hw : Attended roles began w) (hsound : (w.looped task.session).Sound)
    (ht : w.tasks[t]? = some task) (hclear : task.role roles t = .starts →
      Spawns task.session w (w.resume t) → Unawaited roles task.session w) :
    Ran roles began (task.role roles t) t task.session w (w.resume t) := by
  have hstands := hw.stands t task ht
  have hidle : Ran roles began (task.role roles t) t task.session w w :=
    .of_same hw hsound rfl (fun _ => rfl) (fun h => h) (.of_stages fun _ _ hi _ => hi)
  have hstage : (w.tasks[t]?).map Task.stage = some task.stage := by
    rw [ht]
    rfl
  rw [World.resume, hstage] at hclear ⊢
  cases hcase : task.stage with
  | waiting e next alarm => exact hidle
  | ended r => exact hidle
  | fresh job =>
    have hworking : Working roles began (task.role roles t) t task.session w :=
      ⟨hw, ⟨task, ht, rfl, rfl, by rw [hcase]; rfl⟩, fun _ => .inl hsound⟩
    rw [hcase] at hstands hclear
    cases hstands with
    | fresh goes => exact run_ran hworking (goes _ _ hsound) hclear
  | woken e next r =>
    have hworking : Working roles began (task.role roles t) t task.session w :=
      ⟨hw, ⟨task, ht, rfl, rfl, by rw [hcase]; rfl⟩, fun _ => .inl hsound⟩
    have hsettle : World.Stirred (fun _ _ => False) False w (w.settleAtGate t e r) :=
      World.stirred_settleAtGate w t e r
    have hsame := fun m => hsettle.looped m
    have hpolling : ∀ m i, (w.settleAtGate t e r).Polling m i ↔ w.Polling m i := fun m i => by
      show ((w.settleAtGate t e r).looped m).alive i ↔ (w.looped m).alive i
      rw [hsame]
    rw [hcase] at hstands hclear
    cases hstands with
    | woken joined goes =>
      have hnext : Goes (task.role roles t) (began t) (next r)
          ((w.settleAtGate t e r).looped task.session) := by
        rw [hsame]
        refine goes r _ (resumes_refl hsound) fun other heq => ⟨Role.relies_refl _ _, fun halive => ?_⟩
        exact joined other heq halive.2
      have hrest := run_ran (hworking.stirred (fun _ _ h => h.elim) hsettle) hnext fun hρ hspawns => Unawaited.stirred
        (hclear hρ (hspawns.imp fun i hi => ⟨hi.1, fun hold => hi.2 ((congrFun hsettle.badge? i).trans hold)⟩)) hsettle
      refine ⟨hrest.attended, hrest.sound, hsettle.count ▸ hrest.count,
        fun m hm => (hrest.apart m hm).trans (hsame m), fun i hi => ?_, fun hρ i hi => ?_, fun hρ => ?_,
        fun hρ hlive => ?_, fun hquiet => (Unbroken.of_stirred hsettle t).trans (hrest.unbroken ?_)⟩
      · rw [← hpolling, ← hsettle.count]
        exact hrest.later i hi
      · rw [← hpolling]
        exact hrest.fewer hρ i hi
      · exact hsame task.session ▸ hrest.known hρ
      · exact hrest.stopped hρ (by rwa [hsettle.verdict?])
      · rwa [hsame]

/-- **Every task may go on, and at most one loop of each session is alive.** -/
structure Sane (roles : Nat → Role) (began : Nat → Nat) (w : World) : Prop extends Attended roles began w where
  sound : ∀ m, (w.looped m).Sound

theorem Sane.of_same (hw : Sane roles began w) (hattended : Attended roles began w')
    (hsame : ∀ m, w'.looped m = w.looped m) : Sane roles began w' where
  toAttended := hattended
  sound m := by
    rw [hsame]
    exact hw.sound m

theorem Sane.stirred {tells : Nat → Except Exit Result → Prop} {breaks : Prop} (hw : Sane roles began w)
    (htells : ∀ other r, tells other r → w.verdict? other ≠ none) (h : World.Stirred tells breaks w w') :
    Sane roles began w' := hw.of_same (hw.toAttended.stirred htells h) fun m => h.looped m

theorem Ran.sane (h : Ran roles began ρ t n w w') (hw : Sane roles began w) : Sane roles began w' where
  toAttended := h.attended
  sound m := by
    by_cases hm : m = n
    · rw [hm]
      exact h.sound
    · rw [h.apart m hm]
      exact hw.sound m

/-- A task that has not gone on yet may begin now. -/
theorem Sane.begin (hw : Sane roles began w) {job : Job} (ht : w.stage? t = some (.fresh job)) :
    Sane roles (Function.update began t w.tasks.length) w := by
  refine ⟨⟨hw.known, fun i => ?_, fun i task hi => ?_, hw.watched⟩, hw.sound⟩
  · by_cases hit : i = t
    · subst hit
      exact Nat.le_of_eq (Function.update_self ..)
    · exact Nat.le_trans (Nat.le_of_eq (Function.update_of_ne hit ..)) (hw.early i)
  · by_cases hit : i = t
    · subst hit
      obtain ⟨other, hother, hfresh⟩ := Option.map_eq_some_iff.mp ht
      cases hi.symm.trans hother
      have hstands := hw.stands i task hi
      rw [hfresh] at hstands ⊢
      cases hstands with
      | fresh goes => exact .fresh goes
    · rw [Function.update_of_ne hit]
      exact hw.stands i task hi

theorem goes_action {a : Action} {since : Nat} {s : Looped} (hs : s.Sound) : Goes a.role since (.ofOp a.op) s := by
  refine Op.meets_map.mpr ((meets_action a hs).mono fun r s' hs' => ⟨hs'.sound, fun hρ x hok => ?_⟩)
  cases r with
  | ok a => exact hs'.later hρ a rfl
  | error e => cases hok

end Looped

namespace World

open Looped (Sane Unawaited Spawns)

variable {asked : Nat → Action} {began : Nat → Nat} {w₀ w w' : World} {n t : Nat}

/-- What the tasks are there for that were called for. -/
abbrev rolesOf (asked : Nat → Action) (i : Nat) : Role := (asked i).role

/-- **One thing that happens**: somebody calls for an action or subscribes to the states of a run, a task goes
on, a wait ends, a task is cancelled, or something changes that has nothing to do with the loops. A loop is
started only while no stop of its session waits for one to end. -/
inductive LoopMove (asked : Nat → Action) : World → World → Prop
  | call {w : World} {n : Nat} {a : Action} (asks : asked w.tasks.length = a)
    (known : n < w.sessions.length) : LoopMove asked w (w.spawn n (.ofOp a.op)).2
  | subscribe {w : World} {n stream : Nat} {id : String} {includeCurrent : Bool}
    (known : n < w.sessions.length) : LoopMove asked w (w.fork n (.reader stream id includeCurrent)).2
  | resume {w : World} {t : Nat} (starts : ∀ task : Task, w.tasks[t]? = some task →
      task.role (rolesOf asked) t = .starts → Spawns task.session w (w.resume t) →
        Unawaited (rolesOf asked) task.session w) : LoopMove asked w (w.resume t)
  | ring (w : World) (t : Nat) : LoopMove asked w (w.ring t)
  | serve (w : World) (t : Nat) : LoopMove asked w (w.wakeAtStorage t)
  | cancel (w : World) (t : Nat) : LoopMove asked w (w.cancel t)
  | elsewhere {w w' : World} (length : w'.sessions.length = w.sessions.length)
    (views : ∀ m, (w'.session m).pollView = (w.session m).pollView) (tasks : w'.tasks = w.tasks) :
    LoopMove asked w w'

/-- One thing happens after the other. -/
abbrev LoopHistory (asked : Nat → Action) : World → World → Prop := Relation.ReflTransGen (LoopMove asked)

/-- Tasks stay what they are, and the loops that are alive were so before, or have later numbers than all tasks
had. -/
structure Ages (w w' : World) : Prop where
  badges : ∀ i b, w.badge? i = some b → w'.badge? i = some b
  later : ∀ m i, w'.Polling m i → w.Polling m i ∨ w.tasks.length ≤ i

theorem Ages.count (h : Ages w w') : w.tasks.length ≤ w'.tasks.length := Looped.length_le_of_badges h.badges

theorem Ages.trans {w'' : World} (h : Ages w w') (h' : Ages w' w'') : Ages w w'' where
  badges i b hi := h'.badges i b (h.badges i b hi)
  later m i hi := (h'.later m i hi).elim (h.later m i) fun hi => .inr (Nat.le_trans h.count hi)

theorem Ages.of_same (hbadge : w'.badge? = w.badge?) (hlooped : ∀ m, w'.looped m = w.looped m) :
    Ages w w' where
  badges i b hi := hbadge ▸ hi
  later m i hi := by
    have halive : (w'.looped m).alive i := hi
    rw [hlooped] at halive
    exact .inl halive

/-- **Whatever happens leaves at most one loop alive.** -/
theorem LoopMove.sane (hw : Sane (rolesOf asked) began w) (h : LoopMove asked w w') :
    Sane (rolesOf asked) began w' ∧ Ages w w' := by
  have hstirred : Stirred (fun _ _ => False) True w w' → Sane (rolesOf asked) began w' ∧ Ages w w' :=
    fun h => ⟨hw.stirred (fun _ _ h => h.elim) h, .of_same h.badge? h.looped⟩
  have hspawn : ∀ {n : Nat} {job : Job} {loop : Option Background}, loop ≠ some .pollLoop →
      Looped.Attended (rolesOf asked) began (w.spawn n job loop).2 →
      Sane (rolesOf asked) began (w.spawn n job loop).2 ∧ Ages w (w.spawn n job loop).2 := by
    refine fun hloop hattended => ⟨hw.of_same hattended fun m => Looped.looped_spawn_other fun h => hloop h.2, ?_⟩
    exact ⟨fun i b hi => (Looped.badge?_spawn i).trans ((if_neg (Nat.ne_of_lt (Looped.lt_of_badge? hi))).trans hi),
      fun m i hi => (Looped.polling_spawn hi).imp_right fun heq => Nat.le_of_eq heq.symm⟩
  cases h with
  | @call n a asks known =>
    refine hspawn (fun h => by cases h) (hw.spawn known fun since s hs => ?_)
    rw [if_neg (by decide), rolesOf, asks]
    exact Looped.goes_action hs
  | @subscribe n stream id includeCurrent known =>
    refine hspawn (fun h => by cases h) (hw.spawn known fun since s hs => ?_)
    exact Looped.goes_ofRound (Background.spares _).1 hs
  | @resume t starts =>
    cases ht : w.tasks[t]? with
    | none =>
      rw [resume_of_none ht]
      exact ⟨hw, .of_same rfl fun _ => rfl⟩
    | some task =>
      have hran := Looped.resume_ran hw.toAttended (hw.sound task.session) ht (starts task ht)
      refine ⟨hran.sane hw, fun i b hi => ?_, fun m i hi => ?_⟩
      · obtain ⟨other, hother, rfl⟩ := Option.map_eq_some_iff.mp hi
        obtain ⟨other', hother', hsession, hloop⟩ := resume_onward w t hother
        rw [badge?_eq hother', hsession, hloop]
      by_cases hm : m = task.session
      · exact hm ▸ hran.later i (hm ▸ hi)
      · have halive : ((w.resume t).looped m).alive i := hi
        rw [hran.apart m hm] at halive
        exact .inl halive
  | ring t => exact hstirred (stirred_ring w t)
  | serve t => exact hstirred (stirred_wakeAtStorage w t)
  | cancel t => exact hstirred (stirred_cancelWithin trivial _ w t)
  | elsewhere length views tasks =>
    have hverdict : w'.verdict? = w.verdict? := by
      unfold verdict? stage?
      rw [tasks]
    have hbadge : w'.badge? = w.badge? := by
      unfold badge?
      rw [tasks]
    have hlooped : ∀ m, w'.looped m = w.looped m := fun m => looped_congr (views m) hbadge hverdict
    refine ⟨hw.of_same ⟨?_, ?_, ?_, ?_⟩ hlooped, .of_same hbadge hlooped⟩
    · rw [tasks, length]
      exact hw.known
    · rw [tasks]
      exact hw.early
    · intro i task hi
      rw [hlooped, hverdict]
      exact hw.stands i task (tasks ▸ hi)
    · unfold stage?
      rw [tasks]
      exact hw.watched

theorem loopMove_resume {b : Nat × Option Background} (hbadge : w.badge? t = some b)
    (hrole : (if b.2.isSome then Role.spares else rolesOf asked t) ≠ .starts) : LoopMove asked w (w.resume t) := by
  refine .resume fun task ht hstarts => absurd ?_ hrole
  have hloop : task.loop = b.2 := congrArg Prod.snd (Option.some.inj ((badge?_eq ht).symm.trans hbadge))
  rwa [← hloop]

theorem LoopHistory.sane (hw : Sane (rolesOf asked) began w) (h : LoopHistory asked w w') :
    Sane (rolesOf asked) began w' ∧ Ages w w' := by
  induction h with
  | refl => exact ⟨hw, .of_same rfl fun _ => rfl⟩
  | tail _ hmove ih =>
    obtain ⟨hsane, hages⟩ := hmove.sane ih.1
    exact ⟨hsane, ih.2.trans hages⟩

theorem sane_of_start {roles : Nat → Role} (htasks : w₀.tasks = []) (hknown : ∀ m, (w₀.session m).pollTask = none) :
    Sane roles (fun _ => 0) w₀ := by
  have hnone : ∀ i : Nat, w₀.tasks[i]? = none := fun i => by rw [htasks]; rfl
  have hbadge : ∀ i, w₀.badge? i = none := fun i => by rw [badge?, hnone]; rfl
  refine ⟨⟨?_, fun _ => Nat.zero_le _, ?_, ?_⟩, fun m => ⟨fun i hi => ?_, fun i hi => ?_, fun i hi => hi.1⟩⟩
  all_goals try
    intro i task hi
    cases (hnone i).symm.trans hi
  · cases (hbadge i).symm.trans hi.1
  · cases (hknown m).symm.trans hi

end World

end Cutover
