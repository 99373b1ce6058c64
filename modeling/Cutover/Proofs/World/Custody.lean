import Cutover.Proofs.Control.Custody
import Cutover.Proofs.World.Agreement
import Cutover.Proofs.World.Pacing
import Cutover.Proofs.World.Readers

/-!
# Runs in custody

All tasks of a session keep to its state gate. So whoever is behind the gate finds the run settled and leaves
it settled, and as long as it is inside nobody cuts its waits or touches the run.

* `Ward.Stands`: how far a task has come, by its position at the gate;
* `Ward.Guarded`: **what holds all through a history** in which every task keeps to the gate;
* `Ward.Works`: a task at work, with one lemma for each kind of effect;
* `Ward.Works.step`: **an effect that has its reply at once** does what the contract says.
-/

namespace Cutover

/-- The task polls, round after round. -/
def Task.polls (task : Task) : Bool :=
  match task.loop with
  | some b => b.isLoop
  | none => false

/-- The wait of a task came back as it should, and was not for a gate. -/
inductive Stage.Eased : Stage → Stage → Prop
  | same (stage : Stage) : Eased stage stage
  | comes {e : Effect} {next : e.Reply → Job} {alarm : Option (Alarm e.Reply)} {r : e.Reply}
    (ungated : ∀ g, e ≠ .acquire g) (whole : e.Whole r) : Eased (.waiting e next alarm) (.woken e next r)

theorem Stage.Roused.eased {a b : Stage} (h : a.Roused b) : a.Eased b := by
  cases h with
  | same => exact .same _
  | @woken e next alarm r hpassive hwhole =>
    cases e with
    | receive | watchLatch => exact .comes (fun _ h => by cases h) hwhole
    | _ => cases hpassive

namespace Ward

open World

variable {n t i : Nat} {loop : Bool} {d d' : Deposit} {p : Position} {stage stage' : Stage}
variable {busy holder holder' : Option Nat} {line line' : List Nat} {w w' : World} {s : Ward} {task : Task}

/-! ## How tasks stand -/

/-- The work stands outside of the gate. -/
def Outside (loop : Bool) (s : Ward) : Prop := ∃ d, At loop false d s

/-- The rest of the work of a task keeps to the gate, and ends outside of it. -/
abbrev Goes (loop : Bool) (job : Job) (s : Ward) : Prop := job.Meets (custody loop) (fun _ s' => Outside loop s') s

/-- The rest of the work of a task that is let in. -/
def GoesIn (loop : Bool) (next : Waited Unit → Job) : Prop :=
  ∀ d s, d.Settled → At loop true d s → Goes loop (next (.back ())) s

/-- **How far a task has come**, by its position at the gate and by what it has in custody behind it. -/
inductive Stands (loop : Bool) (d : Deposit) : Position → Stage → Prop
  | fresh {job : Job} (goes : ∀ s, Outside loop s → Goes loop job s) : Stands loop d .apart (.fresh job)
  | ended {r : Except Exit Result} : Stands loop d .apart (.ended r)
  | aside {e : Effect} {next : e.Reply → Job} {alarm : Option (Alarm e.Reply)} (ungated : ∀ g, e ≠ .acquire g)
    (unbound : loop = true → ∀ i, e ≠ .join i) (rings : ∀ a, alarm = some a → e.Whole a.reply)
    (goes : ∀ r s, Outside loop s → Goes loop (next r) s) :
    Stands loop d .apart (.waiting e next alarm)
  | back {e : Effect} {next : e.Reply → Job} {r : e.Reply} (ungated : ∀ g, e ≠ .acquire g)
    (goes : ∀ r s, Outside loop s → Goes loop (next r) s) : Stands loop d .apart (.woken e next r)
  | atGate {p : Position} {next : Waited Unit → Job} (position : p = .queued ∨ p = .called) (goes : GoesIn loop next) :
    Stands loop d p (.waiting (.acquire .state) next none)
  | called {next : Waited Unit → Job} (goes : GoesIn loop next) :
    Stands loop d .called (.woken (.acquire .state) next (.back ()))
  | waiting {e : Effect} {next : e.Reply → Job} {alarm : Option (Alarm e.Reply)} (ungated : ∀ g, e ≠ .acquire g)
    (rings : ∀ a, alarm = some a → e.Whole a.reply)
    (goes : ∀ r s, e.Whole r → At loop true d s → Goes loop (next r) s) : Stands loop d .inside (.waiting e next alarm)
  | woken {e : Effect} {next : e.Reply → Job} {r : e.Reply} (ungated : ∀ g, e ≠ .acquire g) (whole : e.Whole r)
    (goes : ∀ s, At loop true d s → Goes loop (next r) s) : Stands loop d .inside (.woken e next r)

theorem goes_ofOp {op : Op Result} (h : ∀ d, op.Upholding (custody loop) (At loop false d)) :
    ∀ s, Outside loop s → Goes loop (.ofOp op) s := by
  rintro s ⟨d, hs⟩
  exact Op.meets_map.mpr ((h d s hs).mono fun _ _ hs' => ⟨d, hs'.1⟩)

theorem goes_ofRound {op : Op Bool} (h : ∀ d, op.Upholding (custody loop) (At loop false d)) :
    ∀ s, Outside loop s → Goes loop (.ofRound op) s := by
  rintro s ⟨d, hs⟩
  exact Op.meets_map.mpr ((h d s hs).mono fun _ _ hs' => ⟨d, hs'.1⟩)

namespace Stands

theorem of_deposit (h : Stands loop d p stage) (hp : p ≠ .inside) : Stands loop d' p stage := by
  cases h with
  | fresh goes => exact .fresh goes
  | ended => exact .ended
  | aside ungated unbound rings goes => exact .aside ungated unbound rings goes
  | back ungated goes => exact .back ungated goes
  | atGate position goes => exact .atGate position goes
  | called goes => exact .called goes
  | waiting => exact absurd rfl hp
  | woken => exact absurd rfl hp

theorem first (h : Stands loop d .queued stage) : Stands loop d .called stage := by
  cases h with
  | atGate _ goes => exact .atGate (.inr rfl) goes

theorem eased (h : Stands loop d p stage) (heased : stage.Eased stage') : Stands loop d p stage' := by
  cases heased with
  | same => exact h
  | comes ungated whole =>
    cases h with
    | aside _ _ _ goes => exact .back ungated goes
    | atGate => exact absurd rfl (ungated _)
    | waiting _ _ goes => exact .woken ungated whole fun s hs => goes _ s whole hs

end Stands

/-! ## What holds all through a history -/

/-- **What holds all through a history** in which every task of a session keeps to its state gate: who is behind the
gate, who stands in the line, and how every task stands but the one that works just now. -/
structure Guarded (n : Nat) (busy holder : Option Nat) (line : List Nat) (w : World) : Prop where
  known : n < w.sessions.length
  sure : (w.site n).Sure
  replies : w.script.Replies Call.getResources.message fun l => l.outcome.isReply = true
  stands : ∀ (i : Nat) (task : Task), busy ≠ some i → w.tasks[i]? = some task → task.session = n →
    Stands task.polls (w.site n).deposit (.of holder line i) task.stage
  gate : (w.session n).stateGate = .ofLine holder.isSome line
  free : holder = none → (w.site n).deposit.Settled
  nodup : line.Nodup
  apart : ∀ i, holder = some i → i ∉ line
  member : ∀ i, holder = some i ∨ i ∈ line → ∃ task : Task, w.tasks[i]? = some task ∧ task.session = n
  started : ∀ i, (w.session n).pollTask = some i → w.Loops n i

/-- **Nothing was done to the tasks of a session but to let their waits come back.** New ones work in the
background. -/
structure Eases (n : Nat) (busy : Option Nat) (w w' : World) : Prop where
  onward : ∀ (i : Nat) (task : Task), w.tasks[i]? = some task →
    ∃ task' : Task, w'.tasks[i]? = some task' ∧ task'.session = task.session ∧ task'.loop = task.loop
  back : ∀ (i : Nat) (task' : Task), busy ≠ some i → w'.tasks[i]? = some task' → task'.session = n →
    (∃ task : Task, w.tasks[i]? = some task ∧ task.session = n ∧ task.loop = task'.loop ∧
      task.stage.Eased task'.stage) ∨
    w.tasks.length ≤ i ∧ ∃ b : Background, task'.loop = some b ∧ task'.stage = .fresh (.ofRound b.begin)

theorem Eases.of_tasks (h : w'.tasks = w.tasks) : Eases n busy w w' where
  onward _ task hi := ⟨task, h ▸ hi, rfl, rfl⟩
  back _ task' _ hi hn := .inl ⟨task', h ▸ hi, hn, rfl, .same _⟩

theorem Eases.of_aside (h : Aside n t w w') : Eases n (some t) w w' where
  onward i task hi := by
    by_cases hit : i = t
    · subst hit
      exact ⟨task, h.stays.trans hi, rfl, rfl⟩
    · obtain ⟨stage, hi', -⟩ := h.tasks i task hit hi
      exact ⟨_, hi', rfl, rfl⟩
  back i task' hi hi' hn := by
    have hit : i ≠ t := fun hit => hi (hit ▸ rfl)
    have hlt : i < w.tasks.length := h.count ▸ (List.getElem?_eq_some_iff.mp hi').1
    obtain ⟨stage, hthis, hroused⟩ := h.tasks i _ hit (List.getElem?_eq_getElem hlt)
    cases hi'.symm.trans hthis
    exact .inl ⟨_, List.getElem?_eq_getElem hlt, hn, rfl, hroused.eased⟩

theorem Eases.loops_iff (h : Eases n busy w w') (hi : w.tasks[i]? = some task) : w'.Loops n i ↔ w.Loops n i := by
  obtain ⟨task', hi', hsession, hloop⟩ := h.onward i task hi
  rw [Loops, Loops, badge?_eq hi', badge?_eq hi, hsession, hloop]

theorem Eases.loops (h : Eases n busy w w') (hi : w.Loops n i) : w'.Loops n i := by
  obtain ⟨task, htask, -⟩ := Option.map_eq_some_iff.mp hi
  exact (h.loops_iff htask).mpr hi

namespace Guarded

variable (h : Guarded n busy holder line w)
include h

theorem apart_of_new (hi : w.tasks.length ≤ i) : Position.of holder line i = .apart := by
  have hno : ¬(holder = some i ∨ i ∈ line) := by
    intro hmem
    obtain ⟨task, htask, -⟩ := h.member i hmem
    exact Nat.not_lt_of_le hi (List.getElem?_eq_some_iff.mp htask).1
  exact Position.of_apart (fun hholder => hno (.inl hholder)) fun hline => hno (.inr hline)

/-- Whoever is behind the gate may change the run, and nobody else. -/
theorem carry (hw : Eases n busy w w') (hlength : w.sessions.length ≤ w'.sessions.length) (hsure : (w'.site n).Sure)
    (hreplies : w'.script.Replies Call.getResources.message fun l => l.outcome.isReply = true)
    (hgate : (w'.session n).stateGate = (w.session n).stateGate)
    (hdeposit : (w'.site n).deposit = (w.site n).deposit ∨ ∃ t, busy = some t ∧ holder = some t)
    (hstarted : ∀ i, (w'.session n).pollTask = some i → w'.Loops n i) : Guarded n busy holder line w' where
  known := Nat.lt_of_lt_of_le h.known hlength
  sure := hsure
  replies := hreplies
  stands i task' hi hi' hn := by
    rcases hw.back i task' hi hi' hn with ⟨task, htask, hsession, hloop, heased⟩ | ⟨hnew, b, hb, hfresh⟩
    · have hstands := (h.stands i task hi htask hsession).eased heased
      rw [show task'.polls = task.polls by rw [Task.polls, Task.polls, hloop]]
      rcases hdeposit with hdeposit | ⟨t, ht, hholder⟩
      · rwa [hdeposit]
      -- Who changes the run is behind the gate itself, and no other is.
      · refine hstands.of_deposit fun hinside => hi ?_
        rw [ht, ← hholder, Position.eq_inside.mp hinside]
    · rw [hfresh, h.apart_of_new hnew, show task'.polls = b.isLoop by rw [Task.polls, hb]]
      exact .fresh (goes_ofRound fun d => (b.upholds_custody (d := d)).1)
  gate := hgate.trans h.gate
  free hnone := by
    rcases hdeposit with hdeposit | ⟨t, ht, hholder⟩
    · exact hdeposit.symm ▸ h.free hnone
    · cases hnone.symm.trans hholder
  nodup := h.nodup
  apart := h.apart
  member i hi := by
    obtain ⟨task, htask, hsession⟩ := h.member i hi
    obtain ⟨task', htask', hsession', -⟩ := hw.onward i task htask
    exact ⟨task', htask', hsession'.trans hsession⟩
  started := hstarted

theorem restage {busy' : Option Nat} (hbusy : ∀ j, j ≠ i → busy' ≠ some j → busy ≠ some j)
    (hstands : ∀ task : Task, w.tasks[i]? = some task → task.session = n → busy' ≠ some i →
      Stands task.polls (w.site n).deposit (.of holder line i) stage) :
    Guarded n busy' holder line (w.setStage i stage) :=
  { h with
    stands := fun j task hj htask hn => by
      rcases setStage_cases htask with ⟨rfl, before, hbefore, rfl⟩ | ⟨hne, hbefore⟩
      · exact hstands before hbefore hn hj
      · exact h.stands j task (hbusy j (Ne.symm hne) hj) hbefore hn
    member := fun j hj => by
      obtain ⟨task, htask, hn⟩ := h.member j hj
      by_cases hij : i = j
      · subst hij
        exact ⟨_, tasks_setStage_self htask, hn⟩
      · exact ⟨task, (tasks_setStage_ne hij).trans htask, hn⟩
    started := fun j hj => by
      rw [Loops, Looped.badge?_setStage]
      exact h.started j hj }

theorem enqueue (t laps : Nat) : Guarded n busy holder line (w.enqueue t laps) := { h with }

end Guarded

theorem Guarded.regate {g : Gate} (h : Guarded n (some t) holder line w) (hgate : g = .ofLine holder'.isSome line')
    (hnodup : line'.Nodup) (hapart : ∀ i, holder' = some i → i ∉ line')
    (hmember : ∀ i, holder' = some i ∨ i ∈ line' → ∃ task : Task, w.tasks[i]? = some task ∧ task.session = n)
    (hfree : holder' = none → (w.site n).deposit.Settled)
    (hpos : ∀ i, i ≠ t → Position.of holder' line' i = Position.of holder line i ∨
      Position.of holder line i = .queued ∧ Position.of holder' line' i = .called) :
    Guarded n (some t) holder' line' (w.onSession n fun s => s.setGate g .state) := by
  have hsite := site_onSession h.known fun s => s.setGate g .state
  have hdeposit : ((w.onSession n fun s => s.setGate g .state).site n).deposit = (w.site n).deposit := by
    rw [hsite]
    rfl
  exact
    { known := by
        rw [onSession, List.length_set]
        exact h.known
      sure := by
        rw [hsite]
        exact h.sure.firm ⟨rfl, rfl, rfl, .refl _⟩ rfl
      replies := h.replies
      stands := fun i task hi htask hn => by
        have hstands := h.stands i task hi htask hn
        rw [hdeposit]
        rcases hpos i fun hit => hi (hit ▸ rfl) with hsame | ⟨hqueued, hcalled⟩
        · rwa [hsame]
        · rw [hcalled]
          rw [hqueued] at hstands
          exact hstands.first
      gate := (congrArg (·.session.stateGate) hsite).trans hgate
      free := fun hnone => hdeposit ▸ hfree hnone
      nodup := hnodup
      apart := hapart
      member := hmember
      started := fun i hi => h.started i ((congrArg (·.session.pollTask) hsite) ▸ hi) }

theorem Guarded.wakeAtGate (h : Guarded n busy holder line w) (hcalled : Position.of holder line i = .called) :
    Guarded n busy holder line (w.wakeAtGate i) := by
  unfold World.wakeAtGate
  split
  next g next alarm hstage =>
    refine (h.restage (fun _ _ h => h) fun task htask hn hbusy => ?_).enqueue i 0
    have hstands := h.stands i task hbusy htask hn
    rw [htask] at hstage
    rw [Option.some.inj hstage, hcalled] at hstands
    rw [hcalled]
    cases hstands with
    | atGate _ goes => exact .called goes
  next => exact h

/-! ## A task works -/

/-- **A task at work.** Who else was behind the gate or in line when it began still is, and no loop among them. -/
structure Works (n t : Nat) (base : Option Nat) (line : List Nat) (loop : Bool) (s : Ward) (w : World) : Prop where
  guarded : Guarded n (some t) (if s.inside then some t else base) line w
  alone : s.inside = true → base = none
  apart : base ≠ some t ∧ t ∉ line
  task : ∃ task : Task, w.tasks[t]? = some task ∧ task.session = n ∧ task.polls = loop
  runs : w.Runs t
  site : s.site = w.site n
  loops : ∀ i ∈ s.loops, w.Loops n i
  quiet : loop = false → ∀ i, base = some i ∨ i ∈ line → w.Loops n i → (w.session n).applying = true

namespace Works

variable {base : Option Nat} {e : Effect} {r : e.Reply}

theorem works (h : Works n t base line loop s w) : w.Works n t := by
  obtain ⟨task, ht, hn, -⟩ := h.task
  exact ⟨by simp only [World.sessionOf, ht, hn], h.guarded.known⟩

theorem member (h : Works n t base line loop s w) (hi : base = some i ∨ i ∈ line) :
    ∃ task : Task, w.tasks[i]? = some task ∧ task.session = n := by
  refine h.guarded.member i (hi.imp_left fun hbase => ?_)
  split
  next hinside => cases (h.alone hinside).symm.trans hbase
  next => exact hbase

/-- **Nothing is done to the session but what gates, latch and readers show**, and to its tasks but to let their waits
come back. -/
theorem passes (h : Works n t base line loop s w) (hw : Eases n (some t) w w') (hstays : w'.stage? t = w.stage? t)
    (hlength : w'.sessions.length = w.sessions.length)
    (hreplies : ∀ m P, w.script.Replies m P → w'.script.Replies m P)
    (hsession : ∃ fetchGate latch streams, w'.session n = { w.session n with fetchGate, latch, streams })
    (hsite : w'.site n = { w.site n with session := w'.session n })
    (hdeposit : (w'.site n).deposit = (w.site n).deposit ∨ s.inside = true) :
    Works n t base line loop { s with site := w'.site n } w' ∧ s.Later loop { s with site := w'.site n } := by
  obtain ⟨fetchGate, latch, streams, hsession⟩ := hsession
  have hsure : (w'.site n).Sure := by
    refine h.guarded.sure.firm ?_ ?_
    · rw [hsite, hsession]
      exact ⟨rfl, rfl, rfl, .refl _⟩
    · rw [hsite]
  have hknown : (w'.session n).pollTask = (w.session n).pollTask := by rw [hsession]
  have happlying : (w'.session n).applying = (w.session n).applying := by rw [hsession]
  have hguarded := h.guarded.carry hw (Nat.le_of_eq hlength.symm) hsure (hreplies _ _ h.guarded.replies)
    (by rw [hsession]) (hdeposit.imp_right fun hinside => ⟨t, rfl, if_pos hinside⟩)
    fun i hi => hw.loops (h.guarded.started i (hknown ▸ hi))
  refine ⟨⟨hguarded, h.alone, h.apart, ?_, ?_, rfl, fun i hi => hw.loops (h.loops i hi), fun hloop i hi hloops => ?_⟩,
    hsure, fun _ => ?_⟩
  · obtain ⟨task, ht, hn, hpolls⟩ := h.task
    obtain ⟨task', ht', hsession', hloop'⟩ := hw.onward t task ht
    exact ⟨task', ht', hsession'.trans hn, by rw [← hpolls, Task.polls, Task.polls, hloop']⟩
  · unfold Runs
    rw [hstays]
    exact h.runs
  · obtain ⟨task, htask, -⟩ := h.member hi
    rw [happlying]
    exact h.quiet hloop i hi ((hw.loops_iff htask).mp hloops)
  · rw [h.site]
    exact happlying

theorem besides (h : Works n t base line loop s w) (haside : Aside n t w w')
    (hsession : ∃ latch streams, w'.session n = { w.session n with latch, streams })
    (hsite : w'.site n = { w.site n with session := w'.session n }) :
    ∃ s', (s'.inside = s.inside ∧ s.Later loop s' ∧ s'.site.deposit = s.site.deposit) ∧
      Works n t base line loop s' w' := by
  obtain ⟨latch, streams, hsession⟩ := hsession
  have hdeposit : (w'.site n).deposit = (w.site n).deposit := by
    rw [hsite, hsession]
    rfl
  obtain ⟨hworks, hlater⟩ := h.passes (.of_aside haside) (congrArg (Option.map Task.stage) haside.stays)
    haside.length haside.replies ⟨_, latch, streams, hsession⟩ hsite (.inl hdeposit)
  exact ⟨{ s with site := w'.site n }, ⟨rfl, hlater, hdeposit.trans (congrArg Site.deposit h.site.symm)⟩, hworks⟩

theorem changes (h : Works n t base line loop s w) {y : Site} (hmay : s.MayChange loop y) :
    Works n t base line loop { s with site := { y with now := s.site.now } } (w.setSite n y) := by
  have hsite : (w.setSite n y).site n = { y with now := s.site.now } := by
    rw [site_setSite h.guarded.known, h.site]
    rfl
  have hsession : (w.setSite n y).session n = y.session := congrArg Site.session hsite
  have hsure : ((w.setSite n y).site n).Sure := by
    rw [hsite]
    exact (h.site.symm ▸ h.guarded.sure).firm ⟨hmay.firm.store, hmay.firm.hooks, hmay.firm.ttl, hmay.firm.storage⟩ rfl
  have hgate : ((w.setSite n y).session n).stateGate = (w.session n).stateGate := by
    rw [hsession, hmay.gate, h.site]
    rfl
  refine ⟨h.guarded.carry (.of_tasks rfl) (by simp [setSite]) hsure h.guarded.replies hgate ?_ fun i hi => ?_, h.alone,
    h.apart, h.task, h.runs, hsite.symm, h.loops, fun hloop i hi hloops => ?_⟩
  · cases hinside : s.inside with
    | true => exact .inr ⟨t, rfl, if_pos rfl⟩
    | false =>
      rw [hsite]
      exact .inl ((hmay.deposit hinside).trans (congrArg Site.deposit h.site))
  · rw [hsession] at hi
    rcases hmay.known with hknown | hknown | ⟨j, hj, hknown⟩
    · rw [hknown, h.site] at hi
      exact h.guarded.started i hi
    · cases hknown.symm.trans hi
    · cases hknown.symm.trans hi
      exact h.loops i hj
  · rw [hsession]
    rcases hmay.applying with ⟨hthis, -⟩ | happlying
    · cases hloop.symm.trans hthis
    · rw [happlying, h.site]
      exact h.quiet hloop i hi hloops

/-- **A task goes through the gate** where nobody is behind it or in line. -/
theorem enters (h : Works n t none [] loop s w) (houtside : s.inside = false) :
    Works n t none [] loop
      { s with site := (w.onSession n fun s => s.setGate { held := true } .state).site n, inside := true }
      (w.onSession n fun s => s.setGate { held := true } .state) := by
  have hguarded := h.guarded
  rw [if_neg (by rw [houtside]; exact Bool.false_ne_true)] at hguarded
  have hsite := site_onSession hguarded.known fun s => s.setGate { held := true } .state
  refine ⟨?_, fun _ => rfl, h.apart, h.task, h.runs, rfl, h.loops, fun hloop i hi => ?_⟩
  · rw [if_pos rfl]
    refine hguarded.regate rfl .nil (fun _ _ => List.not_mem_nil) ?_ (fun hnone => by cases hnone) fun i hit => .inl ?_
    · rintro i (hi | hi)
      · cases hi
        obtain ⟨task, ht, hn, -⟩ := h.task
        exact ⟨task, ht, hn⟩
      · cases hi
    · have hne : some t ≠ some i := fun hti => hit (Option.some.inj hti).symm
      rw [Position.of_apart hne List.not_mem_nil, Position.of_apart (fun h => by cases h) List.not_mem_nil]
  · rcases hi with hi | hi
    · cases hi
    · cases hi

theorem acquire_wait (h : Works n t base line loop s w) (houtside : s.inside = false)
    (hopen : ¬(base = none ∧ line = [])) :
    w.acquire t .state = (w.onSession n fun s => s.setGate ((s.gate .state).queueUp t) .state, .wait none) := by
  have hguarded := h.guarded
  rw [houtside] at hguarded
  have hgate : (w.session n).gate .state = .ofLine base.isSome line := hguarded.gate
  simp only [acquire, h.works.session, hgate, Gate.enter?_ofLine (Position.crowded hopen)]

/-- **Whoever is behind the gate leaves it** with the run settled, and the first of the line is called. -/
theorem leaves (h : Works n t base line loop s w) (hinside : s.inside = true) (hsettled : s.site.deposit.Settled) :
    ∃ w', w.perform t (.release .state) = (w', .reply ()) ∧
      Works n t base line loop { s with site := w'.site n, inside := false } w' ∧
      s.Later loop { s with site := w'.site n, inside := false } := by
  have hguarded := h.guarded
  rw [if_pos hinside] at hguarded
  have hgate : (w.session n).gate .state = .ofLine true line := hguarded.gate
  have hopened : Guarded n (some t) none line (w.onSession n fun s => s.setGate (.ofLine false line) .state) := by
    refine hguarded.regate rfl hguarded.nodup (fun i hi => by cases hi) (fun i hi => hguarded.member i ?_)
      (fun _ => h.site ▸ hsettled) fun i hit => Position.of_leave hit
    rcases hi with hi | hi
    · cases hi
    · exact .inr hi
  have hsite : (w.callAtGate n .state ((w.session n).gate .state).leave).site n =
      (w.site n).onSession fun s => s.setGate (.ofLine false line) .state := by
    rw [hgate, Gate.leave_ofLine, callAtGate, ← site_onSession hguarded.known]
    split
    · exact site_wakeAtGate ..
    · rfl
  have hleft : Guarded n (some t) none line (w.callAtGate n .state ((w.session n).gate .state).leave) := by
    rw [hgate, Gate.leave_ofLine, callAtGate]
    cases line with
    | nil => exact hopened
    | cons i rest => exact hopened.wakeAtGate (by simp [Position.of])
  have hstirred : Stirred (fun _ _ => False) False w (w.callAtGate n .state ((w.session n).gate .state).leave) :=
    stirred_callAtGate ..
  have hloops : ∀ i, (w.callAtGate n .state ((w.session n).gate .state).leave).Loops n i ↔ w.Loops n i := fun i => by
    rw [Loops, Loops, hstirred.badge?]
  have happlying : ((w.callAtGate n .state ((w.session n).gate .state).leave).session n).applying =
      (w.session n).applying := congrArg (·.session.applying) hsite
  refine ⟨_, by simp only [perform, h.works.session], ⟨?_, (fun h => by cases h), h.apart, ?_, runs_callAtGate h.runs _,
    rfl, fun i hi => (hloops i).mpr (h.loops i hi), fun hloop i hi hthis => ?_⟩, hleft.sure, fun _ => ?_⟩
  · rwa [if_neg Bool.false_ne_true, h.alone hinside]
  · obtain ⟨task, ht, hn, hpolls⟩ := h.task
    obtain ⟨stage, ht', -⟩ := hstirred.tasks t task ht
    exact ⟨_, ht', hn, hpolls⟩
  · rw [happlying]
    exact h.quiet hloop i hi ((hloops i).mp hthis)
  · rw [h.site]
    exact happlying

theorem restages (h : Works n t base line loop s w) (hit : i ≠ t)
    (hstands : ∀ task : Task, w.tasks[i]? = some task → task.session = n →
      Stands task.polls (w.site n).deposit (.of (if s.inside then some t else base) line i) stage) :
    Works n t base line loop s (w.setStage i stage) where
  guarded := h.guarded.restage (fun _ _ hj => hj) fun task htask hn _ => hstands task htask hn
  alone := h.alone
  apart := h.apart
  task := by
    obtain ⟨task, ht, hrest⟩ := h.task
    exact ⟨task, (tasks_setStage_ne hit).trans ht, hrest⟩
  runs := by
    unfold Runs
    rw [stage?_setStage_ne hit]
    exact h.runs
  site := h.site
  loops j hj := by
    rw [Loops, Looped.badge?_setStage]
    exact h.loops j hj
  quiet hloop j hj hloops := by
    rw [Loops, Looped.badge?_setStage] at hloops
    exact h.quiet hloop j hj hloops

/-- **A loop is cancelled** that has not come to the gate. -/
theorem cancels (h : Works n t base line loop s w) (houtside : s.inside = false) (hloop : loop = false)
    (hknown : s.site.session.pollTask = some i) (happlying : s.site.session.applying = false) :
    Works n t base line loop s (w.cancel i) := by
  have hguarded := h.guarded
  rw [houtside] at hguarded
  have hloops : w.Loops n i := hguarded.started i ((congrArg (·.session.pollTask) h.site) ▸ hknown)
  obtain ⟨task, htask, hbadge⟩ := Option.map_eq_some_iff.mp hloops
  obtain ⟨hn, hthis⟩ := Prod.mk.inj hbadge
  have hpolls : task.polls = true := by rw [Task.polls, hthis]; rfl
  have hit : i ≠ t := by
    rintro rfl
    obtain ⟨task', htask', -, hpolls'⟩ := h.task
    cases htask.symm.trans htask'
    cases hpolls.symm.trans (hpolls'.trans hloop)
  -- No status is being applied, so the loop is neither behind the gate nor in line.
  have hapart : Position.of (if s.inside then some t else base) line i = .apart := by
    have hno : ¬(base = some i ∨ i ∈ line) := fun hi => by
      have happlying' : (w.session n).applying = false := (congrArg (·.session.applying) h.site) ▸ happlying
      cases happlying'.symm.trans (h.quiet hloop i hi hloops)
    rw [houtside]
    exact Position.of_apart (fun hi => hno (.inl hi)) fun hi => hno (.inr hi)
  have hstands := h.guarded.stands i task (fun hti => hit (Option.some.inj hti).symm) htask hn
  have hturned : ∀ stage, Stands true (w.site n).deposit .apart stage →
      Works n t base line loop s (w.setStage i stage) := fun stage hstage =>
    h.restages hit fun task' htask' _ => by
      cases htask.symm.trans htask'
      rw [hpolls, hapart]
      exact hstage
  rw [hpolls, hapart] at hstands
  have hstage : (w.tasks[i]?).map Task.stage = some task.stage := by rw [htask]; rfl
  rw [World.cancel, cancelWithin, hstage]
  generalize task.stage = stage at hstands
  cases hstands with
  | fresh goes => exact hturned _ (.fresh fun _ hs => hs)
  | ended => exact h
  | back ungated goes => exact hturned _ (.back ungated goes)
  | atGate position => cases position with
    | inl hp => cases hp
    | inr hp => cases hp
  | @aside e next alarm ungated unbound rings goes =>
    have hwoken : ∀ r, Works n t base line loop s (w.setStage i (.woken e next r)) := fun r =>
      hturned _ (.back ungated goes)
    cases e with
    | acquire g => exact absurd rfl (ungated g)
    | join j => exact absurd rfl (unbound rfl j)
    | storageTurn | sleep | send | watchLatch | receive =>
      exact { hwoken .cancelled with guarded := { (hwoken .cancelled).guarded with } }
    | _ => exact h

theorem refetches (h : Works n t base line loop s w) (g : Gate) (hinside : s.inside = true) :
    ∃ s', (s'.inside = s.inside ∧ s.Later loop s' ∧ s'.site.deposit = { s.site.deposit with fetchGate := g }) ∧
      Works n t base line loop s' (w.onSession n fun s => s.setGate g .fetch) := by
  have hn := h.guarded.known
  have haside : Aside n t w (w.onSession n fun s => s.setGate g .fetch) := aside_onSession hn rfl
  have hsession : (w.onSession n fun s => s.setGate g .fetch).session n = _ := session_onSession hn _
  have hsite := site_onSession hn fun s => s.setGate g .fetch
  obtain ⟨hworks, hlater⟩ := h.passes (.of_aside haside) (congrArg (Option.map Task.stage) haside.stays)
    haside.length haside.replies ⟨_, _, _, hsession⟩ (hsite.trans (by rw [hsession]; rfl)) (.inr hinside)
  refine ⟨{ s with site := (w.onSession n fun s => s.setGate g .fetch).site n }, ⟨rfl, hlater, ?_⟩, hworks⟩
  rw [h.site, hsite]
  rfl

theorem forks (h : Works n t base line loop s w) (b : Background) :
    Works n t base line loop { s with site := (w.fork n b).2.site n } (w.fork n b).2 ∧
      s.Later loop { s with site := (w.fork n b).2.site n } := by
  obtain ⟨task, ht, -⟩ := h.task
  refine h.passes ⟨fun i task hi => ?_, fun i task' _ hi' hn => ?_⟩ ?_ rfl (fun _ _ hm => hm) ⟨_, _, _, rfl⟩ rfl
    (.inl rfl)
  · exact ⟨task, (spawn_other (List.getElem?_eq_some_iff.mp hi).1).trans hi, rfl, rfl⟩
  · rcases spawn_before hi' with hi | ⟨rfl, rfl⟩
    · exact .inl ⟨task', hi, hn, rfl, .same _⟩
    · exact .inr ⟨Nat.le_refl _, b, rfl, rfl⟩
  · exact congrArg (Option.map Task.stage) (spawn_other (List.getElem?_eq_some_iff.mp ht).1)

/-- **A world does what the contract says**, where it replies at once. -/
theorem step (h : Works n t base line loop s w) (hallows : Allows loop s e) (hreply : w.perform t e = (w', .reply r)) :
    ∃ s', Leads loop s e r s' ∧ Works n t base line loop s' w' := by
  have hworks := h.works
  have hn := h.guarded.known
  have hsame : ∀ {e : Effect} {r : e.Reply}, (s.inside = true → e.Whole r) → ∃ s', (s'.inside = s.inside ∧
      s.Later loop s' ∧ (s.inside = true → e.Whole r ∧ s'.site.deposit = s.site.deposit)) ∧
        Works n t base line loop s' w := fun hwhole =>
    ⟨s, ⟨rfl, ⟨h.site ▸ h.guarded.sure, fun _ => rfl⟩, fun hin => ⟨hwhole hin, rfl⟩⟩, h⟩
  have hbeside : ∀ {e : Effect} {r : e.Reply} {w' : World}, (s.inside = true → e.Whole r) → Aside n t w w' →
      (∃ latch streams, w'.session n = { w.session n with latch, streams }) →
      w'.site n = { w.site n with session := w'.session n } → ∃ s', (s'.inside = s.inside ∧
      s.Later loop s' ∧ (s.inside = true → e.Whole r ∧ s'.site.deposit = s.site.deposit)) ∧
        Works n t base line loop s' w' := by
    intro e r w' hwhole haside hsession hsite
    obtain ⟨s', ⟨hinside, hlater, hdeposit⟩, hworks⟩ := h.besides haside hsession hsite
    exact ⟨s', ⟨hinside, hlater, fun hin => ⟨hwhole hin, hdeposit⟩⟩, hworks⟩
  cases e with
  | look =>
    cases hreply
    exact ⟨s, ⟨by rw [hworks.session, h.site], rfl⟩, h⟩
  | change y =>
    cases hreply
    rw [hworks.session]
    exact ⟨_, rfl, h.changes hallows⟩
  | acquire g =>
    cases g with
    | state =>
      obtain ⟨houtside, happlying⟩ := hallows
      rw [perform] at hreply
      by_cases hopen : base = none ∧ line = []
      · obtain ⟨rfl, rfl⟩ := hopen
        have hguarded := h.guarded
        rw [houtside] at hguarded
        rw [acquire_free hworks (g := .state) hguarded.gate] at hreply
        cases hreply
        have hentered := h.enters houtside
        have hsite := site_onSession hn fun s => s.setGate { held := true } .state
        have hsettled : ((w.site n).onSession fun s => s.setGate { held := true } .state).deposit.Settled :=
          hguarded.free rfl
        refine ⟨_, ⟨rfl, rfl, ?_, hentered.guarded.sure, fun _ => ?_⟩, hentered⟩
        · rwa [← hsite] at hsettled
        · rw [h.site]
          exact congrArg (·.session.applying) hsite
      · rw [h.acquire_wait houtside hopen] at hreply
        cases hreply
    | fetch =>
      obtain ⟨hinside, hgate⟩ := hallows
      have hfree : (w.session n).gate .fetch = {} := by rw [h.site] at hgate; exact hgate
      rw [perform, acquire_free hworks hfree] at hreply
      cases hreply
      obtain ⟨s', hleads, hentered⟩ := h.refetches { held := true } hinside
      exact ⟨s', ⟨rfl, hleads⟩, hentered⟩
  | release g =>
    cases g with
    | state =>
      obtain ⟨w'', hperform, hleft, hlater⟩ := h.leaves hallows.1 hallows.2
      cases hperform.symm.trans hreply
      exact ⟨{ s with site := w'.site n, inside := false }, ⟨rfl, hlater⟩, hleft⟩
    | fetch =>
      obtain ⟨hinside, hgate⟩ := hallows
      have hheld : (w.session n).gate .fetch = { held := true } := by rw [h.site] at hgate; exact hgate
      rw [release_held hworks hheld] at hreply
      cases hreply
      exact h.refetches {} hinside
  | sleep d => cases hreply
  | storageTurn =>
    rw [perform, awaitStorage] at hreply
    split at hreply
    · cases hreply
      exact hsame fun _ => rfl
    · cases hreply
  | send m =>
    rw [perform, World.send] at hreply
    dsimp only at hreply
    split at hreply
    · cases hreply
      refine hbeside (fun _ => ⟨_, rfl, ?_⟩) (.of_tasks rfl (fun _ _ h => h.after _) rfl (fun _ _ => rfl) rfl rfl)
        ⟨_, _, rfl⟩ rfl
      rintro rfl
      exact h.guarded.replies.now
    · cases hreply
  | join other =>
    rw [perform, World.join] at hreply
    split at hreply
    · cases hreply
      exact hsame fun _ h => by cases h
    · cases hreply
    · cases hreply
      exact hsame fun _ h => by cases h
  | hasEnded other =>
    cases hreply
    exact ⟨s, rfl, h⟩
  | fork b =>
    cases hreply
    rw [hworks.session]
    obtain ⟨hforked, hlater⟩ := h.forks b
    cases b with
    | pollLoop =>
      refine ⟨{ s with site := (w.fork n .pollLoop).2.site n, loops := w.tasks.length :: s.loops },
        ⟨rfl, List.mem_cons_self, hlater.sure, hlater.applying⟩, { hforked with loops := fun i hi => ?_ }⟩
      rcases List.mem_cons.mp hi with rfl | hi
      · exact badge?_eq spawn_new
      · exact hforked.loops i hi
    | reader stream id includeCurrent =>
      exact ⟨{ s with site := (w.fork n (.reader stream id includeCurrent)).2.site n },
        ⟨rfl, hlater, fun _ => ⟨(fun h => by cases h), h.site ▸ rfl⟩⟩, hforked⟩
  | cancel other =>
    cases hreply
    obtain ⟨houtside, hloop, hknown, happlying⟩ := hallows
    have hcancelled := h.cancels houtside hloop hknown happlying
    exact ⟨s, ⟨rfl, ⟨h.site ▸ h.guarded.sure, fun _ => rfl⟩, fun _ => ⟨(fun h => by cases h), rfl⟩⟩, hcancelled⟩
  | watchLatch d =>
    rw [perform, World.watchLatch] at hreply
    split at hreply
    · cases hreply
      exact hsame fun _ h => by cases h
    · cases hreply
  | raiseLatch =>
    cases hreply
    rw [hworks.session]
    obtain ⟨haside, -, hsite⟩ := aside_raiseLatch hn h.runs
    have hsession : (w.raiseLatch n).session n = _ := congrArg Site.session hsite
    exact hbeside (fun _ h => by cases h) haside ⟨_, _, hsession⟩ (by rw [hsite, hsession]; rfl)
  | publish item =>
    cases hreply
    rw [hworks.session]
    obtain ⟨hoffered, -⟩ := offered_publish hn h.runs item
    obtain ⟨streams, hsite⟩ := hoffered.site
    have hsession : (w.publish n item).session n = _ := congrArg Site.session hsite
    exact hbeside (fun _ h => by cases h) hoffered.aside ⟨_, _, hsession⟩ (by rw [hsite, hsession]; rfl)
  | receive stream =>
    rw [perform, hworks.session] at hreply
    split at hreply
    next htake =>
      cases hreply
      unfold take? at htake
      split at htake
      · cases htake
        exact hbeside (fun _ h => by cases h) (aside_onSession hn rfl) ⟨_, _, session_onSession hn _⟩
          ((site_onSession hn _).trans (by rw [session_onSession hn]; rfl))
      · cases htake
    next => cases hreply

end Works

end Ward

end Cutover
