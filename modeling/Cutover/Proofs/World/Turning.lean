import Cutover.Proofs.Control.Blind
import Cutover.Proofs.World.History
import Cutover.Proofs.World.Mirror

/-!
# A call takes its turn

Two worlds are set side by side: in one of them calls on the run of a session are made all at once and wait
before the gate of the state, in the other each begins only when it is its turn. When a call works behind
the gate in both worlds it does the same in both.

* `Work.closing`, `Job.IsUnseen`: what a call does behind the gate, and the gate opened at the end;
* `Job.IsCall`, `RunAction.isCall_op`: **every call on the run asks for the gate and does not see it**;
* `World.Pace`: how far a call has come, by its position at the gate;
* `World.Apace`: what holds of both worlds when no task works, and `World.Turning` while one does;
* `World.Turning.run`: **a call does the same in both worlds** until it waits or ends.
-/

namespace Cutover

/-! ## The work of a call -/

/-- The work of a call behind the gate: when it is done the gate opens, and the call has come to its
result. -/
def Work.closing {α : Type} (f : α → Except Exit Result) (w : Work α) : Work (Except Exit Outturn) :=
  w >>= fun a => .ask (.release .state) fun _ => .done ((f a).map .result)

/-- **The rest of the work of a call behind the gate**, which does not see it. -/
def Job.IsUnseen (job : Job) : Prop :=
  ∃ (α : Type) (w : Work α) (f : α → Except Exit Result), job = w.closing f ∧ w.Alike none w

/-- **The work of a call on the run**: it asks for the gate, and does not see it once it is behind it. On a
bare session it may be refused before it asks. -/
inductive Job.IsCall : Bool → Job → Prop
  | enters {bare : Bool} {job : Job} {next : Waited Unit → Job} (h : job.Enters bare next)
    (unseen : Job.IsUnseen (next (.back ()))) : IsCall bare job
  | refused {look : Site → Job} (r : Except Exit Result)
    (h : ∀ s, s.session.isBare = true → look s = .done (r.map .result)) : IsCall true (.ask .look look)

/-- What is asked of the run goes through the gate of the state. -/
def RunAction.isGuarded : RunAction → Bool
  | close => false
  | _ => true

theorem Control.IsUnseen.ofOp {α : Type} {op : Op α} (h : IsUnseen op) (f : α → Result) :
    ∃ next, Job.ofOp (f <$> op) = .ask (.acquire .state) next ∧ Job.IsUnseen (next (.back ())) := by
  obtain ⟨w, rfl, hblind⟩ := h
  refine ⟨_, rfl, _, w.run, Except.map f, ?_, hblind none⟩
  refine (Work.bind_assoc (w.run >>= fun r => Work.ask (.release .state) fun _ => Work.done r) _ _).trans ?_
  refine (Work.bind_assoc w.run _ _).trans (congrArg (w.run >>= ·) (funext fun r => ?_))
  cases r <;> rfl

theorem Op.quietly_eq_map (op : Op Unit) : op.quietly = (fun _ => Result.nothing) <$> op := by
  refine congrArg (op.run >>= ·) (funext fun r => ?_)
  cases r <;> rfl

theorem Control.IsUnseen.isCall {α : Type} {op : Op α} (h : IsUnseen op) (bare : Bool) (f : α → Result) :
    Job.IsCall bare (.ofOp (f <$> op)) := by
  obtain ⟨next, hjob, hunseen⟩ := h.ofOp f
  rw [hjob]
  exact .enters (.atOnce bare next) hunseen

/-- What the call for the resources does after a look at the session. -/
def Control.reconcileAt (s : Site) : Op (List Resource) := do
  if s.session.isBare then Op.fail (.broken "PhaseController has no resource reconciler")
  Op.guarded .state Reconcile.fetch

theorem Control.ofOp_reconcile : Job.ofOp (Action.run .reconcile).op =
    .ask .look fun s => Job.ofOp (Result.resources <$> reconcileAt s) := rfl

/-- **Every call on the run asks for the gate, and does not see it once it is behind it.** -/
theorem RunAction.isCall_op {a : RunAction} (ha : a.isGuarded = true) (bare : Bool) :
    Job.IsCall bare (.ofOp (Action.run a).op) := by
  cases a with
  | begin mode transfer shards instances =>
    exact (Control.unseen_begin mode transfer shards instances).isCall bare _
  | restore r => exact (Control.unseen_restore r).isCall bare _
  | apply report => exact (Control.unseen_apply report).isCall bare _
  | reset =>
    have hcall := Control.unseen_reset.isCall bare fun _ => Result.nothing
    rw [← Op.quietly_eq_map] at hcall
    exact hcall
  | reconcile =>
    rw [Control.ofOp_reconcile]
    cases bare with
    | true =>
      refine .refused (.error (.fault (.broken "PhaseController has no resource reconciler"))) fun s hs => ?_
      rw [Control.reconcileAt, if_pos hs]
      rfl
    | false =>
      have hfetch : Control.IsUnseen (Op.guarded .state Reconcile.fetch) := ⟨_, rfl, Control.blind_fetch⟩
      obtain ⟨next, hjob, hunseen⟩ := hfetch.ofOp Result.resources
      refine .enters (.checked fun s hs => ?_) hunseen
      rw [Control.reconcileAt, if_neg (by simp [hs]), ← hjob]
  | close => cases ha

namespace World

/-! ## Pace -/

/-- **How far a call has come**, by its position at the gate. -/
inductive Pace (bare : Bool) : Position → Stage → Prop
  | fresh {job : Job} (call : Job.IsCall bare job) : Pace bare .apart (.fresh job)
  | ended {r : Except Exit Result} : Pace bare .apart (.ended r)
  | atGate {p : Position} {next : Waited Unit → Job} (position : p = .queued ∨ p = .called)
    (unseen : Job.IsUnseen (next (.back ()))) : Pace bare p (.waiting (.acquire .state) next none)
  | called {next : Waited Unit → Job} (unseen : Job.IsUnseen (next (.back ()))) :
    Pace bare .called (.woken (.acquire .state) next (.back ()))
  | waiting {e : Effect} {next : e.Reply → Job} {alarm : Option (Alarm e.Reply)} (he : e.isUnseen = true)
    (whole : ∀ a, alarm = some a → e.brokenOff ≠ some a.reply) (unseen : ∀ r, Job.IsUnseen (next r)) :
    Pace bare .inside (.waiting e next alarm)
  | woken {e : Effect} {next : e.Reply → Job} {r : e.Reply} (he : e.isUnseen = true)
    (whole : e.brokenOff ≠ some r) (unseen : Job.IsUnseen (next r)) : Pace bare .inside (.woken e next r)

variable {bare : Bool} {n i t : Nat} {calls late line : List Nat} {holder : Option Nat}
variable {w v w' v' : World} {p : Position} {stage : Stage}

theorem Pace.still (h : Pace bare p stage) (hp : p ≠ .inside) : stage.isRousable = false := by
  cases h with
  | waiting _ _ _ => exact absurd rfl hp
  | _ => rfl

theorem Pace.not_told {task : Task} (h : Pace bare p task.stage) (r : Except Exit Unit) :
    task.told? r = none := by
  unfold Task.told?
  split
  next hstage =>
    rw [hstage] at h
    cases h with
    | waiting he _ _ => cases he
  next => rfl

theorem Pace.first (h : Pace bare .queued stage) : Pace bare .called stage := by
  cases h with
  | atGate _ unseen => exact .atGate (.inr rfl) unseen

/-- The numbers of those who wait for the gate of the resources. -/
def fetchQueue (w : World) (n : Nat) : List Nat := (w.session n).fetchGate.queue.map Prod.fst

/-- **What holds of both worlds when no task works**: who is behind the gate, who stands in the line before
it here, and has yet to begin there, and how far each call has come. -/
structure Apace (bare : Bool) (n : Nat) (calls : List Nat) (holder : Option Nat) (line : List Nat)
    (w v : World) : Prop where
  mirrors : Mirrors n line w v
  isBare : (w.session n).isBare = bare
  tasks : ∀ i ∈ calls, ∃ task, w.tasks[i]? = some task ∧ task.session = n ∧
    Pace bare (.of holder line i) task.stage
  gate : (w.session n).stateGate = .ofLine holder.isSome line
  gate' : (v.session n).stateGate = { held := holder.isSome }
  fetch : ∀ i ∈ calls, i ∈ w.fetchQueue n → holder = some i ∨ ∃ r, w.stage? i = some (.ended r)
  nodup : line.Nodup
  member : ∀ i, holder = some i ∨ i ∈ line → i ∈ calls
  apart : ∀ i, holder = some i → i ∉ line

/-- **What holds of both worlds while a call works.** Here it may have come out of the line just now, and
there it has just begun. -/
structure Turning (bare : Bool) (n t : Nat) (calls : List Nat) (holder : Option Nat) (late line : List Nat)
    (w v : World) : Prop where
  mirrors : Mirrors n late w v
  isBare : (w.session n).isBare = bare
  own : ∃ task, w.tasks[t]? = some task ∧ task.session = n
  runs : w.Runs t
  others : ∀ i ∈ calls, i ≠ t → ∃ task, w.tasks[i]? = some task ∧ task.session = n ∧
    Pace bare (.of holder line i) task.stage
  gate : (w.session n).stateGate = .ofLine holder.isSome line
  gate' : (v.session n).stateGate = { held := holder.isSome }
  fetch : ∀ i ∈ calls, i ∈ w.fetchQueue n → i = t ∨ holder = some i ∨ ∃ r, w.stage? i = some (.ended r)
  nodup : line.Nodup
  member : ∀ i, holder = some i ∨ i ∈ line → i ∈ calls
  apart : ∀ i, holder = some i → i ∉ line
  late_iff : ∀ i, i ∈ line ↔ i ∈ late ∧ i ≠ t

/-! ## What rouses others only -/

/-- **Nothing was done but to rouse tasks**, and what bounds a session stays. -/
structure Gentle (n : Nat) (w w' : World) : Prop where
  length : w'.sessions.length = w.sessions.length
  still : ∀ (i : Nat) (task : Task), w.tasks[i]? = some task → task.stage.isRousable = false →
    w'.tasks[i]? = some task
  bounds : (w'.session n).bounds = (w.session n).bounds

namespace Gentle

theorem refl (n : Nat) (w : World) : Gentle n w w := ⟨rfl, fun _ _ h _ => h, rfl⟩

theorem trans {w'' : World} (h : Gentle n w w') (h' : Gentle n w' w'') : Gentle n w w'' where
  length := h'.length.trans h.length
  still i task hi hs := h'.still i task (h.still i task hi hs) hs
  bounds := h'.bounds.trans h.bounds

theorem of_tasks (hlength : w'.sessions.length = w.sessions.length) (htasks : w'.tasks = w.tasks)
    (hbounds : (w'.session n).bounds = (w.session n).bounds) : Gentle n w w' :=
  ⟨hlength, fun i task hi _ => by rw [htasks, hi], hbounds⟩

theorem foldl {ι : Type} {f : World → ι → World} (hn : n < w.sessions.length)
    (hf : ∀ w i, n < w.sessions.length → Gentle n w (f w i)) (is : List ι) :
    Gentle n w (is.foldl f w) := by
  induction is generalizing w with
  | nil => exact refl n w
  | cons i is ih =>
    have hfirst := hf w i hn
    exact hfirst.trans (ih (hfirst.length ▸ hn))

end Gentle

theorem gentle_rouse {f : Task → Option (Stage × Nat)}
    (hf : ∀ task s, f task = some s → task.stage.isRousable = true) (n : Nat) (w : World) (i : Nat) :
    Gentle n w (w.rouse f i) where
  length := by
    unfold rouse
    split <;> rfl
  still _ _ hj hstill := rouse_still hf hj hstill
  bounds := by
    unfold rouse
    split <;> rfl

theorem gentle_onSession {f : Session → Session} (hn : n < w.sessions.length)
    (hf : (f (w.session n)).bounds = (w.session n).bounds) : Gentle n w (w.onSession n f) :=
  .of_tasks (by simp [onSession]) rfl (by rw [session_onSession hn, hf])

theorem gentle_raiseLatch (hn : n < w.sessions.length) : Gentle n w (w.raiseLatch n) := by
  have hraised := gentle_onSession (f := fun s => { s with latch := { s.latch with raised := true } }) hn rfl
  unfold raiseLatch
  rw [wakeAtLatch_eq_rouse]
  refine hraised.trans (.foldl (hraised.length ▸ hn) (fun w i _ => ?_) _)
  exact gentle_rouse (fun _ _ => rousable_of_raised) n w i

theorem gentle_publish (hn : n < w.sessions.length) (item : Option RunState) :
    Gentle n w (w.publish n item) := by
  refine .foldl hn (fun w stream hn => ?_) _
  rcases offer_cases n item w stream with ⟨i, hi⟩ | h
  · rw [hand_eq_rouse] at hi
    split at hi
    next =>
      rw [← Option.some.inj hi]
      exact gentle_rouse (fun _ _ => rousable_of_handed) n w i
    next => cases hi
  · rw [h]
    exact gentle_onSession hn rfl

theorem conclude_result (w : World) (t : Nat) (r : Except Exit Result) :
    w.conclude t (r.map .result) = w.finish t r := by
  cases r <;> rfl

/-! ## A call that works behind the gate -/

namespace Turning

theorem stays (h : Turning bare n t calls holder late line w v) (hw : Gentle n w w') :
    w'.tasks[t]? = w.tasks[t]? := by
  obtain ⟨task, ht, -⟩ := h.own
  refine (hw.still t task ht ?_).trans ht.symm
  cases hstage : task.stage with
  | waiting e next alarm =>
    exact absurd (by rw [World.stage?, ht, Option.map_some, hstage]) (h.runs e next alarm)
  | _ => rfl

theorem of_gentle (h : Turning bare n t calls (some t) late line w v) (hm : Mirrors n late w' v')
    (hw : Gentle n w w') (hv : (v'.session n).stateGate = (v.session n).stateGate) :
    Turning bare n t calls (some t) late line w' v' where
  mirrors := hm
  isBare := (congrArg (·.2.2) hw.bounds).trans h.isBare
  own := h.own.imp fun task ht => ⟨(h.stays hw).trans ht.1, ht.2⟩
  runs := by
    unfold Runs World.stage?
    rw [h.stays hw]
    exact h.runs
  others i hi hit := by
    obtain ⟨task, htask, hsession, hpace⟩ := h.others i hi hit
    refine ⟨task, hw.still i task htask (hpace.still fun hinside => ?_), hsession, hpace⟩
    exact hit (Option.some.inj (Position.eq_inside.mp hinside)).symm
  gate := (congrArg (·.1) hw.bounds).trans h.gate
  gate' := hv.trans h.gate'
  fetch i hi hmem := by
    have hqueue : w'.fetchQueue n = w.fetchQueue n :=
      congrArg (fun b : Gate × Gate × Bool => b.2.1.queue.map Prod.fst) hw.bounds
    rw [hqueue] at hmem
    refine (h.fetch i hi hmem).imp_right (.imp_right (Exists.imp fun r hr => ?_))
    obtain ⟨task, htask, hstage⟩ := Option.map_eq_some_iff.mp hr
    rw [stage?, hw.still i task htask (by rw [hstage]; rfl), Option.map_some, hstage]
  nodup := h.nodup
  member := h.member
  apart := h.apart
  late_iff := h.late_iff

theorem session (h : Turning bare n t calls holder late line w v) : w.sessionOf t = n := by
  obtain ⟨task, ht, hsession⟩ := h.own
  rw [World.sessionOf, ht]
  exact hsession

theorem session' (h : Turning bare n t calls holder late line w v) : v.sessionOf t = n :=
  (h.mirrors.sessionOf t).trans h.session

theorem known (h : Turning bare n t calls holder late line w v) : n < w.sessions.length := h.mirrors.known

theorem setFetchGate (h : Turning bare n t calls holder late line w v) {g : Gate}
    (hg : ∀ i ∈ g.queue.map Prod.fst, i = t ∨ i ∈ w.fetchQueue n) :
    Turning bare n t calls holder late line (w.onSession n fun s => s.setGate g .fetch)
      (v.onSession n fun s => s.setGate g .fetch) where
  mirrors := h.mirrors.setFetchGate g
  isBare := by rw [session_onSession h.known]; exact h.isBare
  own := h.own
  runs := h.runs
  others := h.others
  gate := by rw [session_onSession h.known]; exact h.gate
  gate' := by rw [session_onSession h.mirrors.known']; exact h.gate'
  fetch i hi hmem := by
    rw [fetchQueue, session_onSession h.known] at hmem
    exact (hg i hmem).elim .inl (h.fetch i hi)
  nodup := h.nodup
  member := h.member
  apart := h.apart
  late_iff := h.late_iff

theorem not_late (h : Turning bare n t calls holder late line w v) (hi : i ∉ calls) (hit : i ≠ t) : i ∉ late :=
  fun hmem => hi (h.member i (.inr ((h.late_iff i).mpr ⟨hmem, hit⟩)))

theorem wakeAtGate (h : Turning bare n t calls (some t) late line w v)
    (hi : i ∈ calls → i = t ∨ ∃ r, w.stage? i = some (.ended r)) :
    Turning bare n t calls (some t) late line (w.wakeAtGate i) (v.wakeAtGate i) := by
  rw [wakeAtGate_eq_rouse, wakeAtGate_eq_rouse]
  by_cases hruns : w.Runs i
  · rw [rouse_called_of_runs hruns, rouse_called_of_runs (h.mirrors.runs hruns)]
    exact h
  · have hit : i ≠ t := by
      rintro rfl
      exact hruns h.runs
    have hcall : i ∉ calls := by
      intro hmem
      rcases hi hmem with heq | ⟨r, hr⟩
      · exact hit heq
      · exact hruns fun e next alarm hwait => by cases hr.symm.trans hwait
    have hsession : ∀ u : World, (u.rouse Task.called? i).session n = u.session n := fun u => by
      rw [World.session, rouse_sessions, World.session]
    have hstage : ∀ {j}, i ≠ j → (w.rouse Task.called? i).stage? j = w.stage? j := fun hij => by
      unfold World.stage?
      rw [rouse_tasks_ne hij]
    exact
      { mirrors := h.mirrors.rouse_of_not_late _ (h.not_late hcall hit)
        isBare := by rw [hsession]; exact h.isBare
        own := by rw [rouse_tasks_ne hit]; exact h.own
        runs := fun e next alarm => by rw [hstage hit]; exact h.runs e next alarm
        others := fun j hj hjt => by
          have hij : i ≠ j := fun hij => hcall (hij ▸ hj)
          rw [rouse_tasks_ne hij]
          exact h.others j hj hjt
        gate := by rw [hsession]; exact h.gate
        gate' := by rw [hsession]; exact h.gate'
        fetch := fun j hj hmem => by
          rw [fetchQueue, hsession] at hmem
          rw [hstage fun hij => hcall (hij ▸ hj)]
          exact h.fetch j hj hmem
        nodup := h.nodup
        member := h.member
        apart := h.apart
        late_iff := h.late_iff }

theorem called_mem {g : Gate} (h : g.leave.2 = some i) : i ∈ g.queue.map Prod.fst := by
  unfold Gate.leave Gate.callFirst at h
  split at h
  next task rest hqueue =>
    cases h
    rw [show g.queue = _ from hqueue]
    exact List.mem_cons_self
  next => cases h

theorem queue_leave (g : Gate) : g.leave.1.queue.map Prod.fst = g.queue.map Prod.fst := by
  unfold Gate.leave Gate.callFirst
  split
  next task rest hqueue =>
    rw [show g.queue = _ from hqueue]
    rfl
  next => rfl

theorem releaseFetch (h : Turning bare n t calls (some t) late line w v) :
    Turning bare n t calls (some t) late line
      (w.callAtGate n .fetch ((w.session n).gate .fetch).leave)
      (v.callAtGate n .fetch ((w.session n).gate .fetch).leave) := by
  have hset := h.setFetchGate (g := ((w.session n).gate .fetch).leave.1) fun i hi => by
    rw [queue_leave] at hi
    exact .inr hi
  unfold callAtGate
  cases hcalled : ((w.session n).gate .fetch).leave.2 with
  | none => exact hset
  | some i =>
    refine hset.wakeAtGate fun hi => ?_
    rcases h.fetch i hi (called_mem hcalled) with heq | hholder | hended
    · exact .inl heq
    · exact .inl (Option.some.inj hholder).symm
    · exact .inr hended

/-- **What a call does behind the gate it does in both worlds**: the reply leads on, or a wait begins. -/
theorem perform (h : Turning bare n t calls (some t) late line w v) {e : Effect} (he : e.isUnseen = true) :
    (∃ r w' v', w.perform t e = (w', .reply r) ∧ v.perform t e = (v', .reply r) ∧
      Turning bare n t calls (some t) late line w' v') ∨
    ∃ alarm w' v', w.perform t e = (w', .wait alarm) ∧ v.perform t e = (v', .wait alarm) ∧
      Turning bare n t calls (some t) late line w' v' ∧ ∀ a, alarm = some a → e.brokenOff ≠ some a.reply := by
  have hn := h.known
  have hw := h.session
  have hv := h.session'
  have hgate : (v.session n).gate .fetch = (w.session n).gate .fetch := by
    rw [h.mirrors.session]
    rfl
  cases e with
  | acquire g =>
    cases g with
    | state => cases he
    | fetch =>
      simp only [World.perform, acquire, hw, hv, hgate]
      cases henter : ((w.session n).gate .fetch).enter? with
      | some g =>
        refine .inl ⟨_, _, _, rfl, rfl, h.setFetchGate fun i hi => .inr ?_⟩
        unfold Gate.enter? at henter
        split at henter
        next =>
          cases henter
          exact hi
        next => cases henter
      | none =>
        refine .inr ⟨_, _, _, rfl, rfl, ?_, fun _ h => by cases h⟩
        have hqueued := h.setFetchGate (g := ((w.session n).gate .fetch).queueUp t) fun i hi => by
          rw [Gate.queueUp, List.map_append] at hi
          rcases List.mem_append.mp hi with hi | hi
          · exact .inr hi
          · exact .inl (List.mem_singleton.mp hi)
        rw [onSession, onSession, hgate]
        exact hqueued
  | release g =>
    cases g with
    | state => cases he
    | fetch =>
      simp only [World.perform, hw, hv, hgate]
      exact .inl ⟨_, _, _, rfl, rfl, h.releaseFetch⟩
  | sleep d =>
    refine .inr ⟨_, _, _, rfl, ?_, h, ?_⟩
    · rw [World.perform, h.mirrors.now]
    · rintro a ⟨⟩ ⟨⟩
  | storageTurn =>
    simp only [World.perform, awaitStorage, h.mirrors.storage, h.mirrors.storageQueue]
    cases w.storage.kind with
    | memory => exact .inl ⟨_, _, _, rfl, rfl, h⟩
    | rows =>
      refine .inr ⟨_, _, _, rfl, rfl, ?_, fun _ h => by cases h⟩
      refine h.of_gentle (h.mirrors.of_tasks ?_ rfl rfl rfl rfl) (.of_tasks rfl rfl rfl) rfl
      exact { h.mirrors.toSameAround with storage := rfl, storageQueue := rfl }
  | send m =>
    have hsent : Turning bare n t calls (some t) late line
        { w with script := (w.script.next m).2, sent := w.sent ++ [m] }
        { v with now := w.now, script := (w.script.next m).2, sent := w.sent ++ [m] } := by
      refine h.of_gentle (h.mirrors.of_tasks ?_ rfl rfl rfl rfl) (.of_tasks rfl rfl rfl) rfl
      exact { h.mirrors.toSameAround with now := rfl, script := rfl, sent := rfl }
    simp only [World.perform, send, h.mirrors.script, h.mirrors.sent, h.mirrors.now]
    by_cases hdelay : (w.script.next m).1.delay ≤ 0
    · simp only [if_pos hdelay]
      exact .inl ⟨_, _, _, rfl, rfl, hsent⟩
    · simp only [if_neg hdelay]
      refine .inr ⟨_, _, _, rfl, rfl, hsent, ?_⟩
      rintro a ⟨⟩ ⟨⟩
  | raiseLatch =>
    simp only [World.perform, hw, hv]
    refine .inl ⟨_, _, _, rfl, rfl, h.of_gentle h.mirrors.raiseLatch (gentle_raiseLatch hn) ?_⟩
    exact congrArg (·.1) (gentle_raiseLatch h.mirrors.known').bounds
  | publish item =>
    simp only [World.perform, hw, hv]
    refine .inl ⟨_, _, _, rfl, rfl, h.of_gentle (h.mirrors.publish item) (gentle_publish hn item) ?_⟩
    exact congrArg (·.1) (gentle_publish h.mirrors.known' item).bounds
  | _ => cases he

theorem setSite (h : Turning bare n t calls (some t) late line w v) {x : Site}
    (hx : x.session.bounds = (w.session n).bounds) :
    Turning bare n t calls (some t) late line (w.setSite n x)
      (v.setSite n (x.withGate (v.session n).stateGate)) := by
  have hw : (w.setSite n x).session n = x.session := by
    simp [World.setSite, World.session, h.known]
  have hv : (v.setSite n (x.withGate (v.session n).stateGate)).session n =
      (x.withGate (v.session n).stateGate).session := by
    simp [World.setSite, World.session, h.mirrors.known']
  refine h.of_gentle (h.mirrors.setSite _ (congrArg (·.2.2) hx)) (.of_tasks ?_ rfl (by rw [hw, hx])) ?_
  · simp [World.setSite]
  · rw [hv]
    rfl

theorem regate {holder' : Option Nat} {line' : List Nat} (h : Turning bare n t calls holder late line w v)
    (g g' : Session → Gate) (hg : g (w.session n) = .ofLine holder'.isSome line')
    (hg' : g' (v.session n) = { held := holder'.isSome })
    (hholder : ∀ i, holder = some i → i = t) (hnodup : line'.Nodup)
    (hmember : ∀ i, holder' = some i ∨ i ∈ line' → i ∈ calls) (hapart : ∀ i, holder' = some i → i ∉ line')
    (hlate : ∀ i, i ∈ line' ↔ i ∈ late ∧ i ≠ t)
    (hpos : ∀ i, i ≠ t → Position.of holder' line' i = Position.of holder line i ∨
      Position.of holder line i = .queued ∧ Position.of holder' line' i = .called) :
    Turning bare n t calls holder' late line' (w.onSession n fun s => s.setGate (g s) .state)
      (v.onSession n fun s => s.setGate (g' s) .state) where
  mirrors := h.mirrors.regate g g'
  isBare := by rw [session_onSession h.known]; exact h.isBare
  own := h.own
  runs := h.runs
  others i hi hit := by
    obtain ⟨task, htask, hsession, hpace⟩ := h.others i hi hit
    refine ⟨task, htask, hsession, ?_⟩
    rcases hpos i hit with hsame | ⟨hqueued, hcalled⟩
    · rw [hsame]
      exact hpace
    · rw [hcalled]
      rw [hqueued] at hpace
      exact hpace.first
  gate := by rw [session_onSession h.known]; exact hg
  gate' := by rw [session_onSession h.mirrors.known']; exact hg'
  fetch i hi hmem := by
    have hqueue : (w.onSession n fun s => s.setGate (g s) .state).fetchQueue n = w.fetchQueue n := by
      unfold fetchQueue
      rw [session_onSession h.known]
      rfl
    rw [hqueue] at hmem
    rcases h.fetch i hi hmem with heq | hi | hended
    · exact .inl heq
    · exact .inl (hholder i hi)
    · exact .inr (.inr hended)
  nodup := hnodup
  member := hmember
  apart := hapart
  late_iff := hlate

end Turning

/-! ## Leaving -/

/-- Whoever is first in the line is let through the gate here, and has yet to begin there. -/
theorem Mirrors.callIn (h : Mirrors n late w v) (hi : i ∈ late) : Mirrors n late (w.wakeAtGate i) v := by
  obtain ⟨next, job, hw, hv, henters⟩ := h.waits i hi
  rcases hw with hw | hw
  · have hwake : w.wakeAtGate i = (w.setStage i (.woken (.acquire .state) next (.back ()))).enqueue i := by
      unfold wakeAtGate
      rw [show (w.tasks[i]?).map Task.stage = _ from hw]
    rw [hwake]
    refine enqueue_left ?_ i 0
    exact
      { h.toSameAround with
        count := by simp [World.setStage, onTask, h.count]
        others := fun j hj => by
          have hij : i ≠ j := fun hij => hj (hij ▸ hi)
          rw [h.others j hj]
          simp [World.setStage, onTask, hij]
        own := fun j task hj => by
          obtain ⟨before, hbefore, heq⟩ := onTask_before hj
          obtain ⟨stage, hstage⟩ := h.own j before hbefore
          refine ⟨stage, hstage.trans ?_⟩
          rw [heq]
          split <;> rfl
        known := h.known
        waits := fun j hj => by
          by_cases hij : i = j
          · subst hij
            obtain ⟨task, htask, _⟩ := Option.map_eq_some_iff.mp hw
            exact ⟨next, job, .inr (stage?_setStage_self htask), hv, henters⟩
          · obtain ⟨next', job', hw', hrest⟩ := h.waits j hj
            rw [stage?_setStage_ne hij]
            exact ⟨next', job', hw', hrest⟩ }
  · have hruns : w.Runs i := fun e next' alarm hwait => by cases hw.symm.trans hwait
    rw [wakeAtGate_eq_rouse, rouse_called_of_runs hruns]
    exact h

namespace Turning

theorem callIn {rest : List Nat} (h : Turning bare n t calls none late (i :: rest) w v) :
    Turning bare n t calls none late (i :: rest) (w.wakeAtGate i) v := by
  obtain ⟨hmem, hit⟩ := (h.late_iff i).mp List.mem_cons_self
  obtain ⟨task, htask, hsession, hpace⟩ := h.others i (h.member i (.inr List.mem_cons_self)) hit
  have hcalled : Position.of none (i :: rest) i = .called := by simp [Position.of]
  have hsites : (w.rouse Task.called? i).session n = w.session n := by
    rw [World.session, rouse_sessions, World.session]
  have hpace' : ∃ task, (w.rouse Task.called? i).tasks[i]? = some task ∧ task.session = n ∧
      Pace bare .called task.stage := by
    rw [hcalled] at hpace
    unfold rouse Task.called?
    obtain ⟨session, loop, stage, watchers⟩ := task
    rw [htask, Option.bind_some]
    cases hpace with
    | @atGate _ next _ unseen =>
      refine ⟨{ session, loop, stage := .woken (.acquire .state) next (.back ()), watchers }, ?_, hsession,
        .called unseen⟩
      simp [World.enqueue, World.setStage, onTask, htask]
    | called unseen => exact ⟨_, htask, hsession, .called unseen⟩
  have hmirrors := h.mirrors.callIn hmem
  rw [wakeAtGate_eq_rouse] at hmirrors ⊢
  exact
    { mirrors := hmirrors
      isBare := by rw [hsites]; exact h.isBare
      own := by rw [rouse_tasks_ne hit]; exact h.own
      runs := by
        unfold Runs World.stage?
        rw [rouse_tasks_ne hit]
        exact h.runs
      others := fun j hj hjt => by
        by_cases hij : i = j
        · subst hij
          rw [hcalled]
          exact hpace'
        · rw [rouse_tasks_ne hij]
          exact h.others j hj hjt
      gate := by rw [hsites]; exact h.gate
      gate' := h.gate'
      fetch := fun j hj hqueue => by
        rw [fetchQueue, hsites] at hqueue
        refine (h.fetch j hj hqueue).imp_right (.imp_right (Exists.imp fun r hr => ?_))
        have hij : i ≠ j := by
          rintro rfl
          rw [hcalled] at hpace
          rw [World.stage?, htask, Option.map_some, Option.some_inj] at hr
          rw [hr] at hpace
          cases hpace
        rw [World.stage?, rouse_tasks_ne hij]
        exact hr
      nodup := h.nodup
      member := h.member
      apart := h.apart
      late_iff := h.late_iff }

/-- **Whoever is behind the gate leaves it**, and here the first of the line is called. -/
theorem leave (h : Turning bare n t calls (some t) late line w v) :
    Turning bare n t calls none late line
      (w.callAtGate n .state ((w.session n).gate .state).leave)
      (v.callAtGate n .state ((v.session n).gate .state).leave) := by
  have hgate : (w.session n).gate .state = .ofLine true line := h.gate
  have hgate' : (v.session n).gate .state = .ofLine true [] := h.gate'
  have hopened : Turning bare n t calls none late line
      (w.onSession n fun s => s.setGate (.ofLine false line) .state)
      (v.onSession n fun s => s.setGate (.ofLine false []) .state) :=
    h.regate _ _ rfl rfl (fun i hi => (Option.some.inj hi).symm) h.nodup
      (fun i hi => h.member i (hi.imp_left fun hnone => by cases hnone)) (fun _ h => by cases h) h.late_iff fun i hit => Position.of_leave hit
  rw [hgate, hgate', Gate.leave_ofLine, Gate.leave_ofLine, callAtGate, callAtGate]
  cases line with
  | nil => exact hopened
  | cons i rest => exact hopened.callIn

/-! ## Waiting and ending -/


/-- **A call waits behind the gate** in both worlds. -/
theorem wait (h : Turning bare n t calls (some t) late line w v) {e : Effect} {next : e.Reply → Job}
    {alarm : Option (Alarm e.Reply)} (he : e.isUnseen = true)
    (whole : ∀ a, alarm = some a → e.brokenOff ≠ some a.reply) (unseen : ∀ r, Job.IsUnseen (next r)) :
    Apace bare n calls (some t) line (w.setStage t (.waiting e next alarm))
      (v.setStage t (.waiting e next alarm)) where
  mirrors := h.mirrors.setStage _ h.late_iff
  isBare := h.isBare
  tasks i hi := by
    by_cases hit : i = t
    · subst hit
      obtain ⟨task, htask, hsession⟩ := h.own
      refine ⟨{ task with stage := .waiting e next alarm }, ?_, hsession, ?_⟩
      · simp [World.setStage, onTask, htask]
      · rw [Position.of_inside]
        exact .waiting he whole unseen
    · obtain ⟨task, htask, hsession, hpace⟩ := h.others i hi hit
      refine ⟨task, ?_, hsession, hpace⟩
      simp [World.setStage, onTask, htask, Ne.symm hit]
  gate := h.gate
  gate' := h.gate'
  fetch i hi hqueue := by
    by_cases hit : i = t
    · exact .inl (hit ▸ rfl)
    · rcases h.fetch i hi hqueue with heq | hholder | hended
      · exact absurd heq hit
      · exact .inl hholder
      · rw [stage?_setStage_ne (Ne.symm hit)]
        exact .inr hended
  nodup := h.nodup
  member := h.member
  apart := h.apart

/-- **A call comes to its end** in both worlds. -/
theorem finish (h : Turning bare n t calls holder late line w v) (hholder : holder ≠ some t)
    (ht : t ∉ line) (r : Except Exit Result) :
    Apace bare n calls holder line (w.finish t r) (v.finish t r) := by
  obtain ⟨task, htask, hown⟩ := h.own
  have hsession : ∀ u : World, (u.finish t r).session n = u.session n := fun u => by
    unfold World.finish
    rw [wakeWatcher_eq_rouse, World.session, rouseAll_sessions]
    rfl
  have hself : (w.finish t r).tasks[t]? = some { task with stage := .ended r } := by
    have hended : (w.setStage t (.ended r)).tasks[t]? = some { task with stage := .ended r } := by
      simp [World.setStage, onTask, htask]
    unfold World.finish
    rw [wakeWatcher_eq_rouse, rouseAll_tasks_of_none (by rw [hended]; rfl), hended]
  have hother : ∀ i task, i ≠ t → w.tasks[i]? = some task → Task.told? (outcomeOf r) task = none →
      (w.finish t r).tasks[i]? = some task := by
    intro i task hit hi hnone
    have hsame : (w.setStage t (.ended r)).tasks[i]? = some task := by
      simp [World.setStage, onTask, hi, Ne.symm hit]
    unfold World.finish
    rw [wakeWatcher_eq_rouse, rouseAll_tasks_of_none (by rw [hsame]; exact hnone), hsame]
  exact
    { mirrors := h.mirrors.finish htask h.late_iff r
      isBare := by rw [hsession]; exact h.isBare
      tasks := fun i hi => by
        by_cases hit : i = t
        · subst hit
          refine ⟨_, hself, hown, ?_⟩
          rw [Position.of_apart hholder ht]
          exact .ended
        · obtain ⟨other, hi', hsession', hpace⟩ := h.others i hi hit
          exact ⟨other, hother i other hit hi' (hpace.not_told _), hsession', hpace⟩
      gate := by rw [hsession]; exact h.gate
      gate' := by rw [hsession]; exact h.gate'
      fetch := fun i hi hqueue => by
        rw [fetchQueue, hsession] at hqueue
        by_cases hit : i = t
        · subst hit
          exact .inr ⟨r, by rw [World.stage?, hself, Option.map_some]⟩
        · refine (h.fetch i hi hqueue).elim (absurd · hit) (.imp_right (Exists.imp fun x hx => ?_))
          obtain ⟨other, hi', hstage⟩ := Option.map_eq_some_iff.mp hx
          have hnone : Task.told? (outcomeOf r) other = none := by
            unfold Task.told?
            rw [hstage]
          rw [World.stage?, hother i other hit hi' hnone, Option.map_some, hstage]
      nodup := h.nodup
      member := h.member
      apart := h.apart }

/-! ## The work of a call -/

theorem run_closing_done {α : Type} {u : World} (hu : u.sessionOf t = n) (f : α → Except Exit Result) (a : α) :
    World.run t (Work.closing f (.done a)) u =
      (u.callAtGate n .state ((u.session n).gate .state).leave).finish t (f a) := by
  rw [← conclude_result, ← hu]
  rfl

/-- **A call does the same in both worlds** until it waits or ends. -/
theorem run {α : Type} {sight : Sight} {x x' : Work α} (alike : x.Alike sight x')
    (f : α → Except Exit Result) (h : Turning bare n t calls (some t) late line w v)
    (hsight : ∀ s g, sight = some (s, g) →
      s.session.bounds = (w.session n).bounds ∧ g = (v.session n).stateGate) :
    ∃ holder', (holder' = none ∨ holder' = some t) ∧
      Apace bare n calls holder' line (World.run t (x.closing f) w) (World.run t (x'.closing f) v) := by
  induction alike generalizing w v with
  | done sight a =>
    refine ⟨none, .inl rfl, ?_⟩
    rw [run_closing_done h.session, run_closing_done h.session']
    exact h.leave.finish (Option.some_ne_none t).symm (h.apart t rfl) (f a)
  | @look sight next next' _ ih =>
    have hw : World.run t (Work.closing f (.ask .look next)) w =
        World.run t ((next (w.site n)).closing f) w := by
      rw [← h.session]
      rfl
    have hv : World.run t (Work.closing f (.ask .look next')) v =
        World.run t ((next' ((w.site n).withGate (v.session n).stateGate)).closing f) v := by
      rw [← h.mirrors.site, ← h.session']
      rfl
    rw [hw, hv]
    refine ih _ _ h ?_
    rintro s g ⟨⟩
    exact ⟨rfl, rfl⟩
  | @change s x g next next' hx _ ih =>
    obtain ⟨hbounds, rfl⟩ := hsight s g rfl
    have hw : World.run t (Work.closing f (.ask (.change x) next)) w =
        World.run t ((next ()).closing f) (w.setSite n x) := by
      rw [← h.session]
      rfl
    have hv : World.run t (Work.closing f (.ask (.change (x.withGate (v.session n).stateGate)) next')) v =
        World.run t ((next' ()).closing f) (v.setSite n (x.withGate (v.session n).stateGate)) := by
      rw [← h.session']
      rfl
    rw [hw, hv]
    refine ih (h.setSite (hx.trans hbounds)) ?_
    rintro s g ⟨⟩
    constructor
    · simp [World.setSite, World.session, h.known]
    · simp [World.setSite, World.session, h.mirrors.known', Site.withGate]
  | @other sight e next he halike ih =>
    have hask : Work.closing f (.ask e next) = .ask e fun r => (next r).closing f := rfl
    rcases h.perform he with ⟨r, w', v', hw, hv, h'⟩ | ⟨alarm, w', v', hw, hv, h', whole⟩
    · rw [hask, run_reply hw, run_reply hv]
      exact ih r h' fun _ _ hnone => (Option.some_ne_none _ hnone.symm).elim
    · rw [hask, run_wait hw, run_wait hv]
      exact ⟨some t, .inr rfl, h'.wait he whole fun r => ⟨_, next r, f, rfl, halike r⟩⟩

end Turning

end World

end Cutover
