import Cutover.Proofs.World.Turning

/-!
# Calls on the run take effect one after the other

Any number of calls on the run of one session are made at once, and go on in any order: each waits before the
gate of the state, for the storage, or for the answer of the service. What comes of them is what comes of the
same calls made one after the other, in the order in which they came past the gate.

* `World.Outside`: what happens around the calls, and neither touches nor sees the gate and the calls;
* `World.Happening`, `World.through`: a schedule, and what comes of it;
* `World.inTurn`: the schedule without what only leads into the line before the gate;
* `World.passing`: the calls in the order in which they come past the gate;
* `World.linearizable`: **every schedule comes to what it comes to in turn**.
-/

namespace Cutover

namespace World

variable {bare : Bool} {n i t : Nat} {calls late line : List Nat} {holder : Option Nat}
variable {w v w' v' : World}

/-! ## Schedules -/

/-- The gates of the session stay as they are, and so do the calls, but for who waits for their end. -/
structure Spares (n : Nat) (calls : List Nat) (w w' : World) : Prop where
  known : n < w.sessions.length → n < w'.sessions.length
  bounds : (w'.session n).bounds = (w.session n).bounds
  tasks : ∀ i ∈ calls, ∀ task : Task, w.tasks[i]? = some task →
    ∃ watchers, w'.tasks[i]? = some { task with watchers }

/-- **What happens around the calls**: anything that neither touches the gates of the session and the calls,
nor sees the gate of the state and how far the calls have come. -/
structure Outside (n : Nat) (calls : List Nat) where
  act : World → World
  spares : ∀ w, Spares n calls w (act w)
  unseeing : ∀ w v, SameAround n calls w v → SameAround n calls (act w) (act v)

/-- Time passes. -/
def Outside.time (n : Nat) (calls : List Nat) (d : Int) : Outside n calls where
  act w := { w with now := w.now + d }
  spares _ := ⟨id, rfl, fun _ _ task h => ⟨task.watchers, h⟩⟩
  unseeing _ _ h := { h with now := congrArg (· + d) h.now }

/-- Something happens to the storage: it may begin to fail, or to take its time. -/
def Outside.storage (n : Nat) (calls : List Nat) (f : Storage → Storage) : Outside n calls where
  act w := { w with storage := f w.storage }
  spares _ := ⟨id, rfl, fun _ _ task h => ⟨task.watchers, h⟩⟩
  unseeing _ _ h := { h with storage := congrArg f h.storage }

/-- The service is going to answer in other ways. -/
def Outside.script (n : Nat) (calls : List Nat) (f : Script → Script) : Outside n calls where
  act w := { w with script := f w.script }
  spares _ := ⟨id, rfl, fun _ _ task h => ⟨task.watchers, h⟩⟩
  unseeing _ _ h := { h with script := congrArg f h.script }

/-- The queues change of those who can go on and of those who wait for the storage. -/
def Outside.queues (n : Nat) (calls : List Nat) (f : List Place → List Place) (g : List Nat → List Nat) :
    Outside n calls where
  act w := { w with ready := f w.ready, storageQueue := g w.storageQueue }
  spares _ := ⟨id, rfl, fun _ _ task h => ⟨task.watchers, h⟩⟩
  unseeing _ _ h := { h with storageQueue := congrArg g h.storageQueue }

/-- **One thing that happens**: a call goes on, its wait ends by itself or at the storage, or something happens
around the calls. -/
inductive Happening (n : Nat) (calls : List Nat) where
  | goes (t : Nat) (mem : t ∈ calls)
  | rings (t : Nat) (mem : t ∈ calls)
  | served (t : Nat) (mem : t ∈ calls)
  | outside (e : Outside n calls)

/-- A call waits at the gate of the state. -/
def isAtGate (w : World) (t : Nat) : Bool :=
  match w.stage? t with
  | some (.waiting (.acquire .state) _ _) => true
  | _ => false

/-- A call has yet to come past the gate of the state. -/
def isBefore (w : World) (t : Nat) : Bool :=
  match w.stage? t with
  | some (.fresh _) => true
  | some (.waiting (.acquire .state) _ _) => true
  | some (.woken (.acquire .state) _ _) => true
  | _ => false

/-- A call is under way. -/
def isUnderWay (w : World) (t : Nat) : Bool :=
  match w.stage? t with
  | some (.waiting ..) => true
  | some (.woken ..) => true
  | _ => false

namespace Happening

/-- What comes of it. -/
def act : Happening n calls → World → World
  | goes t _, w => w.resume t
  | rings t _, w => w.ring t
  | served t _, w => w.wakeAtStorage t
  | outside e, w => e.act w

/-- A call that goes on comes to the line before the gate, or stays there. -/
def queues (k : Happening n calls) (w : World) : Bool :=
  match k with
  | goes t _ => (w.resume t).isAtGate t
  | _ => false

/-- The call that comes past the gate. A call that is refused before it asks for the gate is past it. -/
def passes? (k : Happening n calls) (w : World) : Option Nat :=
  match k with
  | goes t _ => if w.isBefore t && !(w.resume t).isAtGate t then some t else none
  | _ => none

/-- It happens around the calls. -/
def isOutside : Happening n calls → Bool
  | outside _ => true
  | _ => false

end Happening

/-- What comes of a schedule. -/
def through (w : World) (ks : List (Happening n calls)) : World := ks.foldl (fun w k => k.act w) w

/-- The calls in the order in which they come past the gate. -/
def passing (w : World) : List (Happening n calls) → List Nat
  | [] => []
  | k :: ks => (k.passes? w).toList ++ passing (k.act w) ks

/-- **The same in turn**: nobody comes to the line before the gate, everything else happens as before. -/
def inTurn (w : World) : List (Happening n calls) → List (Happening n calls)
  | [] => []
  | k :: ks => if k.queues w then inTurn (k.act w) ks else k :: inTurn (k.act w) ks

/-- No two calls are ever under way together. -/
def OneByOne (w : World) : List (Happening n calls) → Prop
  | [] => True
  | k :: ks => (∀ t ∈ calls, ∀ u ∈ calls, (k.act w).isUnderWay t → (k.act w).isUnderWay u → t = u) ∧
      OneByOne (k.act w) ks

/-- **Calls that were made on the run of a session** and have yet to begin. Nobody is at its gates. -/
structure Pending (n : Nat) (calls : List Nat) (w : World) : Prop where
  known : n < w.sessions.length
  stateGate : (w.session n).stateGate = {}
  fetchGate : (w.session n).fetchGate = {}
  tasks : ∀ t ∈ calls, ∃ (task : Task) (a : RunAction), w.tasks[t]? = some task ∧ task.session = n ∧
    a.isGuarded = true ∧ task.stage = .fresh (.ofOp (Action.run a).op)

/-! ## Going on -/

theorem resume_fresh {job : Job} (h : w.stage? t = some (.fresh job)) : w.resume t = run t job w := by
  unfold resume
  rw [show (w.tasks[t]?).map Task.stage = _ from h]

theorem resume_woken {e : Effect} {next : e.Reply → Job} {r : e.Reply}
    (h : w.stage? t = some (.woken e next r)) :
    w.resume t = run t (next r) (w.settleAtGate t e r) := by
  unfold resume
  rw [show (w.tasks[t]?).map Task.stage = _ from h]

theorem resume_waiting {e : Effect} {next : e.Reply → Job} {alarm : Option (Alarm e.Reply)}
    (h : w.stage? t = some (.waiting e next alarm)) : w.resume t = w := by
  unfold resume
  rw [show (w.tasks[t]?).map Task.stage = _ from h]

theorem resume_ended {r : Except Exit Result} (h : w.stage? t = some (.ended r)) : w.resume t = w := by
  unfold resume
  rw [show (w.tasks[t]?).map Task.stage = _ from h]

theorem run_enters {job : Job} {next : Waited Unit → Job} (h : job.Enters bare next)
    (hbare : (w.session (w.sessionOf t)).isBare = bare) :
    run t job w = run t (.ask (.acquire .state) next) w := by
  cases h with
  | atOnce _ _ => rfl
  | checked hlook =>
    refine (run_reply (e := .look) (r := w.site (w.sessionOf t)) rfl).trans ?_
    exact congrArg (fun job => run t job w) (hlook _ hbare)

theorem run_acquire_free {next : Waited Unit → Job} (hw : w.Works n t)
    (hfree : (w.session n).stateGate = {}) :
    run t (.ask (.acquire .state) next) w =
      run t (next (.back ())) (w.onSession n fun s => s.setGate { held := true } .state) := by
  refine run_reply ?_
  rw [perform]
  exact acquire_free hw hfree

namespace Apace

theorem known (h : Apace bare n calls holder line w v) : n < w.sessions.length := h.mirrors.known

theorem sessionOf (h : Apace bare n calls holder line w v) (ht : t ∈ calls) : w.sessionOf t = n := by
  obtain ⟨task, htask, hsession, -⟩ := h.tasks t ht
  rw [World.sessionOf, htask]
  exact hsession

theorem works (h : Apace bare n calls holder line w v) (ht : t ∈ calls) : w.Works n t :=
  ⟨h.sessionOf ht, h.known⟩

theorem works' (h : Apace bare n calls holder line w v) (ht : t ∈ calls) : v.Works n t :=
  ⟨(h.mirrors.sessionOf t).trans (h.sessionOf ht), h.mirrors.known'⟩

theorem isBare' (h : Apace bare n calls holder line w v) : (v.session n).isBare = bare := by
  rw [h.mirrors.session]
  exact h.isBare

theorem turning (h : Apace bare n calls holder line w v) (ht : t ∈ calls) (hruns : w.Runs t)
    (hline : t ∉ line) : Turning bare n t calls holder line line w v where
  mirrors := h.mirrors
  isBare := h.isBare
  own := by
    obtain ⟨task, htask, hsession, -⟩ := h.tasks t ht
    exact ⟨task, htask, hsession⟩
  runs := hruns
  others i hi _ := h.tasks i hi
  gate := h.gate
  gate' := h.gate'
  fetch i hi hqueue := .inr (h.fetch i hi hqueue)
  nodup := h.nodup
  member := h.member
  apart := h.apart
  late_iff i := ⟨fun hi => ⟨hi, fun hit => hline (hit ▸ hi)⟩, And.left⟩

/-- **A call goes through the gate in both worlds**: it finds it free, or was called here. -/
theorem enter {rest : List Nat} (h : Apace bare n calls none line w v) (ht : t ∈ calls) (hruns : w.Runs t)
    (hline : ∀ i, i ∈ rest ↔ i ∈ line ∧ i ≠ t) (hnodup : rest.Nodup)
    (hpos : ∀ i, i ≠ t → Position.of (some t) rest i = Position.of none line i) {g : Session → Gate}
    (hg : g (w.session n) = .ofLine true rest) :
    Turning bare n t calls (some t) line rest (w.onSession n fun s => s.setGate (g s) .state)
      (v.onSession n fun s => s.setGate { held := true } .state) where
  mirrors := h.mirrors.regate g fun _ => { held := true }
  isBare := by rw [session_onSession h.known]; exact h.isBare
  own := by
    obtain ⟨task, htask, hsession, -⟩ := h.tasks t ht
    exact ⟨task, htask, hsession⟩
  runs := hruns
  others i hi hit := by
    rw [hpos i hit]
    exact h.tasks i hi
  gate := by rw [session_onSession h.known]; exact hg
  gate' := by rw [session_onSession h.mirrors.known']; rfl
  fetch i hi hqueue := by
    have hsame : (w.onSession n fun s => s.setGate (g s) .state).fetchQueue n = w.fetchQueue n := by
      unfold fetchQueue
      rw [session_onSession h.known]
      rfl
    rw [hsame] at hqueue
    rcases h.fetch i hi hqueue with hnone | hended
    · cases hnone
    · exact .inr (.inr hended)
  nodup := hnodup
  member i hi := by
    rcases hi with hi | hi
    · cases hi
      exact ht
    · exact h.member i (.inr ((hline i).mp hi).1)
  apart i hi hmem := by
    cases hi
    exact ((hline t).mp hmem).2 rfl
  late_iff := hline

theorem ran {job : Job} (h : Turning bare n t calls (some t) late line w v) (hjob : job.IsUnseen) :
    ∃ holder', Apace bare n calls holder' line (run t job w) (run t job v) := by
  obtain ⟨α, x, f, rfl, halike⟩ := hjob
  obtain ⟨holder', -, h'⟩ := h.run halike f fun _ _ hnone => (Option.some_ne_none _ hnone.symm).elim
  exact ⟨holder', h'⟩

theorem fresh_of_line (h : Apace bare n calls holder line w v) (ht : t ∈ line) :
    ∃ job next, v.stage? t = some (.fresh job) ∧ job.Enters bare next ∧
      (w.stage? t = some (.waiting (.acquire .state) next none) ∨
        w.stage? t = some (.woken (.acquire .state) next (.back ()))) := by
  obtain ⟨next, job, hw, hv, henters⟩ := h.mirrors.waits t ht
  rw [h.isBare] at henters
  exact ⟨job, next, hv, henters, hw⟩

theorem not_atGate (h : Apace bare n calls holder line w v) (ht : t ∈ calls) (hline : t ∉ line) :
    w.isAtGate t = false := by
  obtain ⟨task, htask, -, hpace⟩ := h.tasks t ht
  unfold isAtGate World.stage?
  rw [htask, Option.map_some]
  have hpos : Position.of holder line t = .inside ∨ Position.of holder line t = .apart := by
    by_cases hholder : holder = some t
    · exact .inl (Position.eq_inside.mpr hholder)
    · exact .inr (Position.of_apart hholder hline)
  generalize Position.of holder line t = p at hpace hpos
  generalize task.stage = stage at hpace
  cases hpace with
  | atGate hqueued _ =>
    rcases hqueued with rfl | rfl
    · rcases hpos with hpos | hpos <;> cases hpos
    · rcases hpos with hpos | hpos <;> cases hpos
  | @waiting e next alarm he _ _ =>
    cases e with
    | acquire g =>
      cases g with
      | state => cases he
      | fetch => rfl
    | _ => rfl
  | _ => rfl

/-- **A call comes to the line** here, and there it has yet to begin. -/
theorem queueUp (h : Apace bare n calls holder line w v) (ht : t ∈ calls) {job : Job}
    {next : Waited Unit → Job} (hfresh : w.stage? t = some (.fresh job)) (henters : job.Enters bare next)
    (unseen : Job.IsUnseen (next (.back ()))) (hholder : holder ≠ some t) (hline : t ∉ line)
    (hwait : holder.isSome = true ∨ line ≠ []) :
    Apace bare n calls holder (line ++ [t]) (run t (.ask (.acquire .state) next) w) v ∧
      (run t (.ask (.acquire .state) next) w).isAtGate t = true := by
  have hgate : (w.session n).gate .state = .ofLine holder.isSome line := h.gate
  have hrun : run t (.ask (.acquire .state) next) w =
      (w.onSession n fun s => s.setGate (.ofLine holder.isSome (line ++ [t])) .state).setStage t
        (.waiting (.acquire .state) next none) := by
    refine run_wait ?_
    rw [perform, acquire, h.sessionOf ht, hgate]
    simp only [Gate.enter?_ofLine hwait, onSession, hgate, Gate.queueUp_ofLine hwait]
    rfl
  have hsame : ∀ i, i ≠ t → (run t (.ask (.acquire .state) next) w).tasks[i]? = w.tasks[i]? := by
    intro i hit
    rw [hrun]
    exact tasks_setStage_ne (Ne.symm hit)
  have hsession : (run t (.ask (.acquire .state) next) w).session n =
      (w.session n).setGate (.ofLine holder.isSome (line ++ [t])) .state := by
    rw [hrun]
    exact session_onSession h.known fun s => s.setGate (.ofLine holder.isSome (line ++ [t])) .state
  obtain ⟨task, htask, hown, -⟩ := h.tasks t ht
  have hself : (run t (.ask (.acquire .state) next) w).tasks[t]? =
      some { task with stage := .waiting (.acquire .state) next none } := by
    rw [hrun]
    exact tasks_setStage_self htask
  have hmirrors : Mirrors n (line ++ [t]) (run t (.ask (.acquire .state) next) w) v := by
    rw [hrun]
    refine (h.mirrors.regate_left _).queueUp hline hfresh ?_
    have hbare : ((w.session n).setGate (.ofLine holder.isSome (line ++ [t])) .state).isBare = bare := h.isBare
    rw [session_onSession h.known, hbare]
    exact henters
  have hlast : (line ++ [t]).head? ≠ some t ∨ holder ≠ none := by
    cases holder with
    | some i => exact .inr (Option.some_ne_none i)
    | none =>
      cases line with
      | nil => simp at hwait
      | cons i rest =>
        refine .inl fun hhead => hline ?_
        cases hhead
        exact List.mem_cons_self
  have hqueued : Position.of holder (line ++ [t]) t = .queued := by
    rw [Position.of, if_neg hholder, if_pos (List.mem_append_right _ (List.mem_singleton_self t)),
      if_neg fun hcalled => hlast.elim (· hcalled.2) (· hcalled.1)]
  refine ⟨?_, by unfold isAtGate World.stage?; rw [hself]; rfl⟩
  exact
    { mirrors := hmirrors
      isBare := by rw [hsession]; exact h.isBare
      tasks := fun i hi => by
        by_cases hit : i = t
        · subst hit
          refine ⟨_, hself, hown, ?_⟩
          rw [hqueued]
          exact .atGate (.inl rfl) unseen
        · rw [hsame i hit, Position.of_append hit hwait]
          exact h.tasks i hi
      gate := by rw [hsession]; rfl
      gate' := h.gate'
      fetch := fun i hi hqueue => by
        rw [fetchQueue, hsession] at hqueue
        refine (h.fetch i hi hqueue).imp_right (Exists.imp fun r hr => ?_)
        have hit : i ≠ t := by
          rintro rfl
          cases hr.symm.trans hfresh
        rw [World.stage?, hsame i hit]
        exact hr
      nodup := by
        refine List.nodup_append.mpr ⟨h.nodup, List.nodup_cons.mpr ⟨List.not_mem_nil, .nil⟩, ?_⟩
        rintro i hi j hj rfl
        exact hline (List.mem_singleton.mp hj ▸ hi)
      member := fun i hi => by
        rcases hi with hi | hi
        · exact h.member i (.inl hi)
        · rcases List.mem_append.mp hi with hi | hi
          · exact h.member i (.inr hi)
          · rw [List.mem_singleton.mp hi]
            exact ht
      apart := fun i hi hmem => by
        rcases List.mem_append.mp hmem with hmem | hmem
        · exact h.apart i hi hmem
        · exact hholder (List.mem_singleton.mp hmem ▸ hi) }

/-! ## One thing after the other -/

theorem goes_fresh (h : Apace bare n calls holder line w v) (ht : t ∈ calls) {job : Job}
    (hfresh : w.stage? t = some (.fresh job)) (hcall : job.IsCall bare) (hholder : holder ≠ some t)
    (hline : t ∉ line) :
    ((w.resume t).isAtGate t = true ∧ Apace bare n calls holder (line ++ [t]) (w.resume t) v) ∨
      ∃ holder' line', t ∉ line' ∧ Apace bare n calls holder' line' (w.resume t) (v.resume t) := by
  have hfresh' : v.stage? t = some (.fresh job) := (h.mirrors.stage? hline).trans hfresh
  have hruns : w.Runs t := fun e next alarm hwait => by cases hfresh.symm.trans hwait
  rw [resume_fresh hfresh, resume_fresh hfresh']
  cases hcall with
  | @refused look r hrefused =>
    have hrefuse : ∀ u : World, u.sessionOf t = n → (u.session n).isBare = true →
        run t (.ask .look look) u = u.finish t r := by
      intro u hu hbare
      refine (run_reply (e := .look) (r := u.site (u.sessionOf t)) rfl).trans ?_
      rw [← conclude_result]
      exact congrArg (fun job => run t job u) (hrefused _ (by rw [hu]; exact hbare))
    rw [hrefuse w (h.sessionOf ht) h.isBare, hrefuse v (h.works' ht).session h.isBare']
    exact .inr ⟨holder, line, hline, (h.turning ht hruns hline).finish hholder hline r⟩
  | enters henters unseen =>
    rw [run_enters henters (by rw [h.sessionOf ht, h.isBare]),
      run_enters henters (by rw [(h.works' ht).session, h.isBare'])]
    by_cases hfree : holder = none ∧ line = []
    · obtain ⟨rfl, rfl⟩ := hfree
      rw [run_acquire_free (h.works ht) h.gate, run_acquire_free (h.works' ht) h.gate']
      have hpos : ∀ i, i ≠ t → Position.of (some t) [] i = Position.of none [] i := by
        intro i hit
        have hapart : Position.of (some t) [] i = .apart :=
          Position.of_apart (fun hti => hit (Option.some.inj hti).symm) List.not_mem_nil
        have hapart' : Position.of none [] i = .apart :=
          Position.of_apart (Option.some_ne_none i).symm List.not_mem_nil
        rw [hapart, hapart']
      obtain ⟨holder', h'⟩ := ran (h.enter ht hruns (by simp) .nil hpos (g := fun _ => { held := true }) rfl)
        unseen
      exact .inr ⟨holder', [], List.not_mem_nil, h'⟩
    · have hwait : holder.isSome = true ∨ line ≠ [] := by
        cases holder with
        | none => exact .inr fun hnil => hfree ⟨rfl, hnil⟩
        | some _ => exact .inl rfl
      obtain ⟨h', hatGate⟩ := h.queueUp ht hfresh henters unseen hholder hline hwait
      exact .inl ⟨hatGate, h'⟩

theorem goes_called {rest : List Nat} (h : Apace bare n calls none (t :: rest) w v) {next : Waited Unit → Job}
    (hwoken : w.stage? t = some (.woken (.acquire .state) next (.back ())))
    (unseen : Job.IsUnseen (next (.back ()))) :
    ∃ holder', Apace bare n calls holder' rest (w.resume t) (v.resume t) := by
  have ht : t ∈ calls := h.member t (.inr List.mem_cons_self)
  have hruns : w.Runs t := fun e next' alarm hwait => by cases hwoken.symm.trans hwait
  obtain ⟨hnot, hnodup⟩ := List.nodup_cons.mp h.nodup
  obtain ⟨job, next', hfresh, henters, hstage⟩ := h.fresh_of_line (t := t) List.mem_cons_self
  have hnext : next' = next := by
    rcases hstage with hstage | hstage
    · cases hstage.symm.trans hwoken
    · cases hstage.symm.trans hwoken
      rfl
  subst hnext
  have hgate : (w.session n).gate .state = .ofLine false (t :: rest) := h.gate
  rw [resume_woken hwoken, resume_fresh hfresh, run_enters henters (by rw [(h.works' ht).session, h.isBare']),
    run_acquire_free (h.works' ht) h.gate']
  have hletIn : ((w.session n).gate .state).letIn t = .ofLine true rest := by
    rw [hgate, Gate.letIn_ofLine hnot]
  have hline : ∀ i, i ∈ rest ↔ i ∈ t :: rest ∧ i ≠ t := fun i =>
    ⟨fun hi => ⟨List.mem_cons_of_mem _ hi, fun hit => hnot (hit ▸ hi)⟩,
      fun hi => (List.mem_cons.mp hi.1).resolve_left hi.2⟩
  have hentered := h.enter ht hruns hline hnodup (fun i hit => Position.of_letIn hit)
    (g := fun s => (s.gate .state).letIn t) hletIn
  have hsettle : w.settleAtGate t (.acquire .state) (.back ()) =
      w.onSession n fun s => s.setGate ((s.gate .state).letIn t) .state := by
    rw [← h.sessionOf ht]
    rfl
  rw [hsettle]
  exact ran hentered unseen

theorem goes_woken (h : Apace bare n calls (some t) line w v) {e : Effect} {next : e.Reply → Job} {r : e.Reply}
    (hwoken : w.stage? t = some (.woken e next r)) (he : e.isUnseen = true) (whole : e.brokenOff ≠ some r)
    (unseen : Job.IsUnseen (next r)) :
    ∃ holder', Apace bare n calls holder' line (w.resume t) (v.resume t) := by
  have ht : t ∈ calls := h.member t (.inl rfl)
  have hline : t ∉ line := h.apart t rfl
  have hruns : w.Runs t := fun e next' alarm hwait => by cases hwoken.symm.trans hwait
  have hturning := h.turning ht hruns hline
  rw [resume_woken hwoken, resume_woken ((h.mirrors.stage? hline).trans hwoken)]
  cases e with
  | acquire g =>
    cases g with
    | state => cases he
    | fetch =>
      cases r with
      | cancelled => exact absurd rfl whole
      | back u =>
        have hgate : (v.session n).gate .fetch = (w.session n).gate .fetch := by
          rw [h.mirrors.session]
          rfl
        have hw : w.settleAtGate t (.acquire .fetch) (.back u) =
            w.onSession n fun s => s.setGate (((w.session n).gate .fetch).letIn t) .fetch := by
          rw [← h.sessionOf ht]
          rfl
        have hv : v.settleAtGate t (.acquire .fetch) (.back u) =
            v.onSession n fun s => s.setGate (((w.session n).gate .fetch).letIn t) .fetch := by
          rw [← hgate, ← (h.works' ht).session]
          rfl
        rw [hw, hv]
        refine ran (hturning.setFetchGate fun i hi => .inr ?_) unseen
        obtain ⟨x, hx, rfl⟩ := List.mem_map.mp hi
        exact List.mem_map_of_mem (List.mem_filter.mp hx).1
  | sleep d => exact ran hturning unseen
  | storageTurn => exact ran hturning unseen
  | send m => exact ran hturning unseen
  | release g => exact ran hturning unseen
  | raiseLatch => exact ran hturning unseen
  | publish item => exact ran hturning unseen
  | _ => cases he

/-- **A call that goes on keeps pace**, or comes to the line here while there it has yet to begin. -/
theorem goes (h : Apace bare n calls holder line w v) (ht : t ∈ calls) :
    ((w.resume t).isAtGate t = true ∧ ∃ line', Apace bare n calls holder line' (w.resume t) v) ∨
      v.isBefore t = w.isBefore t ∧
        ∃ holder' line', t ∉ line' ∧ Apace bare n calls holder' line' (w.resume t) (v.resume t) := by
  obtain ⟨task, htask, -, hpace⟩ := h.tasks t ht
  have hstage : w.stage? t = some task.stage := by rw [World.stage?, htask, Option.map_some]
  have hbefore : t ∉ line → v.isBefore t = w.isBefore t := fun hline => by
    unfold isBefore
    rw [h.mirrors.stage? hline]
  generalize hp : Position.of holder line t = p at hpace
  generalize task.stage = stage at hpace hstage
  cases hpace with
  | fresh hcall =>
    obtain ⟨hholder, hline⟩ := Position.eq_apart hp
    rcases h.goes_fresh ht hstage hcall hholder hline with ⟨hgate, h'⟩ | h'
    · exact .inl ⟨hgate, _, h'⟩
    · exact .inr ⟨hbefore hline, h'⟩
  | ended =>
    obtain ⟨hholder, hline⟩ := Position.eq_apart hp
    rw [resume_ended hstage, resume_ended ((h.mirrors.stage? hline).trans hstage)]
    exact .inr ⟨hbefore hline, holder, line, hline, h⟩
  | atGate _ _ =>
    rw [resume_waiting hstage]
    exact .inl ⟨by unfold isAtGate; rw [hstage], line, h⟩
  | called unseen =>
    obtain ⟨rfl, rest, rfl⟩ := Position.eq_called hp
    obtain ⟨job, next, hfresh, -⟩ := h.fresh_of_line (t := t) List.mem_cons_self
    obtain ⟨holder', h'⟩ := h.goes_called hstage unseen
    refine .inr ⟨?_, holder', rest, (List.nodup_cons.mp h.nodup).1, h'⟩
    unfold isBefore
    rw [hstage, hfresh]
  | waiting _ _ _ =>
    obtain rfl := Position.eq_inside.mp hp
    have hline : t ∉ line := h.apart t rfl
    rw [resume_waiting hstage, resume_waiting ((h.mirrors.stage? hline).trans hstage)]
    exact .inr ⟨hbefore hline, some t, line, hline, h⟩
  | woken he whole unseen =>
    obtain rfl := Position.eq_inside.mp hp
    have hline : t ∉ line := h.apart t rfl
    obtain ⟨holder', h'⟩ := h.goes_woken hstage he whole unseen
    exact .inr ⟨hbefore hline, holder', line, hline, h'⟩

/-- **The wait of a call ends in both worlds**, by itself or at the storage. -/
theorem rouse (h : Apace bare n calls holder line w v) (t : Nat) {f : Task → Option (Stage × Nat)}
    (hf : ∀ task s, f task = some s → task.stage.isRousable = true)
    (hwakes : ∀ task s, f task = some s → ∃ (e : Effect) (next : e.Reply → Job) (alarm : Option (Alarm e.Reply))
      (r : e.Reply), task.stage = .waiting e next alarm ∧ s.1 = .woken e next r ∧
        ((∀ a, alarm = some a → e.brokenOff ≠ some a.reply) → e.brokenOff ≠ some r)) :
    Apace bare n calls holder line (w.rouse f t) (v.rouse f t) := by
  have hsession : ∀ u : World, (u.rouse f t).session n = u.session n := fun u => by
    rw [World.session, rouse_sessions, World.session]
  exact
    { mirrors := h.mirrors.rouse hf t
      isBare := by rw [hsession]; exact h.isBare
      tasks := fun i hi => by
        obtain ⟨task, htask, hown, hpace⟩ := h.tasks i hi
        by_cases hit : t = i
        · subst hit
          cases hs : f task with
          | none =>
            rw [rouse_tasks_of_none (by rw [htask]; exact hs)]
            exact ⟨task, htask, hown, hpace⟩
          | some s =>
            refine ⟨{ task with stage := s.1 }, ?_, hown, ?_⟩
            · simp [World.rouse, htask, hs, enqueue, setStage, onTask]
            · obtain ⟨e, next, alarm, r, hstage, hwoken, hwhole⟩ := hwakes task s hs
              have hrousable := hf task s hs
              rw [hstage] at hpace hrousable
              rw [show ({ task with stage := s.1 } : Task).stage = .woken e next r from hwoken]
              generalize Position.of holder line t = p at hpace ⊢
              cases hpace with
              | atGate _ _ => cases hrousable
              | waiting he whole unseen => exact .woken he (hwhole whole) (unseen r)
        · rw [rouse_tasks_ne hit]
          exact ⟨task, htask, hown, hpace⟩
      gate := by rw [hsession]; exact h.gate
      gate' := by rw [hsession]; exact h.gate'
      fetch := fun i hi hqueue => by
        rw [fetchQueue, hsession] at hqueue
        refine (h.fetch i hi hqueue).imp_right (Exists.imp fun r hr => ?_)
        obtain ⟨task, htask, hstage⟩ := Option.map_eq_some_iff.mp hr
        rw [World.stage?, rouse_still hf htask (by rw [hstage]; rfl), Option.map_some, hstage]
      nodup := h.nodup
      member := h.member
      apart := h.apart }

theorem rings (h : Apace bare n calls holder line w v) (t : Nat) :
    Apace bare n calls holder line (w.ring t) (v.ring t) := by
  rw [ring_eq_rouse, ring_eq_rouse]
  refine h.rouse t (fun _ _ => rousable_of_rung) fun task s hs => ?_
  unfold Task.rung? at hs
  split at hs
  next e next alarm hstage =>
    cases hs
    exact ⟨e, next, some alarm, alarm.reply, hstage, rfl, fun hwhole => hwhole alarm rfl⟩
  next => cases hs

theorem served (h : Apace bare n calls holder line w v) (t : Nat) :
    Apace bare n calls holder line (w.wakeAtStorage t) (v.wakeAtStorage t) := by
  rw [wakeAtStorage_eq_rouse, wakeAtStorage_eq_rouse]
  refine h.rouse t (fun _ _ => rousable_of_served) fun task s hs => ?_
  unfold Task.served? at hs
  split at hs
  next next alarm hstage =>
    cases hs
    refine ⟨.storageTurn, next, alarm, .back (), hstage, rfl, fun _ => ?_⟩
    rintro ⟨⟩
  next => cases hs

theorem outside (h : Apace bare n calls holder line w v) (e : Outside n calls) :
    Apace bare n calls holder line (e.act w) (e.act v) := by
  have hw := e.spares w
  have hv := e.spares v
  have hmember : ∀ i ∈ line, i ∈ calls := fun i hi => h.member i (.inr hi)
  have hsame := e.unseeing w v (h.mirrors.toSameAround.mono hmember)
  have hstage : ∀ u : World, Spares n calls u (e.act u) → ∀ i ∈ calls, i < u.tasks.length →
      (e.act u).stage? i = u.stage? i := by
    intro u hu i hi hlt
    obtain ⟨watchers, hwatchers⟩ := hu.tasks i hi _ (List.getElem?_eq_getElem hlt)
    rw [World.stage?, hwatchers, World.stage?, List.getElem?_eq_getElem hlt]
    rfl
  have hlt : ∀ i ∈ calls, i < w.tasks.length := fun i hi => by
    obtain ⟨task, htask, -⟩ := h.tasks i hi
    exact (List.getElem?_eq_some_iff.mp htask).1
  have hlt' : ∀ i ∈ calls, i < v.tasks.length := fun i hi => h.mirrors.count ▸ hlt i hi
  have hbare : ((e.act w).session n).isBare = (w.session n).isBare := congrArg (·.2.2) hw.bounds
  exact
    { mirrors :=
        { hsame with
          others := fun i hi => by
            by_cases hcall : i ∈ calls
            · obtain ⟨task, htask, -⟩ := h.tasks i hcall
              obtain ⟨watchers, hwatchers⟩ := hw.tasks i hcall task htask
              obtain ⟨stage, hact⟩ := hsame.own i _ hwatchers
              have hkept := hstage v hv i hcall (hlt' i hcall)
              rw [h.mirrors.stage? hi, World.stage?, hact, World.stage?, htask] at hkept
              rw [hact, hwatchers]
              cases hkept
              rfl
            · exact hsame.others i hcall
          known := hw.known h.known
          waits := fun i hi => by
            rw [hstage w hw i (hmember i hi) (hlt i (hmember i hi)),
              hstage v hv i (hmember i hi) (hlt' i (hmember i hi)), hbare]
            exact h.mirrors.waits i hi }
      isBare := hbare.trans h.isBare
      tasks := fun i hi => by
        obtain ⟨task, htask, hown, hpace⟩ := h.tasks i hi
        obtain ⟨watchers, hwatchers⟩ := hw.tasks i hi task htask
        exact ⟨_, hwatchers, hown, hpace⟩
      gate := (congrArg (·.1) hw.bounds).trans h.gate
      gate' := (congrArg (·.1) hv.bounds).trans h.gate'
      fetch := fun i hi hqueue => by
        have hqueues : (e.act w).fetchQueue n = w.fetchQueue n :=
          congrArg (fun b : Gate × Gate × Bool => b.2.1.queue.map Prod.fst) hw.bounds
        rw [hqueues] at hqueue
        rw [hstage w hw i hi (hlt i hi)]
        exact h.fetch i hi hqueue
      nodup := h.nodup
      member := h.member
      apart := h.apart }

end Apace

/-- **Whatever happens keeps pace**, or leads into the line here while there nothing happens. -/
theorem apace_act (h : Apace bare n calls holder line w v) (k : Happening n calls) :
    (k.queues w = true ∧ ∃ line', Apace bare n calls holder line' (k.act w) v) ∨
      k.queues w = false ∧ k.passes? v = k.passes? w ∧
        ∃ holder' line', Apace bare n calls holder' line' (k.act w) (k.act v) := by
  cases k with
  | goes t ht =>
    rcases h.goes ht with hqueued | ⟨hbefore, holder', line', hline, h'⟩
    · exact .inl hqueued
    · have hgate := h'.not_atGate ht hline
      have hgate' : (v.resume t).isAtGate t = false := by
        unfold isAtGate at hgate ⊢
        rw [h'.mirrors.stage? hline]
        exact hgate
      refine .inr ⟨hgate, ?_, holder', line', h'⟩
      simp only [Happening.passes?, hbefore, hgate, hgate']
  | rings t ht => exact .inr ⟨rfl, rfl, holder, line, h.rings t⟩
  | served t ht => exact .inr ⟨rfl, rfl, holder, line, h.served t⟩
  | outside e => exact .inr ⟨rfl, rfl, holder, line, h.outside e⟩

theorem Apace.holds (h : Apace bare n calls holder line w v) (ht : t ∈ calls)
    (hway : v.isUnderWay t = true) : holder = some t := by
  unfold isUnderWay at hway
  by_cases hline : t ∈ line
  · obtain ⟨job, next, hfresh, -⟩ := h.fresh_of_line hline
    rw [hfresh] at hway
    cases hway
  · obtain ⟨task, htask, -, hpace⟩ := h.tasks t ht
    rw [h.mirrors.stage? hline, World.stage?, htask, Option.map_some] at hway
    refine Decidable.byContradiction fun hholder => ?_
    rw [Position.of_apart hholder hline] at hpace
    generalize task.stage = stage at hpace hway
    cases hpace with
    | fresh _ => cases hway
    | ended => cases hway
    | atGate hposition _ => rcases hposition with hposition | hposition <;> cases hposition

theorem passes?_of_queues {k : Happening n calls} (h : k.queues w = true) : k.passes? w = none := by
  cases k with
  | goes t ht =>
    have hgate : (w.resume t).isAtGate t = true := h
    simp [Happening.passes?, hgate]
  | _ => cases h

/-- **A whole schedule keeps pace with the same in turn**, in which no two calls are under way together. -/
theorem apace_inTurn (h : Apace bare n calls holder line w v) (ks : List (Happening n calls)) :
    (∃ holder' line', Apace bare n calls holder' line' (w.through ks) (v.through (w.inTurn ks))) ∧
      OneByOne v (w.inTurn ks) ∧ v.passing (w.inTurn ks) = w.passing ks := by
  induction ks generalizing w v holder line with
  | nil => exact ⟨⟨holder, line, h⟩, trivial, rfl⟩
  | cons k ks ih =>
    rcases apace_act h k with ⟨hqueues, line', h'⟩ | ⟨hqueues, hpasses, holder', line', h'⟩
    · obtain ⟨hafter, hone, hpassing⟩ := ih h'
      rw [inTurn, if_pos hqueues]
      refine ⟨hafter, hone, hpassing.trans ?_⟩
      rw [passing, passes?_of_queues hqueues]
      rfl
    · obtain ⟨hafter, hone, hpassing⟩ := ih h'
      rw [inTurn, if_neg (by rw [hqueues]; exact Bool.false_ne_true)]
      refine ⟨hafter, ⟨fun t ht u hu hway hway' => ?_, hone⟩, ?_⟩
      · have hholder := h'.holds ht hway
        rw [h'.holds hu hway'] at hholder
        exact (Option.some.inj hholder).symm
      · rw [passing, passing, hpasses, hpassing]

/-- What happens around the calls happens in turn as well, and in the same order. -/
theorem outside_inTurn (w : World) (ks : List (Happening n calls)) :
    (w.inTurn ks).filter Happening.isOutside = ks.filter Happening.isOutside := by
  induction ks generalizing w with
  | nil => rfl
  | cons k ks ih =>
    rw [inTurn]
    split
    next hqueues =>
      have hinside : k.isOutside = false := by
        cases k with
        | goes t ht => rfl
        | _ => cases hqueues
      rw [ih, List.filter_cons_of_neg (by simp [hinside])]
    next =>
      rw [List.filter_cons, List.filter_cons, ih]

theorem Pending.apace (h : w.Pending n calls) : Apace (w.session n).isBare n calls none [] w w where
  mirrors :=
    { SameAround.refl n [] w with
      known := h.known
      waits := fun i hi => absurd hi List.not_mem_nil }
  isBare := rfl
  tasks i hi := by
    obtain ⟨task, a, htask, hown, ha, hstage⟩ := h.tasks i hi
    refine ⟨task, htask, hown, ?_⟩
    have hapart : Position.of none [] i = .apart :=
      Position.of_apart (Option.some_ne_none i).symm List.not_mem_nil
    rw [hapart, hstage]
    exact .fresh (RunAction.isCall_op ha _)
  gate := h.stateGate
  gate' := h.stateGate
  fetch i _ hqueue := by
    rw [fetchQueue, h.fetchGate] at hqueue
    exact absurd hqueue List.not_mem_nil
  nodup := .nil
  member i hi := by
    rcases hi with hi | hi
    · cases hi
    · cases hi
  apart i hi := nomatch hi

theorem Apace.eq_of_ended (h : Apace bare n calls holder line w v)
    (hended : ∀ t ∈ calls, w.hasEnded t = true) : { v with ready := [] } = { w with ready := [] } := by
  have hresult : ∀ t ∈ calls, ∃ task r, w.tasks[t]? = some task ∧ task.stage = .ended r ∧
      Pace bare (.of holder line t) task.stage := by
    intro t ht
    obtain ⟨task, htask, -, hpace⟩ := h.tasks t ht
    have hthere := hended t ht
    unfold hasEnded Task.hasEnded at hthere
    rw [htask] at hthere
    dsimp only at hthere
    split at hthere
    next r hr => exact ⟨task, r, htask, hr, hpace⟩
    next => cases hthere
  have hline : line = [] := by
    refine List.eq_nil_iff_forall_not_mem.mpr fun t ht => ?_
    obtain ⟨task, r, htask, hr, -⟩ := hresult t (h.member t (.inr ht))
    obtain ⟨_, _, _, _, hstage⟩ := h.fresh_of_line ht
    rw [World.stage?, htask, Option.map_some, hr] at hstage
    rcases hstage with hstage | hstage <;> cases hstage
  have hholder : holder = none := by
    cases holder with
    | none => rfl
    | some t =>
      obtain ⟨task, r, -, hr, hpace⟩ := hresult t (h.member t (.inl rfl))
      rw [Position.of_inside, hr] at hpace
      cases hpace
  subst hline hholder
  have hsame := h.mirrors.toSameAround
  have htasks : v.tasks = w.tasks := List.ext_getElem? fun i => hsame.others i List.not_mem_nil
  have hsessions : v.sessions = w.sessions := by
    have hself := (SameAround.refl n [] w).sessions
    have hgate : (v.session n).stateGate = (w.session n).stateGate := h.gate'.trans h.gate.symm
    rw [hsame.sessions, hgate]
    exact hself.symm
  obtain ⟨⟩ := v
  obtain ⟨⟩ := w
  cases hsame.now
  cases hsame.storage
  cases hsame.trace
  cases hsame.hookCalls
  cases hsame.events
  cases hsame.script
  cases hsame.sent
  cases hsame.storageQueue
  cases htasks
  cases hsessions
  rfl

/-- **Calls on the run take effect one after the other.** Whatever happens to any number of calls that were made
at once, the same comes of it when they are made in turn, in the order in which they came past the gate: the
same results, and the same state, mode, transfer, failure, stored record, messages to the service and
snapshots for the readers. What happens around the calls is the same in both. -/
theorem linearizable (h : w.Pending n calls) (ks : List (Happening n calls)) :
    OneByOne w (w.inTurn ks) ∧ w.passing (w.inTurn ks) = w.passing ks ∧
      (w.inTurn ks).filter Happening.isOutside = ks.filter Happening.isOutside ∧
      SameAround n calls (w.through ks) (w.through (w.inTurn ks)) ∧
      (∀ t ∈ calls, ∀ r, (w.through (w.inTurn ks)).stage? t = some (.ended r) ↔
        (w.through ks).stage? t = some (.ended r)) ∧
      ((∀ t ∈ calls, (w.through ks).hasEnded t = true) →
        { w.through (w.inTurn ks) with ready := [] } = { w.through ks with ready := [] }) := by
  obtain ⟨⟨holder, line, hafter⟩, hone, hpassing⟩ := apace_inTurn h.apace ks
  refine ⟨hone, hpassing, outside_inTurn w ks,
    hafter.mirrors.toSameAround.mono fun i hi => hafter.member i (.inr hi), fun t ht r => ?_,
    hafter.eq_of_ended⟩
  by_cases hline : t ∈ line
  · obtain ⟨job, next, hfresh, -, hstage⟩ := hafter.fresh_of_line hline
    rw [hfresh]
    rcases hstage with hstage | hstage
    · rw [hstage]
      exact ⟨nofun, nofun⟩
    · rw [hstage]
      exact ⟨nofun, nofun⟩
  · rw [hafter.mirrors.stage? hline]

/-- A world in which a run is to begin, a report is to be applied, and the run is to be forgotten, on a store
that takes a second to save. -/
def threeCalls : World :=
  let w : World :=
    { sessions := [{ board := { ttl := .whole 5 } }]
      storage := { stores := [{ faults := { saveDelay := some 1000000 } }] } }
  let w := (w.spawn 0 (.ofOp (Action.run (.begin .dataOnly .bulk (.whole 2) (.whole 3))).op)).2
  let w := (w.spawn 0 (.ofOp (Action.run (.apply { progress := .whole 50, signal := .dataInProgress })).op)).2
  (w.spawn 0 (.ofOp (Action.run .reset).op)).2

/-- The run begins and waits for its record to be saved; the others come to the line. Once it is saved, each goes
through when it is called. -/
def threeTurns : List (Happening 0 [0, 1, 2]) :=
  [.goes 0 (by decide), .goes 2 (by decide), .goes 1 (by decide), .outside (.time 0 [0, 1, 2] 1000000),
    .rings 0 (by decide), .goes 0 (by decide), .goes 2 (by decide), .goes 1 (by decide)]

/-- The run is forgotten before the report is applied, at once or in turn. -/
theorem linearizable_threeCalls : threeCalls.Pending 0 [0, 1, 2] ∧
    (∀ t ∈ [0, 1, 2], (threeCalls.through threeTurns).hasEnded t = true) ∧
    threeCalls.passing (threeCalls.inTurn threeTurns) = [0, 2, 1] ∧
    { threeCalls.through (threeCalls.inTurn threeTurns) with ready := [] } =
      { threeCalls.through threeTurns with ready := [] } := by
  have hpending : threeCalls.Pending 0 [0, 1, 2] :=
    { known := by decide
      stateGate := rfl
      fetchGate := rfl
      tasks := fun t ht => by
        simp only [List.mem_cons, List.not_mem_nil, or_false] at ht
        rcases ht with rfl | rfl | rfl
        · exact ⟨_, .begin .dataOnly .bulk (.whole 2) (.whole 3), rfl, rfl, rfl, rfl⟩
        · exact ⟨_, .apply { progress := .whole 50, signal := .dataInProgress }, rfl, rfl, rfl, rfl⟩
        · exact ⟨_, .reset, rfl, rfl, rfl, rfl⟩ }
  have hended : ∀ t ∈ [0, 1, 2], (threeCalls.through threeTurns).hasEnded t = true := by decide +kernel
  obtain ⟨-, hpassing, -, -, -, hsame⟩ := linearizable hpending threeTurns
  exact ⟨hpending, hended, hpassing.trans rfl, hsame hended⟩

/-- **What the world does next is made of happenings**, as long as only calls can go on. -/
theorem through_of_next (hready : ∀ p ∈ w.ready, p.task ∈ calls) (hqueue : ∀ t ∈ w.storageQueue, t ∈ calls)
    (hnext : w.next? = some w') : ∃ ks : List (Happening n calls), w.through ks = w' := by
  unfold next? at hnext
  split at hnext
  next _ t rest hr =>
    have ht : t ∈ calls := hready ⟨t, 0⟩ (by rw [hr]; exact List.mem_cons_self)
    exact ⟨[.outside (.queues n calls (fun _ => rest) id), .goes t ht], Option.some.inj hnext⟩
  next _ t laps rest hr =>
    exact ⟨[.outside (.queues n calls (fun _ => rest ++ [Place.mk t laps]) id)], Option.some.inj hnext⟩
  next t rest hr hq =>
    have ht : t ∈ calls := hqueue t (by rw [hq]; exact List.mem_cons_self)
    exact ⟨[.outside (.queues n calls id fun _ => rest), .served t ht], Option.some.inj hnext⟩
  next => cases hnext

end World

end Cutover
