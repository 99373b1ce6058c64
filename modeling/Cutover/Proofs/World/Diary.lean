import Cutover.Proofs.Control.Noting
import Cutover.Proofs.World.Agreement
import Cutover.Proofs.World.Waking

/-!
# Diaries

A diary is a history of calls in which all that can be seen of them is written down, in order and with the call that
does it. What a call writes down is all of one piece, since nobody else is behind the gate while it is there.

* `World.signs`, `World.signsOf`: **what can be seen of the work of a task**, effect after effect;
* `World.Diary`: **a history with what is written down**;
* `World.Neighbours`: what a call that works does to the others;
* `World.Written`: what a call has written down, by how far it has come;
* `World.Writing.run`, `World.Logged.resume`: a call goes on writing while it works;
* `World.logged_diary`: **what was written down all through a diary**;
* `World.Diary.noted`: **a call that has ended has written all of its piece**.
-/

namespace Cutover

namespace World

/-! ## What is seen -/

/-- What can be seen of going through the state gate: what is found behind it. -/
def entrance (w : World) (n : Nat) : (e : Effect) → e.Reply → List Sign
  | .acquire .state, .back _ => [.entered (w.site n).core]
  | _, _ => []

/-- **What can be seen of the work of a task**, effect after effect. -/
def signs (t : Nat) : Job → World → List Sign
  | .done _, _ => []
  | .ask e next, w => (w.site (w.sessionOf t)).signs e ++
    match w.perform t e with
    | (w', .reply r) => w'.entrance (w.sessionOf t) e r ++ signs t (next r) w'
    | (_, .wait _) => []

/-- What can be seen when a task goes on. -/
def signsOf (w : World) (t : Nat) : List Sign :=
  match (w.tasks[t]?).map Task.stage with
  | some (.fresh job) => signs t job w
  | some (.woken e next r) => (w.settleAtGate t e r).entrance (w.sessionOf t) e r ++
    signs t (next r) (w.settleAtGate t e r)
  | _ => []

/-- What is written down, each with the task that does it. -/
abbrev Log := List (Nat × Sign)

/-- **A history with what is written down**: whenever a call goes on, what can be seen of it. -/
inductive Diary (n : Nat) (w₀ : World) : Calls → Log → World → Prop
  | start : Diary n w₀ [] [] w₀
  | call {calls : Calls} {log : Log} {w : World} (h : Diary n w₀ calls log w) (a : RunAction)
    (ha : a.isCall = true) : Diary n w₀ ((w.tasks.length, a) :: calls) log (w.spawn n (.ofOp a.op)).2
  | resume {calls : Calls} {log : Log} {w : World} {t : Nat} {a : RunAction} (h : Diary n w₀ calls log w)
    (ha : (t, a) ∈ calls) : Diary n w₀ calls (log ++ (w.signsOf t).map (t, ·)) (w.resume t)
  | ring {calls : Calls} {log : Log} {w : World} {t : Nat} {a : RunAction} (h : Diary n w₀ calls log w)
    (ha : (t, a) ∈ calls) : Diary n w₀ calls log (ring w t)
  | serve {calls : Calls} {log : Log} {w : World} {t : Nat} {a : RunAction} (h : Diary n w₀ calls log w)
    (ha : (t, a) ∈ calls) : Diary n w₀ calls log (wakeAtStorage w t)
  | elsewhere {calls : Calls} {log : Log} {w w' : World} (h : Diary n w₀ calls log w)
    (he : Elsewhere n (w₀.session n).board calls w w') : Diary n w₀ calls log w'

theorem History.diary {n : Nat} {w₀ w : World} {calls : Calls} (h : History n w₀ calls w) :
    ∃ log, Diary n w₀ calls log w := by
  induction h with
  | start => exact ⟨[], .start⟩
  | next _ m ih =>
    obtain ⟨log, hdiary⟩ := ih
    cases m with
    | call a ha => exact ⟨_, hdiary.call a ha⟩
    | resume ha => exact ⟨_, hdiary.resume ha⟩
    | ring ha => exact ⟨_, hdiary.ring ha⟩
    | serve ha => exact ⟨_, hdiary.serve ha⟩
    | elsewhere he => exact ⟨_, hdiary.elsewhere he⟩

/-! ## Pieces of a log -/

/-- **What a task has written down, all of one piece.** -/
def Piece (t : Nat) (log : Log) (l : List Sign) : Prop :=
  ∃ before after, log = before ++ l.map (t, ·) ++ after ∧ ∀ e ∈ before ++ after, e.1 ≠ t

/-- What a task has written down that is still writing. -/
def Open (t : Nat) (log : Log) (l : List Sign) : Prop :=
  ∃ before, log = before ++ l.map (t, ·) ∧ ∀ e ∈ before, e.1 ≠ t

section
variable {t i : Nat} {log : Log} {l g : List Sign}

theorem piece_nil (h : ∀ e ∈ log, e.1 ≠ t) : Piece t log [] :=
  ⟨log, [], by simp, fun e he => h e (by simpa using he)⟩

theorem Piece.open (h : Piece t log []) : Open t log [] := by
  obtain ⟨before, after, rfl, hothers⟩ := h
  exact ⟨before ++ after, by simp, hothers⟩

theorem Open.piece (h : Open t log l) : Piece t log l := by
  obtain ⟨before, rfl, hothers⟩ := h
  exact ⟨before, [], (List.append_nil _).symm, by rwa [List.append_nil]⟩

theorem Open.add (h : Open t log l) (g : List Sign) : Open t (log ++ g.map (t, ·)) (l ++ g) := by
  obtain ⟨before, rfl, hothers⟩ := h
  exact ⟨before, by rw [List.map_append, List.append_assoc], hothers⟩

theorem Piece.first {x : Sign} (h : Piece t log (x :: l)) : log.find? (·.1 == t) = some (t, x) := by
  obtain ⟨before, after, rfl, hothers⟩ := h
  have hbefore : before.find? (·.1 == t) = none :=
    List.find?_eq_none.mpr fun e he => by simpa using hothers e (List.mem_append_left _ he)
  rw [List.append_assoc, List.find?_append, hbefore]
  simp

theorem Piece.add (h : Piece i log l) (hit : i ≠ t) (g : List Sign) : Piece i (log ++ g.map (t, ·)) l := by
  obtain ⟨before, after, rfl, hothers⟩ := h
  refine ⟨before, after ++ g.map (t, ·), by simp only [List.append_assoc], fun e he => ?_⟩
  rw [← List.append_assoc] at he
  rcases List.mem_append.mp he with he | he
  · exact hothers e he
  · obtain ⟨_, -, rfl⟩ := List.mem_map.mp he
    exact hit.symm

end

/-! ## How far a call has come -/

/-- The rest of the work of a call, with what it has written down. -/
structure Notes (c₀ : Core) (a : RunAction) (job : Job) (st : Stand) (l : List Sign) : Prop where
  goes : Goes (.ofCall c₀ a.begins) c₀.Ready job st
  notes : job.Meets ((Surroundings.ofCall c₀ a.begins).noting c₀.Steady)
    (fun r x => a.Noted (lastResult r) x.2) (st, l)

/-- The rest of the work of a call that is let in. -/
abbrev Enters (c₀ : Core) (a : RunAction) (next : Waited Unit → Job) : Prop :=
  ∀ s, c₀.Steady s.site.core → (Surroundings.ofCall c₀ a.begins).At s.site.core [] s →
    Notes c₀ a (next (.back ())) (.inside s) [.entered s.site.core]

/-- How far a call has come that is not behind the gate, with what it has written down. -/
inductive Abroad (c₀ : Core) (a : RunAction) : Stage → List Sign → Prop
  | fresh {job : Job} (notes : Notes c₀ a job .outside []) : Abroad c₀ a (.fresh job) []
  | ended {r : Except Exit Result} {l : List Sign} (noted : a.Noted r l) : Abroad c₀ a (.ended r) l
  | atGate {next : Waited Unit → Job} (enters : Enters c₀ a next) :
    Abroad c₀ a (.waiting (.acquire .state) next none) []
  | called {next : Waited Unit → Job} (enters : Enters c₀ a next) :
    Abroad c₀ a (.woken (.acquire .state) next (.back ())) []

/-- How far a call has come that is behind the gate, with what it has written down. -/
inductive AtWork (c₀ : Core) (a : RunAction) (c : Core) : Stage → List Sign → Prop
  | waiting {e : Effect} {next : e.Reply → Job} {alarm : Option (Alarm e.Reply)} {p : List (Option RunState)}
    {l : List Sign} (notes : ∀ r s, (Surroundings.ofCall c₀ a.begins).Ends e r →
      (Surroundings.ofCall c₀ a.begins).At c p s → Notes c₀ a (next r) (.inside s) l) :
    AtWork c₀ a c (.waiting e next alarm) l
  | woken {e : Effect} {next : e.Reply → Job} {r : e.Reply} {p : List (Option RunState)} {l : List Sign}
    (ends : (Surroundings.ofCall c₀ a.begins).Ends e r)
    (notes : ∀ s, (Surroundings.ofCall c₀ a.begins).At c p s → Notes c₀ a (next r) (.inside s) l) :
    AtWork c₀ a c (.woken e next r) l

/-- **What a call has written down**, by how far it has come. -/
inductive Written (c₀ : Core) (a : RunAction) (holder : Option Nat) (t : Nat) (c : Core) (log : Log) : Stage → Prop
  | abroad {stage : Stage} {l : List Sign} (apart : holder ≠ some t) (abroad : Abroad c₀ a stage l)
    (piece : Piece t log l) : Written c₀ a holder t c log stage
  | atWork {stage : Stage} {l : List Sign} (inside : holder = some t) (atWork : AtWork c₀ a c stage l)
    (piece : Open t log l) : Written c₀ a holder t c log stage

section
variable {c₀ c d : Core} {n t i : Nat} {a : RunAction} {calls : Calls} {holder holder' : Option Nat}
variable {line line' : List Nat} {log log' : Log} {stage stage' : Stage} {l : List Sign}

theorem Abroad.served (h : Abroad c₀ a stage l) (hserved : stage.Served stage') {p : Position}
    (hstanding : Standing (.ofCall c₀ a.begins) c₀.Ready d p stage') : Abroad c₀ a stage' l := by
  cases h with
  | fresh notes =>
    obtain rfl := hserved.of_fresh
    exact .fresh notes
  | ended noted =>
    obtain rfl := hserved.of_ended
    exact .ended noted
  | atGate enters =>
    rcases hserved.of_waiting with rfl | ⟨r, rfl, -⟩
    · exact .atGate enters
    · cases hstanding with
      | called _ => exact .called enters
      | woken ends _ => exact absurd ends id
  | called enters =>
    obtain rfl := hserved.of_woken
    exact .called enters

theorem AtWork.served (h : AtWork c₀ a c stage l) (hserved : stage.Served stage')
    (hstanding : Standing (.ofCall c₀ a.begins) c₀.Ready d .inside stage') : AtWork c₀ a c stage' l := by
  cases h with
  | waiting notes =>
    rcases hserved.of_waiting with rfl | ⟨r, rfl, -⟩
    · exact .waiting notes
    · cases hstanding with
      | woken ends _ => exact .woken ends fun s hs => notes _ s ends hs
  | woken ends notes =>
    obtain rfl := hserved.of_woken
    exact .woken ends notes

/-- The wait of a call may end, and others may write something down while it is not behind the gate. -/
theorem Written.served (h : Written c₀ a holder t c log stage) (hserved : stage.Served stage')
    (hstanding : Standing (.ofCall c₀ a.begins) c₀.Ready d (.of holder' line' t) stage')
    (hholder : holder' = some t ↔ holder = some t) (hinside : holder = some t → d = c ∧ log' = log)
    (hpiece : ∀ l, Piece t log l → Piece t log' l) : Written c₀ a holder' t d log' stage' := by
  cases h with
  | abroad apart abroad piece =>
    exact .abroad (fun h => apart (hholder.mp h)) (abroad.served hserved hstanding) (hpiece _ piece)
  | atWork inside atWork piece =>
    obtain ⟨rfl, rfl⟩ := hinside inside
    rw [Position.eq_inside.mpr (hholder.mpr inside)] at hstanding
    exact .atWork (hholder.mpr inside) (atWork.served hserved hstanding) piece

end

/-! ## The others -/

/-- **What a call that works does to the others**: waits of theirs may end, nobody else goes through the gate or leaves
it, and whoever is behind it finds everything as it was. -/
structure Neighbours (n t : Nat) (holder holder' : Option Nat) (g : List Sign) (w w' : World) : Prop where
  place : ∀ i, i ≠ t → (holder' = some i ↔ holder = some i)
  tasks : ∀ (i : Nat) (task : Task), i ≠ t → w.tasks[i]? = some task →
    ∃ stage, w'.tasks[i]? = some { task with stage } ∧ task.stage.Served stage
  inside : ∀ i, i ≠ t → holder = some i → (w'.site n).core = (w.site n).core ∧ g = []

section
variable {n t i : Nat} {holder holder' holder'' : Option Nat} {g g' : List Sign} {w w' w'' : World} {e : Effect}

theorem Neighbours.trans (h : Neighbours n t holder holder' g w w') (h' : Neighbours n t holder' holder'' g' w' w'') :
    Neighbours n t holder holder'' (g ++ g') w w'' where
  place i hi := (h'.place i hi).trans (h.place i hi)
  tasks i task hi htask := by
    obtain ⟨stage, hstage, hserved⟩ := h.tasks i task hi htask
    obtain ⟨stage', hstage', hserved'⟩ := h'.tasks i _ hi hstage
    exact ⟨stage', hstage', hserved.trans hserved'⟩
  inside i hi hholder := by
    obtain ⟨hcore, rfl⟩ := h.inside i hi hholder
    obtain ⟨hcore', rfl⟩ := h'.inside i hi ((h.place i hi).mpr hholder)
    exact ⟨hcore'.trans hcore, rfl⟩

theorem Neighbours.restage (h : Neighbours n t holder holder' g w w') (stage : Stage) :
    Neighbours n t holder holder' g w (w'.setStage t stage) where
  place := h.place
  tasks i task hi htask := by
    obtain ⟨stage', hstage', hserved⟩ := h.tasks i task hi htask
    refine ⟨stage', ?_, hserved⟩
    exact (tasks_setStage_ne hi.symm).trans hstage'
  inside := h.inside

theorem Neighbours.of_holder (hholder : holder = none ∨ holder = some t) (hholder' : holder' = none ∨ holder' = some t)
    (htasks : ∀ (i : Nat) (task : Task), w.tasks[i]? = some task →
      ∃ stage, w'.tasks[i]? = some { task with stage } ∧ task.stage.Served stage) :
    Neighbours n t holder holder' g w w' where
  place i hi := by
    have hne : some t ≠ some i := fun hti => hi (Option.some.inj hti).symm
    rcases hholder with rfl | rfl <;> rcases hholder' with rfl | rfl <;> simp [hne]
  tasks i task _ htask := htasks i task htask
  inside i hi hinside := by
    rcases hholder with rfl | rfl
    · cases hinside
    · exact absurd (Option.some.inj hinside).symm hi

theorem served_of_tasks (h : w'.tasks = w.tasks) (i : Nat) (task : Task) (htask : w.tasks[i]? = some task) :
    ∃ stage, w'.tasks[i]? = some { task with stage } ∧ task.stage.Served stage :=
  ⟨task.stage, by rw [h, htask], .refl⟩

theorem served_of_stirred (h : Stirred (fun _ _ => True) False w w') (i : Nat) (task : Task)
    (htask : w.tasks[i]? = some task) :
    ∃ stage, w'.tasks[i]? = some { task with stage } ∧ task.stage.Served stage :=
  h.tasks i task htask

theorem tasks_acquire (w : World) (t : Nat) (g : GateName) : (w.acquire t g).1.tasks = w.tasks := by
  rw [acquire]
  split <;> rfl

/-- **What work behind the gate asks for ends only waits.** -/
theorem served_perform {S : Surroundings} {s : Scene} (h : S.Allows s e) (w : World) (t i : Nat) (task : Task)
    (htask : w.tasks[i]? = some task) :
    ∃ stage, (w.perform t e).1.tasks[i]? = some { task with stage } ∧ task.stage.Served stage := by
  cases e with
  | look => exact served_of_tasks rfl i task htask
  | change x => exact served_of_tasks rfl i task htask
  | acquire g => exact served_of_tasks (tasks_acquire w t g) i task htask
  | release g => exact served_of_stirred (stirred_callAtGate ..) i task htask
  | sleep d => exact served_of_tasks rfl i task htask
  | storageTurn =>
    refine served_of_tasks ?_ i task htask
    rw [perform, awaitStorage]
    split <;> rfl
  | send m =>
    refine served_of_tasks ?_ i task htask
    rw [perform, send]
    dsimp only
    split <;> rfl
  | raiseLatch => exact served_of_stirred (stirred_raiseLatch ..) i task htask
  | publish item => exact served_of_stirred (stirred_publish ..) i task htask
  | _ => exact absurd h id

theorem entrance_of_allows {S : Surroundings} {s : Scene} (h : S.Allows s e) (w : World) (n : Nat) (r : e.Reply) :
    w.entrance n e r = [] := by
  cases e with
  | acquire g =>
    cases g with
    | state => exact absurd h id
    | fetch => rfl
  | _ => rfl

end

/-! ## A call that works -/

theorem leadsCall_inside {S : Surroundings} {I : Core → Prop} {s s' : Scene} {e : Effect} {r : e.Reply}
    (h : S.Allows s e) (hleads : S.Leads s e r s') : S.LeadsCall I (.inside s) e r (.inside s') := by
  cases e with
  | release g =>
    cases g with
    | state => exact absurd h id
    | fetch => exact ⟨s', rfl, hleads⟩
  | _ => exact ⟨s', rfl, hleads⟩

/-- What a call that works has written down, by where it stands. -/
def Writes (t : Nat) (log : Log) (l : List Sign) : Stand → Prop
  | .outside => Piece t log l
  | .inside _ => Open t log l

/-- **A call writes while it works**: it has written something down, and the rest of its work goes on from there. -/
structure Writing (c₀ : Core) (n : Nat) (calls : Calls) (t : Nat) (a : RunAction) (holder : Option Nat)
    (line : List Nat) (log : Log) (l : List Sign) (q : Stand) (job : Job) (w : World) : Prop where
  called : (t, a) ∈ calls
  ordered : Ordered c₀ n calls (some t) holder line w
  runs : w.Runs t
  stands : Stands holder line t (w.site n) q
  notes : Notes c₀ a job q l
  sound : holder = none → (w.site n).core.session.state.Sound
  writes : Writes t log l q

/-- **What comes of a call that has worked** until it waits or ends, and has written something down. -/
structure Wrote (c₀ : Core) (n : Nat) (calls : Calls) (t : Nat) (a : RunAction) (log : Log) (g : List Sign)
    (holder holder' : Option Nat) (line' : List Nat) (w w' : World) : Prop where
  ordered : Ordered c₀ n calls none holder' line' w'
  others : Neighbours n t holder holder' g w w'
  sound : holder' = none → (w'.site n).core.session.state.Sound
  written : ∃ stage, w'.stage? t = some stage ∧
    Written c₀ a holder' t (w'.site n).core (log ++ g.map (t, ·)) stage

/-- **What comes of an effect of a call that writes**: it goes on writing, or a wait begins. -/
inductive Carried (c₀ : Core) (n : Nat) (calls : Calls) (t : Nat) (a : RunAction) (holder : Option Nat) (log : Log)
    (e : Effect) (next : e.Reply → Job) (w : World) : World × Uptake e.Reply → Prop
  | reply {w' : World} {r : e.Reply} {holder' : Option Nat} {line' : List Nat} {g l : List Sign} {q : Stand}
    (seen : (w.site n).signs e ++ w'.entrance n e r = g)
    (writing : Writing c₀ n calls t a holder' line' (log ++ g.map (t, ·)) l q (next r) w')
    (others : Neighbours n t holder holder' g w w') : Carried c₀ n calls t a holder log e next w (w', .reply r)
  | wait {w' : World} {alarm : Option (Alarm e.Reply)} {line' : List Nat}
    (wrote : Wrote c₀ n calls t a log ((w.site n).signs e) holder holder line' w
      (w'.setStage t (.waiting e next alarm))) : Carried c₀ n calls t a holder log e next w (w', .wait alarm)

section
variable {c₀ : Core} {n t : Nat} {a : RunAction} {calls : Calls} {holder holder' holder'' : Option Nat}
variable {line line'' : List Nat} {log : Log} {l g g' : List Sign} {w w' w'' : World} {q : Stand} {s : Scene}

theorem Wrote.after (h : Wrote c₀ n calls t a (log ++ g.map (t, ·)) g' holder' holder'' line'' w' w'')
    (hothers : Neighbours n t holder holder' g w w') :
    Wrote c₀ n calls t a log (g ++ g') holder holder'' line'' w w'' where
  ordered := h.ordered
  others := hothers.trans h.others
  sound := h.sound
  written := by
    rw [List.map_append, ← List.append_assoc]
    exact h.written

namespace Writing

theorem session (h : Writing c₀ n calls t a holder line log l q job w) : w.sessionOf t = n :=
  (h.ordered.works h.called).session

theorem conclude {r : Except Exit Outturn} (h : Writing c₀ n calls t a holder line log l q (.done r) w) :
    Wrote c₀ n calls t a log [] holder holder line w (w.conclude t r) := by
  obtain ⟨hgoes, hnoted⟩ := h.notes
  cases hgoes
  obtain ⟨hholder, hline⟩ := h.stands
  obtain ⟨stage, htask, -⟩ := h.ordered.tasks t a h.called
  obtain ⟨hconclude, hordered⟩ := ordered_conclude h.called h.ordered hholder hline r
  rw [hconclude]
  refine ⟨hordered, ?_, h.sound, _, stage?_setStage_self htask, ?_⟩
  · exact .restage ⟨fun i _ => Iff.rfl, fun i task _ => served_of_tasks rfl i task, fun i _ _ => ⟨rfl, rfl⟩⟩ _
  · rw [List.map_nil, List.append_nil]
    exact .abroad hholder (.ended hnoted) h.writes

theorem look {next : Site → Job} (h : Writing c₀ n calls t a holder line log l .outside (.ask .look next) w) :
    Carried c₀ n calls t a holder log .look next w (w.perform t .look) := by
  obtain ⟨⟨-, hnext⟩, -, hnext'⟩ := h.notes
  have hwriting : Writing c₀ n calls t a holder line (log ++ [].map (t, ·)) l .outside (next (w.site n)) w := by
    rw [List.map_nil, List.append_nil]
    exact { h with notes := ⟨hnext _ .outside rfl, hnext' _ (.outside, l) ⟨rfl, (List.append_nil l).symm⟩⟩ }
  rw [perform, h.session]
  exact .reply rfl hwriting
    ⟨fun i _ => Iff.rfl, fun i task _ => served_of_tasks rfl i task, fun i _ _ => ⟨rfl, rfl⟩⟩

/-- **The call goes through the gate**, or waits for it. -/
theorem enter {next : Waited Unit → Job}
    (h : Writing c₀ n calls t a holder line log l .outside (.ask (.acquire .state) next) w) :
    Carried c₀ n calls t a holder log (.acquire .state) next w (w.perform t (.acquire .state)) := by
  obtain ⟨⟨-, hnext⟩, hmay, hnext'⟩ := h.notes
  obtain ⟨hholder, hline⟩ := h.stands
  obtain rfl : l = [] := hmay
  have hpiece : Piece t log [] := h.writes
  have henters : Enters c₀ a next := fun s hs hat =>
    ⟨hnext (.back ()) _ ⟨rfl, s, rfl, hs.ready, hat⟩, hnext' (.back ()) (.inside s, _) ⟨⟨rfl, s, rfl, hs, hat⟩, rfl⟩⟩
  have htasks := tasks_acquire w t .state
  rw [perform]
  rcases ordered_acquire h.called h.ordered hholder hline fun s hI hat => hnext (.back ()) _ ⟨rfl, s, rfl, hI, hat⟩ with
    ⟨w', hacquire, rfl, rfl, hordered, -, hcore⟩ | ⟨w', line', hacquire, hordered, hcore⟩
  · rw [hacquire] at htasks ⊢
    have hruns : w'.Runs t := by
      unfold Runs stage?
      rw [htasks]
      exact h.runs
    have hsteady : c₀.Steady (w'.site n).core := by
      rw [hcore]
      exact ⟨h.ordered.free rfl, h.sound rfl⟩
    have hwriting : Writing c₀ n calls t a (some t) [] (log ++ [.entered (w'.site n).core].map (t, ·))
        [.entered (w'.site n).core] (.inside ⟨w'.site n, [], []⟩) (next (.back ())) w' :=
      { called := h.called
        ordered := hordered
        runs := hruns
        stands := ⟨rfl, rfl⟩
        notes := henters _ hsteady ⟨rfl, rfl, hordered.within⟩
        sound := fun hnone => by cases hnone
        writes := hpiece.open.add _ }
    exact .reply rfl hwriting (.of_holder (.inl rfl) (.inr rfl) (served_of_tasks htasks))
  · rw [hacquire] at htasks ⊢
    obtain ⟨stage, htask, -⟩ := h.ordered.tasks t a h.called
    rw [← htasks] at htask
    refine .wait ⟨hordered, ?_, fun hnone => hcore ▸ h.sound hnone, _, stage?_setStage_self htask, ?_⟩
    · exact .restage ⟨fun i _ => Iff.rfl, fun i task _ => served_of_tasks htasks i task, fun i _ _ => ⟨hcore, rfl⟩⟩ _
    · refine .abroad hholder (.atGate henters) ?_
      exact (List.append_nil log).symm ▸ hpiece

/-- **The call leaves**, and what it leaves behind is seen. -/
theorem leave {next : Unit → Job} (h : Writing c₀ n calls t a holder line log l (.inside s) (.ask (.release .state) next) w) :
    Carried c₀ n calls t a holder log (.release .state) next w (w.perform t (.release .state)) := by
  obtain ⟨⟨hI, hnext⟩, hmay, hnext'⟩ := h.notes
  obtain ⟨rfl, hsite⟩ := h.stands
  obtain ⟨hordered, hcore⟩ := ordered_leave h.ordered (hsite ▸ hI)
  have hsound : (w.site n).core.session.state.Sound := hsite ▸ hmay
  have hwrites : Open t log l := h.writes
  have hwriting : Writing c₀ n calls t a none line (log ++ [.left (w.site n).core].map (t, ·))
      (l ++ [.left (w.site n).core]) .outside (next ()) (w.callAtGate n .state ((w.session n).gate .state).leave) :=
    { called := h.called
      ordered := hordered
      runs := runs_callAtGate h.runs _
      stands := ⟨(Option.some_ne_none t).symm, h.ordered.apart t rfl⟩
      notes := ⟨hnext () .outside rfl, hnext' () (.outside, _) ⟨rfl, by rw [← hsite]; rfl⟩⟩
      sound := fun _ => hcore ▸ hsound
      writes := (hwrites.add _).piece }
  rw [perform, h.session]
  exact .reply rfl hwriting (.of_holder (.inr rfl) (.inl rfl) (served_of_stirred (stirred_callAtGate ..)))

/-- **The call works behind the gate**, and all that can be seen of that is written down. -/
theorem behind {e : Effect} {next : e.Reply → Job}
    (h : Writing c₀ n calls t a holder line log l (.inside s) (.ask e next) w)
    (hbehind : (Surroundings.ofCall c₀ a.begins).Allows s e) :
    Carried c₀ n calls t a holder log e next w (w.perform t e) := by
  obtain ⟨⟨-, hnext⟩, -, hnext'⟩ := h.notes
  obtain ⟨rfl, hsite⟩ := h.stands
  have hwrites : Open t log l := h.writes
  have hgoes : ∀ r s', (Surroundings.ofCall c₀ a.begins).Leads s e r s' →
      Goes (.ofCall c₀ a.begins) c₀.Ready (next r) (.inside s') := fun r s' hl => hnext r _ (leadsCall_inside hbehind hl)
  have hnotes : ∀ r s', (Surroundings.ofCall c₀ a.begins).Leads s e r s' →
      Notes c₀ a (next r) (.inside s') (l ++ (w.site n).signs e) := fun r s' hl =>
    ⟨hgoes r s' hl, hnext' r (.inside s', _) ⟨leadsCall_inside hbehind hl, by rw [← hsite]; rfl⟩⟩
  have hserved := served_perform hbehind w t
  rcases ordered_inside h.called h.ordered h.runs rfl hsite hbehind hgoes with
    ⟨w', r, s', hperform, hordered, hruns, hsite', hl, -⟩ | ⟨w', alarm, hperform, hordered, hcore⟩
  · rw [hperform] at hserved ⊢
    have hseen : (w.site n).signs e ++ w'.entrance n e r = (w.site n).signs e := by
      rw [entrance_of_allows hbehind, List.append_nil]
    have hwriting : Writing c₀ n calls t a (some t) line (log ++ ((w.site n).signs e).map (t, ·))
        (l ++ (w.site n).signs e) (.inside s') (next r) w' :=
      { called := h.called
        ordered := hordered
        runs := hruns
        stands := ⟨rfl, hsite'⟩
        notes := hnotes r s' hl
        sound := fun hnone => by cases hnone
        writes := hwrites.add _ }
    exact .reply hseen hwriting (.of_holder (.inr rfl) (.inr rfl) hserved)
  · rw [hperform] at hserved ⊢
    obtain ⟨stage, htask, -⟩ := h.ordered.tasks t a h.called
    obtain ⟨_, htask', -⟩ := hserved t _ htask
    have hcore' : ((w'.setStage t (.waiting e next alarm)).site n).core = s.site.core := by
      rw [hsite]
      exact hcore
    refine .wait ⟨hordered, .restage (.of_holder (.inr rfl) (.inr rfl) hserved) _, (fun hnone => by cases hnone), _,
      stage?_setStage_self htask', ?_⟩
    refine .atWork rfl (.waiting (p := s.published) fun r s' hends hat => hnotes r s' ?_) (hwrites.add _)
    rw [hcore'] at hat
    exact Surroundings.leads_of_ends hends hat

/-- **An effect of a call that writes.** -/
theorem carried {e : Effect} {next : e.Reply → Job} (h : Writing c₀ n calls t a holder line log l q (.ask e next) w) :
    Carried c₀ n calls t a holder log e next w (w.perform t e) := by
  have hallows := h.notes.goes.1
  cases q with
  | outside =>
    rcases outside_cases hallows with rfl | rfl
    · exact h.look
    · exact h.enter
  | inside s =>
    rcases inside_cases hallows with ⟨rfl, -⟩ | ⟨hbehind, -⟩
    · exact h.leave
    · exact h.behind hbehind

/-- **A call goes on writing while it works**, until it waits or ends. -/
theorem run {j : Job} (h : Writing c₀ n calls t a holder line log l q j w) :
    ∃ holder' line', Wrote c₀ n calls t a log (signs t j w) holder holder' line' w (World.run t j w) := by
  induction j generalizing w q holder line log l with
  | done result => exact ⟨_, _, h.conclude⟩
  | ask e next ih =>
    have hcarried := h.carried
    rw [World.run, signs, h.session]
    generalize w.perform t e = x at hcarried
    cases hcarried with
    | reply seen writing others =>
      obtain ⟨holder', line', hwrote⟩ := ih _ writing
      refine ⟨holder', line', ?_⟩
      dsimp only
      rw [← List.append_assoc, seen]
      exact hwrote.after others
    | wait wrote =>
      dsimp only
      rw [List.append_nil]
      exact ⟨_, _, wrote⟩

end Writing

end

/-! ## All through a diary -/

/-- **What holds all through a diary** of calls on the run of a session that began with some core. -/
structure Logged (c₀ : Core) (n : Nat) (calls : Calls) (holder : Option Nat) (line : List Nat) (log : Log) (w : World) :
    Prop where
  ordered : Ordered c₀ n calls none holder line w
  sound : holder = none → (w.site n).core.session.state.Sound
  written : ∀ t a, (t, a) ∈ calls → ∃ stage, w.stage? t = some stage ∧
    Written c₀ a holder t (w.site n).core log stage
  known : ∀ e ∈ log, ∃ a, (e.1, a) ∈ calls

section
variable {c₀ : Core} {n t : Nat} {a : RunAction} {calls : Calls} {holder holder' : Option Nat}
variable {line line' : List Nat} {log : Log} {g : List Sign} {w w' : World}

namespace Logged

theorem wrote (h : Logged c₀ n calls holder line log w) (ha : (t, a) ∈ calls)
    (hwrote : Wrote c₀ n calls t a log g holder holder' line' w w') :
    Logged c₀ n calls holder' line' (log ++ g.map (t, ·)) w' where
  ordered := hwrote.ordered
  sound := hwrote.sound
  written i b hb := by
    by_cases hit : i = t
    · subst hit
      cases h.ordered.single i a b ha hb
      exact hwrote.written
    · obtain ⟨stage, hstage, hwritten⟩ := h.written i b hb
      obtain ⟨_, htask, -⟩ := h.ordered.tasks i b hb
      rw [stage?, htask] at hstage
      cases hstage
      obtain ⟨stage', htask', hserved⟩ := hwrote.others.tasks i _ hit htask
      obtain ⟨_, hsame, hstanding⟩ := hwrote.ordered.tasks i b hb
      cases htask'.symm.trans hsame
      refine ⟨_, by rw [stage?, htask', Option.map_some], hwritten.served hserved (hstanding (Option.some_ne_none i).symm)
        (hwrote.others.place i hit) (fun hinside => ?_) fun l hl => hl.add hit g⟩
      obtain ⟨hcore, rfl⟩ := hwrote.others.inside i hit hinside
      exact ⟨hcore, List.append_nil log⟩
  known e he := by
    rcases List.mem_append.mp he with he | he
    · exact h.known e he
    · obtain ⟨_, -, rfl⟩ := List.mem_map.mp he
      exact ⟨a, ha⟩

/-- A call goes through the gate that it was called to, and finds something behind it. -/
theorem letIn {next : Waited Unit → Job} (h : Logged c₀ n calls holder line log w) (ha : (t, a) ∈ calls)
    (hcalled : Position.of holder line t = .called) (hruns : w.Runs t) (henters : Enters c₀ a next)
    (hpiece : Piece t log []) : let w₁ := w.onSession n fun s => s.setGate ((s.gate .state).letIn t) .state
    ∃ holder' line', Logged c₀ n calls holder' line'
      (log ++ ([Sign.entered (w₁.site n).core] ++ signs t (next (.back ())) w₁).map (t, ·))
      (run t (next (.back ())) w₁) := by
  intro w₁
  obtain ⟨rfl, rest, rfl⟩ := Position.eq_called hcalled
  have hordered : Ordered c₀ n calls (some t) (some t) rest w₁ := ordered_letIn (h.ordered.begun t)
  have hcore : (w₁.site n).core = (w.site n).core :=
    core_setGate h.ordered.known (((w.session n).gate .state).letIn t)
  have hsteady : c₀.Steady (w₁.site n).core := by
    rw [hcore]
    exact ⟨h.ordered.free rfl, h.sound rfl⟩
  obtain ⟨holder', line', hwrote⟩ := Writing.run (q := .inside ⟨w₁.site n, [], []⟩)
    { called := ha
      ordered := hordered
      runs := hruns
      stands := ⟨rfl, rfl⟩
      notes := henters _ hsteady ⟨rfl, rfl, hordered.within⟩
      sound := fun hnone => by cases hnone
      writes := hpiece.open.add _ }
  exact ⟨holder', line', h.wrote ha (hwrote.after (.of_holder (.inl rfl) (.inr rfl) (served_of_tasks rfl)))⟩

/-- **A call goes on**, and what can be seen of that is written down. -/
theorem resume (h : Logged c₀ n calls holder line log w) (ha : (t, a) ∈ calls) :
    ∃ holder' line', Logged c₀ n calls holder' line' (log ++ (w.signsOf t).map (t, ·)) (w.resume t) := by
  obtain ⟨stage, hstage, hwritten⟩ := h.written t a ha
  obtain ⟨_, htask, hstanding⟩ := h.ordered.tasks t a ha
  have hstanding := hstanding (Option.some_ne_none t).symm
  have hsession : w.sessionOf t = n := (h.ordered.works ha).session
  have hmap : (w.tasks[t]?).map Task.stage = some stage := hstage
  have hruns : (∀ e next alarm, stage ≠ .waiting e next alarm) → w.Runs t := fun hno e next alarm hwait =>
    hno e next alarm (Option.some.inj (hstage.symm.trans hwait))
  have hidle : Logged c₀ n calls holder line (log ++ [].map (t, ·)) w := by
    rw [List.map_nil, List.append_nil]
    exact h
  rw [World.resume, signsOf, hmap, hsession]
  rw [stage?, htask, Option.map_some, Option.some_inj] at hstage
  subst hstage
  cases hwritten with
  | @abroad l apart abroad piece =>
    cases abroad with
    | fresh notes =>
      have hapart : Position.of holder line t = .apart := by
        generalize Position.of holder line t = p at hstanding
        cases hstanding
        rfl
      obtain ⟨holder', line', hwrote⟩ := Writing.run (q := .outside)
        { called := ha
          ordered := h.ordered.begun t
          runs := hruns (by rintro _ _ _ ⟨⟩)
          stands := Position.eq_apart hapart
          notes := notes
          sound := h.sound
          writes := piece }
      exact ⟨holder', line', h.wrote ha hwrote⟩
    | ended _ => exact ⟨holder, line, hidle⟩
    | atGate _ => exact ⟨holder, line, hidle⟩
    | @called next enters =>
      have hcalled : Position.of holder line t = .called := by
        generalize Position.of holder line t = p at hstanding
        cases hstanding with
        | called _ => rfl
        | woken ends _ => exact absurd ends id
      simp only [settleAtGate, hsession]
      exact h.letIn ha hcalled (hruns (by rintro _ _ _ ⟨⟩)) enters piece
  | @atWork l inside atWork piece =>
    cases atWork with
    | waiting _ => exact ⟨holder, line, hidle⟩
    | @woken e next r p l ends notes =>
      have hseen : w.entrance n e r = [] := by
        cases e with
        | acquire g => exact absurd ends id
        | _ => rfl
      obtain ⟨holder', line', hwrote⟩ := Writing.run (q := .inside ⟨w.site n, p, []⟩)
        { called := ha
          ordered := h.ordered.begun t
          runs := hruns (by rintro _ _ _ ⟨⟩)
          stands := ⟨inside, rfl⟩
          notes := notes _ ⟨rfl, rfl, h.ordered.within⟩
          sound := h.sound
          writes := piece }
      dsimp only
      rw [settleAtGate_of_ends ends, hseen, List.nil_append]
      exact ⟨holder', line', h.wrote ha hwrote⟩

theorem stirred (h : Logged c₀ n calls holder line log w) (hordered : Ordered c₀ n calls none holder line w')
    (hstirred : Stirred (fun _ _ => True) False w w') (hsite : w'.site n = w.site n) :
    Logged c₀ n calls holder line log w' where
  ordered := hordered
  sound hnone := hsite ▸ h.sound hnone
  written i b hb := by
    obtain ⟨stage, hstage, hwritten⟩ := h.written i b hb
    obtain ⟨_, htask, -⟩ := h.ordered.tasks i b hb
    rw [stage?, htask] at hstage
    cases hstage
    obtain ⟨stage', htask', hserved⟩ := hstirred.tasks i _ htask
    obtain ⟨_, hsame, hstanding⟩ := hordered.tasks i b hb
    cases htask'.symm.trans hsame
    exact ⟨_, by rw [stage?, htask', Option.map_some], hwritten.served hserved (hstanding (Option.some_ne_none i).symm)
      Iff.rfl (fun _ => ⟨congrArg Site.core hsite, rfl⟩) fun l hl => hl⟩
  known := h.known

theorem spawn (h : Logged c₀ n calls holder line log w) (ha : a.isCall = true) :
    Logged c₀ n ((w.tasks.length, a) :: calls) holder line log (w.spawn n (.ofOp a.op)).2 where
  ordered := ordered_spawn h.ordered ha
  sound := h.sound
  written i b hb := by
    rcases List.mem_cons.mp hb with heq | hb
    · cases heq
      refine ⟨_, congrArg (Option.map Task.stage) spawn_new, .abroad (fun hholder => ?_) (.fresh ⟨?_, ?_⟩) (piece_nil ?_)⟩
      · obtain ⟨b, hb⟩ := h.ordered.member _ (.inl hholder)
        exact Nat.lt_irrefl _ (h.ordered.lt hb)
      · exact Op.meets_map.mpr (Surroundings.meets_call c₀ ha)
      · refine Op.meets_map.mpr ((Surroundings.noting_call c₀ ha).mono ?_)
        rintro (e | r) x hx
        · exact hx
        · exact hx
      · rintro e he hew
        obtain ⟨b, hb⟩ := h.known e he
        exact Nat.lt_irrefl _ (hew ▸ h.ordered.lt hb)
    · obtain ⟨stage, hstage, hwritten⟩ := h.written i b hb
      exact ⟨stage, (congrArg (Option.map Task.stage) (spawn_other (h.ordered.lt hb))).trans hstage, hwritten⟩
  known e he := (h.known e he).imp fun _ hb => List.mem_cons_of_mem _ hb

theorem elsewhere {b : Board} (h : Logged c₀ n calls holder line log w) (hboard : b.ttl = c₀.session.board.ttl)
    (he : Elsewhere n b calls w w') : Logged c₀ n calls holder line log w' where
  ordered := ordered_elsewhere h.ordered hboard he
  sound hnone := by
    have hstate := congrArg (fun c : Core => c.session.state) he.core
    exact hstate ▸ h.sound hnone
  written i b hb := by
    rw [stage?, he.tasks i b hb, he.core]
    exact h.written i b hb
  known := h.known

end Logged

/-- A session that is idle or has taken up a stored run has a state that can be shown. -/
theorem Starts.sound (h : w.Starts n) : (w.session n).state.Sound := by
  rcases h.run with hidle | hrestored
  · have hstate : (w.session n).state = {} := hidle.state
    exact hstate ▸ RunState.sound_default
  · obtain ⟨earlier, before, hplain, -, hstored, r, hdecode, state, hrestore⟩ := hrestored.restored
    rw [hstored, hplain.decode] at hdecode
    cases hdecode
    rw [Core.restore_record hplain.state.sound] at hrestore
    have hcore : before.takenUp earlier = (w.site n).core := congrArg Core.Turn.core hrestore
    have hstate : (w.session n).state = earlier.session.state := (congrArg (fun c : Core => c.session.state) hcore).symm
    exact hstate ▸ hplain.state.sound

/-- **What was written down all through a diary.** -/
theorem logged_diary {w₀ : World} (hstart : w₀.Starts n) (h : Diary n w₀ calls log w) :
    ∃ holder line, Logged (w₀.site n).core n calls holder line log w := by
  induction h with
  | start =>
    exact ⟨none, [], hstart.ordered, fun _ => hstart.sound, fun _ _ ht => absurd ht List.not_mem_nil,
      fun _ he => absurd he List.not_mem_nil⟩
  | call _ a ha ih =>
    obtain ⟨holder, line, hlogged⟩ := ih
    exact ⟨holder, line, hlogged.spawn ha⟩
  | resume _ ha ih =>
    obtain ⟨holder, line, hlogged⟩ := ih
    exact hlogged.resume ha
  | @ring _ _ w t _ _ ha ih =>
    obtain ⟨holder, line, hlogged⟩ := ih
    refine ⟨holder, line, hlogged.stirred (ordered_ring hlogged.ordered ha) (stirred_ring w t) ?_⟩
    unfold World.ring
    split <;> rfl
  | @serve _ _ w t _ _ ha ih =>
    obtain ⟨holder, line, hlogged⟩ := ih
    refine ⟨holder, line, hlogged.stirred (ordered_serve hlogged.ordered t) (stirred_wakeAtStorage w t) ?_⟩
    unfold wakeAtStorage
    split <;> rfl
  | elsewhere _ he ih =>
    obtain ⟨holder, line, hlogged⟩ := ih
    exact ⟨holder, line, hlogged.elsewhere (b := (w₀.session n).board) rfl he⟩

/-- **A call that has ended has written all of its piece.** -/
theorem Diary.noted {w₀ : World} {r : Except Exit Result} (hstart : w₀.Starts n) (h : Diary n w₀ calls log w)
    (ha : (t, a) ∈ calls) (hended : w.stage? t = some (.ended r)) : ∃ l, Piece t log l ∧ a.Noted r l := by
  obtain ⟨holder, line, hlogged⟩ := logged_diary hstart h
  obtain ⟨stage, hstage, hwritten⟩ := hlogged.written t a ha
  cases hended.symm.trans hstage
  cases hwritten with
  | abroad _ abroad piece =>
    cases abroad with
    | ended noted => exact ⟨_, piece, noted⟩
  | atWork _ atWork _ => cases atWork

end

end World

end Cutover
