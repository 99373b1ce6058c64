import Cutover.Proofs.Control.Around
import Cutover.Proofs.World.Accord
import Cutover.Proofs.World.Effects

/-!
# Runs are lawful

A run that is begun in any state that is not running, or taken up from a record that was saved, is in a
lawful state whenever a task waits, whatever is asked of it, in whatever order tasks go on, and whatever
fails or is cancelled on the way.

* `World.Opens`, `World.Started`: the ways to begin;
* `World.lawful_history`: **the state stays lawful, its phases come as they may, and nothing ends by
  an unsound state**.
-/

namespace Cutover

namespace World

/-- No answer of the service fails by an unsound state. -/
def Civil (w : World) : Prop :=
  ∀ m, w.script.Replies m fun l => ∀ f, l.outcome = .failed f → f.isUnsound = false

/-- **A way to begin**: a run is launched while none is in progress, or one that was saved is taken
up. -/
inductive Opens (s : Session) : RunAction → Prop
  | begin (mode : Mode) (transfer : Transfer) (shards instances : Value)
    (rests : s.state.isRunning = false) : Opens s (.begin mode transfer shards instances)
  | restore {r : Record} (saved : Accord.Saved r) : Opens s (.restore r)

/-- **Where a history begins**: nobody works yet, and all states are lawful; or the first task has just
opened a run in a session whose state may have been any before. -/
inductive Started : World → Prop
  | lawful {w : World} (tasks : w.tasks = []) (civil : w.Civil)
    (lawful : ∀ m, m < w.sessions.length → (w.session m).state.Lawful (w.session m).mode) : Started w
  | opened {w₀ : World} {n : Nat} {a : RunAction} (tasks : w₀.tasks = []) (civil : w₀.Civil) (known : n < w₀.sessions.length)
    (gate : (w₀.session n).stateGate = {}) (opens : Opens (w₀.session n) a)
    (others : ∀ m, m ≠ n → m < w₀.sessions.length → (w₀.session m).state.Lawful (w₀.session m).mode) :
    Started ((w₀.spawn n (.ofOp a.op)).2.resume 0)

/-- The accord of lawful states, whatever resources are kept. -/
def accord : Accord RunView := .lawful fun _ => True

/-- What may be called for, by the number of its task: some may begin anew. -/
def Permits (anew : Nat → Bool) (t : Nat) (a : Action) : Prop :=
  a.Lawful ∧ (a.renews = true → anew t = true)

variable {n t : Nat} {w w' w₀ : World} {a : RunAction} {anew : Nat → Bool}

theorem keeps_permitted {a : Action} (h : Permits anew t a) :
    accord.Keeps (anew t) accord.gives a.op := Accord.keeps_action h.1 h.2

theorem keepsBackground : accord.KeepsBackground := fun _ b => Accord.keepsBackground b

theorem staffed_nil (htasks : w.tasks = []) (hcivil : w.Civil) : accord.Staffed anew w where
  replies m := (hcivil m).mono fun _ hl => ⟨hl, fun _ _ _ _ _ => trivial⟩
  known i task hi := by
    rw [htasks] at hi
    cases hi
  stands i task hi := by
    rw [htasks] at hi
    cases hi

theorem ofOp_guarded {α : Type} (f : α → Result) (g : GateName) (op : Op α) :
    ∃ next, Job.ofOp (f <$> Op.guarded g op) = .ask (.acquire g) next ∧
      next (.back ()) = Job.ofOp (f <$> op.ensure (Work.perform (.release g))) := ⟨_, rfl, rfl⟩

/-- What is done behind the gate is lawful if it is when the gate was just passed. -/
theorem goes_entered {op : Op RunState} {s : Stretch RunView}
    (h : op.Meets (accord.contract true) (accord.Well true fun _ => True) s) :
    accord.Goes true (.ofOp (Result.state <$> op.ensure (Work.perform (.release .state)))) s :=
  Accord.goes_ofOp (Accord.meets_map (Accord.meets_last h (Accord.keepsLast_release .state))
    fun _ _ => Accord.gives_other nofun nofun)

/-- **What opens a run goes on lawfully** once it has passed the gate, whatever the state was before. -/
theorem Opens.entered {s : Session} (h : Opens s a) : ∃ next,
    Job.ofOp a.op = .ask (.acquire .state) next ∧
      accord.Goes true (next (.back ())) ⟨s.runView, s.runView⟩ := by
  cases h with
  | begin mode transfer shards instances rests =>
    obtain ⟨next, hask, hnext⟩ :=
      ofOp_guarded Result.state .state (Accord.launching mode transfer shards instances)
    refine ⟨next, hask, hnext ▸ goes_entered ?_⟩
    refine Accord.meets_launching (fun _ _ => trivial) fun hr => ?_
    rw [show s.runView.state = s.state from rfl, rests] at hr
    cases hr
  | @restore r saved =>
    obtain ⟨next, hask, hnext⟩ := ofOp_guarded Result.state .state (Accord.restoring r)
    exact ⟨next, hask, hnext ▸ goes_entered (Accord.meets_restoring saved fun _ _ => trivial)⟩

theorem Opens.lawful {s : Session} (h : Opens s a) : (Action.run a).Lawful := by
  cases h with
  | begin => trivial
  | restore saved => exact saved

/-- **A run that is opened is lawful** as soon as its first task waits or ends. -/
theorem kept_opened (htasks : w₀.tasks = []) (hcivil : w₀.Civil) (hn : n < w₀.sessions.length)
    (hgate : (w₀.session n).stateGate = {}) (hopens : Opens (w₀.session n) a)
    (hothers : ∀ m, m ≠ n → m < w₀.sessions.length →
      (w₀.session m).state.Lawful (w₀.session m).mode) (hanew : anew 0 = true) :
    accord.Kept anew ((w₀.spawn n (.ofOp a.op)).2.resume 0) := by
  have hzero : w₀.tasks.length = 0 := by rw [htasks]; rfl
  have hkeeps : accord.Keeps (anew w₀.tasks.length) accord.gives a.op :=
    Accord.keeps_runAction hopens.lawful fun _ => by rw [hzero]; exact hanew
  obtain ⟨next, hjob, hgoes⟩ := hopens.entered
  have hspawn : accord.Harmless anew none w₀ (w₀.spawn n (.ofOp a.op)).2 :=
    Accord.harmless_spawn hn (Accord.stands_ofOp hkeeps)
  have hspawned := hspawn.staffed (staffed_nil htasks hcivil)
  have hfirst : (w₀.spawn n (.ofOp a.op)).2.tasks[0]? =
      some { session := n, stage := .fresh (.ofOp a.op) } := by
    simp [spawn, enqueue, htasks]
  -- The gate is passed at once, and the run is opened before anything waits.
  have hresume : (w₀.spawn n (.ofOp a.op)).2.resume 0 =
      run 0 (next (.back ())) ((w₀.spawn n (.ofOp a.op)).2.onSession n fun s =>
        s.setGate { held := true } .state) := by
    have hworks : (w₀.spawn n (.ofOp a.op)).2.Works n 0 := ⟨by simp [sessionOf, hfirst], hn⟩
    have hfree : ((w₀.spawn n (.ofOp a.op)).2.session n).gate .state = {} := hgate
    rw [resume, hfirst]
    simp only [Option.map_some]
    rw [hjob, run, perform, ← hjob, acquire_free hworks hfree]
  have hentered : accord.Harmless anew none (w₀.spawn n (.ofOp a.op)).2
      ((w₀.spawn n (.ofOp a.op)).2.onSession n fun s => s.setGate { held := true } .state) :=
    .of_silent (stirred_setGate n _ (fun _ => { held := true }) .state)
  rw [hresume]
  refine (Accord.run_kept (s := ⟨(w₀.session n).runView, (w₀.session n).runView⟩) keepsBackground
    (hentered.staffed hspawned) hfirst rfl (fun m hm hlt => ?_) (hentered.same n)
    (hanew ▸ hgoes)).kept
  rw [hentered.same m]
  exact ⟨hothers m hm (hentered.length ▸ hlt), fun _ _ => trivial⟩

/-- **Where a history begins the accord is kept.** -/
theorem Started.kept (h : Started w) (hanew : anew 0 = true) : accord.Kept anew w := by
  cases h with
  | lawful tasks civil lawful =>
    exact { staffed_nil tasks civil with holds := fun m hm => ⟨lawful m hm, fun _ _ => trivial⟩ }
  | opened tasks civil known gate opens others =>
    exact kept_opened tasks civil known gate opens others hanew

/-- **What is asked of runs**, one thing after the other: any calls, in tasks of which some may begin
anew, in any order, with any waits and cancellations. -/
def RunHistory (anew : Nat → Bool) : World → World → Prop := accord.History (Permits anew)

/-- One more thing that happens. -/
def RunMove (anew : Nat → Bool) : World → World → Prop := accord.Move (Permits anew)

/-- **Runs are lawful.** All through a history the state of every run is lawful and passes its check, its
phase changes as it may unless a task goes on that may begin anew, and no task ends by an unsound state
or a change of phase that is not allowed. -/
theorem lawful_history (hstarted : Started w₀) (hanew : anew 0 = true) (h : RunHistory anew w₀ w) :
    (∀ m, m < w.sessions.length → (w.session m).state.Lawful (w.session m).mode ∧
      (w.session m).state.check = .ok (w.session m).state) ∧
    (∀ w', RunMove anew w w' → (∃ t, anew t = true ∧ w' = w.resume t) ∨
      ∀ m, (w.session m).state.phase.Leads (w'.session m).state.phase) ∧
    ∀ t f, w.stage? t = some (.ended (.error (.fault f))) → f.isUnsound = false := by
  have hkept : accord.Kept anew w :=
    Accord.history_kept keepsBackground (fun _ _ => keeps_permitted) (hstarted.kept hanew) h
  refine ⟨fun m hm => ?_, fun w' hmove => ?_, fun t f hended => ?_⟩
  · have hlawful := (hkept.holds m hm).1
    exact ⟨hlawful, hlawful.sound.check_eq⟩
  · have hcases : accord.Harmless anew none w w' ∨ ∃ t, w' = w.resume t :=
      Accord.Move.cases_resume keepsBackground (fun _ _ => keeps_permitted) hmove
    rcases hcases with hharmless | ⟨t, rfl⟩
    · refine .inr fun m => .inl ?_
      exact (congrArg (fun v : RunView => v.state.phase) (hharmless.views m nofun)).symm
    · cases hb : anew t with
      | true => exact .inl ⟨t, hb, rfl⟩
      | false =>
        refine .inr fun m => ((Accord.resume_kept keepsBackground hkept t).2.2 m).resolve_left ?_
        rw [hb]
        exact Bool.false_ne_true
  · obtain ⟨task, htask, hstage⟩ := Option.map_eq_some_iff.mp hended
    have hstands := hkept.stands t task htask
    rw [hstage] at hstands
    cases hstands with
    | ended results => exact results f rfl

theorem civil_of_unscripted (h : w.script = {}) : w.Civil := by
  intro m
  rw [h]
  show ∀ f, (Script.fallback m).outcome = .failed f → f.isUnsound = false
  unfold Script.fallback
  intro f hf
  split at hf
  · cases hf
  · split at hf <;> cases hf

/-- A single session, whose last run failed and left no text. -/
def neglected : World where
  sessions := [{ state := { phase := .failed } }]

/-- A run was launched in it. -/
def relaunched : World :=
  (neglected.spawn 0 (.ofOp (RunAction.begin .dataOnly .bulk (.whole 0) (.whole 1)).op)).2.resume 0

/-- A report of half of the data was called for. -/
def reporting : World :=
  (relaunched.spawn 0 (.ofOp (Action.run (.apply { signal := .dataInProgress, progress := .whole 50 })).op)).2

/-- The run that was launched is lawful while a report is applied, though the state before was not. -/
theorem lawful_relaunched : Started relaunched ∧ RunHistory (· == 0) relaunched (reporting.resume 1) ∧
    ((reporting.resume 1).session 0).state.Lawful (some .dataOnly) := by
  have hstarted : Started relaunched :=
    .opened rfl (civil_of_unscripted rfl) Nat.one_pos rfl (.begin _ _ _ _ rfl) fun m hm hlt =>
      absurd (Nat.lt_one_iff.mp hlt) hm
  have hcall : RunMove (· == 0) relaunched reporting :=
    .call ⟨trivial, nofun⟩ (Nat.lt_of_lt_of_eq Nat.one_pos rfl)
  have hhistory : RunHistory (· == 0) relaunched (reporting.resume 1) :=
    .tail (.single hcall) (.resume reporting 1)
  exact ⟨hstarted, hhistory,
    ((lawful_history hstarted rfl hhistory).1 0 (Nat.lt_of_lt_of_eq Nat.one_pos rfl)).1⟩

end World

end Cutover
