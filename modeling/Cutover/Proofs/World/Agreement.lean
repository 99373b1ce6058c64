import Cutover.Proofs.Control.Restoring
import Cutover.Proofs.World.History

/-!
# Memory and store never drift apart

In every history of calls on the run of one session the record of the state is stored while the run is
in progress and nobody is behind the gate, and none is stored otherwise.

* `World.Elsewhere`: what goes on beside the calls;
* `World.Move`, `World.History`: one thing that happens, and one after the other;
* `World.ordered_move`, `World.ordered_history`: the order is kept all through a history;
* `World.Starts`: where a history may start;
* `World.agrees_of_history`: memory and store agree, and only a run that begins is stored where nothing
  was.
-/

namespace Cutover

namespace World

/-! ## Histories -/

/-- **What goes on beside the calls**: anything that leaves the core, the state gate and the calls
alone. The service answers or cannot be reached, and notices can be raised on the board. -/
structure Elsewhere (n : Nat) (b : Board) (calls : Calls) (w w' : World) : Prop where
  sessions : w.sessions.length ≤ w'.sessions.length
  core : (w'.site n).core = (w.site n).core
  gate : (w'.session n).stateGate = (w.session n).stateGate
  tasks : ∀ t a, (t, a) ∈ calls → w'.tasks[t]? = w.tasks[t]?
  replies : w'.script.Replies Call.getResources.message fun l => l.outcome.isReply = true
  notices : b.dated w'.now = .ok ()

/-- **One thing that happens**: a call is made, a call goes on, a wait of a call ends by itself or at
the storage, or something goes on beside the calls. -/
inductive Move (n : Nat) (b : Board) : Calls → World → Calls → World → Prop
  | call {calls : Calls} {w : World} (a : RunAction) (h : a.isCall = true) :
    Move n b calls w ((w.tasks.length, a) :: calls) (w.spawn n (.ofOp a.op)).2
  | resume {calls : Calls} {w : World} {t : Nat} {a : RunAction} (h : (t, a) ∈ calls) :
    Move n b calls w calls (w.resume t)
  | ring {calls : Calls} {w : World} {t : Nat} {a : RunAction} (h : (t, a) ∈ calls) :
    Move n b calls w calls (ring w t)
  | serve {calls : Calls} {w : World} {t : Nat} {a : RunAction} (h : (t, a) ∈ calls) :
    Move n b calls w calls (wakeAtStorage w t)
  | elsewhere {calls : Calls} {w w' : World} (h : Elsewhere n b calls w w') :
    Move n b calls w calls w'

/-- **A history of calls on the run of a session**: one thing after the other, in any order. -/
inductive History (n : Nat) (w₀ : World) : Calls → World → Prop
  | start : History n w₀ [] w₀
  | next {calls calls' : Calls} {w w' : World} (h : History n w₀ calls w)
    (m : Move n (w₀.session n).board calls w calls' w') : History n w₀ calls' w'

/-! ## Every move keeps the order -/

section
variable {c₀ : Core} {n t : Nat} {a : RunAction} {calls calls' : Calls} {holder : Option Nat}
variable {line : List Nat} {w w' : World}

theorem ordered_spawn (h : Ordered c₀ n calls none holder line w) (ha : a.isCall = true) :
    Ordered c₀ n ((w.tasks.length, a) :: calls) none holder line (w.spawn n (.ofOp a.op)).2 where
  known := h.known
  within := h.within
  replies := h.replies
  tasks t b ht := by
    rcases List.mem_cons.mp ht with heq | ht
    · cases heq
      refine ⟨_, List.getElem?_concat_length, fun _ => ?_⟩
      have hnew : ∀ i, holder = some i ∨ i ∈ line → i ≠ w.tasks.length := by
        rintro i hi rfl
        obtain ⟨b, hb⟩ := h.member _ hi
        exact Nat.lt_irrefl _ (h.lt hb)
      rw [Position.of_apart (fun hholder => hnew _ (.inl hholder) rfl)
        (fun hline => hnew _ (.inr hline) rfl)]
      exact .fresh (Op.meets_map.mpr (Surroundings.meets_call c₀ ha))
    · obtain ⟨stage, hstage, hstanding⟩ := h.tasks t b ht
      exact ⟨stage, (List.getElem?_append_left (h.lt ht)).trans hstage, hstanding⟩
  single t b b' hb hb' := by
    rcases List.mem_cons.mp hb with heq | hb
    · cases heq
      rcases List.mem_cons.mp hb' with heq | hb'
      · cases heq
        rfl
      · exact absurd (h.lt hb') (Nat.lt_irrefl _)
    · rcases List.mem_cons.mp hb' with heq | hb'
      · cases heq
        exact absurd (h.lt hb) (Nat.lt_irrefl _)
      · exact h.single t b b' hb hb'
  gate := h.gate
  free := h.free
  nodup := h.nodup
  member t ht := (h.member t ht).imp fun _ hb => List.mem_cons_of_mem _ hb
  apart := h.apart

theorem ordered_woken {e : Effect} {next : e.Reply → Job} {alarm : Option (Alarm e.Reply)}
    {r : e.Reply} (h : Ordered c₀ n calls none holder line w)
    (hstage : w.stage? t = some (.waiting e next alarm))
    (hends : ∀ a, (t, a) ∈ calls → holder = some t → (Surroundings.ofCall c₀ a.begins).Ends e r)
    (hgate : ∀ g, e ≠ .acquire g) (laps : Nat) :
    Ordered c₀ n calls none holder line ((w.setStage t (.woken e next r)).enqueue t laps) := by
  refine (h.restage (fun _ _ h => h) fun a ha _ => ?_).enqueue t laps
  obtain ⟨stage, htask, hstanding⟩ := h.tasks t a ha
  have hstanding := hstanding nofun
  rw [stage?, htask] at hstage
  cases hstage
  generalize hp : Position.of holder line t = p at hstanding ⊢
  cases hstanding with
  | atGate _ _ => exact absurd rfl (hgate _)
  | waiting _ goes =>
    have hends := hends a ha (Position.eq_inside.mp hp)
    exact .woken hends fun s hat => goes r s hends hat

theorem ordered_ring (h : Ordered c₀ n calls none holder line w) (ha : (t, a) ∈ calls) :
    Ordered c₀ n calls none holder line (ring w t) := by
  obtain ⟨stage, htask, hstanding⟩ := h.tasks t a ha
  have hstanding := hstanding nofun
  have hstage : w.stage? t = some stage := by rw [stage?, htask, Option.map_some]
  generalize hp : Position.of holder line t = p at hstanding
  have hsame : (∀ e next a, stage ≠ .waiting e next (some a)) → ring w t = w := by
    intro hno
    unfold ring
    rw [show (w.tasks[t]?).map Task.stage = some stage from hstage]
    split
    next e next a hwait => exact absurd (Option.some.inj hwait) (hno e next a)
    next => rfl
  cases hstanding with
  | @waiting e next alarm p ends goes =>
    cases alarm with
    | none =>
      rw [hsame (by rintro _ _ _ ⟨⟩)]
      exact h
    | some alarm =>
      obtain ⟨laps, hring⟩ := ring_eq hstage
      rw [hring]
      refine ordered_woken h hstage (fun b hb _ => ?_) ?_ laps
      · cases h.single t a b ha hb
        exact ends alarm rfl
      · rintro g rfl
        exact absurd (ends alarm rfl) id
  | fresh _ =>
    rw [hsame (by rintro _ _ _ ⟨⟩)]
    exact h
  | ended =>
    rw [hsame (by rintro _ _ _ ⟨⟩)]
    exact h
  | atGate _ _ =>
    rw [hsame (by rintro _ _ _ ⟨⟩)]
    exact h
  | called _ =>
    rw [hsame (by rintro _ _ _ ⟨⟩)]
    exact h
  | woken _ _ =>
    rw [hsame (by rintro _ _ _ ⟨⟩)]
    exact h

theorem ordered_serve (h : Ordered c₀ n calls none holder line w) (t : Nat) :
    Ordered c₀ n calls none holder line (wakeAtStorage w t) := by
  cases hstage : w.stage? t with
  | none =>
    unfold wakeAtStorage
    rw [show (w.tasks[t]?).map Task.stage = none from hstage]
    exact h
  | some stage =>
    by_cases hwait : ∃ next alarm, stage = .waiting .storageTurn next alarm
    · obtain ⟨next, alarm, rfl⟩ := hwait
      rw [wakeAtStorage_eq hstage]
      exact ordered_woken h hstage (fun _ _ _ => rfl) nofun 0
    · unfold wakeAtStorage
      rw [show (w.tasks[t]?).map Task.stage = some stage from hstage]
      split
      next next alarm hs => exact absurd ⟨next, alarm, Option.some.inj hs⟩ hwait
      next => exact h

/-- A call goes on: it begins, goes on after its wait, or goes through the gate it was called to. -/
theorem ordered_resume (h : Ordered c₀ n calls none holder line w) (ha : (t, a) ∈ calls) :
    ∃ holder' line', Ordered c₀ n calls none holder' line' (w.resume t) ∧
      Grants c₀ a n w (w.resume t) := by
  obtain ⟨stage, htask, hstanding⟩ := h.tasks t a ha
  have hstanding := hstanding nofun
  have hstage : (w.tasks[t]?).map Task.stage = some stage := by rw [htask, Option.map_some]
  have hruns : (∀ e next alarm, stage ≠ .waiting e next alarm) → w.Runs t := by
    intro hno e next alarm hwait
    rw [stage?, hstage] at hwait
    exact hno e next alarm (Option.some.inj hwait)
  generalize hp : Position.of holder line t = p at hstanding
  unfold resume
  rw [hstage]
  cases hstanding with
  | fresh goes =>
    exact ordered_run ha (h.begun t) (hruns (by rintro _ _ _ ⟨⟩)) (q := .outside)
      (Position.eq_apart hp) goes
  | ended => exact ⟨holder, line, h, .of_core rfl⟩
  | atGate _ _ => exact ⟨holder, line, h, .of_core rfl⟩
  | waiting _ _ => exact ⟨holder, line, h, .of_core rfl⟩
  | @woken e next r p ends goes =>
    dsimp only
    rw [settleAtGate_of_ends ends]
    exact ordered_run ha (h.begun t) (hruns (by rintro _ _ _ ⟨⟩)) (q := .inside ⟨w.site n, p, []⟩)
      ⟨Position.eq_inside.mp hp, rfl⟩ (goes _ ⟨rfl, rfl, h.within⟩)
  | @called next goes =>
    obtain ⟨rfl, rest, rfl⟩ := Position.eq_called hp
    have hordered := ordered_letIn (h.begun t)
    have hcore := core_setGate h.known (((w.session n).gate .state).letIn t)
    have hready : c₀.Ready
        ((w.onSession n fun s => s.setGate ((s.gate .state).letIn t) .state).site n).core :=
      hcore ▸ h.free rfl
    simp only [settleAtGate, (h.works ha).session]
    obtain ⟨holder', line', hordered', hgrants⟩ := ordered_run (j := next (.back ())) ha hordered
      (hruns (by rintro _ _ _ ⟨⟩)) (q := .inside ⟨_, [], []⟩) ⟨rfl, rfl⟩
      (goes _ hready ⟨rfl, rfl, hordered.within⟩)
    exact ⟨holder', line', hordered', .trans (.of_core hcore) hgrants⟩

theorem ordered_elsewhere {b : Board} (h : Ordered c₀ n calls none holder line w)
    (hboard : b.ttl = c₀.session.board.ttl) (he : Elsewhere n b calls w w') :
    Ordered c₀ n calls none holder line w' := by
  refine h.transfer he.sessions ?_ he.replies he.gate (.inl he.core) fun t a task ht htask => ?_
  · have hnotices := he.notices
    rw [Board.dated, Board.expiry, hboard] at hnotices
    exact hnotices
  · exact ⟨task.stage, (he.tasks t a ht).trans htask, fun _ => rfl⟩

/-- **Every move keeps the order**, and only a run that begins is stored where nothing was. -/
theorem ordered_move {b : Board} (h : Ordered c₀ n calls none holder line w)
    (hboard : b.ttl = c₀.session.board.ttl) (m : Move n b calls w calls' w') :
    ∃ holder' line', Ordered c₀ n calls' none holder' line' w' ∧
      (w.storage.table c₀.session.store = [] → w'.storage.table c₀.session.store ≠ [] →
        ∃ t a, (t, a) ∈ calls ∧ a.begins = true ∧ w' = w.resume t) := by
  have hsame : w'.storage = w.storage → w.storage.table c₀.session.store = [] →
      w'.storage.table c₀.session.store ≠ [] →
        ∃ t a, (t, a) ∈ calls ∧ a.begins = true ∧ w' = w.resume t := by
    intro hstorage hnone hsome
    rw [hstorage] at hsome
    exact absurd hnone hsome
  cases m with
  | call a ha => exact ⟨holder, line, ordered_spawn h ha, hsame rfl⟩
  | @resume t a ha =>
    obtain ⟨holder', line', hordered, hgrants⟩ := ordered_resume h ha
    refine ⟨holder', line', hordered, fun hnone hsome => ?_⟩
    rcases hgrants with hbegins | hgrants
    · exact ⟨t, a, ha, hbegins, rfl⟩
    · exact absurd (hgrants hnone) hsome
  | @ring t a ha =>
    refine ⟨holder, line, ordered_ring h ha, hsame ?_⟩
    unfold World.ring
    split <;> rfl
  | @serve t a ha =>
    refine ⟨holder, line, ordered_serve h t, hsame ?_⟩
    unfold wakeAtStorage
    split <;> rfl
  | elsewhere he => exact ⟨holder, line, ordered_elsewhere h hboard he, hsame (congrArg Core.storage he.core)⟩

end

/-! ## Where a history may start -/

end World

namespace Core

/-- The session is idle on an empty store. -/
structure Idle (c : Core) : Prop where
  state : c.session.state = {}
  stored : c.stored = []

/-- The session has just taken up a run that an earlier one stored while it was in progress. -/
structure JustRestored (c : Core) : Prop where
  restored : ∃ earlier before : Core, earlier.Plain ∧ earlier.session.state.isRunning = true ∧
    before.stored = earlier.record.encode ∧
    ∃ r, Record.decode before.stored = .ok r ∧ ∃ state, before.restore r = c.giving state

variable {c : Core}

theorem agrees_of_start (h : c.Idle ∨ c.JustRestored) : c.Agrees ∧
    (c.session.state.phase.isActive = true → c.session.state.isRunning = true) := by
  rcases h with h | h
  · rw [Agrees, h.stored, h.state]
    exact ⟨rfl, fun hactive => by cases hactive⟩
  · obtain ⟨earlier, before, hplain, hrunning, hstored, r, hdecode, state, hrestore⟩ := h.restored
    rw [hstored, hplain.decode] at hdecode
    cases hdecode
    rw [restore_record hplain.state.sound] at hrestore
    have hc : before.takenUp earlier = c := congrArg Turn.core hrestore
    have hstate : c.session.state = earlier.session.state := by rw [← hc]; rfl
    refine ⟨?_, fun _ => hstate ▸ hrunning⟩
    rw [Agrees, hstate, if_pos hrunning, ← hc, record_takenUp]
    exact hstored

end Core

namespace World

/-- **Where a history may start**: the session is idle on an empty store, or has just taken up a stored
run; nobody is at its gates, and hooks, store, service and notices do what they are asked. -/
structure Starts (n : Nat) (w : World) : Prop where
  known : n < w.sessions.length
  stateGate : (w.session n).stateGate = {}
  fetchGate : (w.session n).fetchGate = {}
  reliable : (w.site n).core.Reliable
  run : (w.site n).core.Idle ∨ (w.site n).core.JustRestored
  replies : w.script.Replies Call.getResources.message fun l => l.outcome.isReply = true
  notices : (w.session n).board.dated w.now = .ok ()

variable {n : Nat} {w₀ w w' : World} {calls calls' : Calls}

theorem Starts.ordered (h : w₀.Starts n) : Ordered (w₀.site n).core n [] none none [] w₀ := by
  obtain ⟨hagrees, hrunning⟩ := Core.agrees_of_start h.run
  exact
    { known := h.known
      within := h.notices
      replies := h.replies
      tasks := fun t a ht => absurd ht List.not_mem_nil
      single := fun t a b ht => absurd ht List.not_mem_nil
      gate := h.stateGate
      free := fun _ => ⟨⟨h.reliable, hagrees, hrunning, h.fetchGate⟩, .refl _⟩
      nodup := .nil
      member := fun t ht => by
        rcases ht with ht | ht
        · cases ht
        · cases ht
      apart := fun t ht => nomatch ht }

/-- **The order is kept all through a history.** -/
theorem ordered_history (hstart : w₀.Starts n) (h : History n w₀ calls w) :
    ∃ holder line, Ordered (w₀.site n).core n calls none holder line w := by
  induction h with
  | start => exact ⟨none, [], hstart.ordered⟩
  | next _ m ih =>
    obtain ⟨holder, line, hordered⟩ := ih
    obtain ⟨holder', line', hordered', _⟩ := ordered_move (b := (w₀.session n).board) hordered rfl m
    exact ⟨holder', line', hordered'⟩

/-- **Memory and store never drift apart.** Whenever nobody is behind the gate, the record of the state
is stored if the run is in progress, and nothing otherwise. And where nothing is stored, nothing is
stored next unless a run begins. -/
theorem agrees_of_history (hstart : w₀.Starts n) (h : History n w₀ calls w) :
    ((w.session n).stateGate.held = false →
      w.storage.table (w.session n).store =
        if (w.session n).state.isRunning then (w.session n).record.encode else []) ∧
    ∀ calls' w', Move n (w₀.session n).board calls w calls' w' →
      w.storage.table (w₀.session n).store = [] → w'.storage.table (w₀.session n).store ≠ [] →
        ∃ t a, (t, a) ∈ calls ∧ a.begins = true ∧ w' = w.resume t := by
  obtain ⟨holder, line, hordered⟩ := ordered_history hstart h
  refine ⟨fun hfree => ?_, fun calls' w' m => ?_⟩
  · have hgate := hordered.gate
    cases holder with
    | none => exact (hordered.free rfl).orderly.agrees
    | some t =>
      rw [hgate, Gate.held_ofLine] at hfree
      cases hfree
  · obtain ⟨_, _, _, hrevival⟩ := ordered_move (b := (w₀.session n).board) hordered rfl m
    exact hrevival

/-- A fresh session, the storage of which takes its time. -/
def unhasty : World where
  sessions := [{ board := { ttl := .whole 5 } }]
  storage := { kind := .rows }

/-- A tenth of the data is written. -/
def firstTenth : Status where
  signal := .dataInProgress
  progress := .whole 10

/-- Two calls are made at once: a run is to begin, and a report is to be applied. -/
def calledAtOnce : World :=
  ((unhasty.spawn 0 (.ofOp (RunAction.begin .dataOnly .bulk (.whole 2) (.whole 3)).op)).2.spawn 0
    (.ofOp (RunAction.apply firstTenth).op)).2

/-- The first waits for the storage behind the gate, and the second before the gate. -/
def inLine : World := (calledAtOnce.resume 0).resume 1

/-- Both have ended, one after the other. -/
def bothDone : World := ((((inLine.wakeAtStorage 0).resume 0).resume 1).wakeAtStorage 1).resume 1

/-- A fresh session may start, and memory and store agree once both calls have ended: the report is applied to the
run that the other call began. -/
theorem agrees_after_both : unhasty.Starts 0 ∧ (inLine.session 0).stateGate.queue = [(1, .waiting)] ∧
    (bothDone.session 0).state.dataProgress = .whole 10 ∧
      bothDone.storage.table 0 = (bothDone.session 0).record.encode := by
  have hstart : unhasty.Starts 0 :=
    { known := by decide
      stateGate := rfl
      fetchGate := rfl
      reliable := ⟨fun _ h => absurd h List.not_mem_nil, rfl, rfl, by decide⟩
      run := .inl ⟨rfl, rfl⟩
      replies := rfl
      notices := rfl }
  have hbegin : History 0 unhasty _ _ :=
    .next .start (.call (.begin .dataOnly .bulk (.whole 2) (.whole 3)) rfl)
  have happly : History 0 unhasty _ calledAtOnce := hbegin.next (.call (.apply firstTenth) rfl)
  have hfirst : (0, RunAction.begin .dataOnly .bulk (.whole 2) (.whole 3)) ∈ [(1, RunAction.apply firstTenth),
      (0, .begin .dataOnly .bulk (.whole 2) (.whole 3))] := List.mem_cons_of_mem _ List.mem_cons_self
  have hinLine : History 0 unhasty _ inLine := (happly.next (.resume hfirst)).next (.resume List.mem_cons_self)
  have hserved := (hinLine.next (.serve hfirst)).next (.resume hfirst)
  have hentered := hserved.next (.resume List.mem_cons_self)
  have hdone : History 0 unhasty _ bothDone :=
    (hentered.next (.serve List.mem_cons_self)).next (.resume List.mem_cons_self)
  have hfree : (bothDone.session 0).stateGate.held = false := by decide +kernel
  have hrunning : (bothDone.session 0).state.isRunning = true := by decide +kernel
  have hagrees := (agrees_of_history hstart hdone).1 hfree
  rw [if_pos hrunning] at hagrees
  exact ⟨hstart, by decide +kernel, by decide +kernel, hagrees⟩

/-- **What the world does next is a move of a history**, as long as only calls can go on. -/
theorem history_next (hstart : w₀.Starts n) (h : History n w₀ calls w)
    (hready : ∀ p ∈ w.ready, ∃ a, (p.task, a) ∈ calls)
    (hqueue : ∀ t ∈ w.storageQueue, ∃ a, (t, a) ∈ calls) (hnext : w.next? = some w') :
    History n w₀ calls w' := by
  obtain ⟨holder, line, hordered⟩ := ordered_history hstart h
  have hqueues : ∀ ready storageQueue, History n w₀ calls { w with ready, storageQueue } := by
    intro ready storageQueue
    exact h.next (.elsewhere ⟨Nat.le_refl _, rfl, rfl, fun _ _ _ => rfl, hordered.replies,
      hordered.within⟩)
  unfold next? at hnext
  split at hnext
  next _ t rest hr =>
    cases hnext
    obtain ⟨a, ha⟩ := hready ⟨t, 0⟩ (by rw [hr]; exact List.mem_cons_self)
    exact (hqueues rest w.storageQueue).next (.resume ha)
  next _ t laps rest hr =>
    cases hnext
    exact hqueues _ w.storageQueue
  next t rest hr hq =>
    cases hnext
    obtain ⟨a, ha⟩ := hqueue t (by rw [hq]; exact List.mem_cons_self)
    exact (hqueues w.ready rest).next (.serve ha)
  next => cases hnext

end World

end Cutover
