import Cutover.Proofs.Control.Sharing
import Cutover.Proofs.Work.Contract
import Cutover.Proofs.Work.Tickets
import Cutover.Proofs.World.Asking
import Cutover.Proofs.World.Effects
import Cutover.Proofs.World.Listing

/-!
# Readers in line

Any number of tasks read the resources of a session, and some drop what is kept. Each reader stands somewhere: it has
not begun, waits in the line before the gate of fetching, was called or gave up, or is behind the gate and waits for the
answer of the service. At most one is behind the gate, and while it waits nothing is kept.

A task that goes on works until it ends or has to wait. What its contract says of it is true of the world in which it
ends or waits, wherever the world is seen in the states of the contract while it works.

* `World.Stretches`, `World.run_stretches`: **work that keeps to a contract stops as the contract says**;
* `Sharing.Placed`: how a task stands, by its ticket;
* `World.Lined`: **what holds of all of them** where somebody may be at work;
* `World.Lined.turn`: one of them comes to stand elsewhere;
* `World.Lined.passes`: the gate passes on to the first of the line.
-/

namespace Cutover

/-! ## A stretch of work -/

namespace World

variable {σ : Type} {C : Contract σ} {Q : Except Exit Outturn → σ → Prop} {Sees : σ → World → Prop} {t : Nat}

/-- **A stretch of work has stopped**, by its end or by a wait, in a world that is seen in a state of the contract. -/
inductive Stretches (C : Contract σ) (Q : Except Exit Outturn → σ → Prop) (Sees : σ → World → Prop) (t : Nat) :
    World → Prop
  | ends {r : Except Exit Outturn} {s : σ} {w : World} (sees : Sees s w) (post : Q r s) :
    Stretches C Q Sees t (w.conclude t r)
  | waits {s : σ} {w w' : World} {e : Effect} {next : e.Reply → Job} {alarm : Option (Alarm e.Reply)} (sees : Sees s w)
    (meets : (Work.ask e next).Meets C Q s) (waits : w.perform t e = (w', .wait alarm)) :
    Stretches C Q Sees t (w'.setStage t (.waiting e next alarm))

/-- **Work that keeps to a contract stops as the contract says**, if each of its effects that has its reply at once
leads to a world that is seen in a state to which the contract leads. -/
theorem run_stretches
    (hstep : ∀ (s : σ) (w w' : World) (e : Effect) (r : e.Reply), Sees s w → C.allows s e →
      w.perform t e = (w', .reply r) → ∃ s', C.leads s e r s' ∧ Sees s' w')
    {job : Job} {s : σ} {w : World} (h : job.Meets C Q s) (hs : Sees s w) : Stretches C Q Sees t (run t job w) := by
  induction job generalizing s w with
  | done r => exact .ends hs h
  | ask e next ih =>
    cases hperform : w.perform t e with
    | mk w' uptake =>
      cases uptake with
      | reply r =>
        obtain ⟨s', hleads, hs'⟩ := hstep s w w' e r hs h.1 hperform
        rw [run_reply hperform]
        exact ih r (h.2 r s' hleads) hs'
      | wait alarm =>
        rw [run, hperform]
        exact .waits hs h hperform

end World

/-! ## Where readers stand -/

namespace Sharing

/-- How the work of a reader ends. -/
def Ends (r : Except Exit Outturn) (s : Sharing) : Prop :=
  ∃ r', r = r'.map (fun items => .result (.resources items)) ∧ Yields r' s

/-- The work of a task that drops what is kept. -/
def dropping : Op Result := Reconcile.forget.quietly

theorem meets_fetching (x : Site) : (Job.ofOp World.fetching).Meets sharing Ends { site := x } := by
  refine Op.meets_map.mpr (Op.meets_map.mpr ((meets_fetch x).mono fun r s' hr => ⟨r, ?_, hr⟩))
  cases r <;> rfl

/-- A reader may go on once it is through the gate or was cancelled before. -/
structure GoesIn (next : Waited Unit → Job) : Prop where
  back : ∀ x : Site, (next (.back ())).Meets sharing Ends { site := x, inside := true, found := some x.session.resources }
  cancelled : ∀ x : Site, (next .cancelled).Meets sharing Ends { site := x, reply := some .cancelled }

/-- A reader may go on with the answer, where nothing is kept. -/
def GoesOn (next : Waited Outcome → Job) : Prop :=
  ∀ (answer : Waited Outcome) (x : Site), x.session.resources = none → (next answer).Meets sharing Ends (answered x answer)

/-- **How a task stands**, by whether it is behind the gate and by its ticket. -/
inductive Placed : Prop → Option Ticket → Stage → Prop
  | fresh {mine : Prop} (out : ¬mine) : Placed mine none (.fresh (.ofOp World.fetching))
  | drops {mine : Prop} (out : ¬mine) : Placed mine none (.fresh (.ofOp dropping))
  | broken {mine : Prop} (out : ¬mine) : Placed mine none (.fresh (.done (.error .cancelled)))
  | inLine {mine : Prop} {next : Waited Unit → Job} (out : ¬mine) (goes : GoesIn next) :
    Placed mine (some .waiting) (.waiting (.acquire .fetch) next none)
  | called {mine : Prop} {next : Waited Unit → Job} (out : ¬mine) (goes : GoesIn next) :
    Placed mine (some .granted) (.woken (.acquire .fetch) next (.back ()))
  | givesUp {mine : Prop} {next : Waited Unit → Job} {ticket : Ticket} (out : ¬mine) (gone : ticket ≠ .waiting)
    (goes : GoesIn next) : Placed mine (some ticket) (.woken (.acquire .fetch) next .cancelled)
  | asks {mine : Prop} {next : Waited Outcome → Job} {alarm : Option (Alarm (Waited Outcome))} (inside : mine)
    (goes : GoesOn next) : Placed mine none (.waiting (.send Call.getResources.message) next alarm)
  | answered {mine : Prop} {next : Waited Outcome → Job} {answer : Waited Outcome} (inside : mine) (goes : GoesOn next) :
    Placed mine none (.woken (.send Call.getResources.message) next answer)
  | ended {mine : Prop} {r : Except Exit Result} (out : ¬mine) : Placed mine none (.ended r)

theorem Placed.congr {mine mine' : Prop} {ticket : Option Ticket} {stage : Stage} (h : Placed mine ticket stage)
    (hmine : mine' ↔ mine) : Placed mine' ticket stage := (propext hmine : mine' = mine) ▸ h

end Sharing

/-- A request of the task for the resources is under way. -/
def Stage.asks : Stage → Bool
  | .waiting e _ _ => e.asks = 1
  | .woken e _ _ => e.asks = 1
  | _ => false

namespace World

open Sharing

variable {n i t : Nat} {out out' inside inside' : Option Nat} {g g' : Gate} {w w' : World} {stage : Stage}

/-- **Readers of a session, and those that drop what is kept**, with the gate of fetching. Each stands somewhere but the
one that works; at most one is behind the gate, and nothing is kept while it waits. -/
structure Lined (n : Nat) (out inside : Option Nat) (g : Gate) (w : World) : Prop where
  known : n < w.sessions.length
  ours : ∀ (i : Nat) (task : Task), w.tasks[i]? = some task → task.session = n
  orderly : g.Orderly
  held : g.held = inside.isSome
  line : ∀ i, g.ticket? i ≠ none → i < w.tasks.length
  stands : ∀ (i : Nat) (stage : Stage), out ≠ some i → w.stage? i = some stage →
    Placed (inside = some i) (g.ticket? i) stage
  working : ∀ t, out = some t → t < w.tasks.length ∧ g.ticket? t = none
  within : ∀ i, inside = some i → i < w.tasks.length
  empty : ∀ i, inside = some i → out ≠ some i → (w.session n).resources = none

/-- A request of the task for the resources is under way. -/
def asks (w : World) (t : Nat) : Bool := (w.stage? t).any Stage.asks

theorem asks_eq_true : w.asks t = true ↔ ∃ stage, w.stage? t = some stage ∧ stage.asks = true := Option.any_eq_true ..

/-- **The task is the only one at the gate** that was let in before it, or that is behind it. -/
def Foremost (n t : Nat) (w : World) : Prop :=
  ∀ i, i ≠ t → (w.session n).fetchGate.ticket? i ≠ some .granted ∧ w.asks i = false

theorem lt_of_stage? (h : w.stage? i = some stage) : i < w.tasks.length := by
  obtain ⟨task, htask, -⟩ := Option.map_eq_some_iff.mp h
  exact (List.getElem?_eq_some_iff.mp htask).1

theorem stage?_of_lt (h : i < w.tasks.length) : ∃ stage, w.stage? i = some stage :=
  ⟨_, by rw [stage?, List.getElem?_eq_getElem h, Option.map_some]⟩

namespace Lined

theorem sessionOf (h : Lined n out inside g w) (ht : t < w.tasks.length) : w.sessionOf t = n := by
  obtain ⟨task, htask⟩ : ∃ task, w.tasks[t]? = some task := ⟨_, List.getElem?_eq_getElem ht⟩
  rw [World.sessionOf, htask]
  exact h.ours t task htask

/-- **Whoever asks is behind the gate**, and nobody else. -/
theorem asks_iff (h : Lined n out inside g w) (hi : out ≠ some i) : w.asks i = true ↔ inside = some i := by
  rw [asks_eq_true]
  constructor
  · rintro ⟨stage, hstage, hasks⟩
    have hstands := h.stands i stage hi hstage
    generalize g.ticket? i = ticket at hstands
    cases hstands with
    | asks hmine goes => exact hmine
    | answered hmine goes => exact hmine
    | _ => cases hasks
  · intro hinside
    obtain ⟨stage, hstage⟩ := stage?_of_lt (h.within i hinside)
    have hstands := h.stands i stage hi hstage
    refine ⟨stage, hstage, ?_⟩
    generalize g.ticket? i = ticket at hstands
    cases hstands with
    | asks hmine goes => rfl
    | answered hmine goes => rfl
    | _ => exact absurd hinside ‹_›

theorem start (hknown : n < w.sessions.length) (htasks : w.tasks = []) : Lined n none none {} w where
  known := hknown
  ours i task hi := by
    rw [htasks] at hi
    cases hi
  orderly := Gate.orderly_empty
  held := rfl
  line i hi := absurd rfl hi
  stands i stage _ hi := by
    rw [World.stage?, htasks] at hi
    cases hi
  working t ht := by cases ht
  within i hi := by cases hi
  empty i hi := by cases hi

/-- What is kept by the session may change where nobody waits for an answer, or be dropped. -/
theorem elsewhere (h : Lined n out inside g w) (hknown : n < w'.sessions.length) (htasks : w'.tasks = w.tasks)
    (hempty : ∀ i, inside = some i → out ≠ some i → (w.session n).resources = none → (w'.session n).resources = none) :
    Lined n out inside g w' where
  known := hknown
  ours := htasks ▸ h.ours
  orderly := h.orderly
  held := h.held
  line := htasks ▸ h.line
  stands i stage hout hi := by
    rw [World.stage?, htasks] at hi
    exact h.stands i stage hout hi
  working := htasks ▸ h.working
  within := htasks ▸ h.within
  empty i hi hout := hempty i hi hout (h.empty i hi hout)

theorem works (h : Lined n none inside g w) (ht : t < w.tasks.length) (hticket : g.ticket? t = none) :
    Lined n (some t) inside g w :=
  { h with
    stands := fun i stage _ => h.stands i stage fun hnone => by cases hnone
    working := fun i hi => by
      cases hi
      exact ⟨ht, hticket⟩
    empty := fun i hi _ => h.empty i hi fun hnone => by cases hnone }

/-- **One task comes to stand elsewhere**, and all others stand as they did. -/
theorem turn (h : Lined n out inside g w) (hi : i < w.tasks.length)
    (hlength : w'.sessions.length = w.sessions.length) (htasks : w'.tasks = (w.setStage i stage).tasks)
    (hresources : (w'.session n).resources = (w.session n).resources) (horderly : g'.Orderly)
    (hheld : g'.held = inside'.isSome) (htickets : ∀ j, j ≠ i → g'.ticket? j = g.ticket? j)
    (hstands : Placed (inside' = some i) (g'.ticket? i) stage) (hinside : ∀ j, j ≠ i → (inside' = some j ↔ inside = some j))
    (hout : out' = none ∧ (∀ j, out = some j → j = i) ∨ out' = out ∧ out ≠ some i)
    (hempty : inside' = some i → (w.session n).resources = none) : Lined n out' inside' g' w' := by
  -- Whoever worked before and is not the task works now.
  have hworks : ∀ j, j ≠ i → out' ≠ some j → out ≠ some j := by
    intro j hji hj hout'
    rcases hout with ⟨-, hout⟩ | ⟨rfl, -⟩
    · exact hji (hout j hout')
    · exact hj hout'
  have hcount : w'.tasks.length = w.tasks.length := by rw [htasks, World.setStage, onTask, List.length_modify]
  have hself : w'.stage? i = some stage := by
    rw [World.stage?, htasks]
    exact stage?_setStage_self (List.getElem?_eq_getElem hi)
  have hother : ∀ j, j ≠ i → w'.stage? j = w.stage? j := fun j hj => by
    rw [World.stage?, htasks]
    exact stage?_setStage_ne hj.symm
  refine ⟨hlength ▸ h.known, fun j task hj => ?_, horderly, hheld, fun j hj => ?_, fun j stage' hjout hj => ?_,
    fun t ht => ?_, fun j hj => ?_, fun j hj hjout => ?_⟩
  · rw [htasks] at hj
    obtain ⟨before, hbefore, rfl⟩ := onTask_before hj
    have hsession := h.ours j before hbefore
    split <;> exact hsession
  · rw [hcount]
    by_cases hji : j = i
    · exact hji ▸ hi
    · exact h.line j (htickets j hji ▸ hj)
  · by_cases hji : j = i
    · subst hji
      rw [hself] at hj
      cases hj
      exact hstands
    · rw [hother j hji] at hj
      rw [htickets j hji]
      exact (h.stands j stage' (hworks j hji hjout) hj).congr (hinside j hji)
  · rcases hout with ⟨rfl, -⟩ | ⟨rfl, hne⟩
    · cases ht
    · have hti : t ≠ i := fun hti => hne (hti ▸ ht)
      rw [hcount, htickets t hti]
      exact h.working t ht
  · rw [hcount]
    by_cases hji : j = i
    · exact hji ▸ hi
    · exact h.within j ((hinside j hji).mp hj)
  · rw [hresources]
    by_cases hji : j = i
    · exact hempty (hji ▸ hj)
    · exact h.empty j ((hinside j hji).mp hj) (hworks j hji hjout)

/-- **The task that works comes to stand somewhere**, in a world in which nothing else was done to tasks and to what is
kept. -/
theorem settles (h : Lined n (some t) inside g w) (hlength : w'.sessions.length = w.sessions.length)
    (htasks : w'.tasks = w.tasks) (hresources : (w'.session n).resources = (w.session n).resources)
    (horderly : g'.Orderly) (hheld : g'.held = g.held) (htickets : ∀ j, j ≠ t → g'.ticket? j = g.ticket? j)
    (hstands : Placed (inside = some t) (g'.ticket? t) stage)
    (hempty : inside = some t → (w.session n).resources = none) : Lined n none inside g' (w'.setStage t stage) :=
  h.turn (h.working t rfl).1 hlength (by rw [World.setStage, onTask, htasks]; rfl) hresources horderly (hheld.trans h.held)
    htickets hstands (fun _ _ => Iff.rfl) (.inl ⟨rfl, fun j hj => (Option.some.inj hj).symm⟩) hempty

theorem regate (h : Lined n out inside g w) (horderly : g'.Orderly) (hheld : g'.held = g.held)
    (htickets : ∀ i, g'.ticket? i = g.ticket? i) : Lined n out inside g' w :=
  { h with
    orderly := horderly
    held := hheld.trans h.held
    line := fun i hi => h.line i (htickets i ▸ hi)
    stands := fun i stage hout hi => by
      rw [htickets i]
      exact h.stands i stage hout hi
    working := fun t ht => by
      rw [htickets t]
      exact h.working t ht }

/-- **A task goes in** that works already or was called: it has no ticket any more, and is behind the gate. -/
theorem goesIn (h : Lined n out none g w) (ht : t < w.tasks.length) (hout : ∀ j, out = some j → j = t)
    (horderly : g'.Orderly) (hheld : g'.held = true) (hticket : g'.ticket? t = none)
    (htickets : ∀ i, i ≠ t → g'.ticket? i = g.ticket? i) : Lined n (some t) (some t) g' w where
  known := h.known
  ours := h.ours
  orderly := horderly
  held := hheld
  line i hi := by
    by_cases hit : i = t
    · exact hit ▸ ht
    · exact h.line i (htickets i hit ▸ hi)
  stands i stage hi hstage := by
    have hit : i ≠ t := fun hit => hi (hit ▸ rfl)
    rw [htickets i hit]
    refine (h.stands i stage (fun hout' => hit (hout i hout')) hstage).congr ⟨fun hsome => absurd hsome hi, fun hnone => ?_⟩
    cases hnone
  working i hi := by
    cases hi
    exact ⟨ht, hticket⟩
  within i hi := by
    cases hi
    exact ht
  empty i hi hnot := absurd hi hnot

/-- **Whoever works behind the gate leaves it.** -/
theorem leaves (h : Lined n (some t) (some t) g w) : Lined n (some t) none { g with held := false } w where
  known := h.known
  ours := h.ours
  orderly := ⟨h.orderly.nodup, h.orderly.first, fun hnow => by cases hnow⟩
  held := rfl
  line := h.line
  stands i stage hi hstage := (h.stands i stage hi hstage).congr
    ⟨fun hnone => (by cases hnone), fun hsome => absurd hsome hi⟩
  working := h.working
  within i hi := by cases hi
  empty i hi := by cases hi

end Lined

/-! ## The gate passes on -/

theorem wakeAtGate_of_waiting {next : Waited Unit → Job} {alarm : Option (Alarm (Waited Unit))} {name : GateName}
    (h : w.stage? i = some (.waiting (.acquire name) next alarm)) :
    w.wakeAtGate i = (w.setStage i (.woken (.acquire name) next (.back ()))).enqueue i := by
  have hstage : (w.tasks[i]?).map Task.stage = some (.waiting (.acquire name) next alarm) := h
  rw [wakeAtGate, hstage]

/-- Waking a task leaves sessions and the rest alone, but for tasks and the queue of those that can go on. -/
theorem wakeAtGate_same (w : World) (i : Nat) : ∃ tasks ready, w.wakeAtGate i = { w with tasks, ready } := by
  unfold wakeAtGate
  split <;> exact ⟨_, _, rfl⟩

theorem callAtGate_same (w : World) (n : Nat) (name : GateName) (r : Gate × Option Nat) : ∃ tasks ready,
    w.callAtGate n name r = { w.onSession n fun s => s.setGate r.1 name with tasks, ready } := by
  unfold callAtGate
  dsimp only
  split
  · exact wakeAtGate_same _ _
  · exact ⟨_, _, rfl⟩

theorem session_callAtGate (hn : n < w.sessions.length) (r : Gate × Option Nat) :
    (w.callAtGate n .fetch r).session n = { w.session n with fetchGate := r.1 } := by
  obtain ⟨tasks, ready, hsame⟩ := callAtGate_same w n .fetch r
  rw [hsame]
  exact session_onSession hn fun s => s.setGate r.1 .fetch

/-- Another task than before stands as it did, or was called. -/
def Called (w w' : World) (i : Nat) : Prop :=
  ∃ next, w.stage? i = some (.waiting (.acquire .fetch) next none) ∧
    w'.stage? i = some (.woken (.acquire .fetch) next (.back ()))

theorem asks_of_called (h : w'.stage? i = w.stage? i ∨ Called w w' i) : w'.asks i = w.asks i := by
  rcases h with hsame | ⟨next, hbefore, hafter⟩
  · rw [asks, asks, hsame]
  · rw [asks, asks, hbefore, hafter]
    rfl

/-- **The gate passes on**: whoever it calls may go in, and all others stand as they did. -/
theorem Lined.passes {who : Option Nat} (h : Lined n out none g w) (hpasses : Gate.Passes g g' who) :
    Lined n out none g' (w.callAtGate n .fetch (g', who)) ∧
      ∀ i, if who = some i then Called w (w.callAtGate n .fetch (g', who)) i
        else (w.callAtGate n .fetch (g', who)).stage? i = w.stage? i := by
  have hset : Lined n out none g (w.onSession n fun s => s.setGate g' .fetch) := by
    refine h.elsewhere (by rw [onSession, List.length_set]; exact h.known) rfl fun i hi => by cases hi
  cases who with
  | none =>
    refine ⟨hset.regate hpasses.orderly hpasses.held fun i => ?_, fun i => ?_⟩
    · rw [hpasses.ticket, if_neg fun hnone => by cases hnone]
    · rw [if_neg fun hnone => by cases hnone]
      rfl
  | some u =>
    have hwaits := hpasses.waited u rfl
    obtain ⟨stage, hu⟩ := stage?_of_lt (h.line u (by rw [hwaits]; exact fun hnone => by cases hnone))
    have hout : out ≠ some u := fun hout => by
      cases (h.working u hout).2.symm.trans hwaits
    have hstands := h.stands u stage hout hu
    rw [hwaits] at hstands
    cases hstands with
    | inLine hmine goes =>
      have hu' : (w.onSession n fun s => s.setGate g' .fetch).stage? u = some (.waiting (.acquire .fetch) _ none) := hu
      have hwoken := wakeAtGate_of_waiting hu'
      have hcalls : w.callAtGate n .fetch (g', some u) = _ := hwoken
      rw [hcalls]
      refine ⟨hset.turn (lt_of_stage? hu) rfl rfl rfl hpasses.orderly (hpasses.held.trans h.held) (fun j hj => ?_) ?_
        (fun _ _ => Iff.rfl) (.inr ⟨rfl, hout⟩) fun hnone => (by cases hnone), fun i => ?_⟩
      · rw [hpasses.ticket, if_neg fun hsame => hj (Option.some.inj hsame).symm]
      · rw [hpasses.ticket, if_pos rfl]
        exact .called hmine goes
      · by_cases hui : u = i
        · subst hui
          rw [if_pos rfl]
          obtain ⟨task, htask, -⟩ := Option.map_eq_some_iff.mp hu'
          exact ⟨_, hu, stage?_setStage_self htask⟩
        · rw [if_neg fun hsame => hui (Option.some.inj hsame)]
          exact stage?_setStage_ne hui
    | givesUp _ gone _ => exact absurd rfl gone

/-! ## A reader at work -/

theorem site_callAtGate (hn : n < w.sessions.length) (r : Gate × Option Nat) :
    (w.callAtGate n .fetch r).site n = (w.site n).onSession fun s => { s with fetchGate := r.1 } := by
  obtain ⟨tasks, ready, hsame⟩ := callAtGate_same w n .fetch r
  rw [hsame]
  exact site_onSession hn fun s => s.setGate r.1 .fetch

/-- **A reader works**, and knows of its fetch what has become of the world since it went on. -/
structure Sees (n t : Nat) (s₀ : Sharing) (w₀ : World) (s : Sharing) (w : World) : Prop where
  lined : ∃ inside, Lined n (some t) inside (w.session n).fetchGate w ∧ (s.inside = true ↔ inside = some t)
  prompt : (w.session n).fetchGate.Prompt
  site : s.site = w.site n
  requests : w.requests + s₀.asked = w₀.requests + s.asked
  counts : (w.session n).fetchCount + s₀.counted = (w₀.session n).fetchCount + s.counted
  others : ∀ i, i ≠ t → w.stage? i = w₀.stage? i ∨ Called w₀ w i
  apart : s.found = none → s.inside = false
  gate : s.found = none → (w.session n).fetchGate = (w₀.session n).fetchGate
  kept : s.found = none → (w.session n).resources = (w₀.session n).resources
  found : ∀ r, s.found = some r → r = (w₀.session n).resources ∧ Foremost n t w₀
  /-- It has come through the gate if it had before. -/
  line : s.found = none → s₀.found = none
  /-- It comes through the gate only if it was not cancelled before. -/
  entered : s.found ≠ none → s₀.found = none → s₀.reply = none
  since : s₀.asked ≤ s.asked
  quiet : s.asked = s₀.asked → w.script = w₀.script ∧ s.reply = s₀.reply
  spoken : s.asked ≠ s₀.asked → s.reply = some (.back (w₀.script.next Call.getResources.message).1.outcome)

namespace Sees

variable {s₀ s s' : Sharing} {w₀ : World}

theorem lt (h : Sees n t s₀ w₀ s w) : t < w.tasks.length := by
  obtain ⟨inside, hlined, -⟩ := h.lined
  exact (hlined.working t rfl).1

theorem sessionOf (h : Sees n t s₀ w₀ s w) : w.sessionOf t = n := by
  obtain ⟨inside, hlined, -⟩ := h.lined
  exact hlined.sessionOf h.lt

theorem known (h : Sees n t s₀ w₀ s w) : n < w.sessions.length := by
  obtain ⟨inside, hlined, -⟩ := h.lined
  exact hlined.known

theorem session (h : Sees n t s₀ w₀ s w) : s.site.session = w.session n := congrArg Site.session h.site

theorem changed {y : Site} (h : Sees n t s₀ w₀ s w) (hallows : sharing.allows s (.change y)) :
    ∃ s', sharing.leads s (.change y) () s' ∧ Sees n t s₀ w₀ s' (w.setSite n y) := by
  obtain ⟨hgate, hcounted, hkept⟩ := hallows
  obtain ⟨inside, hlined, hinside⟩ := h.lined
  rw [h.session] at hgate hcounted hkept
  have hsite := site_setSite h.known y
  have hnow : s.site.now = w.now := congrArg Site.now h.site
  have hsession : (w.setSite n y).session n = y.session := congrArg Site.session hsite
  refine ⟨_, rfl, ⟨⟨inside, ?_, hinside⟩, by rw [hsession, hgate]; exact h.prompt, ?_, h.requests, ?_, h.others, h.apart, fun hnone => ?_, fun hnone => ?_,
    h.found, h.line, h.entered, h.since, h.quiet, h.spoken⟩⟩
  · rw [hsession, hgate]
    refine hlined.elsewhere (by rw [setSite, List.length_set]; exact h.known) rfl fun i hi hout hempty => ?_
    have hapart : s.inside = false := by
      cases hmine : s.inside with
      | false => rfl
      | true => exact absurd (hinside.mp hmine ▸ hi) hout
    rw [hsession, hkept hapart, hempty]
  · rw [hsite, hnow]
  · have hcounts := h.counts
    rw [hsession, h.session]
    dsimp only
    omega
  · rw [hsession, hgate, h.gate hnone]
  · rw [hsession, hkept (h.apart hnone), h.kept hnone]

theorem enters (h : Sees n t s₀ w₀ s w) (hfresh : s = { site := s.site })
    (henter : (w.session n).fetchGate.enter? = some g') :
    ∃ s', sharing.leads s (.acquire .fetch) (.back ()) s' ∧
      Sees n t s₀ w₀ s' (w.onSession n fun s => s.setGate g' .fetch) := by
  obtain ⟨inside, hlined, -⟩ := h.lined
  obtain ⟨rfl, hfree, hnone⟩ := Gate.enter?_some henter
  obtain ⟨horderly, hheld, htickets⟩ := hlined.orderly.enter henter
  have hinside : inside = none := by
    cases inside with
    | none => rfl
    | some i => cases hfree.symm.trans hlined.held
  subst hinside
  have hsession : (w.onSession n fun s => s.setGate { (w.session n).fetchGate with held := true } .fetch).session n =
      { w.session n with fetchGate := { (w.session n).fetchGate with held := true } } := session_onSession h.known _
  have hfound : s.found = none := by rw [hfresh]
  have hgoes := hlined.goesIn h.lt (fun j hj => (Option.some.inj hj).symm) horderly hheld
    ((htickets t).trans (hlined.working t rfl).2) fun i _ => htickets i
  refine ⟨_, ⟨(w.onSession n fun s => s.setGate { (w.session n).fetchGate with held := true } .fetch).site n, rfl⟩,
    ⟨⟨some t, ?_, fun _ => rfl, fun _ => rfl⟩, by rw [hsession]; exact Gate.prompt_of_held rfl, rfl, h.requests, ?_, h.others, ?_, ?_, ?_, ?_, ?_,
      fun _ _ => ?_, h.since, h.quiet, h.spoken⟩⟩
  · rw [hsession]
    refine hgoes.elsewhere ?_ rfl fun i hi hout => absurd hi hout
    rw [onSession, List.length_set]
    exact h.known
  · rw [hsession]
    exact h.counts
  · exact fun hnow => by cases hnow
  · exact fun hnow => by cases hnow
  · exact fun hnow => by cases hnow
  · intro r hr
    have hr : some ((w.onSession n fun s => s.setGate { (w.session n).fetchGate with held := true } .fetch).session
        n).resources = some r := hr
    rw [hsession] at hr
    refine ⟨(Option.some.inj hr).symm.trans (h.kept hfound), fun i hi => ⟨fun hgranted => ?_, ?_⟩⟩
    · rw [← h.gate hfound] at hgranted
      exact hnone _ (Gate.mem_of_ticket? hgranted) rfl
    · rw [← asks_of_called (h.others i hi)]
      refine Bool.eq_false_iff.mpr fun hasks => ?_
      cases (hlined.asks_iff fun hsame => hi (Option.some.inj hsame).symm).mp hasks
  · exact fun hnow => by cases hnow
  · by_cases hasked : s.asked = s₀.asked
    · rw [← (h.quiet hasked).2, hfresh]
    · have hspoken := h.spoken hasked
      rw [hfresh] at hspoken
      cases hspoken

/-- The reader opens the gate behind it, and whoever is first in the line is called. -/
theorem left (h : Sees n t s₀ w₀ s w) (hinside : s.inside = true) :
    ∃ s', sharing.leads s (.release .fetch) () s' ∧
      Sees n t s₀ w₀ s' (w.callAtGate n .fetch (w.session n).fetchGate.leave) := by
  obtain ⟨inside, hlined, hmine⟩ := h.lined
  obtain rfl := hmine.mp hinside
  obtain ⟨hpassed, hothers⟩ := hlined.leaves.passes hlined.orderly.leave
  have hsession := session_callAtGate h.known (w.session n).fetchGate.leave
  have hsite := site_callAtGate h.known (w.session n).fetchGate.leave
  have hfound : s.found ≠ none := fun hnone => by
    rw [h.apart hnone] at hinside
    cases hinside
  obtain ⟨tasks, ready, hsame⟩ := callAtGate_same w n .fetch (w.session n).fetchGate.leave
  refine ⟨_, ⟨(w.session n).fetchGate.leave.1, rfl⟩, ⟨⟨none, ?_, fun hnow => (by cases hnow), fun hnow => (by cases hnow)⟩,
    by rw [hsession]; exact hlined.orderly.leave.prompt, ?_, ?_, ?_, fun i hi => ?_, fun hnone => absurd hnone hfound, fun hnone => absurd hnone hfound, fun hnone => absurd hnone hfound, h.found,
    fun hnone => absurd hnone hfound, fun _ => h.entered hfound, h.since, fun hasked => ?_, h.spoken⟩⟩
  · rw [hsession]
    exact hpassed
  · rw [hsite, h.site]
  · rw [hsame]
    exact h.requests
  · rw [hsession]
    exact h.counts
  · have hi' := hothers i
    split at hi'
    next hcalled =>
      obtain ⟨next, hbefore, hafter⟩ := hi'
      rcases h.others i hi with hsame | ⟨next', -, hwoken⟩
      · exact .inr ⟨next, hsame ▸ hbefore, hafter⟩
      · cases hwoken.symm.trans hbefore
    next =>
      rcases h.others i hi with hsame | ⟨next, hbefore, hwoken⟩
      · exact .inl (hi'.trans hsame)
      · exact .inr ⟨next, hbefore, hi'.trans hwoken⟩
  · rw [hsame]
    exact h.quiet hasked

theorem sent (h : Sees n t s₀ w₀ s w) {m : Message} (hallows : sharing.allows s (.send m)) {r : Waited Outcome}
    (hperform : w.perform t (.send m) = (w', .reply r)) :
    ∃ s', sharing.leads s (.send m) r s' ∧ Sees n t s₀ w₀ s' w' := by
  obtain ⟨rfl, hnone, hready⟩ := hallows
  have hasked : w'.requests = w.requests + 1 := by
    have hasked := requests_perform w t (.send Call.getResources.message)
    rw [hperform] at hasked
    exact hasked
  have hperform : w.send Call.getResources.message = (w', .reply r) := hperform
  rw [World.send] at hperform
  dsimp only at hperform
  split at hperform
  next hnow =>
    have hnever : s.asked = 0 := by rw [hready]
    have hsince := h.since
    have hrequests := h.requests
    cases hperform
    obtain ⟨inside, hlined, hinside⟩ := h.lined
    refine ⟨_, ⟨w.site n, by rw [← h.site]; exact hnone, rfl⟩, ⟨⟨inside, ?_, hinside⟩, h.prompt, rfl, ?_, h.counts, h.others, h.apart,
      h.gate, h.kept, h.found, h.line, h.entered, ?_, fun hsame => ?_, fun _ => ?_⟩⟩
    · exact hlined.elsewhere hlined.known rfl fun _ _ _ hempty => hempty
    · dsimp only
      omega
    · exact Nat.le_succ_of_le hsince
    · have hsame : s.asked + 1 = s₀.asked := hsame
      omega
    · rw [← (h.quiet (by omega)).1]
  next => cases hperform

/-- **Whatever the reader does that has its reply at once leaves it a reader at work.** -/
theorem step (h : Sees n t s₀ w₀ s w) {e : Effect} {r : e.Reply} (hallows : sharing.allows s e)
    (hperform : w.perform t e = (w', .reply r)) : ∃ s', sharing.leads s e r s' ∧ Sees n t s₀ w₀ s' w' := by
  cases e with
  | look =>
    have hreply : (w, Uptake.reply (w.site (w.sessionOf t))) = (w', .reply r) := hperform
    cases hreply
    rw [h.sessionOf]
    exact ⟨s, ⟨h.site.symm, rfl⟩, h⟩
  | change y =>
    have hreply : (w.setSite (w.sessionOf t) y, Uptake.reply ()) = (w', .reply r) := hperform
    cases hreply
    rw [h.sessionOf]
    exact h.changed hallows
  | acquire g =>
    cases g with
    | state => exact absurd hallows id
    | fetch =>
      have hreply : w.acquire t .fetch = (w', .reply r) := hperform
      rw [acquire, h.sessionOf] at hreply
      split at hreply
      next g' henter =>
        cases hreply
        exact h.enters hallows henter
      next => cases hreply
  | release g =>
    cases g with
    | state => exact absurd hallows id
    | fetch =>
      have hreply : (w.callAtGate (w.sessionOf t) .fetch ((w.session (w.sessionOf t)).gate .fetch).leave,
        Uptake.reply ()) = (w', .reply r) := hperform
      cases hreply
      rw [h.sessionOf]
      exact h.left hallows
  | send m => exact h.sent hallows hperform
  | _ => exact absurd hallows id

end Sees

end World

end Cutover
