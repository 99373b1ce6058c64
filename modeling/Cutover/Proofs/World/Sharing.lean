import Cutover.Proofs.World.Resuming

/-!
# Readers share one fetch

Any number of readers ask for the resources of a session at any time, what is kept is dropped at any time, and whoever
can go on does so in any order.

* `World.FetchEvent`, `World.afterFetches`: what happens, and what has become of the world;
* `World.InOrder.event`: whatever happens, the readers stay in order;
* `World.readers_share_fetch`: **readers share one fetch**.
-/

namespace Cutover.World

open Sharing

variable {n i t u : Nat} {inside : Option Nat} {g g' : Gate} {w w' : World} {stage : Stage}

/-! ## What happens -/

/-- **What happens elsewhere** while the resources are read: it leaves the readers and the books alone. -/
structure Aloof (n : Nat) where
  act : World → World
  known : ∀ w, n < w.sessions.length → n < (act w).sessions.length
  tasks : ∀ w, (act w).tasks = w.tasks
  gate : ∀ w, ((act w).session n).fetchGate = (w.session n).fetchGate
  books : ∀ w, SameBooks n w (act w)

/-- **What may happen** while the resources are read. -/
inductive FetchEvent (n : Nat) where
  /-- Another reader asks for the resources. -/
  | read
  /-- What is kept is to be dropped. -/
  | drop
  /-- A task goes on. -/
  | resume (t : Nat)
  /-- The wait of a task ends by itself. -/
  | ring (t : Nat)
  | cancel (t : Nat)
  | elsewhere (e : Aloof n)

/-- What an event does. -/
def FetchEvent.act : FetchEvent n → World → World
  | .read, w => (w.spawn n (.ofOp fetching)).2
  | .drop, w => (w.spawn n (.ofOp dropping)).2
  | .resume t, w => w.resume t
  | .ring t, w => World.ring w t
  | .cancel t, w => w.cancel t
  | .elsewhere e, w => e.act w

/-- **What has become of the world** after what happened. -/
def afterFetches (w : World) (es : List (FetchEvent n)) : World := es.foldl (fun w e => e.act w) w

/-- The task that is cancelled. -/
def FetchEvent.cancels? : FetchEvent n → Option Nat
  | .cancel t => some t
  | _ => none

/-! ## While no task goes on -/

/-- **No task goes on**: the readers stay in order, the books stay as they are, and whoever can go on stands where it
stood unless it is the one that was cancelled. -/
structure Pauses (n : Nat) (who : Option Nat) (w w' : World) : Prop where
  inOrder : InOrder n w'
  same : SameBooks n w w'
  asks : ∀ i, w'.asks i = true → w.asks i = true
  others : ∀ i stage, who ≠ some i → w.stage? i = some stage → stage.canGoOn = true → w'.stage? i = some stage

theorem Pauses.refl (h : InOrder n w) (who : Option Nat) : Pauses n who w w :=
  ⟨h, .refl n w, fun _ hasks => hasks, fun _ _ _ hstage _ => hstage⟩

theorem InOrder.spawn (h : InOrder n w) {job : Job}
    (hfresh : ∀ mine : Prop, ¬mine → Sharing.Placed mine none (.fresh job)) : Pauses n none w (w.spawn n job).2 := by
  obtain ⟨⟨inside, hlined⟩, hprompt⟩ := h
  have hlength : (w.spawn n job).2.tasks.length = w.tasks.length + 1 := List.length_append
  have hstage : ∀ {i stage}, (w.spawn n job).2.stage? i = some stage →
      w.stage? i = some stage ∨ i = w.tasks.length ∧ stage = .fresh job := by
    intro i stage hi
    obtain ⟨task, htask, rfl⟩ := Option.map_eq_some_iff.mp hi
    rcases spawn_before htask with hbefore | ⟨rfl, rfl⟩
    · exact .inl (by rw [World.stage?, hbefore]; rfl)
    · exact .inr ⟨rfl, rfl⟩
  refine ⟨⟨⟨inside, hlined.known, fun i task hi => ?_, hlined.orderly, hlined.held, fun i hi => ?_, fun i stage _ hi => ?_,
    fun t ht => (by cases ht), fun i hi => ?_, hlined.empty⟩, hprompt⟩, ⟨rfl, rfl, rfl⟩, fun i hasks => ?_, fun i stage _ hi _ => ?_⟩
  · rcases spawn_before hi with hbefore | ⟨-, rfl⟩
    · exact hlined.ours i task hbefore
    · rfl
  · exact hlength ▸ Nat.lt_succ_of_lt (hlined.line i hi)
  · rcases hstage hi with hbefore | ⟨rfl, rfl⟩
    · exact hlined.stands i stage (fun hnone => by cases hnone) hbefore
    · have hticket : (w.session n).fetchGate.ticket? w.tasks.length = none :=
        Classical.byContradiction fun hsome => Nat.lt_irrefl _ (hlined.line _ hsome)
      have hgate : ((w.spawn n job).2.session n).fetchGate = (w.session n).fetchGate := rfl
      rw [hgate, hticket]
      exact hfresh _ fun hinside => Nat.lt_irrefl _ (hlined.within _ hinside)
  · exact hlength ▸ Nat.lt_succ_of_lt (hlined.within i hi)
  · obtain ⟨stage, hi, hstages⟩ := asks_eq_true.mp hasks
    rcases hstage hi with hbefore | ⟨rfl, rfl⟩
    · exact asks_eq_true.mpr ⟨stage, hbefore, hstages⟩
    · cases hstages
  · rw [World.stage?, spawn_other (lt_of_stage? hi)]
    exact hi

theorem Lined.turns {who : Option Nat} (h : Lined n none inside (w.session n).fetchGate w) (hi : i < w.tasks.length)
    (hlength : w'.sessions.length = w.sessions.length) (htasks : w'.tasks = (w.setStage i stage).tasks)
    (hsession : w'.session n = { w.session n with fetchGate := g' }) (hsent : w'.sent = w.sent) (horderly : g'.Orderly)
    (hprompt : g'.Prompt) (hheld : g'.held = (w.session n).fetchGate.held)
    (htickets : ∀ j, j ≠ i → g'.ticket? j = (w.session n).fetchGate.ticket? j)
    (hstands : Sharing.Placed (inside = some i) (g'.ticket? i) stage)
    (hwho : who = some i ∨ ∀ stage, w.stage? i = some stage → stage.canGoOn = false) : Pauses n who w w' := by
  have hlined : Lined n none inside (w'.session n).fetchGate w' := by
    rw [hsession]
    exact h.turn hi hlength htasks (by rw [hsession]) horderly (hheld.trans h.held) htickets hstands (fun _ _ => Iff.rfl)
      (.inl ⟨rfl, fun j hj => (by cases hj)⟩) fun hinside => h.empty i hinside fun hnone => by cases hnone
  refine ⟨⟨⟨inside, hlined⟩, by rw [hsession]; exact hprompt⟩, sameBooks_of_session ⟨g', hsession⟩ hsent, fun j hasks => ?_,
    fun j stage' hj hstage hgoes => ?_⟩
  · exact (h.asks_iff fun hnone => by cases hnone).mpr ((hlined.asks_iff fun hnone => by cases hnone).mp hasks)
  · have hji : j ≠ i := by
      rintro rfl
      rcases hwho with hwho | hwaits
      · exact hj hwho
      · cases (hwaits stage' hstage).symm.trans hgoes
    rw [World.stage?, htasks]
    exact (stage?_setStage_ne hji.symm).trans hstage

theorem Lined.turnsAside {who : Option Nat} (h : Lined n none inside (w.session n).fetchGate w)
    (hprompt : (w.session n).fetchGate.Prompt) (hi : i < w.tasks.length) (hsessions : w'.sessions = w.sessions)
    (htasks : w'.tasks = (w.setStage i stage).tasks) (hsent : w'.sent = w.sent)
    (hstands : Sharing.Placed (inside = some i) ((w.session n).fetchGate.ticket? i) stage)
    (hwho : who = some i ∨ ∀ stage, w.stage? i = some stage → stage.canGoOn = false) : Pauses n who w w' := by
  have hsession : w'.session n = { w.session n with fetchGate := (w.session n).fetchGate } := by
    rw [World.session, hsessions, World.session]
  exact h.turns hi (by rw [hsessions]) htasks hsession hsent h.orderly hprompt rfl (fun _ _ => rfl) hstands hwho

/-- **A wait ends by itself**, which only that for an answer does. -/
theorem InOrder.rings (h : InOrder n w) (t : Nat) : Pauses n none w (w.ring t) := by
  obtain ⟨⟨inside, hlined⟩, hprompt⟩ := h
  have hrests : w.ring t = w → Pauses n none w (w.ring t) := fun hsame => by
    rw [hsame]
    exact .refl ⟨⟨inside, hlined⟩, hprompt⟩ none
  cases hstage : w.stage? t with
  | none =>
    refine hrests ?_
    rw [ring, show (w.tasks[t]?).map Task.stage = none from hstage]
  | some stage =>
    have hring : (w.tasks[t]?).map Task.stage = some stage := hstage
    have hstands := hlined.stands t stage (fun hnone => by cases hnone) hstage
    generalize hticket : (w.session n).fetchGate.ticket? t = ticket at hstands
    cases hstands with
    | @asks next alarm hmine goes =>
      cases alarm with
      | none => exact hrests (by rw [ring, hring])
      | some alarm =>
        have hrings : w.ring t = (w.setStage t (.woken (.send Call.getResources.message) next alarm.reply)).enqueue t := by
          rw [ring, hring]
        rw [hrings]
        exact hlined.turnsAside hprompt (lt_of_stage? hstage) rfl rfl rfl (hticket ▸ .answered hmine goes)
          (.inr fun stage' hnow => Option.some.inj (hstage.symm.trans hnow) ▸ rfl)
    | _ => exact hrests (by rw [ring, hring])

/-- **A task is cancelled**: it will not begin, it gives up its place in the line, or it will not get the answer. -/
theorem InOrder.cancels (h : InOrder n w) (t : Nat) : Pauses n (some t) w (w.cancel t) := by
  obtain ⟨⟨inside, hlined⟩, hprompt⟩ := h
  have hrests : w.cancel t = w → Pauses n (some t) w (w.cancel t) := fun hsame => by
    rw [hsame]
    exact .refl ⟨⟨inside, hlined⟩, hprompt⟩ _
  cases hstage : w.stage? t with
  | none =>
    refine hrests ?_
    rw [cancel, cancelWithin, show (w.tasks[t]?).map Task.stage = none from hstage]
  | some stage =>
    have hcancel : (w.tasks[t]?).map Task.stage = some stage := hstage
    have hlt := lt_of_stage? hstage
    have hstands := hlined.stands t stage (fun hnone => by cases hnone) hstage
    -- It stands elsewhere, with its ticket.
    have hturns : ∀ stage' : Stage, w.cancel t = w.setStage t stage' →
        Sharing.Placed (inside = some t) ((w.session n).fetchGate.ticket? t) stage' → Pauses n (some t) w (w.cancel t) := by
      intro stage' hsame hstands'
      rw [hsame]
      exact hlined.turnsAside hprompt hlt rfl rfl rfl hstands' (.inl rfl)
    generalize hticket : (w.session n).fetchGate.ticket? t = ticket at hstands hturns
    cases hstands with
    | fresh hout => exact hturns _ (by rw [cancel, cancelWithin, hcancel]) (.broken hout)
    | drops hout => exact hturns _ (by rw [cancel, cancelWithin, hcancel]) (.broken hout)
    | broken hout => exact hturns _ (by rw [cancel, cancelWithin, hcancel]) (.broken hout)
    | @inLine next hout goes =>
      have hgives : w.cancel t = ((w.withdraw t (.acquire .fetch)).setStage t (.woken (.acquire .fetch) next .cancelled)).enqueue t := by
        rw [cancel, cancelWithin, hcancel]
        rfl
      have hwithdraw : w.withdraw t (.acquire .fetch) =
          w.onSession n fun s => s.setGate ((s.gate .fetch).withdraw t) .fetch := by
        rw [World.withdraw, hlined.sessionOf hlt]
      have hsession : (w.onSession n fun s => s.setGate ((s.gate .fetch).withdraw t) .fetch).session n =
          { w.session n with fetchGate := (w.session n).fetchGate.withdraw t } := session_onSession hlined.known _
      rw [hgives, hwithdraw]
      refine hlined.turns hlt List.length_set rfl hsession rfl (hlined.orderly.withdraw t) (hprompt.withdraw t) rfl
        (fun j hj => ?_) ?_ (.inl rfl)
      · rw [Gate.ticket?_withdraw, if_neg hj]
      · have hwithdrawn : ((w.session n).fetchGate.withdraw t).ticket? t = some .withdrawn := by
          rw [Gate.ticket?_withdraw, if_pos rfl, hticket]
          rfl
        exact hwithdrawn ▸ .givesUp hout (fun hnow => by cases hnow) goes
    | called hout goes =>
      exact hturns _ (by rw [cancel, cancelWithin, hcancel]; rfl) (.givesUp hout (fun hnow => by cases hnow) goes)
    | givesUp hout gone goes => exact hturns _ (by rw [cancel, cancelWithin, hcancel]; rfl) (.givesUp hout gone goes)
    | @asks next alarm hmine goes =>
      have hbreaks : w.cancel t = (w.setStage t (.woken (.send Call.getResources.message) next .cancelled)).enqueue t := by
        rw [cancel, cancelWithin, hcancel]
        rfl
      rw [hbreaks]
      exact hlined.turnsAside hprompt hlt rfl rfl rfl (hticket ▸ .answered hmine goes) (.inl rfl)
    | answered hmine goes => exact hturns _ (by rw [cancel, cancelWithin, hcancel]; rfl) (.answered hmine goes)
    | ended hout => exact hrests (by rw [cancel, cancelWithin, hcancel])

theorem InOrder.elsewhere (h : InOrder n w) (e : Aloof n) : Pauses n none w (e.act w) := by
  obtain ⟨⟨inside, hlined⟩, hprompt⟩ := h
  have hbooks := e.books w
  have hstage : ∀ i, (e.act w).stage? i = w.stage? i := fun i => by rw [World.stage?, e.tasks, World.stage?]
  refine ⟨⟨⟨inside, ?_⟩, (e.gate w).symm ▸ hprompt⟩, hbooks, fun i hasks => ?_, fun i stage _ hi _ => (hstage i).trans hi⟩
  · rw [e.gate w]
    exact hlined.elsewhere (e.known w hlined.known) (e.tasks w) fun i _ _ hempty => hbooks.resources.trans hempty
  · rw [asks, hstage] at hasks
    exact hasks

/-- **Whatever happens**, a task goes on or none does. -/
theorem InOrder.event (h : InOrder n w) (e : FetchEvent n) :
    (∃ t, e = .resume t) ∨ Pauses n e.cancels? w (e.act w) := by
  cases e with
  | read => exact .inr (h.spawn fun _ => .fresh)
  | drop => exact .inr (h.spawn fun _ => .drops)
  | resume t => exact .inl ⟨t, rfl⟩
  | ring t => exact .inr (h.rings t)
  | cancel t => exact .inr (h.cancels t)
  | elsewhere e => exact .inr (h.elsewhere e)

/-! ## One event -/

theorem InOrder.act (h : InOrder n w) (e : FetchEvent n) : InOrder n (e.act w) := by
  rcases h.event e with ⟨t, rfl⟩ | hpauses
  · exact (h.resumes t).1
  · exact hpauses.inOrder

theorem InOrder.balance (h : InOrder n w) (e : FetchEvent n) :
    (e.act w).requests + (w.session n).fetchCount = w.requests + ((e.act w).session n).fetchCount ∧
      w.requests ≤ (e.act w).requests := by
  have hsame : ∀ {w'}, SameBooks n w w' →
      w'.requests + (w.session n).fetchCount = w.requests + (w'.session n).fetchCount ∧ w.requests ≤ w'.requests := by
    intro w' hsame
    rw [hsame.requests, hsame.counts]
    exact ⟨rfl, Nat.le_refl _⟩
  rcases h.event e with ⟨t, rfl⟩ | hpauses
  · show (w.resume t).requests + _ = _ + ((w.resume t).session n).fetchCount ∧ _ ≤ (w.resume t).requests
    rcases (h.resumes t).2.1 with hreads | ⟨-, -, -, requests, counts⟩ | ⟨-, hrests⟩
    · cases hreads with
      | lines begins stage same => exact hsame same
      | leaves stands cancelled ended same => exact hsame same
      | finds foremost kept ended same => exact hsame same
      | asks foremost nothing stage resources requests counts => omega
      | fetches foremost nothing ended resources requests counts => omega
      | gets foremost waited nothing ended resources requests counts => omega
    · omega
    · rw [hrests]
      exact hsame (.refl n w)
  · exact hsame hpauses.same

/-- **What is kept stays** until one that drops it goes on. -/
theorem InOrder.keeps (h : InOrder n w) {items : List Resource} (hkept : (w.session n).resources = some items)
    (e : FetchEvent n) : ((e.act w).session n).resources = some items ∨
      ∃ t, e = .resume t ∧ w.stage? t = some (.fresh (.ofOp dropping)) := by
  rcases h.event e with ⟨t, rfl⟩ | hpauses
  · rcases (h.resumes t).2.1 with hreads | ⟨begins, -⟩ | ⟨-, hrests⟩
    · refine .inl ?_
      cases hreads with
      | lines begins stage same => exact same.resources.trans hkept
      | leaves stands cancelled ended same => exact same.resources.trans hkept
      | finds foremost kept ended same => exact same.resources.trans hkept
      | asks foremost nothing stage resources requests counts => cases nothing.symm.trans hkept
      | fetches foremost nothing ended resources requests counts => cases nothing.symm.trans hkept
      | gets foremost waited nothing ended resources requests counts => cases nothing.symm.trans hkept
    · exact .inr ⟨t, rfl, begins⟩
    · refine .inl ?_
      show ((w.resume t).session n).resources = some items
      rw [hrests]
      exact hkept
  · exact .inl (hpauses.same.resources.trans hkept)

/-- **Nothing is kept, and nobody asks.** -/
structure Lacks (n : Nat) (w : World) : Prop where
  nothing : (w.session n).resources = none
  quiet : ∀ i, w.asks i = false

theorem Lacks.of_same (h : Lacks n w) (hsame : SameBooks n w w') (hasks : ∀ i, w'.asks i = true → w.asks i = true) :
    Lacks n w' :=
  ⟨hsame.resources.trans h.nothing, fun i => Bool.eq_false_iff.mpr fun hnow => by cases (hasks i hnow).symm.trans (h.quiet i)⟩

theorem Others.asks (h : Others t w w') {stage : Stage} (hstage : w'.stage? t = some stage) (hquiet : stage.asks = false)
    (hasks : w'.asks i = true) : w.asks i = true := by
  by_cases hi : i = t
  · subst hi
    rw [World.asks, hstage] at hasks
    cases hquiet.symm.trans hasks
  · rw [← asks_of_called (h i hi)]
    exact hasks

/-- **Nothing is kept until somebody asks again.** -/
theorem Lacks.act (hl : Lacks n w) (h : InOrder n w) (e : FetchEvent n) :
    Lacks n (e.act w) ∨ (e.act w).requests = w.requests + 1 := by
  rcases h.event e with ⟨t, rfl⟩ | hpauses
  · obtain ⟨-, hfares, hothers⟩ := h.resumes t
    rcases hfares with hreads | ⟨-, ended, resources, -, -⟩ | ⟨-, hrests⟩
    · cases hreads with
      | lines begins stage same => exact .inl (hl.of_same same fun i => hothers.asks stage rfl)
      | leaves stands cancelled ended same => exact .inl (hl.of_same same fun i => hothers.asks ended rfl)
      | finds foremost kept ended same => cases hl.nothing.symm.trans kept
      | asks foremost nothing stage resources requests counts => exact .inr requests
      | fetches foremost nothing ended resources requests counts => exact .inr requests
      | gets foremost waited nothing ended resources requests counts =>
        cases (hl.quiet t).symm.trans (asks_eq_true.mpr ⟨_, waited, rfl⟩)
    · refine .inl ⟨resources, fun i => Bool.eq_false_iff.mpr fun hnow => ?_⟩
      cases (hothers.asks ended rfl hnow).symm.trans (hl.quiet i)
    · refine .inl ?_
      show Lacks n (w.resume t)
      rw [hrests]
      exact hl
  · exact .inl (hl.of_same hpauses.same hpauses.asks)

/-- The task was called: it will go through the gate when it goes on. -/
def IsCalled (w : World) (u : Nat) : Prop := ∃ next, w.stage? u = some (.woken (.acquire .fetch) next (.back ()))

theorem IsCalled.granted (hu : w.IsCalled u) (h : Lined n none inside g w) : g.ticket? u = some .granted := by
  obtain ⟨next, hu⟩ := hu
  have hstands := h.stands u _ (fun hnone => by cases hnone) hu
  generalize g.ticket? u = ticket at hstands
  cases hstands
  rfl

/-- **Whoever was called comes next**: nobody asks before it, unless it is cancelled. -/
theorem Lacks.waits (hl : Lacks n w) (h : InOrder n w) (hu : w.IsCalled u) {e : FetchEvent n} (hresume : e ≠ .resume u)
    (hcancel : e ≠ .cancel u) : Lacks n (e.act w) ∧ (e.act w).IsCalled u ∧ (e.act w).requests = w.requests := by
  obtain ⟨next, hstage⟩ := id hu
  rcases h.event e with ⟨t, rfl⟩ | hpauses
  · obtain ⟨inside, hlined⟩ := h.lined
    have hut : u ≠ t := fun hut => hresume (hut ▸ rfl)
    obtain ⟨-, hfares, hothers⟩ := h.resumes t
    have hafter : (w.resume t).IsCalled u := by
      rcases hothers u hut with hsame | ⟨next', hbefore, -⟩
      · exact ⟨next, hsame.trans hstage⟩
      · cases hstage.symm.trans hbefore
    have hnever : ¬Foremost n t w := fun hforemost => (hforemost u hut).1 (hu.granted hlined)
    rcases hfares with hreads | ⟨-, ended, resources, requests, -⟩ | ⟨-, hrests⟩
    · cases hreads with
      | lines begins stage same => exact ⟨hl.of_same same fun i => hothers.asks stage rfl, hafter, same.requests⟩
      | leaves stands cancelled ended same => exact ⟨hl.of_same same fun i => hothers.asks ended rfl, hafter, same.requests⟩
      | finds foremost => exact absurd foremost hnever
      | asks foremost => exact absurd foremost hnever
      | fetches foremost => exact absurd foremost hnever
      | gets foremost => exact absurd foremost hnever
    · refine ⟨⟨resources, fun i => Bool.eq_false_iff.mpr fun hnow => ?_⟩, hafter, requests⟩
      cases (hothers.asks ended rfl hnow).symm.trans (hl.quiet i)
    · show Lacks n (w.resume t) ∧ (w.resume t).IsCalled u ∧ (w.resume t).requests = w.requests
      rw [hrests]
      exact ⟨hl, hu, rfl⟩
  · refine ⟨hl.of_same hpauses.same hpauses.asks, ⟨next, hpauses.others u _ (fun hwho => ?_) hstage rfl⟩, hpauses.same.requests⟩
    cases e with
    | cancel t =>
      cases hwho
      exact hcancel rfl
    | _ => cases hwho

/-- **Whoever was called asks on going on**, if nothing is kept. -/
theorem Lacks.asksNext (hl : Lacks n w) (h : InOrder n w) (hu : w.IsCalled u) :
    (w.resume u).requests = w.requests + 1 := by
  obtain ⟨next, hstage⟩ := hu
  rcases (h.resumes u).2.1 with hreads | ⟨begins, -⟩ | ⟨waits, -⟩
  · cases hreads with
    | lines begins => cases hstage.symm.trans begins
    | leaves stands cancelled =>
      cases hstage.symm.trans stands
      cases cancelled
    | finds foremost kept => cases hl.nothing.symm.trans kept
    | asks foremost nothing stage resources requests => exact requests
    | fetches foremost nothing ended resources requests => exact requests
    | gets foremost waited => cases hstage.symm.trans waited
  · cases hstage.symm.trans begins
  · cases waits _ hstage

/-- **The line moves**: where nobody asks, whoever stands first in it was called, or was cancelled and will leave it. -/
theorem InOrder.first (h : InOrder n w) (hquiet : ∀ i, w.asks i = false)
    (hu : ((w.session n).fetchGate.queue.map Prod.fst).head? = some u) :
    w.IsCalled u ∨ ∃ stage, w.stage? u = some stage ∧ stage.isBroken = true := by
  obtain ⟨⟨inside, hlined⟩, hprompt⟩ := h
  have hinside : inside = none := by
    cases inside with
    | none => rfl
    | some i => cases (hquiet i).symm.trans ((hlined.asks_iff fun hnone => by cases hnone).mpr rfl)
  have hfree : (w.session n).fetchGate.held = false := by rw [hlined.held, hinside]; rfl
  rw [List.head?_map] at hu
  obtain ⟨⟨u, ticket⟩, hhead, rfl⟩ := Option.map_eq_some_iff.mp hu
  have hnot : ticket ≠ .waiting := fun hwaits => hprompt hfree u (hwaits ▸ hhead)
  obtain ⟨rest, hqueue⟩ := List.head?_eq_some_iff.mp hhead
  have hticket : (w.session n).fetchGate.ticket? u = some ticket := by
    rw [Gate.ticket?, hqueue, List.lookup_cons_self]
  obtain ⟨stage, hstage⟩ := stage?_of_lt (hlined.line u fun hnone => by cases hnone.symm.trans hticket)
  have hstands := hlined.stands u stage (fun hnone => by cases hnone) hstage
  rw [hticket] at hstands
  cases hstands with
  | inLine => exact absurd rfl hnot
  | called hout goes => exact .inl ⟨_, hstage⟩
  | givesUp hout gone goes => exact .inr ⟨_, hstage, rfl⟩

/-! ## Any number of events -/

section Events

variable {es : List (FetchEvent n)}

theorem InOrder.after (h : InOrder n w) (es : List (FetchEvent n)) : InOrder n (w.afterFetches es) := by
  induction es generalizing w with
  | nil => exact h
  | cons e rest ih => exact ih (h.act e)

theorem InOrder.balance_after (h : InOrder n w) (es : List (FetchEvent n)) :
    (w.afterFetches es).requests + (w.session n).fetchCount =
      w.requests + ((w.afterFetches es).session n).fetchCount ∧ w.requests ≤ (w.afterFetches es).requests := by
  induction es generalizing w with
  | nil => exact ⟨rfl, Nat.le_refl _⟩
  | cons e rest ih =>
    obtain ⟨hbalance, hmore⟩ := h.balance e
    obtain ⟨hrest, hrestMore⟩ := ih (h.act e)
    have hcons : w.afterFetches (e :: rest) = (e.act w).afterFetches rest := rfl
    rw [hcons]
    omega

/-- **Something was dropped** where nothing is kept any more. -/
theorem InOrder.dropped (h : InOrder n w) {items : List Resource} (hkept : (w.session n).resources = some items)
    (hnone : ((w.afterFetches es).session n).resources = none) : ∃ before i later, es = before ++ .resume i :: later ∧
      (w.afterFetches before).stage? i = some (.fresh (.ofOp dropping)) := by
  induction es generalizing w with
  | nil => cases hkept.symm.trans hnone
  | cons e rest ih =>
    rcases h.keeps hkept e with hstill | ⟨t, rfl, hdrops⟩
    · obtain ⟨before, i, later, rfl, hdrops⟩ := ih (h.act e) hstill hnone
      exact ⟨e :: before, i, later, rfl, hdrops⟩
    · exact ⟨[], t, rest, rfl, hdrops⟩

theorem Lacks.after (hl : Lacks n w) (h : InOrder n w) (hsame : (w.afterFetches es).requests = w.requests) :
    Lacks n (w.afterFetches es) := by
  induction es generalizing w with
  | nil => exact hl
  | cons e rest ih =>
    have hsame : ((e.act w).afterFetches rest).requests = w.requests := hsame
    have hmore : w.requests ≤ (e.act w).requests := (h.balance e).2
    have hrestMore := ((h.act e).balance_after rest).2
    have hnow : (e.act w).requests = w.requests := by omega
    rcases hl.act h e with hstill | hasks
    · exact ih hstill (h.act e) (hsame.trans hnow.symm)
    · omega

theorem Lacks.waits_after (hl : Lacks n w) (h : InOrder n w) (hu : w.IsCalled u)
    (hes : ∀ e ∈ es, e ≠ .resume u ∧ e ≠ .cancel u) : Lacks n (w.afterFetches es) ∧ (w.afterFetches es).IsCalled u ∧
      (w.afterFetches es).requests = w.requests := by
  induction es generalizing w with
  | nil => exact ⟨hl, hu, rfl⟩
  | cons e rest ih =>
    obtain ⟨hresume, hcancel⟩ := hes e List.mem_cons_self
    obtain ⟨hstill, hcalled, hsame⟩ := hl.waits h hu hresume hcancel
    obtain ⟨hlacks, hwaits, hrest⟩ := ih hstill (h.act e) hcalled fun e' he' => hes e' (List.mem_cons_of_mem _ he')
    exact ⟨hlacks, hwaits, hrest.trans hsame⟩

end Events

/-! ## A request that ends -/

/-- **A request of a task ends**: the task goes on and ends with what came of a request that it made before, or makes
now. -/
structure Concludes (w : World) (t : Nat) (r : Except Exit (List Resource)) : Prop where
  asked : w.asks t = true ∨ (w.resume t).requests = w.requests + 1
  ended : (w.resume t).stage? t = some (.ended (r.map .resources))

theorem map_resources_inj {r r' : Except Exit (List Resource)} (h : r.map Result.resources = r'.map Result.resources) :
    r = r' := by
  cases r <;> cases r' <;> cases h <;> rfl

theorem Concludes.comes {r : Except Exit (List Resource)} (hc : Concludes w t r) (h : InOrder n w) :
    (w.session n).resources = none ∧ ((w.resume t).session n).resources = r.toOption ∧ (∃ answer, r = gets answer) ∧
      ∀ i, (w.resume t).asks i = false := by
  obtain ⟨⟨inside, hlined⟩, -⟩ := id h
  obtain ⟨-, hfares, hothers⟩ := h.resumes t
  have hquiet : Foremost n t w → ∀ i, (w.resume t).asks i = false := fun hforemost i =>
    Bool.eq_false_iff.mpr fun hasks => by
      by_cases hi : i = t
      · subst hi
        obtain ⟨stage, hstage, hnow⟩ := asks_eq_true.mp hasks
        cases hstage.symm.trans hc.ended
        cases hnow
      · cases (asks_of_called (hothers i hi) ▸ hasks).symm.trans (hforemost i hi).2
  -- It asked before or asks now: so it neither stands still nor finds anything.
  have hsame : SameBooks n w (w.resume t) → w.asks t = true := fun hsame => by
    rcases hc.asked with hasks | hmore
    · exact hasks
    · have := hsame.requests
      omega
  have hstands : ∀ {stage}, w.stage? t = some stage → stage.asks = false → w.asks t ≠ true := by
    intro stage hstage hnot hasks
    obtain ⟨stage', hstage', hnow⟩ := asks_eq_true.mp hasks
    cases hstage.symm.trans hstage'
    cases hnot.symm.trans hnow
  rcases hfares with hreads | ⟨begins, -, -, requests, -⟩ | ⟨waits, hrests⟩
  · cases hreads with
    | lines begins stage same => cases stage.symm.trans hc.ended
    | @leaves before stands cancelled ended same =>
      refine absurd (hsame same) (hstands stands ?_)
      unfold Stage.isBroken at cancelled
      split at cancelled <;> first | rfl | cases cancelled
    | finds foremost kept ended same =>
      have hinside := (hlined.asks_iff fun hnone => by cases hnone).mp (hsame same)
      cases kept.symm.trans (hlined.empty t hinside fun hnone => by cases hnone)
    | asks foremost nothing stage => cases stage.symm.trans hc.ended
    | fetches foremost nothing ended resources requests counts =>
      obtain rfl := map_resources_inj (Stage.ended.inj (Option.some.inj (ended.symm.trans hc.ended)))
      exact ⟨nothing, resources, ⟨_, rfl⟩, hquiet foremost⟩
    | gets foremost waited nothing ended resources requests counts =>
      obtain rfl := map_resources_inj (Stage.ended.inj (Option.some.inj (ended.symm.trans hc.ended)))
      exact ⟨nothing, resources, ⟨_, rfl⟩, hquiet foremost⟩
  · rcases hc.asked with hasks | hmore
    · exact absurd hasks (hstands begins rfl)
    · omega
  · rw [hrests] at hsame
    have hended := hc.ended
    rw [hrests] at hended
    exact absurd (hsame (.refl n w)) (hstands hended rfl)

/-- How a request fails: its task was cancelled, or the outcome makes a fault, which is one of reading the resources if
the service, or the way to it, is what failed. -/
def FailsBy (e : Exit) : Prop :=
  e = .cancelled ∨ ∃ (o : Outcome) (f : Fault), o.resources = .error f ∧ e = .fault f ∧
    (o.isReply = true → ∃ g, f = .client (.service g) ∧ g.kind = .resourceFetch)

theorem failsBy_of_gets {answer : Waited Outcome} {e : Exit} (h : gets answer = .error e) : FailsBy e := by
  cases answer with
  | cancelled =>
    cases h
    exact .inl rfl
  | back o =>
    have h : o.resources.mapError Exit.fault = .error e := h
    cases hresources : o.resources with
    | ok items =>
      rw [hresources] at h
      cases h
    | error f =>
      rw [hresources] at h
      cases h
      exact .inr ⟨o, f, hresources, rfl, fun hreply => Core.resources_of_isReply hreply hresources⟩

/-! ## Readers share one fetch -/

/-- **What holds of the readers of a session**, in a world that has come of another. -/
structure Shares (n : Nat) (w v : World) : Prop where
  /-- At most one request is under way, and nothing is kept meanwhile. -/
  single : ∀ t u, v.asks t = true → v.asks u = true → t = u
  empty : ∀ t, v.asks t = true → (v.session n).resources = none
  /-- As many fetches were counted as requests were sent. -/
  counted : v.requests + (w.session n).fetchCount = w.requests + (v.session n).fetchCount
  /-- Whoever goes on does as it should, and nobody else is touched but by being called. -/
  fares : ∀ t, Fares n t v (v.resume t) ∧ Others t v (v.resume t)
  /-- Whoever comes to something that is kept gets that and asks nothing. -/
  cached : ∀ t items, (v.session n).resources = some items → (v.resume t).requests = v.requests ∧
    ∀ r, (∀ r', v.stage? t ≠ some (.ended r')) → (v.resume t).stage? t = some (.ended (.ok (.resources r))) → r = items
  /-- Between two requests of which something is kept something was dropped. -/
  once : ∀ t u items items' (es : List (FetchEvent n)), Concludes v t (.ok items) →
    Concludes ((v.resume t).afterFetches es) u (.ok items') → ∃ before i later, es = before ++ .resume i :: later ∧
      ((v.resume t).afterFetches before).stage? i = some (.fresh (.ofOp dropping))
  /-- A request that fails does so by a fault of reading the resources, and nothing is kept until somebody asks again.
  Whoever stands first in line then was cancelled, or it asks as soon as it goes on, whatever happens before. -/
  fails : ∀ t e, Concludes v t (.error e) → FailsBy e ∧ ((v.resume t).session n).resources = none ∧
    (∀ es : List (FetchEvent n), ((v.resume t).afterFetches es).requests = (v.resume t).requests →
      (((v.resume t).afterFetches es).session n).resources = none) ∧
    ∀ u, (((v.resume t).session n).fetchGate.queue.map Prod.fst).head? = some u →
      (∃ stage, (v.resume t).stage? u = some stage ∧ stage.isBroken = true) ∨
      ∀ es : List (FetchEvent n), (∀ e ∈ es, e ≠ .resume u ∧ e ≠ .cancel u) →
        (((v.resume t).afterFetches es).resume u).requests = (v.resume t).requests + 1

theorem InOrder.cached (h : InOrder n w) {items r : List Resource} (hkept : (w.session n).resources = some items)
    (hgoes : ∀ r', w.stage? t ≠ some (.ended r')) (hended : (w.resume t).stage? t = some (.ended (.ok (.resources r)))) :
    r = items := by
  rcases (h.resumes t).2.1 with hreads | ⟨-, ended, -⟩ | ⟨waits, hrests⟩
  · cases hreads with
    | lines begins stage => cases stage.symm.trans hended
    | leaves stands cancelled ended => cases ended.symm.trans hended
    | finds foremost kept ended =>
      cases kept.symm.trans hkept
      cases ended.symm.trans hended
      rfl
    | asks foremost nothing => cases nothing.symm.trans hkept
    | fetches foremost nothing => cases nothing.symm.trans hkept
    | gets foremost waited nothing => cases nothing.symm.trans hkept
  · cases ended.symm.trans hended
  · rw [hrests] at hended
    exact absurd hended (hgoes _)

theorem InOrder.asksNothing (h : InOrder n w) {items : List Resource} (hkept : (w.session n).resources = some items) (t : Nat) :
    (w.resume t).requests = w.requests := by
  rcases (h.resumes t).2.1 with hreads | ⟨-, -, -, requests, -⟩ | ⟨-, hrests⟩
  · cases hreads with
    | lines begins stage same => exact same.requests
    | leaves stands cancelled ended same => exact same.requests
    | finds foremost kept ended same => exact same.requests
    | asks foremost nothing => cases nothing.symm.trans hkept
    | fetches foremost nothing => cases nothing.symm.trans hkept
    | gets foremost waited nothing => cases nothing.symm.trans hkept
  · exact requests
  · rw [hrests]

/-- **Readers share one fetch**, whatever happens and in whatever order they go on. -/
theorem readers_share_fetch (hknown : n < w.sessions.length) (htasks : w.tasks = []) (hgate : (w.session n).fetchGate = {})
    (es : List (FetchEvent n)) : Shares n w (w.afterFetches es) := by
  have hstart : InOrder n w :=
    inOrder_of (Lined.start hknown htasks) (fun _ u hu => by cases hu) hgate
  have h := hstart.after es
  obtain ⟨⟨inside, hlined⟩, -⟩ := id h
  refine ⟨fun t u ht hu => ?_, fun t ht => ?_, (hstart.balance_after es).1, fun t => (h.resumes t).2, fun t items hkept => ?_,
    fun t u items items' es' ht hu => ?_, fun t e ht => ?_⟩
  · have ht := (hlined.asks_iff fun hnone => by cases hnone).mp ht
    have hu := (hlined.asks_iff fun hnone => by cases hnone).mp hu
    exact Option.some.inj (ht.symm.trans hu)
  · exact hlined.empty t ((hlined.asks_iff fun hnone => by cases hnone).mp ht) fun hnone => by cases hnone
  · exact ⟨h.asksNothing hkept t, fun r hgoes hended => h.cached hkept hgoes hended⟩
  · have hafter := (h.resumes t).1
    exact hafter.dropped (ht.comes h).2.1 (hu.comes (hafter.after es')).1
  · have hafter := (h.resumes t).1
    obtain ⟨-, hnothing, ⟨answer, hanswer⟩, hquiet⟩ := ht.comes h
    have hlacks : Lacks n ((w.afterFetches es).resume t) := ⟨hnothing, hquiet⟩
    refine ⟨failsBy_of_gets hanswer.symm, hnothing, fun es' hsame => (hlacks.after hafter hsame).nothing, fun u hu => ?_⟩
    rcases hafter.first hquiet hu with hcalled | hcancelled
    · refine .inr fun es' hes => ?_
      obtain ⟨hstill, hwaits, hsame⟩ := hlacks.waits_after hafter hcalled hes
      rw [hstill.asksNext (hafter.after es') hwaits, hsame]
    · exact .inl hcancelled

/-- A service that cannot be reached at first, and then gives a document with one resource. -/
def threeReaders : World where
  sessions := [{}]
  script :=
    { routes := [(Call.getResources.message.route,
        [⟨.unreachable "ConnectError" "down", 1⟩, { Script.answering "\x7b\"DatabaseName\":\"db\"\x7d" with delay := 1 }])] }

/-- Three readers come; the first asks and is not answered, the second asks again, and the third finds what that got. -/
def threeReadings : List (FetchEvent 0) :=
  [.read, .read, .read, .resume 0, .resume 1, .resume 2, .ring 0, .resume 0, .resume 1, .ring 1, .resume 1, .resume 2]

/-- The resources that a task ended with. -/
def given? (w : World) (t : Nat) : Option (List Resource) :=
  match w.resultOf t with
  | some (.ok (.resources items)) => some items
  | _ => none

/-- Two requests serve three readers, of which the first fails. -/
theorem three_share_two_requests : (threeReaders.afterFetches threeReadings).requests = 2 ∧
    (threeReaders.afterFetches threeReadings).hasEnded 0 = true ∧
    [0, 1, 2].map (threeReaders.afterFetches threeReadings).given? =
      [none, some [{ kind := .database, name := "db" }], some [{ kind := .database, name := "db" }]] ∧
    Shares 0 threeReaders (threeReaders.afterFetches threeReadings) :=
  ⟨by decide +kernel, by decide +kernel, by decide +kernel, readers_share_fetch (by decide) rfl rfl threeReadings⟩

end Cutover.World
