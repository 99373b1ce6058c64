import Cutover.Proofs.World.InTurn
import Cutover.Proofs.World.Readers

/-!
# Readers that go on

A reader of the resources works from where it stands until it ends, stands in line or waits for the answer.

* `World.InOrder`: the readers of a session stand in order, and the gate lets nobody wait for nothing;
* `World.Reads`: **how a reader goes on**: it stands in line, gives up, finds what is kept, asks, or gets an answer;
* `World.Sees.stops`, `World.Stopped.reads`: every reader that works stops so;
* `World.InOrder.resumes`: **whoever goes on does as it should**, and leaves the others in order.
-/

namespace Cutover

/-- The task was cancelled before it began, or while it stood in line. -/
def Stage.isBroken : Stage → Bool
  | .fresh (.done (.error .cancelled)) => true
  | .woken (.acquire .fetch) _ .cancelled => true
  | _ => false

/-- The task can go on. -/
def Stage.canGoOn : Stage → Bool
  | .fresh _ => true
  | .woken _ _ _ => true
  | _ => false

namespace World

open Sharing

variable {n i t : Nat} {inside : Option Nat} {g : Gate} {w w' w₀ : World} {s s₀ : Sharing} {stage : Stage}

/-! ## How a reader stops -/

theorem Lined.wakeWatcher (h : Lined n none inside g w) (r : Except Exit Unit) (i : Nat) : wakeWatcher r w i = w := by
  unfold World.wakeWatcher
  split
  next other next alarm hi =>
    have hstands := h.stands i _ (fun hnone => by cases hnone) hi
    generalize g.ticket? i = ticket at hstands
    cases hstands
  next => rfl

theorem Lined.finish (h : Lined n (some t) inside g w) (hout : inside ≠ some t) (r : Except Exit Result) :
    w.finish t r = w.setStage t (.ended r) ∧ Lined n none inside g (w.setStage t (.ended r)) := by
  obtain ⟨hlt, hticket⟩ := h.working t rfl
  have hended : Lined n none inside g (w.setStage t (.ended r)) := by
    refine h.settles rfl rfl rfl h.orderly rfl (fun _ _ => rfl) ?_ fun hinside => absurd hinside hout
    rw [hticket]
    exact .ended hout
  refine ⟨?_, hended⟩
  unfold World.finish
  generalize ((w.tasks[t]?).map Task.watchers).getD [] = watchers
  induction watchers with
  | nil => rfl
  | cons first rest ih =>
    rw [List.foldl_cons, hended.wakeWatcher]
    exact ih

/-- The books of a session are as they were: what is kept, what was asked and what was counted. -/
structure SameBooks (n : Nat) (w w' : World) : Prop where
  resources : (w'.session n).resources = (w.session n).resources
  requests : w'.requests = w.requests
  counts : (w'.session n).fetchCount = (w.session n).fetchCount

theorem SameBooks.refl (n : Nat) (w : World) : SameBooks n w w := ⟨rfl, rfl, rfl⟩

theorem SameBooks.trans {w'' : World} (h : SameBooks n w w') (h' : SameBooks n w' w'') : SameBooks n w w'' :=
  ⟨h'.resources.trans h.resources, h'.requests.trans h.requests, h'.counts.trans h.counts⟩

theorem sameBooks_of_session (hsession : ∃ fetchGate, w'.session n = { w.session n with fetchGate })
    (hsent : w'.sent = w.sent) : SameBooks n w w' := by
  obtain ⟨fetchGate, hsession⟩ := hsession
  refine ⟨by rw [hsession], ?_, by rw [hsession]⟩
  rw [World.requests, hsent, World.requests]

/-- How the service answers the next request for the resources. -/
def nextAnswer (w : World) : Waited Outcome := .back (w.script.next Call.getResources.message).1.outcome

/-- **Where a reader has stopped**: it has ended, stands in line, or waits for the answer. -/
inductive Stopped (n t : Nat) (s₀ : Sharing) (w₀ w' : World) : Prop
  | ended {r : Except Exit (List Resource)} {s : Sharing} {w : World} (sees : Sees n t s₀ w₀ s w) (comes : Yields r s)
    (stage : w'.stage? t = some (.ended (r.map .resources))) (same : SameBooks n w w')
  | lines {w : World} {next : Waited Unit → Job} (sees : Sees n t s₀ w₀ { site := w.site n } w)
    (stage : w'.stage? t = some (.waiting (.acquire .fetch) next none)) (same : SameBooks n w w')
  | asks {w : World} {next : Waited Outcome → Job} {due : Int} (sees : Sees n t s₀ w₀ (Sharing.ready (w.site n)) w)
    (stage : w'.stage? t = some (.waiting (.send Call.getResources.message) next (some ⟨due, w.nextAnswer⟩)))
    (resources : (w'.session n).resources = none)
    (requests : w'.requests = w.requests + 1) (counts : (w'.session n).fetchCount = (w.session n).fetchCount)

/-- The readers of a session are in order, with the gate as it is. -/
structure InOrder (n : Nat) (w : World) : Prop where
  lined : ∃ inside, Lined n none inside (w.session n).fetchGate w
  prompt : (w.session n).fetchGate.Prompt

theorem inOrder_of (h : Lined n none inside g w) (hprompt : g.Prompt) (hg : (w.session n).fetchGate = g) : InOrder n w :=
  ⟨⟨inside, hg ▸ h⟩, hg ▸ hprompt⟩

theorem Sees.others_setStage (h : Sees n t s₀ w₀ s w) (htasks : w'.tasks = w.tasks) (hi : i ≠ t) (stage : Stage) :
    (w'.setStage t stage).stage? i = w₀.stage? i ∨ Called w₀ (w'.setStage t stage) i := by
  have hother : (w'.setStage t stage).stage? i = w.stage? i := by
    rw [stage?_setStage_ne hi.symm, World.stage?, htasks, World.stage?]
  rcases h.others i hi with hsame | ⟨next, hbefore, hafter⟩
  · exact .inl (hother.trans hsame)
  · exact .inr ⟨next, hbefore, hother.trans hafter⟩

/-- **A reader that does not come through the gate stands in line.** -/
theorem Sees.lines {next : Waited Unit → Job} {alarm : Option (Alarm (Waited Unit))} (h : Sees n t s₀ w₀ s w)
    (hfresh : s = { site := s.site }) (hnext : GoesIn next) (hwait : w.acquire t .fetch = (w', .wait alarm)) :
    InOrder n (w'.setStage t (.waiting (.acquire .fetch) next alarm)) ∧
      Stopped n t s₀ w₀ (w'.setStage t (.waiting (.acquire .fetch) next alarm)) ∧ w'.tasks = w.tasks := by
  obtain ⟨inside, hlined, hinside⟩ := h.lined
  obtain ⟨hlt, hticket⟩ := hlined.working t rfl
  obtain ⟨task, htask⟩ : ∃ task, w.tasks[t]? = some task := ⟨_, List.getElem?_eq_getElem hlt⟩
  have hout : inside ≠ some t := fun hsome => by
    have hmine := hinside.mpr hsome
    rw [hfresh] at hmine
    cases hmine
  rw [World.acquire, h.sessionOf] at hwait
  split at hwait
  next => cases hwait
  next hclosed =>
    cases hwait
    have hsession : (w.onSession n fun s => s.setGate ((s.gate .fetch).queueUp t) .fetch).session n =
        { w.session n with fetchGate := (w.session n).fetchGate.queueUp t } := session_onSession h.known _
    have hstart : s = { site := w.site n } := hfresh.trans (by rw [h.site])
    have hstands : Sharing.Placed (inside = some t) (((w.session n).fetchGate.queueUp t).ticket? t)
        (.waiting (.acquire .fetch) next none) := by
      rw [Gate.ticket?_queueUp hticket, if_pos rfl]
      exact .inLine hout hnext
    have hlength : (w.onSession n fun s => s.setGate ((s.gate .fetch).queueUp t) .fetch).sessions.length =
        w.sessions.length := by rw [onSession, List.length_set]
    have hlines := hlined.settles hlength rfl (by rw [hsession]) (hlined.orderly.queueUp hticket) rfl
      (fun j hj => by rw [Gate.ticket?_queueUp hticket, if_neg hj]) hstands fun hinside => absurd hinside hout
    exact ⟨inOrder_of hlines (h.prompt.queueUp hclosed t) (congrArg Session.fetchGate hsession), .lines (hstart ▸ h)
      (stage?_setStage_self (by exact htask)) (sameBooks_of_session ⟨_, hsession⟩ rfl), rfl⟩

/-- **A reader that asks waits for the answer.** -/
theorem Sees.asks {next : Waited Outcome → Job} {alarm : Option (Alarm (Waited Outcome))} (h : Sees n t s₀ w₀ s w)
    (hnone : s.site.session.resources = none)
    (hready : s = { site := s.site, inside := true, found := some none, counted := 1 }) (hnext : GoesOn next)
    (hwait : w.perform t (.send Call.getResources.message) = (w', .wait alarm)) :
    InOrder n (w'.setStage t (.waiting (.send Call.getResources.message) next alarm)) ∧
      Stopped n t s₀ w₀ (w'.setStage t (.waiting (.send Call.getResources.message) next alarm)) ∧ w'.tasks = w.tasks := by
  obtain ⟨inside, hlined, hinside⟩ := h.lined
  obtain ⟨hlt, hticket⟩ := hlined.working t rfl
  obtain ⟨task, htask⟩ : ∃ task, w.tasks[t]? = some task := ⟨_, List.getElem?_eq_getElem hlt⟩
  have hmine : inside = some t := hinside.mp (by rw [hready])
  have hstart : s = Sharing.ready (w.site n) := hready.trans (by rw [h.site, Sharing.ready])
  rw [h.session] at hnone
  have hrequests : w'.requests = w.requests + 1 := by
    have hasked := requests_perform w t (.send Call.getResources.message)
    rw [hwait] at hasked
    exact hasked
  have hwait : w.send Call.getResources.message = (w', .wait alarm) := hwait
  rw [World.send] at hwait
  dsimp only at hwait
  split at hwait
  next => cases hwait
  next =>
    cases hwait
    have hstands : ∀ alarm, Sharing.Placed (inside = some t) ((w.session n).fetchGate.ticket? t)
        (.waiting (.send Call.getResources.message) next alarm) := by
      rw [hticket]
      exact fun alarm => .asks hmine hnext
    refine ⟨⟨⟨inside, ?_⟩, h.prompt⟩, .asks (hstart ▸ h) (stage?_setStage_self (by exact htask)) hnone hrequests rfl, rfl⟩
    exact hlined.settles rfl rfl rfl hlined.orderly rfl (fun _ _ => rfl) (hstands _) fun _ => hnone

/-- **A reader that works stops somewhere**, and leaves the others in order. -/
theorem Sees.stops (h : Stretches sharing Ends (Sees n t s₀ w₀) t w') :
    InOrder n w' ∧ Stopped n t s₀ w₀ w' ∧ ∀ i, i ≠ t → w'.stage? i = w₀.stage? i ∨ Called w₀ w' i := by
  cases h with
  | @ends r s w hsees hpost =>
    obtain ⟨r', rfl, hcomes⟩ := hpost
    obtain ⟨inside, hlined, hinside⟩ := hsees.lined
    have hout : inside ≠ some t := fun hsome => by
      cases (hinside.mpr hsome).symm.trans hcomes.outside
    have hconclude : w.conclude t (r'.map fun items => Outturn.result (.resources items)) =
        w.finish t (r'.map .resources) := by
      cases r' <;> rfl
    obtain ⟨hfinish, hended⟩ := hlined.finish hout (r'.map .resources)
    rw [hconclude, hfinish]
    obtain ⟨task, htask⟩ : ∃ task, w.tasks[t]? = some task := ⟨_, List.getElem?_eq_getElem hsees.lt⟩
    exact ⟨⟨⟨inside, hended⟩, hsees.prompt⟩, .ended hsees hcomes (stage?_setStage_self htask) ⟨rfl, rfl, rfl⟩, fun i hi =>
      hsees.others_setStage rfl hi _⟩
  | @waits s w w'' e next alarm hsees hmeets hwaits =>
    obtain ⟨hallows, hnext⟩ := hmeets
    cases e with
    | look => cases hwaits
    | change y => cases hwaits
    | acquire name =>
      cases name with
      | state => exact absurd hallows id
      | fetch =>
        have hallows : s = { site := s.site } := hallows
        have hgoes : GoesIn next := by
          rw [hallows] at hnext
          exact ⟨fun x => hnext (.back ()) _ ⟨x, rfl⟩, fun x => hnext .cancelled _ ⟨x, rfl⟩⟩
        obtain ⟨horder, hstopped, htasks⟩ := hsees.lines hallows hgoes hwaits
        exact ⟨horder, hstopped, fun i hi => hsees.others_setStage htasks hi _⟩
    | release name =>
      cases name with
      | state => exact absurd hallows id
      | fetch => cases hwaits
    | send m =>
      obtain ⟨rfl, hnone, hready⟩ := hallows
      have hgoes : GoesOn next := by
        rw [hready] at hnext
        exact fun answer x hx => hnext answer _ ⟨x, hx, rfl⟩
      obtain ⟨horder, hstopped, htasks⟩ := hsees.asks hnone hready hgoes hwaits
      exact ⟨horder, hstopped, fun i hi => hsees.others_setStage htasks hi _⟩
    | _ => exact absurd hallows id

/-! ## How a reader goes on -/

/-- **How a reader goes on.** -/
inductive Reads (n t : Nat) (w w' : World) : Prop
  /-- It finds the gate closed and stands in line. -/
  | lines {next : Waited Unit → Job} (begins : w.stage? t = some (.fresh (.ofOp fetching)))
    (stage : w'.stage? t = some (.waiting (.acquire .fetch) next none)) (same : SameBooks n w w')
  /-- It was cancelled before it came through the gate. -/
  | leaves {before : Stage} (stands : w.stage? t = some before) (cancelled : before.isBroken = true)
    (ended : w'.stage? t = some (.ended (.error .cancelled))) (same : SameBooks n w w')
  /-- It comes through the gate and finds what is kept, which it gets without asking. -/
  | finds {items : List Resource} (foremost : Foremost n t w) (kept : (w.session n).resources = some items)
    (ended : w'.stage? t = some (.ended (.ok (.resources items)))) (same : SameBooks n w w')
  /-- It comes through the gate and finds nothing, so that it asks and waits for the answer. -/
  | asks {next : Waited Outcome → Job} {due : Int} (foremost : Foremost n t w) (nothing : (w.session n).resources = none)
    (stage : w'.stage? t = some (.waiting (.send Call.getResources.message) next (some ⟨due, w.nextAnswer⟩)))
    (resources : (w'.session n).resources = none) (requests : w'.requests = w.requests + 1)
    (counts : (w'.session n).fetchCount = (w.session n).fetchCount + 1)
  /-- It asks and is answered at once. -/
  | fetches (foremost : Foremost n t w) (nothing : (w.session n).resources = none)
    (ended : w'.stage? t = some (.ended ((gets w.nextAnswer).map .resources)))
    (resources : (w'.session n).resources = (gets w.nextAnswer).toOption) (requests : w'.requests = w.requests + 1)
    (counts : (w'.session n).fetchCount = (w.session n).fetchCount + 1)
  /-- It gets the answer to what it asked before, or was cancelled while it waited. -/
  | gets {next : Waited Outcome → Job} {answer : Waited Outcome} (foremost : Foremost n t w)
    (waited : w.stage? t = some (.woken (.send Call.getResources.message) next answer))
    (nothing : (w.session n).resources = none)
    (ended : w'.stage? t = some (.ended ((gets answer).map .resources)))
    (resources : (w'.session n).resources = (gets answer).toOption) (requests : w'.requests = w.requests)
    (counts : (w'.session n).fetchCount = (w.session n).fetchCount)

/-- What a reader knows when it goes on, in the world in which it works then. -/
inductive SetsOff (n t : Nat) (w w₀ : World) : Sharing → Prop
  | fresh (begins : w.stage? t = some (.fresh (.ofOp fetching))) : SetsOff n t w w₀ { site := w₀.site n }
  | called {next : Waited Unit → Job} (waited : w.stage? t = some (.woken (.acquire .fetch) next (.back ()))) :
    SetsOff n t w w₀ { site := w₀.site n, inside := true, found := some (w₀.session n).resources }
  | gone {next : Waited Unit → Job} (cancelled : w.stage? t = some (.woken (.acquire .fetch) next .cancelled)) :
    SetsOff n t w w₀ { site := w₀.site n, reply := some .cancelled }
  | answered {next : Waited Outcome → Job} {answer : Waited Outcome}
    (waited : w.stage? t = some (.woken (.send Call.getResources.message) next answer)) :
    SetsOff n t w w₀ (Sharing.answered (w₀.site n) answer)

/-- The world in which a reader works when it goes on: it may have gone through the gate, or left its line. -/
structure Settled (n t : Nat) (w w₀ : World) : Prop where
  same : SameBooks n w w₀
  script : w₀.script = w.script
  foremost : Foremost n t w₀ → Foremost n t w

theorem Settled.refl (n t : Nat) (w : World) : Settled n t w w := ⟨.refl n w, rfl, id⟩

theorem sees_start (hlined : Lined n (some t) inside (w₀.session n).fetchGate w₀)
    (hprompt : (w₀.session n).fetchGate.Prompt) (hinside : s₀.inside = true ↔ inside = some t)
    (hsite : s₀.site = w₀.site n) (hapart : s₀.found = none → s₀.inside = false)
    (hfound : ∀ r, s₀.found = some r → r = (w₀.session n).resources ∧ Foremost n t w₀) : Sees n t s₀ w₀ s₀ w₀ where
  lined := ⟨inside, hlined, hinside⟩
  prompt := hprompt
  site := hsite
  requests := rfl
  counts := rfl
  others _ _ := .inl rfl
  apart := hapart
  gate _ := rfl
  kept _ := rfl
  found := hfound
  line h := h
  entered h h' := absurd h' h
  since := Nat.le_refl _
  quiet _ := ⟨rfl, rfl⟩
  spoken h := absurd rfl h

theorem SetsOff.balance (h : SetsOff n t w w₀ s₀) : s₀.counted = s₀.asked := by cases h <;> rfl

/-- **A reader that has ended got what it should.** -/
theorem Sees.reads {r : Except Exit (List Resource)} {v : World} (h : Sees n t s₀ w₀ s v) (hcomes : Yields r s)
    (hsetsOff : SetsOff n t w w₀ s₀) (hsettled : Settled n t w w₀)
    (hended : w'.stage? t = some (.ended (r.map .resources))) (hsame : SameBooks n v w') : Reads n t w w' := by
  have hrequests := h.requests
  have hcounts := h.counts
  have hcounted := hcomes.counted
  have hbalance := hsetsOff.balance
  have hsince := h.since
  have hresources : s.site.session.resources = (w'.session n).resources := by rw [h.session, hsame.resources]
  cases hfound : s.found with
  | none =>
    obtain ⟨rfl, hasked, hreply⟩ := hcomes.cancelled hfound
    have hreply₀ : s₀.reply = some .cancelled := (h.quiet (by omega)).2.symm.trans hreply
    have hfound₀ := h.line hfound
    cases hsetsOff with
    | gone cancelled =>
      refine .leaves cancelled rfl hended (hsettled.same.trans (.trans ⟨h.kept hfound, ?_, ?_⟩ hsame)) <;>
        dsimp only at hrequests hcounts <;> omega
    | fresh begins => cases hreply₀
    | called waited => cases hreply₀
    | answered waited => cases hfound₀
  | some kept =>
    obtain ⟨rfl, hforemost⟩ := h.found kept hfound
    have hforemost := hsettled.foremost hforemost
    cases hkept : (w₀.session n).resources with
    | some items =>
      rw [hkept] at hfound
      obtain ⟨rfl, hasked, hitems⟩ := hcomes.finds items hfound
      have hbefore : (w.session n).resources = some items := hsettled.same.resources.symm.trans hkept
      refine .finds hforemost hbefore hended ⟨by rw [← hresources, hitems, hbefore], ?_, ?_⟩
      · rw [hsame.requests, ← hsettled.same.requests]
        omega
      · rw [hsame.counts, ← hsettled.same.counts]
        omega
    | none =>
      rw [hkept] at hfound
      obtain ⟨hasked, answer, hreply, rfl, hgot⟩ := hcomes.asks hfound
      have hbefore : (w.session n).resources = none := hsettled.same.resources.symm.trans hkept
      have hrequests' := hsame.requests
      have hcounts' := hsame.counts
      have hrequests₀ := hsettled.same.requests
      have hcounts₀ := hsettled.same.counts
      by_cases hnow : s.asked = s₀.asked
      · have hreply₀ := (h.quiet hnow).2
        cases hsetsOff with
        | answered waited =>
          cases hreply.symm.trans hreply₀
          exact .gets hforemost waited hbefore hended (hresources.symm.trans hgot)
            (by dsimp only [Sharing.answered] at hrequests; omega) (by dsimp only [Sharing.answered, Sharing.ready] at hcounts; omega)
        | _ => cases hasked.symm.trans hnow
      · have hspoken := h.spoken hnow
        rw [hsettled.script] at hspoken
        cases hreply.symm.trans hspoken
        exact .fetches hforemost hbefore hended (hresources.symm.trans hgot) (by omega) (by omega)

/-- **A reader that has stopped went on as it should.** -/
theorem Stopped.reads (h : Stopped n t s₀ w₀ w') (hsetsOff : SetsOff n t w w₀ s₀) (hsettled : Settled n t w w₀) :
    Reads n t w w' := by
  cases h with
  | ended sees comes stage same => exact sees.reads comes hsetsOff hsettled stage same
  | @lines v next sees stage same =>
    -- Only one that has just begun stands in line: the others were through the gate before, or were cancelled.
    cases hsetsOff with
    | fresh begins =>
      have hrequests := sees.requests
      have hcounts := sees.counts
      refine .lines begins stage (hsettled.same.trans (.trans ⟨sees.kept rfl, ?_, ?_⟩ same))
      · exact hrequests
      · exact hcounts
    | called waited => cases sees.line rfl
    | gone cancelled => cases (sees.quiet rfl).2
    | answered waited => cases sees.line rfl
  | @asks v next alarm sees stage resources requests counts =>
    obtain ⟨hnone, hforemost⟩ := sees.found none rfl
    have hnothing : (w.session n).resources = none := hsettled.same.resources.symm.trans hnone.symm
    have hrequests := sees.requests
    have hcounts := sees.counts
    have hrequests₀ := hsettled.same.requests
    have hcounts₀ := hsettled.same.counts
    have hfirst : s₀.asked = 0 := Nat.le_zero.mp sees.since
    have hbalance := hsetsOff.balance
    have hscript : v.nextAnswer = w.nextAnswer := by
      rw [nextAnswer, nextAnswer, (sees.quiet hfirst.symm).1, hsettled.script]
    rw [hscript] at stage
    refine .asks (hsettled.foremost hforemost) hnothing stage resources ?_ ?_
    · dsimp only [Sharing.ready] at hrequests
      omega
    · dsimp only [Sharing.ready] at hcounts
      omega

/-! ## Going on -/

/-- **What a task does on going on**: a reader reads, one that drops what is kept does so, and all others rest. -/
inductive Fares (n t : Nat) (w w' : World) : Prop
  | reads (reads : Reads n t w w')
  | drops (begins : w.stage? t = some (.fresh (.ofOp dropping))) (ended : w'.stage? t = some (.ended (.ok .nothing)))
    (resources : (w'.session n).resources = none) (requests : w'.requests = w.requests)
    (counts : (w'.session n).fetchCount = (w.session n).fetchCount)
  | rests (waits : ∀ stage, w.stage? t = some stage → stage.canGoOn = false) (same : w' = w)

/-- All others are as they were, or were called. -/
def Others (t : Nat) (w w' : World) : Prop := ∀ i, i ≠ t → w'.stage? i = w.stage? i ∨ Called w w' i

/-- **A reader works from where it stands.** -/
theorem Sees.goesOn {job : Job} (h : Sees n t s₀ w₀ s₀ w₀) (hmeets : job.Meets sharing Ends s₀)
    (hsetsOff : SetsOff n t w w₀ s₀) (hsettled : Settled n t w w₀) :
    InOrder n (run t job w₀) ∧ Reads n t w (run t job w₀) ∧ Others t w₀ (run t job w₀) := by
  have hstretch := run_stretches (fun s w w' e r hsees => Sees.step (e := e) (r := r) hsees) hmeets h
  obtain ⟨horder, hstopped, hothers⟩ := Sees.stops hstretch
  exact ⟨horder, hstopped.reads hsetsOff hsettled, hothers⟩

theorem run_dropping (w : World) (t : Nat) : run t (.ofOp dropping) w =
    (w.setSite (w.sessionOf t) ((w.site (w.sessionOf t)).onSession fun s => { s with resources := none })).conclude t
      (.ok (.result .nothing)) := rfl

theorem Lined.resumeFresh (h : Lined n none inside (w.session n).fetchGate w) (hprompt : (w.session n).fetchGate.Prompt)
    (hstage : w.stage? t = some (.fresh (.ofOp fetching))) (hticket : (w.session n).fetchGate.ticket? t = none) (hout : inside ≠ some t) :
    InOrder n (run t (.ofOp fetching) w) ∧ Reads n t w (run t (.ofOp fetching) w) ∧ Others t w (run t (.ofOp fetching) w) := by
  have hsees : Sees n t { site := w.site n } w { site := w.site n } w :=
    sees_start (h.works (lt_of_stage? hstage) hticket) hprompt
      ⟨fun hnow => (by cases hnow), fun hinside => absurd hinside hout⟩ rfl (fun _ => rfl) fun r hr => by cases hr
  exact hsees.goesOn (Sharing.meets_fetching _) (.fresh hstage) (.refl n t w)

theorem Lined.resumeCalled {next : Waited Unit → Job} (h : Lined n none inside (w.session n).fetchGate w)
    (hstage : w.stage? t = some (.woken (.acquire .fetch) next (.back ()))) (goes : GoesIn next)
    (hticket : (w.session n).fetchGate.ticket? t = some .granted) :
    InOrder n (w.resume t) ∧ Reads n t w (w.resume t) ∧ Others t w (w.resume t) := by
  obtain ⟨hfree, -⟩ := h.orderly.granted hticket
  have hinside : inside = none := by
    cases inside with
    | none => rfl
    | some i => cases hfree.symm.trans h.held
  subst hinside
  have hlt := lt_of_stage? hstage
  have hsession : (w.onSession n fun s => s.setGate ((s.gate .fetch).letIn t) .fetch).session n =
      { w.session n with fetchGate := (w.session n).fetchGate.letIn t } := session_onSession h.known _
  have htickets : ∀ i, i ≠ t → ((w.session n).fetchGate.letIn t).ticket? i = (w.session n).fetchGate.ticket? i :=
    fun i hi => by rw [Gate.ticket?_letIn, if_neg hi]
  have hgoes := h.goesIn hlt (fun j hj => by cases hj) (h.orderly.letIn hticket) rfl
    (by rw [Gate.ticket?_letIn, if_pos rfl]) htickets
  have hforemost : Foremost n t w := fun i hi => by
    refine ⟨fun hgranted => hi (h.orderly.granted_unique hgranted hticket), Bool.eq_false_iff.mpr fun hasks => ?_⟩
    cases (h.asks_iff fun hnone => by cases hnone).mp hasks
  have hforemost' : Foremost n t (w.onSession n fun s => s.setGate ((s.gate .fetch).letIn t) .fetch) := fun i hi => by
    refine ⟨?_, (hforemost i hi).2⟩
    rw [hsession, htickets i hi]
    exact (hforemost i hi).1
  have hlined : Lined n (some t) (some t) ((w.session n).fetchGate.letIn t)
      (w.onSession n fun s => s.setGate ((s.gate .fetch).letIn t) .fetch) :=
    hgoes.elsewhere (by rw [onSession, List.length_set]; exact h.known) rfl fun i hi hout => absurd hi hout
  have hresume : w.resume t = run t (next (.back ())) (w.onSession n fun s => s.setGate ((s.gate .fetch).letIn t) .fetch) := by
    rw [resume_woken hstage, settleAtGate, h.sessionOf hlt]
  rw [hresume]
  have hsettled : Settled n t w (w.onSession n fun s => s.setGate ((s.gate .fetch).letIn t) .fetch) :=
    ⟨sameBooks_of_session ⟨_, hsession⟩ rfl, rfl, fun _ => hforemost⟩
  generalize hv : w.onSession n (fun s => s.setGate ((s.gate .fetch).letIn t) .fetch) = v at hsession hlined hsettled hforemost' ⊢
  have hsees : Sees n t { site := v.site n, inside := true, found := some (v.session n).resources } v
      { site := v.site n, inside := true, found := some (v.session n).resources } v := by
    refine sees_start (by rw [hsession]; exact hlined) (by rw [hsession]; exact Gate.prompt_of_held rfl)
      ⟨fun _ => rfl, fun _ => rfl⟩ rfl (fun hnow => by cases hnow) fun r hr => ?_
    cases hr
    exact ⟨rfl, hforemost'⟩
  subst hv
  exact hsees.goesOn (goes.back _) (.called hstage) hsettled

theorem Lined.withdraws (h : Lined n none inside g w) (ht : t < w.tasks.length) :
    Lined n (some t) inside (g.without t) w :=
  { h with
    orderly := h.orderly.without t
    line := fun i hi => by
      rw [Gate.ticket?_without] at hi
      split at hi
      · exact absurd rfl hi
      · exact h.line i hi
    stands := fun i stage hi hstage => by
      rw [Gate.ticket?_without, if_neg fun hit => hi (congrArg some hit.symm)]
      exact h.stands i stage (fun hnone => by cases hnone) hstage
    working := fun i hi => by
      cases hi
      exact ⟨ht, by rw [Gate.ticket?_without, if_pos rfl]⟩
    empty := fun i hi _ => h.empty i hi fun hnone => by cases hnone }

/-- **A task leaves the line**, and the gate passes on if nobody is behind it. -/
theorem Lined.givesUp (h : Lined n none inside g w) (ht : t < w.tasks.length) :
    Lined n (some t) inside (g.giveUp t).1 (w.callAtGate n .fetch (g.giveUp t)) ∧ (g.giveUp t).1.Prompt ∧
      (∀ i, i ≠ t → g.ticket? i = some .granted → (g.giveUp t).1.ticket? i = some .granted) ∧
      Others t w (w.callAtGate n .fetch (g.giveUp t)) := by
  have hwithdrawn := h.withdraws ht
  have hkeeps : ∀ i, i ≠ t → g.ticket? i = some .granted → (g.without t).ticket? i = some .granted := fun i hi hgranted => by
    rw [Gate.ticket?_without, if_neg hi, hgranted]
  rcases h.orderly.giveUp t with ⟨hcalls, hheld⟩ | ⟨hfree, hpasses⟩
  · rw [hcalls]
    refine ⟨hwithdrawn.elsewhere (by rw [callAtGate, onSession, List.length_set]; exact h.known) rfl fun i _ _ hempty => ?_,
      Gate.prompt_of_held hheld, hkeeps, fun _ _ => .inl rfl⟩
    rw [session_callAtGate h.known]
    exact hempty
  · have hinside : inside = none := by
      cases inside with
      | none => rfl
      | some i => cases hfree.symm.trans h.held
    subst hinside
    obtain ⟨hlined, hstages⟩ := hwithdrawn.passes hpasses
    refine ⟨hlined, hpasses.prompt, fun i hi hgranted => ?_, fun i _ => ?_⟩
    · rw [hpasses.ticket, hkeeps i hi hgranted]
      split <;> rfl
    · have hstage := hstages i
      split at hstage
      · exact .inr hstage
      · exact .inl hstage

theorem Lined.resumeGivesUp {next : Waited Unit → Job} (h : Lined n none inside (w.session n).fetchGate w)
    (hstage : w.stage? t = some (.woken (.acquire .fetch) next .cancelled)) (goes : GoesIn next) (hout : inside ≠ some t) :
    InOrder n (w.resume t) ∧ Reads n t w (w.resume t) ∧ Others t w (w.resume t) := by
  have hlt := lt_of_stage? hstage
  have hresume : w.resume t = run t (next .cancelled)
      (w.callAtGate n .fetch ((w.session n).fetchGate.giveUp t)) := by
    rw [resume_woken hstage]
    show run t (next .cancelled) (w.callAtGate (w.sessionOf t) .fetch (((w.session (w.sessionOf t)).gate .fetch).giveUp t)) = _
    rw [h.sessionOf hlt]
    rfl
  obtain ⟨hlined, hprompt, hgranted, hothers⟩ := h.givesUp hlt
  obtain ⟨tasks, ready, hsame⟩ := callAtGate_same w n .fetch ((w.session n).fetchGate.giveUp t)
  have hsession := session_callAtGate h.known ((w.session n).fetchGate.giveUp t)
  have hsees : Sees n t { site := _, reply := some .cancelled } _ { site := _, reply := some .cancelled } _ :=
    sees_start (by rw [hsession]; exact hlined) (by rw [hsession]; exact hprompt)
      ⟨fun hnow => (by cases hnow), fun hinside => absurd hinside hout⟩ rfl (fun _ => rfl) fun r hr => by cases hr
  have hsettled : Settled n t w (w.callAtGate n .fetch ((w.session n).fetchGate.giveUp t)) := by
    refine ⟨sameBooks_of_session ⟨_, hsession⟩ (by rw [hsame]; rfl), by rw [hsame]; rfl, fun hforemost i hi => ?_⟩
    obtain ⟨hnot, hquiet⟩ := hforemost i hi
    rw [hsession] at hnot
    exact ⟨fun hnow => hnot (hgranted i hi hnow), asks_of_called (hothers i hi) ▸ hquiet⟩
  obtain ⟨horder, hreads, hrest⟩ := hsees.goesOn (goes.cancelled _) (.gone hstage) hsettled
  rw [hresume]
  refine ⟨horder, hreads, fun i hi => ?_⟩
  -- It may have called somebody on leaving the line, and nobody since.
  rcases hothers i hi with hbefore | ⟨next', hbefore, hafter⟩
  · rcases hrest i hi with hstands | ⟨next', hwaited, hwoken⟩
    · exact .inl (hstands.trans hbefore)
    · exact .inr ⟨next', hbefore ▸ hwaited, hwoken⟩
  · rcases hrest i hi with hstands | ⟨next'', hwaited, -⟩
    · exact .inr ⟨next', hbefore, hstands.trans hafter⟩
    · cases hwaited.symm.trans hafter

theorem Lined.resumeAnswered {next : Waited Outcome → Job} {answer : Waited Outcome}
    (h : Lined n none inside (w.session n).fetchGate w) (hprompt : (w.session n).fetchGate.Prompt)
    (hstage : w.stage? t = some (.woken (.send Call.getResources.message) next answer)) (goes : GoesOn next)
    (hinside : inside = some t) (hticket : (w.session n).fetchGate.ticket? t = none) :
    InOrder n (w.resume t) ∧ Reads n t w (w.resume t) ∧ Others t w (w.resume t) := by
  have hnone := h.empty t hinside fun hnone => by cases hnone
  have hheld : (w.session n).fetchGate.held = true := by rw [h.held, hinside]; rfl
  have hsees : Sees n t (Sharing.answered (w.site n) answer) w (Sharing.answered (w.site n) answer) w := by
    refine sees_start (h.works (lt_of_stage? hstage) hticket) hprompt ⟨fun _ => hinside, fun _ => rfl⟩ rfl
      (fun hnow => by cases hnow) fun r hr => ?_
    cases hr
    refine ⟨hnone.symm, fun i hi => ⟨fun hgranted => h.orderly.free hheld _ (Gate.mem_of_ticket? hgranted) rfl,
      Bool.eq_false_iff.mpr fun hasks => ?_⟩⟩
    have hother := (h.asks_iff fun hnone => by cases hnone).mp hasks
    exact hi (Option.some.inj (hother.symm.trans hinside))
  rw [resume_woken hstage]
  exact hsees.goesOn (goes answer _ hnone) (.answered hstage) (.refl n t w)

theorem Lined.endsAtOnce (h : Lined n none inside (w.session n).fetchGate w) (hprompt : (w.session n).fetchGate.Prompt) (ht : t < w.tasks.length)
    (hticket : (w.session n).fetchGate.ticket? t = none) (hout : inside ≠ some t) (r : Except Exit Result) :
    InOrder n (w.finish t r) ∧ (w.finish t r).stage? t = some (.ended r) ∧ SameBooks n w (w.finish t r) ∧
      Others t w (w.finish t r) := by
  obtain ⟨hfinish, hended⟩ := (h.works ht hticket).finish hout r
  obtain ⟨task, htask⟩ : ∃ task, w.tasks[t]? = some task := ⟨_, List.getElem?_eq_getElem ht⟩
  rw [hfinish]
  exact ⟨⟨⟨inside, hended⟩, hprompt⟩, stage?_setStage_self htask, ⟨rfl, rfl, rfl⟩, fun i hi => .inl (stage?_setStage_ne hi.symm)⟩

theorem Lined.resumeDrops (h : Lined n none inside (w.session n).fetchGate w) (hprompt : (w.session n).fetchGate.Prompt)
    (hstage : w.stage? t = some (.fresh (.ofOp dropping))) (hticket : (w.session n).fetchGate.ticket? t = none)
    (hout : inside ≠ some t) : InOrder n (w.resume t) ∧ Fares n t w (w.resume t) ∧ Others t w (w.resume t) := by
  have hlt := lt_of_stage? hstage
  have hsession : (w.setSite n ((w.site n).onSession fun s => { s with resources := none })).session n =
      { w.session n with resources := none } := congrArg Site.session (site_setSite h.known _)
  have hdropped : Lined n none inside ((w.setSite n ((w.site n).onSession fun s => { s with resources := none })).session
      n).fetchGate (w.setSite n ((w.site n).onSession fun s => { s with resources := none })) := by
    rw [hsession]
    refine h.elsewhere (by rw [setSite, List.length_set]; exact h.known) rfl fun i _ _ _ => ?_
    rw [hsession]
  obtain ⟨horder, hended, hsame, hothers⟩ := hdropped.endsAtOnce (by rw [hsession]; exact hprompt) hlt
    (by rw [hsession]; exact hticket) hout (.ok .nothing)
  have hresume : w.resume t = (w.setSite n ((w.site n).onSession fun s => { s with resources := none })).finish t
      (.ok .nothing) := by
    rw [resume_fresh hstage, run_dropping, h.sessionOf hlt]
    rfl
  rw [hresume]
  refine ⟨horder, .drops hstage hended ?_ hsame.requests ?_, hothers⟩
  · rw [hsame.resources, hsession]
  · rw [hsame.counts, hsession]

/-- **Whoever goes on does as it should**, and leaves the others in order. -/
theorem InOrder.resumes (h : InOrder n w) (t : Nat) :
    InOrder n (w.resume t) ∧ Fares n t w (w.resume t) ∧ Others t w (w.resume t) := by
  obtain ⟨⟨inside, hlined⟩, hprompt⟩ := h
  have hrests : w.resume t = w → (∀ stage, w.stage? t = some stage → stage.canGoOn = false) →
      InOrder n (w.resume t) ∧ Fares n t w (w.resume t) ∧ Others t w (w.resume t) := fun hsame hwaits => by
    rw [hsame]
    exact ⟨⟨⟨inside, hlined⟩, hprompt⟩, .rests hwaits rfl, fun _ _ => .inl rfl⟩
  have hreads : InOrder n (w.resume t) ∧ Reads n t w (w.resume t) ∧ Others t w (w.resume t) →
      InOrder n (w.resume t) ∧ Fares n t w (w.resume t) ∧ Others t w (w.resume t) := And.imp_right (And.imp_left .reads)
  cases hstage : w.stage? t with
  | none =>
    refine hrests ?_ fun stage hnow => by cases hstage.symm.trans hnow
    rw [resume, show (w.tasks[t]?).map Task.stage = none from hstage]
  | some stage =>
    have hstands := hlined.stands t stage (fun hnone => by cases hnone) hstage
    have hwaits : stage.canGoOn = false → ∀ stage', w.stage? t = some stage' → stage'.canGoOn = false :=
      fun hwaits stage' hnow => Option.some.inj (hstage.symm.trans hnow) ▸ hwaits
    generalize hticket : (w.session n).fetchGate.ticket? t = ticket at hstands
    cases hstands with
    | fresh hout =>
      refine hreads ?_
      rw [resume_fresh hstage]
      exact hlined.resumeFresh hprompt hstage hticket hout
    | drops hout => exact hlined.resumeDrops hprompt hstage hticket hout
    | broken hout =>
      obtain ⟨horder, hended, hsame, hothers⟩ :=
        hlined.endsAtOnce hprompt (lt_of_stage? hstage) hticket hout (.error .cancelled)
      refine hreads ?_
      rw [resume_fresh hstage]
      exact ⟨horder, .leaves hstage rfl hended hsame, hothers⟩
    | inLine hout goes => exact hrests (resume_waiting hstage) (hwaits rfl)
    | called hout goes => exact hreads (hlined.resumeCalled hstage goes hticket)
    | givesUp hout gone goes => exact hreads (hlined.resumeGivesUp hstage goes hout)
    | asks hmine goes => exact hrests (resume_waiting hstage) (hwaits rfl)
    | answered hmine goes => exact hreads (hlined.resumeAnswered hprompt hstage goes hmine hticket)
    | ended hout => exact hrests (resume_ended hstage) (hwaits rfl)

end World

end Cutover
