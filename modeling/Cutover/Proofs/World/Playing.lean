import Cutover.Proofs.World.Elapsing
import Cutover.World.Scenario

/-!
# Scenarios with boards of their own

Two scenarios with sessions that are set up in the same way, but for their boards, take the same steps and come to
the same, but for what is read of the notices.

* `Scenario.Report.hushed`: what a report says but for the notices;
* `Scenario.Twinned`: **two scenarios are the same but for their notices**;
* `Scenario.Twinned.take`: a step keeps them so, and the reports say the same;
* `Scenario.notices_unheeded`: **the settings of the notices are of no account**.
-/

namespace Cutover

variable {limit : Int} {reads : Nat → Bool}

namespace World

variable {w v : World}

theorem observe_hushed (w : World) (n : Nat) : (w.hushed reads).observe n = w.observe n := by
  have hpolling : (w.hushed reads).isPolling n = w.isPolling n := by
    unfold isPolling
    rw [session_hushed]
    simp only [Session.hushed, hasEnded_hushed]
  unfold observe
  rw [hpolling, session_hushed]
  rfl

theorem Twinned.observe (h : Twinned limit reads w v) (n : Nat) : v.observe n = w.observe n := by
  rw [← observe_hushed, h.same, observe_hushed]

theorem Twinned.takeNews (h : Twinned limit reads w v) (n m : Nat) (seen seen' : Int) :
    Twinned limit reads (w.takeNews n seen).2 (v.takeNews m seen').2 ∧
      { (v.takeNews m seen').1 with notices := [] } = { (w.takeNews n seen).1 with notices := [] } := by
  refine ⟨h.surround (f := fun w => (w.takeNews n seen).2) (fun _ => rfl) (fun _ => rfl) fun _ => rfl, ?_⟩
  have hsent : v.sent = w.sent := (congrArg World.sent h.same :)
  have hevents : v.events = w.events := (congrArg World.events h.same :)
  have hhooks : v.hookCalls = w.hookCalls := (congrArg World.hookCalls h.same :)
  have htrace : v.trace = w.trace := (congrArg World.trace h.same :)
  rw [World.takeNews, World.takeNews, hsent, hevents, hhooks, htrace]

theorem retains_spawn (w : World) (n : Nat) (job : Job) (loop : Option Background) : w.Retains (w.spawn n job loop).2 :=
  ⟨rfl, Nat.le_refl _, by simp [spawn, enqueue]⟩

end World

namespace Scenario

/-! ## Steps and reports -/

/-- A step asks for the notices, or takes one away. -/
def Step.asksNotices (step : Step) : Bool :=
  match step.deed with
  | .ask (.ok action) _ => action.isNotice
  | _ => false

/-- A step reads the notices, or waits for what was left under a name under which they were asked for. -/
def Step.readsNotices (asks : String → Bool) (step : Step) : Bool :=
  step.asksNotices || match step.deed with
    | .join name => asks name
    | _ => false

/-- The notices are asked for in some step that is left running under a name. -/
def asksUnder (steps : List Step) (name : String) : Bool :=
  steps.any fun step => step.asksNotices && step.leave == some name

/-- How a step came out, or only that it did. -/
def Upshot.hushed (reads : Bool) : Upshot → Upshot
  | .ended r => .ended (Result.hushed reads r)
  | upshot => upshot

theorem Upshot.hushed_mono {b c : Bool} {x x' : Upshot} (h : x'.hushed b = x.hushed b) (hbc : b = true → c = true) :
    x'.hushed c = x.hushed c := by
  cases b with
  | true => rwa [hbc rfl]
  | false =>
    have hsame : ∀ x : Upshot, x.hushed false = x := fun x => by cases x <;> rfl
    rw [hsame, hsame] at h
    rw [h]

/-- **What a report says but for the notices**, and but for what a step read of them. -/
def Report.hushed (reads : Bool) (r : Report) : Report :=
  { r with upshot := r.upshot.hushed reads, news := { r.news with notices := [] } }

theorem Report.hushed_congr {b : Bool} {r r' : Report} (hupshot : r'.upshot.hushed b = r.upshot.hushed b)
    (hbefore : r'.before = r.before) (hafter : r'.after = r.after)
    (hnews : { r'.news with notices := [] } = { r.news with notices := [] }) : r'.hushed b = r.hushed b := by
  unfold Report.hushed
  rw [hupshot, hbefore, hafter, hnews]

/-- What the reports of steps say but for the notices. -/
def hushedReports (asks : String → Bool) : List Step → List Report → List Report :=
  List.zipWith fun step => Report.hushed (step.readsNotices asks)

/-! ## Two scenarios -/

/-- **Two scenarios are the same but for their notices.** What was left running reads the notices only where they
may be asked for. -/
structure Twinned (limit : Int) (asks : String → Bool) (reads : Nat → Bool) (s u : Scenario) : Prop where
  world : World.Twinned limit reads s.world u.world
  setup : u.setup = { s.setup with board := u.setup.board }
  raises : s.setup.board.Raises limit ∧ u.setup.board.Raises limit
  current : u.current = s.current
  known : s.current < s.world.sessions.length
  running : u.running = s.running
  readers : u.readers = s.readers
  hooks : u.hooks = s.hooks
  nextHook : u.nextHook = s.nextHook
  asked : ∀ name t, s.running.lookup name = some (.task t) →
    t < s.world.tasks.length ∧ (reads t = true → asks name = true)

variable {asks : String → Bool} {s u s' u' : Scenario}

theorem heedless_operation {b : Bool} {action : Except Fault Action}
    (h : ∀ a, action = .ok a → Job.Heedless limit b (.ofOp a.op)) (ofWhole : Bool) :
    Job.Heedless limit b (.ofOp (operation action ofWhole)) := by
  have hrest : Job.Heedless limit b (.ofOp (Op.ofExcept action >>= Action.op)) := by
    cases action with
    | ok a => exact h a rfl
    | error f => exact .done rfl
  have hguard : ∀ bare : Bool, Job.Heedless limit b (.ofOp (if (ofWhole && bare) = true
      then Op.fail .missingPart >>= fun _ : Unit => Op.ofExcept action >>= Action.op
      else Op.ofExcept action >>= Action.op)) := fun bare => by
    split
    · exact .done rfl
    · exact hrest
  exact .look fun x _ _ _ _ => hguard x.session.isBare

namespace Twinned

theorem onWorld (h : Twinned limit asks reads s u) {w v : World} (hworlds : World.Twinned limit reads w v)
    (hlater : s.world.Later w) : Twinned limit asks reads { s with world := w } { u with world := v } :=
  { h with
    world := hworlds
    known := Nat.lt_of_lt_of_le h.known hlater.known
    asked := fun name t hname => ⟨Nat.lt_of_lt_of_le (h.asked name t hname).1 hlater.count, (h.asked name t hname).2⟩ }

theorem leave {l : Left} (h : Twinned limit asks reads s u) {name : String}
    (hasked : ∀ t, l = .task t → t < s.world.tasks.length ∧ (reads t = true → asks name = true)) :
    Twinned limit asks reads (s.leave name l).1 (u.leave name l).1 :=
  { h with
    running := congrArg (put · name l) h.running
    asked := fun other t hother => by
      by_cases hname : name = other
      · subst hname
        rw [Scenario.leave, lookup_put_self] at hother
        exact hasked t (Option.some.inj hother)
      · rw [Scenario.leave, lookup_put_of_ne _ _ (Ne.symm hname)] at hother
        exact h.asked other t hother }

theorem await (h : Twinned limit asks reads s u) (t : Nat) (hnow : (s.await t).1.world.now ≤ limit) :
    Twinned limit asks reads (s.await t).1 (u.await t).1 ∧
      (u.await t).2.hushed (reads t) = (s.await t).2.hushed (reads t) := by
  obtain ⟨hworlds, hresult⟩ := h.world.await t hnow
  refine ⟨h.onWorld hworlds (World.later_await s.world t), ?_⟩
  have hupshot : ∀ r : Option (Except Exit Result), (Upshot.ofResult r).hushed (reads t) =
      .ofResult (r.map (Result.hushed (reads t))) := fun r => by cases r <;> rfl
  exact (hupshot _).trans ((congrArg Upshot.ofResult hresult).trans (hupshot _).symm)

/-- What was left running is waited for in both, or there is no such thing in either. -/
theorem join (h : Twinned limit asks reads s u) {name : String} {x : Upshot} (hjoin : s.join name = .ok (s', x))
    (hnow : s'.world.now ≤ limit) : ∃ u' x', u.join name = .ok (u', x') ∧ Twinned limit asks reads s' u' ∧
      x'.hushed (asks name) = x.hushed (asks name) := by
  unfold Scenario.join at hjoin ⊢
  rw [h.running]
  split at hjoin
  next t ht =>
    cases hjoin
    obtain ⟨hboth, hx⟩ := h.await t hnow
    exact ⟨_, _, rfl, hboth, Upshot.hushed_mono hx (h.asked name t ht).2⟩
  next x ht =>
    cases hjoin
    exact ⟨_, _, rfl, h, rfl⟩
  next => cases hjoin

theorem reread {reads' : Nat → Bool} (h : Twinned limit asks reads s u)
    (hreads : ∀ i < s.world.tasks.length, reads' i = reads i) : Twinned limit asks reads' s u :=
  { h with
    world := h.world.reread hreads
    asked := fun name t hname => by
      obtain ⟨ht, hasked⟩ := h.asked name t hname
      exact ⟨ht, hreads t ht ▸ hasked⟩ }

/-! ## Deeds -/

theorem onSession {f : Session → Session} (h : Twinned limit asks reads s u) (hf : ∀ s, (f s).hushed = f s.hushed)
    (hboard : ∀ s, (f s).board = s.board) : Twinned limit asks reads (s.onSession f) (u.onSession f) := by
  have hworlds : World.Twinned limit reads (s.world.onSession s.current f) (u.world.onSession u.current f) := by
    rw [h.current]
    exact h.world.onSession hf hboard
  have hlength : s.world.sessions.length ≤ (s.world.onSession s.current f).sessions.length := by
    simp [World.onSession]
  exact h.onWorld hworlds ⟨Int.le_refl _, hlength, Nat.le_refl _⟩

theorem spawn {job : Job} (h : Twinned limit asks reads s u) (loop : Option Background)
    (hjob : Job.Heedless limit (reads s.world.tasks.length) job) :
    Twinned limit asks reads { s with world := (s.world.spawn s.current job loop).2 }
      { u with world := (u.world.spawn u.current job loop).2 } := by
  have hworlds : World.Twinned limit reads (s.world.spawn s.current job loop).2
      (u.world.spawn u.current job loop).2 := by
    rw [h.current]
    exact h.world.spawn h.known hjob
  exact h.onWorld hworlds (World.retains_spawn _ _ _ _).later

theorem fork (h : Twinned limit asks reads s u) (b : Background) :
    Twinned limit asks reads { s with world := (s.world.fork s.current b).2 }
      { u with world := (u.world.fork u.current b).2 } :=
  h.spawn (some b) (Job.heedless_ofRound b.heedless.1)

theorem read (h : Twinned limit asks reads s u) (name : String) (includeCurrent : Option Bool) :
    Twinned limit asks reads (s.read name includeCurrent) (u.read name includeCurrent) := by
  have hsession := h.world.session s.current
  have hbare : (u.world.session u.current).isBare = (s.world.session s.current).isBare := by
    rw [h.current, hsession]
  have hnumber : (u.world.session u.current).nextStream = (s.world.session s.current).nextStream := by
    rw [h.current, hsession]
  unfold Scenario.read
  rw [hbare, hnumber]
  split
  · have hfailed := h.spawn none (Job.heedless_ofOp (Op.heedless_fail .missingPart))
    exact { hfailed with readers := congrArg₂ (fun readers t => put readers name t) h.readers h.world.count }
  · have hnumbered := h.onSession (f := fun session =>
      { session with nextStream := (s.world.session s.current).nextStream + 1 }) (fun _ => rfl) fun _ => rfl
    have hforked := hnumbered.fork (.reader (s.world.session s.current).nextStream name (includeCurrent.getD true))
    exact { hforked with readers := congrArg₂ (fun readers t => put readers name t) h.readers h.world.count }

theorem restart (h : Twinned limit asks reads s u) : Twinned limit asks reads s.restart u.restart := by
  have hstorage : u.world.storage = s.world.storage := (congrArg World.storage h.world.same :)
  have hsession : (u.setup.session u.world.storage.current).hushed =
      (s.setup.session s.world.storage.current).hushed := by
    rw [hstorage, h.setup]
    rfl
  have hjoined := h.world.join h.raises.1 h.raises.2 hsession
  exact { h with
    world := hjoined
    current := h.world.length
    known := by simp [Scenario.restart]
    asked := h.asked }

theorem hook (h : Twinned limit asks reads s u) (name : String) (fails : Bool) :
    Twinned limit asks reads (s.hook name fails) (u.hook name fails) := by
  have hhooked : Twinned limit asks reads
      (s.onSession fun session => { session with hooks := session.hooks ++ [.user s.nextHook name fails] })
      (u.onSession fun session => { session with hooks := session.hooks ++ [.user s.nextHook name fails] }) :=
    h.onSession (fun _ => rfl) fun _ => rfl
  have hhooks : put u.hooks name u.nextHook = put s.hooks name s.nextHook := by rw [h.hooks, h.nextHook]
  have hnext : u.nextHook + 1 = s.nextHook + 1 := by rw [h.nextHook]
  unfold Scenario.hook
  rw [h.nextHook]
  exact { hhooked with hooks := hhooks, nextHook := hnext }

theorem named {things things' : List (String × Nat)} {f f' : Nat → Scenario} (h : Twinned limit asks reads s u)
    (hthings : things' = things) (name : String) (hf : ∀ t, Twinned limit asks reads (f t) (f' t)) :
    Twinned limit asks reads (s.named things name f).1 (u.named things' name f').1 ∧
      (u.named things' name f').2 = (s.named things name f).2 := by
  unfold Scenario.named
  rw [hthings]
  cases things.lookup name with
  | none => exact ⟨h, rfl⟩
  | some t => exact ⟨hf t, rfl⟩

/-- **A deed that takes no time is done in both.** -/
theorem act (h : Twinned limit asks reads s u) (deed : Deed) :
    Twinned limit asks reads (s.act deed).1 (u.act deed).1 ∧ (u.act deed).2 = (s.act deed).2 := by
  cases deed with
  | read name includeCurrent => exact ⟨h.read name includeCurrent, rfl⟩
  | stopReading name =>
    exact h.named h.readers name fun t => h.onWorld (h.world.cancel t) (World.retains_cancel _ t).later
  | hook name fails => exact ⟨h.hook name fails, rfl⟩
  | unhook name => exact h.named h.hooks name fun t => h.onSession (fun _ => rfl) fun _ => rfl
  | restart => exact ⟨h.restart, rfl⟩
  | reopen =>
    exact ⟨h.onWorld (h.world.surround (f := fun w => { w with storage := w.storage.reopen }) (fun _ => rfl)
      (fun _ => rfl) fun _ => rfl) ⟨Int.le_refl _, Nat.le_refl _, Nat.le_refl _⟩, rfl⟩
  | script routes =>
    exact ⟨h.onWorld (h.world.surround (f := fun w => { w with script := w.script.revise routes }) (fun _ => rfl)
      (fun _ => rfl) fun _ => rfl) ⟨Int.le_refl _, Nat.le_refl _, Nat.le_refl _⟩, rfl⟩
  | faults change =>
    exact ⟨h.onWorld (h.world.surround (f := fun w => { w with storage := w.storage.onFaults w.storage.current change })
      (fun _ => rfl) (fun _ => rfl) fun _ => rfl) ⟨Int.le_refl _, Nat.le_refl _, Nat.le_refl _⟩, rfl⟩
  | unknown name => exact ⟨h, rfl⟩
  | ask action ofWhole => exact ⟨h, rfl⟩
  | join name => exact ⟨h, rfl⟩
  | advance d => exact ⟨h, rfl⟩

/-! ## Steps -/

theorem ask {op : Op Result} (h : Twinned limit asks reads s u) {b : Bool} (hop : Job.Heedless limit b (.ofOp op))
    (hnow : s.world.now ≤ limit) : ∃ reads' : Nat → Bool, reads' (s.ask op).1 = b ∧ (u.ask op).1 = (s.ask op).1 ∧
      (s.ask op).1 < (s.ask op).2.world.tasks.length ∧ Twinned limit asks reads' (s.ask op).2 (u.ask op).2 := by
  let reads' : Nat → Bool := fun i => if i = s.world.tasks.length then b else reads i
  have hasked : reads' s.world.tasks.length = b := if_pos rfl
  have hold : ∀ i < s.world.tasks.length, reads' i = reads i := fun i hi => if_neg (Nat.ne_of_lt hi)
  have hspawned := (h.reread hold).spawn none (hasked.symm ▸ hop)
  have hrested := World.retains_rest (s.world.spawn s.current (.ofOp op)).2
  refine ⟨reads', hasked, h.world.count, ?_, ?_⟩
  · have hnew : s.world.tasks.length < (s.world.spawn s.current (.ofOp op)).2.tasks.length := by
      simp [World.spawn, World.enqueue]
    exact Nat.lt_of_lt_of_le hnew hrested.count
  · exact hspawned.onWorld (hspawned.world.rest hnow) hrested.later

end Twinned

theorem later_ask (s : Scenario) (op : Op Result) : s.world.Later (s.ask op).2.world :=
  ((World.retains_spawn s.world s.current (.ofOp op) none).trans (World.retains_rest _)).later

theorem perform_act {deed : Deed} (hask : ∀ action ofWhole, deed ≠ .ask action ofWhole)
    (hjoin : ∀ name, deed ≠ .join name) (hadvance : ∀ d, deed ≠ .advance d) (leave : Option String) :
    s.perform ⟨deed, leave⟩ =
      .ok (leave.elim (s.act deed) fun name => (s.act deed).1.leave name (.done (s.act deed).2)) := by
  cases deed with
  | ask action ofWhole => exact absurd rfl (hask action ofWhole)
  | join name => exact absurd rfl (hjoin name)
  | advance d => exact absurd rfl (hadvance d)
  | _ => cases leave <;> rfl

theorem perform_ask (action : Except Fault Action) (ofWhole : Bool) (leave : Option String) :
    s.perform ⟨.ask action ofWhole, leave⟩ = .ok (leave.elim
      ((s.ask (operation action ofWhole)).2.await (s.ask (operation action ofWhole)).1)
      fun name => (s.ask (operation action ofWhole)).2.leave name (.task (s.ask (operation action ofWhole)).1)) := by
  cases leave <;> rfl

namespace Twinned

/-- **The same step is taken in both.** -/
theorem perform {step : Step} {x : Upshot} (h : Twinned limit asks reads s u)
    (hstep : step.asksNotices = true → ∀ name, step.leave = some name → asks name = true)
    (hperform : s.perform step = .ok (s', x)) (hnow : s'.world.now ≤ limit) :
    ∃ u' x' reads', u.perform step = .ok (u', x') ∧ Twinned limit asks reads' s' u' ∧
      x'.hushed (step.readsNotices asks) = x.hushed (step.readsNotices asks) := by
  obtain ⟨deed, leave⟩ := step
  have hacts : (∀ action ofWhole, deed ≠ .ask action ofWhole) → (∀ name, deed ≠ .join name) →
      (∀ d, deed ≠ .advance d) → ∃ u' x' reads', u.perform ⟨deed, leave⟩ = .ok (u', x') ∧
        Twinned limit asks reads' s' u' ∧ x' = x := fun hask hjoin hadvance => by
    obtain ⟨hboth, hx⟩ := h.act deed
    rw [perform_act hask hjoin hadvance] at hperform ⊢
    cases leave with
    | none =>
      have hacted : s.act deed = (s', x) := Except.ok.inj hperform
      rw [hacted] at hboth hx
      exact ⟨_, _, reads, rfl, hboth, hx⟩
    | some name =>
      cases hperform
      rw [hx]
      exact ⟨_, _, reads, rfl, hboth.leave (fun t ht => by cases ht), rfl⟩
  cases deed with
  | join name =>
    obtain ⟨u', x', hjoin, hboth, hx⟩ := h.join hperform hnow
    exact ⟨u', x', reads, hjoin, hboth, hx⟩
  | advance d =>
    cases hperform
    have hlater := World.later_advance s.world d
    exact ⟨_, _, reads, rfl, h.onWorld (h.world.advance (Int.le_trans hlater.now hnow) hnow) hlater, rfl⟩
  | ask action ofWhole =>
    obtain ⟨b, hb⟩ : ∃ b, Step.asksNotices ⟨.ask action ofWhole, leave⟩ = b := ⟨_, rfl⟩
    have hreads : Step.readsNotices asks ⟨.ask action ofWhole, leave⟩ = b := by
      rw [Step.readsNotices, hb, Bool.or_false]
    have hop : Job.Heedless limit b (.ofOp (operation action ofWhole)) := heedless_operation (fun a ha => by
      subst ha
      rw [← hb]
      exact Job.heedless_action a) ofWhole
    rw [perform_ask] at hperform ⊢
    rw [hreads]
    have hasked := later_ask s (operation action ofWhole)
    cases leave with
    | none =>
      have hawaited : (s.ask (operation action ofWhole)).2.await (s.ask (operation action ofWhole)).1 = (s', x) :=
        Except.ok.inj hperform
      have hlater : (s.ask (operation action ofWhole)).2.world.Later s'.world :=
        (congrArg (fun p => p.1.world) hawaited :) ▸ World.later_await _ _
      obtain ⟨reads', ht, hnumber, hthere, hboth⟩ := h.ask hop (Int.le_trans (hasked.trans hlater).now hnow)
      have hended := hboth.await (s.ask (operation action ofWhole)).1 (by rw [hawaited]; exact hnow)
      rw [ht, hawaited] at hended
      rw [hnumber]
      exact ⟨_, _, reads', rfl, hended⟩
    | some name =>
      cases hperform
      obtain ⟨reads', ht, hnumber, hthere, hboth⟩ := h.ask hop (Int.le_trans hasked.now hnow)
      rw [hnumber]
      refine ⟨_, _, reads', rfl, hboth.leave fun t hleft => ?_, rfl⟩
      cases hleft
      exact ⟨hthere, fun hread => hstep (hb.trans (ht.symm.trans hread)) name rfl⟩
  | _ =>
    obtain ⟨u', x', reads', hu, hboth, rfl⟩ :=
      hacts (fun _ _ h => by cases h) (fun _ h => by cases h) fun _ h => by cases h
    exact ⟨u', x', reads', hu, hboth, rfl⟩

/-- **A step says the same in both.** -/
theorem take {step : Step} {before : Option Observation} {r : Report} (h : Twinned limit asks reads s u)
    (hstep : step.asksNotices = true → ∀ name, step.leave = some name → asks name = true)
    (htake : s.take before step = .ok (s', r)) (hnow : r.after.now ≤ limit) :
    ∃ u' r' reads', u.take before step = .ok (u', r') ∧ Twinned limit asks reads' s' u' ∧ r'.after = r.after ∧
      r'.hushed (step.readsNotices asks) = r.hushed (step.readsNotices asks) := by
  unfold Scenario.take at htake ⊢
  cases hperform : s.perform step with
  | error f =>
    rw [hperform] at htake
    cases htake
  | ok p =>
    obtain ⟨s₁, x⟩ := p
    rw [hperform] at htake
    cases htake
    have hrested := World.retains_rest s₁.world
    have hnow₁ : s₁.world.now ≤ limit := hrested.now ▸ hnow
    obtain ⟨u₁, x', reads', hu, hboth, hx⟩ := h.perform hstep hperform hnow₁
    obtain ⟨htaken, hnews⟩ := (hboth.world.rest hnow₁).takeNews s₁.current u₁.current s₁.lastNotice u₁.lastNotice
    have hafter := (congrArg (World.observe _) hboth.current).trans (htaken.observe s₁.current)
    have hlater : s₁.world.Later (s₁.world.rest.takeNews s₁.current s₁.lastNotice).2 :=
      ⟨hrested.later.now, hrested.later.known, hrested.later.count⟩
    have hworlds := hboth.onWorld htaken hlater
    rw [hu]
    exact ⟨_, _, reads', rfl, { hworlds with }, hafter, Report.hushed_congr hx rfl hafter hnews⟩

/-- **All steps say the same in both.** -/
theorem takeAll {steps : List Step} {before : Option Observation} {reports : List Report}
    (h : Twinned limit asks reads s u)
    (hsteps : ∀ step ∈ steps, step.asksNotices = true → ∀ name, step.leave = some name → asks name = true)
    (htake : s.takeAll before steps = .ok reports) (hnow : ∀ r ∈ reports, r.after.now ≤ limit) :
    ∃ reports', u.takeAll before steps = .ok reports' ∧
      hushedReports asks steps reports' = hushedReports asks steps reports := by
  induction steps generalizing s u before reads reports with
  | nil =>
    exact ⟨[], rfl, rfl⟩
  | cons step rest ih =>
    unfold Scenario.takeAll at htake ⊢
    cases hone : s.take before step with
    | error f =>
      rw [hone] at htake
      cases htake
    | ok p =>
      obtain ⟨s₁, r⟩ := p
      rw [hone] at htake
      cases hrest : s₁.takeAll (some r.after) rest with
      | error f =>
        simp only [bind, Except.bind, hrest] at htake
        cases htake
      | ok more =>
        simp only [bind, Except.bind, hrest] at htake
        cases htake
        obtain ⟨u₁, r', reads', hu, hboth, hafter, hr⟩ :=
          h.take (hsteps step List.mem_cons_self) hone (hnow r List.mem_cons_self)
        obtain ⟨more', hu', hmore⟩ := ih hboth (fun step hstep => hsteps step (List.mem_cons_of_mem _ hstep)) hrest
          fun r hr => hnow r (List.mem_cons_of_mem _ hr)
        rw [hu]
        simp only [bind, Except.bind, hafter, hu']
        exact ⟨_, rfl, congrArg₂ List.cons hr hmore⟩

end Twinned

theorem heedless_start {setup : Setup} (hboard : setup.board.Raises limit) :
    World.Heedless limit reads (start setup).world where
  boards m hm := by
    cases Nat.lt_one_iff.mp hm
    exact hboard
  homes i task hi := by cases hi
  stages i task hi := by cases hi

theorem twinned_start {setup : Setup} {b : Board} (hboard : setup.board.Raises limit) (hb : b.Raises limit) :
    Twinned limit asks (fun _ => false) (start setup) (start { setup with board := b }) where
  world :=
    { same := rfl
      left := heedless_start hboard
      right := heedless_start hb }
  setup := rfl
  raises := ⟨hboard, hb⟩
  current := rfl
  known := Nat.one_pos
  running := rfl
  readers := rfl
  hooks := rfl
  nextHook := rfl
  asked _ _ h := by cases h

/-- **The settings of the notices are of no account**, as long as notices can be raised: whatever is done with two
sessions that are set up in the same way, but for their boards, all steps come out in the same way and leave the
sessions, the store, the service and the readers in the same state. Only what is read of the notices differs. -/
theorem notices_unheeded {setup : Setup} {b : Board} {steps : List Step} {reports : List Report}
    (hboard : setup.board.Raises limit) (hb : b.Raises limit) (hrun : run setup steps = .ok reports)
    (hnow : ∀ r ∈ reports, r.after.now ≤ limit) : ∃ reports', run { setup with board := b } steps = .ok reports' ∧
      hushedReports (asksUnder steps) steps reports' = hushedReports (asksUnder steps) steps reports := by
  refine (twinned_start hboard hb).takeAll (fun step hstep hasks name hname => ?_) hrun hnow
  refine List.any_eq_true.mpr ⟨step, hstep, ?_⟩
  simp [hasks, hname]

/-- A run is launched, time passes, and the notices are read. -/
def watched : List Step :=
  [{ deed := .ask (.ok (.poll (.submit
      { target := { database := .text "a" }, mode := .dataOnly, transfer := .bulk }))) false },
    { deed := .advance 7000000 },
    { deed := .ask (.ok (.notice .visible)) false }]

/-- Notices stay for an hour, and only the last is kept. -/
def lasting : Board := { ttl := .whole 3600, keep := 1 }

/-- The run goes on in the same way, whether or not the notice of its launch is still there. -/
theorem watched_unheeded : ∃ reports reports', run {} watched = .ok reports ∧ reports.length = watched.length ∧
    run { board := lasting } watched = .ok reports' ∧
    hushedReports (asksUnder watched) watched reports' = hushedReports (asksUnder watched) watched reports := by
  have hwithin : (run {} watched).toOption.any (fun reports => reports.length == watched.length &&
      reports.all fun r => decide (r.after.now ≤ 7000000)) = true := by decide +kernel
  have hboard : ({} : Setup).board.Raises 7000000 := by decide +kernel
  have hlasting : lasting.Raises 7000000 := by decide +kernel
  cases hrun : run {} watched with
  | error f =>
    rw [hrun] at hwithin
    cases hwithin
  | ok reports =>
    rw [hrun] at hwithin
    obtain ⟨hlength, hnow⟩ := Bool.and_eq_true_iff.mp hwithin
    obtain ⟨reports', hrun', hsame⟩ := notices_unheeded hboard hlasting hrun fun r hr =>
      of_decide_eq_true (List.all_eq_true.mp hnow r hr)
    exact ⟨reports, reports', rfl, beq_iff_eq.mp hlength, hrun', hsame⟩

/-- There are settings with which no notice can be raised: it would stay past the end of the calendar. -/
example : ¬ ({ ttl := .whole 1000000000000 } : Board).Raises 0 := by decide +kernel

end Scenario

end Cutover
