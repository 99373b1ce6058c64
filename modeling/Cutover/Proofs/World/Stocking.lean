import Cutover.Proofs.Control.Stocking
import Cutover.Proofs.World.Drafting

/-!
# Where the resources come from that are shown

Resources that are kept were fetched since the service accepted a launch last, or their fetch was under way at that
moment. What was kept before a launch is never shown after it.

* `Supply`: the answers that the kept resources may come from;
* `World.supplied`, `World.suppliedOf`: what these are once a task has gone on;
* `Stock.Stands`, `Stock.Staffed`: **every task of the session may go on**, and awaits none but these answers;
* `Stock.run_accounted`, `Stock.resume_accounted`: a task that goes on leaves what is kept accounted for;
* `World.SupplyMove`, `World.SupplyHistory`: one thing that happens, and one after the other;
* `World.served_since_launch`: **nothing is shown that was fetched before a launch**, save what was under way.
-/

namespace Cutover

/-- The answer that a task waits for who has asked for the resources, or has got and not yet seen. -/
def Stage.fetching? : Stage → Option Outcome
  | .waiting e _ (some alarm) => e.fetched? alarm.reply
  | .woken e _ r => e.fetched? r
  | _ => none

/-- **What the resources of a session may come from**: the answers to the requests that its tasks sent since the service
accepted a launch last, and those that others of its tasks were waiting for at that moment. -/
structure Supply where
  since : List Outcome := []
  underWay : List Outcome := []

namespace World

/-- The answers that the tasks of a session wait for, save one task. -/
def outstanding (w : World) (n t : Nat) : List Outcome :=
  ((w.tasks.eraseIdx t).filter fun task => task.session = n).filterMap fun task => task.stage.fetching?

end World

namespace Supply

/-- The answer is one of them. -/
def Has (l : Supply) (o : Outcome) : Prop := o ∈ l.since ∨ o ∈ l.underWay

/-- One of the answers gives these resources. -/
def Covers (l : Supply) (items : List Resource) : Prop := ∃ o, l.Has o ∧ o.resources = .ok items

/-- A request for the resources is sent. -/
def asking (l : Supply) (w : World) : Effect → Supply
  | .send m => if m.asks then { l with since := l.since ++ [(w.script.next m).1.outcome] } else l
  | _ => l

/-- The service accepts a launch, and whatever was fetched before counts no more. -/
def hearing (l : Supply) (w : World) (n t : Nat) (e : Effect) (r : e.Reply) : Supply :=
  if e.accepts r then { underWay := w.outstanding n t } else l

end Supply

namespace World

/-- **What the resources may come from once a task has worked** for the session. -/
def supplied (n t : Nat) : Job → World → Supply → Supply
  | .done _, _, l => l
  | .ask e next, w, l =>
    match w.perform t e with
    | (w', .reply r) => supplied n t (next r) w' ((l.asking w e).hearing w n t e r)
    | (_, .wait _) => l.asking w e

/-- What they may come from once a task has gone on. Other tasks than those of the session do not count. -/
def suppliedOf (w : World) (n t : Nat) (l : Supply) : Supply :=
  match w.tasks[t]? with
  | some task =>
    if task.session = n then
      match task.stage with
      | .fresh job => supplied n t job w l
      | .woken e next r => supplied n t (next r) (w.settleAtGate t e r) (l.hearing w n t e r)
      | _ => l
    else l
  | none => l

end World

/-! ## Answers that are awaited -/

theorem Effect.fetched?_of_accepts {e : Effect} {r : e.Reply} (h : e.accepts r = true) : e.fetched? r = none := by
  cases e with
  | send m =>
    cases r with
    | cancelled => cases h
    | back o =>
      cases o with
      | answered a =>
        have hlaunch : m.method = "POST" ∧ m.route = "/Migrate" := by
          simpa [Message.isLaunch] using (Bool.and_eq_true_iff.mp h).1
        refine if_neg fun hasks => ?_
        have hget : m.method = "GET" ∧ m.route = "/GetGeneratedResources" := by simpa [Message.asks] using hasks
        exact absurd (hlaunch.1.symm.trans hget.1) (by decide)
      | _ => cases h
  | _ => cases h

theorem Effect.fetched?_brokenOff {e : Effect} {r : e.Reply} (h : e.brokenOff = some r) : e.fetched? r = none := by
  cases e with
  | send m =>
    cases h
    rfl
  | _ => rfl

theorem Effect.fetched?_afterCancel {e : Effect} {r : e.Reply} : e.fetched? (e.afterCancel r) = none := by
  cases e <;> rfl

theorem Stage.Turned.fetching? {tells : Nat → Except Exit Result → Prop} {breaks : Prop} {a b : Stage} {o : Outcome}
    (h : Relation.ReflTransGen (Turned tells breaks) a b) (ho : b.fetching? = some o) : a.fetching? = some o := by
  induction h with
  | refl => exact ho
  | tail _ hstep ih =>
    refine ih ?_
    cases hstep with
    | again => cases Effect.fetched?_afterCancel.symm.trans ho
    | broken may breaksOff apart => cases (Effect.fetched?_brokenOff breaksOff).symm.trans ho
    | rings => exact ho
    | _ => cases ho

namespace Supply

variable {l : Supply} {w w' : World} {n t : Nat} {e : Effect} {r : e.Reply} {o : Outcome}

theorem Has.asking (h : l.Has o) (w : World) (e : Effect) : (l.asking w e).Has o := by
  cases e with
  | send m =>
    show Has (if m.asks = true then _ else l) o
    split
    · exact h.imp_left fun hsince => List.mem_append_left _ hsince
    · exact h
  | _ => exact h

theorem Covers.asking {items : List Resource} (h : l.Covers items) (w : World) (e : Effect) :
    (l.asking w e).Covers items := h.imp fun _ ho => ⟨ho.1.asking w e, ho.2⟩

theorem hearing_of_plain (h : e.accepts r = false) : l.hearing w n t e r = l := if_neg (Bool.eq_false_iff.mp h)

theorem hearing_of_quiet (h : e.isWait = false) : (l.asking w e).hearing w n t e r = l := by
  cases e with
  | send m => cases h
  | _ => rfl

/-- **The answer to a request for the resources is one of those they may come from**, whether it comes at once or
later. -/
theorem has_answer {uptake : Uptake e.Reply} (hperform : w.perform t e = (w', uptake))
    (hreply : uptake = .reply r ∨ ∃ due, uptake = .wait (some ⟨due, r⟩)) (ho : e.fetched? r = some o) :
    (l.asking w e).Has o := by
  cases e with
  | send m =>
    have hback : r = .back (w.script.next m).1.outcome := by
      rw [World.perform, World.send] at hperform
      dsimp only at hperform
      split at hperform
      · obtain ⟨-, rfl⟩ := Prod.mk.inj hperform
        rcases hreply with hreply | ⟨due, hreply⟩
        · cases hreply
          rfl
        · cases hreply
      · obtain ⟨-, rfl⟩ := Prod.mk.inj hperform
        rcases hreply with hreply | ⟨due, hreply⟩
        · cases hreply
        · cases hreply
          rfl
    subst hback
    rw [Effect.fetched?] at ho
    split at ho
    next hasks =>
      cases ho
      rw [asking, if_pos hasks]
      exact .inl (List.mem_append_right _ (List.mem_singleton.mpr rfl))
    next => cases ho
  | _ => cases ho

end Supply

namespace Stock

open World

variable {asked : Nat → Action} {bare : Bool} {n i t : Nat} {task : Task} {g : Errand} {l l' : Supply} {w w' : World}
  {stage stage' : Stage} {out : Option Nat} {s : Stock}

/-! ## Tasks that may go on -/

/-- What a stretch of work leaves at its end: what it gives of the resources is kept. -/
structure Shuts (bare : Bool) (g : Errand) (r : Except Exit Outturn) (s : Stock) : Prop where
  holds : s.Holds bare
  serves : ∀ a out, g = .action a → r = .ok out →
    ∃ result, out = .result result ∧ a.Serves (fun items => s.kept = some items) result

/-- The rest of the work of a task keeps to the contract. -/
abbrev Goes (bare : Bool) (g : Errand) (job : Job) (s : Stock) : Prop := job.Meets stocking (Shuts bare g) s

/-- Work may go on after a wait. -/
def GoesOn (bare : Bool) (g : Errand) (e : Effect) (next : e.Reply → Job) : Prop :=
  ∀ (r : e.Reply) (s : Stock), s.Waited bare e r → Goes bare g (next r) s

/-- **A task that may go on.** -/
inductive Stands (bare : Bool) (g : Errand) : Stage → Prop
  | fresh {job : Job} (goes : ∀ s : Stock, s.Holds bare → Goes bare g job s) : Stands bare g (.fresh job)
  | waiting {e : Effect} {next : e.Reply → Job} {alarm : Option (Alarm e.Reply)} (goes : GoesOn bare g e next) :
    Stands bare g (.waiting e next alarm)
  | woken {e : Effect} {next : e.Reply → Job} {r : e.Reply} (goes : GoesOn bare g e next) :
    Stands bare g (.woken e next r)
  | ended {r : Except Exit Result} : Stands bare g (.ended r)

theorem Stands.turned {tells : Nat → Except Exit Result → Prop} {breaks : Prop} (h : Stands bare g stage)
    (hturned : Relation.ReflTransGen (Stage.Turned tells breaks) stage stage') : Stands bare g stage' := by
  refine Stage.Turned.carries hturned (fun _ _ => .fresh fun s hs => ⟨hs, fun a out ha hr => by cases hr⟩) (fun e next r r' hs => ?_) (fun e next alarm r hs => ?_) h
  · cases hs with
    | woken goes => exact .woken goes
  · cases hs with
    | waiting goes => exact .woken goes

theorem stands_ofOp {a : Action} (hproper : a.isProper = true) : Stands bare (.action a) (.fresh (.ofOp a.op)) :=
  .fresh fun s hs => Op.meets_map.mpr ((keeps_action hproper hs).mono fun r s' hr => by
    refine ⟨hr.holds, fun b out hb hout => ?_⟩
    cases hb
    cases r with
    | error e => cases hout
    | ok result =>
      cases hout
      exact ⟨result, rfl, hr.serves result rfl⟩)

theorem stands_ofRound (b : Background) : Stands bare (.background b) (.fresh (.ofRound b.begin)) ∧
    Stands bare (.background b) (.fresh (.ofRound b.round)) := by
  have hround : ∀ {op : Op Bool}, op.Upholding stocking (Holds bare) →
      Stands bare (.background b) (.fresh (.ofRound op)) := fun hop =>
    .fresh fun s hs => Op.meets_map.mpr ((hop s hs).mono fun r s' hr => ⟨hr.1, fun a out ha => by cases ha⟩)
  exact ⟨hround (keeps_background b).1, hround (keeps_background b).2⟩

/-- **Every task of a session may go on**, and waits for no other resources than those that may be kept. Of the task
that works its stage says nothing. -/
structure Staffed (asked : Nat → Action) (n : Nat) (bare : Bool) (l : Supply) (out : Option Nat) (w : World) : Prop
    where
  known : n < w.sessions.length
  stands : ∀ (i : Nat) (task : Task), out ≠ some i → w.tasks[i]? = some task → task.session = n →
    Stands bare (task.errand asked i) task.stage
  fetching : ∀ (i : Nat) (task : Task) (o : Outcome), out ≠ some i → w.tasks[i]? = some task → task.session = n →
    task.stage.fetching? = some o → l.Has o

namespace Staffed

theorem passed (h : Staffed asked n bare l out w) (hw : Bypasses n w w') : Staffed asked n bare l out w' where
  known := hw.length ▸ h.known
  stands i task' hout hi' hsession := by
    rcases hw.back i task' hi' hsession with ⟨task, hi, hn, hloop, hturned⟩ | ⟨b, hb, hturned⟩
    · have herrand : task'.errand asked i = task.errand asked i := by rw [Task.errand, hloop]; rfl
      rw [herrand]
      exact (h.stands i task hout hi hn).turned hturned
    · rw [Task.errand, hb]
      exact (stands_ofRound b).1.turned hturned
  fetching i task' o hout hi' hsession ho := by
    rcases hw.back i task' hi' hsession with ⟨task, hi, hn, -, hturned⟩ | ⟨b, -, hturned⟩
    · exact h.fetching i task o hout hi hn (Stage.Turned.fetching? hturned ho)
    · cases Stage.Turned.fetching? hturned ho

theorem mono (h : Staffed asked n bare l out w) (hl : ∀ o, l.Has o → l'.Has o) : Staffed asked n bare l' out w :=
  { h with fetching := fun i task o hout hi hn ho => hl o (h.fetching i task o hout hi hn ho) }

theorem working (h : Staffed asked n bare l none w) : Staffed asked n bare l (some t) w where
  known := h.known
  stands i task _ := h.stands i task fun hout => by cases hout
  fetching i task o _ := h.fetching i task o fun hout => by cases hout

/-- **What others wait for is under way** when a launch is accepted. -/
theorem hearing (h : Staffed asked n bare l (some t) w) (e : Effect) (r : e.Reply) :
    Staffed asked n bare (l.hearing w n t e r) (some t) w := by
  cases haccepts : e.accepts r with
  | false => rwa [Supply.hearing_of_plain haccepts]
  | true =>
    refine { h with fetching := fun i task o hout hi hn ho => ?_ }
    rw [Supply.hearing, if_pos haccepts]
    refine .inr (List.mem_filterMap.mpr ⟨task, List.mem_filter.mpr ⟨?_, decide_eq_true hn⟩, ho⟩)
    exact List.mem_eraseIdx_iff_getElem?.mpr ⟨i, fun hit => hout (congrArg some hit.symm), hi⟩

theorem settled (h : Staffed asked n bare l (some t) w) (ht : w.tasks[t]? = some task)
    (hstands : Stands bare (task.errand asked t) stage) (hfetching : ∀ o, stage.fetching? = some o → l.Has o) :
    Staffed asked n bare l none (w.setStage t stage) := by
  refine ⟨h.known, fun i task' _ hi' hsession => ?_, fun i task' o _ hi' hsession ho => ?_⟩
  all_goals rcases setStage_cases hi' with ⟨rfl, before, hi, rfl⟩ | ⟨hne, hi⟩
  · cases ht.symm.trans hi
    exact hstands
  · exact h.stands i task' (fun hout => hne (Option.some.inj hout)) hi hsession
  · exact hfetching o ho
  · exact h.fetching i task' o (fun hout => hne (Option.some.inj hout)) hi hsession ho

end Staffed

/-! ## A task works -/

/-- **What is kept is accounted for**, and every task may go on. -/
structure Accounted (asked : Nat → Action) (n : Nat) (bare : Bool) (w : World) (l : Supply) : Prop
    extends Staffed asked n bare l none w where
  isBare : (w.session n).isBare = bare
  empty : bare = true → (w.session n).resources = none
  covered : ∀ items, (w.session n).resources = some items → l.Covers items

/-- A task of the session that has come to its end gives of the resources what is kept. -/
def Serves (g : Errand) (n t : Nat) (w : World) : Prop :=
  ∀ a result, g = .action a → w.verdict? t = some (.ok result) →
    a.Serves (fun items => (w.session n).resources = some items) result

/-- **A task of the session works**, and sees its resources as they are. -/
structure Works (asked : Nat → Action) (bare : Bool) (l : Supply) (n t : Nat) (g : Errand) (w : World) (s : Stock) :
    Prop extends Staffed asked n bare l (some t) w where
  task : ∃ task : Task, w.tasks[t]? = some task ∧ task.session = n ∧ task.errand asked t = g
  site : s.site = w.site n
  tidy : s.Tidy bare
  fetched : ∀ o, s.fetched = some o → l.Has o
  covered : s.due = false → ∀ items, s.kept = some items → l.Covers items

theorem task_passed (h : ∃ task : Task, w.tasks[t]? = some task ∧ task.session = n ∧ task.errand asked t = g)
    (hw : Bypasses n w w') : ∃ task : Task, w'.tasks[t]? = some task ∧ task.session = n ∧ task.errand asked t = g := by
  obtain ⟨task, ht, hsession, herrand⟩ := h
  obtain ⟨task', ht', hsession', hloop⟩ := hw.onward t task ht
  refine ⟨task', ht', hsession'.trans hsession, ?_⟩
  rw [← herrand, Task.errand, hloop]
  rfl

theorem session_passed (hw : Bypasses n w w') : (w'.session n).resources = (w.session n).resources ∧
    (w'.session n).isBare = (w.session n).isBare := by
  obtain ⟨_, _, _, _, hn⟩ := hw.session
  rw [hn]
  exact ⟨rfl, rfl⟩

theorem Accounted.passed (h : Accounted asked n bare w l) (hw : Bypasses n w w') : Accounted asked n bare w' l where
  toStaffed := h.toStaffed.passed hw
  isBare := (session_passed hw).2.trans h.isBare
  empty hbare := (session_passed hw).1.trans (h.empty hbare)
  covered items hitems := h.covered items ((session_passed hw).1.symm.trans hitems)

/-- What a task has at hand that goes on after a wait. -/
def atHand (n : Nat) (e : Effect) (r : e.Reply) (w : World) : Stock where
  fetched := e.fetched? r
  due := e.accepts r && (w.session n).resources.isSome
  site := w.site n

namespace Works

theorem sessionOf (h : Works asked bare l n t g w s) : w.sessionOf t = n := by
  obtain ⟨task, ht, hsession, -⟩ := h.task
  simp only [World.sessionOf, ht, hsession]

theorem session (h : Works asked bare l n t g w s) : s.site.session = w.session n := congrArg Site.session h.site

/-- **A task goes on after a wait**, with what it was answered. -/
theorem of_wait {e : Effect} {r : e.Reply} (hstaffed : Staffed asked n bare l (some t) w)
    (htask : ∃ task : Task, w.tasks[t]? = some task ∧ task.session = n ∧ task.errand asked t = g)
    (hbare : (w.session n).isBare = bare) (hempty : bare = true → (w.session n).resources = none)
    (hcovered : ∀ items, (w.session n).resources = some items → l.Covers items)
    (hfetched : ∀ o, e.fetched? r = some o → l.Has o) (hw : Bypasses n w w') :
    Works asked bare (l.hearing w n t e r) n t g w' (atHand n e r w') ∧ (atHand n e r w').Waited bare e r := by
  have htidy : (atHand n e r w').Tidy bare :=
    ⟨(session_passed hw).2.trans hbare, fun h => (session_passed hw).1.trans (hempty h)⟩
  refine ⟨⟨(hstaffed.hearing e r).passed hw, task_passed htask hw, rfl, htidy, fun o ho => ?_,
    fun hdue items hitems => ?_⟩, htidy, rfl, rfl⟩
  · cases haccepts : e.accepts r with
    | true => cases (Effect.fetched?_of_accepts haccepts).symm.trans ho
    | false =>
      rw [Supply.hearing_of_plain haccepts]
      exact hfetched o ho
  · cases haccepts : e.accepts r with
    | true =>
      have hkept : (w'.session n).resources = some items := hitems
      rw [atHand, haccepts, hkept] at hdue
      cases hdue
    | false =>
      rw [Supply.hearing_of_plain haccepts]
      exact hcovered items ((session_passed hw).1.symm.trans hitems)

theorem passed (h : Works asked bare l n t g w s) (hw : Bypasses n w w') (hl : ∀ o, l.Has o → l'.Has o) :
    Works asked bare l' n t g w' { s with site := w'.site n } ∧ s.Same { s with site := w'.site n } := by
  have hsame : s.Same { s with site := w'.site n } := by
    refine ⟨rfl, rfl, (session_passed hw).1.trans ?_, (session_passed hw).2.trans ?_⟩
    · exact (congrArg Session.resources h.session).symm
    · exact (congrArg Session.isBare h.session).symm
  refine ⟨⟨(h.toStaffed.mono hl).passed hw, task_passed h.task hw, rfl, h.tidy.same hsame,
    fun o ho => hl o (h.fetched o ho), fun hdue items hitems => ?_⟩, hsame⟩
  exact (h.covered hdue items (hsame.kept.symm.trans hitems)).imp fun o ho => ⟨hl o ho.1, ho.2⟩

theorem changed (h : Works asked bare l n t g w s) {y : Site} (hy : s.Admits y) :
    Works asked bare l n t g (w.setSite n y) (s.after y) where
  known := by
    rw [World.setSite, List.length_set]
    exact h.known
  stands := h.stands
  fetching := h.fetching
  task := h.task
  site := by
    rw [site_setSite h.known, after, h.site]
    rfl
  tidy := h.tidy.after hy
  fetched := h.fetched
  covered hdue items hitems := by
    have hkept : y.session.resources = some items := hitems
    have hsettled : s.due = false := by
      have hdue' : (s.due && y.session.resources.isSome) = false := hdue
      rwa [hkept, Option.isSome_some, Bool.and_true] at hdue'
    rcases hy.kept with hsame | hnone | ⟨-, o, items', hfetched, hgives, hnow⟩
    · exact h.covered hsettled items (hsame.symm.trans hkept)
    · cases hnone.symm.trans hkept
    · cases hnow.symm.trans hkept
      exact ⟨o, h.fetched o hfetched, hgives⟩

/-- **A task that works comes to a stage** from which it may go on, and leaves what is kept accounted for. -/
theorem settled (h : Works asked bare l n t g w s) (hsettled : s.due = false) (hstands : Stands bare g stage)
    (hfetching : ∀ o, stage.fetching? = some o → l.Has o) : Accounted asked n bare (w.setStage t stage) l := by
  obtain ⟨task, ht, -, herrand⟩ := h.task
  refine ⟨h.toStaffed.settled ht (herrand.symm ▸ hstands) hfetching, ?_, fun hbare => ?_, fun items hitems => ?_⟩
  · exact (congrArg Session.isBare h.session).symm.trans h.tidy.isBare
  · exact (congrArg Session.resources h.session).symm.trans (h.tidy.empty hbare)
  · exact h.covered hsettled items ((congrArg Session.resources h.session).trans hitems)

end Works

/-- **A task comes to the end of a stretch of work.** -/
theorem conclude_accounted {r : Except Exit Outturn} (h : Works asked bare l n t g w s) (hshuts : Shuts bare g r s) :
    Accounted asked n bare (w.conclude t r) l ∧ Serves g n t (w.conclude t r) := by
  obtain ⟨task, ht, -, herrand⟩ := h.task
  have hkept : s.kept = (w.session n).resources := congrArg Session.resources h.session
  have hfinish : ∀ result : Except Exit Result, w.conclude t r = w.finish t result →
      (∀ a x, g = .action a → result = .ok x → a.Serves (fun items => s.kept = some items) x) →
      Accounted asked n bare (w.conclude t r) l ∧ Serves g n t (w.conclude t r) := by
    intro result heq hserves
    have htold : Bypasses n (w.setStage t (.ended result)) (w.finish t result) :=
      .of_stirred (stirred_finish w t result)
    have hended : Accounted asked n bare (w.setStage t (.ended result)) l :=
      h.settled hshuts.holds.settled .ended fun o ho => by cases ho
    refine ⟨heq ▸ hended.passed htold, fun a x ha hverdict => ?_⟩
    rw [heq, verdict?_finish ht] at hverdict
    refine (hserves a x ha (Option.some.inj hverdict)).mono fun items hitems => ?_
    rw [heq, (session_passed htold).1]
    exact hkept.symm.trans hitems
  cases hr : r with
  | error e => exact hr ▸ hfinish (.error e) (by rw [hr]; rfl) fun a x ha hx => by cases hx
  | ok out =>
    cases out with
    | result x =>
      refine hr ▸ hfinish (.ok x) (by rw [hr]; rfl) fun a y ha hy => ?_
      obtain ⟨result, hout, hserves⟩ := hshuts.serves a _ ha hr
      cases hout
      cases hy
      exact hserves
    | again =>
      -- Only work in the background begins again.
      have hnone : ∀ a, g ≠ .action a := fun a ha => by
        obtain ⟨result, hout, -⟩ := hshuts.serves a _ ha hr
        cases hout
      cases hloop : task.loop with
      | none =>
        have hg : g = .action (asked t) := by rw [← herrand, Task.errand, hloop]
        exact absurd hg (hnone _)
      | some b =>
        have hg : g = .background b := by rw [← herrand, Task.errand, hloop]
        have heq : w.conclude t (.ok .again) = { w.setStage t (.fresh (.ofRound b.round)) with
            ready := ⟨t, 0⟩ :: (w.setStage t (.fresh (.ofRound b.round))).ready } := by
          rw [conclude, ht]
          simp only [Option.bind_some, hloop]
        have hnext : Accounted asked n bare (w.setStage t (.fresh (.ofRound b.round))) l :=
          h.settled hshuts.holds.settled (hg ▸ (stands_ofRound b).2) fun o ho => by cases ho
        refine ⟨?_, fun a x ha => absurd ha (hnone a)⟩
        rw [heq]
        exact hnext.passed (.of_tasks rfl rfl rfl)

/-- **A task that works leaves what is kept accounted for**, and gives of it what it says. -/
theorem run_accounted {job : Job} (h : Works asked bare l n t g w s) (hgoes : Goes bare g job s) :
    Accounted asked n bare (run t job w) (supplied n t job w l) ∧ Serves g n t (run t job w) := by
  induction job generalizing w s l with
  | done r => exact conclude_accounted h hgoes
  | ask e next ih =>
    have hother : e.isOther = true → Accounted asked n bare (run t (.ask e next) w) (supplied n t (.ask e next) w l) ∧
        Serves g n t (run t (.ask e next) w) := by
      intro he
      have hpasses : Bypasses n w (w.perform t e).1 := .of_astir (astir_perform w t he)
      have hleads : ∀ r s', s.Leads e r s' → Goes bare g (next r) s' := fun r s' hr => hgoes.2 r s' (by
        cases e with
        | look => cases he
        | change y => cases he
        | _ => exact hr)
      have hsettled : e.isWait = true → s.due = false := by
        cases e with
        | look => exact fun hwait => by cases hwait
        | change y => cases he
        | _ => exact hgoes.1
      rw [run, supplied]
      cases hperform : w.perform t e with
      | mk w' uptake =>
        rw [hperform] at hpasses
        cases uptake with
        | wait alarm =>
          obtain ⟨hworks, -⟩ := h.passed hpasses fun o ho => ho.asking w e
          have hwait := isWait_of_perform hperform
          have hgoesOn : GoesOn bare g e next := fun r s' hs' =>
            hleads r s' ⟨(fun hnot => by cases hwait.symm.trans hnot), fun _ => h.tidy.isBare.symm ▸ hs'⟩
          refine ⟨hworks.settled (hsettled hwait) (.waiting hgoesOn) fun o ho => ?_, fun a result _ hverdict => ?_⟩
          · cases alarm with
            | none => cases ho
            | some alarm => exact Supply.has_answer hperform (.inr ⟨alarm.due, rfl⟩) ho
          · obtain ⟨task, ht, -⟩ := hworks.task
            rw [verdict?, stage?_setStage_self ht] at hverdict
            cases hverdict
        | reply r =>
          cases hwait : e.isWait with
          | false =>
            obtain ⟨hworks, hsame⟩ := h.passed hpasses fun o ho => ho
            dsimp only
            rw [Supply.hearing_of_quiet hwait]
            exact ih r hworks (hleads r _ ⟨fun _ => hsame, (fun hnot => by cases hwait.symm.trans hnot)⟩)
          | true =>
            have hsession := h.session
            obtain ⟨hworks, hwaited⟩ := Works.of_wait (e := e) (r := r)
              (h.toStaffed.mono fun o ho => ho.asking w e) h.task (hsession ▸ h.tidy.isBare) (hsession ▸ h.tidy.empty)
              (fun items hitems =>
                (h.covered (hsettled hwait) items ((congrArg Session.resources hsession).trans hitems)).asking w e)
              (fun o => Supply.has_answer hperform (.inl rfl)) hpasses
            exact ih r hworks (hleads r _
              ⟨(fun hnot => by cases hwait.symm.trans hnot), fun _ => h.tidy.isBare.symm ▸ hwaited⟩)
    cases e with
    | look =>
      have hlook := ih s.site h (hgoes.2 s.site s ⟨rfl, rfl⟩)
      rwa [run, supplied, perform, h.sessionOf, ← h.site]
    | change y =>
      have hchange := ih () (h.changed hgoes.1) (hgoes.2 () (s.after y) rfl)
      rwa [run, supplied, perform, h.sessionOf]
    | _ => exact hother rfl

/-! ## A task goes on -/

/-- **A task of the session that goes on leaves what is kept accounted for.** When it comes to its end by that, it gives
of the resources what is kept. -/
theorem resume_accounted (h : Accounted asked n bare w l) (ht : w.tasks[t]? = some task) (hsession : task.session = n) :
    Accounted asked n bare (w.resume t) (w.suppliedOf n t l) ∧
      (w.verdict? t = none → Serves (task.errand asked t) n t (w.resume t)) := by
  have hstands := h.stands t task (fun hout => by cases hout) ht hsession
  have hsupplied : w.suppliedOf n t l = match task.stage with
      | .fresh job => supplied n t job w l
      | .woken e next r => supplied n t (next r) (w.settleAtGate t e r) (l.hearing w n t e r)
      | _ => l := by
    rw [suppliedOf, ht]
    exact if_pos hsession
  -- Who cannot go on leaves all as it is.
  have hidle : Accounted asked n bare w l ∧ (w.verdict? t = none → Serves (task.errand asked t) n t w) :=
    ⟨h, fun hnone _ _ _ hverdict => by cases hnone.symm.trans hverdict⟩
  rw [hsupplied]
  unfold resume
  cases hstage : task.stage with
  | waiting e next alarm =>
    simp only [ht, Option.map_some, hstage]
    exact hidle
  | ended r =>
    simp only [ht, Option.map_some, hstage]
    exact hidle
  | fresh job =>
    simp only [ht, Option.map_some, hstage]
    rw [hstage] at hstands
    cases hstands with
    | fresh goes =>
      let s : Stock := { fetched := none, due := false, site := w.site n }
      have hworks : Works asked bare l n t (task.errand asked t) w s :=
        ⟨h.toStaffed.working, ⟨task, ht, hsession, rfl⟩, rfl, ⟨h.isBare, h.empty⟩, (fun o ho => by cases ho),
          fun _ => h.covered⟩
      exact (run_accounted hworks (goes s ⟨hworks.tidy, rfl⟩)).imp_right fun hserves _ => hserves
  | woken e next r =>
    simp only [ht, Option.map_some, hstage]
    rw [hstage] at hstands
    cases hstands with
    | woken goes =>
      have hfetched : ∀ o, e.fetched? r = some o → l.Has o := fun o ho =>
        h.fetching t task o (fun hout => by cases hout) ht hsession (by rw [hstage]; exact ho)
      obtain ⟨hworks, hwaited⟩ := Works.of_wait (e := e) (r := r) h.toStaffed.working ⟨task, ht, hsession, rfl⟩ h.isBare
        h.empty h.covered hfetched (.of_stirred (stirred_settleAtGate w t e r))
      exact (run_accounted hworks (goes r _ hwaited)).imp_right fun hserves _ => hserves

end Stock

namespace World

variable {asked : Nat → Action} {bare : Bool} {n t : Nat} {w₀ w w' : World} {l l' : Supply} {task : Task}

theorem suppliedOf_other (ht : w.tasks[t]? = some task) (hother : task.session ≠ n) : w.suppliedOf n t l = l := by
  rw [suppliedOf, ht]
  exact if_neg hother

/-- **One thing that happens**, and what the resources of a session may come from after it: somebody calls for an action
or subscribes to the states of a run, a task goes on, a wait ends, a task is cancelled, or something changes that keeps
no resources of the session. What launches a run of it is a launch, and no bare request to the service. -/
inductive SupplyMove (asked : Nat → Action) (n : Nat) : World × Supply → World × Supply → Prop
  | call {w : World} {l : Supply} {m : Nat} {a : Action} (known : m < w.sessions.length)
    (isAsked : asked w.tasks.length = a) (proper : m = n → a.isProper = true) :
    SupplyMove asked n (w, l) ((w.spawn m (.ofOp a.op)).2, l)
  | subscribe {w : World} {l : Supply} {m : Nat} {b : Background} (known : m < w.sessions.length) :
    SupplyMove asked n (w, l) ((w.fork m b).2, l)
  | resume (w : World) (l : Supply) (t : Nat) : SupplyMove asked n (w, l) (w.resume t, w.suppliedOf n t l)
  | ring (w : World) (l : Supply) (t : Nat) : SupplyMove asked n (w, l) (w.ring t, l)
  | serve (w : World) (l : Supply) (t : Nat) : SupplyMove asked n (w, l) (w.wakeAtStorage t, l)
  | cancel (w : World) (l : Supply) (t : Nat) : SupplyMove asked n (w, l) (w.cancel t, l)
  | elsewhere {w w' : World} {l : Supply} (length : w.sessions.length ≤ w'.sessions.length)
    (isBare : (w'.session n).isBare = (w.session n).isBare)
    (resources : (w'.session n).resources = (w.session n).resources ∨ (w'.session n).resources = none)
    (tasks : w'.tasks = w.tasks) : SupplyMove asked n (w, l) (w', l)

/-- One thing happens after the other. -/
abbrev SupplyHistory (asked : Nat → Action) (n : Nat) : World × Supply → World × Supply → Prop :=
  Relation.ReflTransGen (SupplyMove asked n)

open Stock

theorem accounted_of_start (known : n < w.sessions.length) (htasks : w.tasks = [])
    (hnone : (w.session n).resources = none) : Accounted asked n (w.session n).isBare w {} := by
  have hno : ∀ {i : Nat} {task : Task}, w.tasks[i]? ≠ some task := fun hi => by
    rw [htasks] at hi
    cases hi
  exact ⟨⟨known, fun i task _ hi => absurd hi hno, fun i task o _ hi => absurd hi hno⟩, rfl, fun _ => hnone,
    fun items hitems => by cases hnone.symm.trans hitems⟩

/-- **A task goes on**, whose ever it is. -/
theorem accounted_resume (h : Accounted asked n bare w l) (t : Nat) :
    Accounted asked n bare (w.resume t) (w.suppliedOf n t l) := by
  cases ht : w.tasks[t]? with
  | none =>
    rw [resume_of_none ht, suppliedOf, ht]
    exact h
  | some task =>
    by_cases hsession : task.session = n
    · exact (resume_accounted h ht hsession).1
    · rw [suppliedOf_other ht hsession]
      exact h.passed (resume_bypasses ht hsession)

theorem accounted_call (h : Accounted asked n bare w l) {m : Nat} {a : Action} (hasked : asked w.tasks.length = a)
    (hproper : m = n → a.isProper = true) : Accounted asked n bare (w.spawn m (.ofOp a.op)).2 l := by
  refine ⟨⟨h.known, fun i task _ hi hsession => ?_, fun i task o _ hi hsession ho => ?_⟩, h.isBare, h.empty, h.covered⟩
  · rcases spawn_before hi with hi | ⟨rfl, rfl⟩
    · exact h.stands i task (fun hout => by cases hout) hi hsession
    · show Stock.Stands bare (.action (asked w.tasks.length)) (.fresh (.ofOp a.op))
      rw [hasked]
      exact stands_ofOp (hproper hsession)
  · rcases spawn_before hi with hi | ⟨-, rfl⟩
    · exact h.fetching i task o (fun hout => by cases hout) hi hsession ho
    · cases ho

/-- **Whatever happens leaves what is kept accounted for.** -/
theorem SupplyMove.accounted (h : SupplyMove asked n (w, l) (w', l')) (hw : Accounted asked n bare w l) :
    Accounted asked n bare w' l' := by
  have hstirred : Stirred (fun _ _ => True) True w w' → Accounted asked n bare w' l :=
    fun h => hw.passed (.of_stirred h)
  cases h with
  | call known isAsked proper => exact accounted_call hw isAsked proper
  | subscribe known => exact hw.passed (.of_astir (astir_fork ..))
  | resume _ _ t => exact accounted_resume hw t
  | ring _ _ t => exact hstirred (stirred_ring w t)
  | serve _ _ t => exact hstirred (stirred_wakeAtStorage w t)
  | cancel _ _ t => exact hstirred (stirred_cancelWithin trivial _ w t)
  | elsewhere length isBare resources tasks =>
    refine ⟨⟨Nat.lt_of_lt_of_le hw.known length, tasks ▸ hw.stands, tasks ▸ hw.fetching⟩, isBare.trans hw.isBare,
      fun hbare => ?_, fun items hitems => ?_⟩
    · rcases resources with hsame | hnone
      · exact hsame.trans (hw.empty hbare)
      · exact hnone
    · rcases resources with hsame | hnone
      · exact hw.covered items (hsame.symm.trans hitems)
      · cases hnone.symm.trans hitems

theorem SupplyHistory.accounted {p p' : World × Supply} (h : SupplyHistory asked n p p')
    (hw : Accounted asked n bare p.1 p.2) : Accounted asked n bare p'.1 p'.2 := by
  induction h with
  | refl => exact hw
  | tail _ hmove ih => exact SupplyMove.accounted hmove ih

/-- **Nothing is shown that was fetched before a launch**, save what was under way when the service accepted it. After
any history of a session that had kept nothing, the resources that it keeps come from an answer to a request that its
tasks sent since the service accepted a launch of it last, or that others of them were waiting for at that moment. So do
those that an action gives, all of them or a page, when it comes to its end. -/
theorem served_since_launch (known : n < w₀.sessions.length) (htasks : w₀.tasks = [])
    (hnone : (w₀.session n).resources = none) (h : SupplyHistory asked n (w₀, {}) (w, l)) :
    (∀ items, (w.session n).resources = some items → l.Covers items) ∧
      ∀ (t : Nat) (task : Task) (result : Result), w.tasks[t]? = some task → task.session = n → task.loop = none →
        w.verdict? t = none → (w.resume t).verdict? t = some (.ok result) →
        (asked t).Serves (w.suppliedOf n t l).Covers result := by
  have haccounted := SupplyHistory.accounted h (accounted_of_start known htasks hnone)
  refine ⟨haccounted.covered, fun t task result ht hsession hloop hlive hended => ?_⟩
  obtain ⟨hafter, hserves⟩ := resume_accounted haccounted ht hsession
  have herrand : task.errand asked t = .action (asked t) := by rw [Task.errand, hloop]
  exact (hserves hlive _ result herrand hended).mono hafter.covered

/-! ## A fetch that is under way -/

/-- The next call is made, and goes on at once. -/
def attendSupply (asked : Nat → Action) (n : Nat) (p : World × Supply) : World × Supply :=
  let w := (p.1.spawn n (.ofOp (asked p.1.tasks.length).op)).2
  (w.resume p.1.tasks.length, w.suppliedOf n p.1.tasks.length p.2)

theorem attended_supply {p : World × Supply} (hproper : ∀ i, (asked i).isProper = true)
    (known : n < p.1.sessions.length) : SupplyHistory asked n p (attendSupply asked n p) :=
  (Relation.ReflTransGen.single (.call known rfl fun _ => hproper _)).tail (.resume _ _ _)

/-- A session whose service takes its time to list the resources. -/
def lateListing : World where
  sessions := [{}]
  script :=
    { routes := [("/Migrate", [Script.answering ""]),
        ("/GetGeneratedResources", [{ Script.answering "\x7b\"DatabaseName\":\"db\"\x7d" with delay := 1 }])] }

/-- What is asked of the session: to fetch the resources, and to launch a run. -/
def fetchAndLaunch : Nat → Action
  | 0 => .whole .reconcileNow
  | _ => .poll (.submit { target := { database := .text "a" }, mode := .dataOnly, transfer := .bulk })

/-- The service has accepted a launch while the resources were being fetched. -/
def launchedMeanwhile : World × Supply :=
  attendSupply fetchAndLaunch 0 (attendSupply fetchAndLaunch 0 (lateListing, {}))

/-- The resources have come. -/
def listedLate : World := launchedMeanwhile.1.ring 0

/-- The names of the resources that an action gave. -/
def namesGiven (r : Except Exit Result) : List String :=
  match r with
  | .ok (.resources items) => items.map Resource.name
  | _ => []

/-- A fetch that was under way when the launch was accepted gives resources, though nothing was fetched since. -/
theorem listed_late : launchedMeanwhile.2.since = [] ∧ ∃ result,
    (listedLate.resume 0).verdict? 0 = some (.ok result) ∧ namesGiven (.ok result) = ["db"] ∧
      (Action.whole .reconcileNow).Serves (listedLate.suppliedOf 0 0 launchedMeanwhile.2).Covers result := by
  have hproper : ∀ i, (fetchAndLaunch i).isProper = true := by
    rintro (_ | _) <;> rfl
  have hlaunched : SupplyHistory fetchAndLaunch 0 (lateListing, {}) launchedMeanwhile :=
    (attended_supply hproper (by decide +kernel)).trans (attended_supply hproper (by decide +kernel))
  have hlisted : SupplyHistory fetchAndLaunch 0 (lateListing, {}) (listedLate, launchedMeanwhile.2) :=
    hlaunched.tail (.ring _ _ 0)
  have hnone : launchedMeanwhile.2.since.isEmpty = true := by decide +kernel
  have hnames : ((listedLate.resume 0).verdict? 0).map namesGiven = some ["db"] := by decide +kernel
  obtain ⟨-, hserves⟩ := served_since_launch (n := 0) (by decide) rfl rfl hlisted
  obtain ⟨r, hended, hr⟩ := Option.map_eq_some_iff.mp hnames
  cases r with
  | error e => cases hr
  | ok result => exact ⟨List.isEmpty_iff.mp hnone, result, hended, hr, hserves 0 _ result rfl rfl rfl rfl hended⟩

end World

end Cutover
