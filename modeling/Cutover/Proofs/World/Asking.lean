import Cutover.Proofs.Control.Asking
import Cutover.Proofs.World.Desk
import Cutover.Proofs.World.Doing
import Cutover.Proofs.World.Touching

/-!
# The books of a world

What is sent to the service tells how often the resources were asked for. An operation that is done alone
leaves of the books what its contract says.

* `World.requests`, `World.books`: how often the service was asked, and the books of a session;
* `World.Does.upheld`: **what an operation upholds holds of the books after it was done**;
* `World.Does.requests_action`: **as many requests were sent as fetches were counted**;
* `World.Does.keeps`: **resources that are kept stay, and nobody asks for them**.
-/

namespace Cutover

namespace World

variable {n t : Nat} {w w' w'' : World} {I : Asking → Prop} {s s' : Asking} {stage : Stage}
variable {op : Op Result} {r : Except Exit Result}

/-- How often the service was asked for the resources. -/
def requests (w : World) : Nat := w.sent.countP Message.asks

/-- The books of a session. -/
def books (w : World) (n : Nat) : Asking := ⟨w.site n, w.requests⟩

theorem requests_perform (w : World) (t : Nat) (e : Effect) :
    (w.perform t e).1.requests = w.requests + e.asks := by
  rw [requests, sent_perform, List.countP_append, requests]
  refine congrArg _ ?_
  cases e with
  | send m => exact List.countP_singleton
  | _ => rfl

theorem same_of_session (hrequests : w'.requests = w.requests) (h : ∃ stateGate fetchGate latch streams,
    w'.session n = { w.session n with stateGate, fetchGate, latch, streams }) :
    (w.books n).Same (w'.books n) := by
  obtain ⟨_, _, _, _, hsession⟩ := h
  have hkept := congrArg Session.resources hsession
  have hcounted := congrArg Session.fetchCount hsession
  exact ⟨hkept, hcounted, hrequests⟩

theorem requests_of_indoors (h : w.Indoors w') : w'.requests = w.requests := by rw [requests, h.sent, requests]

theorem books_perform (w : World) (t n : Nat) {e : Effect} (he : e.isOther = true) :
    Asking.Same { w.books n with asked := w.requests + e.asks } ((w.perform t e).1.books n) := by
  obtain ⟨_, _, _, _, hsession⟩ := (astir_perform w t he).sessions n
  have hkept := congrArg Session.resources hsession
  have hcounted := congrArg Session.fetchCount hsession
  exact ⟨hkept, hcounted, requests_perform w t e⟩

end World

namespace Asking

open World

variable {n t : Nat} {w w' w'' : World} {I : Asking → Prop} {s s' : Asking} {stage : Stage}

/-- **The rest of the work of a task upholds an invariant of the books**, which are as they are until the task
goes on. -/
inductive Goes (I : Asking → Prop) (s : Asking) : Stage → Prop
  | fresh {job : Job} (goes : ∀ s', s.Same s' → job.Meets asking (fun _ => I) s') : Goes I s (.fresh job)
  | waiting {e : Effect} {next : e.Reply → Job} {alarm : Option (Alarm e.Reply)}
    (goes : ∀ r s', s.Same s' → (next r).Meets asking (fun _ => I) s') : Goes I s (.waiting e next alarm)
  | woken {e : Effect} {next : e.Reply → Job} {r : e.Reply}
    (goes : ∀ r s', s.Same s' → (next r).Meets asking (fun _ => I) s') : Goes I s (.woken e next r)
  | ended {r : Except Exit Result} (ends : ∀ s', s.Same s' → I s') : Goes I s (.ended r)

theorem Goes.same (h : Goes I s stage) (hs : s.Same s') : Goes I s' stage := by
  cases h with
  | fresh goes => exact .fresh fun s'' hs' => goes s'' (hs.trans hs')
  | waiting goes => exact .waiting fun r s'' hs' => goes r s'' (hs.trans hs')
  | woken goes => exact .woken fun r s'' hs' => goes r s'' (hs.trans hs')
  | ended ends => exact .ended fun s'' hs' => ends s'' (hs.trans hs')

/-- A task of a session works in no rounds, and the rest of its work upholds the invariant. -/
structure Going (I : Asking → Prop) (n t : Nat) (w : World) : Prop where
  known : n < w.sessions.length
  task : ∃ task : Task, w.tasks[t]? = some task ∧ task.session = n ∧ task.loop = none ∧
    Goes I (w.books n) task.stage

variable (hI : ∀ s s', I s → s.Same s' → I s')
include hI

theorem going_conclude {task : Task} (ht : w.tasks[t]? = some task) (hn : task.session < w.sessions.length)
    (hloop : task.loop = none) (hw : I (w.books task.session)) (r : Except Exit Outturn) :
    Going I task.session t (w.conclude t r) := by
  have hfinish : ∀ r, Going I task.session t (w.finish t r) := by
    intro r
    have htold : Stirred (fun _ _ => True) True (w.setStage t (.ended r)) (w.finish t r) :=
      stirred_wakeWatchers fun _ _ _ _ _ _ => trivial
    have hsame : (w.books task.session).Same ((w.finish t r).books task.session) :=
      same_of_session (requests_of_indoors (indoors_finish w t r)) (htold.sessions task.session)
    have hset : (w.setStage t (.ended r)).tasks[t]? = some { task with stage := .ended r } :=
      World.tasks_setStage_self ht
    obtain ⟨stage, ht', hturned⟩ := htold.tasks t _ hset
    have hverdict : stage.verdict? = some r := Stage.Turned.verdict? hturned
    cases stage with
    | ended r' => exact ⟨htold.length ▸ hn, _, ht', rfl, hloop, .ended fun s' hs' => hI _ s' hw (hsame.trans hs')⟩
    | _ => cases hverdict
  unfold conclude
  split
  · exact hfinish _
  · exact hfinish _
  · split
    next b hb =>
      rw [ht, Option.bind_some, hloop] at hb
      cases hb
    next => exact hfinish _

/-- **A task that works upholds the invariant** if its work does. -/
theorem going_run {job : Job} {task : Task} (ht : w.tasks[t]? = some task) (hn : task.session < w.sessions.length)
    (hloop : task.loop = none) (hjob : job.Meets asking (fun _ => I) (w.books task.session)) :
    Going I task.session t (run t job w) := by
  induction job generalizing w task with
  | done r => exact going_conclude hI ht hn hloop hjob r
  | ask e next ih =>
    obtain ⟨-, hnext⟩ := hjob
    have hsession : w.sessionOf t = task.session := Touching.sessionOf_eq ht
    have hother : e.isOther = true → Going I task.session t (run t (.ask e next) w) := by
      intro he
      have hastir := astir_perform w t he
      have hbooks := books_perform w t task.session he
      obtain ⟨stage, watchers, ht', -⟩ := hastir.onward t task ht
      rw [run]
      generalize w.perform t e = done at hastir hbooks ht'
      obtain ⟨w', uptake⟩ := done
      have hn' : task.session < w'.sessions.length := hastir.length ▸ hn
      cases uptake with
      | reply r =>
        have hgoing := ih r ht' hn' hloop (hnext r _ (leads_of_same he hbooks))
        exact hgoing
      | wait alarm =>
        refine ⟨hn', { task with stage := .waiting e next alarm, watchers }, ?_, rfl, hloop, ?_⟩
        · exact World.tasks_setStage_self ht'
        · exact .waiting fun r s' hs' => hnext r s' (leads_of_same he (hbooks.trans hs'))
    cases e with
    | look =>
      refine ih _ ht hn hloop (hnext _ _ ⟨?_, rfl⟩)
      rw [hsession]
      rfl
    | change y =>
      rw [run, perform, hsession]
      have hbooks : (w.setSite task.session y).books task.session
          = { w.books task.session with site := { y with now := w.now } } := by
        rw [books, site_setSite hn]
        rfl
      refine ih () (w := w.setSite task.session y) ht ?_ hloop ?_
      · rw [show (w.setSite task.session y).sessions.length = _ from List.length_set]
        exact hn
      · rw [hbooks]
        exact hnext () _ rfl
    | _ => exact hother rfl

/-- **A task that goes on alone upholds the invariant.** -/
theorem going_alone? (h : Going I n t w) (hfirst : w.alone? t = some w') : Going I n t w' := by
  obtain ⟨task, ht, rfl, hloop, hgoes⟩ := h.task
  have hstage : w.stage? t = some task.stage := by rw [stage?, ht]; rfl
  rw [alone?, hstage] at hfirst
  have hn : task.session < (w.unqueue t).sessions.length := h.known
  -- A wait that ends leaves the books alone.
  have hwoken : ∀ {u v : World} {e : Effect} {next : e.Reply → Job} {r : e.Reply} {laps : Nat},
      u.tasks = w.tasks → u.sessions = w.sessions → u.sent = w.sent →
      v = (u.setStage t (.woken e next r)).enqueue t laps →
      (∀ r s', (w.books task.session).Same s' → (next r).Meets asking (fun _ => I) s') →
      Going I task.session t v := by
    rintro u _ e next r laps htasks hsessions hsent rfl hnext
    have hsame : (w.books task.session).Same (((u.setStage t (.woken e next r)).enqueue t laps).books task.session) := by
      have hsession : u.session task.session = w.session task.session := by simp only [World.session, hsessions]
      have hkept := congrArg Session.resources hsession
      have hcounted := congrArg Session.fetchCount hsession
      exact ⟨hkept, hcounted, congrArg (List.countP Message.asks) hsent⟩
    refine ⟨(congrArg List.length hsessions).symm ▸ h.known, { task with stage := .woken e next r }, ?_, rfl, hloop,
      .woken fun r s' hs' => hnext r s' (hsame.trans hs')⟩
    show (u.setStage t (.woken e next r)).tasks[t]? = _
    exact World.tasks_setStage_self (htasks ▸ ht)
  cases hcase : task.stage with
  | fresh job =>
    rw [hcase] at hfirst hgoes hstage
    cases hfirst
    cases hgoes with
    | fresh goes =>
      have hresume : (w.unqueue t).resume t = run t job (w.unqueue t) := by
        unfold World.resume
        rw [show ((w.unqueue t).tasks[t]?).map Task.stage = some (.fresh job) from hstage]
      rw [hresume]
      exact going_run hI (w := w.unqueue t) ht hn hloop (goes _ (.refl _))
  | woken e next r =>
    rw [hcase] at hfirst hgoes hstage
    cases hfirst
    cases hgoes with
    | woken goes =>
      have hresume : (w.unqueue t).resume t = run t (next r) ((w.unqueue t).settleAtGate t e r) := by
        unfold World.resume
        rw [show ((w.unqueue t).tasks[t]?).map Task.stage = some (.woken e next r) from hstage]
      rw [hresume]
      have hsettle : Stirred (fun _ _ => True) True (w.unqueue t) ((w.unqueue t).settleAtGate t e r) :=
        stirred_settleAtGate _ t e r
      obtain ⟨stage, ht', -⟩ := hsettle.tasks t task ht
      have hsame : ((w.unqueue t).books task.session).Same (((w.unqueue t).settleAtGate t e r).books task.session) :=
        same_of_session (requests_of_indoors (indoors_settleAtGate _ t e r)) (hsettle.sessions task.session)
      have hgoing := going_run hI ht' (hsettle.length ▸ hn) hloop (goes r _ hsame)
      exact hgoing
  | waiting e next alarm =>
    rw [hcase] at hfirst hgoes hstage
    cases hgoes with
    | waiting goes =>
      cases alarm with
      | some a =>
        cases hfirst
        obtain ⟨laps, hring⟩ := ring_eq (w := { w with now := max w.now a.due }) hstage
        exact hwoken (u := { w with now := max w.now a.due }) rfl rfl rfl hring goes
      | none =>
        cases e with
        | storageTurn =>
          cases hfirst
          exact hwoken (u := w.unqueue t) rfl rfl rfl (wakeAtStorage_eq (w := w.unqueue t) hstage) goes
        | _ => cases hfirst
  | ended r =>
    rw [hcase] at hfirst
    cases hfirst

theorem going_alone (h : Going I n t w) (halone : Alone t w w') : Going I n t w' := by
  induction halone with
  | refl => exact h
  | step first _ ih => exact ih (going_alone? hI h first)

end Asking

namespace World

variable {n : Nat} {w w' : World} {I : Asking → Prop} {op : Op Result} {r : Except Exit Result}

/-- **What an operation upholds holds of the books** once it was done alone. -/
theorem Does.upheld (h : Does n op w w' r) (hn : n < w.sessions.length) (hI : ∀ s s', I s → Asking.Same s s' → I s')
    (hop : op.Upholding asking I) (hw : I (w.books n)) : I (w'.books n) := by
  have hstart : Asking.Going I n w.tasks.length (w.spawn n (.ofOp op)).2 := by
    refine ⟨hn, { session := n, stage := .fresh (.ofOp op) }, spawn_new, rfl, rfl, .fresh fun s hs => ?_⟩
    exact (meets_ofOp (Q := fun _ => I) ((hop s (hI _ s hw hs)).mono fun _ _ h => h.1))
  obtain ⟨task, ht, -, -, hgoes⟩ := (Asking.going_alone hI hstart h.alone).task
  have hended : task.stage = .ended r := by
    have hended := h.ended
    rw [stage?, ht] at hended
    exact Option.some.inj hended
  rw [hended] at hgoes
  cases hgoes with
  | ended ends => exact ends _ (.refl _)

variable {a : Action}

/-- **As many requests were sent as fetches were counted** while an action was done that does not drop the resources
and does not ask for them past the session. -/
theorem Does.requests_action (h : Does n a.op w w' r) (hn : n < w.sessions.length) (hdrops : a.drops = false)
    (hasks : a.asksItself = false) :
    w'.requests + (w.session n).fetchCount = w.requests + (w'.session n).fetchCount := by
  have hclosed := Asking.closed_ahead w.requests (w.session n).fetchCount
  have hahead : (w'.session n).fetchCount + w.requests = w'.requests + (w.session n).fetchCount :=
    h.upheld hn hclosed.same (hclosed.action hdrops hasks) (Nat.add_comm _ _)
  omega

/-- **Resources that are kept stay, and nobody asks for them**, whatever is done but to drop them or to ask past
the session. -/
theorem Does.keeps {items : List Resource} (h : Does n a.op w w' r) (hn : n < w.sessions.length)
    (hdrops : a.drops = false) (hasks : a.asksItself = false) (hkept : (w.session n).resources = some items) :
    (w'.session n).resources = some items ∧ w'.requests = w.requests :=
  have hclosed := Asking.closed_keeping items w.requests
  h.upheld hn hclosed.same (hclosed.action hdrops hasks) ⟨hkept, rfl⟩

end World

end Cutover
