import Cutover.Proofs.Control.Silent
import Cutover.Proofs.World.Astir
import Cutover.Proofs.World.Mirror

/-!
# Readers and what reaches them

A reader waits for nothing but items, and its wait does not end by itself. So nothing reaches it but what is
published in its session, and a cancellation; and what is published reaches each reader once, into its mailbox or
into its hands.

* `Stage.isListening`: a task that nothing else reaches;
* `World.Unheard`: **nothing reached any reader**, with one lemma for each effect of that kind;
* `World.interrupted_cancelWithin`: **to cancel a task is to cancel a reader**, or to leave all readers alone;
* `World.Gave`, `World.publish_gave`: **an item that is published reaches a reader once.**
-/

namespace Cutover

/-- **Only an item or a cancellation reaches a task at this stage.** -/
def Stage.isListening : Stage → Bool
  | .waiting (.receive _) _ none => true
  | .waiting .. => false
  | _ => true

/-- What becomes of a task that only an item or a cancellation reaches, and that is cancelled. -/
def Stage.cancelled : Stage → Stage
  | .fresh _ => .fresh (.done (.error .cancelled))
  | .woken e next r => .woken e next (e.afterCancel r)
  | .waiting (.receive stream) next _ => .woken (.receive stream) next .cancelled
  | s => s

namespace Task

variable {task : Task}

/-- A wait that is none for an item ends as it may; a task that listens has none such. -/
theorem rung?_listening (h : task.stage.isListening = true) : task.rung? = none := by
  unfold rung?
  split
  next e next alarm hstage =>
    rw [hstage] at h
    cases e <;> cases h
  next => rfl

theorem called?_listening (h : task.stage.isListening = true) : task.called? = none := by
  unfold called?
  split
  next hstage =>
    rw [hstage] at h
    cases h
  next => rfl

theorem served?_listening (h : task.stage.isListening = true) : task.served? = none := by
  unfold served?
  split
  next hstage =>
    rw [hstage] at h
    cases h
  next => rfl

theorem told?_listening (r : Except Exit Unit) (h : task.stage.isListening = true) : task.told? r = none := by
  unfold told?
  split
  next hstage =>
    rw [hstage] at h
    cases h
  next => rfl

theorem raised?_listening (n : Nat) (h : task.stage.isListening = true) : task.raised? n = none := by
  unfold raised?
  split
  next hstage =>
    rw [hstage] at h
    cases h
  next => rfl

end Task

/-- What lies in the mailbox of a reader; none where it has no place. -/
def Session.mailbox? (s : Session) (k : Nat) : Option (List (Option RunState)) :=
  (s.streams.find? fun r => r.number = k).map Stream.mailbox

namespace World

variable {w w' w'' : World} {n i j k t : Nat} {task : Task} {item : Option RunState}

/-! ## What does not reach readers -/

/-- **Nothing reached any reader**: gates and latches were worked, and other tasks were woken and told. -/
structure Unheard (w w' : World) : Prop where
  stirred : Stirred (fun _ _ => True) True w w'
  streams : ∀ m, (w'.session m).streams = (w.session m).streams
  events : w'.events = w.events
  listeners : ∀ (i : Nat) (task : Task), w.tasks[i]? = some task → task.stage.isListening = true →
    w'.tasks[i]? = some task

namespace Unheard

theorem refl (w : World) : Unheard w w := ⟨.refl w, fun _ => rfl, rfl, fun _ _ h _ => h⟩

theorem trans (h : Unheard w w') (h' : Unheard w' w'') : Unheard w w'' where
  stirred := h.stirred.trans h'.stirred
  streams m := (h'.streams m).trans (h.streams m)
  events := h'.events.trans h.events
  listeners i task hi hlistens := h'.listeners i task (h.listeners i task hi hlistens) hlistens

theorem foldl {ι : Type} {f : World → ι → World} (hf : ∀ w i, Unheard w (f w i)) (is : List ι) (w : World) :
    Unheard w (is.foldl f w) := by
  induction is generalizing w with
  | nil => exact refl w
  | cons i is ih => exact (hf w i).trans (ih (f w i))

theorem of_same (hsessions : w'.sessions = w.sessions) (htasks : w'.tasks = w.tasks) (hevents : w'.events = w.events)
    (hreplies : ∀ m P, w.script.Replies m P → w'.script.Replies m P) : Unheard w w' := by
  have hsession : ∀ m, w'.session m = w.session m := fun m => by simp only [session, hsessions]
  refine ⟨.of_tasks (by rw [hsessions]) (fun m => ⟨_, _, _, _, hsession m⟩) hreplies htasks,
    fun m => by rw [hsession], hevents, fun i task hi _ => by rw [htasks]; exact hi⟩

end Unheard

theorem unheard_onSession {f : Session → Session}
    (hf : ∀ s, ∃ stateGate fetchGate latch, f s = { s with stateGate, fetchGate, latch }) (n : Nat) (w : World) :
    Unheard w (w.onSession n f) := by
  have hstirred : Stirred (fun _ _ => True) True w (w.onSession n f) := by
    refine stirred_onSession (fun s => ?_) n w
    obtain ⟨stateGate, fetchGate, latch, hs⟩ := hf s
    exact ⟨stateGate, fetchGate, latch, s.streams, hs⟩
  refine ⟨hstirred, fun m => ?_, rfl, fun i task hi _ => hi⟩
  by_cases hm : m = n
  · subst hm
    by_cases hknown : m < w.sessions.length
    · obtain ⟨_, _, _, hs⟩ := hf (w.session m)
      rw [session_onSession hknown, hs]
    · rw [onSession, List.set_eq_of_length_le (Nat.le_of_not_lt hknown)]
  · rw [session_onSession_ne hm]

theorem unheard_setGate (n : Nat) (w : World) (f : Session → Gate) (name : GateName) :
    Unheard w (w.onSession n fun s => s.setGate (f s) name) := by
  refine unheard_onSession (fun s => ?_) n w
  cases name <;> exact ⟨_, _, _, rfl⟩

theorem unheard_rouse {f : Task → Option (Stage × Nat)}
    (hf : ∀ task : Task, task.stage.isListening = true → f task = none)
    (hstirred : Stirred (fun _ _ => True) True w (w.rouse f i)) : Unheard w (w.rouse f i) := by
  refine ⟨hstirred, fun m => ?_, ?_, fun j task hj hlistens => ?_⟩
  · simp only [session, rouse_sessions]
  · unfold rouse
    split <;> rfl
  · rw [rouse_tasks_of_none (by rw [hj]; exact hf task hlistens), hj]

theorem unheard_ring (w : World) (i : Nat) : Unheard w (w.ring i) := by
  have hstirred : Stirred (fun _ _ => True) True w (w.ring i) := stirred_ring w i
  rw [ring_eq_rouse] at hstirred ⊢
  exact unheard_rouse (fun _ => Task.rung?_listening) hstirred

theorem unheard_wakeAtGate (w : World) (i : Nat) : Unheard w (w.wakeAtGate i) := by
  have hstirred : Stirred (fun _ _ => True) True w (w.wakeAtGate i) := stirred_wakeAtGate w i
  rw [wakeAtGate_eq_rouse] at hstirred ⊢
  exact unheard_rouse (fun _ => Task.called?_listening) hstirred

theorem unheard_wakeAtStorage (w : World) (i : Nat) : Unheard w (w.wakeAtStorage i) := by
  have hstirred : Stirred (fun _ _ => True) True w (w.wakeAtStorage i) := stirred_wakeAtStorage w i
  rw [wakeAtStorage_eq_rouse] at hstirred ⊢
  exact unheard_rouse (fun _ => Task.served?_listening) hstirred

theorem unheard_wakeWatcher (r : Except Exit Result) (w : World) (i : Nat) :
    Unheard w (wakeWatcher (outcomeOf r) w i) := by
  have hstirred : Stirred (fun _ _ => True) True w (wakeWatcher (outcomeOf r) w i) :=
    stirred_wakeWatcher fun _ _ _ _ => trivial
  rw [wakeWatcher_eq_rouse] at hstirred ⊢
  exact unheard_rouse (fun _ => Task.told?_listening _) hstirred

theorem unheard_wakeAtLatch (n : Nat) (w : World) (i : Nat) : Unheard w (wakeAtLatch n w i) := by
  have hstirred : Stirred (fun _ _ => True) True w (wakeAtLatch n w i) := stirred_wakeAtLatch n w i
  rw [wakeAtLatch_eq_rouse] at hstirred ⊢
  exact unheard_rouse (fun _ => Task.raised?_listening n) hstirred

theorem unheard_callAtGate (w : World) (n : Nat) (name : GateName) (r : Gate × Option Nat) :
    Unheard w (w.callAtGate n name r) := by
  unfold callAtGate
  split
  · exact (unheard_setGate n w _ name).trans (unheard_wakeAtGate _ _)
  · exact unheard_setGate n w _ name

theorem unheard_settleAtGate (w : World) (t : Nat) (e : Effect) (r : e.Reply) :
    Unheard w (w.settleAtGate t e r) := by
  unfold settleAtGate
  split
  · exact unheard_setGate _ w _ _
  · exact unheard_callAtGate _ _ _ _
  · exact .refl w

theorem unheard_raiseLatch (w : World) (n : Nat) : Unheard w (w.raiseLatch n) :=
  (unheard_onSession (fun _ => ⟨_, _, _, rfl⟩) n w).trans (.foldl (unheard_wakeAtLatch n) _ _)

/-- **What tells readers nothing does not reach them.** -/
theorem unheard_perform (w : World) (t : Nat) {e : Effect} (he : e.isOther = true) (hsilent : e.isSilent = true) :
    Unheard w (w.perform t e).1 := by
  cases e with
  | acquire g =>
    rw [perform, acquire]
    cases ((w.session (w.sessionOf t)).gate g).enter? with
    | some g' => exact unheard_setGate _ w (fun _ => g') g
    | none => exact unheard_setGate _ w (fun s => (s.gate g).queueUp t) g
  | release g => exact unheard_callAtGate ..
  | sleep d => exact .refl w
  | storageTurn =>
    rw [perform, awaitStorage]
    split
    · exact .refl w
    · exact .of_same rfl rfl rfl fun _ _ h => h
  | send m =>
    have hsent : Unheard w { w with script := (w.script.next m).2, sent := w.sent ++ [m] } :=
      .of_same rfl rfl rfl fun m' _ h => h.after m
    rw [perform, send]
    dsimp only
    split <;> exact hsent
  | raiseLatch => exact unheard_raiseLatch w _
  | look => cases he
  | change y => cases he
  | _ => cases hsilent

/-! ## Cancelling -/

theorem setStage_tasks (hi : w.tasks[i]? = some task) (t : Nat) (stage : Stage) :
    (w.setStage t stage).tasks[i]? = some { task with stage := if t = i then stage else task.stage } := by
  by_cases hti : t = i
  · simp [setStage, onTask, hti, hi]
  · simp [setStage, onTask, hti, hi]

/-- **Readers were cancelled, or left alone**, and all mailboxes stayed as they were. -/
structure Interrupted (w w' : World) : Prop where
  streams : ∀ m, (w'.session m).streams = (w.session m).streams
  events : w'.events = w.events
  listeners : ∀ (i : Nat) (task : Task), w.tasks[i]? = some task → task.stage.isListening = true →
    ∃ stage, w'.tasks[i]? = some { task with stage } ∧ (stage = task.stage ∨ stage = task.stage.cancelled)

theorem Unheard.interrupted (h : Unheard w w') : Interrupted w w' :=
  ⟨h.streams, h.events, fun i task hi hlistens => ⟨task.stage, h.listeners i task hi hlistens, .inl rfl⟩⟩

/-- A task is brought to a stage that is the one of a cancelled reader, if it is a reader. -/
theorem interrupted_setStage {stage : Stage} (h : Unheard w w') (htasks : w'.tasks = w.tasks)
    (hstage : ∀ task, w.tasks[t]? = some task → task.stage.isListening = true → stage = task.stage.cancelled) :
    Interrupted w (w'.setStage t stage) := by
  refine ⟨h.streams, h.events, fun i task hi hlistens => ⟨_, setStage_tasks (htasks ▸ hi) t stage, ?_⟩⟩
  by_cases hti : t = i
  · subst hti
    rw [if_pos rfl]
    exact .inr (hstage task hi hlistens)
  · rw [if_neg hti]
    exact .inl rfl

theorem unheard_withdraw (w : World) (t : Nat) (e : Effect) : Unheard w (w.withdraw t e) := by
  unfold withdraw
  split
  · exact unheard_setGate _ w _ _
  · exact .of_same rfl rfl rfl fun _ _ h => h
  · exact .refl w

/-- **To cancel a task** is to cancel a reader or to leave all readers alone. -/
theorem interrupted_cancelWithin (depth : Nat) (w : World) (t : Nat) : Interrupted w (cancelWithin depth w t) := by
  have hat : ∀ {t : Nat} {stage : Stage} {task : Task}, (w.tasks[t]?).map Task.stage = some stage →
      w.tasks[t]? = some task → task.stage = stage := by
    intro t stage task hstage ht
    rw [ht] at hstage
    exact Option.some.inj hstage
  induction depth generalizing t with
  | zero => exact (Unheard.refl w).interrupted
  | succ depth ih =>
    unfold cancelWithin
    split
    next job hi =>
      refine interrupted_setStage (.refl w) rfl fun task ht _ => ?_
      rw [hat hi ht]
      rfl
    next e next r hi =>
      refine interrupted_setStage (.refl w) rfl fun task ht _ => ?_
      rw [hat hi ht]
      rfl
    next => exact ih _
    next e next alarm hjoin hi =>
      split
      next r hr =>
        have hwoken : Interrupted w ((w.withdraw t e).setStage t (.woken e next r)) := by
          refine interrupted_setStage (unheard_withdraw w t e) (tasks_withdraw w t e) fun task ht hlistens => ?_
          rw [hat hi ht] at hlistens ⊢
          cases e with
          | receive stream =>
            cases hr
            rfl
          | _ => cases hlistens
        exact ⟨hwoken.streams, hwoken.events, hwoken.listeners⟩
      next => exact (Unheard.refl w).interrupted
    next => exact (Unheard.refl w).interrupted

/-! ## Mailboxes -/

section
variable {s : Session} {m rest : List (Option RunState)}

theorem mailbox?_map (s : Session) (f : List (Option RunState) → List (Option RunState)) (j k : Nat) :
    Session.mailbox? { s with
      streams := s.streams.map fun r => if r.number = j then { r with mailbox := f r.mailbox } else r } k =
      if j = k then (s.mailbox? k).map f else s.mailbox? k := by
  have hnumber : ∀ r : Stream,
      (if r.number = j then { r with mailbox := f r.mailbox } else r).number = r.number := fun r => by
    split <;> rfl
  unfold Session.mailbox?
  simp only [List.find?_map, Function.comp_def, hnumber]
  cases hfind : s.streams.find? fun r => decide (r.number = k) with
  | none => simp
  | some r =>
    have hr : r.number = k := by simpa using List.find?_some hfind
    by_cases hjk : j = k
    · simp [hr, hjk]
    · simp [hr, hjk, Ne.symm hjk]

theorem numbers_map (streams : List Stream) (f : List (Option RunState) → List (Option RunState)) (j : Nat) :
    (streams.map fun r => if r.number = j then { r with mailbox := f r.mailbox } else r).map Stream.number =
      streams.map Stream.number := by
  rw [List.map_map]
  refine List.map_congr_left fun r _ => ?_
  show (if r.number = j then _ else r : Stream).number = r.number
  split <;> rfl

theorem mailbox?_eq_none : s.mailbox? k = none ↔ k ∉ s.streams.map Stream.number := by
  simp [Session.mailbox?]

theorem mem_numbers_of_mailbox? (h : s.mailbox? k = some m) : k ∈ s.streams.map Stream.number :=
  Decidable.not_not.mp fun hnone => nomatch h.symm.trans (mailbox?_eq_none.mpr hnone)

theorem take?_some (h : (w.session n).mailbox? k = some (item :: m)) :
    w.take? n k = some (item, w.onSession n fun s => { s with
      streams := s.streams.map fun r => if r.number = k then { r with mailbox := m } else r }) := by
  obtain ⟨r, hr, hmailbox⟩ := Option.map_eq_some_iff.mp h
  obtain ⟨number, id, mailbox⟩ := r
  obtain rfl : mailbox = item :: m := hmailbox
  simp only [take?, hr]

theorem take?_none (h : (w.session n).mailbox? k = some []) : w.take? n k = none := by
  obtain ⟨r, hr, hmailbox⟩ := Option.map_eq_some_iff.mp h
  obtain ⟨number, id, mailbox⟩ := r
  obtain rfl : mailbox = [] := hmailbox
  simp only [take?, hr]

end

/-! ## Publishing -/

/-- Nobody but one task waits for the items of a reader. -/
def Sole (w : World) (n k t : Nat) : Prop := ∀ (i : Nat) (task : Task) next alarm, w.tasks[i]? = some task →
  task.session = n → task.stage = .waiting (.receive k) next alarm → i = t

theorem Sole.stirred {breaks : Prop} (h : w.Sole n k t) (hw : Stirred (fun _ _ => True) breaks w w') :
    w'.Sole n k t := by
  intro i task' next alarm hi hn hstage
  obtain ⟨task, stage, hbefore, rfl, -⟩ := hw.before hi
  have hwait : w'.stage? i = some (.waiting (.receive k) next alarm) := by
    rw [stage?, hi, ← hstage]
    rfl
  have hwaited := hw.waiting hwait
  rw [stage?, hbefore] at hwaited
  exact h i task next alarm hbefore hn (Option.some.inj hwaited)

/-- **An item reached a reader**: it was handed over if the reader waited for one, and put into its mailbox if
not. -/
inductive Gave (k : Nat) (item : Option RunState) :
    List (Option RunState) → Stage → List (Option RunState) → Stage → Prop
  | handed {m : List (Option RunState)} {next : Waited (Option RunState) → Job}
    {alarm : Option (Alarm (Waited (Option RunState)))} :
    Gave k item m (.waiting (.receive k) next alarm) m (.woken (.receive k) next (.back item))
  | put {m : List (Option RunState)} {stage : Stage}
    (busy : ∀ next alarm, stage ≠ .waiting (.receive k) next alarm) : Gave k item m stage (m ++ [item]) stage

/-- **What is offered to a reader** is handed to it if it waits for that, and put into its mailbox if not. -/
theorem offer_eq (ht : w.tasks[t]? = some task) (hsession : task.session = n) (hsole : w.Sole n k t) :
    (∃ next alarm, task.stage = .waiting (.receive k) next alarm ∧
      offer n item w k = (w.setStage t (.woken (.receive k) next (.back item))).enqueue t) ∨
    (∀ next alarm, task.stage ≠ .waiting (.receive k) next alarm) ∧ offer n item w k = w.deliver n item k := by
  cases hfind : w.taskNumbers.findSome? (w.hand n k item) with
  | some v =>
    have hoffer : offer n item w k = v := by rw [offer, hfind, Option.getD_some]
    obtain ⟨_, i, _, _, hi, _⟩ := List.findSome?_eq_some_iff.mp hfind
    obtain ⟨other, next, alarm, hother, hn, hstage, hv⟩ := hand_eq hi
    obtain rfl : i = t := hsole i other next alarm hother hn hstage
    obtain rfl : other = task := Option.some.inj (hother.symm.trans ht)
    exact .inl ⟨next, alarm, hstage, hoffer.trans hv⟩
  | none =>
    refine .inr ⟨fun next alarm hstage => ?_, by rw [offer, hfind, Option.getD_none]⟩
    have hmem : t ∈ w.taskNumbers := List.mem_range.mpr (List.getElem?_eq_some_iff.mp ht).1
    have hnone := List.findSome?_eq_none_iff.mp hfind t hmem
    obtain ⟨session, loop, stage, watchers⟩ := task
    obtain rfl : stage = .waiting (.receive k) next alarm := hstage
    obtain rfl : session = n := hsession
    simp [hand, ht] at hnone

/-- A reader of a session that has a place there, with what lies in its mailbox. -/
structure Listens (w : World) (n k t : Nat) (task : Task) (m : Option (List (Option RunState))) : Prop where
  known : n < w.sessions.length
  present : w.tasks[t]? = some task
  session : task.session = n
  sole : w.Sole n k t
  own : ∀ j next alarm, task.stage = .waiting (.receive j) next alarm → j = k
  mailbox : (w.session n).mailbox? k = m

theorem stirred_offer (n : Nat) (item : Option RunState) (w : World) (j : Nat) :
    Stirred (fun _ _ => True) True w (offer n item w j) := by
  rcases offer_cases n item w j with ⟨i, hi⟩ | h
  · obtain ⟨task, next, alarm, htask, -, hstage, hoffer⟩ := hand_eq hi
    have hwait : w.stage? i = some (.waiting (.receive j) next alarm) := by
      rw [stage?, htask, Option.map_some, hstage]
    rw [hoffer]
    exact stirred_wake hwait .handed _
  · rw [h]
    exact stirred_onSession (fun _ => ⟨_, _, _, _, rfl⟩) n w

theorem offer_gave {m : List (Option RunState)} (h : w.Listens n k t task (some m)) :
    ∃ stage m', (offer n item w k).Listens n k t { task with stage } (some m') ∧ Gave k item m task.stage m' stage := by
  have hstirred := stirred_offer n item w k
  rcases offer_eq h.present h.session h.sole with ⟨next, alarm, hstage, hoffer⟩ | ⟨hbusy, hoffer⟩
  · refine ⟨.woken (.receive k) next (.back item), m, ⟨?_, ?_, h.session, h.sole.stirred hstirred, ?_, ?_⟩, ?_⟩
    · rw [hstirred.length]
      exact h.known
    · rw [hoffer]
      simp [enqueue, setStage, onTask, h.present]
    · intro _ _ _ hwaits
      cases hwaits
    · rw [hoffer]
      exact h.mailbox
    · rw [hstage]
      exact .handed
  · refine ⟨task.stage, m ++ [item], ⟨?_, ?_, h.session, h.sole.stirred hstirred, h.own, ?_⟩, .put hbusy⟩
    · rw [hstirred.length]
      exact h.known
    · rw [hoffer]
      exact h.present
    · rw [hoffer, deliver, session_onSession h.known, mailbox?_map _ fun m => m ++ [item], if_pos rfl, h.mailbox]
      rfl

theorem offer_other {m : Option (List (Option RunState))} (hjk : j ≠ k) (h : w.Listens n k t task m) :
    (offer n item w j).Listens n k t task m := by
  have hstirred := stirred_offer n item w j
  rcases offer_cases n item w j with ⟨i, hi⟩ | hoffer
  · obtain ⟨other, next, alarm, hother, -, hstage, hoffer⟩ := hand_eq hi
    have hit : i ≠ t := by
      rintro rfl
      rw [← Option.some.inj (hother.symm.trans h.present)] at h
      exact hjk (h.own j next alarm hstage)
    refine ⟨?_, ?_, h.session, h.sole.stirred hstirred, h.own, ?_⟩
    · rw [hstirred.length]
      exact h.known
    · rw [hoffer]
      simp [enqueue, setStage, onTask, h.present, hit]
    · rw [hoffer]
      exact h.mailbox
  · refine ⟨?_, ?_, h.session, h.sole.stirred hstirred, h.own, ?_⟩
    · rw [hstirred.length]
      exact h.known
    · rw [hoffer]
      exact h.present
    · rw [hoffer, session_onSession h.known, delivered, mailbox?_map _ fun m => m ++ [item], if_neg hjk]
      exact h.mailbox

theorem offerAll_other {m : Option (List (Option RunState))} {ks : List Nat} (hks : k ∉ ks)
    (h : w.Listens n k t task m) : (ks.foldl (offer n item) w).Listens n k t task m := by
  induction ks generalizing w with
  | nil => exact h
  | cons j ks ih =>
    simp only [List.mem_cons, not_or] at hks
    exact ih hks.2 (offer_other (Ne.symm hks.1) h)

theorem offerAll_gave {m : List (Option RunState)} {ks : List Nat} (hks : k ∈ ks) (hnodup : ks.Nodup)
    (h : w.Listens n k t task (some m)) : ∃ stage m', (ks.foldl (offer n item) w).Listens n k t { task with stage }
      (some m') ∧ Gave k item m task.stage m' stage := by
  induction ks generalizing w with
  | nil => cases hks
  | cons j ks ih =>
    obtain ⟨hj, hnodup⟩ := List.nodup_cons.mp hnodup
    by_cases hjk : j = k
    · subst hjk
      obtain ⟨stage, m', hlistens, hgave⟩ := offer_gave h
      have hrest : ((ks.foldl (offer n item)) (offer n item w j)).Listens n j t { task with stage } (some m') :=
        offerAll_other hj hlistens
      exact ⟨stage, m', hrest, hgave⟩
    · exact ih ((List.mem_cons.mp hks).resolve_left (Ne.symm hjk)) hnodup (offer_other hjk h)

/-- **An item that is published reaches a reader of the session once**, if the reader has a place. -/
theorem publish_gave {m : List (Option RunState)} (hnodup : ((w.session n).streams.map Stream.number).Nodup)
    (h : w.Listens n k t task (some m)) : ∃ stage m', (w.publish n item).Listens n k t { task with stage } (some m') ∧
      Gave k item m task.stage m' stage :=
  offerAll_gave (mem_numbers_of_mailbox? h.mailbox) hnodup h

theorem publish_absent (h : w.Listens n k t task none) : (w.publish n item).Listens n k t task none :=
  offerAll_other (mailbox?_eq_none.mp h.mailbox) h

/-- **Nothing was published but in one session**, and no reader took its place or left it. -/
structure Within (n : Nat) (w w' : World) : Prop where
  stirred : Stirred (fun _ _ => True) True w w'
  numbers : ∀ m, (w'.session m).streams.map Stream.number = (w.session m).streams.map Stream.number
  streams : ∀ m, m ≠ n → (w'.session m).streams = (w.session m).streams
  tasks : ∀ (i : Nat) (task : Task), task.session ≠ n → w.tasks[i]? = some task → w'.tasks[i]? = some task

theorem Within.trans (h : Within n w w') (h' : Within n w' w'') : Within n w w'' where
  stirred := h.stirred.trans h'.stirred
  numbers m := (h'.numbers m).trans (h.numbers m)
  streams m hm := (h'.streams m hm).trans (h.streams m hm)
  tasks i task hn hi := h'.tasks i task hn (h.tasks i task hn hi)

theorem within_offer (n : Nat) (item : Option RunState) (w : World) (j : Nat) : Within n w (offer n item w j) := by
  have hstirred := stirred_offer n item w j
  rcases offer_cases n item w j with ⟨i, hi⟩ | hoffer
  · obtain ⟨other, next, alarm, hother, hn, hstage, hoffer⟩ := hand_eq hi
    rw [hoffer] at hstirred ⊢
    refine ⟨hstirred, fun _ => rfl, fun _ _ => rfl, fun i' task hsession hi' => ?_⟩
    have hne : i ≠ i' := by
      rintro rfl
      exact hsession (Option.some.inj (hi'.symm.trans hother) ▸ hn)
    simp [enqueue, setStage, onTask, hi', hne]
  · rw [hoffer] at hstirred ⊢
    refine ⟨hstirred, fun m => ?_, fun m hm => by rw [session_onSession_ne hm], fun _ _ _ h => h⟩
    by_cases hm : m = n
    · subst hm
      by_cases hknown : m < w.sessions.length
      · rw [session_onSession hknown]
        exact numbers_map _ (fun mailbox => mailbox ++ [item]) j
      · rw [onSession, List.set_eq_of_length_le (Nat.le_of_not_lt hknown)]
    · rw [session_onSession_ne hm]

theorem within_publish (w : World) (n : Nat) (item : Option RunState) : Within n w (w.publish n item) := by
  unfold publish
  generalize (w.session n).streams.map Stream.number = ks
  induction ks generalizing w with
  | nil => exact ⟨.refl w, fun _ => rfl, fun _ _ => rfl, fun _ _ _ h => h⟩
  | cons j ks ih => exact (within_offer n item w j).trans (ih _)

end World

end Cutover
