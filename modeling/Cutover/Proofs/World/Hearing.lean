import Cutover.Proofs.World.Waking

/-!
# What readers hear

What is published to the readers of a session lies in their mailboxes, or they were handed it and have
yet to go on. To wake and to cancel tasks adds nothing to that, and to publish adds what is published.

* `World.Hears`: **a reader of a session has been given a snapshot** and has yet to read it;
* `World.Hushed`: the world was stirred, and nobody hears any more than before;
* `World.hears_publish`: **readers hear what is published**, and nothing else.
-/

namespace Cutover

/-- The task was handed a snapshot. -/
inductive Stage.Hears (x : RunState) : Stage → Prop
  | handed {stream : Nat} {next : Waited (Option RunState) → Job} :
    Hears x (.woken (.receive stream) next (.back (some x)))

namespace Stage

variable {x : RunState} {e : Effect} {next : e.Reply → Job} {r : e.Reply}

theorem not_hears_woken (h : ∀ stream, e ≠ .receive stream) : ¬(woken e next r).Hears x := by
  rintro ⟨⟩
  exact h _ rfl

theorem not_hears_brokenOff (h : e.brokenOff = some r) : ¬(woken e next r).Hears x := by
  rintro ⟨⟩
  cases h

theorem not_hears_afterCancel : ¬(woken e next (e.afterCancel r)).Hears x := by
  intro h
  generalize hr : e.afterCancel r = r' at h
  cases h
  cases hr

end Stage

namespace World

variable {n m i t : Nat} {w w' w'' : World} {x : RunState} {item : Option RunState} {stage : Stage}

/-- **A reader of a session has been given a snapshot** that it has yet to read. -/
def Hears (w : World) (n : Nat) (x : RunState) : Prop :=
  (∃ r ∈ (w.session n).streams, some x ∈ r.mailbox) ∨
    ∃ (t : Nat) (task : Task), w.tasks[t]? = some task ∧ task.session = n ∧ task.stage.Hears x

theorem Hears.of_tasks (h : w'.Hears n x)
    (hstreams : (w'.session n).streams = (w.session n).streams) (htasks : w'.tasks = w.tasks) :
    w.Hears n x := by
  unfold Hears at h ⊢
  rw [← hstreams, ← htasks]
  exact h

/-- A task that comes to a stage gives nobody anything to hear but what it hears there. -/
theorem Hears.of_setStage (h : (w.setStage i stage).Hears n x) :
    w.Hears n x ∨ w.sessionOf i = n ∧ stage.Hears x := by
  rcases h with hmailbox | ⟨t, task, ht, hn, hstage⟩
  · exact .inl (.inl hmailbox)
  · rcases setStage_cases ht with ⟨rfl, before, hbefore, rfl⟩ | ⟨-, hbefore⟩
    · exact .inr ⟨by simp only [sessionOf, hbefore]; exact hn, hstage⟩
    · exact .inl (.inr ⟨t, task, hbefore, hn, hstage⟩)

theorem Hears.of_spawn {job : Job} {loop : Option Background}
    (h : (w.spawn m job loop).2.Hears n x) : w.Hears n x := by
  rcases h with hmailbox | ⟨t, task, ht, hn, hstage⟩
  · exact .inl hmailbox
  · rcases spawn_before ht with ht | ⟨-, rfl⟩
    · exact .inr ⟨t, task, ht, hn, hstage⟩
    · cases hstage

/-! ## Worlds in which nobody hears any more -/

/-- The world was stirred, and nobody hears any more than before. -/
structure Hushed (w w' : World) : Prop where
  stirred : Stirred (fun _ _ => True) True w w'
  storage : w'.storage = w.storage
  hears : ∀ n x, w'.Hears n x → w.Hears n x

namespace Hushed

theorem refl (w : World) : Hushed w w := ⟨.refl w, rfl, fun _ _ h => h⟩

theorem trans (h : Hushed w w') (h' : Hushed w' w'') : Hushed w w'' where
  stirred := h.stirred.trans h'.stirred
  storage := h'.storage.trans h.storage
  hears n x hx := h.hears n x (h'.hears n x hx)

theorem foldl {ι : Type} {f : World → ι → World} (hf : ∀ w i, Hushed w (f w i)) (is : List ι)
    (w : World) : Hushed w (is.foldl f w) := by
  induction is generalizing w with
  | nil => exact refl w
  | cons i is ih => exact (hf w i).trans (ih (f w i))

theorem of_same (hsessions : w'.sessions = w.sessions) (htasks : w'.tasks = w.tasks)
    (hstorage : w'.storage = w.storage)
    (hreplies : ∀ m P, w.script.Replies m P → w'.script.Replies m P) : Hushed w w' := by
  have hsession (m : Nat) : w'.session m = w.session m := by simp only [session, hsessions]
  refine ⟨.of_tasks (by rw [hsessions]) (fun m => ⟨_, _, _, _, hsession m⟩) hreplies htasks, hstorage, ?_⟩
  exact fun n x h => h.of_tasks (congrArg Session.streams (hsession n)) htasks

end Hushed

theorem hushed_onSession {f : Session → Session}
    (hf : ∀ s, ∃ stateGate fetchGate latch, f s = { s with stateGate, fetchGate, latch }) (n : Nat)
    (w : World) : Hushed w (w.onSession n f) := by
  have hstirred : Stirred (fun _ _ => True) True w (w.onSession n f) := by
    refine stirred_onSession (fun s => ?_) n w
    obtain ⟨stateGate, fetchGate, latch, hs⟩ := hf s
    exact ⟨stateGate, fetchGate, latch, s.streams, hs⟩
  refine ⟨hstirred, rfl, fun m x h => h.of_tasks ?_ rfl⟩
  by_cases hm : m = n
  · subst hm
    by_cases hknown : m < w.sessions.length
    · rw [session_onSession hknown]
      obtain ⟨_, _, _, hs⟩ := hf (w.session m)
      rw [hs]
    · rw [onSession, List.set_eq_of_length_le (Nat.le_of_not_lt hknown)]
  · rw [session_onSession_ne hm]

theorem hushed_setGate (n : Nat) (w : World) (f : Session → Gate) (name : GateName) :
    Hushed w (w.onSession n fun s => s.setGate (f s) name) := by
  refine hushed_onSession (fun s => ?_) n w
  cases name <;> exact ⟨_, _, _, rfl⟩

theorem hushed_turn {stage' : Stage} (hi : w.stage? i = some stage)
    (hturned : Stage.Turned (fun _ _ => True) True stage stage') (hdeaf : ∀ x, ¬stage'.Hears x) :
    Hushed w (w.setStage i stage') where
  stirred := stirred_turn hi hturned
  storage := rfl
  hears _ x h := h.of_setStage.resolve_right fun hx => hdeaf x hx.2

theorem hushed_enqueue (w : World) (i laps : Nat) : Hushed w (w.enqueue i laps) :=
  .of_same rfl rfl rfl fun _ _ h => h

theorem hushed_wake {e : Effect} {next : e.Reply → Job} {alarm : Option (Alarm e.Reply)}
    {r : e.Reply} (hi : w.stage? i = some (.waiting e next alarm))
    (hturned : Stage.Turned (fun _ _ => True) True (.waiting e next alarm) (.woken e next r))
    (hdeaf : ∀ x, ¬(Stage.woken e next r).Hears x) (laps : Nat) :
    Hushed w ((w.setStage i (.woken e next r)).enqueue i laps) :=
  (hushed_turn hi hturned hdeaf).trans (hushed_enqueue _ _ _)

theorem hushed_ring (h : ∀ m next alarm, w.stage? i ≠ some (.waiting (.receive m) next alarm)) :
    Hushed w (w.ring i) := by
  unfold ring
  split
  next e next alarm hi =>
    -- the reply of an alarm is any, so it would be heard by one that waits for an item
    refine hushed_wake hi .rings (fun x => Stage.not_hears_woken ?_) _
    rintro m rfl
    exact h m next (some alarm) hi
  next => exact .refl w

theorem hushed_wakeAtGate (w : World) (i : Nat) : Hushed w (w.wakeAtGate i) := by
  unfold wakeAtGate
  split
  next hi => exact hushed_wake hi .enters (fun _ => Stage.not_hears_woken fun _ h => by cases h) _
  next => exact .refl w

theorem hushed_wakeAtStorage (w : World) (i : Nat) : Hushed w (w.wakeAtStorage i) := by
  unfold wakeAtStorage
  split
  next hi => exact hushed_wake hi .served (fun _ => Stage.not_hears_woken fun _ h => by cases h) _
  next => exact .refl w

theorem hushed_wakeAtLatch (m : Nat) (w : World) (i : Nat) : Hushed w (wakeAtLatch m w i) := by
  rcases wakeAtLatch_eq m i w with h | ⟨task, d, next, alarm, hi, hstage, h⟩
  · rw [h]
    exact .refl w
  · rw [h]
    have hwait : w.stage? i = some (.waiting (.watchLatch d) next alarm) := by
      rw [stage?, hi, Option.map_some, hstage]
    exact hushed_wake hwait .raised (fun _ => Stage.not_hears_woken fun _ h => by cases h) _

theorem hushed_callAtGate (w : World) (n : Nat) (name : GateName) (r : Gate × Option Nat) :
    Hushed w (w.callAtGate n name r) := by
  unfold callAtGate
  split
  · exact (hushed_setGate n w _ name).trans (hushed_wakeAtGate _ _)
  · exact hushed_setGate n w _ name

theorem hushed_settleAtGate (w : World) (t : Nat) (e : Effect) (r : e.Reply) :
    Hushed w (w.settleAtGate t e r) := by
  unfold settleAtGate
  split
  · exact hushed_setGate _ w _ _
  · exact hushed_callAtGate _ _ _ _
  · exact .refl w

theorem hushed_raiseLatch (w : World) (n : Nat) : Hushed w (w.raiseLatch n) :=
  (hushed_onSession (fun _ => ⟨_, _, _, rfl⟩) n w).trans (.foldl (hushed_wakeAtLatch n) _ _)

theorem hushed_withdraw (w : World) (t : Nat) (e : Effect) : Hushed w (w.withdraw t e) := by
  unfold withdraw
  split
  · exact hushed_setGate _ w _ _
  · exact .of_same rfl rfl rfl fun _ _ h => h
  · exact .refl w

/-- **To cancel a task** gives readers nothing to hear. -/
theorem hushed_cancelWithin (depth : Nat) (w : World) (t : Nat) : Hushed w (cancelWithin depth w t) := by
  induction depth generalizing t with
  | zero => exact .refl w
  | succ depth ih =>
    unfold cancelWithin
    split
    next job hi => exact hushed_turn hi (.cancelled trivial) fun _ hx => by cases hx
    next e next r hi => exact hushed_turn hi (.again trivial) fun _ => Stage.not_hears_afterCancel
    next => exact ih _
    next e next alarm hjoin hi =>
      split
      next r hr =>
        have hwait : (w.withdraw t e).stage? t = some (.waiting e next alarm) := by
          rw [stage?, tasks_withdraw]
          exact hi
        refine (hushed_withdraw w t e).trans (hushed_wake hwait (.broken trivial hr ?_)
          (fun _ => Stage.not_hears_brokenOff hr) _)
        rintro other rfl
        exact hjoin other next alarm rfl HEq.rfl HEq.rfl
      next => exact .refl w
    next => exact .refl w

theorem hushed_wakeWatcher (r : Except Exit Result) (w : World) (i : Nat) :
    Hushed w (wakeWatcher (outcomeOf r) w i) := by
  unfold wakeWatcher
  split
  next hi => exact hushed_wake hi (.told trivial) (fun _ => Stage.not_hears_woken fun _ h => by cases h) _
  next => exact .refl w

/-! ## Publishing -/

theorem hears_offer {stream : Nat} (h : (offer n item w stream).Hears m x) :
    w.Hears m x ∨ m = n ∧ item = some x := by
  rcases offer_cases n item w stream with ⟨i, hi⟩ | hdelivered
  · obtain ⟨task, next, alarm, htask, hn, -, hoffer⟩ := hand_eq hi
    rw [hoffer] at h
    have h' : (w.setStage i (.woken (.receive stream) next (.back item))).Hears m x :=
      h.of_tasks rfl rfl
    refine h'.of_setStage.imp_right fun ⟨hm, hx⟩ => ?_
    cases hx
    refine ⟨?_, rfl⟩
    rw [← hm, sessionOf, htask]
    exact hn
  · rw [hdelivered] at h
    rcases h with ⟨r, hr, hmailbox⟩ | htask
    · by_cases hmn : m = n
      · subst hmn
        by_cases hknown : m < w.sessions.length
        · rw [session_onSession hknown] at hr
          obtain ⟨before, hbefore, rfl⟩ := List.mem_map.mp hr
          split at hmailbox
          next =>
            rcases List.mem_append.mp hmailbox with hmailbox | hmailbox
            · exact .inl (.inl ⟨before, hbefore, hmailbox⟩)
            · exact .inr ⟨rfl, (List.mem_singleton.mp hmailbox).symm⟩
          next => exact .inl (.inl ⟨before, hbefore, hmailbox⟩)
        · rw [onSession, List.set_eq_of_length_le (Nat.le_of_not_lt hknown)] at hr
          exact .inl (.inl ⟨r, hr, hmailbox⟩)
      · rw [session_onSession_ne hmn] at hr
        exact .inl (.inl ⟨r, hr, hmailbox⟩)
    · exact .inl (.inr htask)

/-- **Readers hear what is published**, and nothing else. -/
theorem hears_publish (h : (w.publish n item).Hears m x) : w.Hears m x ∨ m = n ∧ item = some x := by
  unfold publish at h
  generalize (w.session n).streams.map Stream.number = streams at h
  induction streams generalizing w with
  | nil => exact .inl h
  | cons stream streams ih =>
    rcases ih h with h | h
    · exact hears_offer h
    · exact .inr h

theorem storage_publish (w : World) (n : Nat) (item : Option RunState) :
    (w.publish n item).storage = w.storage := by
  unfold publish
  generalize (w.session n).streams.map Stream.number = streams
  induction streams generalizing w with
  | nil => rfl
  | cons stream streams ih =>
    refine (ih (offer n item w stream)).trans ?_
    rcases offer_cases n item w stream with ⟨i, hi⟩ | h
    · obtain ⟨_, _, _, _, _, _, hoffer⟩ := hand_eq hi
      rw [hoffer]
      rfl
    · rw [h]
      rfl

end World

end Cutover
