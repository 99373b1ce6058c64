import Cutover.Proofs.World.Twins
import Cutover.World.Timing

/-!
# Time passes in two worlds

Two worlds that are the same but for their notices come to rest in the same way, and time passes in both alike.

* `World.Later`: clocks do not go back, and neither a session nor a task is gone;
* `World.Twinned.rest`: everything that can happen without time passing happens in both;
* `World.Twinned.advance`: time passes in both;
* `World.Twinned.await`: **the same task is waited for in both**, and the same comes of it.
-/

namespace Cutover

/-- A result, or only that there is one. -/
def Result.hushed (reads : Bool) (r : Except Exit Result) : Except Exit Result :=
  if reads then r.map fun _ => .nothing else r

namespace World

variable {limit : Int} {reads : Nat → Bool} {w w' v : World} {t : Nat}

/-! ## Clocks -/

theorem retains_ring (w : World) (t : Nat) : w.Retains (w.ring t) :=
  .of_stirred (stirred_ring w t) (indoors_ring w t)

theorem retains_cancel (w : World) (t : Nat) : w.Retains (w.cancel t) :=
  .of_stirred (stirred_cancelWithin trivial _ w t) (indoors_cancelWithin _ w t)

theorem retains_wakeAtStorage (w : World) (t : Nat) : w.Retains (w.wakeAtStorage t) :=
  .of_stirred (stirred_wakeAtStorage w t) (indoors_wakeAtStorage w t)

theorem retains_next? (h : w.next? = some w') : w.Retains w' := by
  have hqueues : ∀ ready storageQueue, w.Retains { w with ready, storageQueue } :=
    fun _ _ => ⟨rfl, Nat.le_refl _, Nat.le_refl _⟩
  unfold next? at h
  split at h <;> cases h
  · exact (hqueues _ _).trans (retains_resume _ _)
  · exact hqueues _ _
  · exact (hqueues _ _).trans (retains_wakeAtStorage _ _)

theorem retains_settle (steps : Nat) (w : World) : w.Retains (w.settle steps) := by
  induction steps generalizing w with
  | zero => exact .refl w
  | succ steps ih =>
    unfold settle
    cases hnext : w.next? with
    | none => exact .refl w
    | some w' => exact (retains_next? hnext).trans (ih w')

theorem retains_rest (w : World) : w.Retains w.rest := retains_settle _ w

theorem now_pass (w : World) (due : Int) (t : Nat) : (w.pass due t).now = max w.now due :=
  ((retains_ring _ t).trans (retains_rest _)).now

/-- **Clocks do not go back**, and neither a session nor a task is gone. -/
structure Later (w w' : World) : Prop where
  now : w.now ≤ w'.now
  known : w.sessions.length ≤ w'.sessions.length
  count : w.tasks.length ≤ w'.tasks.length

namespace Later

variable {w'' : World}

theorem refl (w : World) : w.Later w := ⟨Int.le_refl _, Nat.le_refl _, Nat.le_refl _⟩

theorem trans (h : w.Later w') (h' : w'.Later w'') : w.Later w'' :=
  ⟨Int.le_trans h.now h'.now, Nat.le_trans h.known h'.known, Nat.le_trans h.count h'.count⟩

end Later

theorem Retains.later (h : w.Retains w') : w.Later w' := ⟨Int.le_of_eq h.now.symm, h.known, h.count⟩

theorem later_pass (w : World) (due : Int) (t : Nat) : w.Later (w.pass due t) := by
  have hpassed := (retains_ring { w with now := max w.now due } t).trans (retains_rest _)
  exact ⟨Int.le_trans (Int.le_max_left _ _) (Int.le_of_eq hpassed.now.symm), hpassed.known, hpassed.count⟩

theorem later_passUntil (last : Int) (steps : Nat) (w : World) : w.Later (passUntil steps last w) := by
  induction steps generalizing w with
  | zero => exact .refl w
  | succ steps ih =>
    unfold passUntil
    split
    next due t _ =>
      split
      · exact (later_pass w due t).trans (ih _)
      · exact .refl w
    next => exact .refl w

theorem later_advance (w : World) (d : Int) : w.Later (w.advance d) := by
  have hpassed := later_passUntil (w.now + d) patience w
  exact ⟨Int.le_trans hpassed.now (Int.le_max_left _ _), hpassed.known, hpassed.count⟩

theorem later_passUntilEnd (t : Nat) (last : Int) (steps : Nat) (w : World) :
    w.Later (passUntilEnd t last steps w) := by
  induction steps generalizing w with
  | zero => exact .refl w
  | succ steps ih =>
    unfold passUntilEnd
    split
    · exact .refl w
    · split
      next due other _ =>
        split
        · exact (later_pass w due other).trans (ih _)
        · exact .refl w
      next => exact .refl w

theorem later_await (w : World) (t : Nat) : w.Later (w.await t).1 := by
  have hwaited := later_passUntilEnd t (w.now + longest) patience w
  unfold await
  dsimp only
  split
  · exact hwaited
  · exact hwaited.trans ((retains_cancel _ t).trans (retains_rest _)).later

/-! ## What is left of a world -/

theorem due?_hushed (b : Bool) (task : Task) : (task.hushed b).due? = task.due? := by
  rcases task.hushed_cases b with ⟨r, r', hr, hr', -⟩ | ⟨-, hsame⟩
  · rw [Task.due?, Task.due?, hr, hr']
  · rw [hsame]

theorem nextDue?_hushed (w : World) : (w.hushed reads).nextDue? = w.nextDue? := by
  have hdue : (w.hushed reads).tasks.mapIdx (fun t task => task.due?.map fun due => (due, t)) =
      w.tasks.mapIdx fun t task => task.due?.map fun due => (due, t) := by
    refine List.ext_getElem? fun i => ?_
    rw [List.getElem?_mapIdx, List.getElem?_mapIdx, tasks_hushed]
    cases w.tasks[i]? with
    | none => rfl
    | some task => simp only [Option.map_some, due?_hushed]
  rw [nextDue?, nextDue?, hdue]

theorem resultOf_hushed (w : World) (t : Nat) :
    (w.hushed reads).resultOf t = (w.resultOf t).map (Result.hushed (reads t)) := by
  unfold resultOf
  rw [tasks_hushed]
  cases w.tasks[t]? with
  | none => rfl
  | some task =>
    obtain ⟨session, loop, stage, watchers⟩ := task
    unfold Task.hushed Result.hushed
    cases reads t <;> cases stage <;> rfl

/-! ## Coming to rest -/

namespace Twinned

theorem requeue (h : Twinned limit reads w v) (ready : List Place) (storageQueue : List Nat) :
    Twinned limit reads { w with ready, storageQueue } { v with ready, storageQueue } :=
  h.surround (f := fun w => { w with ready, storageQueue }) (fun _ => rfl) (fun _ => rfl) fun _ => rfl

theorem reclock (h : Twinned limit reads w v) (now : Int) : Twinned limit reads { w with now } { v with now } :=
  h.surround (f := fun w => { w with now }) (fun _ => rfl) (fun _ => rfl) fun _ => rfl

/-- **The same happens next in both**, or nothing. -/
theorem next? (h : Twinned limit reads w v) (hnow : w.now ≤ limit) : w.next? = none ∧ v.next? = none ∨
    ∃ w' v', w.next? = some w' ∧ v.next? = some v' ∧ Twinned limit reads w' v' := by
  have hready : v.ready = w.ready := (congrArg World.ready h.same :)
  have hqueue : v.storageQueue = w.storageQueue := (congrArg World.storageQueue h.same :)
  unfold World.next?
  rw [hready, hqueue]
  split
  next t rest _ => exact .inr ⟨_, _, rfl, rfl, (h.requeue rest _).resume hnow t⟩
  next => exact .inr ⟨_, _, rfl, rfl, h.requeue _ _⟩
  next => exact .inr ⟨_, _, rfl, rfl, (h.requeue _ _).serve _⟩
  next => exact .inl ⟨rfl, rfl⟩

theorem settle (h : Twinned limit reads w v) (hnow : w.now ≤ limit) (steps : Nat) :
    Twinned limit reads (w.settle steps) (v.settle steps) := by
  induction steps generalizing w v with
  | zero => exact h
  | succ steps ih =>
    unfold World.settle
    rcases h.next? hnow with ⟨hw, hv⟩ | ⟨w', v', hw, hv, hboth⟩
    · rw [hw, hv]
      exact h
    · rw [hw, hv]
      exact ih hboth ((retains_next? hw).now ▸ hnow)

/-- **Everything that can happen without time passing happens in both.** -/
theorem rest (h : Twinned limit reads w v) (hnow : w.now ≤ limit) : Twinned limit reads w.rest v.rest :=
  h.settle hnow _

/-! ## Time -/

theorem nextDue? (h : Twinned limit reads w v) : v.nextDue? = w.nextDue? := by
  rw [← nextDue?_hushed, h.same, nextDue?_hushed]

theorem pass {due : Int} (h : Twinned limit reads w v) (hnow : w.now ≤ limit) (hdue : due ≤ limit) (t : Nat) :
    Twinned limit reads (w.pass due t) (v.pass due t) := by
  have hlater : (World.ring { w with now := max w.now due } t).now ≤ limit := by
    rw [(retains_ring _ t).now]
    exact Int.max_le.mpr ⟨hnow, hdue⟩
  unfold World.pass
  rw [h.now]
  exact ((h.reclock _).ring t).rest hlater

theorem passUntil {last : Int} (h : Twinned limit reads w v) (hnow : w.now ≤ limit) (hlast : last ≤ limit)
    (steps : Nat) : Twinned limit reads (passUntil steps last w) (passUntil steps last v) := by
  induction steps generalizing w v with
  | zero => exact h
  | succ steps ih =>
    unfold World.passUntil
    rw [h.nextDue?]
    split
    next due t _ =>
      split
      next hdue =>
        have hlater : (w.pass due t).now ≤ limit := by
          rw [now_pass]
          omega
        exact ih (h.pass hnow (by omega) t) hlater
      next => exact h
    next => exact h

/-- **Time passes in both.** -/
theorem advance (h : Twinned limit reads w v) {d : Int} (hnow : w.now ≤ limit) (hd : (w.advance d).now ≤ limit) :
    Twinned limit reads (w.advance d) (v.advance d) := by
  have hlast : w.now + d ≤ limit := Int.le_trans (Int.le_max_right _ _) hd
  have hpassed := h.passUntil hnow hlast patience
  unfold World.advance
  dsimp only
  rw [h.now, hpassed.now]
  exact hpassed.reclock _

/-! ## Waiting for a task -/

theorem hasEnded (h : Twinned limit reads w v) (t : Nat) : v.hasEnded t = w.hasEnded t := by
  have hsame := congrArg (fun u => u.hasEnded t) h.same
  rwa [hasEnded_hushed, hasEnded_hushed] at hsame

theorem passUntilEnd {last : Int} (h : Twinned limit reads w v) (t steps : Nat)
    (hend : (passUntilEnd t last steps w).now ≤ limit) :
    Twinned limit reads (passUntilEnd t last steps w) (passUntilEnd t last steps v) := by
  induction steps generalizing w v with
  | zero => exact h
  | succ steps ih =>
    unfold World.passUntilEnd at hend ⊢
    rw [h.hasEnded, h.nextDue?]
    split
    next => exact h
    next hlive =>
      rw [if_neg hlive] at hend
      split
      next due other hdue =>
        rw [hdue] at hend
        dsimp only at hend
        split
        next hlast =>
          rw [if_pos hlast] at hend
          have hlater := (later_passUntilEnd t last steps (w.pass due other)).now
          rw [now_pass] at hlater
          exact ih (h.pass (by omega) (by omega) other) hend
        next => exact h
      next => exact h

/-- **The same task is waited for in both**, and the same comes of it. -/
theorem await (h : Twinned limit reads w v) (t : Nat) (hend : (w.await t).1.now ≤ limit) :
    Twinned limit reads (w.await t).1 (v.await t).1 ∧
      (v.await t).2.map (Result.hushed (reads t)) = (w.await t).2.map (Result.hushed (reads t)) := by
  -- Nothing comes to an end but while time passes, and who is cancelled gives nothing.
  have hwaited : (World.passUntilEnd t (w.now + longest) patience w).now ≤ limit := by
    unfold World.await at hend
    dsimp only at hend
    split at hend
    · exact hend
    · rwa [(retains_rest _).now, (retains_cancel _ t).now] at hend
  have hboth := h.passUntilEnd t patience hwaited
  have hresult := congrArg (fun u => u.resultOf t) hboth.same
  simp only [resultOf_hushed] at hresult
  unfold World.await
  dsimp only
  rw [h.now]
  cases hw : (World.passUntilEnd t (w.now + longest) patience w).resultOf t with
  | some r =>
    rw [hw] at hresult
    obtain ⟨r', hv, hr'⟩ := Option.map_eq_some_iff.mp hresult
    rw [hv]
    exact ⟨hboth, congrArg some hr'⟩
  | none =>
    rw [hw] at hresult
    rw [Option.map_eq_none_iff.mp hresult]
    refine ⟨(hboth.cancel t).rest ?_, rfl⟩
    rwa [(retains_cancel _ t).now]

end Twinned

end World

end Cutover
