import Cutover.Proofs.World.Settling

/-!
# A status that is applied is not cut

While a session marks that a status is being applied, nothing that works for it breaks off the wait of
another task: a stop only waits for the loop. So the loop carries the status through, and leaves memory and store
in agreement, if all that is asked of the session keeps to its gate. A task that is cancelled from outside is another
matter, for it takes the task it waits for with it.

* `World.Beyond`, `World.CareMove`, `World.CareHistory`: one thing that happens, and one after the other;
* `World.Cared`, `World.CareMove.tends`: **whatever happens leaves a session as it has to be**;
* `World.CareHistory.tends`: a status that a loop applies is carried through;
* `World.Uncut`: a wait goes on or came back;
* `World.applied_uncut`: **no work for a session cuts what is being applied**, and the loop leaves it stored.
-/

namespace Cutover

namespace World

open Looped (Unawaited Sane Spawns Unbroken)
open Pacing (Steady)
open Ward (Guarded Eases Kept)

variable {asked : Nat → Action} {began : Nat → Nat} {w₀ w w' v : World} {n i t : Nat} {holder : Option Nat}
variable {line : List Nat} {task : Task}

/-! ## One thing that happens -/

/-- **What happens beyond a session**: its tasks, its run and what is stored of it are left alone, and hooks, store,
service and notices still do what they are asked. -/
structure Beyond (n : Nat) (w w' : World) : Prop where
  length : w.sessions.length ≤ w'.sessions.length
  session : w'.session n = w.session n
  stored : (w'.site n).deposit = (w.site n).deposit
  sure : (w'.site n).Sure
  replies : w'.script.Replies Call.getResources.message fun l => l.outcome.isReply = true
  tasks : ∀ (i : Nat) (task : Task), task.session = n → (w'.tasks[i]? = some task ↔ w.tasks[i]? = some task)

/-- **One thing that happens** where all that is asked of a session keeps to its gate: something is asked of it, a
reader comes, a task of it goes on, a wait comes back, or something happens beyond it. -/
inductive CareMove (asked : Nat → Action) (n : Nat) : World → World → Prop
  | call {w : World} {a : Action} (asks : asked w.tasks.length = a) (keeps : a.KeepsToGate) :
    CareMove asked n w (w.spawn n (.ofOp a.op)).2
  | subscribe {w : World} {stream : Nat} {id : String} {includeCurrent : Bool} :
    CareMove asked n w (w.fork n (.reader stream id includeCurrent)).2
  | resume {w : World} {t : Nat} {task : Task} (known : w.tasks[t]? = some task) (works : task.session = n)
    (starts : task.role (rolesOf asked) t = .starts → Spawns n w (w.resume t) → Unawaited (rolesOf asked) n w) :
    CareMove asked n w (w.resume t)
  | ring (w : World) (t : Nat) : CareMove asked n w (w.ring t)
  | serve (w : World) (t : Nat) : CareMove asked n w (w.wakeAtStorage t)
  | beyond {w w' : World} (move : LoopMove asked w w') (beyond : Beyond n w w') : CareMove asked n w w'

/-- One thing happens after the other. -/
abbrev CareHistory (asked : Nat → Action) (n : Nat) : World → World → Prop := Relation.ReflTransGen (CareMove asked n)

theorem CareMove.loopMove (hn : n < w.sessions.length) (h : CareMove asked n w w') : LoopMove asked w w' := by
  cases h with
  | call asks => exact .call asks hn
  | subscribe => exact .subscribe hn
  | @resume t task known works starts =>
    refine .resume fun task' ht' => ?_
    cases known.symm.trans ht'
    exact works ▸ starts
  | ring => exact .ring _ _
  | serve => exact .serve _ _
  | beyond move => exact move

/-! ## Loops that apply a status -/

/-- A loop of a session is alive, and a status is being applied. -/
def IsApplying (n i : Nat) (w : World) : Prop := w.Polling n i ∧ (w.session n).applying = true

/-- **A loop applies a status uninterrupted**: nothing that it waited for was broken off. -/
def Uninterrupted (n i : Nat) (w : World) : Prop :=
  IsApplying n i w ∧ ∀ e next r, w.stage? i = some (.woken e next r) → e.brokenOff ≠ some r

theorem polls_iff (ht : w.tasks[t]? = some task) (hn : task.session = n) : task.polls = true ↔ w.Loops n t := by
  rw [Pacing.loops_eq ht, Task.polls]
  cases hloop : task.loop with
  | none => exact iff_of_false Bool.false_ne_true fun h => by cases h.2
  | some b =>
    cases b with
    | pollLoop => exact iff_of_true rfl ⟨hn, rfl⟩
    | reader => exact iff_of_false Bool.false_ne_true fun h => by cases h.2

theorem polling_iff : w.Polling n i ↔ ∃ task : Task, w.tasks[i]? = some task ∧ task.session = n ∧
    task.loop = some .pollLoop ∧ task.stage.verdict? = none := by
  constructor
  · rintro ⟨hloops, hlive⟩
    obtain ⟨task, hi, -⟩ := Option.map_eq_some_iff.mp hloops
    obtain ⟨hn, hloop⟩ := (Pacing.loops_eq hi).mp hloops
    exact ⟨task, hi, hn, hloop, (verdict?_eq hi).symm.trans hlive⟩
  · rintro ⟨task, hi, hn, hloop, hlive⟩
    exact ⟨(Pacing.loops_eq hi).mpr ⟨hn, hloop⟩, (verdict?_eq hi).trans hlive⟩

theorem not_loops_of_ne (h : Steady asked began w) (hit : i ≠ t) (hi : w.Polling n i) (ht : w.tasks[t]? = some task)
    (hlive : task.stage.verdict? = none) : ¬w.Loops n t := fun hloops =>
  hit <| Option.some.inj <| ((h.sane.sound _).single i hi).symm.trans
    ((h.sane.sound _).single t ⟨hloops, (verdict?_eq ht).trans hlive⟩)

/-! ## What holds all through a history -/

/-- **What holds all through a history**: every task keeps to the gate, and a loop marks that a status is being
applied exactly while it is behind the gate or in line. -/
structure Cared (asked : Nat → Action) (began : Nat → Nat) (n : Nat) (holder : Option Nat) (line : List Nat)
    (w : World) : Prop where
  guarded : Guarded n none holder line w
  steady : Steady asked began w
  marked : ∀ i, w.Polling n i → ((w.session n).applying = true ↔ holder = some i ∨ i ∈ line)

namespace Cared

theorem live (h : Cared asked began n holder line w) (hi : holder = some i ∨ i ∈ line) : w.verdict? i = none := by
  obtain ⟨task, htask, hn⟩ := h.guarded.member i hi
  have hstands := h.guarded.stands i task (fun hnone => by cases hnone) htask hn
  have hthere : Position.of holder line i ≠ .apart := fun hapart =>
    hi.elim (Position.eq_apart hapart).1 (Position.eq_apart hapart).2
  rw [verdict?_eq htask]
  generalize Position.of holder line i = p at hstands hthere
  generalize task.stage = stage at hstands
  cases hstands with
  | ended => exact absurd rfl hthere
  | _ => rfl

theorem quiet (h : Cared asked began n holder line w) (i : Nat) (hi : holder = some i ∨ i ∈ line)
    (hloops : w.Loops n i) : (w.session n).applying = true := (h.marked i ⟨hloops, h.live hi⟩).mpr hi

theorem uninterrupted (h : Cared asked began n holder line w) (hi : IsApplying n i w) : Uninterrupted n i w := by
  refine ⟨hi, fun e next r hstage => ?_⟩
  have hthere := (h.marked i hi.1).mp hi.2
  have hapart : Position.of holder line i ≠ .apart := fun hapart =>
    hthere.elim (Position.eq_apart hapart).1 (Position.eq_apart hapart).2
  obtain ⟨task, htask, hn⟩ := h.guarded.member i hthere
  have hstands := h.guarded.stands i task (fun hnone => by cases hnone) htask hn
  rw [stage?, htask] at hstage
  rw [Option.some.inj hstage] at hstands
  generalize Position.of holder line i = p at hstands hapart
  cases hstands with
  | back => exact absurd rfl hapart
  | called => exact fun h => by cases h
  | woken ungated whole => exact whole.unbroken

theorem of_same (h : Cared asked began n holder line w) (hguarded : Guarded n none holder line w')
    (hsteady : Steady asked began w') (happlying : (w'.session n).applying = (w.session n).applying)
    (hpolls : ∀ i, w'.Polling n i → w.Polling n i) : Cared asked began n holder line w' :=
  ⟨hguarded, hsteady, fun i hi => by rw [happlying]; exact h.marked i (hpolls i hi)⟩

theorem resume_kept (h : Cared asked began n holder line w) (ht : w.tasks[t]? = some task) (hn : task.session = n)
    (hlive : task.stage.verdict? = none) :
    w.resume t = w ∨ ∃ holder' line', Kept n t holder line task.polls holder' line' (w.resume t) :=
  Ward.resume_kept h.guarded ht hn
    (fun hpolls => h.marked t ⟨(polls_iff ht hn).mp hpolls, (verdict?_eq ht).trans hlive⟩) h.quiet

theorem resume (h : Cared asked began n holder line w) (hothers : ∀ i, asked i ≠ .poll .once)
    (ht : w.tasks[t]? = some task) (hn : task.session = n) (hlive : task.stage.verdict? = none)
    (hsteady : Steady asked began (w.resume t)) : ∃ holder' line', Cared asked began n holder' line' (w.resume t) := by
  rcases h.resume_kept ht hn hlive with hsame | ⟨holder', line', hkept⟩
  · rw [hsame]
    exact ⟨holder, line, h⟩
  have htouched := (Touching.resume_touched h.steady.tracked ht).1
  refine ⟨holder', line', hkept.guarded, hsteady, fun i hi => ?_⟩
  -- The task itself marks what it does; another loop was there before and is marked as it was, or is new, and then none
  -- was alive.
  by_cases hit : i = t
  · subst hit
    obtain ⟨stage, watchers, ht', -⟩ := htouched.onward i task ht
    exact hkept.marks ((polls_iff ht hn).mpr ((Pacing.loops_eq ht).mpr ((Pacing.loops_eq ht').mp hi.1)))
  rw [hkept.others i hit]
  cases hbefore : w.tasks[i]? with
  | none =>
    have hidle := h.steady.idle hothers ht hlive (n := n) fun j hj => by
      rw [Option.some.inj (((hsteady.sane.sound _).single j hj).symm.trans ((hsteady.sane.sound _).single i hi))]
      exact hbefore
    rw [hidle]
    refine iff_of_false Bool.false_ne_true fun hmem => ?_
    obtain ⟨other, hother, -⟩ := h.guarded.member i hmem
    cases hbefore.symm.trans hother
  | some other =>
    have hpolling : w.Polling n i := by
      obtain ⟨stage, watchers, hother', hturned⟩ := htouched.onward i other hbefore
      refine ⟨(Pacing.loops_eq hbefore).mpr ((Pacing.loops_eq hother').mp hi.1), ?_⟩
      rw [verdict?_eq hbefore, ← Stage.Turned.verdict? (hturned hit), ← verdict?_eq hother']
      exact hi.2
    rw [h.steady.marks_eq hothers ht (not_loops_of_ne h.steady hit hpolling ht hlive)]
    exact h.marked i hpolling

/-- **A status that is applied is applied still** when a task goes on, unless that is the loop itself, which leaves the
run settled. -/
theorem resume_applies (h : Cared asked began n holder line w) (hothers : ∀ i, asked i ≠ .poll .once)
    (ht : w.tasks[t]? = some task) (hn : task.session = n) (hlive : task.stage.verdict? = none)
    (hi : IsApplying n i w) : IsApplying n i (w.resume t) ∨
      w.resume t = w.resume i ∧ ((w.resume t).session n).applying = false ∧ ((w.resume t).site n).deposit.Settled := by
  obtain ⟨hpolls, happlying⟩ := hi
  have htouched := (Touching.resume_touched h.steady.tracked ht).1
  by_cases hit : i = t
  · subst hit
    cases hmark : ((w.resume i).session n).applying with
    | true =>
      refine .inl ⟨?_, hmark⟩
      obtain ⟨hsession, hthis⟩ := (Pacing.loops_eq ht).mp hpolls.1
      obtain ⟨stage, watchers, ht', -⟩ := htouched.onward i task ht
      refine ⟨(Pacing.loops_eq ht').mpr ⟨hsession, hthis⟩, not_ne_iff.mp fun hended => ?_⟩
      have hidle := (Pacing.resume_paced h.steady.paced ht hthis (h.steady.sane.known i task ht) hlive).1.idle hended
      rw [hn] at hidle
      cases hmark.symm.trans hidle
    | false =>
      refine .inr ⟨rfl, rfl, ?_⟩
      rcases h.resume_kept ht hn hlive with hsame | ⟨holder', line', hkept⟩
      · rw [hsame] at hmark
        cases happlying.symm.trans hmark
      · refine hkept.guarded.free ((hkept.left ((h.marked i hpolls).mp happlying)).resolve_right fun hinside => ?_)
        cases hmark.symm.trans ((hkept.marks ((polls_iff ht hn).mpr hpolls.1)).mpr (.inl hinside))
  · have hnot := not_loops_of_ne h.steady hit hpolls ht hlive
    exact .inl ⟨Pacing.polling_of_touched htouched hit hpolls, (h.steady.marks_eq hothers ht hnot).trans happlying⟩

theorem beyond (h : Cared asked began n holder line w) (hmove : LoopMove asked w w') (hbeyond : Beyond n w w') :
    Guarded n none holder line w' := by
  have hages := (hmove.sane h.steady.sane).2
  have heases : Eases n none w w' := by
    refine ⟨fun i task hi => ?_, fun i task' _ hi' hn =>
      .inl ⟨task', (hbeyond.tasks i task' hn).mp hi', hn, rfl, .same _⟩⟩
    obtain ⟨task', htask', hbadge⟩ := Option.map_eq_some_iff.mp (hages.badges i _ (badge?_eq hi))
    obtain ⟨hsession, hloop⟩ := Prod.mk.inj hbadge
    exact ⟨task', htask', hsession, hloop⟩
  refine h.guarded.carry heases hbeyond.length hbeyond.sure hbeyond.replies (by rw [hbeyond.session])
    (.inl hbeyond.stored) fun i hi => heases.loops (h.guarded.started i ?_)
  rwa [hbeyond.session] at hi

end Cared

/-- **What a move leaves**: all as it has to be, and a status that a loop applies is applied still, or the loop has
gone on and left the run settled. -/
structure Tends (asked : Nat → Action) (began : Nat → Nat) (n : Nat) (w w' : World) : Prop where
  cared : ∃ holder line, Cared asked began n holder line w'
  applies : ∀ i, IsApplying n i w → IsApplying n i w' ∨
    w' = w.resume i ∧ (w'.session n).applying = false ∧ (w'.site n).deposit.Settled

/-- **Whatever happens leaves it so.** -/
theorem CareMove.tends (h : Cared asked began n holder line w) (hothers : ∀ i, asked i ≠ .poll .once)
    (hmove : CareMove asked n w w') : Tends asked began n w w' := by
  have hloop := hmove.loopMove h.guarded.known
  have hsteady := hloop.steady h.steady hothers
  have hsame : Guarded n none holder line w' → (w'.session n).applying = (w.session n).applying →
      (∀ i, w'.Polling n i ↔ w.Polling n i) → Tends asked began n w w' := fun hguarded happlying hpolls =>
    ⟨⟨holder, line, h.of_same hguarded hsteady happlying fun i => (hpolls i).mp⟩,
      fun i hi => .inl ⟨(hpolls i).mpr hi.1, happlying.trans hi.2⟩⟩
  have hstirred : Guarded n none holder line w' → Stirred (fun _ _ => True) True w w' → Tends asked began n w w' :=
    fun hguarded hstirred => hsame hguarded (Pacing.applying_of_session (hstirred.sessions n)) fun i => by
      rw [Polling, Polling, Loops, Loops, hstirred.badge?, hstirred.verdict?]
  have hspawn : ∀ {job : Job} {b : Option Background}, b ≠ some .pollLoop →
      Guarded n none holder line (w.spawn n job b).2 → w' = (w.spawn n job b).2 → Tends asked began n w w' := by
    rintro job b hb hguarded rfl
    have hlooped : (w.spawn n job b).2.looped n = w.looped n := Looped.looped_spawn_other fun h => hb h.2
    exact hsame hguarded rfl fun i => iff_of_eq (congrFun (congrArg Looped.alive hlooped) i)
  cases hmove with
  | @call a asks keeps =>
    refine hspawn (fun h => by cases h) (h.guarded.spawned n fun loop hl => ?_) rfl
    subst hl
    exact Ward.goes_ofOp fun d => Action.upholds_custody keeps
  | @subscribe stream id includeCurrent =>
    refine hspawn (fun h => by cases h) (h.guarded.spawned n fun loop hl => ?_) rfl
    subst hl
    exact Ward.goes_ofRound fun d => (Background.upholds_custody (.reader stream id includeCurrent)).1
  | @resume t task known works starts =>
    by_cases hlive : task.stage.verdict? = none
    · exact ⟨h.resume hothers known works hlive hsteady, fun i => h.resume_applies hothers known works hlive⟩
    · have hresume : w.resume t = w := resume_of_ended fun task' ht' => by
        cases known.symm.trans ht'
        exact hlive
      rw [hresume]
      exact ⟨⟨holder, line, h⟩, fun _ => .inl⟩
  | ring t => exact hstirred (h.guarded.ring t) (stirred_ring w t)
  | serve t => exact hstirred (h.guarded.serve t) (stirred_wakeAtStorage w t)
  | beyond move beyond =>
    refine hsame (h.beyond move beyond) (by rw [beyond.session]) fun i => ?_
    simp only [polling_iff]
    exact exists_congr fun task => and_congr_left fun hthis => beyond.tasks i task hthis.1

theorem careMove_resume {b : Option Background} (hbadge : w.badge? t = some (n, b))
    (hrole : (if b.isSome then Role.spares else rolesOf asked t) ≠ .starts) : CareMove asked n w (w.resume t) := by
  obtain ⟨task, ht, hthis⟩ := Option.map_eq_some_iff.mp hbadge
  obtain ⟨hn, rfl⟩ := Prod.mk.inj hthis
  exact .resume ht hn fun hstarts => absurd hstarts hrole

/-- **A status that a loop applies is carried through**: whatever happens, it is applied still, or at some time the
loop has gone on and left the run settled. -/
theorem CareHistory.tends (h : Cared asked began n holder line w) (hothers : ∀ i, asked i ≠ .poll .once)
    (hhistory : CareHistory asked n w v) : (∃ holder line, Cared asked began n holder line v) ∧
      ∀ i, IsApplying n i w → IsApplying n i v ∨ ∃ u, CareHistory asked n w u ∧ IsApplying n i u ∧
        ((u.resume i).session n).applying = false ∧ ((u.resume i).site n).deposit.Settled ∧
          CareHistory asked n (u.resume i) v := by
  induction hhistory with
  | refl => exact ⟨⟨holder, line, h⟩, fun _ => .inl⟩
  | @tail u v hbefore hmove ih =>
    obtain ⟨⟨holder', line', hcared⟩, happlies⟩ := ih
    obtain ⟨hnext, htends⟩ := hmove.tends hcared hothers
    refine ⟨hnext, fun i hi => ?_⟩
    rcases happlies i hi with hstill | ⟨u', hu', hrest, hmark, hsettled, hafter⟩
    · rcases htends i hstill with hnow | ⟨rfl, hmark, hsettled⟩
      · exact .inl hnow
      · exact .inr ⟨u, hbefore, hstill, hmark, hsettled, .refl⟩
    · exact .inr ⟨u', hu', hrest, hmark, hsettled, hafter.tail hmove⟩

theorem CareHistory.loopHistory (h : Cared asked began n holder line w) (hothers : ∀ i, asked i ≠ .poll .once)
    (hhistory : CareHistory asked n w v) : LoopHistory asked w v := by
  induction hhistory with
  | refl => exact .refl
  | tail hbefore hmove ih =>
    obtain ⟨⟨holder', line', hcared⟩, -⟩ := CareHistory.tends h hothers hbefore
    exact ih.tail (hmove.loopMove hcared.guarded.known)

/-! ## Where a history may start -/

/-- **Where such a history may start**: nobody is at the gate, the run is settled, and hooks, store, service and
notices do what they are asked. -/
structure AtRest (n : Nat) (w : World) : Prop where
  known : n < w.sessions.length
  gate : (w.session n).stateGate = {}
  settled : (w.site n).deposit.Settled
  sure : (w.site n).Sure
  replies : w.script.Replies Call.getResources.message fun l => l.outcome.isReply = true

theorem AtRest.cared (h : w₀.AtRest n) (htasks : w₀.tasks = []) (hknown : ∀ m, (w₀.session m).pollTask = none)
    (hquiet : ∀ m, (w₀.session m).applying = false) : Cared asked (fun _ => 0) n none [] w₀ := by
  have hnone : ∀ i : Nat, w₀.tasks[i]? = none := fun i => by
    rw [htasks]
    rfl
  refine ⟨⟨h.known, h.sure, h.replies, fun i task _ hi => ?_, h.gate, fun _ => h.settled, .nil,
    fun _ _ => List.not_mem_nil, ?_, fun i hi => ?_⟩, steady_of_start htasks hknown hquiet, fun i hi => ?_⟩
  · cases (hnone i).symm.trans hi
  · rintro i (hi | hi)
    · cases hi
    · cases hi
  · cases (hknown n).symm.trans hi
  · obtain ⟨task, hi, -⟩ := polling_iff.mp hi
    cases (hnone i).symm.trans hi

/-! ## Waits that are not cut -/

/-- **A wait was not cut**: it goes on or came back, and was not broken off unless its own alarm does
that. What had come back before stays so. -/
structure Uncut (i : Nat) (w w' : World) : Prop where
  waits : ∀ e next alarm, w.stage? i = some (.waiting e next alarm) →
    w'.stage? i = some (.waiting e next alarm) ∨ ∃ r, w'.stage? i = some (.woken e next r) ∧
      (e.brokenOff = some r → ∃ a, alarm = some a ∧ a.reply = r)
  back : ∀ e next r, w.stage? i = some (.woken e next r) → w'.stage? i = some (.woken e next r)

theorem uncut_of_unbroken (h : Unbroken t w w') (hi : i ≠ t) : Uncut i w w' := by
  refine ⟨fun e next alarm hwait => ?_, fun e next r hback => ?_⟩
  · obtain ⟨stage, hstage, hserved⟩ := h i hi _ hwait
    rw [hstage]
    rcases hserved.of_waiting with rfl | ⟨r, rfl, hr⟩
    · exact .inl rfl
    · exact .inr ⟨r, rfl, hr⟩
  · obtain ⟨stage, hstage, hserved⟩ := h i hi _ hback
    rw [hstage, hserved.of_woken]

theorem uncut_of_stirred (h : Stirred (fun _ _ => False) False w w') (i : Nat) : Uncut i w w' :=
  uncut_of_unbroken (.of_stirred h (i + 1)) (Nat.ne_of_lt (Nat.lt_succ_self i))

/-- **A status that is applied is not cut.** All through a history, while a session marks that a status is being
applied,

* no task that goes on for it cuts the wait of another one, whether it stops polling, abandons the run or ends the
  session;
* nor does the end of a wait or the turn of another at the storage;
* if all that is asked of the session keeps to its gate, and nobody polls but the loops, then whatever happens the loop
  applies the status still, uninterrupted, or at some time has gone on and was done with it; then the record of the run
  is stored if the run is in progress, and nothing otherwise. -/
theorem applied_uncut (htasks : w₀.tasks = []) (hknown : ∀ m, (w₀.session m).pollTask = none)
    (h : LoopHistory asked w₀ w) (happlying : (w.session n).applying = true) :
    (∀ (t : Nat) (task : Task), w.tasks[t]? = some task → task.session = n →
      (task.role (rolesOf asked) t = .starts → Spawns n w (w.resume t) → Unawaited (rolesOf asked) n w) →
        ∀ i, i ≠ t → Uncut i w (w.resume t)) ∧
    (∀ t i, Uncut i w (w.ring t) ∧ Uncut i w (w.wakeAtStorage t)) ∧
    ((∀ i, asked i ≠ .poll .once) → w₀.AtRest n → (∀ m, (w₀.session m).applying = false) → CareHistory asked n w₀ w →
      ∀ i, w.Polling n i → ∀ v, CareHistory asked n w v →
        Uninterrupted n i v ∨ ∃ u, CareHistory asked n w u ∧ Uninterrupted n i u ∧ CareHistory asked n (u.resume i) v ∧
          ((u.resume i).session n).applying = false ∧ ((u.resume i).site n).core.Agrees) := by
  have hsane := (LoopHistory.sane (sane_of_start htasks hknown) h).1
  refine ⟨?_, fun t i => ⟨uncut_of_stirred (stirred_ring w t) i, uncut_of_stirred (stirred_wakeAtStorage w t) i⟩, ?_⟩
  · rintro t task ht rfl hclear i hi
    have hran := Looped.resume_ran hsane.toAttended (hsane.sound task.session) ht hclear
    exact uncut_of_unbroken (hran.unbroken (.inr happlying)) hi
  · intro hothers hrest hquiet hbefore i hpolls v hafter
    obtain ⟨⟨holder, line, hcared⟩, -⟩ := hbefore.tends (hrest.cared htasks hknown hquiet) hothers
    obtain ⟨⟨holder', line', hcared'⟩, happlies⟩ := hafter.tends hcared hothers
    rcases happlies i ⟨hpolls, happlying⟩ with hstill | ⟨u, hu, happlied, hmark, hsettled, hv⟩
    · exact .inl (hcared'.uninterrupted hstill)
    · obtain ⟨⟨holder₁, line₁, hcared₁⟩, -⟩ := hu.tends hcared hothers
      exact .inr ⟨u, hu, hcared₁.uninterrupted happlied, hv, hmark, hsettled.agrees⟩

/-- A run that moves data. -/
def moving : Session := { state := .launched .dataOnly, mode := some .dataOnly, board := { ttl := .whole 5 } }

/-- A session with a run that is under way, the storage of which takes its time. The service has written
half of the data. -/
def underWay : World where
  sessions := [moving]
  storage := (({ kind := .rows } : Storage).save 0 moving.record.encode).2
  script :=
    { routes := [(Call.getStatus.message.route,
        [Script.answering "\x7b\"Progress\":50,\"ProgressStatus\":4\x7d"])] }

/-- The run is polled. -/
def polled : World := ((underWay.spawn 0 (.ofOp (Action.poll .start).op)).2.resume 0).resume 1

/-- The status is applied and the loop waits for the storage; then somebody calls for a stop. -/
def applied : World := (((polled.ring 1).resume 1).spawn 0 (.ofOp (Action.poll .stop).op)).2

/-- A task waits for its turn at the storage. -/
def queues (w : World) (t : Nat) : Bool :=
  match w.stage? t with
  | some (.waiting .storageTurn _ _) => true
  | _ => false

/-- The stop waits, the storage serves the loop, and the loop ends. -/
def halted : World := (((applied.resume 2).wakeAtStorage 1).resume 1).resume 1

theorem atRest_underWay : underWay.AtRest 0 where
  known := Nat.one_pos
  gate := rfl
  settled := ⟨by decide +kernel, fun _ => rfl, rfl⟩
  sure := ⟨⟨by decide, rfl, rfl, Nat.one_pos⟩, rfl⟩
  replies := rfl

/-- A stop leaves the loop in the queue of the storage, and the loop leaves the run stored before it ends. -/
theorem stop_leaves_queue : (applied.session 0).applying = true ∧ applied.queues 1 = true ∧
    Uncut 1 applied (applied.resume 2) ∧ (applied.resume 2).queues 1 = true ∧ (halted.verdict? 1).isSome = true ∧
    ∃ u, CareHistory startThenStop 0 applied u ∧ Uninterrupted 0 1 u ∧ CareHistory startThenStop 0 (u.resume 1) halted ∧
      ((u.resume 1).session 0).applying = false ∧ ((u.resume 1).site 0).core.Agrees := by
  have hrest := atRest_underWay
  have hknown : ∀ m, (underWay.session m).pollTask = none := by
    rintro (_ | m) <;> rfl
  have hquiet : ∀ m, (underWay.session m).applying = false := by
    rintro (_ | m) <;> rfl
  have hothers : ∀ i, startThenStop i ≠ .poll .once := by
    intro i
    rw [startThenStop]
    split
    · exact fun h => by cases h
    · exact fun h => by cases h
  have hcared : Cared startThenStop (fun _ => 0) 0 none [] underWay := hrest.cared rfl hknown hquiet
  have hcall : CareMove startThenStop 0 underWay (underWay.spawn 0 (.ofOp (Action.poll .start).op)).2 :=
    .call rfl trivial
  have hstart : CareMove startThenStop 0 (underWay.spawn 0 (.ofOp (Action.poll .start).op)).2
      ((underWay.spawn 0 (.ofOp (Action.poll .start).op)).2.resume 0) := by
    refine .resume rfl rfl fun _ _ => ?_
    rintro (_ | i) task hi - hrole
    · cases hi
      cases hrole
    · cases hi
  obtain ⟨hpolled, hrung, hcount⟩ : ((underWay.spawn 0 (.ofOp (Action.poll .start).op)).2.resume 0).badge? 1 =
      some (0, some .pollLoop) ∧ (polled.ring 1).badge? 1 = some (0, some .pollLoop) ∧
        ((polled.ring 1).resume 1).tasks.length = 2 := by decide +kernel
  have hloop : CareMove startThenStop 0 ((underWay.spawn 0 (.ofOp (Action.poll .start).op)).2.resume 0) polled :=
    careMove_resume hpolled (by decide)
  have hround : CareMove startThenStop 0 (polled.ring 1) ((polled.ring 1).resume 1) :=
    careMove_resume hrung (by decide)
  have hstop : CareMove startThenStop 0 ((polled.ring 1).resume 1) applied := .call (by rw [hcount]; rfl) trivial
  have hhistory : CareHistory startThenStop 0 underWay applied :=
    (((((Relation.ReflTransGen.single hcall).tail hstart).tail hloop).tail (.ring polled 1)).tail hround).tail
      hstop
  obtain ⟨happlying, hqueued, hloops, hlive, hbadge⟩ : (applied.session 0).applying = true ∧ applied.queues 1 = true ∧
      applied.badge? 1 = some (0, some .pollLoop) ∧ applied.verdict? 1 = none ∧ applied.badge? 2 = some (0, none) := by
    decide +kernel
  obtain ⟨hqueues, hserved, hback, hquieted, hended⟩ : (applied.resume 2).queues 1 = true ∧
      ((applied.resume 2).wakeAtStorage 1).badge? 1 = some (0, some .pollLoop) ∧
      (((applied.resume 2).wakeAtStorage 1).resume 1).badge? 1 = some (0, some .pollLoop) ∧
      (halted.session 0).applying = false ∧ (halted.verdict? 1).isSome = true := by decide +kernel
  have hwaits : CareMove startThenStop 0 applied (applied.resume 2) := careMove_resume hbadge (by decide)
  have happlies : CareMove startThenStop 0 ((applied.resume 2).wakeAtStorage 1)
      (((applied.resume 2).wakeAtStorage 1).resume 1) := careMove_resume hserved (by decide)
  have hends : CareMove startThenStop 0 (((applied.resume 2).wakeAtStorage 1).resume 1) halted :=
    careMove_resume hback (by decide)
  have hafter : CareHistory startThenStop 0 applied halted :=
    (((Relation.ReflTransGen.single hwaits).tail (.serve _ 1)).tail happlies).tail hends
  obtain ⟨hstopped, -, hthrough⟩ := applied_uncut rfl hknown (hhistory.loopHistory hcared hothers) happlying
  obtain ⟨task, ht, htask⟩ := Option.map_eq_some_iff.mp hbadge
  obtain ⟨hsession, hnone⟩ := Prod.mk.inj htask
  have huncut := hstopped 2 task ht hsession (fun hstarts => by rw [Task.role, hnone] at hstarts; cases hstarts) 1
    (by decide)
  have hleft := (hthrough hothers hrest hquiet hhistory 1 ⟨hloops, hlive⟩ halted hafter).resolve_left fun hstill => by
    cases hquieted.symm.trans hstill.1.2
  exact ⟨happlying, hqueued, huncut, hqueues, hended, hleft⟩

end World

end Cutover
