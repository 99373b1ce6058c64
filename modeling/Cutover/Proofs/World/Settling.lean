import Cutover.Proofs.World.Custody

/-!
# Tasks leave the run settled

A task that goes on works until it waits or ends. It may wait behind the gate or in line before it, and if it does
neither, it has left the run settled.

* `Ward.Rested`: what a task leaves that has worked;
* `Ward.run_rests`: **a task works** until it waits or ends;
* `Ward.Kept`, `Ward.resume_kept`: **a task goes on**;
* `Ward.Guarded.spawned`, `Ward.Guarded.ring`, `Ward.Guarded.serve`: what else happens.
-/

namespace Cutover

namespace Ward

open World

variable {n t i : Nat} {loop : Bool} {stage : Stage} {busy holder holder' : Option Nat} {line line' : List Nat}
variable {w w' : World} {s : Ward} {task : Task}

/-! ## A task rests -/

/-- **What a task leaves that has worked**: who else was behind the gate or in line still is, and a loop marks that a
status is being applied exactly while it is one of them. -/
structure Rested (n t : Nat) (base : Option Nat) (line : List Nat) (loop : Bool) (holder : Option Nat)
    (line' : List Nat) (w : World) : Prop where
  guarded : Guarded n none holder line' w
  others : ∀ i, i ≠ t → ((holder = some i ∨ i ∈ line') ↔ (base = some i ∨ i ∈ line))
  inside : holder = base ∨ holder = some t
  marks : loop = true → ((w.session n).applying = true ↔ holder = some t ∨ t ∈ line')

namespace Works

variable {base : Option Nat} {e : Effect} {next : e.Reply → Job} {alarm : Option (Alarm e.Reply)}

/-- A task comes to rest outside of the gate or behind it. -/
theorem rests (h : Works n t base line loop s w) (hmarked : s.Marked loop)
    (hinside : s.inside = true → Stands loop s.site.deposit .inside stage)
    (houtside : s.inside = false → Stands loop s.site.deposit .apart stage) :
    ∃ holder', Rested n t base line loop holder' line (w.setStage t stage) := by
  refine ⟨if s.inside then some t else base, ⟨?_, fun i hit => ?_, ?_, fun hloop => ?_⟩⟩
  · refine h.guarded.restage (fun j hj _ hjt => hj (Option.some.inj hjt).symm) fun task ht _ _ => ?_
    obtain ⟨task', ht', -, hpolls⟩ := h.task
    cases ht.symm.trans ht'
    rw [hpolls, ← h.site]
    cases hin : s.inside with
    | true =>
      rw [if_pos rfl, Position.of_inside]
      exact hinside hin
    | false =>
      rw [if_neg Bool.false_ne_true, Position.of_apart h.apart.1 h.apart.2]
      exact houtside hin
  · cases hin : s.inside with
    | true =>
      rw [if_pos rfl, h.alone hin]
      refine or_congr_left ⟨fun hti => absurd (Option.some.inj hti).symm hit, fun hnone => by cases hnone⟩
    | false => exact Iff.rfl
  · split
    · exact .inr rfl
    · exact .inl rfl
  · have happlying : (w.session n).applying = s.inside :=
      (congrArg (·.session.applying) h.site).symm.trans (hmarked hloop)
    show (w.session n).applying = true ↔ _
    rw [happlying]
    cases hin : s.inside with
    | true => simp
    | false => simp [h.apart.1, h.apart.2]

theorem leads_of_wait {r : e.Reply} {s' : Ward} (he : e.isWait = true) (hungated : ∀ g, e ≠ .acquire g)
    (h : s'.inside = s.inside ∧ s.Later loop s' ∧ (s.inside = true → e.Whole r ∧ s'.site.deposit = s.site.deposit)) :
    Leads loop s e r s' := by
  cases e with
  | acquire g => exact absurd rfl (hungated g)
  | sleep | storageTurn | send | join | watchLatch | receive => exact h
  | _ => cases he

theorem pauses (h : Works n t base line loop s w) (hwait : e.isWait = true) (hungated : ∀ g, e ≠ .acquire g)
    (hunbound : s.inside = true ∨ loop = true → ∀ i, e ≠ .join i) (hmarked : s.Marked loop)
    (hrings : ∀ a, alarm = some a → e.Whole a.reply)
    (hgoes : ∀ r s', Leads loop s e r s' → Goes loop (next r) s') :
    ∃ holder', Rested n t base line loop holder' line (w.setStage t (.waiting e next alarm)) := by
  refine h.rests hmarked (fun hin => ?_) fun hout => ?_
  · refine .waiting hungated hrings fun r s' hwhole hs' => hgoes r s' (leads_of_wait hwait hungated ?_)
    have hinside : s'.inside = s.inside := hs'.inside.trans hin.symm
    refine ⟨hinside, ⟨hs'.sure, fun hloop => ?_⟩, fun _ => ⟨hwhole, hs'.deposit rfl⟩⟩
    rw [hs'.marked hloop, hmarked hloop, hinside]
  · refine .aside hungated (fun hloop => hunbound (.inr hloop)) hrings ?_
    rintro r s' ⟨d, hs'⟩
    refine hgoes r s' (leads_of_wait hwait hungated ?_)
    have hinside : s'.inside = s.inside := hs'.inside.trans hout.symm
    refine ⟨hinside, ⟨hs'.sure, fun hloop => ?_⟩, fun hin => by cases hout.symm.trans hin⟩
    rw [hs'.marked hloop, hmarked hloop, hinside]

theorem watches (h : Works n t base line loop s w) (other : Nat) :
    Works n t base line loop s (w.onTask other fun task => { task with watchers := task.watchers ++ [t] }) := by
  have hw : Eases n (some t) w (w.onTask other fun task => { task with watchers := task.watchers ++ [t] }) := by
    refine ⟨fun i task hi => ?_, fun i task' _ hi' hn => .inl ?_⟩
    · have hastir : Astir n w (w.onTask other fun task => { task with watchers := task.watchers ++ [t] }) :=
        astir_watch ..
      obtain ⟨stage, watchers, hi', -⟩ := hastir.onward i task hi
      exact ⟨_, hi', rfl, rfl⟩
    · obtain ⟨task, hi, rfl⟩ := onTask_before hi'
      refine ⟨task, hi, ?_⟩
      split at hn
      next hit =>
        rw [if_pos hit]
        exact ⟨hn, rfl, .same _⟩
      next hit =>
        rw [if_neg hit]
        exact ⟨hn, rfl, .same _⟩
  have hwatched := (h.passes hw (congrFun (Looped.stage?_listed w other t) t) rfl (fun _ _ hm => hm) ⟨_, _, _, rfl⟩ rfl
    (.inl rfl)).1
  have hsame : ({ s with site := w.site n } : Ward) = s := by rw [← h.site]
  exact hsame ▸ hwatched

/-- **A task joins the line** before the gate. -/
theorem queues {next : Waited Unit → Job} (h : Works n t base line loop s w) (houtside : s.inside = false)
    (happlying : loop = true → s.site.session.applying = true) (hopen : ¬(base = none ∧ line = []))
    (hgoes : ∀ r s', Leads loop s (.acquire .state) r s' → Goes loop (next r) s') :
    Rested n t base line loop base (line ++ [t])
      ((w.onSession n fun s => s.setGate ((s.gate .state).queueUp t) .state).setStage t
        (.waiting (.acquire .state) next none)) := by
  have hguarded := h.guarded
  rw [houtside] at hguarded
  have hwait := Position.crowded hopen
  have hqueued : Guarded n (some t) base (line ++ [t])
      (w.onSession n fun s => s.setGate (.ofLine base.isSome (line ++ [t])) .state) := by
    refine hguarded.regate rfl ?_ ?_ ?_ hguarded.free fun i hit => .inl (Position.of_append hit hwait)
    · refine List.nodup_append.mpr ⟨hguarded.nodup, List.nodup_cons.mpr ⟨List.not_mem_nil, .nil⟩, ?_⟩
      rintro i hi j hj rfl
      exact h.apart.2 (List.mem_singleton.mp hj ▸ hi)
    · intro i hi hmem
      rcases List.mem_append.mp hmem with hmem | hmem
      · exact hguarded.apart i hi hmem
      · exact h.apart.1 (List.mem_singleton.mp hmem ▸ hi)
    · rintro i (hi | hi)
      · exact hguarded.member i (.inl hi)
      · rcases List.mem_append.mp hi with hi | hi
        · exact hguarded.member i (.inr hi)
        · obtain ⟨task, ht, hn, -⟩ := h.task
          exact ⟨task, List.mem_singleton.mp hi ▸ ht, hn⟩
  rw [onSession_queueUp hguarded.gate hwait]
  refine ⟨?_, fun i hit => or_congr_right ?_, .inl rfl, fun hloop => iff_of_true ?_ ?_⟩
  · refine hqueued.restage (fun j hj _ hjt => hj (Option.some.inj hjt).symm) fun task ht _ _ => ?_
    obtain ⟨task', ht', -, hpolls⟩ := h.task
    cases ht.symm.trans ht'
    rw [hpolls, Position.of_last h.apart.1 h.apart.2 hopen]
    refine .atGate (.inl rfl) fun d s' hsettled hs' => hgoes _ s' ⟨rfl, hs'.inside, ?_, hs'.sure, fun hloop => ?_⟩
    · exact (hs'.deposit rfl).symm ▸ hsettled
    · rw [hs'.marked hloop, hs'.inside, happlying hloop]
  · simp [hit]
  · have hsite := site_onSession hguarded.known fun s => s.setGate (.ofLine base.isSome (line ++ [t])) .state
    refine (congrArg (·.session.applying) hsite).trans ?_
    exact (congrArg (·.session.applying) h.site).symm.trans (happlying hloop)
  · exact .inr (List.mem_append_right _ (List.mem_singleton_self t))

theorem waits (h : Works n t base line loop s w)
    (hmeets : (Work.ask e next).Meets (custody loop) (fun _ s' => Outside loop s') s)
    (hperform : w.perform t e = (w', .wait alarm)) :
    ∃ holder' line', Rested n t base line loop holder' line' (w'.setStage t (.waiting e next alarm)) := by
  obtain ⟨hallows, hnext⟩ := hmeets
  have hpauses : ∀ {w' : World}, Works n t base line loop s w' → (∀ g, e ≠ .acquire g) →
      (s.inside = true ∨ loop = true → ∀ i, e ≠ .join i) → s.Marked loop → (∀ a, alarm = some a → e.Whole a.reply) →
      ∃ holder' line', Rested n t base line loop holder' line' (w'.setStage t (.waiting e next alarm)) :=
    fun hw hungated hunbound hmarked hrings => by
      obtain ⟨holder', hrested⟩ := hw.pauses (isWait_of_perform hperform) hungated hunbound hmarked hrings hnext
      exact ⟨holder', line, hrested⟩
  cases e with
  | acquire g =>
    cases g with
    | state =>
      obtain ⟨houtside, happlying⟩ := hallows
      rw [perform] at hperform
      by_cases hopen : base = none ∧ line = []
      · obtain ⟨rfl, rfl⟩ := hopen
        have hguarded := h.guarded
        rw [houtside] at hguarded
        rw [acquire_free h.works (g := .state) hguarded.gate] at hperform
        cases hperform
      · rw [h.acquire_wait houtside hopen] at hperform
        cases hperform
        exact ⟨_, _, h.queues houtside happlying hopen hnext⟩
    | fetch =>
      have hfree : (w.session n).gate .fetch = {} := by
        have hgate := hallows.2
        rw [h.site] at hgate
        exact hgate
      rw [perform, acquire_free h.works hfree] at hperform
      cases hperform
  | sleep d =>
    cases hperform
    exact hpauses h (fun _ h => by cases h) (fun _ _ h => by cases h) hallows fun a ha => by cases ha; rfl
  | storageTurn =>
    rw [perform, awaitStorage] at hperform
    split at hperform
    · cases hperform
    · cases hperform
      have hqueued : Works n t base line loop s { w with storageQueue := w.storageQueue ++ [t] } :=
        { h with guarded := { h.guarded with } }
      exact hpauses hqueued (fun _ h => by cases h) (fun _ _ h => by cases h) hallows fun _ ha => by cases ha
  | send m =>
    rw [perform, World.send] at hperform
    dsimp only at hperform
    split at hperform
    · cases hperform
    · cases hperform
      have hsent : Works n t base line loop s { w with script := (w.script.next m).2, sent := w.sent ++ [m] } :=
        { h with guarded := { h.guarded with replies := h.guarded.replies.after m } }
      refine hpauses hsent (fun _ h => by cases h) (fun _ _ h => by cases h) hallows fun a ha => ?_
      cases ha
      refine ⟨_, rfl, ?_⟩
      rintro rfl
      exact h.guarded.replies.now
  | join other =>
    rw [perform, World.join] at hperform
    obtain ⟨houtside, hloop⟩ := hallows
    split at hperform
    · cases hperform
    · cases hperform
      refine hpauses (h.watches other) (fun _ h => by cases h) ?_ (fun h => by cases hloop.symm.trans h)
        fun _ ha => by cases ha
      rintro (hinside | hthis)
      · cases houtside.symm.trans hinside
      · cases hloop.symm.trans hthis
    · cases hperform
  | watchLatch d =>
    rw [perform, World.watchLatch] at hperform
    split at hperform
    · cases hperform
    · cases hperform
      refine hpauses h (fun _ h => by cases h) (fun _ _ h => by cases h) hallows fun a ha => ?_
      obtain ⟨_, -, rfl⟩ := Option.map_eq_some_iff.mp ha
      exact fun h => by cases h
  | receive stream =>
    rw [perform] at hperform
    split at hperform
    · cases hperform
    · cases hperform
      exact hpauses h (fun _ h => by cases h) (fun _ _ h => by cases h) hallows fun _ ha => by cases ha
  | _ => cases isWait_of_perform hperform

end Works

theorem Guarded.comes {e : Effect} {next : e.Reply → Job} {alarm : Option (Alarm e.Reply)} {r : e.Reply}
    (h : Guarded n busy holder line w) (hstage : w.stage? i = some (.waiting e next alarm))
    (hungated : ∀ g, e ≠ .acquire g) (hwhole : e.Whole r) (laps : Nat) :
    Guarded n busy holder line ((w.setStage i (.woken e next r)).enqueue i laps) := by
  refine (h.restage (fun _ _ hj => hj) fun task htask hn hbusy => ?_).enqueue i laps
  have hstands := h.stands i task hbusy htask hn
  rw [World.stage?, htask] at hstage
  exact hstands.eased (Option.some.inj hstage ▸ .comes hungated hwhole)

theorem Guarded.wakeWatchers (h : Guarded n busy holder line w) (result : Except Exit Unit) (is : List Nat) :
    Guarded n busy holder line (is.foldl (wakeWatcher result) w) := by
  induction is generalizing w with
  | nil => exact h
  | cons i is ih =>
    refine ih ?_
    unfold wakeWatcher
    split
    next other next alarm hstage => exact h.comes hstage (fun _ h => by cases h) (fun h => by cases h) 0
    next => exact h

section
variable {base : Option Nat}

/-- **A task that has ended, or goes on to its next round,** stands outside of the gate. -/
theorem Works.concludes (h : Works n t base line loop s w) (hout : Outside loop s) (r : Except Exit Outturn) :
    ∃ holder', Rested n t base line loop holder' line (w.conclude t r) := by
  obtain ⟨d, hs⟩ := hout
  have hrests : ∀ stage, (∀ d, Stands loop d .apart stage) →
      ∃ holder', Rested n t base line loop holder' line (w.setStage t stage) := fun _ hstands =>
    h.rests hs.marked (fun hin => by cases hs.inside.symm.trans hin) fun _ => hstands _
  have hfinish : ∀ r, ∃ holder', Rested n t base line loop holder' line (w.finish t r) := by
    intro r
    obtain ⟨holder', hrested⟩ := hrests (.ended r) fun _ => .ended
    have htold : Stirred (fun _ _ => True) True (w.setStage t (.ended r)) (w.finish t r) :=
      stirred_wakeWatchers fun _ _ _ _ _ _ => trivial
    refine ⟨holder', hrested.guarded.wakeWatchers _ _, hrested.others, hrested.inside, fun hloop => ?_⟩
    rw [Pacing.applying_of_session (htold.sessions n)]
    exact hrested.marks hloop
  unfold conclude
  split
  · exact hfinish _
  · exact hfinish _
  · split
    next b hb =>
      obtain ⟨task, ht, -, hpolls⟩ := h.task
      have hthis : task.loop = some b := by rwa [ht] at hb
      obtain ⟨holder', hrested⟩ := hrests (.fresh (.ofRound b.round)) fun _ => .fresh <| by
        rw [← hpolls, Task.polls, hthis]
        exact goes_ofRound fun d => (b.upholds_custody (d := d)).2
      exact ⟨holder', { hrested with guarded := { hrested.guarded with } }⟩
    · exact hfinish _

theorem run_rests {job : Job} (h : Works n t base line loop s w) (hgoes : Goes loop job s) :
    ∃ holder' line', Rested n t base line loop holder' line' (run t job w) := by
  have hstep : ∀ s w w' (e : Effect) (r : e.Reply), Works n t base line loop s w → Allows loop s e →
      w.perform t e = (w', .reply r) → ∃ s', Leads loop s e r s' ∧ Works n t base line loop s' w' :=
    fun _ _ _ _ _ h hallows hreply => h.step hallows hreply
  have hstretches := run_stretches hstep hgoes h
  generalize run t job w = v at hstretches ⊢
  cases hstretches with
  | ends hworks hout =>
    obtain ⟨holder', hrested⟩ := hworks.concludes hout _
    exact ⟨holder', line, hrested⟩
  | waits hworks hmeets hperform => exact hworks.waits hmeets hperform

end

/-! ## A task goes on -/

/-- **What a task leaves that went on**: nobody else came to the gate or left it, and who was there when it went on has
left it or is behind it. -/
structure Kept (n t : Nat) (holder : Option Nat) (line : List Nat) (loop : Bool) (holder' : Option Nat)
    (line' : List Nat) (w' : World) : Prop where
  guarded : Guarded n none holder' line' w'
  others : ∀ i, i ≠ t → ((holder' = some i ∨ i ∈ line') ↔ (holder = some i ∨ i ∈ line))
  marks : loop = true → ((w'.session n).applying = true ↔ holder' = some t ∨ t ∈ line')
  left : holder = some t ∨ t ∈ line → holder' = none ∨ holder' = some t

theorem Rested.kept {base : Option Nat} {line₀ : List Nat} (h : Rested n t base line₀ loop holder' line' w')
    (hothers : ∀ i, i ≠ t → ((base = some i ∨ i ∈ line₀) ↔ (holder = some i ∨ i ∈ line)))
    (halone : holder = some t ∨ t ∈ line → base = none) : Kept n t holder line loop holder' line' w' :=
  ⟨h.guarded, fun i hit => (h.others i hit).trans (hothers i hit), h.marks,
    fun hthere => h.inside.imp_left fun hbase => hbase.trans (halone hthere)⟩

theorem Guarded.begins (h : Guarded n none holder line w) (t : Nat) : Guarded n (some t) holder line w :=
  { h with
    stands := fun i task _ => h.stands i task fun hnone => by cases hnone
    free := h.free }

theorem Guarded.letIn {rest : List Nat} (h : Guarded n (some t) none (t :: rest) w) :
    Guarded n (some t) (some t) rest (w.onSession n fun s => s.setGate ((s.gate .state).letIn t) .state) := by
  obtain ⟨hnew, hrest⟩ := List.nodup_cons.mp h.nodup
  rw [onSession_letIn h.gate hnew]
  refine h.regate rfl hrest ?_ (fun i hi => h.member i (.inr ?_)) (fun hnone => by cases hnone)
    fun i hit => .inl (Position.of_letIn hit)
  · rintro i hi
    cases hi
    exact hnew
  · rcases hi with hi | hi
    · cases hi
      exact List.mem_cons_self
    · exact List.mem_cons_of_mem _ hi

section
variable {job : Job} (ht : w.tasks[t]? = some task) (hn : task.session = n) (hruns : w.Runs t)
include ht hn hruns

/-- Outside of the gate a task has nothing in custody. -/
theorem Guarded.runs_outside (h : Guarded n none holder line w) (hapart : Position.of holder line t = .apart)
    (hmarks : task.polls = true → ((w.session n).applying = true ↔ holder = some t ∨ t ∈ line))
    (hquiet : ∀ i, holder = some i ∨ i ∈ line → w.Loops n i → (w.session n).applying = true)
    (hgoes : ∀ s, Outside task.polls s → Goes task.polls job s) :
    ∃ holder' line', Kept n t holder line task.polls holder' line' (run t job w) := by
  have hthere := Position.eq_apart hapart
  have hno : ¬(holder = some t ∨ t ∈ line) := fun hthis => hthis.elim hthere.1 hthere.2
  have happlying : task.polls = true → (w.session n).applying = false := fun hloop =>
    Bool.eq_false_iff.mpr fun hmark => hno ((hmarks hloop).mp hmark)
  have hbegins : Works n t holder line task.polls { site := w.site n } w :=
    ⟨h.begins t, (fun hin => by cases hin), hthere, ⟨task, ht, hn, rfl⟩, hruns, rfl, (fun i hi => by cases hi),
      fun _ => hquiet⟩
  obtain ⟨holder', line', hrested⟩ := run_rests hbegins
    (hgoes _ ⟨(w.site n).deposit, ⟨rfl, h.sure, happlying, fun hb => by cases hb⟩⟩)
  exact ⟨holder', line', hrested.kept (fun _ _ => Iff.rfl) fun hthis => absurd hthis hno⟩

/-- Behind the gate a task finds the run as it was when it came to wait. -/
theorem Guarded.runs_inside (h : Guarded n none (some t) line w)
    (hmarks : task.polls = true → (w.session n).applying = true)
    (hquiet : ∀ i, i ∈ line → w.Loops n i → (w.session n).applying = true)
    (hgoes : ∀ s, At task.polls true (w.site n).deposit s → Goes task.polls job s) :
    ∃ holder' line', Kept n t (some t) line task.polls holder' line' (run t job w) := by
  have hbegins : Works n t none line task.polls { site := w.site n, inside := true } w :=
    ⟨h.begins t, fun _ => rfl, ⟨(fun hnone => by cases hnone), h.apart t rfl⟩, ⟨task, ht, hn, rfl⟩, hruns, rfl,
      (fun i hi => by cases hi), fun _ i hi => hquiet i (hi.resolve_left fun hnone => by cases hnone)⟩
  obtain ⟨holder', line', hrested⟩ := run_rests hbegins (hgoes _ ⟨rfl, h.sure, hmarks, fun _ => rfl⟩)
  refine ⟨holder', line', hrested.kept (fun i hit => or_congr_left (iff_of_false ?_ ?_)) fun _ => rfl⟩
  · exact (Option.some_ne_none i).symm
  · exact fun hti => hit (Option.some.inj hti).symm

/-- Who is called goes through the gate and finds the run settled. -/
theorem Guarded.runs_letIn {rest : List Nat} {next : Waited Unit → Job} (h : Guarded n none none (t :: rest) w)
    (hmarks : task.polls = true → (w.session n).applying = true)
    (hquiet : ∀ i, i ∈ t :: rest → w.Loops n i → (w.session n).applying = true) (hgoes : GoesIn task.polls next) :
    ∃ holder' line', Kept n t none (t :: rest) task.polls holder' line'
      (run t (next (.back ())) (w.onSession n fun s => s.setGate ((s.gate .state).letIn t) .state)) := by
  have hin := (h.begins t).letIn
  have hsite := site_onSession h.known fun s => s.setGate ((s.gate .state).letIn t) .state
  have happlying : ((w.onSession n fun s => s.setGate ((s.gate .state).letIn t) .state).session n).applying =
      (w.session n).applying := congrArg (·.session.applying) hsite
  have hsettled : ((w.onSession n fun s => s.setGate ((s.gate .state).letIn t) .state).site n).deposit.Settled := by
    rw [hsite]
    exact h.free rfl
  have hbegins : Works n t none rest task.polls
      { site := (w.onSession n fun s => s.setGate ((s.gate .state).letIn t) .state).site n, inside := true }
      (w.onSession n fun s => s.setGate ((s.gate .state).letIn t) .state) :=
    ⟨hin, fun _ => rfl, ⟨(fun hnone => by cases hnone), hin.apart t rfl⟩, ⟨task, ht, hn, rfl⟩, hruns, rfl,
      (fun i hi => by cases hi), fun _ i hi hloops => happlying.trans
        (hquiet i (List.mem_cons_of_mem _ (hi.resolve_left fun hnone => by cases hnone)) hloops)⟩
  obtain ⟨holder', line', hrested⟩ := run_rests hbegins
    (hgoes _ _ hsettled ⟨rfl, hin.sure, fun hloop => happlying.trans (hmarks hloop), fun _ => rfl⟩)
  refine ⟨holder', line', hrested.kept (fun i hit => or_congr_right ?_) fun _ => rfl⟩
  simp [hit]

end

/-- **A task goes on**, until it waits or ends, and leaves all as it has to be. -/
theorem resume_kept (h : Guarded n none holder line w) (ht : w.tasks[t]? = some task) (hn : task.session = n)
    (hmarks : task.polls = true → ((w.session n).applying = true ↔ holder = some t ∨ t ∈ line))
    (hquiet : ∀ i, holder = some i ∨ i ∈ line → w.Loops n i → (w.session n).applying = true) :
    w.resume t = w ∨ ∃ holder' line', Kept n t holder line task.polls holder' line' (w.resume t) := by
  have hstage : (w.tasks[t]?).map Task.stage = some task.stage := by
    rw [ht]
    rfl
  have hruns : task.stage.works = true → w.Runs t := fun hworks e next alarm hwaits => by
    rw [Option.some.inj (hstage.symm.trans hwaits)] at hworks
    cases hworks
  have hstands := h.stands t task (fun hnone => by cases hnone) ht hn
  rw [resume, hstage]
  generalize hp : Position.of holder line t = p at hstands
  generalize hcase : task.stage = stage at hstands hruns
  cases hstands with
  | fresh goes => exact .inr (h.runs_outside ht hn (hruns rfl) hp hmarks hquiet goes)
  | back ungated goes =>
    simp only [settleAtGate_of_ungated ungated]
    exact .inr (h.runs_outside ht hn (hruns rfl) hp hmarks hquiet (goes _))
  | woken ungated whole goes =>
    simp only [settleAtGate_of_ungated ungated]
    obtain rfl := Position.eq_inside.mp hp
    exact .inr (h.runs_inside ht hn (hruns rfl) (fun hloop => (hmarks hloop).mpr (.inl rfl))
      (fun i hi => hquiet i (.inr hi)) goes)
  | called goes =>
    obtain ⟨rfl, rest, rfl⟩ := Position.eq_called hp
    have hsettle : w.settleAtGate t (.acquire .state) (.back ()) =
        w.onSession n fun s => s.setGate ((s.gate .state).letIn t) .state := by
      rw [settleAtGate, Touching.sessionOf_eq ht, hn]
    simp only [hsettle]
    exact .inr (h.runs_letIn ht hn (hruns rfl) (fun hloop => (hmarks hloop).mpr (.inr List.mem_cons_self))
      (fun i hi => hquiet i (.inr hi)) goes)
  | ended | aside | atGate | waiting => exact .inl rfl

/-! ## What else happens -/

theorem Guarded.spawned {job : Job} {b : Option Background} (h : Guarded n none holder line w) (m : Nat)
    (hfresh : ∀ loop, loop = Task.polls { session := m, loop := b, stage := .fresh job } →
      ∀ s, Outside loop s → Goes loop job s) : Guarded n none holder line (w.spawn m job b).2 :=
  { h with
    stands := fun i task hi htask hn => by
      rcases spawn_before htask with hbefore | ⟨rfl, rfl⟩
      · exact h.stands i task hi hbefore hn
      · rw [h.apart_of_new (Nat.le_refl _)]
        exact .fresh (hfresh _ rfl)
    member := fun i hi => by
      obtain ⟨task, htask, hn⟩ := h.member i hi
      exact ⟨task, (spawn_other (List.getElem?_eq_some_iff.mp htask).1).trans htask, hn⟩
    started := fun i hi => by
      obtain ⟨task, htask, hbadge⟩ := Option.map_eq_some_iff.mp (h.started i hi)
      have hlt : i < w.tasks.length := (List.getElem?_eq_some_iff.mp htask).1
      have hsame : (w.spawn m job b).2.badge? i = w.badge? i := by rw [badge?, spawn_other hlt, badge?]
      exact hsame.trans (h.started i hi) }

theorem Guarded.ring (h : Guarded n none holder line w) (t : Nat) : Guarded n none holder line (w.ring t) := by
  cases ht : w.tasks[t]? with
  | none =>
    rw [World.ring, ht]
    exact h
  | some task =>
    by_cases hrings : ∃ (e : Effect) (next : e.Reply → Job) (a : Alarm e.Reply), task.stage = .waiting e next (some a)
    · obtain ⟨e, next, a, hwaits⟩ := hrings
      have hstage : w.stage? t = some (.waiting e next (some a)) := by rw [stage?, ht, Option.map_some, hwaits]
      obtain ⟨laps, hring⟩ := ring_eq hstage
      rw [hring]
      by_cases hn : task.session = n
      · have hstands := h.stands t task (fun hnone => by cases hnone) ht hn
        rw [hwaits] at hstands
        generalize Position.of holder line t = p at hstands
        cases hstands with
        | aside ungated _ rings => exact h.comes hstage ungated (rings a rfl) laps
        | waiting ungated rings => exact h.comes hstage ungated (rings a rfl) laps
      · refine (h.restage (fun _ _ hj => hj) fun task' ht' hn' => ?_).enqueue t laps
        cases ht.symm.trans ht'
        exact absurd hn' hn
    · have hsame : w.ring t = w := by
        unfold World.ring
        split
        next e next a hwaits =>
          rw [ht] at hwaits
          exact absurd ⟨e, next, a, Option.some.inj hwaits⟩ hrings
        next => rfl
      rwa [hsame]

theorem Guarded.serve (h : Guarded n busy holder line w) (t : Nat) :
    Guarded n busy holder line (w.wakeAtStorage t) := by
  unfold World.wakeAtStorage
  split
  next next alarm hstage => exact h.comes hstage (fun _ h => by cases h) rfl 0
  next => exact h

end Ward

end Cutover
