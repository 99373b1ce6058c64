import Cutover.Proofs.Control.Section
import Cutover.World.Running

/-!
# What work does to a world

A task that works changes its own session and what it shares with others. Of the other tasks it may
only rouse those that wait for an item or for a latch.

What the contract of work behind the state gate says about the replies to an effect is what a world
does when a task asks for it.

* `Script.Replies`: what the service replies to a message, now and later;
* `Stage.Roused`: what the work of another task may do to a task;
* `World.Beside`, `World.Aside`: what the work of a task leaves alone, over time and at an instant;
* `World.Got`, `World.Served`: what the readers get;
* `World.offered_publish`: every reader gets what is published;
* `Surroundings.Ends`: the reply that ends a wait behind the gate;
* `World.Performed`, `World.performed`: **worlds keep the contract** of work behind the gate.
-/

namespace Cutover

section

/-! ## Replies of the service -/

namespace Script

/-- Every reply to a message is as a predicate says, now and later. -/
def Replies (s : Script) (m : Message) (P : ScriptLine → Prop) : Prop :=
  match s.routes.lookup m.route with
  | some (line :: rest) => ∀ l ∈ line :: rest, P l
  | _ => P (fallback m)

variable {s : Script} {m : Message} {P : ScriptLine → Prop}

theorem Replies.now (h : s.Replies m P) : P (s.next m).1 := by
  unfold Replies at h
  unfold next
  split at h
  next line rest hlines =>
    rw [hlines]
    cases rest with
    | nil => exact h line (List.mem_singleton_self _)
    | cons _ _ => exact h line List.mem_cons_self
  next hnone =>
    split
    next hlines => exact absurd hlines (hnone _ _)
    next hlines => exact absurd hlines (hnone _ _)
    next => exact h

theorem Replies.of_forall (h : ∀ l, P l) : s.Replies m P := by
  unfold Replies
  split
  · exact fun l _ => h l
  · exact h _

theorem Replies.mono {P' : ScriptLine → Prop} (h : s.Replies m P) (hP : ∀ l, P l → P' l) :
    s.Replies m P' := by
  unfold Replies at h ⊢
  split
  next hlines =>
    rw [hlines] at h
    exact fun l hl => hP l (h l hl)
  next hnone =>
    refine hP _ ?_
    split at h
    next hlines => exact absurd hlines (hnone _ _)
    next => exact h

theorem Replies.after (h : s.Replies m P) (m' : Message) : (s.next m').2.Replies m P := by
  unfold next
  split
  next line line' rest hlines =>
    unfold Replies at h ⊢
    by_cases hroute : m'.route = m.route
    · rw [← hroute] at h ⊢
      rw [hlines] at h
      rw [lookup_put_self]
      exact fun l hl => h l (List.mem_cons_of_mem _ hl)
    · simp only [lookup_put_of_ne _ _ (Ne.symm hroute)]
      exact h
  next => exact h
  next => exact h

end Script

/-! ## Rousing -/

/-- The wait of a reader for an item, or of a loop for its latch. -/
def Effect.isPassive : Effect → Bool
  | receive _ => true
  | watchLatch _ => true
  | _ => false

/-- **What the work of another task may do to a task.** -/
inductive Stage.Roused : Stage → Stage → Prop
  | same (s : Stage) : Roused s s
  | woken {e : Effect} {next : e.Reply → Job} {alarm : Option (Alarm e.Reply)} {r : e.Reply}
    (h : e.isPassive = true) (whole : e.brokenOff ≠ some r) : Roused (.waiting e next alarm) (.woken e next r)

theorem Stage.Roused.trans {a b c : Stage} (h : a.Roused b) (h' : b.Roused c) : a.Roused c := by
  cases h with
  | same _ => exact h'
  | woken hp hwhole =>
    cases h' with
    | same _ => exact .woken hp hwhole

namespace World

variable {n t : Nat} {w w' w'' : World}

/-! ## Sites -/

@[simp] theorem session_onSession (hn : n < w.sessions.length) (f : Session → Session) :
    (w.onSession n f).session n = f (w.session n) := by
  simp [onSession, session, hn]

theorem session_onSession_ne {m : Nat} (hm : m ≠ n) (f : Session → Session) :
    (w.onSession n f).session m = w.session m := by
  simp [onSession, session, hm.symm]

theorem site_onSession (hn : n < w.sessions.length) (f : Session → Session) :
    (w.onSession n f).site n = (w.site n).onSession f := by
  simp only [site, session_onSession hn, Site.onSession]
  rfl

theorem site_setSite (hn : n < w.sessions.length) (x : Site) :
    (w.setSite n x).site n = { x with now := w.now } := by
  simp [setSite, site, session, hn]

theorem session_setSite_ne {m : Nat} (hm : m ≠ n) (x : Site) :
    (w.setSite n x).session m = w.session m := by
  simp [setSite, session, hm.symm]

/-- How far a task has come. -/
def stage? (w : World) (t : Nat) : Option Stage := (w.tasks[t]?).map Task.stage

/-- A task does not wait. -/
def Runs (w : World) (t : Nat) : Prop := ∀ e next alarm, w.stage? t ≠ some (.waiting e next alarm)

/-! ## One effect after another -/

theorem run_reply {e : Effect} {next : e.Reply → Job} {r : e.Reply} (h : w.perform t e = (w', .reply r)) :
    run t (.ask e next) w = run t (next r) w' := by rw [run, h]

theorem run_wait {e : Effect} {next : e.Reply → Job} {alarm : Option (Alarm e.Reply)}
    (h : w.perform t e = (w', .wait alarm)) :
    run t (.ask e next) w = w'.setStage t (.waiting e next alarm) := by rw [run, h]

/-! ## What is left alone -/

/-- **What the work of a task leaves alone** while it goes on: the other sessions, and the other
tasks, save that it may rouse them. -/
structure Beside (n t : Nat) (w w' : World) : Prop where
  now : w.now ≤ w'.now
  replies : ∀ m P, w.script.Replies m P → w'.script.Replies m P
  length : w'.sessions.length = w.sessions.length
  others : ∀ m, m ≠ n → w'.session m = w.session m
  own : ∀ task : Task, w.tasks[t]? = some task → ∃ stage, w'.tasks[t]? = some { task with stage }
  tasks : ∀ (i : Nat) (task : Task), i ≠ t → w.tasks[i]? = some task →
    ∃ stage, w'.tasks[i]? = some { task with stage } ∧ task.stage.Roused stage
  new : ∀ (i : Nat) (task : Task), i ≠ t → w.tasks.length ≤ i → w'.tasks[i]? = some task →
    ∃ job, task.stage = .fresh job

/-- **What an effect of a task leaves alone** at the instant it is carried out. -/
structure Aside (n t : Nat) (w w' : World) : Prop extends Beside n t w w' where
  instant : w'.now = w.now
  gate : (w'.session n).stateGate = (w.session n).stateGate
  stays : w'.tasks[t]? = w.tasks[t]?
  count : w'.tasks.length = w.tasks.length

theorem Beside.refl (n t : Nat) (w : World) : Beside n t w w where
  now := Int.le_refl _
  replies _ _ h := h
  length := rfl
  others _ _ := rfl
  own task h := ⟨task.stage, h⟩
  tasks _ task _ h := ⟨task.stage, h, .same _⟩
  new i task _ hi h := by
    rw [List.getElem?_eq_none hi] at h
    cases h

theorem Beside.trans (h : Beside n t w w') (h' : Beside n t w' w'') : Beside n t w w'' where
  now := Int.le_trans h.now h'.now
  replies m P hm := h'.replies m P (h.replies m P hm)
  length := h'.length.trans h.length
  others m hm := (h'.others m hm).trans (h.others m hm)
  own task ht := by
    obtain ⟨stage, hstage⟩ := h.own task ht
    obtain ⟨stage', hstage'⟩ := h'.own _ hstage
    exact ⟨stage', hstage'⟩
  tasks i task hit hi := by
    obtain ⟨stage, hstage, hroused⟩ := h.tasks i task hit hi
    obtain ⟨stage', hstage', hroused'⟩ := h'.tasks i _ hit hstage
    exact ⟨stage', hstage', hroused.trans hroused'⟩
  new i task hit hi htask := by
    cases hi' : w'.tasks[i]? with
    | none => exact h'.new i task hit (List.getElem?_eq_none_iff.mp hi') htask
    | some task' =>
      obtain ⟨job, hjob⟩ := h.new i task' hit hi hi'
      obtain ⟨stage, hstage, hroused⟩ := h'.tasks i task' hit hi'
      rw [htask] at hstage
      cases hstage
      rw [hjob] at hroused
      cases hroused with
      | same _ => exact ⟨job, rfl⟩

namespace Aside

theorem of_tasks (hnow : w'.now = w.now)
    (hreplies : ∀ m P, w.script.Replies m P → w'.script.Replies m P)
    (hlength : w'.sessions.length = w.sessions.length)
    (hothers : ∀ m, m ≠ n → w'.session m = w.session m)
    (hgate : (w'.session n).stateGate = (w.session n).stateGate) (htasks : w'.tasks = w.tasks) :
    Aside n t w w' where
  now := hnow ▸ Int.le_refl _
  replies := hreplies
  length := hlength
  others := hothers
  own task h := ⟨task.stage, by rw [htasks]; exact h⟩
  tasks _ task _ h := ⟨task.stage, by rw [htasks]; exact h, .same _⟩
  new i task _ hi h := by
    rw [htasks, List.getElem?_eq_none hi] at h
    cases h
  instant := hnow
  gate := hgate
  stays := by rw [htasks]
  count := by rw [htasks]

theorem refl (n t : Nat) (w : World) : Aside n t w w :=
  of_tasks rfl (fun _ _ h => h) rfl (fun _ _ => rfl) rfl rfl

theorem trans (h : Aside n t w w') (h' : Aside n t w' w'') : Aside n t w w'' :=
  ⟨h.toBeside.trans h'.toBeside, h'.instant.trans h.instant, h'.gate.trans h.gate,
    h'.stays.trans h.stays, h'.count.trans h.count⟩

theorem runs (h : Aside n t w w') (hruns : w.Runs t) : w'.Runs t := by
  unfold Runs stage?
  rw [h.stays]
  exact hruns

end Aside

theorem aside_wake {i : Nat} {task : Task} {e : Effect} {next : e.Reply → Job}
    {alarm : Option (Alarm e.Reply)} (hit : i ≠ t) (hi : w.tasks[i]? = some task)
    (hstage : task.stage = .waiting e next alarm) (hp : e.isPassive = true) {r : e.Reply}
    (hwhole : e.brokenOff ≠ some r) (laps : Nat) : Aside n t w ((w.setStage i (.woken e next r)).enqueue i laps) where
  now := Int.le_refl _
  replies _ _ h := h
  length := rfl
  others _ _ := rfl
  own other ht := ⟨other.stage, by simp [enqueue, setStage, onTask, ht, hit]⟩
  tasks j other hjt hj := by
    simp only [enqueue, setStage, onTask, List.getElem?_modify, hj]
    by_cases hij : i = j
    · subst hij
      rw [hi] at hj
      cases hj
      refine ⟨.woken e next r, by simp, ?_⟩
      rw [hstage]
      exact .woken hp hwhole
    · exact ⟨other.stage, by simp [hij], .same _⟩
  new j other _ hj hother := by
    rw [List.getElem?_eq_none (by simpa [enqueue, setStage, onTask] using hj)] at hother
    cases hother
  instant := rfl
  gate := rfl
  stays := by simp [enqueue, setStage, onTask, hit]
  count := by simp [enqueue, setStage, onTask]

theorem Runs.ne {i : Nat} {task : Task} {e : Effect} {next : e.Reply → Job}
    {alarm : Option (Alarm e.Reply)} (hruns : w.Runs t) (hi : w.tasks[i]? = some task)
    (hstage : task.stage = .waiting e next alarm) : i ≠ t := by
  rintro rfl
  exact hruns e next alarm (by rw [stage?, hi, Option.map_some, hstage])

theorem beside_onSession (n t : Nat) (w : World) (f : Session → Session) :
    Beside n t w (w.onSession n f) where
  now := Int.le_refl _
  replies _ _ h := h
  length := by simp [onSession]
  others m hm := session_onSession_ne hm f
  own task h := ⟨task.stage, h⟩
  tasks _ task _ h := ⟨task.stage, h, .same _⟩
  new i task _ hi h := by
    rw [onSession, List.getElem?_eq_none hi] at h
    cases h

theorem aside_onSession (hn : n < w.sessions.length) {f : Session → Session}
    (hgate : (f (w.session n)).stateGate = (w.session n).stateGate) :
    Aside n t w (w.onSession n f) :=
  ⟨beside_onSession n t w f, rfl, by rw [session_onSession hn, hgate], rfl, rfl⟩

/-! ## Readers -/

/-- The mailboxes of the readers only grow. -/
def Grown (n : Nat) (w w' : World) : Prop :=
  ∀ r ∈ (w.session n).streams, ∃ r' ∈ (w'.session n).streams,
    r'.number = r.number ∧ r.mailbox <+: r'.mailbox

/-- **A reader got an item**: into its mailbox, or handed over while it waited for one. -/
def Got (n t : Nat) (item : Option RunState) (r : Stream) (w w' : World) : Prop :=
  (∃ r' ∈ (w'.session n).streams, r'.number = r.number ∧
    ∃ more, r'.mailbox = r.mailbox ++ more ∧ item ∈ more) ∨
  ∃ i next alarm, i ≠ t ∧ w.sessionOf i = n ∧
    w.stage? i = some (.waiting (.receive r.number) next alarm) ∧
    w'.stage? i = some (.woken (.receive r.number) next (.back item))

/-- The readers are as they were: their mailboxes, and the waits for an item. -/
structure Untouched (n t : Nat) (w w' : World) : Prop where
  streams : (w'.session n).streams = (w.session n).streams
  waiting : ∀ (i m : Nat) next alarm, i ≠ t →
    w.stage? i = some (.waiting (.receive m) next alarm) →
    w'.stage? i = some (.waiting (.receive m) next alarm)

/-- **What readers were served** while work went on that published some items. -/
structure Served (n t : Nat) (w w' : World) (p p' : List (Option RunState)) : Prop where
  grown : Grown n w w'
  published : p <+: p'
  got : ∀ item ∈ p', item ∈ p ∨ ∀ r ∈ (w.session n).streams, Got n t item r w w'
  untouched : p' = p → Untouched n t w w'

section
variable {item : Option RunState} {r : Stream}

theorem Grown.refl (n : Nat) (w : World) : Grown n w w := fun r hr =>
  ⟨r, hr, rfl, List.prefix_refl _⟩

theorem Grown.trans (h : Grown n w w') (h' : Grown n w' w'') : Grown n w w'' := by
  intro r hr
  obtain ⟨r', hr', hnumber, hprefix⟩ := h r hr
  obtain ⟨r'', hr'', hnumber', hprefix'⟩ := h' r' hr'
  exact ⟨r'', hr'', hnumber'.trans hnumber, hprefix.trans hprefix'⟩

theorem Beside.woken {i : Nat} (h : Beside n t w w') (hit : i ≠ t) {e : Effect}
    {next : e.Reply → Job} {r : e.Reply} (hs : w.stage? i = some (.woken e next r)) :
    w'.stage? i = some (.woken e next r) := by
  obtain ⟨task, hi, hstage⟩ := Option.map_eq_some_iff.mp hs
  obtain ⟨stage, hi', hroused⟩ := h.tasks i task hit hi
  rw [stage?, hi', Option.map_some]
  rw [hstage] at hroused
  cases hroused with
  | same _ => rfl

theorem Beside.waiting {i : Nat} (h : Beside n t w w') (hit : i ≠ t) {e : Effect}
    {next : e.Reply → Job} {alarm : Option (Alarm e.Reply)}
    (hs : w'.stage? i = some (.waiting e next alarm)) :
    w.stage? i = some (.waiting e next alarm) := by
  obtain ⟨task', hi', hstage'⟩ := Option.map_eq_some_iff.mp hs
  cases hi : w.tasks[i]? with
  | none =>
    obtain ⟨job, hjob⟩ := h.new i task' hit (List.getElem?_eq_none_iff.mp hi) hi'
    rw [hjob] at hstage'
    cases hstage'
  | some task =>
    obtain ⟨stage, hstage, hroused⟩ := h.tasks i task hit hi
    rw [hi'] at hstage
    cases hstage
    rw [show stage = .waiting e next alarm from hstage'] at hroused
    rw [stage?, hi, Option.map_some]
    generalize task.stage = before at hroused ⊢
    cases hroused with
    | same _ => rfl

theorem Beside.sessionOf {i : Nat} (h : Beside n t w w') {task : Task} (hi : w.tasks[i]? = some task) :
    w'.sessionOf i = task.session := by
  unfold World.sessionOf
  by_cases hit : i = t
  · subst hit
    obtain ⟨stage, hstage⟩ := h.own task hi
    rw [hstage]
  · obtain ⟨stage, hstage, _⟩ := h.tasks i task hit hi
    rw [hstage]

theorem Got.trans (h : Got n t item r w w') (hbeside : Beside n t w' w'') (hgrown : Grown n w' w'') :
    Got n t item r w w'' := by
  rcases h with ⟨r', hr', hnumber, more, hmore, hitem⟩ | ⟨i, next, alarm, hit, hi, hwait, hwoken⟩
  · obtain ⟨r'', hr'', hnumber', extra, hextra⟩ := hgrown r' hr'
    refine .inl ⟨r'', hr'', hnumber'.trans hnumber, more ++ extra, ?_, List.mem_append_left _ hitem⟩
    rw [← hextra, hmore, List.append_assoc]
  · exact .inr ⟨i, next, alarm, hit, hi, hwait, hbeside.woken hit hwoken⟩

theorem Got.after (hbeside : Beside n t w w') (hgrown : Grown n w w')
    (hr : r ∈ (w.session n).streams)
    (h : ∀ r' ∈ (w'.session n).streams, r'.number = r.number → Got n t item r' w' w'') :
    Got n t item r w w'' := by
  obtain ⟨r', hr', hnumber, extra, hextra⟩ := hgrown r hr
  rcases h r' hr' hnumber with ⟨r'', hr'', hnumber', more, hmore, hitem⟩ |
    ⟨i, next, alarm, hit, hi, hwait, hwoken⟩
  · refine .inl ⟨r'', hr'', hnumber'.trans hnumber, extra ++ more, ?_, List.mem_append_right _ hitem⟩
    rw [hmore, ← hextra, List.append_assoc]
  · rw [hnumber] at hwait hwoken
    have hwait' := hbeside.waiting hit hwait
    obtain ⟨task, htask, _⟩ := Option.map_eq_some_iff.mp hwait'
    refine .inr ⟨i, next, alarm, hit, ?_, hwait', hwoken⟩
    rw [← hi, hbeside.sessionOf htask, World.sessionOf, htask]

end

namespace Untouched

theorem refl (n t : Nat) (w : World) : Untouched n t w w := ⟨rfl, fun _ _ _ _ _ h => h⟩

theorem trans (h : Untouched n t w w') (h' : Untouched n t w' w'') : Untouched n t w w'' :=
  ⟨h'.streams.trans h.streams,
    fun _ _ _ _ hit hw => h'.waiting _ _ _ _ hit (h.waiting _ _ _ _ hit hw)⟩

theorem of_tasks (hstreams : (w'.session n).streams = (w.session n).streams)
    (htasks : w'.tasks = w.tasks) : Untouched n t w w' :=
  ⟨hstreams, fun _ _ _ _ _ h => by rw [stage?, htasks]; exact h⟩

theorem served (h : Untouched n t w w') (p : List (Option RunState)) : Served n t w w' p p where
  grown r hr := ⟨r, by rw [h.streams]; exact hr, rfl, List.prefix_refl _⟩
  published := List.prefix_refl p
  got _ hitem := .inl hitem
  untouched _ := h

end Untouched

theorem Served.trans {p p' p'' : List (Option RunState)} (h : Served n t w w' p p')
    (hbeside : Beside n t w w') (h' : Served n t w' w'' p' p'') (hbeside' : Beside n t w' w'') :
    Served n t w w'' p p'' where
  grown := h.grown.trans h'.grown
  published := h.published.trans h'.published
  got item hitem := by
    rcases h'.got item hitem with hearlier | hgot
    · refine (h.got item hearlier).imp_right fun hgot r hr => ?_
      exact (hgot r hr).trans hbeside' h'.grown
    · exact .inr fun r hr => .after hbeside h.grown hr fun r' hr' _ => hgot r' hr'
  untouched hp := by
    have hback : p' <+: p := hp ▸ h'.published
    have hp' : p' = p := hback.eq_of_length (Nat.le_antisymm hback.length_le h.published.length_le)
    exact (h.untouched hp').trans (h'.untouched (hp.trans hp'.symm))

/-! ## Raising the latch -/

theorem wakeAtLatch_eq (m i : Nat) (w : World) : wakeAtLatch m w i = w ∨
    ∃ task d next alarm, w.tasks[i]? = some task ∧ task.stage = .waiting (.watchLatch d) next alarm ∧
      wakeAtLatch m w i = (w.setStage i (.woken (.watchLatch d) next (.back true))).enqueue i 2 := by
  unfold wakeAtLatch
  split
  next k loop d next alarm watchers hi =>
    split
    · exact .inr ⟨_, d, next, alarm, hi, rfl, rfl⟩
    · exact .inl rfl
  next => exact .inl rfl

theorem aside_wakeAtLatch (hruns : w.Runs t) (m i : Nat) :
    Aside n t w (wakeAtLatch m w i) ∧ Untouched n t w (wakeAtLatch m w i) ∧
      (wakeAtLatch m w i).site n = w.site n := by
  rcases wakeAtLatch_eq m i w with h | ⟨task, d, next, alarm, hi, hstage, h⟩
  · rw [h]
    exact ⟨.refl n t w, .refl n t w, rfl⟩
  · rw [h]
    refine ⟨aside_wake (hruns.ne hi hstage) hi hstage rfl (fun h => by cases h) _,
      ⟨rfl, fun j k next' alarm' _ hj => ?_⟩, rfl⟩
    have hij : i ≠ j := by
      rintro rfl
      rw [stage?, hi, Option.map_some, hstage] at hj
      cases hj
    simpa [stage?, enqueue, setStage, onTask, hij] using hj

theorem aside_wakeAllAtLatch (hruns : w.Runs t) (m : Nat) (ts : List Nat) :
    Aside n t w (ts.foldl (wakeAtLatch m) w) ∧ Untouched n t w (ts.foldl (wakeAtLatch m) w) ∧
      (ts.foldl (wakeAtLatch m) w).site n = w.site n := by
  induction ts generalizing w with
  | nil => exact ⟨.refl n t w, .refl n t w, rfl⟩
  | cons i ts ih =>
    obtain ⟨haside, huntouched, hsite⟩ := aside_wakeAtLatch (n := n) hruns m i
    obtain ⟨haside', huntouched', hsite'⟩ := ih (haside.runs hruns)
    exact ⟨haside.trans haside', huntouched.trans huntouched', hsite'.trans hsite⟩

theorem aside_raiseLatch (hn : n < w.sessions.length) (hruns : w.Runs t) :
    Aside n t w (w.raiseLatch n) ∧ Untouched n t w (w.raiseLatch n) ∧ (w.raiseLatch n).site n =
      (w.site n).onSession fun s => { s with latch := { s.latch with raised := true } } := by
  have hfirst : Aside n t w (w.onSession n fun s => { s with latch := { s.latch with raised := true } }) :=
    aside_onSession hn rfl
  obtain ⟨haside, huntouched, hsite⟩ := aside_wakeAllAtLatch (n := n) (hfirst.runs hruns) n w.taskNumbers
  have hfirstUntouched : Untouched n t w
      (w.onSession n fun s => { s with latch := { s.latch with raised := true } }) :=
    .of_tasks (by rw [session_onSession hn]) rfl
  exact ⟨hfirst.trans haside, hfirstUntouched.trans huntouched, hsite.trans (site_onSession hn _)⟩

/-! ## Giving items to readers -/

theorem hand_eq {item : Option RunState} {i stream : Nat} (h : w.hand n stream item i = some w') :
    ∃ task next alarm, w.tasks[i]? = some task ∧ task.session = n ∧
      task.stage = .waiting (.receive stream) next alarm ∧
      w' = (w.setStage i (.woken (.receive stream) next (.back item))).enqueue i := by
  unfold hand at h
  split at h
  next k loop m next alarm watchers hi =>
    split at h
    next hkm =>
      simp only [Bool.and_eq_true, decide_eq_true_eq] at hkm
      obtain ⟨rfl, rfl⟩ := hkm
      cases h
      exact ⟨_, _, _, hi, rfl, rfl, rfl⟩
    next => cases h
  next => cases h

/-- The session after an item was put into the mailbox of a reader. -/
def delivered (item : Option RunState) (stream : Nat) (s : Session) : Session :=
  { s with
    streams := s.streams.map fun r =>
      if r.number = stream then { r with mailbox := r.mailbox ++ [item] } else r }

theorem offer_cases (n : Nat) (item : Option RunState) (w : World) (stream : Nat) :
    (∃ i, w.hand n stream item i = some (offer n item w stream)) ∨
      offer n item w stream = w.onSession n (delivered item stream) := by
  unfold offer
  cases h : w.taskNumbers.findSome? (w.hand n stream item) with
  | none => exact .inr rfl
  | some w' =>
    obtain ⟨_, i, _, _, hi, _⟩ := List.findSome?_eq_some_iff.mp h
    exact .inl ⟨i, hi⟩

/-- **What giving an item to readers does to a world**: streams and readers aside, nothing. -/
structure Offered (n t : Nat) (w w' : World) : Prop where
  aside : Aside n t w w'
  grown : Grown n w w'
  site : ∃ streams, w'.site n = (w.site n).onSession fun s => { s with streams }

theorem Offered.refl (n t : Nat) (w : World) : Offered n t w w := ⟨.refl n t w, .refl n w, _, rfl⟩

theorem Offered.trans (h : Offered n t w w') (h' : Offered n t w' w'') : Offered n t w w'' := by
  refine ⟨h.aside.trans h'.aside, h.grown.trans h'.grown, ?_⟩
  obtain ⟨streams, hsite⟩ := h.site
  obtain ⟨streams', hsite'⟩ := h'.site
  exact ⟨streams', by rw [hsite', hsite]; rfl⟩

theorem offered_offer (hn : n < w.sessions.length) (hruns : w.Runs t) (item : Option RunState)
    (stream : Nat) : Offered n t w (offer n item w stream) ∧
      ∀ r ∈ (w.session n).streams, r.number = stream →
        Got n t item r w (offer n item w stream) := by
  rcases offer_cases n item w stream with ⟨i, hi⟩ | h
  · obtain ⟨task, next, alarm, htask, hn, hstage, hoffer⟩ := hand_eq hi
    rw [hoffer]
    have hit := hruns.ne htask hstage
    refine ⟨⟨aside_wake hit htask hstage rfl (fun h => by cases h) _, .refl n w, _, rfl⟩, fun r hr hnumber => .inr ?_⟩
    subst hnumber
    refine ⟨i, next, alarm, hit, by simp [sessionOf, htask, hn], by simp [stage?, htask, hstage], ?_⟩
    simp [stage?, enqueue, setStage, onTask, htask]
  · rw [h]
    have hstreams : ((w.onSession n (delivered item stream)).session n).streams =
        (delivered item stream (w.session n)).streams := by rw [session_onSession hn]
    refine ⟨⟨aside_onSession hn rfl, fun r hr => ?_, _, site_onSession hn _⟩,
      fun r hr hnumber => .inl ?_⟩
    · rw [hstreams]
      refine ⟨_, List.mem_map_of_mem hr, ?_⟩
      split
      · exact ⟨rfl, List.prefix_append _ _⟩
      · exact ⟨rfl, List.prefix_refl _⟩
    · rw [hstreams]
      refine ⟨_, List.mem_map_of_mem hr, ?_⟩
      rw [if_pos hnumber]
      exact ⟨rfl, [item], rfl, List.mem_singleton_self _⟩

theorem offered_all (hn : n < w.sessions.length) (hruns : w.Runs t) (item : Option RunState)
    (streams : List Nat) : Offered n t w (streams.foldl (offer n item) w) ∧
      ∀ r ∈ (w.session n).streams, r.number ∈ streams →
        Got n t item r w (streams.foldl (offer n item) w) := by
  induction streams generalizing w with
  | nil => exact ⟨.refl n t w, fun r _ hnone => absurd hnone List.not_mem_nil⟩
  | cons stream rest ih =>
    obtain ⟨hfirst, hgot⟩ := offered_offer hn hruns item stream
    obtain ⟨hrest, hrestGot⟩ := ih (hfirst.aside.length ▸ hn) (hfirst.aside.runs hruns)
    refine ⟨hfirst.trans hrest, fun r hr hmem => ?_⟩
    rcases List.mem_cons.mp hmem with hnow | hlater
    · exact (hgot r hr hnow).trans hrest.aside.toBeside hrest.grown
    · refine .after hfirst.aside.toBeside hfirst.grown hr fun r' hr' hnumber => ?_
      exact hrestGot r' hr' (hnumber ▸ hlater)

/-- **Every reader gets what is published**, and nothing else is changed. -/
theorem offered_publish (hn : n < w.sessions.length) (hruns : w.Runs t) (item : Option RunState) :
    Offered n t w (w.publish n item) ∧
      ∀ r ∈ (w.session n).streams, Got n t item r w (w.publish n item) := by
  obtain ⟨hoffered, hgot⟩ := offered_all hn hruns item ((w.session n).streams.map Stream.number)
  exact ⟨hoffered, fun r hr => hgot r hr (List.mem_map_of_mem hr)⟩

theorem served_publish (hn : n < w.sessions.length) (hruns : w.Runs t) (item : Option RunState)
    (p : List (Option RunState)) : Served n t w (w.publish n item) p (p ++ [item]) := by
  obtain ⟨hoffered, hgot⟩ := offered_publish hn hruns item
  refine ⟨hoffered.grown, List.prefix_append _ _, fun x hx => ?_, fun h => ?_⟩
  · rcases List.mem_append.mp hx with hx | hx
    · exact .inl hx
    · rw [List.mem_singleton.mp hx]
      exact .inr hgot
  · exact absurd (congrArg List.length h) (by simp)

end World

end

/-- The reply that ends a wait behind the gate. -/
def Surroundings.Ends (S : Surroundings) : (e : Effect) → e.Reply → Prop
  | .sleep _, r => r = .back ()
  | .storageTurn, r => r = .back ()
  | .send m, r => ∃ o, S.answers m o ∧ r = .back o
  | _, _ => False

theorem Surroundings.leads_of_ends {S : Surroundings} {s s' : Scene} {e : Effect} {r : e.Reply}
    (h : S.Ends e r) (h' : S.At s.site.core s.published s') : S.Leads s e r s' := by
  cases e <;> first | exact ⟨h, h'⟩ | exact absurd h id

namespace World

/-- A task works for a session that there is. -/
structure Works (w : World) (n t : Nat) : Prop where
  session : w.sessionOf t = n
  known : n < w.sessions.length

/-- **What comes of an effect behind the gate**: the contract leads on, or a wait begins that the
right reply ends. -/
inductive Performed (S : Surroundings) (n t : Nat) (w : World) (s : Scene) (e : Effect) :
    World × Uptake e.Reply → Prop
  | reply {w' : World} {r : e.Reply} {p : List (Option RunState)}
    (leads : S.Leads s e r { s with site := w'.site n, published := p }) (aside : Aside n t w w')
    (served : Served n t w w' s.published p) : Performed S n t w s e (w', .reply r)
  | wait {w' : World} {alarm : Option (Alarm e.Reply)} (site : w'.site n = s.site)
    (aside : Aside n t w w') (untouched : Untouched n t w w')
    (ends : ∀ a, alarm = some a → S.Ends e a.reply)
    (untimed : alarm = none → e = .storageTurn) : Performed S n t w s e (w', .wait alarm)

/-- The service answers as the surroundings say. -/
def Answers (w : World) (S : Surroundings) : Prop :=
  ∀ m, w.script.Replies m fun l => S.answers m l.outcome

/-- What the surroundings of a task say of the service and of other tasks is so. -/
structure Bears (w : World) (S : Surroundings) (t : Nat) : Prop where
  answers : w.Answers S
  ended : ∀ i b, S.ended i b → i ≠ t ∧ i < w.tasks.length ∧ w.hasEnded i = b

variable {S : Surroundings} {n t : Nat} {w w' : World} {s : Scene} {c : Core}

theorem settleAtGate_of_ungated {e : Effect} (h : ∀ g, e ≠ .acquire g) (r : e.Reply) : w.settleAtGate t e r = w := by
  cases e with
  | acquire g => exact absurd rfl (h g)
  | _ => rfl

theorem settleAtGate_of_ends {e : Effect} {r : e.Reply} (h : S.Ends e r) (w : World) (t : Nat) :
    w.settleAtGate t e r = w :=
  settleAtGate_of_ungated (by rintro g rfl; exact h) r

theorem at_site {p : List (Option RunState)} {f : List (Nat × Background)}
    (hcore : (w.site n).core = c) (hwithin : S.within w.now) :
    S.At c p { site := w.site n, published := p, forked := f } := ⟨hcore, rfl, hwithin⟩

theorem acquire_free (hw : w.Works n t) {g : GateName} (hfree : (w.session n).gate g = {}) :
    w.acquire t g = (w.onSession n fun s => s.setGate { held := true } g, .reply (.back ())) := by
  simp [acquire, hw.session, hfree]

theorem release_held (hw : w.Works n t) {g : GateName}
    (hheld : (w.session n).gate g = { held := true }) :
    w.perform t (.release g) = (w.onSession n fun s => s.setGate {} g, .reply ()) := by
  simp [perform, hw.session, hheld, Gate.leave, Gate.callFirst, callAtGate]

/-- **A world does what the contract says.** -/
theorem performed {e : Effect} (hw : w.Works n t) (hruns : w.Runs t) (hsite : w.site n = s.site)
    (hallows : S.Allows s e) (hwithin : S.within w.now)
    (hreplies : w.Answers S) : Performed S n t w s e (w.perform t e) := by
  have hsession : w.session n = s.site.session := congrArg Site.session hsite
  have hnow : w.now = s.site.now := congrArg Site.now hsite
  have hcore : (w.site n).core = s.site.core := congrArg Site.core hsite
  cases e with
  | look =>
    rw [perform, hw.session, hsite]
    exact .reply ⟨rfl, by rw [hsite]⟩ (.refl n t w) ((Untouched.refl n t w).served _)
  | change x =>
    obtain ⟨hgate, hstreams, _⟩ := hallows
    have hx : (w.setSite n x).session n = x.session :=
      congrArg Site.session (site_setSite hw.known x)
    rw [perform, hw.session]
    refine .reply (by rw [site_setSite hw.known x, hnow]; rfl) ?_ (Untouched.served ?_ _)
    · refine .of_tasks rfl (fun _ _ h => h) (by simp [setSite])
        (fun m hm => session_setSite_ne hm x) ?_ rfl
      rw [hx, hgate, hsession]
    · refine .of_tasks ?_ rfl
      rw [hx, hstreams, hsession]
  | acquire g =>
    cases g with
    | state => exact absurd hallows id
    | fetch =>
      have hfree : (w.session n).gate .fetch = {} := by rw [hsession]; exact hallows
      rw [perform, acquire_free hw hfree]
      have hsite' := site_onSession hw.known fun s => s.setGate { held := true } .fetch
      have huntouched : Untouched n t w (w.onSession n fun s => s.setGate { held := true } .fetch) :=
        .of_tasks (congrArg (·.session.streams) hsite') rfl
      refine .reply ⟨rfl, at_site ?_ hwithin⟩ (aside_onSession hw.known rfl)
        (huntouched.served s.published)
      rw [hsite', ← hcore]
      rfl
  | release g =>
    cases g with
    | state => exact absurd hallows id
    | fetch =>
      have hheld : (w.session n).gate .fetch = { held := true } := by rw [hsession]; exact hallows
      rw [release_held hw hheld]
      have hsite' := site_onSession hw.known fun s => s.setGate {} .fetch
      have huntouched : Untouched n t w (w.onSession n fun s => s.setGate {} .fetch) :=
        .of_tasks (congrArg (·.session.streams) hsite') rfl
      refine .reply (at_site ?_ hwithin) (aside_onSession hw.known rfl)
        (huntouched.served s.published)
      rw [hsite', ← hcore]
      rfl
  | sleep d =>
    refine .wait hsite (.refl n t w) (.refl n t w) (fun a ha => ?_) fun he => ?_
    · cases ha
      rfl
    · cases he
  | storageTurn =>
    rw [perform, awaitStorage]
    split
    · exact .reply ⟨rfl, at_site hcore hwithin⟩ (.refl n t w)
        ((Untouched.refl n t w).served s.published)
    · exact .wait hsite (.of_tasks rfl (fun _ _ h => h) rfl (fun _ _ => rfl) rfl rfl)
        (.of_tasks rfl rfl) (fun _ h => by cases h) fun _ => rfl
  | send m =>
    have hanswers := (hreplies m).now
    have huntouched : Untouched n t w { w with
        script := (w.script.next m).2, sent := w.sent ++ [m] } := .of_tasks rfl rfl
    have haside : Aside n t w { w with script := (w.script.next m).2, sent := w.sent ++ [m] } :=
      .of_tasks rfl (fun _ _ h => h.after _) rfl (fun _ _ => rfl) rfl rfl
    rw [perform, send]
    dsimp only
    split
    · exact .reply ⟨⟨_, hanswers, rfl⟩, at_site hcore hwithin⟩ haside
        (huntouched.served s.published)
    · refine .wait hsite haside huntouched (fun a ha => ?_) fun he => ?_
      · cases ha
        exact ⟨_, hanswers, rfl⟩
      · cases he
  | raiseLatch =>
    rw [perform, hw.session]
    obtain ⟨haside, huntouched, hsite'⟩ := aside_raiseLatch hw.known hruns
    refine .reply (at_site ?_ (haside.instant ▸ hwithin)) haside (huntouched.served _)
    rw [hsite', ← hcore]
    rfl
  | publish item =>
    rw [perform, hw.session]
    obtain ⟨hoffered, _⟩ := offered_publish hw.known hruns item
    obtain ⟨streams, hsite'⟩ := hoffered.site
    refine .reply (at_site ?_ (hoffered.aside.instant ▸ hwithin)) hoffered.aside
      (served_publish hw.known hruns item s.published)
    rw [hsite', ← hcore]
    rfl
  | _ => exact absurd hallows id

end World

end Cutover
