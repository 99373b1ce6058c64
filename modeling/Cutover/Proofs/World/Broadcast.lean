import Cutover.Proofs.Control.Publishing
import Cutover.Proofs.World.Looping
import Cutover.Proofs.World.Rounds

/-!
# Those who publish and those who read

Calls on the run publish, and readers report what they are given. Whatever else happens beside, every reader is
given what was published in its session since it took its place, and has reported what it was given.

* `Publishing.Stands`: **the rest of the work of a call publishes at its end** what the call is to publish;
* `World.Enlisted`: every reader has a number and a name of its own;
* `World.Broadcast`: **every reader keeps up with what was published**;
* `World.Broadcast.interrupted`, `World.Broadcast.publish`, `World.Broadcast.spares`, `World.Broadcast.read`,
  `World.Broadcast.settled`, `World.Broadcast.subscribe`: **it stays so**, whatever is done.
-/

namespace Cutover

/-! ## Calls -/

namespace Publishing

variable {a : RunAction} {stage stage' : Stage}

/-- A call came to its end: it published what it is to publish, or ended early and published nothing. -/
def Comes (a : RunAction) : Except Exit Outturn → Publishing → Prop
  | .ok (.result r), s => a.Gives r s.state ∧ s.published = a.publishes r s.state
  | .ok .again, _ => False
  | .error _, s => s.published = []

/-- **The rest of the work of a call publishes at its end** what the call is to publish. -/
inductive Stands (a : RunAction) : Stage → Prop
  | fresh {job : Job} (goes : ∀ s : Publishing, s.Fresh → job.Meets publishing (Comes a) s) : Stands a (.fresh job)
  | waiting {e : Effect} {next : e.Reply → Job} {alarm : Option (Alarm e.Reply)} (silent : e.isSilent = true)
    (goes : ∀ r, ∀ s : Publishing, s.Fresh → (next r).Meets publishing (Comes a) s) :
    Stands a (.waiting e next alarm)
  | woken {e : Effect} {next : e.Reply → Job} {r : e.Reply}
    (goes : ∀ r, ∀ s : Publishing, s.Fresh → (next r).Meets publishing (Comes a) s) : Stands a (.woken e next r)
  | ended {r : Except Exit Result} : Stands a (.ended r)

theorem Stands.turned {tells : Nat → Except Exit Result → Prop} {breaks : Prop} (h : Stands a stage)
    (hturned : Relation.ReflTransGen (Stage.Turned tells breaks) stage stage') : Stands a stage' := by
  refine Stage.Turned.carries hturned (fun _ _ => .fresh fun _ hs => hs.published) (fun e next r r' hs => ?_)
    (fun e next alarm r hs => ?_) h
  · cases hs with
    | woken goes => exact .woken goes
  · cases hs with
    | waiting _ goes => exact .woken goes

theorem stands_ofOp (a : RunAction) : Stands a (.fresh (.ofOp a.op)) := by
  refine .fresh fun s hs => Op.meets_map.mpr ((Control.publishes_action a hs).mono ?_)
  rintro (e | r) s' h
  · exact h
  · exact h

/-- What readers do not notice leaves what was published, and others leave a sound state. -/
theorem leads_of_silent {s s' : Publishing} {e : Effect} {r : e.Reply} (he : e.isOther = true)
    (hsilent : e.isSilent = true) (hpublished : s'.published = s.published) (hsound : s'.state.Sound)
    (hstate : e.isWait = false → s'.state = s.state) : publishing.leads s e r s' := by
  cases e with
  | look => cases he
  | change y => cases he
  | publish item => cases hsilent
  | _ => exact ⟨hpublished, hsound, hstate⟩

end Publishing

namespace World

variable {asked : Nat → RunAction} {out : Option Nat} {log log' : List Tiding} {w w' : World} {n i j k m t : Nat}
  {id : String} {includeCurrent : Bool} {task : Task} {stage : Stage} {item : Option RunState}

/-! ## Readers -/

/-- What was reported of a reader. -/
def heard (w : World) (id : String) : List (Option RunState) :=
  (w.events.filter fun e => e.id = id).map StreamEvent.state

theorem heard_read (w : World) (n : Nat) (streams : List Stream) (id : String) (told : List (Option RunState)) :
    (w.setSite n ((w.site n).read streams (told.map (StreamEvent.mk id)))).heard id = w.heard id ++ told := by
  have hall : (told.map (StreamEvent.mk id)).filter (fun e => e.id = id) = told.map (StreamEvent.mk id) :=
    List.filter_eq_self.mpr fun e he => by
      obtain ⟨_, _, rfl⟩ := List.mem_map.mp he
      simp
  show ((w.events ++ told.map (StreamEvent.mk id)).filter _).map _ = _
  rw [List.filter_append, List.map_append, hall, List.map_map, heard]
  congr 1
  exact List.map_id _

theorem heard_read_other {id' : String} (hid : id' ≠ id) (w : World) (n : Nat) (streams : List Stream)
    (told : List (Option RunState)) :
    (w.setSite n ((w.site n).read streams (told.map (StreamEvent.mk id)))).heard id' = w.heard id' := by
  have hnone : (told.map (StreamEvent.mk id)).filter (fun e => e.id = id') = [] :=
    List.filter_eq_nil_iff.mpr fun e he => by
      obtain ⟨_, _, rfl⟩ := List.mem_map.mp he
      simpa using Ne.symm hid
  show ((w.events ++ told.map (StreamEvent.mk id)).filter _).map _ = _
  rw [List.filter_append, hnone, List.append_nil, heard]

theorem session_read (hn : n < w.sessions.length) (streams : List Stream) (told : List StreamEvent) :
    (w.setSite n ((w.site n).read streams told)).session n = { w.session n with streams } :=
  congrArg Site.session (site_setSite hn _)

theorem streams_read (hn : n < w.sessions.length) (streams : List Stream) (told : List StreamEvent) :
    ((w.setSite n ((w.site n).read streams told)).session n).streams = streams :=
  congrArg Session.streams (session_read hn streams told)

theorem setSite_read_read (hn : n < w.sessions.length) (streams streams' : List Stream) (told : List StreamEvent)
    (hw' : w.setSite n ((w.site n).read streams []) = w') :
    w'.setSite n ((w'.site n).read streams' told) = w.setSite n ((w.site n).read streams' told) := by
  rw [← hw', setSite_setSite, site_setSite hn]
  simp [Site.read, setSite]

/-- How far a reader of a session has come. -/
abbrev ReadsAt (w : World) (log : List Tiding) (n k : Nat) (id : String) (includeCurrent : Bool)
    (stage : Stage) : Prop :=
  Reads k id includeCurrent ((w.session n).mailbox? k) (w.heard id) (due? n k includeCurrent log) stage

theorem badge?_of_spawn {job : Job} {loop : Option Background} {b : Nat × Option Background}
    (hi : (w.spawn n job loop).2.badge? i = some b) : i = w.tasks.length ∧ b = (n, loop) ∨ w.badge? i = some b := by
  rw [Looped.badge?_spawn] at hi
  split at hi
  next hlast => exact .inl ⟨hlast, (Option.some.inj hi).symm⟩
  next => exact .inr hi

/-- **Every reader has a number and a name of its own**, and nothing else works in the background. -/
structure Enlisted (w : World) : Prop where
  known : ∀ i m b, w.badge? i = some (m, b) → m < w.sessions.length
  reader : ∀ i m b, w.badge? i = some (m, some b) → ∃ k id includeCurrent,
    b = .reader k id includeCurrent ∧ k < (w.session m).nextStream
  single : ∀ i j m k id id' c c', w.badge? i = some (m, some (.reader k id c)) →
    w.badge? j = some (m, some (.reader k id' c')) → i = j
  named : ∀ i j m m' k k' id c c', w.badge? i = some (m, some (.reader k id c)) →
    w.badge? j = some (m', some (.reader k' id c')) → i = j

namespace Enlisted

theorem number_lt (h : Enlisted w) (hi : w.badge? i = some (n, some (.reader k id includeCurrent))) :
    k < (w.session n).nextStream := by
  obtain ⟨_, _, _, hb, hk⟩ := h.reader i _ _ hi
  cases hb
  exact hk

theorem differ (h : Enlisted w) {id' : String} {c c' : Bool} (hi : w.badge? i = some (n, some (.reader k id c)))
    (hj : w.badge? j = some (m, some (.reader t id' c'))) (hij : i ≠ j) : (m ≠ n ∨ t ≠ k) ∧ id' ≠ id := by
  refine ⟨?_, ?_⟩
  · by_cases hmn : m = n
    · refine .inr fun hk => hij ?_
      rw [hmn, hk] at hj
      exact h.single i j n k id id' c c' hi hj
    · exact .inl hmn
  · rintro rfl
    exact hij (h.named i j n m k t id' c c' hi hj)

theorem of_same (h : Enlisted w) (hbadge : w'.badge? = w.badge?) (hlength : w.sessions.length ≤ w'.sessions.length)
    (hnext : ∀ m, (w.session m).nextStream ≤ (w'.session m).nextStream) : Enlisted w' where
  known i m b hi := Nat.lt_of_lt_of_le (h.known i m b (hbadge ▸ hi)) hlength
  reader i m b hi := by
    obtain ⟨k, id, includeCurrent, hb, hk⟩ := h.reader i m b (hbadge ▸ hi)
    exact ⟨k, id, includeCurrent, hb, Nat.lt_of_lt_of_le hk (hnext m)⟩
  single i j m k id id' c c' hi hj := h.single i j m k id id' c c' (hbadge ▸ hi) (hbadge ▸ hj)
  named i j m m' k k' id c c' hi hj := h.named i j m m' k k' id c c' (hbadge ▸ hi) (hbadge ▸ hj)

theorem call {job : Job} (h : Enlisted w) (hn : n < w.sessions.length) : Enlisted (w.spawn n job).2 where
  known i m b hi := by
    rcases badge?_of_spawn hi with ⟨-, hb⟩ | hi
    · cases hb
      exact hn
    · exact h.known i m b hi
  reader i m b hi := by
    rcases badge?_of_spawn hi with ⟨-, hb⟩ | hi
    · cases hb
    · exact h.reader i m b hi
  single i j m k id id' c c' hi hj := by
    rcases badge?_of_spawn hi with ⟨-, hb⟩ | hi
    · cases hb
    · rcases badge?_of_spawn hj with ⟨-, hb⟩ | hj
      · cases hb
      · exact h.single i j m k id id' c c' hi hj
  named i j m m' k k' id c c' hi hj := by
    rcases badge?_of_spawn hi with ⟨-, hb⟩ | hi
    · cases hb
    · rcases badge?_of_spawn hj with ⟨-, hb⟩ | hj
      · cases hb
      · exact h.named i j m m' k k' id c c' hi hj

theorem fork (h : Enlisted w) (hn : n < w.sessions.length) (hk : k < (w.session n).nextStream)
    (hnumber : ∀ i id c, w.badge? i ≠ some (n, some (.reader k id c)))
    (hname : ∀ i m j c, w.badge? i ≠ some (m, some (.reader j id c))) :
    Enlisted (w.fork n (.reader k id includeCurrent)).2 where
  known i m b hi := by
    rcases badge?_of_spawn hi with ⟨-, hb⟩ | hi
    · cases hb
      exact hn
    · exact h.known i m b hi
  reader i m b hi := by
    rcases badge?_of_spawn hi with ⟨-, hb⟩ | hi
    · cases hb
      exact ⟨k, id, includeCurrent, rfl, hk⟩
    · exact h.reader i m b hi
  single i j m k' id' id'' c c' hi hj := by
    rcases badge?_of_spawn hi with ⟨hilast, hb⟩ | hi <;> rcases badge?_of_spawn hj with ⟨hjlast, hb'⟩ | hj
    · exact hilast.trans hjlast.symm
    · cases hb
      exact absurd hj (hnumber j id'' c')
    · cases hb'
      exact absurd hi (hnumber i id' c)
    · exact h.single i j m k' id' id'' c c' hi hj
  named i j m m' k' k'' id' c c' hi hj := by
    rcases badge?_of_spawn hi with ⟨hilast, hb⟩ | hi <;> rcases badge?_of_spawn hj with ⟨hjlast, hb'⟩ | hj
    · exact hilast.trans hjlast.symm
    · cases hb
      exact absurd hj (hname j m' k'' c')
    · cases hb'
      exact absurd hi (hname i m k' c)
    · exact h.named i j m m' k' k'' id' c c' hi hj

end Enlisted

end World

/-- **The state of a session is sound**, and its readers have places of their own. -/
structure Session.Numbered (s : Session) : Prop where
  sound : s.state.Sound
  places : (s.streams.map Stream.number).Nodup
  below : ∀ k ∈ s.streams.map Stream.number, k < s.nextStream

theorem Session.Numbered.of_same {s s' : Session} (h : s.Numbered) (hsound : s'.state.Sound)
    (hnumbers : s'.streams.map Stream.number = s.streams.map Stream.number)
    (hnext : s.nextStream ≤ s'.nextStream) : s'.Numbered where
  sound := hsound
  places := hnumbers ▸ h.places
  below k hk := Nat.lt_of_lt_of_le (h.below k (hnumbers ▸ hk)) hnext

theorem Session.mailbox?_congr {s s' : Session} (h : s'.streams = s.streams) (k : Nat) :
    s'.mailbox? k = s.mailbox? k := by
  rw [Session.mailbox?, h, Session.mailbox?]

namespace World

variable {asked : Nat → RunAction} {out : Option Nat} {log log' : List Tiding} {w w' : World} {n i j k m t : Nat}
  {id : String} {includeCurrent : Bool} {task : Task} {stage : Stage} {item : Option RunState}

/-! ## Everybody keeps up -/

/-- **Every reader keeps up with what was published**, and every call publishes what it is to publish. Of the task
that works its stage says nothing. -/
structure Broadcast (asked : Nat → RunAction) (out : Option Nat) (log : List Tiding) (w : World) : Prop where
  enlisted : Enlisted w
  sessions : ∀ m, (w.session m).Numbered
  idle : ∀ t, out = some t → w.Runs t
  calls : ∀ i task, out ≠ some i → w.tasks[i]? = some task → task.loop = none →
    Publishing.Stands (asked i) task.stage
  reads : ∀ i task k id includeCurrent, out ≠ some i → w.tasks[i]? = some task →
    task.loop = some (.reader k id includeCurrent) → w.ReadsAt log task.session k id includeCurrent task.stage
  /-- Nothing is due to readers that are still to come. -/
  unborn : ∀ m k includeCurrent, (w.session m).nextStream ≤ k → due? m k includeCurrent log = none

theorem runs_of_works (ht : w.tasks[t]? = some task) (hworks : task.stage.works = true) : w.Runs t := by
  intro e next alarm hwaits
  rw [stage?, ht, Option.map_some, Option.some_inj] at hwaits
  rw [hwaits] at hworks
  cases hworks

theorem Stirred.runs {tells : Nat → Except Exit Result → Prop} {breaks : Prop} (h : Stirred tells breaks w w')
    (hruns : w.Runs t) : w'.Runs t := fun e next alarm hwaits => hruns e next alarm (h.waiting hwaits)

theorem Stirred.nextStream {tells : Nat → Except Exit Result → Prop} {breaks : Prop} (h : Stirred tells breaks w w')
    (m : Nat) : (w'.session m).nextStream = (w.session m).nextStream := by
  obtain ⟨_, _, _, _, hm⟩ := h.sessions m
  rw [hm]

theorem Stirred.state {tells : Nat → Except Exit Result → Prop} {breaks : Prop} (h : Stirred tells breaks w w')
    (m : Nat) : (w'.session m).state = (w.session m).state := by
  obtain ⟨_, _, _, _, hm⟩ := h.sessions m
  rw [hm]

theorem Enlisted.stirred {tells : Nat → Except Exit Result → Prop} {breaks : Prop} (h : Enlisted w)
    (hw : Stirred tells breaks w w') : Enlisted w' :=
  h.of_same hw.badge? (Nat.le_of_eq hw.length.symm) fun m => Nat.le_of_eq (hw.nextStream m).symm

namespace Broadcast

theorem known (h : Broadcast asked out log w) (hi : w.tasks[i]? = some task) : task.session < w.sessions.length :=
  h.enlisted.known i _ _ (badge?_eq hi)

/-- **Only the reader waits for its items.** -/
theorem sole (h : Broadcast asked out log w) (hi : w.tasks[i]? = some task)
    (hloop : task.loop = some (.reader k id includeCurrent)) : w.Sole task.session k i := by
  have hbadge := badge?_eq hi
  rw [hloop] at hbadge
  intro j other next alarm hj hsession hstage
  have hwaits : w.stage? j = some (.waiting (.receive k) next alarm) := by
    rw [stage?, hj, Option.map_some, hstage]
  have hout : out ≠ some j := fun hout => h.idle j hout _ _ _ hwaits
  have hother := badge?_eq hj
  cases hother' : other.loop with
  | none =>
    have hstands := h.calls j other hout hj hother'
    rw [hstage] at hstands
    cases hstands with
    | waiting silent => cases silent
  | some b =>
    rw [hother'] at hother
    obtain ⟨k', id', includeCurrent', rfl, -⟩ := h.enlisted.reader j _ _ hother
    obtain rfl : k = k' := (h.reads j other k' id' includeCurrent' hout hj hother').own hstage
    rw [hsession] at hother
    exact h.enlisted.single j i _ k id' id _ _ hother hbadge

theorem listens (h : Broadcast asked out log w) (hout : out ≠ some i) (hi : w.tasks[i]? = some task)
    (hloop : task.loop = some (.reader k id includeCurrent)) :
    w.Listens task.session k i task ((w.session task.session).mailbox? k) where
  known := h.known hi
  present := hi
  session := rfl
  sole := h.sole hi hloop
  own _ _ _ hstage := (h.reads i task k id includeCurrent hout hi hloop).own hstage
  mailbox := rfl

/-! ### What is done beside -/

/-- **Readers are cancelled or left alone**, and so are calls. -/
theorem interrupted (h : Broadcast asked out log w) (hstirred : Stirred (fun _ _ => True) True w w')
    (hw : Interrupted w w') : Broadcast asked out log w' where
  enlisted := h.enlisted.stirred hstirred
  sessions m := by
    refine (h.sessions m).of_same ?_ (by rw [hw.streams m]) (Nat.le_of_eq (hstirred.nextStream m).symm)
    rw [hstirred.state]
    exact (h.sessions m).sound
  idle t hout := hstirred.runs (h.idle t hout)
  calls i task' hout hi' hloop := by
    obtain ⟨task, stage, hi, rfl, hturned⟩ := hstirred.before hi'
    exact (h.calls i task hout hi hloop).turned hturned
  reads i task' k id includeCurrent hout hi' hloop := by
    obtain ⟨task, stage, hi, rfl, -⟩ := hstirred.before hi'
    have hreads := h.reads i task k id includeCurrent hout hi hloop
    obtain ⟨stage', hthis, hstage'⟩ := hw.listeners i task hi hreads.isListening
    have hstage : stage = stage' := congrArg Task.stage (Option.some.inj (hi'.symm.trans hthis))
    rw [ReadsAt, Session.mailbox?_congr (hw.streams _), heard, hw.events, hstage]
    rcases hstage' with rfl | rfl
    · exact hreads
    · exact hreads.interrupted
  unborn m k includeCurrent hk := h.unborn m k includeCurrent (hstirred.nextStream m ▸ hk)

theorem unheard (h : Broadcast asked out log w) (hw : Unheard w w') : Broadcast asked out log w' :=
  h.interrupted hw.stirred hw.interrupted

/-- **An item is published.** -/
theorem publish (h : Broadcast asked out log w) (n : Nat) (item : Option RunState) :
    Broadcast asked out (log ++ [.published n item]) (w.publish n item) := by
  have hwithin := within_publish w n item
  have hstirred := hwithin.stirred
  have hevents : (w.publish n item).events = w.events := by
    obtain ⟨_, _, _, _, hindoors⟩ := indoors_publish w n item
    rw [hindoors]
  refine ⟨h.enlisted.stirred hstirred, fun m => ?_, fun t hout => hstirred.runs (h.idle t hout),
    fun i task' hout hi' hloop => ?_, fun i task' k id includeCurrent hout hi' hloop => ?_,
    fun m k includeCurrent hk => ?_⟩
  · refine (h.sessions m).of_same ?_ (hwithin.numbers m) (Nat.le_of_eq (hstirred.nextStream m).symm)
    rw [hstirred.state]
    exact (h.sessions m).sound
  · obtain ⟨task, stage, hi, rfl, hturned⟩ := hstirred.before hi'
    exact (h.calls i task hout hi hloop).turned hturned
  · obtain ⟨task, _, hi, htask', -⟩ := hstirred.before hi'
    have hloop' : task.loop = some (.reader k id includeCurrent) := by rwa [htask'] at hloop
    have hreads := h.reads i task k id includeCurrent hout hi hloop'
    rw [ReadsAt, heard, hevents, due?_published]
    by_cases hn : task.session = n
    · subst hn
      have hlistens := h.listens hout hi hloop'
      cases hmailbox : (w.session task.session).mailbox? k with
      | none =>
        rw [hmailbox] at hlistens
        rw [ReadsAt, hmailbox] at hreads
        have hafter : (w.publish task.session item).Listens task.session k i task none := publish_absent hlistens
        obtain rfl := Option.some.inj (hafter.present.symm.trans hi')
        rw [if_pos rfl, hafter.mailbox]
        exact hreads.missed
      | some mailbox =>
        rw [hmailbox] at hlistens
        rw [ReadsAt, hmailbox] at hreads
        obtain ⟨stage, mailbox', hafter, hgave⟩ : ∃ stage mailbox',
            (w.publish task.session item).Listens task.session k i { task with stage } (some mailbox') ∧
              Gave k item mailbox task.stage mailbox' stage := publish_gave (h.sessions _).places hlistens
        obtain rfl := Option.some.inj (hafter.present.symm.trans hi')
        rw [if_pos rfl, hafter.mailbox]
        exact hreads.published hgave
    · obtain rfl := Option.some.inj ((hwithin.tasks i task hn hi).symm.trans hi')
      have hdue : (due? task.session k includeCurrent log).map (· ++ ([] : List (Option RunState))) =
          due? task.session k includeCurrent log := by
        cases due? task.session k includeCurrent log <;> simp
      rw [if_neg (Ne.symm hn), hdue, Session.mailbox?_congr (hwithin.streams _ hn)]
      exact hreads
  · rw [due?_published, h.unborn m k includeCurrent (hstirred.nextStream m ▸ hk)]
    rfl

theorem elsewhere (h : Broadcast asked out log w) (hlength : w.sessions.length ≤ w'.sessions.length)
    (hsessions : ∀ m, (w'.session m).streams = (w.session m).streams ∧
      (w'.session m).nextStream = (w.session m).nextStream ∧ (w'.session m).state.Sound)
    (htasks : w'.tasks = w.tasks) (hevents : w'.events = w.events) : Broadcast asked out log w' where
  enlisted := h.enlisted.of_same (funext fun i => by rw [badge?, htasks, badge?]) hlength fun m =>
    Nat.le_of_eq (hsessions m).2.1.symm
  sessions m := by
    obtain ⟨hstreams, hnext, hsound⟩ := hsessions m
    exact (h.sessions m).of_same hsound (by rw [hstreams]) (Nat.le_of_eq hnext.symm)
  idle t hout e next alarm hwaits := h.idle t hout e next alarm (by rwa [stage?, htasks] at hwaits)
  calls i task hout hi := h.calls i task hout (htasks ▸ hi)
  reads i task k id includeCurrent hout hi hloop := by
    rw [ReadsAt, Session.mailbox?_congr (hsessions _).1, heard, hevents]
    exact h.reads i task k id includeCurrent hout (htasks ▸ hi) hloop
  unborn m k includeCurrent hk := h.unborn m k includeCurrent ((hsessions m).2.1 ▸ hk)

/-- **A call changes the site** of its session. -/
theorem spares (h : Broadcast asked out log w) (hn : n < w.sessions.length) {y : Site} (hy : (w.site n).Spares y) :
    Broadcast asked out log (w.setSite n y) := by
  refine h.elsewhere (by simp [setSite]) (fun m => ?_) rfl hy.events
  by_cases hm : m = n
  · rw [hm, show (w.setSite n y).session n = y.session from congrArg Site.session (site_setSite hn y)]
    exact ⟨hy.streams, hy.nextStream, hy.sound⟩
  · rw [session_setSite_ne hm]
    exact ⟨rfl, rfl, (h.sessions m).sound⟩

/-! ### A reader works -/

/-- **A reader works**: readers of its session come and go, but no other than it, and what is reported is reported
of it. -/
theorem read (h : Broadcast asked (some t) log w) (ht : w.tasks[t]? = some task)
    (hloop : task.loop = some (.reader k id includeCurrent)) {streams : List Stream} {l : List Tiding}
    (hplaces : (streams.map Stream.number).Nodup)
    (hbelow : ∀ j ∈ streams.map Stream.number, j < (w.session task.session).nextStream)
    (hothers : ∀ j, j ≠ k → Session.mailbox? { w.session task.session with streams } j =
      (w.session task.session).mailbox? j)
    (hlog : ∀ m j c, m ≠ task.session ∨ j ≠ k → due? m j c (log ++ l) = due? m j c log)
    (told : List (Option RunState)) :
    Broadcast asked (some t) (log ++ l)
      (w.setSite task.session ((w.site task.session).read streams (told.map (StreamEvent.mk id)))) := by
  have hn := h.known ht
  have hbadge := badge?_eq ht
  rw [hloop] at hbadge
  have hheard : ∀ id', id' ≠ id → (w.setSite task.session ((w.site task.session).read streams
      (told.map (StreamEvent.mk id)))).heard id' = w.heard id' := fun id' hid => heard_read_other hid ..
  have hthis := session_read hn streams (told.map (StreamEvent.mk id))
  have hapart : ∀ m, m ≠ task.session → (w.setSite task.session ((w.site task.session).read streams
      (told.map (StreamEvent.mk id)))).session m = w.session m := fun m hm => session_setSite_ne hm _
  have hlength : (w.setSite task.session ((w.site task.session).read streams
      (told.map (StreamEvent.mk id)))).sessions.length = w.sessions.length := by simp [setSite]
  -- Of the world after that nothing else matters but that its tasks are the same.
  have htasks : (w.setSite task.session ((w.site task.session).read streams
      (told.map (StreamEvent.mk id)))).tasks = w.tasks := rfl
  generalize w.setSite task.session _ = w' at *
  have hnext : ∀ m, (w'.session m).nextStream = (w.session m).nextStream := fun m => by
    by_cases hm : m = task.session
    · rw [hm, hthis]
    · rw [hapart m hm]
  have hmailbox : ∀ m j, m ≠ task.session ∨ j ≠ k → (w'.session m).mailbox? j = (w.session m).mailbox? j := by
    intro m j hplace
    by_cases hm : m = task.session
    · rw [hm, hthis]
      exact hothers j (hplace.resolve_left fun hne => hne hm)
    · rw [hapart m hm]
  have hbadge? : w'.badge? = w.badge? := funext fun i => by rw [badge?, htasks, badge?]
  refine ⟨h.enlisted.of_same hbadge? (Nat.le_of_eq hlength.symm) fun m => Nat.le_of_eq (hnext m).symm, fun m => ?_,
    fun i hout e next alarm hwaits => h.idle i hout e next alarm (by rwa [stage?, htasks] at hwaits),
    fun i task' hout hi hloop' => h.calls i task' hout (htasks ▸ hi) hloop',
    fun i task' j id' c hout hi hloop' => ?_, fun m j c hj => ?_⟩
  · by_cases hm : m = task.session
    · rw [hm, hthis]
      exact ⟨(h.sessions _).sound, hplaces, hbelow⟩
    · rw [hapart m hm]
      exact h.sessions m
  · rw [htasks] at hi
    have hbadge' := badge?_eq hi
    rw [hloop'] at hbadge'
    obtain ⟨hplace, hid⟩ := h.enlisted.differ hbadge hbadge' fun hti => hout (congrArg some hti)
    rw [ReadsAt, hmailbox _ _ hplace, hheard id' hid, hlog _ _ _ hplace]
    exact h.reads i task' j id' c hout hi hloop'
  · rw [hnext] at hj
    have hplace : m ≠ task.session ∨ j ≠ k := Decidable.not_and_iff_not_or_not.mp fun hsame => by
      rw [hsame.1, hsame.2] at hj
      exact Nat.not_lt_of_le hj (h.enlisted.number_lt hbadge)
    rw [hlog m j c hplace, h.unborn m j c hj]

theorem parting (h : Broadcast asked (some t) log w) (ht : w.tasks[t]? = some task)
    (hloop : task.loop = some (.reader k id includeCurrent)) (item : Option RunState)
    (told : List (Option RunState)) :
    Broadcast asked (some t) log (w.setSite task.session ((w.site task.session).read
      (remaining k item (w.session task.session).streams) (told.map (StreamEvent.mk id)))) := by
  have hsublist := numbers_remaining (w.session task.session).streams item k
  have hothers : ∀ j, j ≠ k → Session.mailbox? { w.session task.session with
      streams := remaining k item (w.session task.session).streams } j = (w.session task.session).mailbox? j :=
    fun j hj => (mailbox?_remaining (s := w.session task.session) rfl j).trans (if_neg fun hk => hj hk.1)
  have hread := h.read (l := []) ht hloop ((h.sessions _).places.sublist hsublist)
    (fun j hj => (h.sessions _).below j (hsublist.subset hj)) hothers (fun _ _ _ _ => by rw [List.append_nil]) told
  rwa [List.append_nil] at hread

theorem entering (h : Broadcast asked (some t) log w) (ht : w.tasks[t]? = some task)
    (hloop : task.loop = some (.reader k id includeCurrent)) (hplace : (w.session task.session).mailbox? k = none) :
    Broadcast asked (some t) (log ++ [.entered task.session k (w.session task.session).state])
      (w.setSite task.session ((w.site task.session).read
        ((w.session task.session).streams ++ [{ number := k, id }]) [])) := by
  have hnew := mailbox?_eq_none.mp hplace
  have hbadge := badge?_eq ht
  rw [hloop] at hbadge
  have hnumbers : ((w.session task.session).streams ++ [({ number := k, id } : Stream)]).map Stream.number =
      (w.session task.session).streams.map Stream.number ++ [k] := List.map_append
  refine h.read ht hloop ?_ (fun j hj => ?_)
    (fun j hj => (mailbox?_append (s := w.session task.session) rfl hplace j).trans (if_neg hj))
    (fun m j c hother => due?_entered_other hother log _) []
  · rw [hnumbers]
    exact List.nodup_append.mpr ⟨(h.sessions _).places, by simp, fun j hj j' hj' => by
      rw [List.mem_singleton.mp hj']
      exact fun hjk => hnew (hjk ▸ hj)⟩
  · rw [hnumbers, List.mem_append, List.mem_singleton] at hj
    rcases hj with hj | rfl
    · exact (h.sessions _).below j hj
    · exact h.enlisted.number_lt hbadge

/-! ### Turns -/

theorem working (h : Broadcast asked none log w) (ht : w.tasks[t]? = some task) (hworks : task.stage.works = true) :
    Broadcast asked (some t) log w :=
  { h with
    idle := fun _ hout => Option.some.inj hout ▸ runs_of_works ht hworks
    calls := fun i task _ => h.calls i task nofun
    reads := fun i task k id includeCurrent _ => h.reads i task k id includeCurrent nofun }

/-- **The task that works comes to a stage** at which it keeps up. -/
theorem settled (h : Broadcast asked (some t) log w) (ht : w.tasks[t]? = some task)
    (hcalls : task.loop = none → Publishing.Stands (asked t) stage)
    (hreads : ∀ k id includeCurrent, task.loop = some (.reader k id includeCurrent) →
      w.ReadsAt log task.session k id includeCurrent stage) : Broadcast asked none log (w.setStage t stage) where
  enlisted := h.enlisted.of_same Looped.badge?_setStage (Nat.le_refl _) fun _ => Nat.le_refl _
  sessions := h.sessions
  idle _ hout := nomatch hout
  calls i task' _ hi hloop := by
    rcases setStage_cases hi with ⟨rfl, before, hbefore, rfl⟩ | ⟨hne, hbefore⟩
    · obtain rfl := Option.some.inj (ht.symm.trans hbefore)
      exact hcalls hloop
    · exact h.calls i task' (fun hout => hne (Option.some.inj hout)) hbefore hloop
  reads i task' k id includeCurrent _ hi hloop := by
    rcases setStage_cases hi with ⟨rfl, before, hbefore, rfl⟩ | ⟨hne, hbefore⟩
    · obtain rfl := Option.some.inj (ht.symm.trans hbefore)
      exact hreads k id includeCurrent hloop
    · exact h.reads i task' k id includeCurrent (fun hout => hne (Option.some.inj hout)) hbefore hloop
  unborn := h.unborn

/-- **The task that works has ended**, and whoever waits for that is told. -/
theorem finished (h : Broadcast asked (some t) log w) (ht : w.tasks[t]? = some task) {r : Except Exit Result}
    (hreads : ∀ k id includeCurrent, task.loop = some (.reader k id includeCurrent) →
      w.ReadsAt log task.session k id includeCurrent (.ended r)) : Broadcast asked none log (w.finish t r) :=
  (h.settled ht (fun _ => .ended) hreads).unheard (.foldl (unheard_wakeWatcher r) _ _)

theorem again (h : Broadcast asked (some t) log w) (ht : w.tasks[t]? = some task)
    (hloop : task.loop = some (.reader k id includeCurrent))
    (hreads : w.ReadsAt log task.session k id includeCurrent (.fresh (.ofRound (Reader.round k id)))) :
    Broadcast asked none log (w.conclude t (.ok .again)) := by
  rw [conclude, ht, show (some task).bind Task.loop = _ from hloop]
  refine (h.settled ht (fun hnone => by cases hnone.symm.trans hloop) fun k' id' c hloop' => ?_).unheard
    (.of_same rfl rfl rfl fun _ _ h => h)
  cases hloop.symm.trans hloop'
  exact hreads

/-! ### Whoever comes -/

theorem call {a : RunAction} (h : Broadcast asked none log w) (hasks : asked w.tasks.length = a)
    (hn : n < w.sessions.length) : Broadcast asked none log (w.spawn n (.ofOp a.op)).2 where
  enlisted := h.enlisted.call hn
  sessions := h.sessions
  idle _ hout := nomatch hout
  calls i task hout hi hloop := by
    rcases spawn_before hi with hi | ⟨rfl, rfl⟩
    · exact h.calls i task hout hi hloop
    · rw [hasks]
      exact Publishing.stands_ofOp a
  reads i task k id includeCurrent hout hi hloop := by
    rcases spawn_before hi with hi | ⟨rfl, rfl⟩
    · exact h.reads i task k id includeCurrent hout hi hloop
    · cases hloop
  unborn := h.unborn

end Broadcast

/-- **Somebody subscribes** to the states of the run of a session: a reader begins, with a number that is new. -/
def subscribe (w : World) (n : Nat) (id : String) (includeCurrent : Bool) : World :=
  ((w.onSession n fun s => { s with nextStream := s.nextStream + 1 }).fork n
    (.reader (w.session n).nextStream id includeCurrent)).2

theorem session_subscribe (hn : n < w.sessions.length) (m : Nat) :
    (w.subscribe n id includeCurrent).session m =
      { w.session m with nextStream := (w.session m).nextStream + if m = n then 1 else 0 } := by
  show (w.onSession n fun s => { s with nextStream := s.nextStream + 1 }).session m = _
  by_cases hm : m = n
  · subst hm
    rw [session_onSession hn, if_pos rfl]
  · rw [session_onSession_ne hm, if_neg hm]
    rfl

/-- **A reader comes** to whom nothing was reported yet, under a name that nobody has. -/
theorem Broadcast.subscribe (h : Broadcast asked none log w) (hn : n < w.sessions.length)
    (hheard : w.heard id = []) (hname : ∀ i m j c, w.badge? i ≠ some (m, some (.reader j id c))) :
    Broadcast asked none log (w.subscribe n id includeCurrent) := by
  have hsession : ∀ m, (w.subscribe n id includeCurrent).session m =
      { w.session m with nextStream := (w.session m).nextStream + if m = n then 1 else 0 } := session_subscribe hn
  have hnext : ∀ m, (w.session m).nextStream ≤ ((w.subscribe n id includeCurrent).session m).nextStream := fun m => by
    rw [hsession m]
    exact Nat.le_add_right _ _
  have hstreams : ∀ m, ((w.subscribe n id includeCurrent).session m).streams = (w.session m).streams := fun m => by
    rw [hsession m]
  have hnumbered : Enlisted (w.onSession n fun s => { s with nextStream := s.nextStream + 1 }) :=
    h.enlisted.of_same rfl (by simp [onSession]) hnext
  refine ⟨hnumbered.fork (by simpa [onSession] using hn) ?_ (fun i id' c hi => ?_) hname, fun m => ?_, (fun _ h => by cases h),
    fun i task hout hi hloop => ?_, fun i task k id' c hout hi hloop => ?_,
    fun m k c hk => h.unborn m k c (Nat.le_trans (hnext m) hk)⟩
  · have hgiven := congrArg Session.nextStream (hsession n)
    rw [if_pos rfl] at hgiven
    exact hgiven ▸ Nat.lt_succ_self _
  · exact Nat.lt_irrefl _ (h.enlisted.number_lt hi)
  · refine (h.sessions m).of_same ?_ (by rw [hstreams]) (hnext m)
    rw [hsession m]
    exact (h.sessions m).sound
  · rcases spawn_before hi with hi | ⟨rfl, rfl⟩
    · exact h.calls i task hout hi hloop
    · cases hloop
  · rw [ReadsAt, Session.mailbox?_congr (hstreams _)]
    rcases spawn_before hi with hi | ⟨rfl, rfl⟩
    · exact h.reads i task k id' c hout hi hloop
    · cases hloop
      have hplace : (w.session n).mailbox? (w.session n).nextStream = none :=
        mailbox?_eq_none.mpr fun hk => Nat.lt_irrefl _ ((h.sessions n).below _ hk)
      exact .coming hplace hheard (h.unborn n _ _ (Nat.le_refl _))

end World

end Cutover
