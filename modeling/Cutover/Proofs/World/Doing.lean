import Cutover.Proofs.World.Alone
import Cutover.Session.Action

/-!
# Doing one thing after the other

An operation is done alone when a task of its own does it while nobody else does anything. It then
comes to an end if it meets a contract of work that is done alone, and ends as every such contract
says.

* `World.Does`: an operation is done alone;
* `World.Does.unique`: there is one way to do it;
* `World.does_of_meets`: an operation that meets the contract can be done;
* `World.Does.seen`, `World.Does.spec`: it ends as every contract says that it meets;
* `World.Does.guarded`: so does an operation that goes through the state gate.
-/

namespace Cutover

/-- What surrounds work that is done alone: some answers of the service, and instants that may be
seen. Every change is granted. -/
def Surroundings.granting (within : Int → Prop) (answers : Message → Outcome → Prop)
    (some_answer : ∃ o, answers Call.getResources.message o) : Surroundings where
  within
  answers
  grants _ _ := True
  some_answer
  grants_of_storage _ := trivial

/-- Every answer, every instant and every change. -/
def Surroundings.boundless : Surroundings :=
  .granting (fun _ => True) (fun _ _ => True) ⟨.unreachable "" "", trivial⟩

namespace World

variable {n t : Nat} {w w' w'' : World} {op : Op Result} {r r' : Except Exit Result}

/-- **An operation is done alone**, from one world to another and with a result. -/
structure Does (n : Nat) (op : Op Result) (w w' : World) (r : Except Exit Result) : Prop where
  alone : Alone w.tasks.length (w.spawn n (.ofOp op)).2 w'
  ended : w'.stage? w.tasks.length = some (.ended r)

theorem Alone.unique (h : Alone t w w') (h' : Alone t w w'') (hend : w'.alone? t = none)
    (hend' : w''.alone? t = none) : w' = w'' := by
  induction h with
  | refl w =>
    cases h' with
    | refl => rfl
    | step first _ =>
      rw [hend] at first
      cases first
  | step first _ ih =>
    cases h' with
    | refl =>
      rw [hend'] at first
      cases first
    | step first' rest' =>
      rw [first] at first'
      cases first'
      exact ih rest' hend

theorem alone?_of_ended (h : w.stage? t = some (.ended r)) : w.alone? t = none := by
  rw [alone?, h]

/-- **There is one way to do an operation alone.** -/
theorem Does.unique (h : Does n op w w' r) (h' : Does n op w w'' r') : w' = w'' ∧ r = r' := by
  obtain rfl := h.alone.unique h'.alone (alone?_of_ended h.ended) (alone?_of_ended h'.ended)
  refine ⟨rfl, ?_⟩
  have hended := h'.ended
  rw [h.ended] at hended
  cases hended
  rfl

/-- The world in which a task begins to work that was just made. -/
def begun (n : Nat) (job : Job) (w : World) : World :=
  (w.spawn n job).2.unqueue w.tasks.length

theorem single_begun (hn : n < w.sessions.length) (job : Job) :
    (w.begun n job).Single n w.tasks.length :=
  ⟨hn, _, List.getElem?_concat_length⟩

theorem stage?_begun (n : Nat) (job : Job) (w : World) :
    (w.begun n job).stage? w.tasks.length = some (.fresh job) := by
  rw [stage?, show (w.begun n job).tasks[w.tasks.length]? = _ from List.getElem?_concat_length]
  rfl

theorem runs_begun (n : Nat) (job : Job) (w : World) : (w.begun n job).Runs w.tasks.length := by
  intro e next alarm hwait
  rw [stage?_begun] at hwait
  cases hwait

theorem alone?_spawn (n : Nat) (job : Job) (w : World) :
    (w.spawn n job).2.alone? w.tasks.length = some (run w.tasks.length job (w.begun n job)) :=
  alone?_fresh (stage?_begun n job w)

variable {S : Surroundings} {s : Scene} {Q : Except Exit Result → Scene → Prop}

theorem meets_ofOp {σ : Type} {C : Contract σ} {s : σ} {Q : Except Exit Result → σ → Prop}
    (h : op.Meets C Q s) : (Job.ofOp op).Meets C (fun r s' => Q (lastResult r) s') s := by
  refine Op.meets_map.mpr (h.mono ?_)
  rintro (e | r) s' hQ
  · exact hQ
  · exact hQ

theorem Answers.bears (h : w.Answers S) (hnone : ∀ i b, ¬S.ended i b) : w.Bears S t :=
  ⟨h, fun i b hb => absurd hb (hnone i b)⟩

theorem bears_boundless (w : World) (t : Nat) : w.Bears .boundless t :=
  Answers.bears (fun _ => .of_forall fun _ => trivial) fun _ _ h => h

theorem Bears.begun (h : w.Bears S w.tasks.length) (job : Job) : (w.begun n job).Bears S w.tasks.length where
  answers := h.answers
  ended i b hb := by
    obtain ⟨hi, hlt, hended⟩ := h.ended i b hb
    have hsame : (w.begun n job).tasks[i]? = w.tasks[i]? := List.getElem?_append_left hlt
    refine ⟨hi, (List.getElem?_eq_some_iff.mp (hsame.trans (List.getElem?_eq_getElem hlt))).1, ?_⟩
    rw [← hended, hasEnded, hasEnded, hsame]

/-- **An operation can be done alone** from here: at whatever instant, it meets a contract. -/
def CanDo (op : Op Result) (w : World) (s : Scene) : Prop :=
  ∃ (S : Surroundings) (Q : Except Exit Result → Scene → Prop),
    (∀ x, S.within x) ∧ w.Bears S w.tasks.length ∧ op.Meets S.alone Q s

theorem canDo_of_boundless (h : op.Meets Surroundings.boundless.alone Q s) : w.CanDo op s :=
  ⟨_, Q, fun _ => trivial, bears_boundless w _, h⟩

/-- **An operation that meets a contract can be done alone.** -/
theorem does_ended (hn : n < w.sessions.length) (hsite : w.site n = s.site) (hcan : w.CanDo op s) :
    ∃ w' r, Does n op w w' r ∧ Ended n w.tasks.length (w.begun n (.ofOp op)) (.ofOp op) w' r := by
  obtain ⟨S, Q, hwithin, hbears, hmeets⟩ := hcan
  obtain ⟨w', r, halone, hended⟩ := run_ends (single_begun hn (.ofOp op)) (runs_begun n (.ofOp op) w)
    hwithin (hbears.begun (.ofOp op)) hsite (meets_ofOp hmeets)
  exact ⟨w', r, ⟨.step (alone?_spawn n (.ofOp op) w) halone, hended.stage⟩, hended⟩

/-- The world after an operation that is done without a wait. -/
def after (w : World) (n : Nat) (op : Op Result) : World :=
  run w.tasks.length (.ofOp op) (w.begun n (.ofOp op))

theorem does_after (h : (w.after n op).stage? w.tasks.length = some (.ended r)) :
    Does n op w (w.after n op) r := ⟨.step (alone?_spawn ..) (.refl _), h⟩

theorem Got.of_begun {job : Job} {item : Option RunState} {x : Stream}
    (h : Got n w.tasks.length item x (w.begun n job) w') : Got n w.tasks.length item x w w' := by
  refine h.imp_right fun ⟨i, next, alarm, hit, hi, hwait, hwoken⟩ => ?_
  have hlt : i < w.tasks.length := by
    obtain ⟨task, htask, _⟩ := Option.map_eq_some_iff.mp hwait
    have hlt := (List.getElem?_eq_some_iff.mp htask).1
    have hcount : (w.begun n job).tasks.length = w.tasks.length + 1 := by
      simp [begun, unqueue, spawn, enqueue]
    omega
  have hsame : (w.begun n job).tasks[i]? = w.tasks[i]? := List.getElem?_append_left hlt
  refine ⟨i, next, alarm, hit, ?_, ?_, hwoken⟩
  · rw [← hi, sessionOf, sessionOf, hsame]
  · rw [← hwait, stage?, stage?, hsame]

theorem Served.of_begun {job : Job} {p p' : List (Option RunState)}
    (h : Served n w.tasks.length (w.begun n job) w' p p') : Served n w.tasks.length w w' p p' where
  grown := h.grown
  published := h.published
  got item hitem := (h.got item hitem).imp_right fun hgot x hx => (hgot x hx).of_begun
  untouched hp := by
    refine ⟨(h.untouched hp).streams, fun i m next alarm hit hwait => ?_⟩
    refine (h.untouched hp).waiting i m next alarm hit ?_
    obtain ⟨task, htask, hstage⟩ := Option.map_eq_some_iff.mp hwait
    have hlt := (List.getElem?_eq_some_iff.mp htask).1
    rw [stage?, show (w.begun n job).tasks[i]? = w.tasks[i]? from List.getElem?_append_left hlt, htask,
      Option.map_some, hstage]

/-- **An operation that was done ends as every contract says that it meets**, and as it is seen from the
whole site. -/
theorem Does.seen {P : Except Exit Result → Scene → Prop} (h : Does n op w w' r)
    (hn : n < w.sessions.length) (hsite : w.site n = s.site) (hcan : w.CanDo op s)
    (hwithin : ∀ x, w.now ≤ x → x ≤ w'.now → S.within x) (hbears : w.Bears S w.tasks.length)
    (hmeets : op.Meets S.alone Q s) (hsole : op.Meets S.sole P s) :
    ∃ p f, Q r { site := w'.site n, published := p, forked := f } ∧
      P r { site := w'.site n, published := p, forked := f } ∧
      Served n w.tasks.length w w' s.published p ∧
      Forked n (w.begun n (.ofOp op)) w' s.forked f ∧
      Beside n w.tasks.length (w.begun n (.ofOp op)) w' := by
  obtain ⟨w'', r'', hdoes, hended⟩ := does_ended hn hsite hcan
  obtain ⟨rfl, rfl⟩ := hdoes.unique h
  obtain ⟨result, p, f, hQ, hP, rfl, hserved, hforked⟩ :=
    hended.meets S s _ _ hwithin (hbears.begun _) hsite (meets_ofOp hmeets) (meets_ofOp hsole)
  exact ⟨p, f, hQ, hP, hserved.of_begun, hforked, hended.beside⟩

theorem Does.spec (h : Does n op w w' r)
    (hn : n < w.sessions.length) (hsite : w.site n = s.site) (hcan : w.CanDo op s)
    (hwithin : ∀ x, w.now ≤ x → x ≤ w'.now → S.within x) (hbears : w.Bears S w.tasks.length)
    (hmeets : op.Meets S.alone Q s) :
    ∃ p f, Q r { site := w'.site n, published := p, forked := f } ∧
      Served n w.tasks.length w w' s.published p ∧
      Forked n (w.begun n (.ofOp op)) w' s.forked f ∧
      Beside n w.tasks.length (w.begun n (.ofOp op)) w' := by
  obtain ⟨p, f, hQ, -, hrest⟩ := h.seen hn hsite hcan hwithin hbears hmeets Surroundings.meets_sole_true
  exact ⟨p, f, hQ, hrest⟩

theorem Does.now_le (h : Does n op w w' r) (hn : n < w.sessions.length) (hsite : w.site n = s.site)
    (hcan : w.CanDo op s) : w.now ≤ w'.now := by
  obtain ⟨w'', r'', hdoes, hended⟩ := does_ended hn hsite hcan
  obtain ⟨rfl, rfl⟩ := hdoes.unique h
  exact hended.beside.now

end World

/-! ## Operations that go through the gate -/

theorem Board.dated_ok_of_le {b : Board} {x y : Int} (hxy : x ≤ y) (hy : b.dated y = .ok ()) : b.dated x = .ok () := by
  cases hm : microsecondsOf b.ttl with
  | error f => simp [dated, expiry, hm, bind, Except.bind, Except.map] at hy
  | ok d =>
    simp only [dated, expiry, hm, bind, Except.bind, pure, Except.pure] at hy ⊢
    by_cases hlast : lastInstant < y + d
    · rw [if_pos hlast] at hy
      cases hy
    · rw [if_neg (by omega : ¬lastInstant < x + d)]
      rfl

/-- Between two instants at which the same comes of raising a notice, the same comes of it. -/
theorem Board.dated_between {b : Board} {x y z : Int} (hxy : x ≤ y) (hyz : y ≤ z)
    (hxz : b.dated x = b.dated z) : b.dated y = b.dated x := by
  cases hm : microsecondsOf b.ttl with
  | error f => simp [dated, expiry, hm, bind, Except.bind]
  | ok d =>
    simp only [dated, expiry, hm, bind, Except.bind, pure, Except.pure] at hxz ⊢
    by_cases hx : lastInstant < x + d
    · rw [if_pos hx, if_pos (by omega : lastInstant < y + d)]
    · rw [if_neg hx] at hxz ⊢
      by_cases hz : lastInstant < z + d
      · rw [if_pos hz] at hxz
        cases hxz
      · rw [if_neg (by omega : ¬lastInstant < y + d)]
        rfl

namespace World

variable {n : Nat} {w w' : World} {r : Except Exit Result} {α : Type}

section
variable {op : Op α} {P : Core → Prop} {turn : Conditions → Core → Core.Turn α}
variable {items : α → List (Option RunState)} {f : α → Result} {A : Message → Outcome → Prop}

/-- An operation that goes through the gate, with what it gives shown as a result. -/
theorem meets_guarded {S : Surroundings} {s : Scene} (hop : S.Guards op P turn items)
    (f : α → Result) (hmay : P s.site.core) (hwithin : S.within s.site.now)
    (hfree : s.site.session.stateGate = {}) (hnone : s.published = []) :
    (f <$> op).Meets S.alone (fun r s' => ∃ k, S.Suits s.site.core k ∧
      r = ((turn k s.site.core).result.map f).mapError .fault ∧
      S.At (turn k s.site.core).core (Surroundings.given items (turn k s.site.core).result) s' ∧
      s'.site.session.stateGate = {} ∧ s'.forked = s.forked) s := by
  refine Op.meets_map.mpr (Surroundings.alone_guarded hop ⟨rfl, hnone, hwithin⟩ hmay hfree ?_)
  intro k s' hk hat hopen hforked
  refine ⟨k, hk, ?_, hat, hopen, hforked⟩
  cases (turn k s.site.core).result <;> rfl

/-- **An operation that goes through the gate can be done alone** when nobody is at the gate. -/
theorem does_guarded (f : α → Result) (hn : n < w.sessions.length)
    (hfree : (w.session n).stateGate = {})
    (hop : ∀ S : Surroundings, S.Guards op (fun c => P c ∧ ∀ d e, S.grants d e) turn items)
    (hmay : P (w.site n).core) : ∃ w' r, Does n (f <$> op) w w' r := by
  obtain ⟨w', r, hdoes, -⟩ := does_ended (s := ⟨w.site n, [], []⟩) hn rfl
    (canDo_of_boundless (meets_guarded (hop _) f ⟨hmay, fun _ _ => trivial⟩ trivial hfree rfl))
  exact ⟨w', r, hdoes⟩

/-- The service answers as it may, between two instants. -/
def spanning (w w' : World) (A : Message → Outcome → Prop)
    (some_answer : ∃ o, A Call.getResources.message o) : Surroundings :=
  .granting (fun t => w.now ≤ t ∧ t ≤ w'.now) A some_answer

/-- **What came of an operation on the run**: result, core and readers are as a function on cores
says, and the state gate is free. -/
structure Came (n : Nat) (t : Core.Turn α) (f : α → Result) (items : α → List (Option RunState))
    (w w' : World) (r : Except Exit Result) : Prop where
  result : r = (t.result.map f).mapError .fault
  core : (w'.site n).core = t.core
  stateGate : (w'.session n).stateGate = {}
  sessions : w'.sessions.length = w.sessions.length
  now : w.now ≤ w'.now
  served : Served n w.tasks.length w w' [] (Surroundings.given items t.result)

/-- **An operation that goes through the gate and is done alone does what its function on cores
says**, and the readers get what it publishes. -/
theorem Does.guarded (h : Does n (f <$> op) w w' r) (hn : n < w.sessions.length)
    (hfree : (w.session n).stateGate = {})
    (hop : ∀ S : Surroundings, S.Guards op (fun c => P c ∧ ∀ d e, S.grants d e) turn items)
    (hmay : P (w.site n).core) (hsome : ∃ o, A Call.getResources.message o)
    (hreplies : ∀ m, w.script.Replies m fun l => A m l.outcome) :
    ∃ k, (spanning w w' A hsome).Suits (w.site n).core k ∧
      Came n (turn k (w.site n).core) f items w w' r := by
  have hcan : w.CanDo (f <$> op) ⟨w.site n, [], []⟩ := canDo_of_boundless
    (meets_guarded (hop .boundless) f ⟨hmay, fun _ _ => trivial⟩ trivial hfree rfl)
  have hmeets := meets_guarded (s := ⟨w.site n, [], []⟩) (hop (spanning w w' A hsome)) f
    ⟨hmay, fun _ _ => trivial⟩ ⟨Int.le_refl _, h.now_le hn rfl hcan⟩ hfree rfl
  obtain ⟨p, forked, ⟨k, hk, hr, hat, hopen, -⟩, hserved, -, hbeside⟩ :=
    h.spec (S := spanning w w' A hsome) hn rfl hcan (fun _ hx hx' => ⟨hx, hx'⟩)
      (Answers.bears hreplies fun _ _ h => h) hmeets
  refine ⟨k, hk, hr, hat.core, hopen, hbeside.length, hbeside.now, ?_⟩
  rw [← hat.published]
  exact hserved

end

/-! ## Beginning a run and applying a report -/

/-- A session at rest: nobody is at its gates. -/
structure Rests (n : Nat) (w : World) : Prop where
  known : n < w.sessions.length
  stateGate : (w.session n).stateGate = {}
  fetchGate : (w.session n).fetchGate = {}

/-- What comes of raising a notice now. -/
def dated (w : World) (n : Nat) : Except Fault Unit := (w.session n).board.dated w.now

theorem Came.rests {t : Core.Turn α} {f : α → Result} {items : α → List (Option RunState)}
    (h : Came n t f items w w' r) (hw : w.Rests n) (hstays : (w.site n).core.Stays t.core) :
    w'.Rests n where
  known := h.sessions ▸ hw.known
  stateGate := h.stateGate
  fetchGate := by
    have hgate : (w'.session n).fetchGate = t.core.session.fetchGate :=
      congrArg (fun c : Core => c.session.fetchGate) h.core
    exact hgate.trans (hstays.fetchGate.trans hw.fetchGate)

theorem Came.dated {t : Core.Turn α} {f : α → Result} {items : α → List (Option RunState)}
    (h : Came n t f items w w' r) (hstays : (w.site n).core.Stays t.core) (x : Int) :
    (w'.session n).board.dated x = (w.session n).board.dated x := by
  have hboard : (w'.session n).board.ttl = t.core.session.board.ttl :=
    congrArg (fun c : Core => c.session.board.ttl) h.core
  have httl : t.core.session.board.ttl = (w.session n).board.ttl := by rw [hstays.board]; rfl
  simp only [Board.dated, Board.expiry, hboard, httl]

theorem Came.notice {t : Core.Turn α} {f : α → Result} {items : α → List (Option RunState)}
    {A : Message → Outcome → Prop} {hsome : ∃ o, A Call.getResources.message o}
    {k : Conditions} (h : Came n t f items w w' r) (hstays : (w.site n).core.Stays t.core)
    (hk : (spanning w w' A hsome).Suits (w.site n).core k)
    (hdated : w.dated n = w'.dated n) : k.notice = w.dated n := by
  obtain ⟨x, ⟨hle, hle'⟩, hx⟩ := hk.notice
  exact hx.trans (Board.dated_between hle hle' (hdated.trans (h.dated hstays _)))

theorem guards_applying (S : Surroundings) (report : Status) :
    S.Guards (Control.apply report) (fun c => c.session.fetchGate = {} ∧ ∀ d e, S.grants d e)
      (fun k c => c.apply k report) fun t => if t.changed then [some t.state] else [] := by
  obtain ⟨op, hop, hdoes⟩ := S.guards_apply report
  exact ⟨op, hop, fun c s hmay => hdoes c s ⟨hmay.1, fun _ d e _ _ => hmay.2 d e⟩⟩

theorem guards_beginning (S : Surroundings) (mode : Mode) (transfer : Transfer)
    (shards instances : Value) :
    S.Guards (Control.begin mode transfer shards instances) (fun _ => True ∧ ∀ d e, S.grants d e)
      (fun _ c => c.begin mode transfer shards instances) fun t => [some t] := by
  obtain ⟨op, hop, hdoes⟩ := S.guards_begin mode transfer shards instances
  exact ⟨op, hop, fun c s hmay => hdoes c s fun d _ => hmay.2 d _⟩

section
variable {report : Status} {A : Message → Outcome → Prop}

/-- **A report that is applied does what its function says**, in the conditions of its time. -/
theorem Does.apply (h : Does n (RunAction.apply report).op w w' r) (hw : w.Rests n)
    (hsome : ∃ o, A Call.getResources.message o)
    (hreplies : ∀ m, w.script.Replies m fun l => A m l.outcome) :
    ∃ k, (spanning w w' A hsome).Suits (w.site n).core k ∧
      Came n ((w.site n).core.apply k report) .transition
        (fun t => if t.changed then [some t.state] else []) w w' r :=
  h.guarded (f := .transition) hw.known hw.stateGate (fun S => guards_applying S report) hw.fetchGate
    hsome hreplies

theorem Does.applied (h : Does n (RunAction.apply report).op w w' r) (hw : w.Rests n) :
    ∃ k, Came n ((w.site n).core.apply k report) .transition
      (fun t => if t.changed then [some t.state] else []) w w' r := by
  obtain ⟨k, -, hcame⟩ := h.apply (A := fun _ _ => True) hw ⟨.unreachable "" "", trivial⟩
    fun _ => .of_forall fun _ => trivial
  exact ⟨k, hcame⟩

theorem does_apply (hw : w.Rests n) (report : Status) :
    ∃ w' r, Does n (RunAction.apply report).op w w' r :=
  does_guarded .transition hw.known hw.stateGate (fun S => guards_applying S report) hw.fetchGate

/-- **A run that begins does what its function says.** -/
theorem Does.beginRun {mode : Mode} {transfer : Transfer} {shards instances : Value}
    (h : Does n (RunAction.begin mode transfer shards instances).op w w' r) (hw : w.Rests n) :
    Came n ((w.site n).core.begin mode transfer shards instances) .state (fun t => [some t]) w w' r := by
  obtain ⟨-, -, hcame⟩ := h.guarded (f := .state) (P := fun _ => True) hw.known hw.stateGate
    (fun S => guards_beginning S mode transfer shards instances) trivial
    (A := fun _ _ => True) ⟨.unreachable "" "", trivial⟩ fun _ => .of_forall fun _ => trivial
  exact hcame

end

end World

end Cutover
