import Cutover.Proofs.Control.Restoring
import Cutover.Proofs.World.Doing
import Cutover.Session.Action

/-!
# A session begins

A session that begins reads the summary and loads the stored record. If that says that a run is in
progress, the session takes up the run and starts to poll.

* `Surroundings.meets_readSummary`: reading the summary leaves the run alone;
* `Surroundings.Began`, `Surroundings.alone_begin`: what comes of beginning a session;
* `World.does_begin`, `World.Does.begins`: a session can begin, and **begins normally if a run in progress is stored**;
* `World.Does.takesUp`: **a run that is stored and in progress is taken up as it was**;
* `World.Polls`: the poll loop was started;
* `World.Does.begin`: **a session that begins polls exactly if the stored run is in progress**.
-/

namespace Cutover

namespace Core

/-- The core of a session with another summary. -/
def summarized (c : Core) (summary : Option Summary) (wizard : Wizard) : Core :=
  c.onSession fun s => { s with summary, wizard }

/-- The core of a session that has loaded the record. -/
def loaded (c : Core) : Core := { c with storage := (c.storage.load c.session.store).2 }

/-- The core of a session whose poll loop was started as a task. -/
def polling (c : Core) (task : Nat) : Core :=
  c.onSession fun s =>
    { s with latch := { generation := s.latch.generation + 1 }, pollTask := some task }

theorem pollTask_restore (r : Record) (c : Core) :
    (c.restore r).core.session.pollTask = c.session.pollTask := by
  unfold restore
  split
  · rfl
  · dsimp only
    split
    · rfl
    · split
      · rfl
      · rfl

end Core

namespace Surroundings

variable {S : Surroundings} {c : Core} {s : Scene} {p : List (Option RunState)}

/-- The service gives a reply to the request for the summary, which can be reported if need be. -/
def Tells (S : Surroundings) (c : Core) : Prop :=
  S.Calm c ∧ ∀ o, S.answers Call.getSummary.message o → o.isReply = true

/-- **Reading the summary leaves the run alone.** -/
theorem meets_readSummary {Q : Except Exit Unit → Scene → Prop} (h : S.At c p s)
    (hQ : ∀ (x : Except Fault Unit) summary wizard s', (S.Tells c → x = .ok ()) →
      S.At (c.summarized summary wizard) p s' → Q (x.mapError .fault) s') :
    Conduct.readSummary.Meets S.behind Q s := by
  have hsame : c.summarized c.session.summary c.session.wizard = c := rfl
  -- A fault of the call is reported, if the notice can be raised.
  have hreport : ∀ {k : Option Summary → Op Unit}, k none = pure () → ∀ (f : ServiceFault) s',
      S.At c p s' → (do
        Op.announce f.message .warning
        return none : Op (Option Summary)).Meets S.behind (Op.after S.behind Q k) s' := by
    intro k hk f s' h'
    refine Op.meets_bind.mpr (meets_announce h' fun x s'' hx h'' => ?_)
    have hQx := hQ x c.session.summary c.session.wizard s'' (fun htells => hx.calm htells.1)
      (hsame ▸ h'')
    cases x with
    | error f => exact hQx
    | ok _ =>
      show (k none).Meets S.behind Q s''
      rw [hk]
      exact hQx
  rw [Conduct.readSummary, Op.meets_bind, Op.meets_rescue, Op.meets_map, Call.readSummary,
    Op.meets_bind]
  refine meets_send h rfl fun o s' ho h' => ?_
  cases o with
  | answered a =>
    simp only [Outcome.received, Op.mapError_ok, Op.after_ok]
    cases hm : a.toSummary with
    | ok summary => exact meets_modify h' rfl rfl rfl fun s'' h'' => hQ (.ok ()) _ _ s'' (fun _ => rfl) h''
    | error f => exact hreport rfl f s' h'
  | unreachable failure text => exact hreport rfl _ s' h'
  | failed f =>
    by_cases hf : ∃ g, f = .client (.service g)
    · obtain ⟨g, rfl⟩ := hf
      exact hreport rfl g s' h'
    · rw [not_exists] at hf
      refine (Op.rescued_other hf).mpr ?_
      refine hQ (.error f) c.session.summary c.session.wizard s' (fun htells => ?_) (hsame ▸ h')
      cases htells.2 _ ho

/-! ## The poll loop is started -/

/-- It is known whether the loop that a session knows has ended. -/
def Knows (S : Surroundings) (c : Core) : Prop := ∀ t, c.session.pollTask = some t → ∃ b, S.ended t b

/-- Whether a session has a poll loop that runs. -/
inductive Polling (S : Surroundings) (c : Core) : Bool → Prop
  | never (none : c.session.pollTask = none) : Polling S c false
  | known {t : Nat} {b : Bool} (task : c.session.pollTask = some t) (ended : S.ended t b) : Polling S c (!b)

/-- The poll loop of a session is started, or goes on. -/
inductive Started (S : Surroundings) (c : Core) : Core → List (Nat × Background) → Prop
  | anew (task : Nat) (rests : S.Polling c false) : Started S c (c.polling task) [(task, .pollLoop)]
  | already (runs : S.Polling c true) : Started S c c []

theorem not_polling_of_none (h : c.session.pollTask = none) : ¬S.Polling c true := by
  generalize htrue : true = running
  rintro (_ | ⟨task, _⟩)
  · cases htrue
  · rw [h] at task
    cases task

theorem alone_isRunning {Q : Except Exit Bool → Scene → Prop} (h : S.At c p s) (hknows : S.Knows c)
    (hQ : ∀ running s', S.Polling c running → S.At c p s' → Steady s s' → Q (.ok running) s') :
    Poll.isRunning.Meets S.alone Q s := by
  have hpoll : s.site.session.pollTask = c.session.pollTask := h.read Session.pollTask fun _ => rfl
  refine Op.meets_bind.mpr (alone_session ?_)
  rw [Op.after_ok, hpoll]
  cases htask : c.session.pollTask with
  | none => exact hQ false s (.never htask) h ⟨rfl, rfl⟩
  | some t =>
    refine Op.meets_bind.mpr (Op.meets_perform.mpr ⟨hknows t htask, ?_⟩)
    rintro b s' ⟨hb, h', hsteady⟩
    rw [h.core, h.published] at h'
    exact hQ (!b) s' (.known htask hb) h' hsteady

/-- **The poll loop is started** unless it runs. -/
theorem alone_start {Q : Except Exit Unit → Scene → Prop} (h : S.At c p s) (hknows : S.Knows c)
    (hQ : ∀ d f s', S.Started c d f → S.At d p s' → s'.forked = s.forked ++ f →
      s'.site.session.stateGate = s.site.session.stateGate → Q (.ok ()) s') :
    Poll.start.Meets S.alone Q s := by
  refine Op.meets_bind.mpr (alone_isRunning h hknows fun running s₁ hpolling h₁ hsteady₁ => ?_)
  cases running with
  | true => exact hQ c [] s₁ (.already hpolling) h₁ (by rw [List.append_nil, hsteady₁.2]) hsteady₁.1
  | false =>
    refine Op.meets_bind.mpr (alone_modify h₁ rfl rfl rfl fun s₂ h₂ hsteady₂ => ?_)
    refine Op.meets_bind.mpr (Op.meets_perform.mpr ⟨trivial, ?_⟩)
    rintro task s₃ ⟨h₃, hgate, hforked⟩
    rw [h₂.core, h₂.published] at h₃
    refine alone_modify h₃ rfl rfl rfl fun s₄ h₄ hsteady₄ => hQ _ _ s₄ (.anew task hpolling) h₄ ?_ ?_
    · rw [hsteady₄.2, hforked, hsteady₂.2, hsteady₁.2]
    · rw [hsteady₄.1, hgate, hsteady₂.1, hsteady₁.1]

/-- **How far a session gets that begins** and does not poll yet, and what becomes of its run. -/
inductive Began (S : Surroundings) (c : Core) : Except Exit RunState → Scene → Prop
  /-- It ends early, before there is a record to take up. -/
  | early {f : Fault} {summary : Option Summary} {wizard : Wizard} {d : Core} {s : Scene}
    (core : S.At d [] s) (session : d.session = (c.summarized summary wizard).session)
    (forked : s.forked = [])
    (reason : S.Tells c → ∀ record, (c.storage.load c.session.store).1 ≠ .ok (some record)) :
    Began S c (.error (.fault f)) s
  /-- The stored run cannot be taken up. -/
  | refused {f : Fault} {record : Record} {summary : Option Summary} {wizard : Wizard} {s : Scene}
    (load : (c.storage.load c.session.store).1 = .ok (some record))
    (restores : ((c.summarized summary wizard).loaded.restore record).result = .error f)
    (core : S.At ((c.summarized summary wizard).loaded.restore record).core [] s)
    (forked : s.forked = []) : Began S c (.error (.fault f)) s
  /-- No run that is stored is in progress. -/
  | idle {r : Except Exit RunState} {summary : Option Summary} {wizard : Wizard} {s : Scene}
    (none : ∀ record, (c.storage.load c.session.store).1 = .ok (some record) → record.isRunning = false)
    (core : S.At (c.summarized summary wizard).loaded [] s) (forked : s.forked = []) : Began S c r s
  /-- The stored run is taken up and polled. -/
  | resumes {record : Record} {summary : Option Summary} {wizard : Wizard} {state : RunState}
    {task : Nat} {s : Scene} {p : List (Option RunState)}
    (load : (c.storage.load c.session.store).1 = .ok (some record)) (running : record.isRunning = true)
    (restores : ((c.summarized summary wizard).loaded.restore record).result = .ok state)
    (core : S.At (((c.summarized summary wizard).loaded.restore record).core.polling task) p s)
    (forked : s.forked = [(task, .pollLoop)]) : Began S c (.ok state) s

/-- **What comes of beginning a session** at whose gate nobody is and that does not poll yet. -/
theorem alone_begin {Q : Except Exit RunState → Scene → Prop} (h : S.At c [] s)
    (hfree : s.site.session.stateGate = {}) (hnone : c.session.pollTask = none)
    (hgrants : ∀ d e, S.grants d e) (hforked : s.forked = [])
    (hQ : ∀ r s', Began S c r s' → s'.site.session.stateGate = {} → Q r s') :
    Conduct.begin.Meets S.alone Q s := by
  have hsummary : Conduct.readSummary.Meets S.behind (fun r s' => ∃ (x : Except Fault Unit)
      (summary : Option Summary) (wizard : Wizard), (S.Tells c → x = .ok ()) ∧
      S.At (c.summarized summary wizard) [] s' ∧ r = x.mapError .fault) s :=
    meets_readSummary h fun x summary wizard s' hx h' => ⟨x, summary, wizard, hx, h', rfl⟩
  refine Op.meets_bind.mpr ((meets_alone hsummary).mono ?_)
  rintro _ s₁ ⟨⟨x, summary, wizard, hx, h₁, rfl⟩, hgate₁, hforked₁⟩
  have hfree₁ := hgate₁.trans hfree
  have hforked₁ := hforked₁.trans hforked
  cases x with
  | error f => exact hQ _ s₁ (.early h₁ rfl hforked₁ fun htells => nomatch hx htells) hfree₁
  | ok _ =>
    refine Op.meets_bind.mpr (alone_session ?_)
    have hstore : s₁.site.session.store = c.session.store := h₁.read Session.store fun _ => rfl
    rw [Op.after_ok, hstore]
    have hload : (Keep.load c.session.store).Meets S.behind (fun r s' =>
        S.At (c.summarized summary wizard).loaded [] s' ∧
          r = (c.storage.load c.session.store).1.mapError .fault) s₁ :=
      meets_keep h₁ (hgrants _ _) fun s' h' => ⟨h', rfl⟩
    refine Op.meets_bind.mpr ((meets_alone hload).mono ?_)
    rintro _ s₂ ⟨⟨h₂, rfl⟩, hgate₂, hforked₂⟩
    have hfree₂ := hgate₂.trans hfree₁
    have hforked₂ := hforked₂.trans hforked₁
    have hsnapshot : (∀ record, (c.storage.load c.session.store).1 = .ok (some record) →
        record.isRunning = false) → Control.snapshot.Meets S.alone Q s₂ := by
      intro hidle
      have hsnap : Control.snapshot.Meets S.behind (fun _ s' => s' = s₂) s₂ := by
        refine Op.meets_bind.mpr (meets_session.mpr ?_)
        exact Op.meets_ofExcept.mpr rfl
      refine (meets_alone hsnap).mono ?_
      rintro r s' ⟨rfl, -⟩
      exact hQ r s' (.idle hidle h₂ hforked₂) hfree₂
    cases hl : (c.storage.load c.session.store).1 with
    | error f =>
      refine hQ _ s₂ (.early h₂ rfl hforked₂ fun _ record hr => ?_) hfree₂
      rw [hl] at hr
      cases hr
    | ok record? =>
      cases record? with
      | none => exact hsnapshot fun record hr => by rw [hl] at hr; cases hr
      | some record =>
        cases hrunning : record.isRunning with
        | false =>
          simp only [Op.mapError_ok, Op.after_ok, hrunning]
          refine hsnapshot fun record' hr => ?_
          rw [hl] at hr
          cases hr
          exact hrunning
        | true =>
          simp only [Op.mapError_ok, Op.after_ok, hrunning, if_true]
          refine Op.meets_bind.mpr (alone_guarded (guards_restore S record) h₂ trivial hfree₂ ?_)
          intro k s₃ _ h₃ hfree₃ hforked₃
          have hforked₃ := hforked₃.trans hforked₂
          cases hr : ((c.summarized summary wizard).loaded.restore record).result with
          | error f =>
            rw [show given _ _ = [] by rw [hr]; rfl] at h₃
            exact hQ _ s₃ (.refused hl hr h₃ hforked₃) hfree₃
          | ok state =>
            have hnone₃ := (Core.pollTask_restore record (c.summarized summary wizard).loaded).trans hnone
            refine Op.meets_bind.mpr (alone_start h₃ (fun t ht => by rw [hnone₃] at ht; cases ht) ?_)
            intro d f s₄ hstarted h₄ hforked₄ hfree₄
            rw [hforked₃] at hforked₄
            cases hstarted with
            | anew task => exact hQ _ s₄ (.resumes hl hrunning hr h₄ hforked₄) (hfree₄.trans hfree₃)
            | already runs => exact absurd runs (not_polling_of_none hnone₃)

end Surroundings

namespace World

open Surroundings

variable {n : Nat} {w w' : World} {r : Except Exit Result}

/-- **The poll loop of a session was started.** -/
def Polls (n : Nat) (w w' : World) : Prop :=
  ∃ t task, w.tasks.length ≤ t ∧ w'.tasks[t]? = some task ∧ task.session = n ∧
    task.loop = some .pollLoop ∧ (w'.session n).pollTask = some t

/-- A session that nobody is behind the gate of, and that does not poll. -/
structure Unopened (n : Nat) (w : World) : Prop where
  known : n < w.sessions.length
  stateGate : (w.session n).stateGate = {}
  pollTask : (w.session n).pollTask = none

section
variable {S : Surroundings}

theorem meets_begin (hw : w.Unopened n) (hgrants : ∀ d e, S.grants d e) (hwithin : S.within w.now) :
    WholeAction.begin.op.Meets S.alone (fun r s' => ∃ x,
      r = x.map .state ∧ Began S (w.site n).core x s' ∧ s'.site.session.stateGate = {}) ⟨w.site n, [], []⟩ :=
  Op.meets_map.mpr (alone_begin ⟨rfl, rfl, hwithin⟩ hw.stateGate hw.pollTask hgrants rfl
    fun x _ hbegan hfree => ⟨x, rfl, hbegan, hfree⟩)

/-- How far a session gets that begins, in surroundings that grant every change. -/
theorem Does.began_in (h : Does n WholeAction.begin.op w w' r) (hw : w.Unopened n) (hgrants : ∀ d e, S.grants d e)
    (hwithin : ∀ x, w.now ≤ x → x ≤ w'.now → S.within x) (hbears : w.Bears S w.tasks.length) :
    ∃ x p f, r = x.map .state ∧
      Began S (w.site n).core x { site := w'.site n, published := p, forked := f } ∧
      (w'.session n).stateGate = {} ∧ Forked n (w.begun n (.ofOp WholeAction.begin.op)) w' [] f ∧
      Beside n w.tasks.length (w.begun n (.ofOp WholeAction.begin.op)) w' := by
  have hcan : w.CanDo WholeAction.begin.op ⟨w.site n, [], []⟩ :=
    canDo_of_boundless (meets_begin hw (fun _ _ => trivial) trivial)
  have hnow : w.now ≤ w'.now := h.now_le hw.known rfl hcan
  obtain ⟨p, f, ⟨x, hr, hbegan, hfree⟩, -, hforked, hbeside⟩ :=
    h.spec hw.known rfl hcan hwithin hbears (meets_begin hw hgrants (hwithin _ (Int.le_refl _) hnow))
  exact ⟨x, p, f, hr, hbegan, hfree, hforked, hbeside⟩

end

theorem Does.began (h : Does n WholeAction.begin.op w w' r) (hw : w.Unopened n) :
    ∃ x p f, r = x.map .state ∧
      Began .boundless (w.site n).core x { site := w'.site n, published := p, forked := f } ∧
      (w'.session n).stateGate = {} ∧ Forked n (w.begun n (.ofOp WholeAction.begin.op)) w' [] f ∧
      Beside n w.tasks.length (w.begun n (.ofOp WholeAction.begin.op)) w' :=
  h.began_in hw (fun _ _ => trivial) (fun _ _ _ => trivial) (bears_boundless w _)

theorem load_stored {b : Core} (hplain : b.Plain) (hstored : w.storage.table (w.session n).store = b.record.encode) :
    (w.storage.load (w.session n).store).1 = .ok (some b.record) := by
  rw [(Storage.load_eq ..).1, Storage.recordOf, hstored, if_neg, hplain.decode]
  · rfl
  · rw [List.isEmpty_iff]
    exact Record.encode_ne_nil _

theorem restore_stored {b : Core} (hplain : b.Plain)
    (hstored : w.storage.table (w.session n).store = b.record.encode) (summary : Option Summary) (wizard : Wizard) :
    ((w.site n).core.summarized summary wizard).loaded.restore b.record
      = ⟨.ok b.session.state, ((w.site n).core.summarized summary wizard).takenUp b⟩ := by
  have hsome : w.storage.table (w.session n).store ≠ [] := hstored ▸ Record.encode_ne_nil _
  have hloaded : ((w.site n).core.summarized summary wizard).loaded = (w.site n).core.summarized summary wizard :=
    congrArg (fun storage => { (w.site n).core.summarized summary wizard with storage }) (Storage.load_stored hsome)
  rw [hloaded, Core.restore_record hplain.state.sound]
  rfl

/-- **A run that is stored and in progress is taken up as it was**, and polled. -/
theorem Does.takesUp {b : Core} {x : Result} (h : Does n WholeAction.begin.op w w' (.ok x))
    (hw : w.Unopened n) (hplain : b.Plain) (hrunning : b.session.state.isRunning = true)
    (hstored : w.storage.table (w.session n).store = b.record.encode) :
    x = .state b.session.state ∧ (w'.session n).stateGate = {} ∧
      w'.sessions.length = w.sessions.length ∧ ∃ summary wizard task, (w'.site n).core
        = (((w.site n).core.summarized summary wizard).takenUp b).polling task := by
  have hload := load_stored hplain hstored
  obtain ⟨y, p, f, hx, hbegan, hfree, -, hbeside⟩ := h.began hw
  cases hbegan with
  | early => cases hx
  | refused => cases hx
  | idle hidle =>
    have hstopped : b.record.isRunning = false := hidle _ hload
    cases hstopped.symm.trans hrunning
  | @resumes record summary wizard state task _ _ hrecord _ hrestores hcore _ =>
    cases hload.symm.trans hrecord
    rw [restore_stored hplain hstored] at hrestores hcore
    cases hrestores
    cases hx
    exact ⟨rfl, hfree, hbeside.length, summary, wizard, task, hcore.core⟩

/-- **A session that finds a run in progress begins normally**, if the service gives a reply to the request for the
summary, and if a notice can be raised all along. -/
theorem Does.begins {b : Core} (h : Does n WholeAction.begin.op w w' r) (hw : w.Unopened n) (hplain : b.Plain)
    (hrunning : b.session.state.isRunning = true)
    (hstored : w.storage.table (w.session n).store = b.record.encode)
    (hreplies : w.script.Replies Call.getSummary.message fun l => l.outcome.isReply = true)
    (hdated : w'.dated n = .ok ()) : ∃ x, r = .ok x := by
  have hload := load_stored hplain hstored
  have hanswers : w.Answers (spanning w w' (fun m o => m = Call.getSummary.message → o.isReply = true)
      ⟨.unreachable "" "", fun _ => rfl⟩) := fun m => by
    by_cases hm : m = Call.getSummary.message
    · subst hm
      exact hreplies.mono fun l hl _ => hl
    · exact .of_forall fun _ heq => absurd heq hm
  obtain ⟨y, p, f, rfl, hbegan, -⟩ :=
    h.began_in hw (fun _ _ => trivial) (fun _ hx hx' => And.intro hx hx') (hanswers.bears fun _ _ h => h)
  cases hbegan with
  | @early f summary wizard d _ core session _ reason =>
    refine absurd hload (reason ⟨fun x hx => ?_, fun o ho => ho rfl⟩ b.record)
    have hafter : (w'.session n).board.ttl = d.session.board.ttl :=
      congrArg (fun c : Core => c.session.board.ttl) core.core
    have hbefore : d.session.board.ttl = (w.session n).board.ttl := by
      rw [session]
      rfl
    rw [World.dated, Board.dated, Board.expiry, hafter.trans hbefore] at hdated
    exact Board.dated_ok_of_le hx.2 hdated
  | refused load restores =>
    cases hload.symm.trans load
    rw [restore_stored hplain hstored] at restores
    cases restores
  | idle hidle =>
    have hstopped : b.record.isRunning = false := hidle _ hload
    cases hstopped.symm.trans hrunning
  | resumes => exact ⟨_, rfl⟩

theorem not_polls {job : Job} (hforked : Forked n (w.begun n job) w' [] [])
    (hbeside : Beside n w.tasks.length (w.begun n job) w') : ¬Polls n w w' := by
  rintro ⟨t, task, hle, htask, -, hloop, -⟩
  have hcount : w'.tasks.length = w.tasks.length + 1 := by
    have hcount := hforked.count
    simpa [begun, unqueue, spawn, enqueue] using hcount
  have hlt := (List.getElem?_eq_some_iff.mp htask).1
  obtain rfl : t = w.tasks.length := by omega
  obtain ⟨stage, hown⟩ := hbeside.own _ List.getElem?_concat_length
  rw [htask] at hown
  cases hown
  cases hloop

/-- **A session that begins polls exactly if it ends normally and the stored run is in progress.** -/
theorem Does.begin (h : Does n WholeAction.begin.op w w' r) (hw : w.Unopened n) :
    Polls n w w' ↔ (∃ x, r = .ok x) ∧
      ∃ record, Storage.recordOf (w.storage.table (w.session n).store) = .ok (some record) ∧
        record.isRunning = true := by
  obtain ⟨x, p, f, rfl, hbegan, -, hforked, hbeside⟩ := h.began hw
  have hload : (w.storage.load (w.session n).store).1 = _ := (Storage.load_eq ..).1
  rw [← hload]
  have hfails : ∀ {f' : Fault}, f = [] → (Polls n w w' ↔ (∃ x, Except.map Result.state
      (.error (.fault f') : Except Exit RunState) = .ok x) ∧ ∃ record,
        (w.storage.load (w.session n).store).1 = .ok (some record) ∧ record.isRunning = true) := by
    rintro f' rfl
    refine ⟨fun hpolls => absurd hpolls (not_polls hforked hbeside), ?_⟩
    rintro ⟨⟨_, hx⟩, -⟩
    cases hx
  cases hbegan with
  | early _ _ hnone => exact hfails hnone
  | refused _ _ _ hnone => exact hfails hnone
  | idle hidle _ hnone =>
    obtain rfl : f = [] := hnone
    refine ⟨fun hpolls => absurd hpolls (not_polls hforked hbeside), ?_⟩
    rintro ⟨-, record, hrecord, hrunning⟩
    rw [hidle record hrecord] at hrunning
    cases hrunning
  | @resumes record summary wizard state task _ _ hrecord hrunning hrestores hcore hone =>
    obtain rfl : f = [(task, .pollLoop)] := hone
    refine ⟨fun _ => ⟨⟨_, rfl⟩, record, hrecord, hrunning⟩, fun _ => ?_⟩
    obtain hearlier | ⟨hle, loop, hloop, hsession, hpoll⟩ := hforked.started _ List.mem_cons_self
    · cases hearlier
    · refine ⟨task, loop, ?_, hloop, hsession, hpoll, ?_⟩
      · have hgrown : (w.begun n (.ofOp WholeAction.begin.op)).tasks.length = w.tasks.length + 1 := by
          simp [begun, unqueue, spawn, enqueue]
        omega
      · exact congrArg (fun c : Core => c.session.pollTask) hcore.core

end World

end Cutover
