import Cutover.Proofs.Control.Holding
import Cutover.Proofs.Resource.Paging
import Cutover.Proofs.World.Asking
import Cutover.Proofs.World.AtOnce
import Cutover.Proofs.World.Onward
import Cutover.Proofs.World.Opening
import Cutover.Proofs.World.Restart

/-!
# How a run comes by its resources

A run is told of reports, a user asks for the resources in between, and fresh sessions take the run up. Each of
these does something about the resources or leaves them alone, and what it does the session's books tell: what
it keeps, how many fetches it counted and how the run is marked. Who asks for the resources gets those that are kept,
page by page or all of them, and only where none are kept is the service asked, once.

* `World.Serves`, `World.serves_kept`: **a session serves the resources that it keeps**, page by page and as a whole;
* `World.Does.reconciledNow`: what comes of asking for all of them;
* `Cause`, `Occasion`: what was done, and the worlds before and after;
* `World.Gathering`: **a run with all that is done about it**;
* `World.Ready`: a session whose run can go on;
* `World.Does.reported`, `World.Does.requested`, `World.Inherits.takesOver`: **what each of these does about the
  resources**.
-/

namespace Cutover

/-! ## All resources -/

namespace Surroundings

variable {S : Surroundings} {c : Core} {s : Scene}

/-- Outside of a transition the resources are fetched behind the gate of the state. -/
theorem guards_fetch (S : Surroundings) : S.Guards (Op.guarded .state Reconcile.fetch)
    (fun c => c.session.fetchGate = {} ∧ ∀ d e, S.grants d e) (fun k c => c.fetch k.answer) fun _ => [] :=
  ⟨_, rfl, fun c s hmay => S.does_fetch c s hmay.1⟩

/-- A fetch that the user asked for leaves the core of a fetch, however it ends. -/
theorem alone_reconcileNow {Q : Except Exit (List Resource) → Scene → Prop} (h : S.At c [] s)
    (hwhole : c.session.isBare = false) (hfetch : c.session.fetchGate = {}) (hgrants : ∀ d e, S.grants d e)
    (hfree : s.site.session.stateGate = {})
    (hQ : ∀ k s', S.Suits c k → S.At (c.fetch k.answer).core [] s' → s'.site.session.stateGate = {} →
      Q ((c.fetch k.answer).result.mapError .fault) s') : Conduct.reconcileNow.Meets S.alone Q s := by
  have hbare : s.site.session.isBare = false := (h.read Session.isBare fun _ => rfl).trans hwhole
  rw [Conduct.reconcileNow, Op.meets_rescue, Control.reconcile, Op.meets_bind]
  refine alone_session ?_
  rw [Op.after_ok, hbare]
  refine alone_guarded S.guards_fetch h ⟨hfetch, hgrants⟩ hfree fun k s' hk h' hfree' _ => ?_
  have h' : S.At (c.fetch k.answer).core [] s' := by
    cases hr : (c.fetch k.answer).result <;> (rw [hr] at h'; exact h')
  have hdone := hQ k s' hk h' hfree'
  cases hr : (c.fetch k.answer).result with
  | ok items =>
    rw [hr] at hdone
    exact Op.rescued_ok.mpr hdone
  | error f =>
    rw [hr] at hdone
    by_cases hf : ∃ g, f = .client (.service g)
    · -- A failure that is told leaves the core as it is, and is passed on.
      obtain ⟨g, rfl⟩ := hf
      refine Op.rescued_service.mpr ?_
      dsimp only
      split
      · have htold : (Op.alarm (.text g.message)).Meets S.behind
            (fun r s'' => r = .ok () ∧ S.At (c.fetch k.answer).core [] s'') s' :=
          meets_alarm h' fun s'' h'' => ⟨rfl, h''⟩
        refine Op.meets_bind.mpr ((meets_alone htold).mono ?_)
        rintro _ s'' ⟨⟨rfl, h''⟩, hsteady, -⟩
        have hdone' := hQ k s'' hk h'' (hsteady.trans hfree')
        rw [hr] at hdone'
        exact hdone'
      · exact hdone
    · rw [not_exists] at hf
      exact (Op.rescued_other hf).mpr hdone

end Surroundings

namespace World

variable {n : Nat} {w w' : World} {r : Except Exit Result} {items : List Resource}

/-- What a session holds of the resources. -/
def holding (w : World) (n : Nat) : Holding := (w.site n).core.holding

theorem meets_reconcileNow (hw : w.Rests n) (hwhole : (w.session n).isBare = false) {S : Surroundings}
    (hgrants : ∀ d e, S.grants d e) (hwithin : S.within w.now) :
    WholeAction.reconcileNow.op.Meets S.alone (fun r s' => ∃ k, S.Suits (w.site n).core k ∧
      r = (((w.site n).core.fetch k.answer).result.map Result.resources).mapError .fault ∧
      S.At ((w.site n).core.fetch k.answer).core [] s' ∧ s'.site.session.stateGate = {}) ⟨w.site n, [], []⟩ := by
  refine Op.meets_map.mpr (Surroundings.alone_reconcileNow ⟨rfl, rfl, hwithin⟩ hwhole hw.fetchGate hgrants
    hw.stateGate fun k s' hk h' hfree => ⟨k, hk, ?_, h', hfree⟩)
  cases ((w.site n).core.fetch k.answer).result <;> rfl

/-- **A user who asks for the resources gets what a fetch gives**, and nothing else comes of it. -/
theorem Does.reconciledNow {A : Message → Outcome → Prop} (h : Does n WholeAction.reconcileNow.op w w' r)
    (hw : w.Rests n) (hwhole : (w.session n).isBare = false) (hsome : ∃ o, A Call.getResources.message o)
    (hreplies : ∀ m, w.script.Replies m fun l => A m l.outcome) :
    ∃ k, (spanning w w' A hsome).Suits (w.site n).core k ∧
      Came n ((w.site n).core.fetch k.answer) .resources (fun _ => []) w w' r := by
  have hcan : w.CanDo WholeAction.reconcileNow.op ⟨w.site n, [], []⟩ := canDo_of_boundless
    (meets_reconcileNow hw hwhole (fun _ _ => trivial) trivial)
  obtain ⟨p, forked, ⟨k, hk, hr, hat, hfree⟩, hserved, -, hbeside⟩ :=
    h.spec (S := spanning w w' A hsome) hw.known rfl hcan (fun _ hx hx' => ⟨hx, hx'⟩)
      (Answers.bears hreplies fun _ _ h => h)
      (meets_reconcileNow hw hwhole (fun _ _ => trivial) ⟨Int.le_refl _, h.now_le hw.known rfl hcan⟩)
  refine ⟨k, hk, hr, hat.core, hfree, hbeside.length, hbeside.now, ?_⟩
  have hpublished : p = [] := hat.published
  rw [hpublished] at hserved
  have hgiven : Surroundings.given (fun _ => []) ((w.site n).core.fetch k.answer).result = [] := by
    cases ((w.site n).core.fetch k.answer).result <;> rfl
  rw [hgiven]
  exact hserved

/-- **A session shows the pages of a list**, whichever a user asks for. -/
def ShowsPages (n : Nat) (w : World) (items : List Resource) : Prop :=
  ∀ number size : Value, ∃ w', Does n (WholeAction.page number size).op w w'
    (((pageOf items (w.session n).pageSize number size).map Result.page).mapError .fault)

theorem showsPages (hn : n < w.sessions.length) : ShowsPages n w ((w.session n).resources.getD []) := by
  intro number size
  have hmeets : (WholeAction.page number size).op.Meets atOnce (fun r _ => r =
      ((pageOf ((w.session n).resources.getD []) (w.session n).pageSize number size).map Result.page).mapError
        .fault) (w.site n) := by
    refine Op.meets_map.mpr (Op.meets_bind.mpr (atOnce_session ?_))
    refine Op.meets_ofExcept.mpr ?_
    show (Except.mapError Exit.fault (pageOf ((w.session n).resources.getD []) (w.session n).pageSize number size)).map
      _ = _
    cases pageOf ((w.session n).resources.getD []) (w.session n).pageSize number size <;> rfl
  obtain ⟨r, x, rfl, hdoes⟩ := does_atOnce hn hmeets
  exact ⟨_, hdoes⟩

/-- **A session serves a list of resources**: each of its pages, which hold all of it and nothing else, and all of
it at once without a request. -/
structure Serves (n : Nat) (w : World) (items : List Resource) : Prop where
  pages : ShowsPages n w items
  covers : ∀ (size : Int), 1 ≤ size → ∀ x, x ∈ items ↔ ∃ (number : Int) (page : Page) (w' : World),
    Does n (WholeAction.page (.whole number) (.whole size)).op w w' (.ok (.page page)) ∧ x ∈ page.items
  whole : ∃ w', Does n WholeAction.reconcileNow.op w w' (.ok (.resources items)) ∧ w'.requests = w.requests

theorem ShowsPages.covers (hpages : ShowsPages n w items) {size : Int} (hsize : 1 ≤ size) (x : Resource) :
    x ∈ items ↔ ∃ (number : Int) (page : Page) (w' : World),
      Does n (WholeAction.page (.whole number) (.whole size)).op w w' (.ok (.page page)) ∧ x ∈ page.items := by
  rw [pageOf_covers items (w.session n).pageSize hsize x]
  constructor
  · rintro ⟨number, page, hpage, hx⟩
    obtain ⟨w', hdoes⟩ := hpages (.whole number) (.whole size)
    rw [hpage] at hdoes
    exact ⟨number, page, w', hdoes, hx⟩
  · rintro ⟨number, page, w', hdoes, hx⟩
    obtain ⟨w'', hdoes'⟩ := hpages (.whole number) (.whole size)
    have hresult := (hdoes.unique hdoes').2
    cases hpage : pageOf items (w.session n).pageSize (.whole number) (.whole size) with
    | error f =>
      rw [hpage] at hresult
      cases hresult
    | ok page' =>
      rw [hpage] at hresult
      cases hresult
      exact ⟨number, page, hpage, hx⟩

/-- **A session serves the resources that it keeps.** -/
theorem serves_kept (hw : w.Rests n) (hwhole : (w.session n).isBare = false)
    (hkept : (w.session n).resources = some items) : Serves n w items := by
  have hpages : ShowsPages n w items := by
    have hshows := showsPages hw.known
    rw [hkept] at hshows
    exact hshows
  refine ⟨hpages, fun size hsize x => hpages.covers hsize x, ?_⟩
  obtain ⟨w', r, hdoes, -⟩ := does_ended (s := ⟨w.site n, [], []⟩) hw.known rfl
    (canDo_of_boundless (meets_reconcileNow hw hwhole (fun _ _ => trivial) trivial))
  obtain ⟨k, -, hcame⟩ := hdoes.reconciledNow (A := fun _ _ => True) hw hwhole ⟨.unreachable "" "", trivial⟩
    fun _ => .of_forall fun _ => trivial
  have hfetch : (w.site n).core.fetch k.answer = (w.site n).core.giving items := by
    have hkept : (w.site n).core.session.resources = some items := hkept
    rw [Core.fetch, hkept]
  have hresult : r = .ok (.resources items) := by
    rw [hcame.result, hfetch]
    rfl
  have hclosed := Asking.closed_keeping items w.requests
  have hkeeps := hdoes.upheld hw.known hclosed.same
    (Op.upholds_map hclosed.reconcileNow fun _ _ => trivial) ⟨hkept, rfl⟩
  exact ⟨w', hresult ▸ hdoes, hkeeps.2⟩

end World

/-! ## What is done about a run -/

/-- What is done about a run, with the answer the service gives to a request for the resources. -/
inductive Cause where
  /-- A report is applied. -/
  | report (report : Status) (answer : Outcome)
  /-- The user asks for the resources. -/
  | request (answer : Outcome)
  /-- A fresh session takes the run up. -/
  | succession

namespace Cause

/-- A report is applied. -/
def isReport : Cause → Bool
  | report .. => true
  | _ => false

/-- The user asks for the resources. -/
def isRequest : Cause → Bool
  | request _ => true
  | _ => false

/-- A fresh session takes the run up. -/
def isSuccession : Cause → Bool
  | succession => true
  | _ => false

/-- The answer to a request for the resources, if there is one. -/
def answer? : Cause → Option Outcome
  | report _ answer => some answer
  | request answer => some answer
  | succession => none

/-- Every fetch succeeds. -/
def Yields (c : Cause) : Prop := ∀ o, c.answer? = some o → ∃ items, o.resources = .ok items

/-- A report is one that the service can make. -/
def IsPlain : Cause → Prop
  | .report r _ => r.Plain
  | _ => True

end Cause

/-- **What was done about a run**: by which session, why, and what came of it. -/
structure Occasion where
  session : Nat
  cause : Cause
  before : World
  after : World
  result : Except Exit Result

namespace Occasion

/-- The phase of the run before. -/
def phaseBefore (e : Occasion) : Phase := (e.before.session e.session).state.phase

/-- The phase of the run after. -/
def phaseAfter (e : Occasion) : Phase := (e.after.session e.session).state.phase

/-- The service was asked for the resources, once. -/
def Asks (e : Occasion) : Prop := e.after.requests = e.before.requests + 1

/-- The service was not asked for the resources. -/
def IsSilent (e : Occasion) : Prop := e.after.requests = e.before.requests

/-- **A fetch has brought these resources.** -/
def Brings (e : Occasion) (items : List Resource) : Prop :=
  e.Asks ∧ ∃ o, e.cause.answer? = some o ∧ o.resources = .ok items

/-- A fetch has succeeded. -/
def Succeeds (e : Occasion) : Prop := ∃ items, e.Brings items

/-- A report has taken the run to a phase. -/
def Enters (e : Occasion) (p : Phase) : Prop :=
  e.cause.isReport = true ∧ e.phaseBefore ≠ e.phaseAfter ∧ e.phaseAfter = p

/-- **The run comes to a point where its resources are to be there.** -/
def Turns (e : Occasion) : Prop := e.Enters .foreignKeys ∨ e.Enters .complete

/-- A stop hook fails. -/
def hookFails (e : Occasion) : Bool := (e.before.session e.session).hooks.any StopHook.fails

variable {e : Occasion}

theorem Asks.not_silent (h : e.Asks) : ¬e.IsSilent := fun hsilent => by
  rw [Asks, hsilent] at h
  omega

/-- A run that comes to such a point calls for its resources, if no stop hook fails. -/
theorem callsFor_iff (hreport : e.cause.isReport = true) :
    callsFor (e.before.session e.session).hooks e.phaseBefore e.phaseAfter = true ↔
      e.Enters .foreignKeys ∨ e.Enters .complete ∧ e.hookFails = false := by
  simp only [callsFor, Enters, hreport, hookFails, true_and, ne_eq, Bool.and_eq_true, decide_eq_true_eq,
    Bool.or_eq_true, Bool.not_eq_true', and_or_left, and_assoc]

end Occasion

namespace World

variable {n m k : Nat} {w w' u u' v v' : World} {r : Except Exit Result} {report : Status} {answer : Outcome}
variable {delay : Int} {log : List Occasion} {mode : Mode} {transfer : Transfer}

/-- **What may go on in between**: anything that leaves the run, its record and its resources alone, and asks for
none. Stop hooks may be added. -/
structure Untroubled (n : Nat) (w w' : World) : Prop extends Undisturbed n w w' where
  isBare : (w'.session n).isBare = (w.session n).isBare
  resources : (w'.session n).resources = (w.session n).resources
  requests : w'.requests = w.requests

/-- **A fresh session that succeeds another** and has everything but the resources. -/
structure Inherits (k m : Nat) (w w' : World) : Prop extends Succeeds k m w w' where
  isBare : (w'.session k).isBare = false
  resources : (w'.session k).resources = none
  requests : w'.requests = w.requests

/-- **A run with all that is done about it**: reports are applied, the user asks for the resources, and fresh
sessions take the run up where memory and store agree. -/
inductive Gathering (n : Nat) (w : World) : List Occasion → Nat → World → Prop
  | here : Gathering n w [] n w
  | reports {m : Nat} {u u' : World} {log : List Occasion} {report : Status} {answer : Outcome} {delay : Int}
    {r : Except Exit Result} (gathering : Gathering n w log m u)
    (does : Does m (RunAction.apply report).op (u.answering ⟨answer, delay⟩) u' r) :
    Gathering n w (log ++ [⟨m, .report report answer, u, u', r⟩]) m u'
  | requests {m : Nat} {u u' : World} {log : List Occasion} {answer : Outcome} {delay : Int}
    {r : Except Exit Result} (gathering : Gathering n w log m u)
    (does : Does m WholeAction.reconcileNow.op (u.answering ⟨answer, delay⟩) u' r) :
    Gathering n w (log ++ [⟨m, .request answer, u, u', r⟩]) m u'
  | passes {m : Nat} {u u' : World} {log : List Occasion} (gathering : Gathering n w log m u)
    (untroubled : Untroubled m u u') : Gathering n w log m u'
  | restarts {m k : Nat} {u v v' : World} {log : List Occasion} {x : Result} (gathering : Gathering n w log m u)
    (running : (u.session m).state.isRunning = true) (agrees : (u.site m).core.Agrees)
    (inherits : Inherits k m u v) (does : Does k WholeAction.begin.op v v' (.ok x)) :
    Gathering n w (log ++ [⟨k, .succession, v, v', .ok x⟩]) k v'

/-- **A session whose run can go on**: it is at rest, has all its parts and is in a sound state. -/
structure Ready (n : Nat) (w : World) : Prop where
  rests : w.Rests n
  sound : (w.session n).state.Sound
  isBare : (w.session n).isBare = false

theorem Undisturbed.ready (h : Undisturbed n w w') (hbare : (w'.session n).isBare = (w.session n).isBare)
    (hw : Ready n w) : Ready n w' :=
  ⟨h.rests, h.state.symm ▸ hw.sound, hbare.trans hw.isBare⟩

/-! ## What a report does -/

/-- **What a report does about the resources.** -/
structure Reported (n : Nat) (answer : Outcome) (w w' : World) (r : Except Exit Result) : Prop where
  ready : Ready n w'
  leads : (w.session n).state.phase.Leads (w'.session n).state.phase
  holding : w'.holding n =
    if callsFor (w.session n).hooks (w.session n).state.phase (w'.session n).state.phase then
      (w.holding n).reconciled answer
    else w.holding n
  requests : w'.requests + (w.holding n).counted = w.requests + (w'.holding n).counted
  unchanged : ∀ t : Transition, r = .ok (.transition t) → t.changed = false →
    (w'.session n).state.phase = (w.session n).state.phase

theorem Does.reported (h : Does n (RunAction.apply report).op (w.answering ⟨answer, delay⟩) w' r)
    (hw : Ready n w) : Reported n answer w w' r := by
  obtain ⟨k, hk, hcame⟩ := h.apply (A := fun m o => m = Call.getResources.message → o = answer)
    (hw.rests.answering _) ⟨answer, fun _ => rfl⟩ (replies_answering w ⟨answer, delay⟩)
  have hcore : (w'.site n).core = ((w.site n).core.apply k report).core := hcame.core
  have hkept := Core.kept_apply k report (w.site n).core
  have hstate : (w'.session n).state = ((w.site n).core.apply k report).core.session.state :=
    congrArg (fun c : Core => c.session.state) hcore
  have hbare : (w'.session n).isBare = (w.session n).isBare :=
    (congrArg (fun c : Core => c.session.isBare) hcore).trans hkept.isBare
  refine ⟨⟨hcame.rests (hw.rests.answering _) hkept.toStays, ?_, hbare.trans hw.isBare⟩, ?_, ?_, ?_, ?_⟩
  · rw [hstate]
    exact Core.sound_apply hw.sound
  · rw [hstate]
    exact Core.leads_apply (c := (w.site n).core) hw.sound
  · have hholding := Core.holding_apply (c := (w.site n).core) hw.sound hw.isBare k report
    rw [hk.answer rfl, ← hcore] at hholding
    exact hholding
  · have hdoes : Does n (Action.run (.apply report)).op (w.answering ⟨answer, delay⟩) w' r := h
    exact hdoes.requests_action hw.rests.known rfl rfl
  · rintro t rfl hchanged
    have hsame := Core.core_of_unchanged (c := (w.site n).core) hw.sound hcame.result_ok hchanged
    rw [hstate]
    exact congrArg (fun c : Core => c.session.state.phase) hsame

/-- The resources that a session keeps, its mark and the requests after a report are those of its books. -/
theorem holding_eq {h : Holding} (heq : w.holding n = h) : (w.session n).resources = h.kept ∧
    (w.session n).fetchCount = h.counted ∧ (w.session n).state.reconciled = h.mark :=
  ⟨congrArg Holding.kept heq, congrArg Holding.counted heq, congrArg Holding.mark heq⟩

/-- **There is nothing else that a report can do about the resources**: it leaves them alone, it finds that they
are kept, a fetch brings them, or a fetch fails. -/
theorem Reported.cases {P : Prop} (h : Reported n answer w w' r)
    (quiet : (callsFor (w.session n).hooks (w.session n).state.phase (w'.session n).state.phase = true →
        (w.session n).state.isReconciled = true) →
      (w'.session n).resources = (w.session n).resources →
      (w'.session n).state.isReconciled = (w.session n).state.isReconciled → w'.requests = w.requests → P)
    (finds : ∀ items,
      callsFor (w.session n).hooks (w.session n).state.phase (w'.session n).state.phase = true →
      (w.session n).state.isReconciled = false → (w.session n).resources = some items →
      (w'.session n).resources = some items → (w'.session n).state.isReconciled = true →
      w'.requests = w.requests → P)
    (brings : ∀ items, answer.resources = .ok items →
      callsFor (w.session n).hooks (w.session n).state.phase (w'.session n).state.phase = true →
      (w.session n).state.isReconciled = false → (w.session n).resources = none →
      (w'.session n).resources = some items → (w'.session n).state.isReconciled = true →
      w'.requests = w.requests + 1 → P)
    (lacks : ∀ f, answer.resources = .error f →
      callsFor (w.session n).hooks (w.session n).state.phase (w'.session n).state.phase = true →
      (w.session n).state.isReconciled = false → (w.session n).resources = none →
      (w'.session n).resources = none → (w'.session n).state.isReconciled = false →
      w'.requests = w.requests + 1 → P) : P := by
  have hrequests : w'.requests + (w.session n).fetchCount = w.requests + (w'.session n).fetchCount := h.requests
  have hsame : w'.holding n = w.holding n →
      (callsFor (w.session n).hooks (w.session n).state.phase (w'.session n).state.phase = true →
        (w.session n).state.isReconciled = true) → P := by
    intro hholding hcalls
    obtain ⟨hkept, hcounted, hmark⟩ := holding_eq hholding
    have hcounted : (w'.session n).fetchCount = (w.session n).fetchCount := hcounted
    exact quiet hcalls hkept (congrArg Value.isTruthy hmark) (by omega)
  cases hcalls : callsFor (w.session n).hooks (w.session n).state.phase (w'.session n).state.phase with
  | false =>
    have hholding := h.holding
    rw [hcalls] at hholding
    exact hsame hholding fun hcalls' => nomatch hcalls.symm.trans hcalls'
  | true =>
    have hholding : w'.holding n = (w.holding n).reconciled answer := by
      rw [h.holding, hcalls]
      rfl
    cases hmark : (w.session n).state.isReconciled with
    | true =>
      rw [Holding.reconciled_marked (h := w.holding n) hmark] at hholding
      exact hsame hholding fun _ => hmark
    | false =>
      cases hkept : (w.session n).resources with
      | some items =>
        rw [Holding.reconciled_some (h := w.holding n) hmark hkept] at hholding
        obtain ⟨hkept', hcounted, hmark'⟩ := holding_eq hholding
        have hcounted : (w'.session n).fetchCount = (w.session n).fetchCount := hcounted
        exact finds items hcalls hmark hkept (hkept'.trans hkept) (congrArg Value.isTruthy hmark') (by omega)
      | none =>
        cases ho : answer.resources with
        | ok items =>
          rw [Holding.reconciled_ok (h := w.holding n) hmark hkept ho] at hholding
          obtain ⟨hkept', hcounted, hmark'⟩ := holding_eq hholding
          have hcounted : (w'.session n).fetchCount = (w.session n).fetchCount + 1 := hcounted
          exact brings items ho hcalls hmark hkept hkept' (congrArg Value.isTruthy hmark') (by omega)
        | error f =>
          rw [Holding.reconciled_error (h := w.holding n) hmark hkept ho] at hholding
          obtain ⟨hkept', hcounted, hmark'⟩ := holding_eq hholding
          have hcounted : (w'.session n).fetchCount = (w.session n).fetchCount + 1 := hcounted
          exact lacks f ho hcalls hmark hkept (hkept'.trans hkept)
            ((congrArg Value.isTruthy hmark').trans hmark) (by omega)

/-! ## What a request of the user does -/

/-- **What a request of the user does about the resources.** -/
structure Requested (n : Nat) (answer : Outcome) (w w' : World) : Prop where
  undisturbed : Undisturbed n w w'
  isBare : (w'.session n).isBare = (w.session n).isBare
  holding : w'.holding n = (w.holding n).fetched answer
  requests : w'.requests + (w.holding n).counted = w.requests + (w'.holding n).counted

theorem Does.requested (h : Does n WholeAction.reconcileNow.op (w.answering ⟨answer, delay⟩) w' r)
    (hw : Ready n w) : Requested n answer w w' := by
  obtain ⟨k, hk, hcame⟩ := h.reconciledNow (A := fun m o => m = Call.getResources.message → o = answer)
    (hw.rests.answering _) hw.isBare ⟨answer, fun _ => rfl⟩ (replies_answering w ⟨answer, delay⟩)
  obtain rfl : k.answer = answer := hk.answer rfl
  have hcore : (w'.site n).core = ((w.site n).core.fetch k.answer).core := hcame.core
  have hkept := Core.kept_fetch k.answer (w.site n).core
  have hstorage : w'.storage = w.storage :=
    (congrArg Core.storage hcore).trans (Core.storage_fetch k.answer (w.site n).core)
  refine ⟨⟨hcame.rests (hw.rests.answering _) hkept.toStays, ?_, ?_, ?_, ?_, ?_⟩, ?_, ?_, ?_⟩
  · exact (congrArg (fun c : Core => c.session.state) hcore).trans (Core.state_fetch k.answer (w.site n).core)
  · exact (congrArg (fun c : Core => c.session.context) hcore).trans hkept.context
  · exact (congrArg (fun c : Core => c.session.store) hcore).trans hkept.store
  · rw [hstorage]
  · rw [hstorage]
  · exact (congrArg (fun c : Core => c.session.isBare) hcore).trans hkept.isBare
  · have hholding := Core.holding_fetch k.answer (w.site n).core
    rw [← hcore] at hholding
    exact hholding
  · have hclosed := Asking.closed_ahead w.requests (w.session n).fetchCount
    have hahead : (w'.session n).fetchCount + w.requests = w'.requests + (w.session n).fetchCount :=
      h.upheld hw.rests.known hclosed.same (Op.upholds_map hclosed.reconcileNow fun _ _ => trivial)
        (Nat.add_comm _ _)
    show w'.requests + (w.session n).fetchCount = w.requests + (w'.session n).fetchCount
    omega

/-- A fetch that a user asks for and that succeeds gives the resources that are kept, or brings them. -/
theorem Requested.cases {items : List Resource} (h : Requested n answer w w')
    (ho : answer.resources = .ok items) :
    (∃ old, (w.session n).resources = some old ∧ (w'.session n).resources = some old ∧
        w'.requests = w.requests) ∨
      (w.session n).resources = none ∧ (w'.session n).resources = some items ∧
        w'.requests = w.requests + 1 := by
  have hrequests : w'.requests + (w.session n).fetchCount = w.requests + (w'.session n).fetchCount := h.requests
  have hholding := h.holding
  cases hkept : (w.session n).resources with
  | some old =>
    rw [Holding.fetched_some (h := w.holding n) hkept] at hholding
    obtain ⟨hkept', hcounted, -⟩ := holding_eq hholding
    have hcounted : (w'.session n).fetchCount = (w.session n).fetchCount := hcounted
    exact .inl ⟨old, rfl, hkept'.trans hkept, by omega⟩
  | none =>
    rw [Holding.fetched_ok (h := w.holding n) hkept ho] at hholding
    obtain ⟨hkept', hcounted, -⟩ := holding_eq hholding
    have hcounted : (w'.session n).fetchCount = (w.session n).fetchCount + 1 := hcounted
    exact .inr ⟨rfl, hkept', by omega⟩

/-! ## What a fresh session does -/

theorem Does.begin_silent (h : Does n WholeAction.begin.op w w' r) (hn : n < w.sessions.length) :
    w'.requests + (w.session n).fetchCount = w.requests + (w'.session n).fetchCount := by
  have hclosed := Asking.closed_ahead w.requests (w.session n).fetchCount
  have hahead : (w'.session n).fetchCount + w.requests = w'.requests + (w.session n).fetchCount :=
    h.upheld hn hclosed.same (hclosed.ofTouches WholeAction.begin.touches) (Nat.add_comm _ _)
  omega

/-- **A fresh session keeps no resources of a run that it takes up**, and asks for none. -/
theorem Inherits.takesOver {x : Result} (h : Inherits k m w v) (hlive : (w.site m).core.Live)
    (hrunning : (w.session m).state.isRunning = true) (hagrees : (w.site m).core.Agrees)
    (hdoes : Does k WholeAction.begin.op v v' (.ok x)) :
    (v'.session k).isBare = false ∧ (v'.session k).resources = none ∧ v'.requests = w.requests := by
  have hstored : v.storage.table (v.session k).store = (w.site m).core.record.encode := by
    rw [h.stored]
    exact hagrees.trans (if_pos hrunning)
  obtain ⟨-, -, -, summary, wizard, task, hcore⟩ :=
    hdoes.takesUp ⟨h.rests.known, h.rests.stateGate, h.pollTask⟩ hlive.plain hrunning hstored
  have hbare : (v'.session k).isBare = (v.session k).isBare :=
    congrArg (fun c : Core => c.session.isBare) hcore
  have hresources : (v'.session k).resources = (v.session k).resources :=
    congrArg (fun c : Core => c.session.resources) hcore
  have hcounted : (v'.session k).fetchCount = (v.session k).fetchCount :=
    congrArg (fun c : Core => c.session.fetchCount) hcore
  have hsilent := hdoes.begin_silent h.rests.known
  refine ⟨hbare.trans h.isBare, hresources.trans h.resources, ?_⟩
  rw [← h.requests]
  omega

/-- A session that has just begun a run is in the state of a run that was launched. -/
theorem Begun.launched (h : Begun mode transfer n w) : (w.session n).state = .launched mode := by
  cases h with
  | @intro w₀ _ shards instances x rests store _ _ does =>
    have hcame := does.beginRun rests
    cases hr : ((w₀.site n).core.begin mode transfer shards instances).result with
    | error f =>
      have hresult := hcame.result
      rw [hr] at hresult
      cases hresult
    | ok s =>
      obtain ⟨hsession, -⟩ := Core.launched_of_begin store hr
      rw [← hcame.core] at hsession
      exact congrArg Session.state hsession

theorem Begun.ready (h : Begun mode transfer n w) (hwhole : (w.session n).isBare = false) : Ready n w :=
  have hunderway : Underway false mode transfer [] n w := h.underway
  ⟨hunderway.rests, hunderway.live.plain.state.sound, hwhole⟩

end World

end Cutover
