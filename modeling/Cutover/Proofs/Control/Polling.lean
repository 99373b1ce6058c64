import Cutover.Proofs.Control.Holding
import Cutover.Proofs.Control.Viewing
import Cutover.Proofs.World.Doing

/-!
# Polling

A poll that is done alone counts itself, reads the status and applies it. Whatever comes of that, the loop goes
on: a fault is counted and reported, and the run is left as it was.

* `Outcome.status`: the status that an answer holds, or the fault that it makes;
* `Core.poll`: **what a poll does**, as a function on the core;
* `Surroundings.alone_onceOrReport`: the poll of the loop does that;
* `Polling.meets_onceOrReport`: **one notice for a status that could not be read**.
-/

namespace Cutover

/-- The status that an answer to the request for it holds, or the fault that it makes. -/
def Outcome.status (o : Outcome) : Except Fault Status :=
  match o.received .getStatus with
  | .ok a => a.toStatus.mapError fun f => .client (.service f)
  | .error f => .error f

namespace Core

/-- The core while a status is being applied, or is not. -/
def marking (applying : Bool) (c : Core) : Core := c.onSession fun s => { s with applying }

/-- The core once a failure was counted. -/
def missed (c : Core) : Core := c.onSession fun s => { s with failureCount := s.failureCount + 1 }

/-- The core once a poll was counted. -/
def polled (c : Core) : Core := c.onSession fun s => { s with pollCount := s.pollCount + 1 }

/-- A status report is applied by a poll. -/
def pollApply (k : Conditions) (report : Status) (c : Core) : Turn Transition :=
  ⟨((c.marking true).apply k report).result, ((c.marking true).apply k report).core.marking false⟩

/-- **What a poll does**: it is counted, and so is a failure; a status that was read is applied. -/
def poll (k : Conditions) (o : Outcome) (c : Core) : Core :=
  match o.status with
  | .error _ => c.polled.missed
  | .ok report =>
    match (c.polled.pollApply k report).result with
    | .ok _ => (c.polled.pollApply k report).core
    | .error _ => (c.polled.pollApply k report).core.missed

variable {c : Core} {k : Conditions} {o : Outcome} {report : Status} {f : Fault}

theorem kept_marking (applying : Bool) (c : Core) : c.Kept (c.marking applying) :=
  ⟨⟨rfl, rfl, rfl, rfl, rfl, .refl _⟩, rfl⟩

theorem kept_missed (c : Core) : c.Kept c.missed := ⟨⟨rfl, rfl, rfl, rfl, rfl, .refl _⟩, rfl⟩

theorem kept_polled (c : Core) : c.Kept c.polled := ⟨⟨rfl, rfl, rfl, rfl, rfl, .refl _⟩, rfl⟩

theorem kept_pollApply (k : Conditions) (report : Status) (c : Core) : c.Kept (c.pollApply k report).core :=
  (kept_marking true c).trans ((kept_apply k report _).trans (kept_marking false _))

/-- **A poll whose status cannot be read** counts itself and its failure, and leaves all else as it is. -/
theorem poll_error (h : o.status = .error f) : c.poll k o = c.polled.missed := by rw [poll, h]

theorem state_poll (h : o.status = .ok report) :
    (c.poll k o).session.state = ((c.polled.marking true).apply k report).core.session.state := by
  rw [poll, h]
  dsimp only
  split <;> rfl

/-- **A report fails a run exactly if** it says so in an active phase. -/
theorem failed_apply (hsound : c.session.state.Sound) :
    (c.apply k report).core.session.state.phase = .failed ↔
      c.session.state.phase = .failed ∨ c.session.state.phase.isActive = true ∧ report.isFailure = true := by
  have hstays : (c.session.state.phase.isActive = false ∨ report.isFailure = false) →
      (c.session.state.phase = .failed ↔
        c.session.state.phase = .failed ∨ c.session.state.phase.isActive = true ∧ report.isFailure = true) := by
    rintro (h | h) <;> simp [h]
  refine apply_cases (P := fun u => u.core.session.state.phase = .failed ↔ _) hsound ?idle ?failure ?refused ?same ?moves
  case idle => exact fun hactive => hstays (.inl hactive)
  case refused => exact fun _ hfailure _ _ => hstays (.inr hfailure)
  case same => exact fun _ hfailure _ _ _ => hstays (.inr hfailure)
  case failure =>
    intro hactive hfailure
    -- The run has failed even if a hook or the store breaks then.
    have hfailed : (c.failRun report.errorText).core.session.state.phase = .failed := by
      rw [state_failRun]
      rfl
    refine iff_of_true (core_andThen (P := fun d => d.session.state.phase = .failed) hfailed fun _ _ => ?_)
      (.inr ⟨hactive, hfailure⟩)
    rw [core_concluded]
    exact hfailed
  case moves =>
    intro hactive hfailure a ha _
    obtain ⟨v, -, hstate⟩ := state_moved (k := k) hactive ha
    obtain ⟨q, -, hcourse⟩ := RunState.Course.of_advance hactive ha
    have hphase : a.state.phase ≠ .failed := by
      rcases hcourse.isActive_or_complete hactive with h | h
      · intro hfailed
        rw [hfailed] at h
        cases h
      · rw [h]
        exact Phase.noConfusion
    have hbefore : c.session.state.phase ≠ .failed := by
      intro hfailed
      rw [hfailed] at hactive
      cases hactive
    rw [hstate]
    have hafter : ((if a.state.phase = .complete then a.state.stopped else a.state).marked v).phase = a.state.phase := by
      split <;> rfl
    rw [hafter]
    simp [hphase, hbefore, hfailure]

/-- **A poll fails a run exactly if** it reads in an active phase that the run has failed. -/
theorem failed_poll (hsound : c.session.state.Sound) :
    (c.poll k o).session.state.phase = .failed ↔ c.session.state.phase = .failed ∨
      c.session.state.phase.isActive = true ∧ ∃ report, o.status = .ok report ∧ report.isFailure = true := by
  cases hs : o.status with
  | error f => simp [poll_error hs, missed, polled, onSession]
  | ok report =>
    rw [state_poll hs, failed_apply (c := c.polled.marking true) hsound]
    simp [marking, polled, onSession]

theorem sound_poll (hsound : c.session.state.Sound) : (c.poll k o).session.state.Sound := by
  cases hs : o.status with
  | error f =>
    rw [poll_error hs]
    exact hsound
  | ok report =>
    rw [state_poll hs]
    exact sound_apply (c := c.polled.marking true) hsound

end Core

/-- All that is left of a status that could not be read is that it was counted. -/
theorem Site.counted {x y : Site} (h : y.core = x.core.polled.missed) :
    y.session.state = x.session.state ∧ y.storage = x.storage ∧ y.session.resources = x.session.resources ∧
      y.session.pollCount = x.session.pollCount + 1 ∧ y.session.failureCount = x.session.failureCount + 1 :=
  ⟨congrArg (fun c : Core => c.session.state) h, congrArg Core.storage h,
    congrArg (fun c : Core => c.session.resources) h, congrArg (fun c : Core => c.session.pollCount) h,
    congrArg (fun c : Core => c.session.failureCount) h⟩

namespace Surroundings

variable {S : Surroundings} {α : Type} {c : Core} {p : List (Option RunState)} {s : Scene}

/-! ## Reading the status -/

theorem after_status {σ : Type} {C : Contract σ} {x : σ} {Q : Except Exit Status → σ → Prop} {o : Outcome}
    (h : Q (o.status.mapError .fault) x) :
    Op.after C Q (fun a => Call.ofService a.toStatus) ((o.received .getStatus).mapError .fault) x := by
  unfold Outcome.status at h
  cases hr : o.received .getStatus with
  | error f =>
    rw [hr] at h
    exact h
  | ok a =>
    simp only [hr] at h
    simp only [Op.mapError_ok, Op.after_ok]
    cases hs : a.toStatus with
    | ok report =>
      rw [hs] at h
      exact h
    | error f =>
      rw [hs] at h
      exact h

theorem meets_readStatus {Q : Except Exit Status → Scene → Prop} (h : S.At c p s)
    (hQ : ∀ o s', S.answers Call.getStatus.message o → S.At c p s' → Q (o.status.mapError .fault) s') :
    Call.readStatus.Meets S.behind Q s :=
  Op.meets_bind.mpr (meets_send h rfl fun o s' ho h' => after_status (hQ o s' ho h'))

/-- The status is read. A fault of the call is counted and reported, and any other is passed on, as is a notice
that cannot be raised. -/
theorem meets_read {span : Nat} {Q : Except Exit (Option Status) → Scene → Prop} (h : S.At c p s)
    (hread : ∀ o report s', S.answers Call.getStatus.message o → o.status = .ok report → S.At c p s' →
      Q (.ok (some report)) s')
    (hmissed : ∀ o f s', S.answers Call.getStatus.message o → o.status = .error f → S.At c.missed p s' →
      Q (.ok none) s')
    (hother : ∀ o f d g s', S.answers Call.getStatus.message o → o.status = .error f → c.Kept d →
      (S.Calm c → d = c) → S.At d p s' → Q (.error (.fault g)) s') :
    (Poll.read span).Meets S.behind Q s := by
  refine Op.meets_rescue.mpr (Op.meets_map.mpr (meets_readStatus h fun o s' ho h' => ?_))
  cases hs : o.status with
  | ok report => exact hread o report s' ho hs h'
  | error f =>
    by_cases hf : ∃ g, f = .client (.service g)
    · obtain ⟨g, rfl⟩ := hf
      refine Op.meets_bind.mpr (meets_modify h' rfl rfl rfl fun s₁ h₁ => ?_)
      refine Op.meets_bind.mpr (meets_tag h₁ fun s₂ h₂ => Op.meets_bind.mpr (meets_announce h₂ fun x s₃ hx h₃ => ?_))
      cases x with
      | ok _ => exact hmissed o _ s₃ ho hs h₃
      | error e => exact hother o _ _ e s₃ ho hs c.kept_missed (fun hcalm => by cases hx.calm hcalm) h₃
    · rw [not_exists] at hf
      exact (Op.rescued_other hf).mpr (hother o f c f s' ho hs (.refl c) (fun _ => rfl) h')

/-! ## The poll -/

theorem alone_applyMarked {report : Status} {Q : Except Exit Unit → Scene → Prop} (h : S.At c [] s)
    (hfree : s.site.session.stateGate = {}) (hgate : c.session.fetchGate = {}) (hgrants : ∀ d e, S.grants d e)
    (hQ : ∀ k q s', S.Suits c k → S.At (c.pollApply k report).core q s' → s'.site.session.stateGate = {} →
      Q (((c.pollApply k report).result.map fun _ => ()).mapError .fault) s') :
    (Poll.applyMarked report).Meets S.alone Q s := by
  refine Op.meets_bind.mpr (alone_modify h rfl rfl rfl fun s₁ h₁ hsteady => ?_)
  refine Op.meets_ensure.mpr (Op.meets_bind.mpr ?_)
  refine alone_guarded (World.guards_applying S report) (c := c.marking true) h₁ ⟨hgate, hgrants⟩
    (hsteady.1.trans hfree) fun k s₂ hk h₂ hopen _ => ?_
  generalize given _ _ = q at h₂
  -- The mark is taken away however the report comes out.
  have hdone : ∀ s₃, S.At (((c.marking true).apply k report).core.marking false) q s₃ → Steady s₂ s₃ →
      Q (((c.pollApply k report).result.map fun _ => ()).mapError .fault) s₃ := fun s₃ h₃ hsteady₃ =>
    hQ k q s₃ (hk.of_kept (c.kept_marking true)) h₃ (hsteady₃.1.trans hopen)
  rw [Core.pollApply] at hdone
  cases hr : ((c.marking true).apply k report).result with
  | ok t =>
    rw [hr] at hdone
    exact alone_update h₂ rfl rfl (congrArg (Core.marking false) h₂.core) rfl hdone
  | error f =>
    rw [hr] at hdone
    exact alone_update h₂ rfl rfl (congrArg (Core.marking false) h₂.core) rfl hdone

/-- What a poll comes to that is done alone: nobody is at the gate afterwards, and where the status could not be
read the readers hear nothing. -/
structure Polled (S : Surroundings) (c : Core) (k : Conditions) (o : Outcome) (d : Core)
    (q : List (Option RunState)) (s : Scene) : Prop where
  suits : S.Suits c k
  answer : S.answers Call.getStatus.message o
  kept : c.Kept d
  shown : S.At d q s
  silent : ∀ f, o.status = .error f → q = []
  free : s.site.session.stateGate = {}

theorem Polled.steady {k : Conditions} {o : Outcome} {d : Core} {q : List (Option RunState)} {s' : Scene}
    (h : Polled S c k o d q s) (hat : S.At d q s') (hsteady : Steady s s') : Polled S c k o d q s' :=
  { h with shown := hat, free := hsteady.1.trans h.free }

variable (hfree : s.site.session.stateGate = {}) (hgate : c.session.fetchGate = {}) (hgrants : ∀ d e, S.grants d e)
include hfree hgate hgrants

/-- A poll comes out well and has done what a poll does, or ends by a fault that is still to be counted. -/
theorem alone_once {Q : Except Exit Unit → Scene → Prop} (h : S.At c [] s)
    (hdone : ∀ k o q s', Polled S c k o (c.poll k o) q s' → Q (.ok ()) s')
    (hfailed : ∀ k o d q f s', Polled S c k o d q s' → (S.Calm c → d.missed = c.poll k o) →
      Q (.error (.fault f)) s') :
    Poll.once.Meets S.alone Q s := by
  refine Op.meets_bind.mpr (alone_modify h rfl rfl rfl fun s₁ h₁ hsteady₁ => ?_)
  refine Op.meets_bind.mpr (alone_session (alone_traced (c := c.polled) h₁ fun id s₂ h₂ hsteady₂ => ?_))
  have hfree₂ : s₂.site.session.stateGate = {} := hsteady₂.1.trans (hsteady₁.1.trans hfree)
  obtain ⟨k₀, hk₀⟩ := h.some_suits
  refine Op.meets_bind.mpr (alone_of_behind (meets_read h₂
    (Q := fun r s' => (∃ o report, S.answers Call.getStatus.message o ∧ o.status = .ok report ∧
        S.At c.polled [] s' ∧ r = .ok (some report)) ∨
      ∃ o f, S.answers Call.getStatus.message o ∧ o.status = .error f ∧
        (S.At c.polled.missed [] s' ∧ r = .ok none ∨
          ∃ d g, c.polled.Kept d ∧ (S.Calm c → d = c.polled) ∧ S.At d [] s' ∧ r = .error (.fault g)))
    ?read ?missed ?other) ?rest)
  case read => exact fun o report s' ho hs h' => .inl ⟨o, report, ho, hs, h', rfl⟩
  case missed => exact fun o f s' ho hs h' => .inr ⟨o, f, ho, hs, .inl ⟨h', rfl⟩⟩
  case other => exact fun o f d g s' ho hs hkept hcalm h' => .inr ⟨o, f, ho, hs, .inr ⟨d, g, hkept, hcalm, h', rfl⟩⟩
  case rest =>
    rintro r s₃ (⟨o, report, ho, hs, h₃, rfl⟩ | ⟨o, f, ho, hs, ⟨h₃, rfl⟩ | ⟨d, g, hkept, hcalm, h₃, rfl⟩⟩) hsteady₃
    · refine alone_applyMarked h₃ (hsteady₃.1.trans hfree₂) hgate hgrants fun k q s₄ hk h₄ hopen => ?_
      have hpolled : Polled S c k o (c.polled.pollApply k report).core q s₄ :=
        ⟨hk.of_kept c.kept_polled, ho, c.kept_polled.trans (Core.kept_pollApply ..), h₄,
          (fun f hf => by cases hs.symm.trans hf), hopen⟩
      have hpoll : c.poll k o = match (c.polled.pollApply k report).result with
          | .ok _ => (c.polled.pollApply k report).core
          | .error _ => (c.polled.pollApply k report).core.missed := by rw [Core.poll, hs]
      refine ⟨_, q, h₄, fun s₅ h₅ hsteady₅ => ?_⟩
      have hpolled₅ := hpolled.steady h₅ hsteady₅
      cases hr : (c.polled.pollApply k report).result with
      | ok t =>
        rw [hr] at hpoll
        exact hdone k o q s₅ (hpoll.symm ▸ hpolled₅)
      | error f =>
        rw [hr] at hpoll
        exact hfailed k o _ q f s₅ hpolled₅ fun _ => hpoll.symm
    · have hpolled : Polled S c k₀ o c.polled.missed [] s₃ :=
        ⟨hk₀, ho, c.kept_polled.trans (Core.kept_missed _), h₃, fun _ _ => rfl, hsteady₃.1.trans hfree₂⟩
      refine ⟨_, [], h₃, fun s₄ h₄ hsteady₄ => hdone k₀ o [] s₄ ?_⟩
      rw [Core.poll_error hs]
      exact hpolled.steady h₄ hsteady₄
    · have hpolled : Polled S c k₀ o d [] s₃ :=
        ⟨hk₀, ho, c.kept_polled.trans hkept, h₃, fun _ _ => rfl, hsteady₃.1.trans hfree₂⟩
      refine ⟨_, [], h₃, fun s₄ h₄ hsteady₄ => hfailed k₀ o d [] g s₄ (hpolled.steady h₄ hsteady₄) fun hc => ?_⟩
      rw [hcalm hc, Core.poll_error hs]

/-- **The poll of the loop does what a poll does**, and comes out well where notices can be raised. -/
theorem alone_onceOrReport {Q : Except Exit Unit → Scene → Prop} (h : S.At c [] s)
    (hQ : ∀ r k o d q s', Polled S c k o d q s' → (S.Calm c → r = .ok () ∧ d = c.poll k o) → Q r s') :
    Poll.onceOrReport.Meets S.alone Q s := by
  refine Op.meets_tryCatch.mpr (alone_once hfree hgate hgrants h
    (fun k o q s' h' => hQ _ k o _ q s' h' fun _ => ⟨rfl, rfl⟩) fun k o d q f s' h' hmissed => ?_)
  refine alone_of_behind (P := fun r s₁ => (S.Calm c → r = .ok ()) ∧ S.At d.missed q s₁) ?_ fun r s₁ hr hsteady => ?_
  · refine Op.meets_bind.mpr (meets_modify h'.shown rfl rfl rfl fun s₁ h₁ => meets_announce h₁ fun x s₂ hx h₂ => ?_)
    refine ⟨fun hcalm => ?_, h₂⟩
    have hboard : d.session.board = c.session.board := h'.kept.board
    have hx : S.Dates c x := by
      rw [Dates, ← hboard]
      exact hx
    rw [hx.calm hcalm]
    rfl
  · exact hQ r k o d.missed q s₁ { h' with
      shown := hr.2, kept := h'.kept.trans (Core.kept_missed d), free := hsteady.1.trans h'.free }
      fun hcalm => ⟨hr.1 hcalm, hmissed hcalm⟩

end Surroundings

/-! ## What the user is told -/

/-- The view that shows the notices that are still visible. -/
def View.notices : View (List Notice) := ⟨fun s => s.board.active, fun _ _ _ _ _ => rfl⟩

/-- There is one more notice, which expires. -/
def OneMore (before after : List Notice) : Prop := ∃ n : Notice, n.isTransient = true ∧ after = before ++ [n]

namespace Polling

variable {S : Surroundings} {s : Scene} {o : Outcome} {f : Fault} {b : List Notice}

/-- Where nothing breaks there is one more notice, and where something breaks there is none. -/
def Raised (b : List Notice) {α : Type} (r : Except Exit α) (s : Scene) : Prop :=
  ((∃ a, r = .ok a) ∧ OneMore b (View.notices.shows s)) ∨
    ∃ f, r = .error (.fault f) ∧ View.notices.shows s = b

open Op

theorem Raised.of_eq {α : Type} {r : Except Exit α} {s' : Scene} (h : Raised b r s)
    (hsame : View.notices.shows s' = View.notices.shows s) : Raised b r s' := by
  rw [Raised, hsame]
  exact h

theorem meets_announce {text : String} {level : Level} (h : View.notices.shows s = b) :
    (announce text level).Meets S.sole (Raised b) s := by
  refine View.notices.meets_announce fun s' hs' => ?_
  have hactive : View.notices.shows s' = (s.site.session.board.transient s.site.now (.text text) level).1.active := hs'
  unfold Board.transient at hactive ⊢
  split at hactive
  next f _ => exact .inr ⟨f, rfl, hactive.trans h⟩
  next due _ =>
    refine .inl ⟨⟨(), rfl⟩, ⟨s.site.session.board.nextId, .text text, level, s.site.now, some due⟩, rfl, ?_⟩
    rw [← h]
    exact hactive

variable (hS : ∀ o', S.answers Call.getStatus.message o' → o' = o) (hs : o.status = .error f)
include hS hs

theorem meets_read {span : Nat} (h : View.notices.shows s = b) :
    (Poll.read span).Meets S.sole
      (fun r s' => Raised b r s' ∧ ∀ x, r = .ok x → x = none) s := by
  refine meets_rescue.mpr (meets_map.mpr (meets_bind.mpr (View.notices.meets_send rfl fun o' s₁ ho h₁ =>
    Surroundings.after_status ?_)))
  obtain rfl := hS o' ho
  rw [hs]
  by_cases hg : ∃ g, f = .client (.service g)
  · obtain ⟨g, rfl⟩ := hg
    refine meets_bind.mpr (View.notices.meets_modify fun s₂ h₂ => meets_bind.mpr ?_)
    refine View.notices.meets_tag fun s₃ h₃ => meets_bind.mpr ?_
    refine (meets_announce (b := b) (h₃.trans (h₂.trans (h₁.trans h)))).mono ?_
    rintro (e | a) s₄ (⟨⟨x, hx⟩, hmore⟩ | ⟨f, hf, hsame⟩)
    · cases hx
    · cases hf
      exact ⟨.inr ⟨f, rfl, hsame⟩, fun x hx => by cases hx⟩
    · exact ⟨.inl ⟨⟨none, rfl⟩, hmore⟩, fun x hx => (Except.ok.inj hx).symm⟩
    · cases hf
  · rw [not_exists] at hg
    exact (rescued_other hg).mpr ⟨.inr ⟨f, rfl, h₁.trans h⟩, fun x hx => by cases hx⟩

/-- **Exactly one notice is raised for a status that could not be read.** -/
theorem meets_onceOrReport (h : View.notices.shows s = b) :
    Poll.onceOrReport.Meets S.sole (Raised b) s := by
  have honce : Poll.once.Meets S.sole (Raised b) s := by
    refine meets_bind.mpr (View.notices.meets_modify fun s₁ h₁ => meets_bind.mpr (View.meets_session ?_))
    refine View.notices.meets_traced fun id s₂ h₂ => meets_bind.mpr ((meets_read hS hs (b := b) ?_).mono ?_)
    · exact h₂.trans (h₁.trans h)
    · rintro (e | x) s₃ ⟨hraised, hnone⟩
      · rcases hraised with ⟨⟨a, ha⟩, -⟩ | ⟨g, hg, hsame⟩
        · cases ha
        · cases hg
          exact fun s₄ h₄ => .inr ⟨g, rfl, h₄.trans hsame⟩
      · obtain rfl := hnone x rfl
        rcases hraised with ⟨-, hmore⟩ | ⟨g, hg, -⟩
        · refine fun s₄ h₄ => .inl ⟨⟨(), rfl⟩, ?_⟩
          rw [h₄]
          exact hmore
        · cases hg
  refine meets_tryCatch.mpr (honce.mono ?_)
  rintro (e | a) s₁ (⟨⟨a, ha⟩, hmore⟩ | ⟨g, hg, hsame⟩)
  · cases ha
  · cases hg
    refine meets_bind.mpr (View.notices.meets_modify fun s₂ h₂ => ?_)
    exact meets_announce (h₂.trans hsame)
  · exact .inl ⟨⟨(), rfl⟩, hmore⟩
  · cases hg

end Polling

end Cutover
