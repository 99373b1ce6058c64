import Cutover.Proofs.Control.Core
import Cutover.Proofs.Work.Contract

/-!
# Work behind the gate

The contract of work behind the state gate: it may change the core, wait for the storage and for the
service, and give snapshots to the readers. While it waits the core stays as it is.

* `Scene`: a site together with what was done beside it;
* `Surroundings.behind`: the contract;
* `Surroundings.At`: a scene shows a core;
* `Surroundings.meets_modify`, `Surroundings.meets_traced`, …: one lemma for each way to ask.
-/

namespace Cutover

/-- A site, with what was given to the readers and the tasks that were started so far. -/
structure Scene where
  site : Site
  published : List (Option RunState) := []
  forked : List (Nat × Background) := []

/-- What comes of raising a notice that expires at some instant. -/
def Board.dated (b : Board) (now : Int) : Except Fault Unit := (b.expiry now).map fun _ => ()

/-- What surrounds work behind the gate: the instants it may see, the answers of the service, and the
changes of the core it may make. A change that leaves the storage alone is always granted. Of some other
tasks it may be known whether they have ended, if that does not change meanwhile. -/
structure Surroundings where
  within : Int → Prop
  answers : Message → Outcome → Prop
  grants : Core → Core → Prop
  ended : Nat → Bool → Prop := fun _ _ => False
  some_answer : ∃ o, answers Call.getResources.message o
  grants_of_storage : ∀ {c d : Core}, d.storage = c.storage → grants c d

namespace Surroundings

variable (S : Surroundings)

/-- A scene shows a core, and what was given to the readers. -/
structure At (c : Core) (p : List (Option RunState)) (s : Scene) : Prop where
  core : s.site.core = c
  published : s.published = p
  within : S.within s.site.now

/-- What work behind the state gate may ask for. -/
def Allows (s : Scene) : Effect → Prop
  | .look => True
  | .change x =>
    x.session.stateGate = s.site.session.stateGate ∧
      x.session.streams = s.site.session.streams ∧ S.grants s.site.core x.core
  | .acquire .fetch => s.site.session.fetchGate = {}
  | .release .fetch => s.site.session.fetchGate = { held := true }
  | .send _ | .sleep _ | .storageTurn | .raiseLatch | .publish _ => True
  | _ => False

/-- The scene after work was let through the fetch gate, or left it. -/
def gated (held : Bool) (c : Core) : Core := c.onSession fun t => { t with fetchGate := { held } }

/-- The core once the latch was raised. -/
def raised (c : Core) : Core := c.onSession fun t => { t with latch := { t.latch with raised := true } }

/-- How work behind the state gate may go on. -/
def Leads (s : Scene) : (e : Effect) → e.Reply → Scene → Prop
  | .look, r, s' => r = s.site ∧ s' = s
  | .change x, _, s' => s' = { s with site := { x with now := s.site.now } }
  | .acquire _, r, s' => r = .back () ∧ S.At (gated true s.site.core) s.published s'
  | .release _, _, s' => S.At (gated false s.site.core) s.published s'
  | .sleep _, r, s' => r = .back () ∧ S.At s.site.core s.published s'
  | .storageTurn, r, s' => r = .back () ∧ S.At s.site.core s.published s'
  | .send m, r, s' => (∃ o, S.answers m o ∧ r = .back o) ∧ S.At s.site.core s.published s'
  | .raiseLatch, _, s' => S.At (raised s.site.core) s.published s'
  | .publish item, _, s' => S.At s.site.core (s.published ++ [item]) s'
  | _, _, _ => False

/-- **The contract of work behind the state gate.** -/
def behind : Contract Scene := ⟨S.Allows, S.Leads⟩

/-- Notices that expire can be raised at every instant. -/
def Calm (c : Core) : Prop := ∀ t, S.within t → c.session.board.dated t = .ok ()

/-- This may come of raising a notice that expires. -/
def Dates (c : Core) (x : Except Fault Unit) : Prop :=
  ∃ t, S.within t ∧ x = c.session.board.dated t

/-- The conditions suit the surroundings. -/
structure Suits (c : Core) (k : Conditions) : Prop where
  answer : S.answers Call.getResources.message k.answer
  notice : S.Dates c k.notice

variable {S} {α β : Type} {c : Core} {p : List (Option RunState)} {s : Scene}

theorem Dates.calm {x : Except Fault Unit} (h : S.Dates c x) (hcalm : S.Calm c) : x = .ok () := by
  obtain ⟨t, ht, rfl⟩ := h
  exact hcalm t ht

namespace At

theorem dates (h : S.At c p s) : S.Dates c (c.session.board.dated s.site.now) :=
  ⟨_, h.within, rfl⟩

theorem some_suits (h : S.At c p s) : ∃ k, S.Suits c k := by
  obtain ⟨o, ho⟩ := S.some_answer
  exact ⟨⟨o, _⟩, ho, h.dates⟩

theorem session (h : S.At c p s) : s.site.session.core = c.session := congrArg Core.session h.core

theorem storage (h : S.At c p s) : s.site.storage = c.storage := congrArg Core.storage h.core

theorem hookCalls (h : S.At c p s) : s.site.hookCalls = c.hookCalls := congrArg Core.hookCalls h.core

theorem read (h : S.At c p s) (f : Session → β) (hf : ∀ t : Session, f t.core = f t) :
    f s.site.session = f c.session := by
  rw [← h.session, hf]

theorem state (h : S.At c p s) : s.site.session.state = c.session.state :=
  h.read Session.state fun _ => rfl

theorem of_core {s' : Scene} (h : S.At c p s) (hcore : s'.site.core = s.site.core)
    (hpub : s'.published = s.published) (hnow : s'.site.now = s.site.now) : S.At c p s' :=
  ⟨hcore.trans h.core, hpub.trans h.published, hnow ▸ h.within⟩

end At

/-! ## Looking and changing -/

variable {Q : Except Exit α → Scene → Prop}

theorem meets_site {Q : Except Exit Site → Scene → Prop} :
    Op.site.Meets S.behind Q s ↔ Q (.ok s.site) s := by
  refine Op.meets_lift.trans ⟨fun h => (h.2 _ _ ⟨rfl, rfl⟩ : Q _ _), fun h => ⟨trivial, ?_⟩⟩
  rintro r s' ⟨rfl, rfl⟩
  exact h

theorem meets_session {Q : Except Exit Session → Scene → Prop} :
    Op.session.Meets S.behind Q s ↔ Q (.ok s.site.session) s := by
  rw [Op.session, Op.meets_bind, meets_site]
  rfl

theorem meets_update {f : Site → Site} {Q : Unit → Scene → Prop} {d : Core} (h : S.At c p s)
    (hgate : (f s.site).session.stateGate = s.site.session.stateGate)
    (hstreams : (f s.site).session.streams = s.site.session.streams)
    (hcore : (f s.site).core = d) (hgrant : S.grants c d)
    (hQ : ∀ s', S.At d p s' → Q () s') : (Work.update f).Meets S.behind Q s := by
  refine ⟨trivial, ?_⟩
  rintro r s' ⟨rfl, rfl⟩
  refine ⟨⟨hgate, hstreams, by rw [h.core, hcore]; exact hgrant⟩, ?_⟩
  rintro r s' rfl
  exact hQ _ ⟨hcore, h.published, h.within⟩

theorem meets_update_same {f : Site → Site} {Q : Unit → Scene → Prop} (h : S.At c p s)
    (hgate : (f s.site).session.stateGate = s.site.session.stateGate)
    (hstreams : (f s.site).session.streams = s.site.session.streams)
    (hcore : (f s.site).core = s.site.core)
    (hQ : ∀ s', S.At c p s' → Q () s') : (Work.update f).Meets S.behind Q s :=
  meets_update h hgate hstreams (hcore.trans h.core) (S.grants_of_storage rfl) hQ

theorem meets_modify {f : Session → Session} {Q : Except Exit Unit → Scene → Prop}
    (h : S.At c p s) (hgate : (f s.site.session).stateGate = s.site.session.stateGate)
    (hstreams : (f s.site.session).streams = s.site.session.streams)
    (hcore : (f s.site.session).core = f s.site.session.core)
    (hQ : ∀ s', S.At (c.onSession f) p s' → Q (.ok ()) s') : (Op.modify f).Meets S.behind Q s := by
  refine Op.meets_lift.mpr (meets_update h hgate hstreams ?_ (S.grants_of_storage ?_) hQ)
  · rw [← h.core]
    exact congrArg (Core.mk · _ _) hcore
  · rfl

theorem meets_modify_same {f : Session → Session} {Q : Except Exit Unit → Scene → Prop}
    (h : S.At c p s) (hgate : (f s.site.session).stateGate = s.site.session.stateGate)
    (hstreams : (f s.site.session).streams = s.site.session.streams)
    (hcore : (f s.site.session).core = s.site.session.core)
    (hQ : ∀ s', S.At c p s' → Q (.ok ()) s') : (Op.modify f).Meets S.behind Q s :=
  Op.meets_lift.mpr
    (meets_update_same h hgate hstreams (congrArg (Core.mk · _ _) hcore) hQ)

/-! ## Spans and notices -/

theorem meets_traced {span : Span} {w : Nat → Op α} (h : S.At c p s)
    (hw : ∀ id s', S.At c p s' →
      (w id).Meets S.behind (fun r t => ∃ d q, S.At d q t ∧ ∀ t', S.At d q t' → Q r t') s') :
    (Op.traced span w).Meets S.behind Q s := by
  rw [Op.traced, Op.meets_bind]
  refine Op.meets_lift.mpr ⟨trivial, ?_⟩
  rintro r s' ⟨rfl, rfl⟩
  refine ⟨⟨rfl, rfl, S.grants_of_storage rfl⟩, ?_⟩
  rintro r s' rfl
  refine Op.meets_ensure.mpr ((hw _ _ ?_).mono ?_)
  · exact h.of_core rfl rfl rfl
  rintro r t ⟨d, q, ht, hQ⟩
  exact meets_update_same ht rfl rfl rfl hQ

theorem meets_tag {id : Nat} {key : String} {value : Value} {Q : Except Exit Unit → Scene → Prop}
    (h : S.At c p s) (hQ : ∀ s', S.At c p s' → Q (.ok ()) s') :
    (Op.tag id key value).Meets S.behind Q s :=
  Op.meets_lift.mpr (meets_update_same h rfl rfl rfl hQ)

theorem meets_announce {text : String} {level : Level} {Q : Except Exit Unit → Scene → Prop}
    (h : S.At c p s)
    (hQ : ∀ x s', S.Dates c x → S.At c p s' → Q (x.mapError .fault) s') :
    (Op.announce text level).Meets S.behind Q s := by
  rw [Op.announce, Op.meets_bind, meets_site]
  have httl : s.site.session.board.ttl = c.session.board.ttl :=
    h.read (fun t => t.board.ttl) fun _ => rfl
  have hdated : c.session.board.dated s.site.now = s.site.session.board.dated s.site.now := by
    simp only [Board.dated, Board.expiry, httl]
  have hQ' := fun s' => hQ _ s' h.dates
  rw [hdated, Board.dated] at hQ'
  simp only [Op.after_ok, Board.transient]
  cases he : s.site.session.board.expiry s.site.now with
  | error e =>
    rw [he] at hQ'
    simp only [Op.meets_bind]
    refine meets_modify_same h rfl rfl rfl fun s' h' => ?_
    exact Op.meets_ofExcept.mpr (hQ' s' h')
  | ok due =>
    rw [he] at hQ'
    simp only [Op.meets_bind]
    refine meets_modify_same h rfl rfl rfl fun s' h' => ?_
    exact Op.meets_ofExcept.mpr (hQ' s' h')

theorem meets_alarm {message : Value} {Q : Except Exit Unit → Scene → Prop} (h : S.At c p s)
    (hQ : ∀ s', S.At c p s' → Q (.ok ()) s') : (Op.alarm message).Meets S.behind Q s := by
  rw [Op.alarm, Op.meets_bind, meets_site]
  simp only [Op.after_ok, Board.persistent]
  exact meets_modify_same h rfl rfl rfl hQ

/-! ## Waits -/

theorem meets_sleep {d : Int} {Q : Except Exit Unit → Scene → Prop} (h : S.At c p s)
    (hQ : ∀ s', S.At c p s' → Q (.ok ()) s') : (Op.sleep d).Meets S.behind Q s := by
  rw [Op.sleep, Op.meets_bind, Op.meets_perform]
  refine ⟨trivial, ?_⟩
  rintro r s' ⟨rfl, h'⟩
  rw [h.core, h.published] at h'
  exact hQ s' h'

theorem meets_storageTurn {Q : Except Exit Unit → Scene → Prop} (h : S.At c p s)
    (hQ : ∀ s', S.At c p s' → Q (.ok ()) s') : Op.storageTurn.Meets S.behind Q s := by
  rw [Op.storageTurn, Op.meets_bind, Op.meets_perform]
  refine ⟨trivial, ?_⟩
  rintro r s' ⟨rfl, h'⟩
  rw [h.core, h.published] at h'
  exact hQ s' h'

/-! ## The storage -/

theorem meets_transact {f : Storage → Except Fault α × Storage} (h : S.At c p s)
    (hgrant : S.grants c { c with storage := (f c.storage).2 })
    (hQ : ∀ s', S.At { c with storage := (f c.storage).2 } p s' →
      Q ((f c.storage).1.mapError .fault) s') :
    (Keep.transact f).Meets S.behind Q s := by
  rw [Keep.transact, Op.meets_bind]
  refine meets_storageTurn h fun s' h' => ?_
  rw [Op.after_ok, Op.meets_bind, meets_site, Op.after_ok, h'.storage, Op.meets_bind]
  have hcore : ({ s'.site with storage := (f c.storage).2 } : Site).core
      = { c with storage := (f c.storage).2 } := by
    rw [← h'.core]
    rfl
  refine Op.meets_lift.mpr ⟨⟨rfl, rfl, ?_⟩, ?_⟩
  · rw [h'.core, hcore]
    exact hgrant
  · rintro r t rfl
    exact Op.meets_ofExcept.mpr (hQ _ ⟨hcore, h'.published, h'.within⟩)

theorem meets_keep {name : String} {f : Storage → Except Fault α × Storage} (h : S.At c p s)
    (hgrant : S.grants c { c with storage := (f c.storage).2 })
    (hQ : ∀ s', S.At { c with storage := (f c.storage).2 } p s' →
      Q ((f c.storage).1.mapError .fault) s') :
    (Keep.traced name f).Meets S.behind Q s := by
  rw [Keep.traced, Op.meets_bind, meets_site, Op.after_ok]
  refine meets_traced h fun _ s' h' => meets_transact h' hgrant fun t ht => ?_
  exact ⟨_, _, ht, hQ⟩

/-- The state is stored, after the delay and unless a failure is put in the way. -/
theorem meets_persist {Q : Except Exit Unit → Scene → Prop} (h : S.At c p s)
    (hgrant : S.grants c c.persist.core)
    (hQ : ∀ s', S.At c.persist.core p s' → Q (c.persist.result.mapError .fault) s') :
    Control.persist.Meets S.behind Q s := by
  have hrecord : s.site.session.record = c.record := h.read Session.record fun _ => rfl
  have hstore : s.site.session.store = c.session.store := h.read Session.store fun _ => rfl
  rw [Control.persist, Op.meets_bind, meets_session, Op.after_ok, hstore, hrecord, Keep.save,
    Op.meets_bind, meets_site, Op.after_ok]
  -- The delay comes first; the failure is looked up when it is over.
  have hrest : ∀ s', S.At c p s' → (do
      Keep.obstacle ((← Op.site).storage.faults c.session.store).saveError
      Keep.traced "save" fun t => t.save c.session.store c.record.encode : Op Unit).Meets
        S.behind Q s' := by
    intro s' h'
    rw [Op.meets_bind, meets_site, Op.after_ok, h'.storage, Op.meets_bind]
    rw [Core.persist, Core.faults] at hgrant hQ
    cases hf : (c.storage.faults c.session.store).saveError with
    | some text =>
      rw [hf] at hQ
      exact hQ s' h'
    | none =>
      rw [hf] at hQ hgrant
      exact meets_keep h' hgrant hQ
  cases (s.site.storage.faults c.session.store).saveDelay with
  | some d => exact Op.meets_bind.mpr (meets_sleep h hrest)
  | none => exact hrest s h

theorem meets_clear {Q : Except Exit Unit → Scene → Prop} (h : S.At c p s)
    (hgrant : S.grants c c.clear.core)
    (hQ : ∀ s', S.At c.clear.core p s' → Q (c.clear.result.mapError .fault) s') :
    (Keep.clear c.session.store).Meets S.behind Q s := by
  rw [Keep.clear, Op.meets_bind, meets_site, Op.after_ok, h.storage, Op.meets_bind]
  rw [Core.clear, Core.faults] at hgrant hQ
  cases hf : (c.storage.faults c.session.store).clearError with
  | some text =>
    rw [hf] at hQ
    exact hQ s h
  | none =>
    rw [hf] at hQ hgrant
    exact meets_keep h hgrant hQ

/-! ## Snapshots -/

theorem meets_snapshot {Q : Except Exit RunState → Scene → Prop} (h : S.At c p s)
    (hQ : ∀ s', S.At c p s' → Q (c.snapshot.result.mapError .fault) s') :
    Control.snapshot.Meets S.behind Q s := by
  rw [Control.snapshot, Op.meets_bind, meets_session, Op.after_ok, Op.meets_ofExcept, h.state]
  exact hQ s h

theorem meets_publish {Q : Except Exit Unit → Scene → Prop} (h : S.At c p s)
    (hok : ∀ state s', c.snapshot.result = .ok state → S.At c (p ++ [some state]) s' → Q (.ok ()) s')
    (herror : ∀ f s', c.snapshot.result = .error f → S.At c p s' → Q (.error (.fault f)) s') :
    Control.publish.Meets S.behind Q s := by
  refine Op.meets_bind.mpr (meets_snapshot h fun s' h' => ?_)
  cases hc : c.snapshot.result with
  | error f => exact herror f s' hc h'
  | ok state =>
    refine Op.meets_perform.mpr ⟨trivial, fun r t ht => hok state t hc ?_⟩
    have ht' : S.At s'.site.core (s'.published ++ [some state]) t := ht
    rwa [h'.core, h'.published] at ht'

end Surroundings

end Cutover
