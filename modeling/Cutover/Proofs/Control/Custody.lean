import Cutover.Proofs.Control.Agreement
import Cutover.Proofs.Control.Touching
import Cutover.World.Running

/-!
# The custody of a run

Whoever is behind the state gate has the run and its record in custody. It finds them settled, may do with
them what it likes as long as it is inside, and leaves them settled, if others do nothing to them meanwhile
and its waits come back. Outside of the gate nobody touches them.

* `Deposit`: a run and what is stored of it, `Deposit.Settled` where both agree;
* `Ward`: a site, and whether the work is behind its gate;
* `Ward.custody`: **the contract of work that keeps to the gate**, one for the poll loops and one for all
  else;
* `Ward.custody_hosts`: what has to do with none of that leaves it as it is;
* `Ward.meets_apply`, `Ward.upholds_begin`, `Ward.upholds_reset`, …: what is done behind the gate leaves the run
  settled;
* `Action.upholds_custody`, `Background.upholds_custody`: **every action and every round in the background keeps to
  the gate**.
-/

namespace Cutover

/-! ## Runs and what is stored of them -/

/-- A run, what is stored of it, and the gate of fetching. -/
structure Deposit where
  store : Nat
  run : RunState × Option RunFailure × Option ServiceFault
  context : Record.Context
  table : Table
  fetchGate : Gate

namespace Deposit

variable (d : Deposit)

/-- The state of the run. -/
abbrev state : RunState := d.run.1

/-- The record of the run. -/
def record : Record := Record.ofState d.state d.context

/-- **The run is settled**: its record is stored while it is in progress and nothing otherwise, it is in progress
in every active phase, and nobody fetches. -/
structure Settled : Prop where
  agrees : d.table = if d.state.isRunning then d.record.encode else []
  running : d.state.phase.isActive = true → d.state.isRunning = true
  opened : d.fetchGate = {}

/-- It is the same run, whether its resources were fetched or not. -/
structure Reconciled (d' : Deposit) : Prop where
  store : d'.store = d.store
  phase : d'.state.phase = d.state.phase
  running : d'.state.isRunning = d.state.isRunning
  opened : d'.fetchGate = {}

variable {d}

theorem settled_empty (hopened : d.fetchGate = {}) (h : d.state.isRunning = false)
    (hphase : d.state.phase.isActive = false) : Settled { d with table := [] } where
  agrees := by
    show [] = if d.state.isRunning then _ else []
    rw [h]
    rfl
  running hactive := by cases hphase.symm.trans hactive
  opened := hopened

theorem settled_stored (hopened : d.fetchGate = {}) (h : d.state.isRunning = true) :
    Settled { d with table := d.record.encode } where
  agrees := by
    show d.record.encode = if d.state.isRunning then _ else []
    rw [if_pos h]
    rfl
  running _ := h
  opened := hopened

end Deposit

namespace Site

/-- The run of a session, what is stored of it, and its gate of fetching. -/
def deposit (x : Site) : Deposit :=
  ⟨x.session.store, x.session.runPart.1, x.session.context, x.storage.table x.session.store, x.session.fetchGate⟩

/-- Hooks and store do what they are asked, and notices can be raised. -/
structure Sure (x : Site) : Prop where
  reliable : x.core.Reliable
  dated : x.session.board.dated x.now = .ok ()

/-- What no work changes. -/
structure Firm (x y : Site) : Prop where
  store : y.session.store = x.session.store
  hooks : y.session.hooks = x.session.hooks
  ttl : y.session.board.ttl = x.session.board.ttl
  storage : x.storage.Keeps y.storage

variable {x y : Site}

theorem Sure.firm (h : x.Sure) (hfirm : x.Firm y) (hnow : y.now = x.now) : y.Sure where
  reliable := by
    have hfaults : y.core.faults = x.core.faults := by
      show y.storage.faults y.session.store = x.storage.faults x.session.store
      rw [hfirm.store, hfirm.storage.faults]
    refine ⟨?_, hfaults ▸ h.reliable.save, hfaults ▸ h.reliable.clear, ?_⟩
    · show ∀ h ∈ y.session.hooks, h.fails = false
      rw [hfirm.hooks]
      exact h.reliable.hooks
    · show y.session.store < y.storage.stores.length
      rw [hfirm.store, hfirm.storage.count]
      exact h.reliable.known
  dated := by
    have hdated := h.dated
    rwa [Board.dated, Board.expiry, ← hfirm.ttl, ← hnow] at hdated

theorem Changes.firm {cs : List Concern} (h : x.Changes cs y) (hstorage : .storage ∉ cs) : x.Firm y := by
  have hsetup := h.setup
  simp only [Session.setup, Prod.mk.injEq] at hsetup
  obtain ⟨hstore, -, hhooks, -, -, httl, -, -⟩ := hsetup
  exact ⟨hstore, hhooks, httl, (show y.storage = x.storage from h.same .storage hstorage) ▸ .refl _⟩

theorem Changes.deposit {cs : List Concern} (h : x.Changes cs y) (hrun : .run ∉ cs) (hstorage : .storage ∉ cs) :
    y.deposit = x.deposit := by
  have hsetup := h.setup
  simp only [Session.setup, Prod.mk.injEq] at hsetup
  have hpart : y.session.runPart = x.session.runPart := h.same .run hrun
  have hcontext : y.session.context = x.session.context := congrArg Prod.snd hpart
  rw [Site.deposit, Site.deposit, hpart, hcontext, (h.firm hstorage).store, hsetup.2.2.2.2.2.2.2,
    show y.storage = x.storage from h.same .storage hstorage]

end Site

/-- The wait was not broken off, and a request for the resources came back with an answer of the service or with
none. -/
def Effect.Whole : (e : Effect) → e.Reply → Prop
  | .sleep _, r => r = .back ()
  | .storageTurn, r => r = .back ()
  | .send m, r => ∃ o : Outcome, r = .back o ∧ (m = Call.getResources.message → o.isReply = true)
  | e, r => e.brokenOff ≠ some r

theorem Effect.Whole.unbroken {e : Effect} {r : e.Reply} (h : e.Whole r) : e.brokenOff ≠ some r := by
  cases e with
  | sleep | storageTurn =>
    subst h
    exact fun h => by cases h
  | send m =>
    obtain ⟨o, rfl, -⟩ := h
    exact fun h => by cases h
  | _ => exact h

/-! ## The contract -/

/-- A site, whether the work is behind its state gate, and the loops that the work has started. -/
structure Ward where
  site : Site
  inside : Bool := false
  loops : List Nat := []

namespace Ward

/-- A loop marks that a status is being applied exactly while it is behind the gate. -/
def Marked (loop : Bool) (s : Ward) : Prop := loop = true → s.site.session.applying = s.inside

/-- What work may change: only loops mark that a status is being applied, and only behind the gate the run is
changed or what is stored of it. -/
structure MayChange (loop : Bool) (s : Ward) (y : Site) : Prop where
  firm : s.site.Firm y
  gate : y.session.stateGate = s.site.session.stateGate
  known : y.session.pollTask = s.site.session.pollTask ∨ y.session.pollTask = none ∨
    ∃ i ∈ s.loops, y.session.pollTask = some i
  applying : loop = true ∧ s.inside = false ∨ y.session.applying = s.site.session.applying
  deposit : s.inside = false → y.deposit = s.site.deposit

/-- How work may find things after an effect. -/
structure Later (loop : Bool) (s s' : Ward) : Prop where
  sure : s'.site.Sure
  applying : loop = true → s'.site.session.applying = s.site.session.applying

/-- What work may ask for that keeps to the gate. Only who is behind it fetches, and only a loop that the session
knows is cancelled, where no status is being applied. -/
def Allows (loop : Bool) (s : Ward) : Effect → Prop
  | .change y => s.MayChange loop y
  | .acquire .state => s.inside = false ∧ (loop = true → s.site.session.applying = true)
  | .release .state => s.inside = true ∧ s.site.deposit.Settled
  | .acquire .fetch => s.inside = true ∧ s.site.deposit.fetchGate = {}
  | .release .fetch => s.inside = true ∧ s.site.deposit.fetchGate = { held := true }
  | .sleep _ | .storageTurn | .send _ | .watchLatch _ | .receive _ => s.Marked loop
  | .join _ => s.inside = false ∧ loop = false
  | .cancel i => s.inside = false ∧ loop = false ∧ s.site.session.pollTask = some i ∧
    s.site.session.applying = false
  | _ => True

/-- How such work may go on. Who goes through the gate finds the run settled, and while it is inside nobody
touches it and its waits come back. -/
def Leads (loop : Bool) (s : Ward) : (e : Effect) → e.Reply → Ward → Prop
  | .look, r, s' => r = s.site ∧ s' = s
  | .change y, _, s' => s' = { s with site := { y with now := s.site.now } }
  | .hasEnded _, _, s' => s' = s
  | .acquire .state, r, s' => r = .back () ∧ s'.inside = true ∧ s'.site.deposit.Settled ∧ s.Later loop s'
  | .release .state, _, s' => s'.inside = false ∧ s.Later loop s'
  | .acquire .fetch, r, s' => r = .back () ∧ s'.inside = s.inside ∧ s.Later loop s' ∧
    s'.site.deposit = { s.site.deposit with fetchGate := { held := true } }
  | .release .fetch, _, s' => s'.inside = s.inside ∧ s.Later loop s' ∧
    s'.site.deposit = { s.site.deposit with fetchGate := {} }
  | .fork .pollLoop, i, s' => s'.inside = s.inside ∧ i ∈ s'.loops ∧ s.Later loop s'
  | e, r, s' => s'.inside = s.inside ∧ s.Later loop s' ∧
    (s.inside = true → e.Whole r ∧ s'.site.deposit = s.site.deposit)

/-- **The contract of work that keeps to the gate**, for the loops and for all else. -/
def custody (loop : Bool) : Contract Ward := ⟨Allows loop, Leads loop⟩

/-- Work stands outside of the gate or behind it, and there has some deposit in custody. -/
structure At (loop b : Bool) (d : Deposit) (s : Ward) : Prop where
  inside : s.inside = b
  sure : s.site.Sure
  marked : s.Marked loop
  deposit : b = true → s.site.deposit = d

open Op

variable {loop b : Bool} {d d' : Deposit} {s s' : Ward} {α β : Type} {cs : List Concern}

theorem At.later (h : At loop b d s) (hinside : s'.inside = s.inside) (hlater : s.Later loop s')
    (hdeposit : s.inside = true → s'.site.deposit = s.site.deposit) : At loop b d s' where
  inside := hinside.trans h.inside
  sure := hlater.sure
  marked hloop := by
    rw [hlater.applying hloop, hinside]
    exact h.marked hloop
  deposit hb := (hdeposit (h.inside.trans hb)).trans (h.deposit hb)

theorem At.changed {y : Site} (h : At loop true d s) (hfirm : s.site.Firm y)
    (happlying : y.session.applying = s.site.session.applying) (hdeposit : y.deposit = d') :
    At loop true d' { s with site := { y with now := s.site.now } } where
  inside := h.inside
  sure := h.sure.firm ⟨hfirm.store, hfirm.hooks, hfirm.ttl, hfirm.storage⟩ rfl
  marked hloop := happlying.trans (h.marked hloop)
  deposit _ := hdeposit

/-- The concerns are none of those that are dealt with at the gate only, or by those who start and stop loops. -/
def Aloof (cs : List Concern) : Prop :=
  .run ∉ cs ∧ .storage ∉ cs ∧ .loop ∉ cs ∧ .applying ∉ cs ∧ .gate .state ∉ cs ∧ .gate .fetch ∉ cs

instance (cs : List Concern) : Decidable (Aloof cs) := inferInstanceAs (Decidable (_ ∧ _))

/-- **Who has to do with none of that leaves it as it is**, outside of the gate and behind it. -/
theorem custody_hosts (h : Aloof cs) : Hosts (custody loop) Ward.site (At loop b d) cs where
  look s hs := by
    refine ⟨trivial, ?_⟩
    rintro _ _ ⟨rfl, rfl⟩
    exact ⟨hs, rfl, rfl⟩
  change s y hs hy := by
    obtain ⟨hrun, hstorage, hloop, happlying, -, -⟩ := h
    have hfirm := hy.firm hstorage
    have hdeposit := hy.deposit hrun hstorage
    have hsetup := hy.setup
    simp only [Session.setup, Prod.mk.injEq] at hsetup
    refine ⟨⟨hfirm, hsetup.2.2.2.2.2.2.1, .inl (congrArg Prod.fst (hy.same .loop hloop)),
      .inr (hy.same .applying happlying), fun _ => hdeposit⟩, ?_⟩
    rintro _ _ rfl
    exact ⟨⟨hs.inside, hs.sure.firm ⟨hfirm.store, hfirm.hooks, hfirm.ttl, hfirm.storage⟩ rfl,
      fun hl => Eq.trans (hy.same .applying happlying) (hs.marked hl),
      fun hb => hdeposit.trans (hs.deposit hb)⟩, rfl⟩
  other s e hs he hwithin := by
    have hother : ∀ s', s'.inside = s.inside ∧ s.Later loop s' ∧
        (s.inside = true → s'.site.deposit = s.site.deposit) → At loop b d s' :=
      fun s' hs' => hs.later hs'.1 hs'.2.1 hs'.2.2
    cases e with
    | look | change => cases he
    | fork => exact absurd hwithin.2 h.2.2.1
    | cancel | join => exact absurd hwithin h.2.2.1
    | acquire g | release g =>
      cases g with
      | state => exact absurd hwithin h.2.2.2.2.1
      | fetch => exact absurd hwithin h.2.2.2.2.2
    | hasEnded =>
      refine ⟨trivial, ?_⟩
      rintro r _ rfl
      exact hs
    | raiseLatch | publish => exact ⟨trivial, fun r s' hr => hother s' ⟨hr.1, hr.2.1, fun hb => (hr.2.2 hb).2⟩⟩
    | _ => exact ⟨hs.marked, fun r s' hr => hother s' ⟨hr.1, hr.2.1, fun hb => (hr.2.2 hb).2⟩⟩

/-! ## Behind the gate -/

theorem At.waits {e : Effect} (h : At loop true d s) (he : e.isWait = true) (hgate : ∀ g, e ≠ .acquire g)
    (hjoin : ∀ i, e ≠ .join i) :
    Allows loop s e ∧ ∀ r s', Leads loop s e r s' → e.Whole r ∧ At loop true d s' := by
  have hback : ∀ r s', (s'.inside = s.inside ∧ s.Later loop s' ∧
      (s.inside = true → e.Whole r ∧ s'.site.deposit = s.site.deposit)) → e.Whole r ∧ At loop true d s' :=
    fun r s' hr => ⟨(hr.2.2 h.inside).1, h.later hr.1 hr.2.1 fun _ => (hr.2.2 h.inside).2⟩
  cases e with
  | acquire g => exact absurd rfl (hgate g)
  | join i => exact absurd rfl (hjoin i)
  | sleep | storageTurn | send | watchLatch | receive => exact ⟨h.marked, hback⟩
  | _ => cases he

theorem meets_storageTurn {Q : Except Exit Unit → Ward → Prop} (h : At loop true d s)
    (hQ : ∀ s', At loop true d s' → Q (.ok ()) s') : storageTurn.Meets (custody loop) Q s := by
  obtain ⟨hallows, hleads⟩ := h.waits (e := .storageTurn) rfl (fun _ h => by cases h) fun _ h => by cases h
  refine meets_bind.mpr (meets_perform.mpr ⟨hallows, fun r s' hr => ?_⟩)
  obtain ⟨rfl, hs'⟩ := hleads r s' hr
  exact hQ s' hs'

theorem meets_sleep {duration : Int} {Q : Except Exit Unit → Ward → Prop} (h : At loop true d s)
    (hQ : ∀ s', At loop true d s' → Q (.ok ()) s') : (sleep duration).Meets (custody loop) Q s := by
  obtain ⟨hallows, hleads⟩ := h.waits (e := .sleep duration) rfl (fun _ h => by cases h) fun _ h => by cases h
  refine meets_bind.mpr (meets_perform.mpr ⟨hallows, fun r s' hr => ?_⟩)
  obtain ⟨rfl, hs'⟩ := hleads r s' hr
  exact hQ s' hs'

theorem meets_site {Q : Except Exit Site → Ward → Prop} (hQ : Q (.ok s.site) s) :
    Op.site.Meets (custody loop) Q s := by
  refine meets_lift.mpr ⟨trivial, ?_⟩
  rintro _ _ ⟨rfl, rfl⟩
  exact hQ

theorem meets_session {Q : Except Exit Session → Ward → Prop} (hQ : Q (.ok s.site.session) s) :
    Op.session.Meets (custody loop) Q s := meets_bind.mpr (meets_site hQ)

theorem meets_update {f : Site → Site} {Q : Unit → Ward → Prop} (hmay : s.MayChange loop (f s.site))
    (hQ : Q () { s with site := { f s.site with now := s.site.now } }) :
    (Work.update f).Meets (custody loop) Q s := by
  refine ⟨trivial, ?_⟩
  rintro _ _ ⟨rfl, rfl⟩
  refine ⟨hmay, ?_⟩
  rintro _ _ rfl
  exact hQ

theorem At.mayChange {y : Site} (h : At loop true d s) (hfirm : s.site.Firm y)
    (hgate : y.session.stateGate = s.site.session.stateGate)
    (hknown : y.session.pollTask = s.site.session.pollTask)
    (happlying : y.session.applying = s.site.session.applying) : s.MayChange loop y :=
  ⟨hfirm, hgate, .inl hknown, .inr happlying, fun hout => by cases h.inside.symm.trans hout⟩

theorem meets_modify {f : Session → Session} {Q : Except Exit Unit → Ward → Prop} (h : At loop true d s)
    (hfirm : s.site.Firm (s.site.onSession f))
    (hsame : ((f s.site.session).stateGate, (f s.site.session).pollTask, (f s.site.session).applying) =
      (s.site.session.stateGate, s.site.session.pollTask, s.site.session.applying))
    (hdeposit : (s.site.onSession f).deposit = d')
    (hQ : ∀ s', At loop true d' s' → Q (.ok ()) s') : (modify f).Meets (custody loop) Q s := by
  simp only [Prod.mk.injEq] at hsame
  obtain ⟨hgate, hknown, happlying⟩ := hsame
  exact meets_lift.mpr (meets_update (h.mayChange hfirm hgate hknown happlying)
    (hQ _ (h.changed hfirm happlying hdeposit)))

theorem meets_beside {op : Op α} {Q : Except Exit α → Ward → Prop} (h : At loop true d s) (hop : op.Touches cs)
    (hcs : Aloof cs) (hQ : ∀ r s', At loop true d s' → Q r s') : op.Meets (custody loop) Q s :=
  (hop.upholds (custody_hosts hcs) s h).mono fun r s' hs' => hQ r s' hs'.1

/-- A span is closed again whatever is done in it. -/
theorem meets_traced {span : Span} {w : Nat → Op α} {Q : Except Exit α → Ward → Prop} (h : At loop true d s)
    (hw : ∀ id s', At loop true d s' → (w id).Meets (custody loop)
      (fun r t => ∃ d', At loop true d' t ∧ ∀ t', At loop true d' t' → Q r t') s') :
    (traced span w).Meets (custody loop) Q s := by
  refine meets_bind.mpr (meets_lift.mpr ⟨trivial, ?_⟩)
  rintro _ _ ⟨rfl, rfl⟩
  refine ⟨h.mayChange ⟨rfl, rfl, rfl, .refl _⟩ rfl rfl rfl, ?_⟩
  rintro _ _ rfl
  refine meets_ensure.mpr ((hw _ _ ?_).mono ?_)
  · exact h.changed ⟨rfl, rfl, rfl, .refl _⟩ rfl (h.deposit rfl)
  rintro r t ⟨d', ht, hQ⟩
  exact meets_update (ht.mayChange ⟨rfl, rfl, rfl, .refl _⟩ rfl rfl rfl)
    (hQ _ (ht.changed ⟨rfl, rfl, rfl, .refl _⟩ rfl (ht.deposit rfl)))

/-! ## The store -/

theorem meets_transact {f : Storage → Except Fault α × Storage} {Q : Except Exit α → Ward → Prop}
    (h : At loop true d s) (hf : ∀ S : Storage, S.Keeps (f S).2)
    (hQ : ∀ (S : Storage) s', d.store < S.stores.length →
      At loop true { d with table := (f S).2.table d.store } s' → Q ((f S).1.mapError .fault) s') :
    (Keep.transact f).Meets (custody loop) Q s := by
  refine meets_bind.mpr (meets_storageTurn h fun s' h' => meets_bind.mpr (meets_site ?_))
  have hstore : s'.site.session.store = d.store := congrArg Deposit.store (h'.deposit rfl)
  have hdeposit : ({ s'.site with storage := (f s'.site.storage).2 } : Site).deposit =
      { d with table := (f s'.site.storage).2.table d.store } := by
    rw [← h'.deposit rfl]
    rfl
  refine meets_bind.mpr (meets_lift.mpr ⟨h'.mayChange ⟨rfl, rfl, rfl, hf _⟩ rfl rfl rfl, ?_⟩)
  rintro _ _ rfl
  refine meets_ofExcept.mpr (hQ s'.site.storage _ (hstore ▸ h'.sure.reliable.known) ?_)
  exact h'.changed ⟨rfl, rfl, rfl, hf _⟩ rfl hdeposit

theorem meets_stored {operation : String} {f : Storage → Except Fault α × Storage}
    {Q : Except Exit α → Ward → Prop} (h : At loop true d s) (hf : ∀ S : Storage, S.Keeps (f S).2)
    (hQ : ∀ (S : Storage) s', d.store < S.stores.length →
      At loop true { d with table := (f S).2.table d.store } s' → Q ((f S).1.mapError .fault) s') :
    (Keep.traced operation f).Meets (custody loop) Q s :=
  meets_bind.mpr (meets_site (meets_traced h fun _ _ h' => meets_transact h' hf fun S _ hS h'' =>
    ⟨_, h'', fun t ht => hQ S t hS ht⟩))

theorem meets_save {r : Record} {Q : Except Exit Unit → Ward → Prop} (h : At loop true d s)
    (hQ : ∀ s', At loop true { d with table := r.encode } s' → Q (.ok ()) s') :
    (Keep.save d.store r).Meets (custody loop) Q s := by
  have hrest : ∀ s', At loop true d s' → Op.Meets (custody loop) Q (do
      Keep.obstacle ((← Op.site).storage.faults d.store).saveError
      Keep.traced "save" fun s => s.save d.store r.encode) s' := by
    intro s' h'
    have hstore : s'.site.session.store = d.store := congrArg Deposit.store (h'.deposit rfl)
    have hsave : (s'.site.storage.faults d.store).saveError = none := hstore ▸ h'.sure.reliable.save
    refine meets_bind.mpr (meets_site (meets_bind.mpr ?_))
    rw [hsave]
    refine meets_stored h' (fun S => S.keeps_save _ _) fun S s'' hS h'' => ?_
    obtain ⟨hok, htable⟩ := Storage.save_spec hS r.encode_names
    rw [hok]
    exact hQ s'' (htable ▸ h'')
  refine meets_bind.mpr (meets_site ?_)
  rw [after_ok]
  split
  · exact meets_bind.mpr (meets_sleep h hrest)
  · exact meets_bind.mpr (hrest s h)

theorem meets_clear {Q : Except Exit Unit → Ward → Prop} (h : At loop true d s)
    (hQ : ∀ s', At loop true { d with table := [] } s' → Q (.ok ()) s') :
    (Keep.clear d.store).Meets (custody loop) Q s := by
  have hstore : s.site.session.store = d.store := congrArg Deposit.store (h.deposit rfl)
  have hclear : (s.site.storage.faults d.store).clearError = none := hstore ▸ h.sure.reliable.clear
  refine meets_bind.mpr (meets_site (meets_bind.mpr ?_))
  rw [hclear]
  refine meets_stored h (fun S => S.keeps_clear _) fun S s' hS h' => ?_
  obtain ⟨hok, htable⟩ := Storage.clear_spec hS
  rw [hok]
  exact hQ s' (htable ▸ h')

/-! ## Hooks, notices and calls -/

theorem meets_tag {id : Nat} {key : String} {value : Value} {Q : Except Exit Unit → Ward → Prop}
    (h : At loop true d s) (hQ : ∀ s', At loop true d s' → Q (.ok ()) s') :
    (tag id key value).Meets (custody loop) Q s :=
  meets_lift.mpr (meets_update (h.mayChange ⟨rfl, rfl, rfl, .refl _⟩ rfl rfl rfl)
    (hQ _ (h.changed ⟨rfl, rfl, rfl, .refl _⟩ rfl (h.deposit rfl))))

theorem meets_announce {text : String} {level : Level} {Q : Except Exit Unit → Ward → Prop}
    (h : At loop true d s) (hQ : ∀ s', At loop true d s' → Q (.ok ()) s') :
    (announce text level).Meets (custody loop) Q s := by
  have hdated := h.sure.dated
  refine meets_bind.mpr (meets_site ?_)
  rw [Board.dated] at hdated
  simp only [after_ok, Board.transient]
  cases he : s.site.session.board.expiry s.site.now with
  | error f =>
    rw [he] at hdated
    cases hdated
  | ok due =>
    exact meets_bind.mpr (meets_modify h ⟨rfl, rfl, rfl, .refl _⟩ rfl (h.deposit rfl) fun s' h' => hQ s' h')

theorem meets_runHook {phase : Phase} {hook : StopHook} {Q : Except Exit Unit → Ward → Prop}
    (h : At loop true d s) (hok : hook.fails = false) (hQ : ∀ s', At loop true d s' → Q (.ok ()) s') :
    (Control.runHook phase hook).Meets (custody loop) Q s := by
  cases hook with
  | polling =>
    refine meets_perform.mpr ⟨trivial, fun r s' hr => hQ s' ?_⟩
    exact h.later hr.1 hr.2.1 fun hin => (hr.2.2 hin).2
  | configuration =>
    show Op.Meets _ _ (if phase = .complete then _ else _) _
    split
    · exact meets_modify h ⟨rfl, rfl, rfl, .refl _⟩ rfl (h.deposit rfl) hQ
    · exact hQ s h
  | user number id fails =>
    cases hok
    refine meets_bind.mpr (meets_lift.mpr (meets_update (h.mayChange ⟨rfl, rfl, rfl, .refl _⟩ rfl rfl rfl) ?_))
    exact hQ _ (h.changed ⟨rfl, rfl, rfl, .refl _⟩ rfl (h.deposit rfl))

theorem meets_runHooks {phase : Phase} {hooks : List StopHook} {Q : Except Exit Unit → Ward → Prop}
    (h : At loop true d s) (hok : ∀ hook ∈ hooks, hook.fails = false)
    (hQ : ∀ s', At loop true d s' → Q (.ok ()) s') :
    (Control.runHooks phase hooks).Meets (custody loop) Q s := by
  induction hooks generalizing s with
  | nil => exact hQ s h
  | cons hook rest ih =>
    refine meets_bind.mpr (meets_runHook h (hok hook List.mem_cons_self) fun s' h' => ?_)
    exact ih h' fun hook' hrest => hok hook' (List.mem_cons_of_mem _ hrest)

theorem meets_send {call : Call} {Q : Except Exit Answer → Ward → Prop} (h : At loop true d s)
    (hsendable : call.message.isSendable = true)
    (hQ : ∀ (o : Outcome) s', (call.message = Call.getResources.message → o.isReply = true) → At loop true d s' →
      Q ((o.received call).mapError .fault) s') : call.send.Meets (custody loop) Q s := by
  refine meets_traced h fun id s₁ h₁ => ?_
  simp only [hsendable]
  obtain ⟨hallows, hleads⟩ := h₁.waits (e := .send call.message) rfl (fun _ h => by cases h) fun _ h => by cases h
  refine meets_bind.mpr (meets_perform.mpr ⟨hallows, fun r s₂ hr => ?_⟩)
  obtain ⟨⟨o, rfl, ho⟩, h₂⟩ := hleads r s₂ hr
  refine meets_bind.mpr (meets_unwrap_back.mpr ?_)
  cases o with
  | answered a => exact meets_bind.mpr (meets_tag h₂ fun s₃ h₃ => ⟨d, h₃, fun s₄ h₄ => hQ _ s₄ ho h₄⟩)
  | unreachable failure text =>
    exact meets_bind.mpr (meets_tag h₂ fun s₃ h₃ => ⟨d, h₃, fun s₄ h₄ => hQ _ s₄ ho h₄⟩)
  | failed f => exact ⟨d, h₂, fun s₃ h₃ => hQ _ s₃ ho h₃⟩

/-! ## Fetching the resources -/

/-- What ends fetching the resources early is a fault of the service. -/
def OfService (r : Except Exit α) : Prop :=
  ∀ e, r = .error e → ∃ f, e = .fault (.client (.service f)) ∧ f.kind = .resourceFetch

theorem ofService_ok (a : α) : OfService (.ok a : Except Exit α) := fun _ h => by cases h

theorem meets_fetchNow {Q : Except Exit (List Resource) → Ward → Prop} (h : At loop true d s)
    (hQ : ∀ r s', OfService r → At loop true d s' → Q r s') :
    Reconcile.fetchNow.Meets (custody loop) Q s := by
  refine meets_bind.mpr (meets_traced h fun id s₁ h₁ => ?_)
  refine meets_bind.mpr (meets_modify h₁ ⟨rfl, rfl, rfl, .refl _⟩ rfl (h₁.deposit rfl) fun s₂ h₂ => ?_)
  refine meets_bind.mpr (meets_rescue.mpr (meets_bind.mpr (meets_send h₂ rfl fun o s₃ ho h₃ =>
    Surroundings.after_shards ?_)))
  cases hshards : o.shards with
  | error f =>
    have hf : o.resources = .error f := by rw [Outcome.resources, hshards]; rfl
    obtain ⟨g, rfl, hkind⟩ := Core.resources_of_isReply (ho rfl) hf
    refine ⟨d, h₃, fun s₄ h₄ => hQ _ s₄ (fun e he => ?_) h₄⟩
    cases he
    exact ⟨g, rfl, hkind⟩
  | ok m =>
    refine meets_bind.mpr (meets_tag h₃ fun s₄ h₄ => ⟨d, h₄, fun s₅ h₅ => ?_⟩)
    exact meets_bind.mpr (meets_modify h₅ ⟨rfl, rfl, rfl, .refl _⟩ rfl (h₅.deposit rfl) fun s₆ h₆ =>
      hQ _ s₆ (ofService_ok _) h₆)

/-- **Fetching goes through its gate**, which nobody else is at. -/
theorem meets_fetch {Q : Except Exit (List Resource) → Ward → Prop} (h : At loop true d s) (hopened : d.fetchGate = {})
    (hQ : ∀ r s', OfService r → At loop true d s' → Q r s') : Reconcile.fetch.Meets (custody loop) Q s := by
  have hgate : s.site.deposit.fetchGate = {} := (congrArg Deposit.fetchGate (h.deposit rfl)).trans hopened
  refine meets_bind.mpr (meets_bind.mpr (meets_perform.mpr ⟨⟨h.inside, hgate⟩, ?_⟩))
  rintro _ s₁ ⟨rfl, hinside, hlater, hdeposit⟩
  have h₁ : At loop true { d with fetchGate := { held := true } } s₁ :=
    ⟨hinside.trans h.inside, hlater.sure, fun hloop => by rw [hlater.applying hloop, hinside, h.marked hloop],
      fun _ => by rw [hdeposit, h.deposit rfl]⟩
  have hopens : ∀ r s₂, OfService r → At loop true { d with fetchGate := { held := true } } s₂ →
      (Work.perform (.release .fetch)).Meets (custody loop) (fun _ s' => Q r s') s₂ := by
    refine fun r s₂ hok h₂ => Work.meets_perform.mpr ⟨⟨h₂.inside, ?_⟩, ?_⟩
    · rw [h₂.deposit rfl]
    · rintro _ s₃ ⟨hinside, hlater, hdeposit⟩
      refine hQ r s₃ hok ⟨hinside.trans h₂.inside, hlater.sure, fun hloop => ?_, fun _ => ?_⟩
      · rw [hlater.applying hloop, hinside, h₂.marked hloop]
      · rw [hdeposit, h₂.deposit rfl, ← hopened]
  refine meets_unwrap_back.mpr (meets_ensure.mpr (meets_bind.mpr (meets_session ?_)))
  rw [after_ok]
  split
  · exact hopens _ s₁ (ofService_ok _) h₁
  · exact meets_fetchNow h₁ hopens

theorem meets_reconcileOnce {Q : Except Exit Unit → Ward → Prop} (h : At loop true d s) (hopened : d.fetchGate = {})
    (hQ : ∀ d' s', d.Reconciled d' → At loop true d' s' → Q (.ok ()) s') :
    Control.reconcileOnce.Meets (custody loop) Q s := by
  refine meets_bind.mpr (meets_session ?_)
  show Op.Meets _ _ (if (!_ && !_) = true then _ else _) _
  split
  · refine meets_rescue.mpr (meets_bind.mpr (meets_fetch h hopened fun r s' hr h' => ?_))
    have hd := h'.deposit rfl
    cases r with
    | ok items =>
      refine meets_modify h' ⟨rfl, rfl, rfl, .refl _⟩ rfl rfl fun s'' h'' => hQ _ s'' ?_ h''
      subst hd
      exact ⟨rfl, rfl, rfl, hopened⟩
    | error e =>
      obtain ⟨f, rfl, hkind⟩ := hr e rfl
      show Op.Meets _ _ (if f.kind = .resourceFetch then _ else _) _
      rw [if_pos hkind]
      refine meets_bind.mpr (meets_modify h' ⟨rfl, rfl, rfl, .refl _⟩ rfl rfl fun s'' h'' => ?_)
      refine meets_bind.mpr (meets_site ?_)
      refine meets_modify h'' ⟨rfl, rfl, rfl, .refl _⟩ rfl (h''.deposit rfl) fun s₃ h₃ => hQ _ s₃ ?_ h₃
      subst hd
      exact ⟨rfl, rfl, rfl, hopened⟩
  · exact hQ d s ⟨rfl, rfl, rfl, hopened⟩ h

/-! ## What is done behind the gate -/

/-- The work is behind the gate, and the run is settled. -/
def Leaves (loop : Bool) (s : Ward) : Prop := ∃ d : Deposit, d.Settled ∧ At loop true d s

theorem store_eq (h : At loop true d s) : s.site.session.store = d.store := congrArg Deposit.store (h.deposit rfl)

theorem state_eq (h : At loop true d s) : s.site.session.state = d.state := congrArg Deposit.state (h.deposit rfl)

theorem fetchGate_eq (h : At loop true d s) : s.site.session.fetchGate = d.fetchGate :=
  congrArg Deposit.fetchGate (h.deposit rfl)

theorem record_eq (h : At loop true d s) : s.site.session.record = d.record := by
  rw [← h.deposit rfl]
  rfl

theorem Leaves.beside {op : Op α} (h : Leaves loop s) (hop : op.Touches cs) (hcs : Aloof cs) :
    op.Meets (custody loop) (fun _ s' => Leaves loop s') s := by
  obtain ⟨d, hd, hs⟩ := h
  exact meets_beside hs hop hcs fun _ s' hs' => ⟨d, hd, hs'⟩

theorem meets_complete (h : At loop true d s) (hopened : d.fetchGate = {}) (hphase : d.state.phase = .complete) :
    Control.complete.Meets (custody loop) (fun _ s' => Leaves loop s') s := by
  refine meets_bind.mpr (meets_modify h ⟨rfl, rfl, rfl, .refl _⟩ rfl rfl fun s₁ h₁ => meets_bind.mpr (meets_session ?_))
  refine meets_bind.mpr (meets_runHooks h₁ h₁.sure.reliable.hooks fun s₂ h₂ => ?_)
  have hopened' := (fetchGate_eq h).trans hopened
  refine meets_bind.mpr (meets_reconcileOnce h₂ hopened' fun d' s₃ hd' h₃ => meets_bind.mpr (meets_session ?_))
  have hover : d'.state.isRunning = false := hd'.running.trans rfl
  have hdone : d'.state.phase = .complete := hd'.phase.trans ((congrArg RunState.phase (state_eq h)).trans hphase)
  rw [after_ok, store_eq h₃]
  refine meets_bind.mpr (meets_clear h₃ fun s₄ h₄ => ?_)
  have hleaves : Leaves loop s₄ := ⟨_, Deposit.settled_empty hd'.opened hover (by rw [hdone]; rfl), h₄⟩
  exact hleaves.beside (touches_announce _ _) (by decide)

theorem meets_failRun (h : At loop true d s) (hopened : d.fetchGate = {}) (errorText : Value) :
    (Control.failRun errorText).Meets (custody loop) (fun _ s' => Leaves loop s') s := by
  refine meets_bind.mpr (meets_modify h ⟨rfl, rfl, rfl, .refl _⟩ rfl rfl fun s₁ h₁ => meets_bind.mpr (meets_session ?_))
  refine meets_bind.mpr (meets_runHooks h₁ h₁.sure.reliable.hooks fun s₂ h₂ => meets_bind.mpr (meets_session ?_))
  rw [after_ok, store_eq h₂]
  refine meets_bind.mpr (meets_clear h₂ fun s₃ h₃ => ?_)
  have hleaves : Leaves loop s₃ := ⟨_, Deposit.settled_empty ((fetchGate_eq h).trans hopened) rfl rfl, h₃⟩
  exact hleaves.beside (touches_alarm _) (by decide)

theorem meets_persist {Q : Except Exit Unit → Ward → Prop} (h : At loop true d s) (hopened : d.fetchGate = {})
    (hrunning : d.state.isRunning = true) (hQ : ∀ s', Leaves loop s' → Q (.ok ()) s') :
    Control.persist.Meets (custody loop) Q s := by
  refine meets_bind.mpr (meets_session ?_)
  rw [after_ok, store_eq h, record_eq h]
  exact meets_save h fun s' h' => hQ s' ⟨_, Deposit.settled_stored hopened hrunning, h'⟩

theorem meets_settle (h : At loop true d s) (hopened : d.fetchGate = {}) (hrunning : d.state.isRunning = true)
    (a : RunState.Advance) :
    (Control.settle a).Meets (custody loop) (fun _ s' => Leaves loop s') s := by
  refine meets_bind.mpr (meets_session ?_)
  show Op.Meets _ _ (if _ = Phase.complete then _ else _) _
  split
  next hphase => exact meets_complete h hopened ((congrArg RunState.phase (state_eq h)).symm.trans hphase)
  next =>
    split
    · refine meets_bind.mpr (meets_reconcileOnce h hopened fun d' s' hd' h' => ?_)
      exact meets_persist h' hd'.opened (hd'.running.trans hrunning) fun s'' h'' => h''
    · exact meets_persist h hopened hrunning fun s'' h'' => h''

/-- **A report that moves the run on** leaves it settled. -/
theorem meets_applyActive (h : At loop true d s) (hd : d.Settled) (hactive : d.state.phase.isActive = true)
    (previous : Phase) (report : Status) :
    (Control.applyActive previous report).Meets (custody loop) (fun _ s' => Leaves loop s') s := by
  have hstate := state_eq h
  show Op.Meets _ _ (if report.isFailure = true then _ else _) _
  split
  · refine meets_bind.mpr ((meets_failRun h hd.opened report.errorText).mono ?_)
    rintro (e | _) s' hs'
    · exact hs'
    · exact hs'
  · refine meets_bind.mpr (meets_bind.mpr (meets_session (meets_ofExcept.mpr ?_)))
    cases hcheck : s.site.session.state.check with
    | error f => exact ⟨d, hd, h⟩
    | ok before =>
      obtain ⟨rfl, -⟩ := RunState.sound_of_check hcheck
      refine meets_bind.mpr (meets_bind.mpr (meets_session (meets_bind.mpr (meets_ofExcept.mpr ?_))))
      cases hadvance : s.site.session.state.advance s.site.session.mode s.site.session.transfer report with
      | error f => exact ⟨d, hd, h⟩
      | ok a =>
        obtain ⟨q, -, hcourse⟩ := RunState.Course.of_advance (by rw [hstate]; exact hactive) hadvance
        have hrest : ∀ (s' : Ward), At loop true { d with run := (a.state, d.run.2) } s' → Op.Meets (custody loop)
            (fun _ s' => Leaves loop s') (do
              if (← Op.session).state.sameAs s.site.session.state then
                return some (⟨previous, s.site.session.state, false⟩ : Transition)
              else
                Control.settle a
                return none) s' := by
          intro s' h'
          refine meets_bind.mpr (meets_session ?_)
          show Op.Meets _ _ (if RunState.sameAs _ _ = true then _ else _) _
          rw [state_eq h']
          split
          next hsame =>
            have heq : a.state = d.state := (hcourse.eq_of_sameAs hsame).trans hstate
            refine ⟨_, ?_, h'⟩
            rw [heq]
            exact hd
          next =>
            have hrunning : a.state.isRunning = true := by
              show a.state.inProgress.isTruthy = true
              rw [hcourse.inProgress]
              exact (congrArg RunState.isRunning hstate).trans (hd.running hactive)
            refine meets_bind.mpr ((meets_settle h' hd.opened hrunning a).mono ?_)
            rintro (e | _) s'' hs''
            · exact hs''
            · exact hs''
        have hdeposit : (s.site.onSession fun s => { s with state := a.state }).deposit =
            { d with run := (a.state, d.run.2) } := by
          rw [← h.deposit rfl]
          rfl
        show Op.Meets _ _ (modify _ >>= _) _
        refine meets_bind.mpr (meets_modify h ⟨rfl, rfl, rfl, .refl _⟩ rfl hdeposit fun s' h' => ?_)
        rw [after_ok]
        cases a.provisions with
        | true => exact meets_bind.mpr (meets_announce h' hrest)
        | false => exact hrest s' h'

theorem meets_applyTraced (h : At loop true d s) (hd : d.Settled) (span : Nat) (report : Status) :
    (Control.applyTraced s.site.session.state.phase report span).Meets (custody loop)
      (fun _ s' => Leaves loop s') s := by
  show Op.Meets _ _ (if _ = true then _ else _) _
  split
  next hactive =>
    rw [state_eq h] at hactive
    refine meets_bind.mpr ((meets_applyActive h hd hactive _ report).mono ?_)
    rintro (e | result) s' hs'
    · exact hs'
    · have hrest : Op.Touches [] (do
          if result.isNone then tag span Attribute.nextPhase (Vocabulary.toValue (← session).state.phase)
          return result) :=
        touches_ite (touches_bind touches_session fun _ => touches_bind (touches_tag _ _ _) fun _ =>
          touches_pure _) (touches_pure _)
      exact hs'.beside hrest (by decide)
  next =>
    have hrest : Op.Touches [] (do
        return some (⟨s.site.session.state.phase, ← Control.snapshot, false⟩ : Transition)) :=
      touches_bind Control.touches_snapshot fun _ => touches_pure _
    exact Leaves.beside ⟨d, hd, h⟩ hrest (by decide)

/-! ## Through the gate -/

/-- Work stands at the gate: a loop has marked that a status is being applied. -/
structure AtGate (loop : Bool) (s : Ward) : Prop where
  inside : s.inside = false
  sure : s.site.Sure
  applying : loop = true → s.site.session.applying = true

/-- **What goes through the gate** finds the run settled, and leaves it so. -/
theorem meets_guarded {op : Op α} (h : AtGate loop s)
    (hop : ∀ d s, d.Settled → At loop true d s → op.Meets (custody loop) (fun _ s' => Leaves loop s') s) :
    (guarded .state op).Meets (custody loop) (fun _ s' => AtGate loop s') s := by
  refine meets_bind.mpr (meets_bind.mpr (meets_perform.mpr ⟨⟨h.inside, h.applying⟩, ?_⟩))
  rintro _ s₁ ⟨rfl, hinside, hsettled, hlater⟩
  have h₁ : At loop true s₁.site.deposit s₁ :=
    ⟨hinside, hlater.sure, fun hloop => by rw [hlater.applying hloop, hinside, h.applying hloop], fun _ => rfl⟩
  refine meets_unwrap_back.mpr (meets_ensure.mpr ((hop _ s₁ hsettled h₁).mono ?_))
  rintro r s₂ ⟨d, hd, h₂⟩
  refine Work.meets_perform.mpr ⟨⟨h₂.inside, (h₂.deposit rfl).symm ▸ hd⟩, ?_⟩
  rintro _ s₃ ⟨hinside, hlater⟩
  exact ⟨hinside, hlater.sure, fun hloop => by rw [hlater.applying hloop, h₂.marked hloop, h₂.inside]⟩

/-- **A report is applied** behind the gate. -/
theorem meets_apply (h : AtGate loop s) (report : Status) :
    (Control.apply report).Meets (custody loop) (fun _ s' => AtGate loop s') s := by
  refine meets_guarded h fun d s hd h => meets_bind.mpr (meets_session ?_)
  refine meets_bind.mpr (meets_traced h fun span s₁ h₁ => ?_)
  have hphase : s₁.site.session.state.phase = s.site.session.state.phase := by rw [state_eq h₁, state_eq h]
  refine (hphase ▸ meets_applyTraced h₁ hd span report).mono ?_
  rintro r s₂ ⟨d', hd', h₂⟩
  refine ⟨d', h₂, fun s₃ h₃ => ?_⟩
  have hleaves : Leaves loop s₃ := ⟨d', hd', h₃⟩
  rcases r with e | _ | ignored
  · exact hleaves
  · have hrest : Op.Touches [] (do
        Control.publish
        return (⟨s.site.session.state.phase, ← Control.snapshot, true⟩ : Transition)) :=
      touches_bind Control.touches_publish fun _ => touches_bind Control.touches_snapshot fun _ => touches_pure _
    exact hleaves.beside hrest (by decide)
  · exact hleaves

/-! ## What else is done -/

theorem At.atGate (h : At false false d s) : AtGate false s := ⟨h.inside, h.sure, by rintro ⟨⟩⟩

theorem AtGate.at (h : AtGate false s) : At false false d s := ⟨h.inside, h.sure, by rintro ⟨⟩, by rintro ⟨⟩⟩

theorem upholds_beside {op : Op α} (hop : op.Touches cs) (hcs : Aloof cs) : op.Upholding (custody loop) (At loop b d) :=
  hop.upholds (custody_hosts hcs)

theorem upholds_aside {op : Op α} (hop : op.Touches []) : op.Upholding (custody loop) (At loop b d) :=
  upholds_beside hop (by decide)

theorem upholds_guarded {op : Op α}
    (hop : ∀ d s, d.Settled → At false true d s → op.Meets (custody false) (fun _ s' => Leaves false s') s) :
    (guarded .state op).Upholding (custody false) (At false false d) :=
  fun _ h => (meets_guarded h.atGate hop).mono fun _ _ h' => ⟨h'.at, fun _ _ => trivial⟩

theorem upholds_apply (report : Status) : (Control.apply report).Upholding (custody false) (At false false d) :=
  fun _ h => (meets_apply h.atGate report).mono fun _ _ h' => ⟨h'.at, fun _ _ => trivial⟩

theorem upholds_begin (mode : Mode) (transfer : Transfer) (shards instances : Value) :
    (Control.begin mode transfer shards instances).Upholding (custody false) (At false false d) := by
  refine upholds_guarded fun d s hd h => meets_bind.mpr (meets_session ?_)
  rw [after_ok]
  split
  · exact ⟨d, hd, h⟩
  · refine meets_bind.mpr (meets_modify h ⟨rfl, rfl, rfl, .refl _⟩ rfl rfl fun s₁ h₁ => ?_)
    have hopened := (fetchGate_eq h).trans hd.opened
    refine meets_bind.mpr (meets_persist h₁ hopened (Core.isRunning_launched mode) fun s₂ h₂ => ?_)
    have hrest : Op.Touches [] (do
        Control.publish
        Control.snapshot) := touches_bind Control.touches_publish fun _ => Control.touches_snapshot
    exact h₂.beside hrest (by decide)

theorem upholds_reset : Control.reset.Upholding (custody false) (At false false d) := by
  refine upholds_guarded fun d s hd h => ?_
  refine meets_bind.mpr (meets_modify h ⟨rfl, rfl, rfl, .refl _⟩ rfl rfl fun s₁ h₁ => meets_bind.mpr (meets_session ?_))
  rw [after_ok, store_eq h₁]
  refine meets_bind.mpr (meets_clear h₁ fun s₂ h₂ => ?_)
  have hpublish : Control.publish.Touches [] := Control.touches_publish
  exact Leaves.beside ⟨_, Deposit.settled_empty ((fetchGate_eq h).trans hd.opened) rfl rfl, h₂⟩ hpublish (by decide)

theorem upholds_reconcile : Control.reconcile.Upholding (custody false) (At false false d) := by
  refine upholds_bind (upholds_aside touches_session) fun _ _ =>
    upholds_unless (b := ()) (upholds_guarded fun d s hd h => ?_)
  exact meets_fetch h hd.opened fun _ s' _ h' => ⟨d, hd, h'⟩


theorem At.changedOutside {y : Site} (h : At false false d s) (hmay : s.MayChange false y) :
    At false false d { s with site := { y with now := s.site.now } } where
  inside := h.inside
  sure := h.sure.firm ⟨hmay.firm.store, hmay.firm.hooks, hmay.firm.ttl, hmay.firm.storage⟩ rfl
  marked := by rintro ⟨⟩
  deposit := by rintro ⟨⟩

theorem At.laterOutside (h : At false false d s) (hinside : s'.inside = s.inside) (hlater : s.Later false s') :
    At false false d s' :=
  h.later hinside hlater fun hin => by cases h.inside.symm.trans hin

theorem upholds_start : Poll.start.Upholding (custody false) (At false false d) := by
  refine upholds_bind (upholds_aside Poll.touches_isRunning) fun running _ =>
    upholds_ite (fun _ => fun s h => ?_) fun _ => upholds_pure trivial
  refine meets_bind.mpr (meets_lift.mpr (meets_update (s := s) ?_ ?_))
  · exact ⟨⟨rfl, rfl, rfl, .refl _⟩, rfl, .inl rfl, .inr rfl, fun _ => rfl⟩
  refine meets_bind.mpr (meets_perform.mpr ⟨trivial, ?_⟩)
  rintro i s₁ ⟨hinside, hi, hlater⟩
  have h₁ : At false false d s₁ := AtGate.at ⟨hinside.trans h.inside, hlater.sure, by rintro ⟨⟩⟩
  have hmay : s₁.MayChange false (s₁.site.onSession fun s => { s with pollTask := some i }) :=
    ⟨⟨rfl, rfl, rfl, .refl _⟩, rfl, .inr (.inr ⟨i, hi, rfl⟩), .inr rfl, fun _ => rfl⟩
  exact meets_lift.mpr (meets_update hmay (upheld_ok (h₁.changedOutside hmay) trivial))

theorem upholds_join (i : Nat) : (perform (.join i)).Upholding (custody false) (At false false d) := fun _ h =>
  meets_perform.mpr ⟨⟨h.inside, rfl⟩, fun _ _ hr => upheld_ok (h.laterOutside hr.1 hr.2.1) trivial⟩

theorem upholds_joinQuietly (i : Nat) : (Poll.joinQuietly i).Upholding (custody false) (At false false d) := by
  refine upholds_bind (upholds_join i) fun w _ => ?_
  split
  · exact upholds_fail _
  · exact upholds_pure trivial

/-- **The loop is stopped**: it is cancelled only where no status is being applied. -/
theorem upholds_stop : Poll.stop.Upholding (custody false) (At false false d) := by
  have hforget : (Op.modify fun s => { s with pollTask := none }).Upholding (custody false) (At false false d) := by
    intro s h
    have hmay : s.MayChange false (s.site.onSession fun s => { s with pollTask := none }) :=
      ⟨⟨rfl, rfl, rfl, .refl _⟩, rfl, .inr (.inl rfl), .inr rfl, fun _ => rfl⟩
    exact meets_lift.mpr (meets_update hmay (upheld_ok (h.changedOutside hmay) trivial))
  have hjoin : ∀ i, Op.Upholding (custody false) (At false false d) (do
      Poll.joinQuietly i
      Op.modify fun s => { s with pollTask := none }) := fun i =>
    upholds_bind (upholds_joinQuietly i) fun _ _ => hforget
  refine upholds_bind (upholds_aside (touches_perform .raiseLatch rfl trivial)) fun _ _ => ?_
  -- What is read of the session here still holds when the loop is cancelled.
  refine fun s h => meets_bind.mpr (meets_session ?_)
  rw [after_ok]
  cases hknown : s.site.session.pollTask with
  | none => exact upheld_ok h trivial
  | some i =>
    refine meets_bind.mpr (meets_perform.mpr ⟨trivial, ?_⟩)
    rintro ended _ rfl
    rw [after_ok]
    split
    · refine meets_bind.mpr (meets_session ?_)
      rw [after_ok]
      split
      next happlying =>
        rw [Bool.not_eq_true'] at happlying
        refine meets_bind.mpr (meets_perform.mpr ⟨⟨h.inside, rfl, hknown, happlying⟩, fun _ s₁ hr => ?_⟩)
        exact hjoin i s₁ (h.laterOutside hr.1 hr.2.1)
      next => exact hjoin i _ h
    · exact hforget _ h

theorem upholds_wait : Poll.wait.Upholding (custody false) (At false false d) := by
  refine upholds_bind (upholds_aside touches_session) fun x _ => ?_
  cases x.pollTask with
  | none => exact upholds_pure trivial
  | some i =>
    refine upholds_bind (upholds_join i) fun w _ => ?_
    refine upholds_bind (upholds_unwrap (p := fun _ => True) fun _ _ => trivial) fun r _ => ?_
    cases r with
    | ok _ => exact upholds_pure trivial
    | error e => exact upholds_throw e

/-! ## Launching and conducting -/

theorem upholds_submit (r : Request) : (Launch.submit r).Upholding (custody false) (At false false d) := by
  have hhosts : Hosts (custody false) Ward.site (At false false d) [] := custody_hosts (by decide)
  refine hhosts.upholds_traced fun id => ?_
  refine upholds_bind (upholds_beside (Launch.touches_send r id) (by decide)) fun _ _ =>
    upholds_bind (upholds_aside touches_session) fun _ _ => ?_
  have hbegin : Op.Upholding (custody false) (At false false d) (do
      let count : Int := r.shards.length
      let state ← Control.begin r.mode r.transfer (.whole count) (.whole (max 1 count))
      Poll.start
      return state) :=
    upholds_bind (upholds_begin _ _ _ _) fun _ _ => upholds_bind upholds_start fun _ _ => upholds_pure trivial
  exact upholds_ite (fun _ => upholds_bind (upholds_beside Reconcile.touches_forget (by decide)) fun _ _ => hbegin)
    fun _ => hbegin

theorem upholds_request (r : Request) : (Launch.request r).Upholding (custody false) (At false false d) := by
  have hmark : ∀ launching, (Work.update (Site.onSession fun s => { s with launching })).Touches [.launching] :=
    fun launching => touches_update fun x => Launch.changes_mark List.mem_cons_self x launching
  refine upholds_bind (upholds_aside Launch.touches_refuseSecond) fun _ _ =>
    upholds_bind (upholds_beside (touches_lift (hmark true)) (by decide)) fun _ _ =>
      upholds_bind (upholds_ensure (upholds_submit r) ((hmark false).upholds (custody_hosts (by decide)))) fun _ _ => ?_
  exact upholds_bind (upholds_beside (touches_announce _ _) (by decide)) fun _ _ => upholds_pure trivial

theorem upholds_order (o : Order) : (Launch.order o).Upholding (custody false) (At false false d) :=
  upholds_bind (upholds_aside Launch.touches_refuseSecond) fun _ _ =>
    upholds_bind (upholds_aside (Launch.touches_assembled o)) fun r _ => upholds_request r

theorem upholds_abandon : Conduct.abandon.Upholding (custody false) (At false false d) :=
  upholds_bind upholds_stop fun _ _ => upholds_bind upholds_reset fun _ _ =>
    upholds_bind (upholds_beside Configure.touches_reset (by decide)) fun _ _ =>
      upholds_beside Reconcile.touches_forget (by decide)

theorem upholds_close : Conduct.close.Upholding (custody false) (At false false d) :=
  upholds_bind upholds_stop fun _ _ => upholds_aside Control.touches_close

theorem upholds_reconcileNow : Conduct.reconcileNow.Upholding (custody false) (At false false d) := by
  refine upholds_rescue upholds_reconcile fun f => upholds_beside ?_ (show Aloof [.board] by decide)
  exact touches_ite (touches_bind (touches_alarm _) fun _ => touches_fail _) (touches_fail _)

end Ward

/-! ## All actions -/

/-- **What keeps to the gate**: all that can be asked but that a stored run is taken up, that a status is read by
itself, and what is done to the store past its session. -/
def Action.KeepsToGate : Action → Prop
  | .whole .begin | .run (.restore _) | .poll .once | .store _ => False
  | _ => True

open Ward Op

variable {d : Deposit}

/-- **Every such action keeps to the gate.** -/
theorem Action.upholds_custody {a : Action} (h : a.KeepsToGate) :
    a.op.Upholding (custody false) (At false false d) := by
  have hbeside : Aloof a.concerns → a.op.Upholding (custody false) (At false false d) := upholds_beside a.touches
  have hwhole : ∀ a : WholeAction, a.op.Upholding (custody false) (At false false d) →
      (Action.whole a).op.Upholding (custody false) (At false false d) := fun a ha =>
    upholds_bind (upholds_aside touches_session) fun _ _ => upholds_unless (b := ()) ha
  have hquietly : ∀ op : Op Unit, op.Upholding (custody false) (At false false d) →
      op.quietly.Upholding (custody false) (At false false d) := fun op hop =>
    upholds_bind hop fun _ _ => upholds_pure trivial
  cases a with
  | whole a =>
    cases a with
    | begin => exact absurd h id
    | launch order => exact hwhole _ (upholds_map (upholds_order order) fun _ _ => trivial)
    | cancel => exact hwhole _ (hquietly _ upholds_stop)
    | abandon => exact hwhole _ (hquietly _ upholds_abandon)
    | reconcileNow => exact hwhole _ (upholds_map upholds_reconcileNow fun _ _ => trivial)
    | close => exact hwhole _ (hquietly _ upholds_close)
    | forget => exact hbeside (show Aloof [.resources] by decide)
    | page | offers | summary | standing | kept => exact hbeside (show Aloof [] by decide)
  | run a =>
    cases a with
    | begin mode transfer shards instances => exact upholds_map (upholds_begin _ _ _ _) fun _ _ => trivial
    | restore record => exact absurd h id
    | apply report => exact upholds_map (upholds_apply report) fun _ _ => trivial
    | reset => exact hquietly _ upholds_reset
    | reconcile => exact upholds_map upholds_reconcile fun _ _ => trivial
    | close => exact hbeside (by decide)
  | poll a =>
    cases a with
    | start => exact hquietly _ upholds_start
    | stop => exact hquietly _ upholds_stop
    | requestStop => exact hbeside (by decide)
    | wait => exact hquietly _ upholds_wait
    | once => exact absurd h id
    | submit request => exact upholds_map (upholds_request request) fun _ _ => trivial
  | configure a =>
    cases a with
    | streaming | staging | compute | finalize => exact hbeside (show Aloof Configure.concerns by decide)
    | isSet | snapshot => exact hbeside (show Aloof [] by decide)
    | _ => exact hbeside (show Aloof [.configuration] by decide)
  | notice a => exact hbeside (show Aloof [.board] by decide)
  | store a => exact absurd h id
  | service a =>
    cases a with
    | write call => exact hbeside (by simp [Aloof, Action.concerns, ServiceAction.concerns])
    | status | resources | summary | visit => exact hbeside (by decide)

/-! ## The loop and the readers -/

/-- A loop marks that a status is being applied, and takes it through the gate. -/
theorem Poll.upholds_applyMarked_custody (report : Status) :
    (Poll.applyMarked report).Upholding (custody true) (At true false d) := by
  have hmark : ∀ (s : Ward) applying, s.inside = false →
      s.MayChange true (s.site.onSession fun s => { s with applying }) := fun s _ hinside =>
    ⟨⟨rfl, rfl, rfl, .refl _⟩, rfl, .inl rfl, .inl ⟨rfl, hinside⟩, fun _ => rfl⟩
  have hlast : ∀ s, AtGate true s → (Work.update (Site.onSession fun s => { s with applying := false })).Meets
      (custody true) (fun _ s' => At true false d s') s := fun s h =>
    meets_update (hmark s false h.inside)
      ⟨h.inside, h.sure.firm ⟨rfl, rfl, rfl, .refl _⟩ rfl, fun _ => h.inside.symm, by rintro ⟨⟩⟩
  intro s h
  refine meets_bind.mpr (meets_lift.mpr (meets_update (hmark s true h.inside) ?_))
  refine meets_ensure.mpr (meets_bind.mpr ((meets_apply ?_ report).mono ?_))
  · exact ⟨h.inside, h.sure.firm ⟨rfl, rfl, rfl, .refl _⟩ rfl, fun _ => rfl⟩
  rintro (e | t) s₁ h₁
  · exact (hlast s₁ h₁).mono fun _ s₂ h₂ => upheld_error h₂
  · exact (hlast s₁ h₁).mono fun _ s₂ h₂ => upheld_ok h₂ trivial

/-- The work in the background that is a loop. -/
def Background.isLoop : Background → Bool
  | .pollLoop => true
  | .reader .. => false

/-- **Every round in the background keeps to the gate.** -/
theorem Background.upholds_custody (b : Background) :
    b.begin.Upholding (custody b.isLoop) (At b.isLoop false d) ∧
      b.round.Upholding (custody b.isLoop) (At b.isLoop false d) := by
  cases b with
  | pollLoop =>
    have hround := Poll.upholds_round (custody_hosts (b := false) (d := d) (by decide))
      Poll.upholds_applyMarked_custody
    exact ⟨hround, hround⟩
  | reader number id includeCurrent =>
    exact ⟨upholds_beside (Reader.touches_begin number id includeCurrent) (by decide),
      upholds_beside (Reader.touches_round number id) (by decide)⟩

end Cutover
