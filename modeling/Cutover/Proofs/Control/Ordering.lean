import Cutover.Proofs.Control.Setting

/-!
# Sending what was drafted

Who launches a run for an order looks at the fragments and sends the request before anybody else goes on. It is the
one that the draft gives, and the run that is then begun and stored has as many shards.

* `Sheet.Offers`, `Sheet.meets_sendOffer`: **the request that is sent is the one that the draft gives**;
* `Sheet.Done`, `Sheet.meets_begins`: the run is begun, and its record is stored;
* `Sheet.closes_action`: **all work that is asked for keeps to the draft**.
-/

namespace Cutover

/-- Shards are handed over to the service beside the configuration. -/
def Action.handsOver : Action → Bool
  | service (.write (.setShards _)) => true
  | _ => false

theorem Draft.Gives.unique {d : Draft} {summary : Option Summary} {o : Order} {r r' : Request}
    (h : d.Gives summary o r) (h' : d.Gives summary o r') : r = r' := by
  have hsharded : r.isSharded = r'.isSharded := h.isSharded.trans h'.isSharded.symm
  have hshards : r.shards = r'.shards := by
    cases htruthy : r.isSharded.isTruthy with
    | true =>
      have htruthy' : r'.isSharded.isTruthy = true := hsharded ▸ htruthy
      exact Option.some.inj ((h.sharded htruthy).1.symm.trans (h'.sharded htruthy').1)
    | false => exact (h.single htruthy).trans (h'.single (hsharded ▸ htruthy)).symm
  have htarget : r.target = r'.target := Option.some.inj (h.target.symm.trans h'.target)
  have hmode := h.mode.trans h'.mode.symm
  have htransfer := h.transfer.trans h'.transfer.symm
  have hskip := h.skipForeignKeys.trans h'.skipForeignKeys.symm
  have hsource := h.sourceProfile.trans h'.sourceProfile.symm
  have hprofile := h.targetProfile.trans h'.targetProfile.symm
  have hstreaming := h.streaming.trans h'.streaming.symm
  have hstaging := h.staging.trans h'.staging.symm
  have hcompute := h.compute.trans h'.compute.symm
  have hmetadata := h.metadataPath.trans h'.metadataPath.symm
  cases r
  cases r'
  simp_all

namespace Sheet

variable {α β : Type} {g : Errand} {s s' : Sheet} {given : Option Request} {cs : List Concern} {o : Order} {r : Request}

open Op

theorem meets_next {op : Op α} {f : α → Op β} {Q : Except Exit β → Sheet → Prop}
    (h : op.Upholding (drafting g) (Holds given)) (hs : s.Holds given)
    (hfails : ∀ e (s' : Sheet), s'.Holds given → Q (.error e) s')
    (hf : ∀ a (s' : Sheet), s'.Holds given → (f a).Meets (drafting g) Q s') :
    (op >>= f).Meets (drafting g) Q s := by
  refine meets_bind.mpr ((h s hs).mono fun r s' hr => ?_)
  cases r with
  | error e => exact hfails e s' hr.1
  | ok a => exact hf a s' hr.1

/-! ## A request is sent -/

/-- **A request for an order is about to be sent**, as the draft gives it. -/
structure Offers (o : Order) (r : Request) (s : Sheet) : Prop extends s.Holds none where
  before : s.before = s.draft
  gives : s.draft.Gives s.site.session.summary o r

theorem Offers.after (h : s.Offers o r) (hg : g.applies = false) {y : Site}
    (hfragments : y.session.fragments = s.site.session.fragments) (hhooks : y.session.hooks = s.site.session.hooks)
    (hsummary : y.session.summary = s.site.session.summary) : (s.after g y).Offers o r := by
  have hphase : g.applies = true → y.session.state.phase = .complete → s.site.session.state.phase = .complete :=
    fun happlies => by cases hg.symm.trans happlies
  refine ⟨h.toHolds.after hfragments hhooks hphase, h.before.trans (draft_after hphase).symm, ?_⟩
  rw [draft_after hphase, show (s.after g y).site.session.summary = s.site.session.summary from hsummary]
  exact h.gives

theorem meets_sendSubmit (hg : g.order? = some o) (happlies : g.applies = false) (hs : s.Offers o r) :
    (Call.submit r).send.Meets (drafting g)
      (fun res s' => s'.Holds s'.given ∧ ∀ a, res = .ok a → s'.Holds (some r)) s := by
  refine meets_traced fun span trace => ?_
  have hs' : (s.retraced g trace).Offers o r := hs.after happlies rfl rfl rfl
  generalize s.retraced g trace = s at hs'
  refine meets_unless (a := ()) (fun trace => ⟨(hs'.toHolds.retraced trace).self, (fun a ha => by cases ha)⟩)
    (meets_bind.mpr (meets_perform.mpr ⟨⟨hs'.toHolds.self, (fun shards hshards => by cases hshards), fun _ o' ho' => ?_⟩,
      fun w s' hr => ?_⟩))
  · cases hg.symm.trans ho'
    exact ⟨hs'.given, hs'.before, r, rfl, hs'.gives⟩
  · have hleads := leads_other (e := .send (Call.submit r).message) rfl hr
    obtain ⟨r', hgiven, -, hgives⟩ := hleads.bids _ o rfl rfl hg
    obtain rfl := hs'.gives.unique hgives
    obtain ⟨d, x, hd, hdraft⟩ := hleads.waited rfl
    replace hdraft : s'.draft = d := hdraft.trans (Draft.seeing_send rfl)
    have hnext : s'.Holds (some r) := ⟨hdraft ▸ hd.fragments, hd.forgets, hgiven⟩
    refine (upholds_untouched (touches_bind (touches_unwrap w) fun o => ?_) s' hnext).mono
      fun res t ht trace => ⟨(ht.1.retraced trace).self, fun _ _ => ht.1.retraced trace⟩
    cases o with
    | answered a => exact touches_bind (touches_tag _ _ _) fun _ => touches_pure a
    | unreachable failure text => exact touches_bind (touches_tag _ _ _) fun _ => touches_fail _
    | failed f => exact touches_fail f

/-- **The request that is sent for an order is the one that the draft gives.** -/
theorem meets_sendOffer (hg : g.order? = some o) (happlies : g.applies = false) (hs : s.Offers o r) (id : Nat) :
    (Launch.send r id).Meets (drafting g)
      (fun res s' => s'.Holds s'.given ∧ ∀ a, res = .ok a → s'.Holds (some r)) s := by
  have hfault : ∀ (f : ServiceFault) (s' : Sheet), s'.Holds s'.given → Op.Meets (drafting g)
      (fun (res : Except Exit Unit) s' => s'.Holds s'.given ∧ ∀ a, res = .ok a → s'.Holds (some r)) (do
        Op.tag id Attribute.errorType (.text f.kind.toClass.name)
        Op.announce f.message .error
        Op.failClient (.service f)) s' := fun f s' hs' =>
    (upholds_bind (q := fun _ => False) (upholds_untouched (touches_tag _ _ _)) (fun _ _ =>
      upholds_bind (upholds_announce _ _) fun _ _ => upholds_fail _) s' hs').mono
        fun res t ht => ⟨ht.1.self, fun a ha => (ht.2 a ha).elim⟩
  refine meets_rescue.mpr (meets_bind.mpr ((meets_sendSubmit hg happlies hs).mono fun res s' hres => ?_))
  cases res with
  | error e =>
    show rescued _ _ _ (.error e) s'
    unfold rescued
    split
    · exact hfault _ s' hres.1
    · exact ⟨hres.1, (fun a ha => by cases ha)⟩
  | ok a =>
    show (Call.ofService (a.check (.submit r))).Meets (drafting g) _ s'
    cases a.check (.submit r) with
    | error f => exact hfault f s' hres.1
    | ok _ => exact ⟨hres.1, fun _ _ => hres.2 a rfl⟩

/-! ## The run is begun -/

/-- **A record of the run is stored**, and nothing has waited since. -/
structure Done (given : Option Request) (s : Sheet) : Prop extends s.Holds given where
  stored : s.stored

theorem Done.quiet (h : s.Done given) (hquiet : s.Quiet s') (hgiven : s'.given = s.given) : s'.Done given :=
  ⟨h.toHolds.quiet hquiet hgiven, hquiet.stored ▸ h.stored⟩

theorem Done.retraced (h : s.Done given) (trace : Trace) : (s.retraced g trace).Done given :=
  ⟨h.toHolds.retraced trace, .inl h.stored⟩

theorem done_perform {e : Effect} (he : e.isOther = true) (hwait : e.isWait = false) :
    (Op.perform e).Upholding (drafting g) (Done given) :=
  fun _ hs => meets_quiet he hwait fun _ _ hquiet hgiven => upheld_ok (hs.quiet hquiet hgiven) trivial

theorem done_session : Op.session.Upholding (drafting g) (Done given) :=
  fun _ hs => meets_session (upheld_ok hs trivial)

theorem done_aside {f : Session → Session} (hf : ∀ t, (f t).fragments = t.fragments ∧ (f t).hooks = t.hooks ∧
      (f t).state = t.state ∧ (f t).context = t.context) : (Op.modify f).Upholding (drafting g) (Done given) := by
  refine fun s hs => meets_modify (fun _ => ?_) (upheld_ok ⟨hs.toHolds.after (hf _).1 (hf _).2.1 fun _ h => ?_,
    .inl hs.stored⟩ trivial)
  · rw [Session.record, Session.record, (hf _).2.2.1, (hf _).2.2.2]
  · rwa [show (s.site.onSession f).session.state = s.site.session.state from (hf _).2.2.1] at h

theorem done_snapshot : Control.snapshot.Upholding (drafting g) (Done given) :=
  upholds_bind done_session fun _ _ => upholds_ofExcept fun _ _ => trivial

theorem done_publish : Control.publish.Upholding (drafting g) (Done given) :=
  upholds_bind done_snapshot fun _ _ => done_perform rfl rfl

theorem done_start : Poll.start.Upholding (drafting g) (Done given) := by
  refine upholds_bind (p := fun _ => True) ?_ fun running _ => upholds_ite (fun _ => ?_) fun _ => upholds_pure trivial
  · refine upholds_bind done_session fun t _ => ?_
    cases t.pollTask with
    | none => exact upholds_pure trivial
    | some task => exact upholds_bind (done_perform (e := .hasEnded task) rfl rfl) fun _ _ => upholds_pure trivial
  · exact upholds_bind (done_aside fun _ => ⟨rfl, rfl, rfl, rfl⟩) fun _ _ =>
      upholds_bind (done_perform (e := .fork .pollLoop) rfl rfl) fun _ _ => done_aside fun _ => ⟨rfl, rfl, rfl, rfl⟩

/-- What comes of work that stores a record: if it ends normally one is stored. -/
def Ends (given : Option Request) (r : Except Exit α) (s : Sheet) : Prop :=
  s.Holds given ∧ ∀ a, r = .ok a → s.Done given

theorem ends_error {e : Exit} (h : s.Holds given) : Ends given (.error e : Except Exit α) s :=
  ⟨h, fun a ha => by cases ha⟩

theorem meets_done {op : Op α} {f : α → Op β} (h : op.Meets (drafting g) (Ends given) s)
    (hf : ∀ a, (f a).Upholding (drafting g) (Done given)) : (op >>= f).Meets (drafting g) (Ends given) s := by
  refine meets_bind.mpr (h.mono fun r s' hr => ?_)
  cases r with
  | error e => exact ends_error hr.1
  | ok a => exact (hf a s' (hr.2 a rfl)).mono fun r t ht => ⟨ht.1.toHolds, fun _ _ => ht.1⟩

/-- **A record is stored** with as many shards as the request has. -/
theorem meets_save (hs : s.Holds (some r)) {record : Record} (store : Nat)
    (hcount : record.shardCount = .whole r.shards.length) :
    (Keep.save store record).Meets (drafting g) (Ends (some r)) s := by
  have hwrite : ∀ s : Sheet, s.Holds (some r) → Op.Meets (drafting g) (Ends (some r))
      (Keep.traced "save" fun t => t.save store record.encode) s := fun s hs => by
    refine meets_bind.mpr (meets_site (meets_traced fun span trace => ?_))
    refine meets_next (upholds_untouched touches_storageTurn) (hs.retraced trace)
      (fun e s' hs' trace => ends_error (hs'.retraced trace)) fun _ s' hs' => ?_
    refine meets_bind.mpr (meets_site (meets_bind.mpr (meets_lift.mpr ⟨fun _ => ?_, fun _ t ht => ?_⟩)))
    · exact ⟨.inl rfl, .inr ⟨r, store, record, hs'.given, hcount, rfl⟩⟩
    · obtain rfl := ht
      have hdone : (s'.after g { s'.site with storage := (s'.site.storage.save store record.encode).2 }).Done (some r) :=
        ⟨hs'.after rfl rfl fun _ h => h, .inr ⟨r, store, record, hs'.given, hcount, rfl⟩⟩
      refine meets_ofExcept.mpr fun trace => ?_
      exact ⟨hdone.toHolds.retraced trace, fun _ _ => hdone.retraced trace⟩
  have hrest : ∀ s : Sheet, s.Holds (some r) → Op.Meets (drafting g) (Ends (some r)) (do
      Keep.obstacle ((← Op.site).storage.faults store).saveError
      Keep.traced "save" fun t => t.save store record.encode) s := fun s hs => by
    refine meets_bind.mpr (meets_site ?_)
    exact meets_next (upholds_untouched (Keep.touches_obstacle _)) hs (fun e s' => ends_error)
      fun _ => hwrite
  refine meets_bind.mpr (meets_site ?_)
  rw [Op.after_ok]
  cases (s.site.storage.faults store).saveDelay with
  | some d => exact meets_next (upholds_untouched (touches_sleep d)) hs (fun e s' => ends_error) fun _ => hrest
  | none => exact hrest s hs

/-- **A run begins with as many shards as the request has**, and its record is stored. -/
theorem meets_begin (happlies : g.applies = false) (hs : s.Holds (some r)) (instances : Value) :
    (Control.begin r.mode r.transfer (.whole r.shards.length) instances).Meets (drafting g) (Ends (some r)) s := by
  refine meets_next (upholds_untouched (touches_enter (by decide))) hs (fun e s' => ends_error) fun _ s' hs' => ?_
  have hleave : ∀ (res : Except Exit RunState) (t : Sheet), Ends (some r) res t →
      (Work.perform (.release .state)).Meets (drafting g) (fun _ t' => Ends (some r) res t') t := fun res t ht => by
    refine ⟨allows_quiet rfl rfl, fun _ t' ht' => ?_⟩
    have hquiet := (leads_other rfl ht').quiet rfl
    have hgiven := (leads_other rfl ht').given_eq rfl
    exact ⟨ht.1.quiet hquiet hgiven, fun a ha => (ht.2 a ha).quiet hquiet hgiven⟩
  refine meets_ensure.mpr (Op.Meets.mono (P := Ends (some r)) ?_ hleave)
  refine meets_bind.mpr (meets_session (meets_unless (a := ()) (ends_error hs') ?_))
  refine meets_bind.mpr (meets_lift.mpr (meets_update (fun _ => ⟨.inr ⟨r, hs'.given, rfl⟩, .inl rfl⟩) ?_))
  refine meets_done (meets_bind.mpr (meets_session (meets_save ?_ _ rfl))) fun _ =>
    upholds_bind done_publish fun _ _ => done_snapshot
  exact hs'.after rfl rfl fun h => by cases happlies.symm.trans h

/-- **A request is submitted for an order**, and the run that is then stored has as many shards. -/
theorem meets_submit (hg : g.order? = some o) (happlies : g.applies = false) (hs : s.Offers o r) :
    (Launch.submit r).Meets (drafting g) (fun res s' => s'.Holds s'.given ∧ ∀ a, res = .ok a → s'.Done s'.given) s := by
  refine meets_traced fun id trace => ?_
  have hs' : (s.retraced g trace).Offers o r := hs.after happlies rfl rfl rfl
  refine meets_bind.mpr ((meets_sendOffer hg happlies hs' id).mono fun res s' hres => ?_)
  cases res with
  | error e => exact fun trace => ⟨(hres.1.retraced trace).self, (fun a ha => by cases ha)⟩
  | ok _ =>
    have hbegin : ∀ t : Sheet, t.Holds (some r) → Op.Meets (drafting g) (fun res t' => ∀ trace,
        (t'.retraced g trace).Holds (t'.retraced g trace).given ∧
          ∀ a, res = .ok a → (t'.retraced g trace).Done (t'.retraced g trace).given) (do
        let count : Int := r.shards.length
        let state ← Control.begin r.mode r.transfer (.whole count) (.whole (max 1 count))
        Poll.start
        return state) t := fun t ht => by
      refine (meets_done (meets_begin happlies ht _) fun state => upholds_bind done_start fun _ _ =>
        upholds_pure (a := state) trivial).mono fun res t' ht' trace => ⟨(ht'.1.retraced trace).self, fun a ha => ?_⟩
      have hdone := (ht'.2 a ha).retraced (g := g) trace
      exact ⟨hdone.toHolds.self, hdone.stored⟩
    refine meets_bind.mpr (meets_session ?_)
    show Op.Meets _ _ (if !s'.site.session.isBare then _ else _) _
    split
    · refine meets_next (upholds_touching Reconcile.touches_forget rfl) (hres.2 () rfl)
        (fun e t ht trace => ⟨(ht.retraced trace).self, (fun a ha => by cases ha)⟩) fun _ => hbegin
    · exact hbegin s' (hres.2 () rfl)

theorem meets_refuseSecond {Q : Except Exit Unit → Sheet → Prop} (hrefused : ∀ e, Q (.error e) s) (hfree : Q (.ok ()) s) :
    Launch.refuseSecond.Meets (drafting g) Q s := by
  refine meets_bind.mpr (meets_session ?_)
  show Op.Meets _ _ (if s.site.session.launching || s.site.session.state.isRunning then _ else _) _
  split
  · refine meets_bind.mpr (meets_bind.mpr (meets_session (meets_ofExcept.mpr ?_)))
    cases s.site.session.state.check with
    | ok state => exact hrefused _
    | error f => exact hrefused _
  · exact hfree

/-- **A run is launched for an order** with what was drafted. -/
theorem meets_order (hg : g.order? = some o) (happlies : g.applies = false) (hs : s.Holds none)
    (hbefore : s.before = s.draft) :
    (Launch.order o).Meets (drafting g) (fun res s' => s'.Holds s'.given ∧ ∀ a, res = .ok a → s'.stored) s := by
  have hends : ∀ {α : Type} (e : Exit) (s' : Sheet), s'.Holds s'.given →
      s'.Holds s'.given ∧ ∀ a, (.error e : Except Exit α) = .ok a → s'.stored := fun e s' hs' =>
    ⟨hs', (fun a ha => by cases ha)⟩
  refine meets_bind.mpr (meets_refuseSecond (fun e => hends e s hs.self) ?_)
  refine meets_bind.mpr (meets_bind.mpr (meets_session (meets_traced fun span trace => meets_ofExcept.mpr fun trace' => ?_)))
  have hs' : ((s.retraced g trace).retraced g trace').Holds none := (hs.retraced _).retraced _
  cases hassembled : assemble s.site.session.summary s.site.session.fragments o with
  | error f => exact hends _ _ hs'.self
  | ok r =>
    have hdraft : ((s.retraced g trace).retraced g trace').draft = s.draft :=
      (draft_retraced _).trans (draft_retraced _)
    have hoffers : ((s.retraced g trace).retraced g trace').Offers o r :=
      ⟨hs', hbefore.trans hdraft.symm, hdraft ▸ hs.fragments.gives hassembled⟩
    show (Launch.request r).Meets (drafting g) _ _
    generalize (s.retraced g trace).retraced g trace' = s at hoffers
    refine meets_bind.mpr (meets_refuseSecond (fun e => hends e s hoffers.toHolds.self) ?_)
    refine meets_bind.mpr (meets_modify (fun _ => rfl) (meets_bind.mpr (meets_ensure.mpr ?_)))
    have htaken := hoffers.after happlies (y := s.site.onSession fun t => { t with launching := true }) rfl rfl rfl
    refine (meets_submit hg happlies htaken).mono fun res s' hres => ?_
    refine meets_update (f := Site.onSession fun t => { t with launching := false })
      (fun _ => Site.enters_same rfl rfl) ?_
    have hleft := hres.1.after (g := g) (y := s'.site.onSession fun t => { t with launching := false }) rfl rfl
      fun _ h => h
    cases res with
    | error e => exact hends e _ hleft.self
    | ok state =>
      refine meets_bind.mpr (meets_announce fun raised board => ?_)
      have htold := hleft.after (g := g) (y := (s'.after g (s'.site.onSession fun t => { t with launching := false })).site.onSession
        fun t => { t with board }) rfl rfl fun _ h => h
      cases raised with
      | error f => exact hends _ _ htold.self
      | ok _ => exact ⟨htold.self, fun _ _ => .inl (.inl (hres.2 state rfl).stored)⟩

/-! ## All that is asked -/

theorem closes_error {a : Action} {e : Exit} (h : s.Holds given) : Closes a (.error e) s :=
  ⟨(fun result hr => by cases hr), fun _ _ => h.self, (fun o ho result hr => by cases hr)⟩

/-- **A run that is abandoned leaves nothing drafted.** -/
theorem closes_abandon (hs : s.Holds given) :
    Conduct.abandon.quietly.Meets (drafting (.action (.whole .abandon))) (Closes (.whole .abandon)) s := by
  refine meets_bind.mpr (meets_next (upholds_touching Poll.touches_stop rfl) hs (fun e s' hs' => closes_error hs')
    fun _ s' hs' => ?_)
  refine meets_next (upholds_touching Control.touches_reset rfl) hs' (fun e t ht => closes_error ht) fun _ t ht => ?_
  -- Once the configuration is forgotten nothing waits before the end.
  refine meets_bind.mpr (meets_modify (fun _ => rfl) (meets_modify (fun _ => rfl) ?_))
  exact ⟨fun _ _ => ⟨Draft.agrees_blank rfl rfl, ht.forgets.of_hooks rfl, rfl⟩, (fun e he => by cases he),
    (fun o ho => by cases ho)⟩

theorem upholds_readSummary (hg : g.order? = none) : Conduct.readSummary.Upholding (drafting g) (Holds given) := by
  refine upholds_bind (p := fun _ => True) (upholds_rescue (upholds_map (upholds_touching Call.touches_readSummary rfl)
    fun _ _ => trivial) fun f => upholds_bind (upholds_announce _ _) fun _ _ => upholds_pure trivial) fun summary _ => ?_
  cases summary with
  | none => exact upholds_pure trivial
  | some summary => exact upholds_modify hg (fun _ => ⟨rfl, rfl⟩) fun _ _ h => h

theorem upholds_begin : Conduct.begin.Upholding (drafting (.action (.whole .begin))) (Holds given) := by
  refine upholds_bind (upholds_readSummary rfl) fun _ _ => upholds_bind upholds_session fun t _ =>
    upholds_bind (upholds_touching (Keep.touches_load _) rfl) fun record _ => ?_
  cases record with
  | none => exact upholds_snapshot
  | some record =>
    exact upholds_ite (fun _ => upholds_bind (upholds_touching (Control.touches_restore record) rfl) fun _ _ =>
      upholds_bind (upholds_touching Poll.touches_start rfl) fun _ _ => upholds_pure trivial) fun _ => upholds_snapshot

theorem closes_touching {a : Action} {op : Op Result} (h : op.Touches cs)
    (hcs : cs.all (Concern.isOffSheet (.action a)) = true) (hs : s.Holds given)
    (hafter : ∀ (d : Draft) result, d.after a result = d) (horder : (Errand.action a).order? = none) :
    op.Meets (drafting (.action a)) (Closes a) s := closes_upholding (upholds_touching h hcs) hs hafter horder

/-- **What is asked of the session as a whole keeps to the draft.** -/
theorem closes_whole (a : WholeAction) (hs : s.Holds none) (hbefore : s.before = s.draft) :
    a.op.Meets (drafting (.action (.whole a))) (Closes (.whole a)) s := by
  have htouches := a.touches
  cases a with
  | begin =>
    exact closes_upholding (upholds_map (p := fun _ => True) upholds_begin fun _ _ => trivial) hs (fun _ _ => rfl) rfl
  | launch o =>
    refine meets_map.mpr ((meets_order rfl rfl hs hbefore).mono fun res s' hres => ?_)
    cases res with
    | error e => exact closes_error hres.1
    | ok state => exact ⟨fun _ _ => hres.1, (fun e he => by cases he), fun _ _ _ _ => hres.2 state rfl⟩
  | abandon => exact closes_abandon hs
  | _ => exact closes_touching htouches rfl hs (fun _ _ => rfl) rfl

/-- **All work that is asked for keeps to the draft.** -/
theorem closes_action (a : Action) (ha : a.handsOver = false) (hs : s.Holds none) (hbefore : s.before = s.draft) :
    a.op.Meets (drafting (.action a)) (Closes a) s := by
  have htouches := a.touches
  cases a with
  | whole a =>
    exact meets_bind.mpr (meets_session (meets_unless (a := ()) (closes_error hs) (closes_whole a hs hbefore)))
  | run a =>
    cases a with
    | apply report =>
      exact closes_upholding (upholds_map (p := fun _ => True) (keeps_apply rfl report) fun _ _ => trivial) hs
        (fun _ _ => rfl) rfl
    | _ => exact closes_touching htouches rfl hs (fun _ _ => rfl) rfl
  | poll a =>
    cases a with
    | once =>
      exact closes_upholding (upholds_quietly (Poll.upholds_once (hosts rfl) (keeps_applyMarked rfl))) hs
        (fun _ _ => rfl) rfl
    | _ => exact closes_touching htouches rfl hs (fun _ _ => rfl) rfl
  | configure a => exact closes_configure a hs
  | notice a => exact closes_touching htouches rfl hs (fun _ _ => rfl) rfl
  | store a => exact closes_touching htouches rfl hs (fun _ _ => rfl) rfl
  | service a =>
    cases a with
    | write c =>
      have hplain : IsPlain (.action (.service (.write c))) c.message := by
        refine ⟨?_, fun _ => rfl⟩
        cases hshards : c.message.shards? with
        | none => rfl
        | some shards =>
          obtain rfl := Call.eq_setShards hshards
          cases ha
      exact closes_upholding (upholds_quietly (upholds_write hplain)) hs (fun _ _ => rfl) rfl
    | _ => exact closes_touching htouches rfl hs (fun _ _ => rfl) rfl

end Sheet

end Cutover
