import Cutover.Proofs.Control.Asking
import Cutover.Proofs.Control.Desk
import Cutover.Proofs.Control.Operations

/-!
# What work does to the resources that are kept

Resources are kept by nobody but who has just got them from the service. Once the service has accepted a request to
launch a run, whatever was kept before is dropped before anything waits. Who is waiting for resources meanwhile keeps
what it gets.

* `Effect.fetched?`, `Effect.accepts`: what an effect tells of the resources and of launches;
* `Action.Serves`: what an action gives of the resources;
* `Stock`: the resources that are kept, as work knows them;
* `stocking`: **the contract of all work**;
* `Stock.meets_fetch`: a fetch keeps what it gives;
* `Stock.meets_submit`: **a launch that is accepted drops what was kept** before it waits;
* `Stock.keeps_action`, `Stock.keeps_background`: all work keeps to the contract.
-/

namespace Cutover

/-- What the service answered to a request for the resources. -/
def Effect.fetched? : (e : Effect) → e.Reply → Option Outcome
  | .send m, .back o => if m.asks then some o else none
  | _, _ => none

/-- The service has accepted a request to launch a run. -/
def Effect.accepts : (e : Effect) → e.Reply → Bool
  | .send m, .back (.answered a) => m.isLaunch && !a.isError
  | _, _ => false

/-- No launch is accepted by the reply to anything else than a request to launch a run. -/
theorem Effect.accepts_of_plain {e : Effect} {r : e.Reply} (h : ∀ m, e = .send m → m.isLaunch = false) :
    e.accepts r = false := by
  cases e with
  | send m =>
    cases r with
    | back o =>
      cases o with
      | answered a => exact congrArg (· && !a.isError) (h m rfl)
      | _ => rfl
    | cancelled => rfl
  | _ => rfl

/-- **What an action gives of the resources**: all of them, or a page of them, where `P` says of which lists. -/
def Action.Serves (P : List Resource → Prop) : Action → Result → Prop
  | .whole .reconcileNow, r => ∃ items, r = .resources items ∧ P items
  | .run .reconcile, r => ∃ items, r = .resources items ∧ P items
  | .whole .kept, r => ∃ kept, r = .kept kept ∧ ∀ items, kept = some items → P items
  | .whole (.page number size), r => ∃ kept usual page, r = .page page ∧ (∀ items, kept = some items → P items) ∧
      pageOf (kept.getD []) usual number size = .ok page
  | _, _ => True

theorem Action.Serves.mono {P P' : List Resource → Prop} {a : Action} {r : Result} (h : a.Serves P r)
    (hP : ∀ items, P items → P' items) : a.Serves P' r := by
  unfold Action.Serves at h ⊢
  split at h
  · exact h.imp fun items hr => ⟨hr.1, hP items hr.2⟩
  · exact h.imp fun items hr => ⟨hr.1, hP items hr.2⟩
  · exact h.imp fun kept hr => ⟨hr.1, fun items hkept => hP items (hr.2 items hkept)⟩
  · obtain ⟨kept, usual, page, hr, hkept, hpage⟩ := h
    exact ⟨kept, usual, page, hr, fun items hitems => hP items (hkept items hitems), hpage⟩
  · trivial

/-- It has nothing to do with the kept resources, and with requests to launch a run. -/
def Concern.isOffStock : Concern → Bool
  | resources | call .launch => false
  | _ => true

/-- **The resources that are kept**, as work knows them. -/
structure Stock where
  /-- What the service has just answered to this work, if that had asked for the resources. -/
  fetched : Option Outcome
  /-- The service has just accepted a launch of this work, and what was kept before has yet to be dropped. -/
  due : Bool
  site : Site

namespace Stock

def kept (s : Stock) : Option (List Resource) := s.site.session.resources

def isBare (s : Stock) : Bool := s.site.session.isBare

/-- The site has changed. -/
def after (s : Stock) (y : Site) : Stock :=
  { s with due := s.due && y.session.resources.isSome, site := { y with now := s.site.now } }

/-- A change that keeps nothing but what was just fetched. -/
structure Admits (s : Stock) (y : Site) : Prop where
  isBare : y.session.isBare = s.isBare
  kept : y.session.resources = s.kept ∨ y.session.resources = none ∨ s.isBare = false ∧ ∃ o items,
    s.fetched = some o ∧ o.resources = .ok items ∧ y.session.resources = some items

/-- Nothing was done to the kept resources. -/
structure Same (s s' : Stock) : Prop where
  fetched : s'.fetched = s.fetched
  due : s'.due = s.due
  kept : s'.kept = s.kept
  isBare : s'.isBare = s.isBare

/-- A session that only follows a run keeps no resources. -/
structure Tidy (bare : Bool) (s : Stock) : Prop where
  isBare : s.isBare = bare
  empty : bare = true → s.kept = none

/-- **Nothing has yet to be dropped.** -/
structure Holds (bare : Bool) (s : Stock) : Prop extends Tidy bare s where
  settled : s.due = false

/-- What comes of a wait. Others may have fetched resources and dropped them. -/
structure Waited (bare : Bool) (e : Effect) (r : e.Reply) (s : Stock) : Prop extends Tidy bare s where
  fetched : s.fetched = e.fetched? r
  due : s.due = (e.accepts r && s.kept.isSome)

/-- What comes of an effect that is neither a look nor a change. -/
structure Leads (s : Stock) (e : Effect) (r : e.Reply) (s' : Stock) : Prop where
  quiet : e.isWait = false → s.Same s'
  waited : e.isWait = true → s'.Waited s.isBare e r

end Stock

/-- **The contract of all work.** Resources are kept only as they were just fetched, and nothing waits where what was
kept before a launch has yet to be dropped. -/
def stocking : Contract Stock where
  allows s
    | .change y => s.Admits y
    | e => e.isWait = true → s.due = false
  leads s
    | .look, r, s' => r = s.site ∧ s' = s
    | .change y, _, s' => s' = s.after y
    | e, r, s' => s.Leads e r s'

namespace Stock

variable {α : Type} {s s' : Stock} {bare : Bool} {cs : List Concern}

/-! ## What has nothing to do with the kept resources -/

theorem Tidy.same (h : s.Tidy bare) (hsame : s.Same s') : s'.Tidy bare :=
  ⟨hsame.isBare.trans h.isBare, fun hbare => hsame.kept.trans (h.empty hbare)⟩

theorem Holds.same (h : s.Holds bare) (hsame : s.Same s') : s'.Holds bare :=
  ⟨h.toTidy.same hsame, hsame.due.trans h.settled⟩

theorem Tidy.after (h : s.Tidy bare) {y : Site} (hy : s.Admits y) : (s.after y).Tidy bare := by
  refine ⟨hy.isBare.trans h.isBare, fun hbare => ?_⟩
  rcases hy.kept with hsame | hnone | ⟨hwhole, -⟩
  · exact hsame.trans (h.empty hbare)
  · exact hnone
  · cases hwhole.symm.trans (h.isBare.trans hbare)

/-- A change that is admitted leaves nothing to be dropped where there was nothing. -/
theorem Holds.after (h : s.Holds bare) {y : Site} (hy : s.Admits y) : (s.after y).Holds bare := by
  refine ⟨h.toTidy.after hy, ?_⟩
  show (s.due && _) = false
  rw [h.settled]
  rfl

theorem Waited.holds {e : Effect} {r : e.Reply} (h : s.Waited bare e r) (hplain : e.accepts r = false) :
    s.Holds bare := ⟨h.toTidy, by rw [h.due, hplain]; rfl⟩

theorem leads_other {e : Effect} {r : e.Reply} (he : e.isOther = true) (h : stocking.leads s e r s') :
    s.Leads e r s' := by
  cases e with
  | look => cases he
  | change y => cases he
  | _ => exact h

theorem allows_other {e : Effect} (he : e.isOther = true) (h : s.Holds bare) : stocking.allows s e := by
  cases e with
  | change y => cases he
  | _ => exact fun _ => h.settled

theorem Leads.holds {e : Effect} {r : e.Reply} (h : s.Leads e r s') (hs : s.Holds bare)
    (hplain : e.accepts r = false) : s'.Holds bare := by
  cases hwait : e.isWait with
  | false => exact hs.same (h.quiet hwait)
  | true => exact hs.isBare ▸ (h.waited hwait).holds hplain

theorem hosts (hcs : cs.all Concern.isOffStock = true) : Hosts stocking Stock.site (Holds bare) cs where
  look s hs := by
    refine ⟨(fun h => by cases h), ?_⟩
    rintro _ _ ⟨rfl, rfl⟩
    exact ⟨hs, rfl, rfl⟩
  change s y hs hy := by
    have hadmits : s.Admits y :=
      ⟨congrArg (·.2.1) hy.setup, .inl (hy.same .resources (Concern.not_mem_of_all hcs rfl))⟩
    refine ⟨hadmits, ?_⟩
    rintro _ _ rfl
    exact ⟨hs.after hadmits, rfl⟩
  other s e hs he hwithin := by
    refine ⟨allows_other he hs, fun r s' hr => (leads_other he hr).holds hs (Effect.accepts_of_plain ?_)⟩
    rintro m rfl
    obtain ⟨c, rfl, hc⟩ := hwithin
    refine Bool.eq_false_iff.mpr fun hlaunch => ?_
    rw [Call.kind_of_isLaunch hlaunch] at hc
    exact Concern.not_mem_of_all hcs rfl hc

/-! ## Looking, changing, and work within a span -/

open Op

theorem upholds_touching {op : Op α} (h : op.Touches cs) (hcs : cs.all Concern.isOffStock = true := by rfl) :
    op.Upholding stocking (Holds bare) := h.upholds (hosts hcs)

theorem upholds_plain {op : Op α} (h : op.Touches Concern.gates) : op.Upholding stocking (Holds bare) := upholds_touching h

theorem meets_session {Q : Except Exit Session → Stock → Prop} (h : Q (.ok s.site.session) s) :
    Op.session.Meets stocking Q s := by
  refine meets_bind.mpr (meets_lift.mpr ⟨(fun h => by cases h), ?_⟩)
  rintro _ _ ⟨rfl, rfl⟩
  exact h

theorem meets_update {f : Site → Site} {Q : Unit → Stock → Prop} (hadmits : s.Admits (f s.site))
    (h : Q () (s.after (f s.site))) : (Work.update f).Meets stocking Q s := by
  refine ⟨(fun h => by cases h), ?_⟩
  rintro _ _ ⟨rfl, rfl⟩
  refine ⟨hadmits, ?_⟩
  rintro _ _ rfl
  exact h

theorem meets_modify {f : Session → Session} {Q : Except Exit Unit → Stock → Prop}
    (hadmits : s.Admits (s.site.onSession f)) (h : Q (.ok ()) (s.after (s.site.onSession f))) :
    (modify f).Meets stocking Q s := meets_lift.mpr (meets_update hadmits h)

theorem upholds_modify {f : Session → Session} (hkept : ∀ t, (f t).resources = t.resources)
    (hbare : ∀ t, (f t).isBare = t.isBare) : (modify f).Upholding stocking (Holds bare) := fun s hs =>
  have hadmits : s.Admits (s.site.onSession f) := ⟨hbare _, .inl (hkept _)⟩
  meets_modify hadmits (upheld_ok (hs.after hadmits) trivial)

/-- The stock with another trace. -/
def retraced (s : Stock) (trace : Trace) : Stock := s.after { s.site with trace }

theorem admits_retrace (s : Stock) (trace : Trace) : s.Admits { s.site with trace } := ⟨rfl, .inl rfl⟩

theorem Holds.retraced (h : s.Holds bare) (trace : Trace) : (s.retraced trace).Holds bare :=
  h.after (admits_retrace s trace)

theorem meets_traced {span : Span} {w : Nat → Op α} {Q : Except Exit α → Stock → Prop}
    (h : ∀ id trace, (w id).Meets stocking (fun r s' => ∀ trace, Q r (s'.retraced trace)) (s.retraced trace)) :
    (traced span w).Meets stocking Q s := by
  refine meets_bind.mpr (meets_lift.mpr ⟨(fun h => by cases h), ?_⟩)
  rintro _ _ ⟨rfl, rfl⟩
  refine ⟨admits_retrace _ _, fun _ s' hs' => ?_⟩
  obtain rfl := hs'
  exact meets_ensure.mpr ((h _ _).mono fun r s' hr => meets_update (admits_retrace _ _) (hr _))

theorem meets_tag {id : Nat} {key : String} {value : Value} {Q : Except Exit Unit → Stock → Prop}
    (h : ∀ trace, Q (.ok ()) (s.retraced trace)) : (tag id key value).Meets stocking Q s :=
  meets_lift.mpr (meets_update (admits_retrace _ _) (h _))

/-- Work behind a gate. Its owner may be cancelled before, and what comes of it stays while the gate opens again. -/
theorem meets_guarded {g : GateName} {op : Op α} {Q : Except Exit α → Stock → Prop} (hs : s.Holds bare)
    (hcancelled : ∀ s', s'.Holds bare → Q (.error .cancelled) s')
    (hop : ∀ s', s'.Holds bare → op.Meets stocking Q s') (hsame : ∀ r s s', Q r s → s.Same s' → Q r s') :
    (guarded g op).Meets stocking Q s := by
  refine meets_bind.mpr (meets_bind.mpr (meets_perform.mpr ⟨fun _ => hs.settled, fun w s' hleads => ?_⟩))
  have hs' : s'.Holds bare := (leads_other (e := .acquire g) rfl hleads).holds hs rfl
  cases w with
  | cancelled => exact hcancelled s' hs'
  | back u =>
    refine meets_ensure.mpr ((hop s' hs').mono fun r s'' hr => ⟨(fun hwait => by cases hwait), fun _ t ht => ?_⟩)
    exact hsame r s'' t hr ((leads_other (e := .release g) rfl ht).quiet rfl)

/-! ## Fetching the resources -/

theorem meets_ask {Q : Except Exit Answer → Stock → Prop} (hs : s.Holds bare)
    (hcancelled : ∀ s', s'.Holds bare → Q (.error .cancelled) s')
    (hQ : ∀ o s', s'.Holds bare → s'.fetched = some o → Q ((o.received .getResources).mapError .fault) s') :
    Call.getResources.send.Meets stocking Q s := by
  have hsendable : Call.getResources.message.isSendable = true := rfl
  rw [Call.send]
  refine meets_traced fun id trace => ?_
  simp only [hsendable]
  refine meets_bind.mpr (meets_perform.mpr ⟨fun _ => (hs.retraced trace).settled, fun r s' hleads => ?_⟩)
  have hleads' := leads_other (e := .send Call.getResources.message) rfl hleads
  have hs' : s'.Holds bare := hleads'.holds (hs.retraced trace) (Effect.accepts_of_plain fun m hm => by cases hm; rfl)
  have hfetched := (hleads'.waited rfl).fetched
  refine meets_bind.mpr ?_
  cases r with
  | cancelled => exact fun trace => hcancelled _ (hs'.retraced trace)
  | back o =>
    refine meets_unwrap_back.mpr ?_
    cases o with
    | answered a =>
      exact meets_bind.mpr (meets_tag fun _ _ => hQ (.answered a) _ ((hs'.retraced _).retraced _) hfetched)
    | unreachable failure text =>
      exact meets_bind.mpr (meets_tag fun _ _ =>
        hQ (.unreachable failure text) _ ((hs'.retraced _).retraced _) hfetched)
    | failed f => exact fun _ => hQ (.failed f) _ (hs'.retraced _) hfetched

theorem meets_readResources {Q : Except Exit ShardMap → Stock → Prop} (hs : s.Holds bare)
    (hcancelled : ∀ s', s'.Holds bare → Q (.error .cancelled) s')
    (hQ : ∀ o s', s'.Holds bare → s'.fetched = some o → Q (o.shards.mapError .fault) s') :
    Call.readResources.Meets stocking Q s := by
  rw [Call.readResources, meets_rescue, meets_bind]
  exact meets_ask hs hcancelled fun o s' hs' hfetched => Surroundings.after_shards (hQ o s' hs' hfetched)

/-- **What is given is kept**, and nothing has yet to be dropped. -/
structure Kept (bare : Bool) (r : Except Exit (List Resource)) (s : Stock) : Prop where
  holds : s.Holds bare
  gives : ∀ items, r = .ok items → s.kept = some items

theorem kept_error {e : Exit} (h : s.Holds bare) : Kept bare (.error e) s := ⟨h, fun _ hr => by cases hr⟩

theorem Kept.same {r : Except Exit (List Resource)} (h : Kept bare r s) (hsame : s.Same s') : Kept bare r s' :=
  ⟨h.holds.same hsame, fun items hr => hsame.kept.trans (h.gives items hr)⟩

/-- **Who has just fetched resources keeps them.** -/
theorem meets_keep {o : Outcome} {items : List Resource} (hs : s.Holds false) (hfetched : s.fetched = some o)
    (hitems : o.resources = .ok items) : Op.Meets stocking (Kept false) (do
      modify fun t => { t with resources := some items }
      return items) s := by
  have hadmits : s.Admits (s.site.onSession fun t => { t with resources := some items }) :=
    ⟨rfl, .inr (.inr ⟨hs.isBare, o, items, hfetched, hitems, rfl⟩)⟩
  refine meets_bind.mpr (meets_modify hadmits ⟨hs.after hadmits, fun items' hr => ?_⟩)
  cases hr
  rfl

theorem meets_fetchNow (hs : s.Holds false) : Reconcile.fetchNow.Meets stocking (Kept false) s := by
  have hcount : ∀ u : Stock, u.Admits (u.site.onSession fun t => { t with fetchCount := t.fetchCount + 1 }) :=
    fun _ => ⟨rfl, .inl rfl⟩
  rw [Reconcile.fetchNow, meets_bind]
  refine meets_traced fun id trace => meets_bind.mpr (meets_modify (hcount _) (meets_bind.mpr ?_))
  refine meets_readResources ((hs.retraced trace).after (hcount _)) (fun s' hs' _ => kept_error (hs'.retraced _))
    fun o s' hs' hfetched => ?_
  cases hshards : o.shards with
  | error f => exact fun _ => kept_error (hs'.retraced _)
  | ok m =>
    have hitems : o.resources = .ok (flattenResources m) := by rw [Outcome.resources, hshards]; rfl
    exact meets_bind.mpr (meets_tag fun _ trace =>
      meets_keep (s := retraced _ trace) ((hs'.retraced _).retraced _) hfetched hitems)

/-- **A fetch keeps what it gives**, found or asked for. -/
theorem meets_fetch (hs : s.Holds false) : Reconcile.fetch.Meets stocking (Kept false) s := by
  refine meets_guarded hs (fun _ => kept_error) (fun s' hs' => meets_bind.mpr (meets_session ?_)) fun _ _ _ => Kept.same
  rw [after_ok]
  cases hkept : s'.site.session.resources with
  | none => exact meets_fetchNow hs'
  | some items =>
    refine ⟨hs', fun items' hr => ?_⟩
    cases hr
    exact hkept

theorem meets_reconcile (hs : s.Holds bare) : Control.reconcile.Meets stocking (Kept bare) s := by
  refine meets_bind.mpr (meets_session ?_)
  show Op.Meets _ _ (if s.site.session.isBare = true then _ else _) _
  split
  next => exact kept_error hs
  next hwhole =>
    obtain rfl : bare = false := hs.isBare.symm.trans (Bool.eq_false_iff.mpr hwhole)
    exact meets_guarded hs (fun _ => kept_error) (fun _ => meets_fetch) fun _ _ _ => Kept.same

theorem meets_reconcileNow (hs : s.Holds bare) : Conduct.reconcileNow.Meets stocking (Kept bare) s := by
  have hfails : ∀ f : ServiceFault, Op.Upholds stocking (Holds bare) (fun _ : List Resource => False) (do
      if f.kind = .resourceFetch then alarm (.text f.message)
      failClient (.service f)) := fun f =>
    upholds_ite (fun _ => upholds_bind (upholds_touching (touches_alarm _)) fun _ _ => upholds_fail _) fun _ =>
      upholds_fail _
  refine meets_rescue.mpr ((meets_reconcile hs).mono fun r s' hr => ?_)
  unfold rescued
  split
  · exact (hfails _ s' hr.holds).mono fun r t ht => ⟨ht.1, fun items hitems => (ht.2 items hitems).elim⟩
  · exact hr

/-! ## Reports -/

theorem upholds_reconcileOnce : Control.reconcileOnce.Upholding stocking (Holds bare) := by
  refine fun s hs => meets_bind.mpr (meets_session ?_)
  show Op.Meets _ _ (if (!s.isBare && !s.site.session.state.isReconciled) = true then _ else _) _
  split
  next hdue =>
    have hwhole : s.isBare = false := by simpa using (Bool.and_eq_true_iff.mp hdue).1
    obtain rfl : bare = false := hs.isBare.symm.trans hwhole
    have hfetch : Reconcile.fetch.Upholding stocking (Holds false) := fun _ hs' =>
      (meets_fetch hs').mono fun _ _ hr => ⟨hr.holds, fun _ _ => trivial⟩
    refine meets_rescuedThen (meets_then (hfetch s hs) fun _ _ =>
      upholds_modify (fun _ => rfl) fun _ => rfl) fun f => ?_
    exact upholds_ite (fun _ => upholds_bind (upholds_modify (fun _ => rfl) fun _ => rfl) fun _ _ =>
      upholds_touching (touches_alarm _)) fun _ => upholds_fail _
  next => exact upheld_ok hs trivial

theorem hosts_plain : Hosts stocking Stock.site (Holds bare) Concern.gates := hosts rfl

theorem pieces : Pieces stocking (Holds bare) where
  ofTouches h := upholds_touching h
  onState _ := upholds_modify (fun _ => rfl) fun _ => rfl
  ofTraced := hosts_plain.upholds_traced
  ofGuarded := hosts_plain.upholds_guarded (Concern.mem_gates _)
  announce text level := upholds_touching (touches_announce text level)
  reconcileOnce := upholds_reconcileOnce

/-- **A report that is applied** drops nothing, and keeps resources only as they were just fetched. -/
theorem upholds_apply (report : Status) : (Control.apply report).Upholding stocking (Holds bare) := by
  cases hfailure : report.isFailure with
  | false => exact pieces.applyPlain hfailure
  | true => exact pieces.applyFailure hfailure (upholds_touching (Control.touches_failRun _))

theorem upholds_applyMarked (report : Status) : (Poll.applyMarked report).Upholding stocking (Holds bare) :=
  Poll.upholds_applyMarked (hosts rfl) upholds_apply report

/-! ## Launches -/

/-- **The service has accepted a launch**, and what was kept before has yet to be dropped, if there is anything. -/
structure Owing (bare : Bool) (s : Stock) : Prop extends Tidy bare s where
  owes : s.due = true → s.kept ≠ none

theorem Owing.holds (h : s.Owing bare) (hdue : s.due = false) : s.Holds bare := ⟨h.toTidy, hdue⟩

/-- What comes of a request to launch a run: where it fails nothing has to be dropped. -/
def Taken (bare : Bool) (fine : α → Prop) : Except Exit α → Stock → Prop
  | .ok a, s => s.Owing bare ∧ (s.due = true → fine a)
  | .error _, s => s.Holds bare

theorem due_retraced (trace : Trace) : (s.retraced trace).due = true → s.due = true := fun h =>
  (Bool.and_eq_true_iff.mp h).1

theorem Owing.retraced (h : s.Owing bare) (trace : Trace) : (s.retraced trace).Owing bare :=
  ⟨⟨h.isBare, h.empty⟩, fun hdue => h.owes (due_retraced trace hdue)⟩

theorem Taken.retraced {fine : α → Prop} {r : Except Exit α} (h : Taken bare fine r s) (trace : Trace) :
    Taken bare fine r (s.retraced trace) := by
  cases r with
  | ok a => exact ⟨h.1.retraced trace, fun hdue => h.2 (due_retraced trace hdue)⟩
  | error e => exact Holds.retraced h trace

/-- **A request to launch a run is answered.** It is accepted by an answer that tells of no error, and by nothing
else. -/
theorem meets_send (r : Request) (hs : s.Holds bare) :
    (Call.submit r).send.Meets stocking (Taken bare fun a => a.isError = false) s := by
  rw [Call.send]
  refine meets_traced fun id trace => ?_
  refine meets_unless (a := ()) (fun _ => (hs.retraced trace).retraced _)
    (meets_bind.mpr (meets_perform.mpr ⟨fun _ => (hs.retraced trace).settled, fun w s' hleads => ?_⟩))
  have hleads' := leads_other (e := .send (Call.submit r).message) rfl hleads
  have hwaited := (hs.retraced trace).isBare ▸ hleads'.waited rfl
  refine meets_bind.mpr ?_
  cases w with
  | cancelled => exact fun _ => (hwaited.holds rfl).retraced _
  | back o =>
    refine meets_unwrap_back.mpr ?_
    cases o with
    | unreachable failure text =>
      exact meets_bind.mpr (meets_tag fun _ _ => ((hwaited.holds rfl).retraced _).retraced _)
    | failed f => exact fun _ => (hwaited.holds rfl).retraced _
    | answered a =>
      have haccepted : s'.due = true → a.isError = false ∧ s'.kept ≠ none := fun hdue => by
        rw [hwaited.due] at hdue
        simp only [Effect.accepts, Bool.and_eq_true, Bool.not_eq_true', Option.isSome_iff_ne_none] at hdue
        exact ⟨hdue.1.2, hdue.2⟩
      have htaken : Taken bare (fun a : Answer => a.isError = false) (.ok a) s' :=
        ⟨⟨hwaited.toTidy, fun hdue => (haccepted hdue).2⟩, fun hdue => (haccepted hdue).1⟩
      exact meets_bind.mpr (meets_tag fun _ _ => (htaken.retraced _).retraced _)

theorem meets_write (r : Request) (hs : s.Holds bare) :
    (Call.submit r).write.Meets stocking (Taken bare fun _ => True) s := by
  refine meets_bind.mpr ((meets_send r hs).mono fun answer s' hr => ?_)
  cases answer with
  | error e => exact hr
  | ok a =>
    rw [after_ok, Answer.check]
    split
    next herror =>
      refine hr.1.holds (Bool.eq_false_iff.mpr fun hdue => ?_)
      cases (hr.2 hdue).symm.trans herror
    next => exact ⟨hr.1, fun _ => trivial⟩

theorem meets_sendRequest (r : Request) (id : Nat) (hs : s.Holds bare) :
    (Launch.send r id).Meets stocking (Taken bare fun _ => True) s := by
  have hfails : ∀ f : ServiceFault, Op.Upholds stocking (Holds bare) (fun _ : Unit => False) (do
      tag id Attribute.errorType (.text f.kind.toClass.name)
      announce f.message .error
      failClient (.service f)) := fun f =>
    upholds_bind (upholds_plain (touches_tag _ _ _)) fun _ _ =>
      upholds_bind (upholds_touching (touches_announce _ _)) fun _ _ => upholds_fail _
  refine meets_rescue.mpr ((meets_write r hs).mono fun answer s' hr => ?_)
  unfold rescued
  split
  · refine (hfails _ s' hr).mono fun answer t ht => ?_
    cases answer with
    | ok u => exact (ht.2 u rfl).elim
    | error e => exact ht.1
  · exact hr

theorem admits_forget (s : Stock) : s.Admits (s.site.onSession fun t => { t with resources := none }) :=
  ⟨rfl, .inr (.inl rfl)⟩

theorem upholds_forget : Reconcile.forget.Upholding stocking (Holds bare) := fun s hs =>
  meets_modify (admits_forget s) (upheld_ok (hs.after (admits_forget s)) trivial)

/-- **What was kept is dropped** once the service has accepted a launch, before anything waits. -/
theorem meets_dropped (r : Request) (hs : s.Owing bare) : Op.Meets stocking (Upheld (Holds bare) fun _ => True) (do
    if !(← Op.session).isBare then Reconcile.forget
    let count : Int := r.shards.length
    let state ← Control.begin r.mode r.transfer (.whole count) (.whole (max 1 count))
    Poll.start
    return state) s := by
  have hbegins : Op.Upholding stocking (Holds bare) (do
      let count : Int := r.shards.length
      let state ← Control.begin r.mode r.transfer (.whole count) (.whole (max 1 count))
      Poll.start
      return state) :=
    upholds_bind (upholds_touching (Control.touches_begin _ _ _ _)) fun _ _ =>
      upholds_bind (upholds_touching Poll.touches_start) fun _ _ => upholds_pure trivial
  refine meets_bind.mpr (meets_session ?_)
  show Op.Meets _ _ (if (!s.isBare) = true then _ else _) _
  rw [hs.isBare]
  cases bare with
  | true => exact hbegins s (hs.holds (Bool.eq_false_iff.mpr fun hdue => hs.owes hdue (hs.empty rfl)))
  | false =>
    refine meets_bind.mpr (meets_modify (admits_forget s) (hbegins _ ⟨⟨hs.isBare, fun _ => rfl⟩, ?_⟩))
    exact Bool.and_false s.due

/-- **A launch that is accepted drops what was kept**, and nothing else has to be. -/
theorem meets_submit (r : Request) (hs : s.Holds bare) :
    (Launch.submit r).Meets stocking (Upheld (Holds bare) fun _ => True) s := by
  refine meets_traced fun id trace => meets_bind.mpr ?_
  refine (meets_sendRequest r id (hs.retraced trace)).mono fun answer s' hr => ?_
  cases answer with
  | error e => exact fun _ => upheld_error (Holds.retraced hr _)
  | ok u => exact (meets_dropped r hr.1).mono fun _ t ht _ => ⟨ht.1.retraced _, ht.2⟩

theorem upholds_request (r : Request) : (Launch.request r).Upholding stocking (Holds bare) := by
  refine upholds_bind (upholds_plain Launch.touches_refuseSecond) fun _ _ =>
    upholds_bind (upholds_modify (fun _ => rfl) fun _ => rfl) fun _ _ => upholds_bind (p := fun _ => True) ?_ fun _ _ =>
      upholds_bind (upholds_touching (touches_announce _ _)) fun _ _ => upholds_pure trivial
  have hhosts : Hosts stocking Stock.site (Holds bare) [.launching] := hosts rfl
  refine upholds_ensure (fun _ => meets_submit r) (Work.Touches.upholds ?_ hhosts)
  exact touches_update fun x => Launch.changes_mark (by decide) x false

theorem upholds_order (o : Order) : (Launch.order o).Upholding stocking (Holds bare) :=
  upholds_bind (upholds_plain Launch.touches_refuseSecond) fun _ _ =>
    upholds_bind (upholds_plain (Launch.touches_assembled o)) fun r _ => upholds_request r

theorem upholds_abandon : Conduct.abandon.Upholding stocking (Holds bare) :=
  upholds_bind (upholds_touching Poll.touches_stop) fun _ _ =>
    upholds_bind (upholds_touching Control.touches_reset) fun _ _ =>
      upholds_bind (upholds_touching Configure.touches_reset) fun _ _ => upholds_forget

/-! ## All work -/

/-- What an action comes to: what it gives of the resources is kept. -/
structure Closes (bare : Bool) (a : Action) (r : Except Exit Result) (s : Stock) : Prop where
  holds : s.Holds bare
  serves : ∀ result, r = .ok result → a.Serves (fun items => s.kept = some items) result

theorem closes_upholding {a : Action} {op : Op Result} (h : op.Upholding stocking (Holds bare)) (hs : s.Holds bare)
    (hserves : ∀ P result, a.Serves P result) : op.Meets stocking (Closes bare a) s :=
  (h s hs).mono fun _ _ hr => ⟨hr.1, fun result _ => hserves _ result⟩

/-- An action on the session as a whole is refused where that only follows a run. -/
theorem closes_whole {a : WholeAction} (hs : s.Holds bare) (h : a.op.Meets stocking (Closes bare (.whole a)) s) :
    (Action.whole a).op.Meets stocking (Closes bare (.whole a)) s :=
  meets_bind.mpr (meets_session (meets_unless (a := ()) ⟨hs, fun _ hr => by cases hr⟩ h))

theorem closes_map {a : Action} {op : Op (List Resource)} (h : op.Meets stocking (Kept bare) s)
    (hserves : ∀ P items, P items → a.Serves P (.resources items)) :
    (Result.resources <$> op).Meets stocking (Closes bare a) s := by
  refine meets_map.mpr (h.mono fun r s' hr => ⟨hr.holds, fun result hresult => ?_⟩)
  cases r with
  | error e => cases hresult
  | ok items =>
    cases hresult
    exact hserves _ items (hr.gives items rfl)

/-- **Every action keeps to the contract**, and gives of the resources what is kept. -/
theorem keeps_action {a : Action} (hproper : a.isProper = true) (hs : s.Holds bare) :
    a.op.Meets stocking (Closes bare a) s := by
  cases a with
  | whole a =>
    refine closes_whole hs ?_
    cases a with
    | reconcileNow => exact closes_map (meets_reconcileNow hs) fun P items h => ⟨items, rfl, h⟩
    | page number size =>
      refine meets_map.mpr (meets_bind.mpr (meets_session (meets_ofExcept.mpr ?_)))
      cases hpage : pageOf (s.site.session.resources.getD []) s.site.session.pageSize number size with
      | error f => exact ⟨hs, fun _ hr => by cases hr⟩
      | ok p =>
        refine ⟨hs, fun result hr => ?_⟩
        cases hr
        exact ⟨s.kept, _, p, rfl, fun _ hitems => hitems, hpage⟩
    | kept =>
      refine meets_bind.mpr (meets_session ⟨hs, fun result hr => ?_⟩)
      cases hr
      exact ⟨s.kept, rfl, fun _ hitems => hitems⟩
    | launch o => exact closes_upholding (upholds_map (upholds_order o) fun _ _ => trivial) hs fun _ _ => trivial
    | abandon =>
      exact closes_upholding (upholds_bind upholds_abandon fun _ _ => upholds_pure trivial) hs fun _ _ => trivial
    | forget =>
      exact closes_upholding (upholds_bind upholds_forget fun _ _ => upholds_pure trivial) hs fun _ _ => trivial
    | _ => exact closes_upholding (upholds_touching (WholeAction.touches _)) hs fun _ _ => trivial
  | run a =>
    cases a with
    | reconcile => exact closes_map (meets_reconcile hs) fun P items h => ⟨items, rfl, h⟩
    | apply report =>
      exact closes_upholding (upholds_map (upholds_apply report) fun _ _ => trivial) hs fun _ _ => trivial
    | _ => exact closes_upholding (upholds_touching (Action.touches (.run _))) hs fun _ _ => trivial
  | poll a =>
    cases a with
    | once =>
      have honce : Poll.once.Upholding stocking (Holds bare) := Poll.upholds_once (hosts rfl) upholds_applyMarked
      exact closes_upholding (upholds_bind honce fun _ _ => upholds_pure trivial) hs fun _ _ => trivial
    | submit r => exact closes_upholding (upholds_map (upholds_request r) fun _ _ => trivial) hs fun _ _ => trivial
    | _ => exact closes_upholding (upholds_touching (Action.touches (.poll _))) hs fun _ _ => trivial
  | configure a =>
    have hcs : a.concerns.all Concern.isOffStock = true := by cases a <;> rfl
    exact closes_upholding (upholds_touching (Action.touches (.configure a)) hcs) hs fun _ _ => trivial
  | notice a => exact closes_upholding (upholds_touching (Action.touches (.notice a))) hs fun _ _ => trivial
  | store a => exact closes_upholding (upholds_touching (Action.touches (.store a))) hs fun _ _ => trivial
  | service a =>
    have hcs : a.concerns.all Concern.isOffStock = true := by
      cases a with
      | write c => cases c <;> first | rfl | cases hproper
      | _ => rfl
    exact closes_upholding (upholds_touching (Action.touches (.service a)) hcs) hs fun _ _ => trivial

/-- **So does the work in the background.** -/
theorem keeps_background (b : Background) :
    b.begin.Upholding stocking (Holds bare) ∧ b.round.Upholding stocking (Holds bare) := by
  cases b with
  | pollLoop =>
    have hround : Poll.round.Upholding stocking (Holds bare) := Poll.upholds_round (hosts rfl) upholds_applyMarked
    exact ⟨hround, hround⟩
  | reader number id includeCurrent =>
    exact ⟨upholds_touching (Reader.touches_begin number id includeCurrent),
      upholds_touching (Reader.touches_round number id)⟩

end Stock

end Cutover
