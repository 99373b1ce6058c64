import Cutover.Proofs.Control.Agreement
import Cutover.Proofs.Control.Drafting

/-!
# All work keeps to the draft

Whenever work on a session waits, the fragments hold what was drafted. Shards are handed over only if they can be
submitted, and a request that is assembled for an order is the one that the draft gives. The run that is launched
with it has as many shards as the request, and so has its record.

* `Sheet`: a session and its draft, as work knows them;
* `drafting`: **the contract of all work** of a task that is there for something;
* `Sheet.hosts`: what has nothing to do with the configuration;
* `Sheet.keeps_apply`, `Sheet.keeps_round`: reports are applied;
* `Sheet.keeps_background`: **the work in the background keeps to it**.
-/

namespace Cutover

/-- The configuration is forgotten when a run is complete, whatever hooks come after. -/
def Session.Forgets (s : Session) : Prop :=
  ∃ before after, s.hooks = before ++ StopHook.configuration :: after ∧ ∀ h ∈ before, h.fails = false

theorem Session.Forgets.of_hooks {s t : Session} (h : s.Forgets) (hooks : t.hooks = s.hooks) : t.Forgets := by
  rw [Forgets, hooks]
  exact h

/-- A record is stored of a run with as many shards as the request has that was given. -/
def Site.Stores (given : Option Request) (x y : Site) : Prop :=
  ∃ (r : Request) (store : Nat) (record : Record), given = some r ∧ record.shardCount = .whole r.shards.length ∧
    y.storage = (x.storage.save store record.encode).2

/-- **What a launch does to the run and to the stores**: the run gets as many shards as the request has that was
given, and so does the record that is stored. -/
structure Site.Enters (given : Option Request) (x y : Site) : Prop where
  run : y.session.record = x.session.record ∨ ∃ r, given = some r ∧ y.session.shardCount = .whole r.shards.length
  stores : y.storage = x.storage ∨ x.Stores given y

theorem Site.Stores.mono {given given' : Option Request} {x y : Site} (h : x.Stores given y)
    (hkept : ∀ r, given = some r → given' = some r) : x.Stores given' y := by
  obtain ⟨r, store, record, hr, hcount, hstorage⟩ := h
  exact ⟨r, store, record, hkept r hr, hcount, hstorage⟩

theorem Site.Enters.mono {given given' : Option Request} {x y : Site} (h : x.Enters given y)
    (hkept : ∀ r, given = some r → given' = some r) : x.Enters given' y :=
  ⟨h.run.imp_right fun ⟨r, hr, hcount⟩ => ⟨r, hkept r hr, hcount⟩, h.stores.imp_right fun hs => hs.mono hkept⟩

theorem Site.enters_same {given : Option Request} {x y : Site} (hrecord : y.session.record = x.session.record)
    (hstorage : y.storage = x.storage) : x.Enters given y := ⟨.inl hrecord, .inl hstorage⟩

/-- It has nothing to do with the configuration; a run that reports are applied to has, and so has what a launch
does for an order. -/
def Concern.isOffSheet (g : Errand) : Concern → Bool
  | configuration | call .configuration => false
  | run => !g.applies && g.order?.isNone
  | storage | call .launch => g.order?.isNone
  | _ => true

/-- **A session and its draft**, as work knows them. -/
structure Sheet where
  draft : Draft
  /-- What was drafted when this work went on last. -/
  before : Draft
  /-- The request for its order that this work has sent. -/
  given : Option Request
  /-- This work stored a record of the run since it went on last. -/
  stored : Prop
  site : Site

namespace Sheet

/-- **The fragments hold what was drafted**, and are forgotten when a run is complete. -/
structure Holds (given : Option Request) (s : Sheet) : Prop where
  fragments : s.draft.Agrees s.site.session.fragments
  forgets : s.site.session.Forgets
  given : s.given = given

theorem Holds.self {s : Sheet} {given : Option Request} (h : s.Holds given) : s.Holds s.given :=
  ⟨h.fragments, h.forgets, rfl⟩

/-- The site has changed. -/
def after (s : Sheet) (g : Errand) (y : Site) : Sheet :=
  { s with
    draft := s.draft.seeing g s.site (.change y) ()
    stored := s.stored ∨ s.site.Stores s.given y
    site := { y with now := s.site.now } }

/-- The draft gives a request for an order, and a message sends it. -/
def Bids (s : Sheet) (o : Order) (m : Message) (r : Request) : Prop :=
  m = (Call.submit r).message ∧ s.draft.Gives s.site.session.summary o r

/-- Nothing was done to the sheet and to the session but what gates, latch and readers show. -/
structure Quiet (s s' : Sheet) : Prop where
  draft : s'.draft = s.draft
  before : s'.before = s.before
  stored : s'.stored = s.stored
  site : ∃ stateGate fetchGate latch streams,
    s'.site = { s.site with session := { s.site.session with stateGate, fetchGate, latch, streams } }

/-- What comes of an effect that is neither a look nor a change. Where it is a wait others may have gone on. -/
structure Leads (g : Errand) (s : Sheet) (e : Effect) (r : e.Reply) (s' : Sheet) : Prop where
  quiet : e.isWait = false → s.Quiet s'
  waited : e.isWait = true → ∃ (d : Draft) (x : Site), Holds s'.given { s' with draft := d } ∧ s'.draft = d.seeing g x e r
  bids : ∀ m o, e = .send m → m.isLaunch = true → g.order? = some o → ∃ r, s'.given = some r ∧ s.Bids o m r
  same : (∀ m o, e = .send m → m.isLaunch = true → g.order? ≠ some o) → s'.given = s.given

end Sheet

/-- **The contract of all work** of a task that is there for something. Where it waits the fragments hold what was
drafted. Shards that it hands over can be submitted; a request that it sends for an order is the only one, and given
by the draft; and what it then enters of a run is as the request says. -/
def drafting (g : Errand) : Contract Sheet where
  allows s
    | .change y => g.order?.isSome = true → s.site.Enters s.given y
    | .send m => s.Holds s.given ∧ (∀ shards, m.shards? = some shards → validateShards shards = .ok ()) ∧
        (m.isLaunch = true → ∀ o, g.order? = some o → s.given = none ∧ s.before = s.draft ∧ ∃ r, s.Bids o m r)
    | e => e.isWait = true → s.Holds s.given
  leads s
    | .look, r, s' => r = s.site ∧ s' = s
    | .change y, _, s' => s' = s.after g y
    | e, r, s' => Sheet.Leads g s e r s'

namespace Sheet

variable {α : Type} {g : Errand} {s s' : Sheet} {given : Option Request} {cs : List Concern}

theorem allows_quiet {e : Effect} (he : e.isOther = true) (hwait : e.isWait = false) : (drafting g).allows s e := by
  cases e with
  | change y => cases he
  | send m => cases hwait
  | _ => exact fun h => absurd (hwait.symm.trans h) Bool.false_ne_true

theorem leads_other {e : Effect} {r : e.Reply} (he : e.isOther = true) (h : (drafting g).leads s e r s') :
    Leads g s e r s' := by
  cases e with
  | look => cases he
  | change y => cases he
  | _ => exact h

theorem order?_of_applies (h : g.applies = true) : g.order? = none := by
  cases g with
  | background b => rfl
  | action a =>
    cases a with
    | whole a => cases h
    | _ => rfl

theorem Leads.given_eq (h : Leads g s e r s') (he : e.isWait = false) : s'.given = s.given :=
  h.same fun m o hm => by
    rw [hm] at he
    cases he

theorem Holds.quiet (h : s.Holds given) (hquiet : s.Quiet s') (hgiven : s'.given = s.given) : s'.Holds given := by
  obtain ⟨hdraft, -, -, _, _, _, _, hsite⟩ := hquiet
  refine ⟨?_, ?_, hgiven.trans h.given⟩
  · rw [hdraft, hsite]
    exact h.fragments
  · rw [hsite]
    exact h.forgets.of_hooks rfl

theorem draft_after {y : Site} (hphase : g.applies = true → y.session.state.phase = .complete →
    s.site.session.state.phase = .complete) : (s.after g y).draft = s.draft := by
  rw [after, Draft.seeing_change, if_neg]
  rintro ⟨happlies, hbefore, hafter⟩
  exact hbefore (hphase happlies hafter)

theorem Holds.after (h : s.Holds given) {y : Site} (hfragments : y.session.fragments = s.site.session.fragments)
    (hhooks : y.session.hooks = s.site.session.hooks)
    (hphase : g.applies = true → y.session.state.phase = .complete → s.site.session.state.phase = .complete) :
    (s.after g y).Holds given := by
  refine ⟨?_, h.forgets.of_hooks hhooks, h.given⟩
  rw [draft_after hphase]
  show s.draft.Agrees y.session.fragments
  rw [hfragments]
  exact h.fragments

/-! ## What has nothing to do with the configuration -/

/-- A message that hands over no shards, and is no request for an order. -/
def IsPlain (g : Errand) (m : Message) : Prop := m.shards? = none ∧ (m.isLaunch = true → g.order? = none)

theorem allows_send {m : Message} (h : s.Holds given) (hm : IsPlain g m) : (drafting g).allows s (.send m) := by
  refine ⟨h.given ▸ h, fun shards hshards => ?_, fun hlaunch o ho => ?_⟩
  · cases hm.1.symm.trans hshards
  · cases (hm.2 hlaunch).symm.trans ho

/-- Where nothing is drafted by the reply, and no request is sent for an order, the fragments hold what was
drafted. -/
theorem Leads.holds {e : Effect} {r : e.Reply} (h : Leads g s e r s') (hs : s.Holds given)
    (hseen : ∀ (d : Draft) x, d.seeing g x e r = d) (hplain : ∀ m, e = .send m → IsPlain g m) :
    s'.Holds given := by
  have hgiven : s'.given = s.given := h.same fun m o hm hlaunch ho => by
    cases ((hplain m hm).2 hlaunch).symm.trans ho
  cases hwait : e.isWait with
  | false => exact hs.quiet (h.quiet hwait) hgiven
  | true =>
    obtain ⟨d, x, hd, hdraft⟩ := h.waited hwait
    rw [hseen] at hdraft
    rw [← hdraft] at hd
    exact ⟨hd.fragments, hd.forgets, hgiven.trans hs.given⟩

theorem isPlain_of_kind {c : Call} (h : (Concern.call c.kind).isOffSheet g = true) : IsPlain g c.message := by
  refine ⟨?_, fun hlaunch => ?_⟩
  · cases hshards : c.message.shards? with
    | none => rfl
    | some shards =>
      obtain rfl := Call.eq_setShards hshards
      cases h
  · rw [Call.kind_of_isLaunch hlaunch] at h
    exact Option.isNone_iff_eq_none.mp h

theorem hosts (hcs : cs.all (Concern.isOffSheet g) = true) :
    Hosts (drafting g) Sheet.site (Holds given) cs where
  look s hs := by
    refine ⟨(fun h => by cases h), ?_⟩
    rintro _ _ ⟨rfl, rfl⟩
    exact ⟨hs, rfl, rfl⟩
  change s y hs hy := by
    have hoff : ∀ c, c.isOffSheet g = false → c ∉ cs := fun c hc hmem =>
      Bool.false_ne_true (hc.symm.trans (List.all_eq_true.mp hcs c hmem))
    refine ⟨fun horder => ?_, ?_⟩
    · have hnone : g.order?.isNone = false := by simpa using horder
      have hrun := hy.same .run (hoff _ (by rw [Concern.isOffSheet, hnone, Bool.and_false]))
      refine Site.enters_same ?_ (hy.same .storage (hoff _ hnone))
      rw [Session.record, Session.record, show y.session.state = s.site.session.state from congrArg (·.1.1) hrun,
        show y.session.context = s.site.session.context from congrArg (·.2) hrun]
    · rintro _ _ rfl
      have hsame := hy.same .configuration (hoff _ rfl)
      refine ⟨hs.after (congrArg Prod.fst hsame) (congrArg (·.2.2.1) hy.setup) fun happlies hcomplete => ?_, rfl⟩
      have hrun := hy.same .run (hoff _ (by rw [Concern.isOffSheet, happlies]; rfl))
      rw [← show y.session.state = s.site.session.state from congrArg (·.1.1) hrun]
      exact hcomplete
  other s e hs he hwithin := by
    have hplain : ∀ m, e = .send m → IsPlain g m := by
      rintro m rfl
      obtain ⟨c, rfl, hc⟩ := hwithin
      exact isPlain_of_kind (List.all_eq_true.mp hcs _ hc)
    refine ⟨?_, fun r s' hr => (leads_other he hr).holds hs (fun d x => ?_) hplain⟩
    · cases e with
      | change y => cases he
      | send m => exact allows_send hs (hplain m rfl)
      | _ => exact fun _ => hs.given ▸ hs
    · cases e with
      | send m => exact Draft.seeing_send (hplain m rfl).1
      | _ => exact Draft.seeing_other he fun m h => by cases h

/-! ## Looking, changing, and work within a span -/

open Op

theorem meets_site {Q : Except Exit Site → Sheet → Prop} (h : Q (.ok s.site) s) : Op.site.Meets (drafting g) Q s := by
  refine meets_lift.mpr ⟨(fun h => by cases h), ?_⟩
  rintro _ _ ⟨rfl, rfl⟩
  exact h

theorem meets_session {Q : Except Exit Session → Sheet → Prop} (h : Q (.ok s.site.session) s) :
    Op.session.Meets (drafting g) Q s := meets_bind.mpr (meets_site h)

theorem meets_update {f : Site → Site} {Q : Unit → Sheet → Prop}
    (henters : g.order?.isSome = true → s.site.Enters s.given (f s.site)) (h : Q () (s.after g (f s.site))) :
    (Work.update f).Meets (drafting g) Q s := by
  refine ⟨(fun h => by cases h), ?_⟩
  rintro _ _ ⟨rfl, rfl⟩
  refine ⟨henters, ?_⟩
  rintro _ _ rfl
  exact h

theorem meets_modify {f : Session → Session} {Q : Except Exit Unit → Sheet → Prop}
    (hrecord : g.order?.isSome = true → (f s.site.session).record = s.site.session.record)
    (h : Q (.ok ()) (s.after g (s.site.onSession f))) : (Op.modify f).Meets (drafting g) Q s :=
  meets_lift.mpr (meets_update (fun horder => Site.enters_same (hrecord horder) rfl) h)

theorem meets_announce {text : String} {level : Level} {Q : Except Exit Unit → Sheet → Prop}
    (h : ∀ (raised : Except Fault Unit) (board : Board),
      Q (raised.mapError .fault) (s.after g (s.site.onSession fun t => { t with board }))) :
    (Op.announce text level).Meets (drafting g) Q s := by
  refine meets_bind.mpr (meets_site ?_)
  rw [Op.after_ok]
  generalize s.site.session.board.transient s.site.now (.text text) level = posted
  refine meets_bind.mpr (meets_modify (fun _ => rfl) (meets_bind.mpr (meets_ofExcept.mpr ?_)))
  cases posted.2 with
  | error f => exact h (.error f) posted.1
  | ok n => exact h (.ok ()) posted.1

/-- The sheet with another trace. -/
def retraced (g : Errand) (s : Sheet) (trace : Trace) : Sheet := s.after g { s.site with trace }

theorem draft_retraced (trace : Trace) : (s.retraced g trace).draft = s.draft := draft_after fun _ h => h

theorem Holds.retraced (h : s.Holds given) (trace : Trace) : (s.retraced g trace).Holds given :=
  h.after rfl rfl fun _ h => h

theorem meets_traced {span : Span} {w : Nat → Op α} {Q : Except Exit α → Sheet → Prop}
    (h : ∀ id trace, (w id).Meets (drafting g) (fun r s' => ∀ trace, Q r (s'.retraced g trace)) (s.retraced g trace)) :
    (Op.traced span w).Meets (drafting g) Q s := by
  refine meets_bind.mpr (meets_lift.mpr ⟨(fun h => by cases h), ?_⟩)
  rintro _ _ ⟨rfl, rfl⟩
  refine ⟨fun _ => Site.enters_same rfl rfl, fun _ s' hs' => ?_⟩
  obtain rfl := hs'
  exact meets_ensure.mpr ((h _ _).mono fun r s' hr => meets_update (fun _ => Site.enters_same rfl rfl) (hr _))

theorem upheld_retraced {p : α → Prop} {r : Except Exit α} (h : Upheld (Holds given) p r s) (trace : Trace) :
    Upheld (Holds given) p r (s.retraced g trace) := ⟨h.1.retraced trace, h.2⟩

theorem upholds_traced {span : Span} {w : Nat → Op α} {p : α → Prop}
    (h : ∀ id, (w id).Upholds (drafting g) (Holds given) p) :
    (Op.traced span w).Upholds (drafting g) (Holds given) p :=
  fun _ hs => meets_traced fun id trace => (h id _ (hs.retraced trace)).mono fun _ _ => upheld_retraced

/-- The session is changed in something else than its configuration, by work that has no order. -/
theorem upholds_modify {f : Session → Session} (hg : g.order? = none)
    (hf : ∀ t, (f t).fragments = t.fragments ∧ (f t).hooks = t.hooks)
    (hphase : ∀ t, g.applies = true → (f t).state.phase = .complete → t.state.phase = .complete) :
    (Op.modify f).Upholding (drafting g) (Holds given) := by
  refine fun _ hs => meets_modify (fun horder => ?_) (upheld_ok (hs.after (hf _).1 (hf _).2 (hphase _)) trivial)
  rw [hg] at horder
  cases horder

theorem upholds_touching {op : Op α} (h : op.Touches cs) (hcs : cs.all (Concern.isOffSheet g) = true) :
    op.Upholding (drafting g) (Holds given) := h.upholds (hosts hcs)

theorem upholds_untouched {op : Op α} (h : op.Touches Concern.gates) : op.Upholding (drafting g) (Holds given) :=
  upholds_touching h rfl

theorem meets_quiet {e : Effect} {Q : Except Exit e.Reply → Sheet → Prop} (he : e.isOther = true)
    (hwait : e.isWait = false) (h : ∀ r s', s.Quiet s' → s'.given = s.given → Q (.ok r) s') :
    (Op.perform e).Meets (drafting g) Q s :=
  meets_perform.mpr ⟨allows_quiet he hwait, fun r s' hr =>
    h r s' ((leads_other he hr).quiet hwait) ((leads_other he hr).given_eq hwait)⟩

theorem upholds_guarded {name : GateName} {op : Op α} {p : α → Prop}
    (h : op.Upholds (drafting g) (Holds given) p) :
    (Op.guarded name op).Upholds (drafting g) (Holds given) p := by
  refine upholds_bind (upholds_untouched (touches_enter (Concern.mem_gates name))) fun _ _ => upholds_ensure h ?_
  exact fun s hs => ⟨allows_quiet rfl rfl, fun r s' hr =>
    hs.quiet ((leads_other rfl hr).quiet rfl) ((leads_other rfl hr).given_eq rfl)⟩

theorem upholds_send {c : Call} (hc : IsPlain g c.message) :
    c.send.Upholding (drafting g) (Holds given) := by
  refine upholds_traced fun span => upholds_unless (b := ()) fun s hs => meets_bind.mpr (meets_perform.mpr
    ⟨allows_send hs hc, fun w s' hr => ?_⟩)
  have hs' : s'.Holds given := (leads_other (e := .send c.message) rfl hr).holds hs (fun d x => Draft.seeing_send hc.1)
    fun m hm => by
      cases hm
      exact hc
  refine upholds_untouched (touches_bind (touches_unwrap w) fun o => ?_) s' hs'
  cases o with
  | answered a => exact touches_bind (touches_tag _ _ _) fun _ => touches_pure a
  | unreachable failure text => exact touches_bind (touches_tag _ _ _) fun _ => touches_fail _
  | failed f => exact touches_fail f

theorem upholds_write {c : Call} (hc : IsPlain g c.message) :
    c.write.Upholding (drafting g) (Holds given) :=
  upholds_bind (upholds_send hc) fun _ _ => upholds_untouched (Call.touches_ofService _)

theorem upholds_announce (text : String) (level : Level) :
    (Op.announce text level).Upholding (drafting g) (Holds given) := upholds_touching (touches_announce _ _) rfl

theorem upholds_alarm (message : Value) : (Op.alarm message).Upholding (drafting g) (Holds given) :=
  upholds_touching (touches_alarm _) rfl

theorem upholds_session : Op.session.Upholding (drafting g) (Holds given) :=
  upholds_untouched touches_session

/-! ## The end of a run -/

section
variable (hg : g.applies = true)
include hg

/-- Nothing is drafted, and the configuration has yet to be forgotten. -/
structure Emptied (given : Option Request) (s : Sheet) : Prop where
  draft : s.draft = .blank
  forgets : s.site.session.Forgets
  given : s.given = given

omit hg in
theorem Emptied.quiet (h : s.Emptied given) (hquiet : s.Quiet s') (hgiven : s'.given = s.given) :
    s'.Emptied given := by
  obtain ⟨hdraft, -, -, _, _, _, _, hsite⟩ := hquiet
  refine ⟨hdraft.trans h.draft, ?_, hgiven.trans h.given⟩
  rw [hsite]
  exact h.forgets.of_hooks rfl

omit hg in
theorem Emptied.after (h : s.Emptied given) {y : Site} (hhooks : y.session.hooks = s.site.session.hooks)
    (hphase : y.session.state.phase = s.site.session.state.phase) : (s.after g y).Emptied given :=
  ⟨(draft_after fun _ hcomplete => hphase.symm.trans hcomplete).trans h.draft, h.forgets.of_hooks hhooks, h.given⟩

omit hg in
/-- **What a hook does when a run is complete.** Nothing is drafted, and once the configuration is forgotten nothing
is set. -/
theorem meets_runHook (hook : StopHook) (hs : s.Emptied given) :
    (Control.runHook .complete hook).Meets (drafting g) (fun r s' => s'.Emptied given ∧
      (s.Holds given ∨ hook = .configuration → s'.Holds given) ∧ (hook.fails = false → r = .ok ())) s := by
  cases hook with
  | polling =>
    refine meets_quiet rfl rfl fun _ s' hquiet hgiven => ⟨hs.quiet hquiet hgiven, ?_, fun _ => rfl⟩
    exact fun h => (h.resolve_right StopHook.noConfusion).quiet hquiet hgiven
  | configuration =>
    refine meets_modify (fun _ => rfl) ⟨hs.after rfl rfl, fun _ => ?_, fun _ => rfl⟩
    refine ⟨?_, hs.forgets.of_hooks rfl, hs.given⟩
    rw [draft_after (y := s.site.onSession Session.forgetConfiguration) fun _ h => h, hs.draft]
    exact Draft.agrees_blank rfl rfl
  | user number id fails =>
    refine meets_bind.mpr (meets_lift.mpr (meets_update (fun _ => Site.enters_same rfl rfl) ?_))
    have hkept : (s.Holds given ∨ StopHook.user number id fails = .configuration →
        (s.after g { s.site with
          hookCalls := s.site.hookCalls ++
            [⟨id, .complete, !(s.site.storage.table s.site.storage.current).isEmpty⟩] }).Holds given) :=
      fun h => (h.resolve_right StopHook.noConfusion).after rfl rfl fun _ h => h
    show Op.Meets _ _ (if fails then _ else _) _
    cases fails with
    | true => exact ⟨hs.after rfl rfl, hkept, Bool.noConfusion⟩
    | false => exact ⟨hs.after rfl rfl, hkept, fun _ => rfl⟩

omit hg in
/-- **The hooks of a complete run forget the configuration**, if it is forgotten already or they come to the hook
that does so. -/
theorem meets_runHooks (hooks : List StopHook) (hs : s.Emptied given) (h : s.Holds given ∨
      ∃ before after, hooks = before ++ .configuration :: after ∧ ∀ h ∈ before, h.fails = false) :
    (Control.runHooks .complete hooks).Meets (drafting g) (Upheld (Holds given) fun _ => True) s := by
  induction hooks generalizing s with
  | nil =>
    rcases h with h | ⟨before, after, hnil, -⟩
    · exact upheld_ok h trivial
    · simp at hnil
  | cons hook rest ih =>
    refine meets_bind.mpr ((meets_runHook hook hs).mono fun r s' hr => ?_)
    obtain ⟨hs', hforgets, hends⟩ := hr
    -- Either the configuration is forgotten now, or the hook ended well and others come.
    have hcases : s'.Holds given ∨ hook.fails = false ∧
        ∃ before after, rest = before ++ .configuration :: after ∧ ∀ h ∈ before, h.fails = false := by
      rcases h with h | ⟨before, after, heq, hfine⟩
      · exact .inl (hforgets (.inl h))
      · cases before with
        | nil => exact .inl (hforgets (.inr (List.cons.inj heq).1))
        | cons first before =>
          obtain ⟨rfl, hrest⟩ := List.cons.inj heq
          exact .inr ⟨hfine _ List.mem_cons_self, before, after, hrest, fun h hh => hfine h (List.mem_cons_of_mem _ hh)⟩
    cases r with
    | error e =>
      refine upheld_error (hcases.resolve_right fun ⟨hok, _⟩ => ?_)
      cases hends hok
    | ok _ => exact ih hs' (hcases.imp_right And.right)

/-- A part of the session that no record shows changes, and a phase is not completed. -/
theorem upholds_change {f : Session → Session} (hf : ∀ t, (f t).fragments = t.fragments ∧ (f t).hooks = t.hooks)
    (hphase : ∀ t, (f t).state.phase = .complete → t.state.phase = .complete) :
    (Op.modify f).Upholding (drafting g) (Holds given) :=
  upholds_modify (order?_of_applies hg) hf fun t _ => hphase t

omit hg in
theorem upholds_runHooks (hooks : List StopHook) :
    (Control.runHooks .failed hooks).Upholding (drafting g) (Holds given) := by
  induction hooks with
  | nil => exact upholds_pure trivial
  | cons hook rest ih =>
    refine upholds_bind (p := fun _ => True) ?_ fun _ _ => ih
    cases hook with
    | polling => exact upholds_untouched (touches_perform .raiseLatch rfl trivial)
    | configuration => exact upholds_pure trivial
    | user number id fails =>
      refine upholds_bind (p := fun _ => True) (fun s hs => ?_) fun _ _ => ?_
      · exact meets_lift.mpr (meets_update (fun _ => Site.enters_same rfl rfl)
          (upheld_ok (hs.after rfl rfl fun _ h => h) trivial))
      · exact upholds_ite (fun _ => upholds_fail _) fun _ => upholds_pure trivial

/-! ## Reports -/

theorem upholds_reconcileOnce : Control.reconcileOnce.Upholding (drafting g) (Holds given) := by
  refine upholds_bind upholds_session fun _ _ => upholds_ite (fun _ => ?_) fun _ => upholds_pure trivial
  refine upholds_rescue (upholds_bind (upholds_touching Reconcile.touches_fetch rfl) fun _ _ => ?_) fun f => ?_
  · exact upholds_change hg (fun _ => ⟨rfl, rfl⟩) fun _ h => h
  · refine upholds_ite (fun _ => upholds_bind (p := fun _ => True) ?_ fun _ _ => upholds_alarm _) fun _ => upholds_fail _
    exact upholds_change hg (fun _ => ⟨rfl, rfl⟩) fun _ h => h

theorem upholds_storing {op : Op α} (h : op.Touches [.storage]) : op.Upholding (drafting g) (Holds given) :=
  upholds_touching h (by simp [Concern.isOffSheet, order?_of_applies hg])

omit hg in
theorem upholds_snapshot : Control.snapshot.Upholding (drafting g) (Holds given) :=
  upholds_untouched Control.touches_snapshot

omit hg in
theorem upholds_publish : Control.publish.Upholding (drafting g) (Holds given) :=
  upholds_untouched Control.touches_publish

/-- **A run that is complete forgets its configuration** before anything waits. -/
theorem meets_complete (hs : s.Emptied given) :
    Control.complete.Meets (drafting g) (Upheld (Holds given) fun _ => True) s := by
  refine meets_bind.mpr (meets_modify (fun horder => ?_) (meets_bind.mpr (meets_session ?_)))
  · rw [order?_of_applies hg] at horder
    cases horder
  · have hs' := hs.after (g := g)
      (y := s.site.onSession fun t => { t with state := { t.state with inProgress := .bool false } }) rfl rfl
    refine meets_then (meets_runHooks _ hs' (.inr hs'.forgets)) fun _ _ => ?_
    exact upholds_bind (upholds_reconcileOnce hg) fun _ _ => upholds_bind upholds_session fun _ _ =>
      upholds_bind (upholds_storing hg (Keep.touches_clear _)) fun _ _ => upholds_announce _ _

theorem upholds_failRun (errorText : Value) :
    (Control.failRun errorText).Upholding (drafting g) (Holds given) := by
  refine upholds_bind (upholds_change hg (fun _ => ⟨rfl, rfl⟩) fun _ h => by cases h) fun _ _ => ?_
  exact upholds_bind upholds_session fun _ _ => upholds_bind (upholds_runHooks _) fun _ _ =>
    upholds_bind upholds_session fun _ _ => upholds_bind (upholds_storing hg (Keep.touches_clear _)) fun _ _ =>
      upholds_alarm _

/-- The state of the run has moved on: the configuration of a complete run has yet to be forgotten, and that of any
other is what was drafted. -/
structure Moved (given : Option Request) (a : RunState.Advance) (s : Sheet) : Prop where
  state : s.site.session.state = a.state
  complete : a.state.phase = .complete → s.Emptied given
  goesOn : a.state.phase ≠ .complete → s.Holds given

/-- **A state that has moved on is settled**: a complete run is closed, any other is stored. -/
theorem meets_settle {a : RunState.Advance} (hs : s.Moved given a) :
    (Control.settle a).Meets (drafting g) (Upheld (Holds given) fun _ => True) s := by
  have hpersist : Control.persist.Upholding (drafting g) (Holds given) := upholds_storing hg Control.touches_persist
  refine meets_bind.mpr (meets_session ?_)
  show Op.Meets _ _ (if s.site.session.state.phase = .complete then _ else _) _
  rw [hs.state]
  split
  next hcomplete => exact meets_complete hg (hs.complete hcomplete)
  next hgoing =>
    exact upholds_ite (fun _ => upholds_bind (upholds_reconcileOnce hg) fun _ _ => hpersist)
      (fun _ => hpersist) _ (hs.goesOn hgoing)

theorem meets_settleUnlessSame {a : RunState.Advance} {before : RunState} {previous : Phase} (hs : s.Moved given a)
    (hsame : a.state.sameAs before = true → a.state.phase ≠ .complete) :
    Op.Meets (drafting g) (Upheld (Holds given) fun _ => True) (do
      if (← Op.session).state.sameAs before then return some ⟨previous, before, false⟩
      else
        Control.settle a
        return none : Op (Option Transition)) s := by
  refine meets_bind.mpr (meets_session ?_)
  show Op.Meets _ _ (if s.site.session.state.sameAs before = true then _ else _) _
  rw [hs.state]
  split
  next h => exact upheld_ok (hs.goesOn (hsame h)) trivial
  next => exact meets_then (meets_settle hg hs) fun _ _ => upholds_pure trivial

/-- **A report is applied** in an active phase. -/
theorem meets_applyActive {previous : Phase} {report : Status} (hs : s.Holds given)
    (hactive : s.site.session.state.phase.isActive = true) :
    (Control.applyActive previous report).Meets (drafting g) (Upheld (Holds given) fun _ => True) s := by
  have hphase : s.site.session.state.phase ≠ .complete := fun h => by
    rw [h] at hactive
    cases hactive
  unfold Control.applyActive
  split
  next => exact upholds_bind (upholds_failRun hg _) (fun _ _ => upholds_pure trivial) _ hs
  next =>
    refine meets_bind.mpr (meets_bind.mpr (meets_session (meets_ofExcept.mpr ?_)))
    cases hchecked : s.site.session.state.check with
    | error f => exact upheld_error hs
    | ok before =>
      obtain rfl := (RunState.sound_of_check hchecked).1
      refine meets_bind.mpr (meets_bind.mpr (meets_session (meets_bind.mpr (meets_ofExcept.mpr ?_))))
      cases ha : s.site.session.state.advance s.site.session.mode s.site.session.transfer report with
      | error f => exact upheld_error hs
      | ok a =>
        obtain ⟨q, -, hcourse⟩ := RunState.Course.of_advance hactive ha
        have hsame : a.state.sameAs s.site.session.state = true → a.state.phase ≠ .complete := fun h => by
          rw [RunState.Course.phase_of_sameAs h]
          exact hphase
        refine meets_bind.mpr (meets_modify (fun horder => ?_) ?_)
        · rw [order?_of_applies hg] at horder
          cases horder
        have hmoved : (s.after g (s.site.onSession fun t => { t with state := a.state })).Moved given a :=
          ⟨rfl, fun h => ⟨if_pos ⟨hg, hphase, h⟩, hs.forgets.of_hooks rfl, hs.given⟩,
            fun h => hs.after rfl rfl fun _ h' => absurd h' h⟩
        generalize s.after g (s.site.onSession fun t => { t with state := a.state }) = u at hmoved
        show Op.Meets _ _ (if a.provisions = true then _ else _) _
        split
        next hprovisions =>
          -- A run that is being provisioned is not complete, so that a notice that fails finds all in order.
          have hgoing : a.state.phase ≠ .complete := by
            rw [hcourse.provisioning hprovisions]
            decide
          refine meets_bind.mpr (meets_announce fun raised board => ?_)
          have hraised := (hmoved.goesOn hgoing).after (g := g) (y := u.site.onSession fun t => { t with board }) rfl rfl
            fun _ h => h
          cases raised with
          | error f => exact upheld_error hraised
          | ok _ =>
            exact meets_settleUnlessSame hg ⟨hmoved.state, fun h => absurd h hgoing, fun _ => hraised⟩ hsame
        next => exact meets_settleUnlessSame hg hmoved hsame

/-- **A report is applied.** -/
theorem keeps_apply (report : Status) : (Control.apply report).Upholding (drafting g) (Holds given) := by
  refine upholds_guarded fun s hs => meets_bind.mpr (meets_session ?_)
  -- Between the look at the phase and what depends on it nothing waits.
  refine meets_then (p := fun _ => True) (meets_traced fun span trace => ?_) fun ignored _ => ?_
  · refine Op.Meets.mono (P := Upheld (Holds given) fun _ => True) ?_ fun _ _ => upheld_retraced
    have hretraced := hs.retraced (g := g) trace
    unfold Control.applyTraced
    split
    next hactive =>
      refine meets_then (meets_applyActive hg hretraced hactive) fun result _ => ?_
      exact upholds_ite (fun _ => upholds_bind upholds_session fun _ _ => upholds_bind
        (upholds_untouched (touches_tag _ _ _)) fun _ _ => upholds_pure trivial) fun _ => upholds_pure trivial
    next => exact upholds_bind upholds_snapshot (fun _ _ => upholds_pure trivial) _ hretraced
  · cases ignored with
    | some ignored => exact upholds_pure trivial
    | none => exact upholds_bind upholds_publish fun _ _ => upholds_bind upholds_snapshot fun _ _ => upholds_pure trivial

theorem keeps_applyMarked (report : Status) : (Poll.applyMarked report).Upholding (drafting g) (Holds given) :=
  Poll.upholds_applyMarked (hosts rfl) (keeps_apply hg) report

/-- **A round of the poll loop.** -/
theorem keeps_round : Poll.round.Upholding (drafting g) (Holds given) :=
  Poll.upholds_round (hosts rfl) (keeps_applyMarked hg)

end

/-- **The work in the background keeps to the draft.** -/
theorem keeps_background (b : Background) :
    b.begin.Upholding (drafting (.background b)) (Holds given) ∧
      b.round.Upholding (drafting (.background b)) (Holds given) := by
  cases b with
  | pollLoop => exact ⟨keeps_round rfl, keeps_round rfl⟩
  | reader number id includeCurrent =>
    exact ⟨upholds_touching (Reader.touches_begin number id includeCurrent) rfl,
      upholds_touching (Reader.touches_round number id) rfl⟩

end Sheet

end Cutover
