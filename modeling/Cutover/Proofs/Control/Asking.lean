import Cutover.Proofs.Control.Touching

/-!
# How often the resources are asked for

A session counts its fetches. One request for the resources is sent for each fetch that is counted, and none
while the resources are kept, which they are until somebody drops them. A report is applied by one piece of work after
another, and what all pieces uphold, the report upholds.

* `Frame`, `Pieces`: **what a report is made of upholds an invariant**;
* `asking`: the contract that keeps the books on requests and on the resources that are kept;
* `Asking.Closed`: what is kept up by a fetch, and by whatever leaves the books alone;
* `Asking.Closed.action`: **every action keeps it up** that neither drops the resources nor asks past the
  session;
* `Asking.closed_ahead`, `Asking.closed_keeping`: as many requests as fetches; the resources that are kept.
-/

namespace Cutover

/-! ## What a report is made of -/

section
open Op

/-- **What surrounds the work on a report upholds an invariant**: work that touches neither the run nor what is
counted, kept and told; a span; and the gate. -/
structure Frame {σ : Type} (C : Contract σ) (I : σ → Prop) : Prop where
  ofTouches : ∀ {α : Type} {op : Op α}, op.Touches [.configuration, .storage, .hookCalls] → op.Upholding C I
  ofTraced : ∀ {α : Type} {span : Span} {w : Nat → Op α}, (∀ id, (w id).Upholding C I) →
    (traced span w).Upholding C I
  ofGuarded : ∀ {α : Type} {op : Op α}, op.Upholding C I → (guarded .state op).Upholding C I

/-- **The pieces of a report uphold an invariant**: what surrounds them; a step of the run; a notice that expires;
and fetching the resources. -/
structure Pieces {σ : Type} (C : Contract σ) (I : σ → Prop) : Prop extends Frame C I where
  onState : ∀ f : Session → RunState, (modify fun s => { s with state := f s }).Upholding C I
  announce : ∀ text level, (announce text level).Upholding C I
  reconcileOnce : Control.reconcileOnce.Upholding C I

variable {σ : Type} {C : Contract σ} {I : σ → Prop} {report : Status}

namespace Frame

variable (h : Frame C I)
include h

theorem session : session.Upholding C I := h.ofTouches touches_session

theorem snapshot : Control.snapshot.Upholding C I := h.ofTouches Control.touches_snapshot

theorem clear (store : Nat) : (Keep.clear store).Upholding C I :=
  h.ofTouches ((Keep.touches_clear store).mono (by decide))

theorem runHooks (phase : Phase) (hooks : List StopHook) : (Control.runHooks phase hooks).Upholding C I :=
  h.ofTouches ((Control.touches_runHooks phase hooks).mono (by decide))

theorem apply (hactive : ∀ previous, (Control.applyActive previous report).Upholding C I) :
    (Control.apply report).Upholding C I := by
  refine h.ofGuarded (upholds_bind h.session fun _ _ => upholds_bind (h.ofTraced fun _ => ?_) fun ignored _ => ?_)
  · refine upholds_ite (fun _ => upholds_bind (hactive _) fun _ _ => ?_) fun _ =>
      upholds_bind h.snapshot fun _ _ => upholds_pure trivial
    exact upholds_ite (fun _ => upholds_bind h.session fun _ _ =>
      upholds_bind (h.ofTouches (touches_tag _ _ _)) fun _ _ => upholds_pure trivial) fun _ => upholds_pure trivial
  · cases ignored with
    | some t => exact upholds_pure trivial
    | none =>
      exact upholds_bind (h.ofTouches Control.touches_publish) fun _ _ =>
        upholds_bind h.snapshot fun _ _ => upholds_pure trivial

/-- **A report of a failure** upholds what is upheld by a run that fails. -/
theorem applyFailure (hfailure : report.isFailure = true)
    (hfailed : (Control.failRun report.errorText).Upholding C I) : (Control.apply report).Upholding C I :=
  h.apply fun _ => upholds_ite (fun _ => upholds_bind hfailed fun _ _ => upholds_pure trivial)
    fun hplain => absurd hfailure hplain

end Frame

namespace Pieces

variable (h : Pieces C I)
include h

theorem complete : Control.complete.Upholding C I :=
  upholds_bind (h.onState _) fun _ _ => upholds_bind h.session fun _ _ =>
    upholds_bind (h.runHooks _ _) fun _ _ => upholds_bind h.reconcileOnce fun _ _ =>
      upholds_bind h.session fun _ _ => upholds_bind (h.clear _) fun _ _ => h.announce _ _

theorem advance (report : Status) : (Control.advance report).Upholding C I := by
  refine upholds_bind h.session fun _ _ => upholds_bind (h.ofTouches (touches_ofExcept _)) fun a _ =>
    upholds_bind (h.onState fun _ => a.state) fun _ _ => upholds_ite (fun _ => ?_) fun _ => upholds_pure trivial
  exact upholds_bind (h.announce _ _) fun _ _ => upholds_pure trivial

theorem settle (a : RunState.Advance) : (Control.settle a).Upholding C I := by
  have hpersist : Control.persist.Upholding C I := h.ofTouches (Control.touches_persist.mono (by decide))
  exact upholds_bind h.session fun _ _ => upholds_ite (fun _ => h.complete) fun _ =>
    upholds_ite (fun _ => upholds_bind h.reconcileOnce fun _ _ => hpersist) fun _ => hpersist

/-- **A report that is no failure** upholds what its pieces uphold. -/
theorem applyPlain (hplain : report.isFailure = false) : (Control.apply report).Upholding C I := by
  refine h.apply fun _ => upholds_ite (fun hfailure => ?_) fun _ =>
    upholds_bind h.snapshot fun _ _ => upholds_bind (h.advance report) fun a _ =>
      upholds_bind h.session fun _ _ => upholds_ite (fun _ => upholds_pure trivial) fun _ =>
        upholds_bind (h.settle a) fun _ _ => upholds_pure trivial
  cases hplain.symm.trans hfailure

end Pieces

end

/-! ## The books of a session -/

/-- The message asks for the resources. -/
def Message.asks (m : Message) : Bool := m.method = "GET" ∧ m.route = "/GetGeneratedResources"

theorem Call.kind_of_asks {c : Call} (h : c.message.asks = true) : c.kind = .resources := by
  cases c with
  | getResources => rfl
  | _ => simp [message, Message.asks] at h

/-- How often an effect asks for the resources. -/
def Effect.asks : Effect → Nat
  | .send m => if m.asks then 1 else 0
  | _ => 0

/-- It has nothing to do with the resources, with what is counted and with requests for them. -/
def Concern.isOffBooks : Concern → Bool
  | resources | counts | call .resources => false
  | _ => true

theorem Concern.not_mem_of_all {p : Concern → Bool} {cs : List Concern} {c : Concern} (hcs : cs.all p = true)
    (hc : p c = false) : c ∉ cs := fun hmem =>
  Bool.false_ne_true (hc.symm.trans (List.all_eq_true.mp hcs c hmem))

theorem Effect.asks_of_within {cs : List Concern} {e : Effect} (h : e.Within cs)
    (hcs : cs.all Concern.isOffBooks = true) : e.asks = 0 := by
  cases e with
  | send m =>
    obtain ⟨c, rfl, hc⟩ := h
    refine if_neg fun hasks => ?_
    rw [Call.kind_of_asks hasks] at hc
    exact Concern.not_mem_of_all hcs rfl hc
  | _ => rfl

/-- A site, and how often the service was asked for the resources. -/
structure Asking where
  site : Site
  asked : Nat

namespace Asking

/-- The resources that are kept. -/
def kept (s : Asking) : Option (List Resource) := s.site.session.resources

/-- How many fetches were counted. -/
def counted (s : Asking) : Nat := s.site.session.fetchCount

/-- Nobody asked, no fetch was counted, and the same resources are kept. -/
structure Same (s s' : Asking) : Prop where
  kept : s'.kept = s.kept
  counted : s'.counted = s.counted
  asked : s'.asked = s.asked

theorem Same.refl (s : Asking) : s.Same s := ⟨rfl, rfl, rfl⟩

theorem Same.trans {s s' s'' : Asking} (h : s.Same s') (h' : s'.Same s'') : s.Same s'' :=
  ⟨h'.kept.trans h.kept, h'.counted.trans h.counted, h'.asked.trans h.asked⟩

end Asking

/-- **The contract that keeps the books** on what is asked of the service and on the resources that are
kept. It allows everything. -/
def asking : Contract Asking where
  allows _ _ := True
  leads s
    | .look, r, s' => r = s.site ∧ s' = s
    | .change y, _, s' => s' = { s with site := { y with now := s.site.now } }
    | e, _, s' => Asking.Same { s with asked := s.asked + e.asks } s'

/-- The action drops the resources that are kept. -/
def Action.drops : Action → Bool
  | whole (.launch _) | whole .abandon | whole .forget => true
  | poll (.submit _) => true
  | _ => false

/-- The action asks the service for the resources itself, past the session. -/
def Action.asksItself : Action → Bool
  | service .resources | service (.write .getResources) => true
  | _ => false

namespace Asking

variable {α : Type} {cs : List Concern} {s s' : Asking} {I : Asking → Prop} {a b k : Nat} {items : List Resource}

theorem same_of_leads {e : Effect} {r : e.Reply} (he : e.isOther = true) (h : asking.leads s e r s') :
    Same { s with asked := s.asked + e.asks } s' := by
  cases e with
  | look => cases he
  | change y => cases he
  | _ => exact h

theorem leads_of_same {e : Effect} {r : e.Reply} (he : e.isOther = true)
    (h : Same { s with asked := s.asked + e.asks } s') : asking.leads s e r s' := by
  cases e with
  | look => cases he
  | change y => cases he
  | _ => exact h

theorem hosts (hI : ∀ s s', I s → Same s s' → I s') (hcs : cs.all Concern.isOffBooks = true) :
    Hosts asking Asking.site I cs where
  look s hs := by
    refine ⟨trivial, ?_⟩
    rintro _ _ ⟨rfl, rfl⟩
    exact ⟨hs, rfl, rfl⟩
  change s y hs hy := by
    refine ⟨trivial, ?_⟩
    rintro _ _ rfl
    have hkept : y.session.resources = s.site.session.resources :=
      hy.same .resources (Concern.not_mem_of_all hcs rfl)
    have hcounted : y.session.fetchCount = s.site.session.fetchCount :=
      congrArg Prod.fst (hy.same .counts (Concern.not_mem_of_all hcs rfl))
    exact ⟨hI s _ hs ⟨hkept, hcounted, rfl⟩, rfl⟩
  other s e hs he hwithin := by
    refine ⟨trivial, fun r s' hr => hI s s' hs ?_⟩
    have hsame := same_of_leads he hr
    rw [Effect.asks_of_within hwithin hcs] at hsame
    exact hsame

open Op

theorem meets_session {Q : Except Exit Session → Asking → Prop} (h : Q (.ok s.site.session) s) :
    session.Meets asking Q s := by
  refine meets_bind.mpr (meets_lift.mpr ⟨trivial, ?_⟩)
  rintro _ _ ⟨rfl, rfl⟩
  exact h

theorem meets_update {f : Site → Site} {Q : Unit → Asking → Prop}
    (h : Q () { s with site := { f s.site with now := s.site.now } }) : (Work.update f).Meets asking Q s := by
  refine ⟨trivial, ?_⟩
  rintro _ s₁ ⟨rfl, rfl⟩
  refine ⟨trivial, ?_⟩
  rintro _ s₂ rfl
  exact h

theorem meets_traced {S : Span} {w : Nat → Op α} {Q : Except Exit α → Asking → Prop}
    (h : ∀ id s₁, Same s s₁ → (w id).Meets asking Q s₁) (hQ : ∀ r s s', Q r s → Same s s' → Q r s') :
    (traced S w).Meets asking Q s := by
  refine meets_bind.mpr (meets_lift.mpr ⟨trivial, ?_⟩)
  rintro _ s₁ ⟨rfl, rfl⟩
  refine ⟨trivial, ?_⟩
  rintro _ s₂ rfl
  refine meets_ensure.mpr ((h _ _ ?_).mono fun r s₃ hr => meets_update ?_)
  · exact ⟨rfl, rfl, rfl⟩
  · exact hQ r s₃ _ hr ⟨rfl, rfl, rfl⟩

/-- **What a fetch keeps up**, and whatever leaves the books alone. -/
structure Closed (I : Asking → Prop) : Prop where
  same : ∀ s s', I s → Same s s' → I s'
  fetch : Reconcile.fetch.Upholding asking I

namespace Closed

theorem upheldSame (hI : ∀ s s', I s → Same s s' → I s') (r : Except Exit α) (s s' : Asking)
    (h : Upheld I (fun _ => True) r s) (hsame : Same s s') : Upheld I (fun _ => True) r s' :=
  ⟨hI s s' h.1 hsame, h.2⟩

variable (h : Closed I)
include h

theorem ofTouches {op : Op α} (hop : op.Touches cs) (hcs : cs.all Concern.isOffBooks = true := by rfl) :
    op.Upholding asking I := hop.upholds (hosts h.same hcs)

theorem plain {op : Op α} (hop : op.Touches Concern.gates) : op.Upholding asking I := h.ofTouches hop

theorem ofTraced {S : Span} {w : Nat → Op α} (hw : ∀ id, (w id).Upholding asking I) :
    (traced S w).Upholding asking I := fun s hs =>
  meets_traced (fun id s₁ hsame => hw id s₁ (h.same s s₁ hs hsame)) (upheldSame h.same)

theorem ofGuarded {g : GateName} {op : Op α} (hop : op.Upholding asking I) :
    (guarded g op).Upholding asking I :=
  upholds_bind (h.plain (touches_enter (Concern.mem_gates g))) fun _ _ =>
    upholds_ensure hop fun s hs => ⟨trivial, fun _ s' hsame => h.same s s' hs hsame⟩

theorem modify {f : Session → Session} (hkept : ∀ s, (f s).resources = s.resources)
    (hcounted : ∀ s, (f s).fetchCount = s.fetchCount) : (modify f).Upholding asking I :=
  upholds_lift fun s hs => meets_update (h.same s _ hs ⟨hkept _, hcounted _, rfl⟩)

theorem session : session.Upholding asking I := h.plain touches_session

theorem reconcileOnce : Control.reconcileOnce.Upholding asking I := by
  refine upholds_bind h.session fun _ _ => upholds_ite (fun _ => ?_) fun _ => upholds_pure trivial
  refine upholds_rescue (upholds_bind h.fetch fun _ _ => h.modify (fun _ => rfl) fun _ => rfl) fun f => ?_
  exact upholds_ite (fun _ => upholds_bind (h.modify (fun _ => rfl) fun _ => rfl) fun _ _ =>
    h.ofTouches (touches_alarm _)) fun _ => upholds_fail _

theorem pieces : Pieces asking I where
  ofTouches hop := h.ofTouches hop
  onState _ := h.modify (fun _ => rfl) fun _ => rfl
  ofTraced := h.ofTraced
  ofGuarded := h.ofGuarded
  announce text level := h.ofTouches (touches_announce text level)
  reconcileOnce := h.reconcileOnce

/-- **A report that is applied** keeps up what a fetch keeps up. -/
theorem apply (report : Status) : (Control.apply report).Upholding asking I := by
  cases hfailure : report.isFailure with
  | false => exact h.pieces.applyPlain hfailure
  | true => exact h.pieces.applyFailure hfailure (h.ofTouches (Control.touches_failRun _))

theorem reconcile : Control.reconcile.Upholding asking I := by
  have hguarded := h.ofGuarded (g := .state) h.fetch
  exact upholds_bind h.session fun _ _ =>
    upholds_ite (fun _ => upholds_bind (upholds_fail _) fun _ (_ : True) => hguarded) fun _ => hguarded

theorem reconcileNow : Conduct.reconcileNow.Upholding asking I := by
  refine upholds_rescue h.reconcile fun f => ?_
  exact upholds_ite (fun _ => upholds_bind (h.ofTouches (touches_alarm _)) fun _ _ => upholds_fail _)
    fun _ => upholds_fail _

theorem once : Poll.once.Upholding asking I := by
  refine upholds_bind (h.modify (fun _ => rfl) fun _ => rfl) fun _ _ => upholds_bind h.session fun _ _ =>
    h.ofTraced fun id => upholds_bind (p := fun _ => True) ?_ fun report _ => ?_
  · refine upholds_rescue (upholds_map (h.ofTouches Call.touches_readStatus) fun _ _ => trivial) fun f => ?_
    exact upholds_bind (h.modify (fun _ => rfl) fun _ => rfl) fun _ _ =>
      upholds_bind (h.plain (touches_tag _ _ _)) fun _ _ =>
        upholds_bind (h.ofTouches (touches_announce _ _)) fun _ _ => upholds_pure trivial
  · cases report with
    | none => exact upholds_pure trivial
    | some report =>
      refine upholds_bind (h.modify (fun _ => rfl) fun _ => rfl) fun _ _ =>
        upholds_ensure (upholds_bind (h.apply report) fun _ _ => upholds_pure trivial) fun s hs => ?_
      exact meets_update (h.same s _ hs ⟨rfl, rfl, rfl⟩)

/-- **Every action keeps it up** that neither drops the resources nor asks for them past the session. -/
theorem action {a : Action} (hdrops : a.drops = false) (hasks : a.asksItself = false) :
    a.op.Upholding asking I := by
  cases a with
  | whole a =>
    cases a with
    | reconcileNow =>
      exact upholds_bind h.session fun _ _ => upholds_unless (b := ())
        (upholds_map h.reconcileNow fun _ _ => trivial)
    | launch _ | abandon | forget => cases hdrops
    | _ => exact h.ofTouches (Action.touches (.whole _))
  | run a =>
    cases a with
    | apply report => exact upholds_map (h.apply report) fun _ _ => trivial
    | reconcile => exact upholds_map h.reconcile fun _ _ => trivial
    | _ => exact h.ofTouches (Action.touches (.run _))
  | poll a =>
    cases a with
    | once => exact upholds_bind h.once fun _ _ => upholds_pure trivial
    | submit request => cases hdrops
    | _ => exact h.ofTouches (Action.touches (.poll _))
  | configure a =>
    have hcs : a.concerns.all Concern.isOffBooks = true := by cases a <;> rfl
    exact h.ofTouches (ConfigureAction.touches a) hcs
  | notice a => exact h.ofTouches (NoticeAction.touches a)
  | store a => exact h.ofTouches (StoreAction.touches a)
  | service a =>
    have hcs : a.concerns.all Concern.isOffBooks = true := by
      cases a with
      | resources => cases hasks
      | write c => cases c <;> first | rfl | cases hasks
      | _ => rfl
    exact h.ofTouches (ServiceAction.touches a) hcs

end Closed

/-! ## Requests and fetches -/

/-- So far as many fetches were counted as requests were sent, but for those that were counted or sent
before. -/
def Ahead (a b : Nat) (s : Asking) : Prop := s.counted + a = s.asked + b

theorem Ahead.same (s s' : Asking) (h : s.Ahead a b) (hsame : Same s s') : s'.Ahead a b := by
  rw [Ahead, hsame.counted, hsame.asked]
  exact h

theorem ahead_of_touches {op : Op α} (hop : op.Touches Concern.gates) : op.Upholding asking (Ahead a b) :=
  hop.upholds (hosts Ahead.same rfl)

/-- **A call for the resources asks once**, whatever comes of it. -/
theorem meets_readResources (hs : s.Ahead a (b + 1)) :
    Call.readResources.Meets asking (Upheld (Ahead a b) fun _ => True) s := by
  refine meets_rescuedThen (meets_then (p := fun _ => True) ?_ fun answer _ => ?_) fun f => upholds_throw _
  · refine meets_traced (fun id s₁ hsame => ?_) (Closed.upheldSame Ahead.same)
    refine meets_bind.mpr (meets_perform.mpr ⟨trivial, fun r s₂ hsent => ?_⟩)
    have hs₁ := Ahead.same s s₁ hs hsame
    have hs₂ : s₂.Ahead a b := by
      have hcounted : s₂.counted = s₁.counted := hsent.counted
      have hasked : s₂.asked = s₁.asked + 1 := hsent.asked
      rw [Ahead] at hs₁ ⊢
      omega
    refine ahead_of_touches (touches_bind (touches_unwrap r) fun o => ?_) s₂ hs₂
    cases o with
    | answered a => exact touches_bind (touches_tag _ _ _) fun _ => touches_pure a
    | unreachable failure text => exact touches_bind (touches_tag _ _ _) fun _ => touches_fail _
    | failed f => exact touches_fail f
  · exact ahead_of_touches (Call.touches_ofService _)

/-- **As many requests are sent as fetches are counted.** -/
theorem closed_ahead (a b : Nat) : Closed (Ahead a b) := by
  refine ⟨Ahead.same, upholds_bind (ahead_of_touches (touches_enter (by decide))) fun _ _ =>
    upholds_ensure (upholds_bind (ahead_of_touches touches_session) fun x _ => ?_) fun s hs =>
      ⟨trivial, fun _ s' hsame => Ahead.same s s' hs hsame⟩⟩
  cases x.resources with
  | some items => exact upholds_pure trivial
  | none =>
    refine upholds_bind (p := fun _ => True) (fun s hs => ?_) fun items _ =>
      upholds_bind (upholds_lift fun s hs => meets_update hs) fun _ _ => upholds_pure trivial
    refine meets_traced (fun id s₁ hsame => ?_) (Closed.upheldSame Ahead.same)
    refine meets_bind.mpr (meets_lift.mpr (meets_update ?_))
    refine meets_then (meets_readResources ?_) fun _ _ =>
      ahead_of_touches (touches_bind (touches_tag _ _ _) fun _ => touches_pure _)
    have hs₁ := Ahead.same s s₁ hs hsame
    show s₁.counted + 1 + a = s₁.asked + (b + 1)
    rw [Ahead] at hs₁
    omega

/-! ## Resources that are kept -/

/-- Some resources are kept, and so many requests were sent. -/
def Keeping (items : List Resource) (k : Nat) (s : Asking) : Prop := s.kept = some items ∧ s.asked = k

theorem Keeping.same (s s' : Asking) (h : s.Keeping items k) (hsame : Same s s') : s'.Keeping items k :=
  ⟨hsame.kept.trans h.1, hsame.asked.trans h.2⟩

/-- **Resources that are kept are not asked for.** -/
theorem closed_keeping (items : List Resource) (k : Nat) : Closed (Keeping items k) := by
  have hplain : ∀ {α : Type} {op : Op α}, op.Touches Concern.gates → op.Upholding asking (Keeping items k) :=
    fun hop => hop.upholds (hosts Keeping.same rfl)
  refine ⟨Keeping.same, upholds_bind (hplain (touches_enter (by decide))) fun _ _ =>
    upholds_ensure (fun s hs => meets_bind.mpr (meets_session ?_)) fun s hs =>
      ⟨trivial, fun _ s' hsame => Keeping.same s s' hs hsame⟩⟩
  rw [after_ok, show s.site.session.resources = some items from hs.1]
  exact upheld_ok hs trivial

end Asking

end Cutover
