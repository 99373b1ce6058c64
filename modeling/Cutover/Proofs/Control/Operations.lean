import Cutover.Proofs.Control.Section

/-!
# The operations behind the gate

Every operation on the run does what its function on cores says, whatever the waits and the answers
are: it asks for nothing the contract does not allow, and ends with the result and the core of the
function.

* `Surroundings.Guards`: an operation goes through the state gate and does what a function says;
* `Surroundings.guards_begin`, `Surroundings.guards_restore`, `Surroundings.guards_reset`,
  `Surroundings.guards_apply`: the operations on the run.
-/

namespace Cutover

namespace Surroundings

variable {S : Surroundings} {α : Type} {c d : Core} {k : Conditions} {p : List (Option RunState)}
variable {s : Scene}

/-! ## What may be done -/

/-- The storage may be changed in any way, as long as it is what it was in this core. -/
def Free (S : Surroundings) (c : Core) : Prop :=
  ∀ d e : Core, d.storage = c.storage → d.session.store = c.session.store → S.grants d e

theorem Free.grants (h : S.Free c) (hkept : c.Kept d) (hsame : d.storage = c.storage) (e : Core) :
    S.grants d e := h d e hsame hkept.store

theorem Free.kept (h : S.Free c) (hkept : c.Kept d) (hsame : d.storage = c.storage) : S.Free d :=
  fun d' e hd' hstore => h d' e (hd'.trans hsame) (hstore.trans hkept.store)

namespace Suits

theorem kept (h : S.Suits c k) (hkept : c.Kept d) : S.Suits d k := by
  refine ⟨h.answer, ?_⟩
  rw [Dates, hkept.board]
  exact h.notice

theorem of_kept (h : S.Suits d k) (hkept : c.Kept d) : S.Suits c k := by
  refine ⟨h.answer, ?_⟩
  rw [Dates, ← hkept.board]
  exact h.notice

end Suits

/-! ## Fetching the resources -/

theorem meets_send {call : Call} {Q : Except Exit Answer → Scene → Prop} (h : S.At c p s)
    (hsendable : call.message.isSendable = true)
    (hQ : ∀ o s', S.answers call.message o → S.At c p s' →
      Q ((o.received call).mapError .fault) s') : call.send.Meets S.behind Q s := by
  rw [Call.send]
  refine meets_traced h fun id s' h' => ?_
  simp only [hsendable]
  refine Op.meets_bind.mpr (Op.meets_perform.mpr ⟨trivial, ?_⟩)
  rintro r t ⟨⟨o, ho, rfl⟩, ht⟩
  rw [h'.core, h'.published] at ht
  refine Op.meets_bind.mpr (Op.meets_unwrap_back.mpr ?_)
  cases o with
  | answered a =>
    exact Op.meets_bind.mpr (meets_tag ht fun t' ht' => ⟨c, p, ht', fun t'' ht'' => hQ _ t'' ho ht''⟩)
  | unreachable failure text =>
    exact Op.meets_bind.mpr (meets_tag ht fun t' ht' => ⟨c, p, ht', fun t'' ht'' => hQ _ t'' ho ht''⟩)
  | failed f => exact ⟨c, p, ht, fun t'' ht'' => hQ _ t'' ho ht''⟩

theorem after_shards {σ : Type} {C : Contract σ} {x : σ} {Q : Except Exit ShardMap → σ → Prop} {o : Outcome}
    (h : Q (o.shards.mapError .fault) x) :
    Op.after C (Op.rescued C Q fun f => Call.failService f.toFetchFault) (fun a => Call.ofService a.toShardMap)
      ((o.received .getResources).mapError .fault) x := by
  cases o with
  | answered a =>
    rw [Outcome.shards] at h
    cases hm : a.toShardMap with
    | ok m =>
      rw [hm] at h
      simp only [Outcome.received, Op.mapError_ok, Op.after_ok, hm]
      exact h
    | error f =>
      rw [hm] at h
      simp only [Outcome.received, Op.mapError_ok, Op.after_ok, hm]
      exact h
  | unreachable failure text => exact h
  | failed f =>
    by_cases hf : ∃ g, f = .client (.service g)
    · obtain ⟨g, rfl⟩ := hf
      exact h
    · rw [not_exists] at hf
      rw [Outcome.shards_failed hf] at h
      exact (Op.rescued_other hf).mpr h

theorem meets_readResources {Q : Except Exit ShardMap → Scene → Prop} (h : S.At c p s)
    (hQ : ∀ o s', S.answers Call.getResources.message o → S.At c p s' →
      Q (o.shards.mapError .fault) s') : Call.readResources.Meets S.behind Q s := by
  rw [Call.readResources, Op.meets_rescue, Op.meets_bind]
  exact meets_send h rfl fun o s' ho h' => after_shards (hQ o s' ho h')

theorem meets_fetchNow {Q : Except Exit (List Resource) → Scene → Prop} (h : S.At c p s)
    (hnone : c.session.resources = none)
    (hQ : ∀ o s', S.answers Call.getResources.message o → S.At (c.fetch o).core p s' →
      Q ((c.fetch o).result.mapError .fault) s') :
    Reconcile.fetchNow.Meets S.behind Q s := by
  rw [Reconcile.fetchNow, Op.meets_bind]
  refine meets_traced h fun id s' h' => ?_
  refine Op.meets_bind.mpr (meets_modify h' rfl rfl rfl fun t ht => ?_)
  refine Op.meets_bind.mpr (meets_readResources ht fun o t' ho ht' => ?_)
  have hQ' := hQ o
  simp only [Core.fetch, hnone, Outcome.resources] at hQ'
  cases hshards : o.shards with
  | error f =>
    simp only [hshards, Except.map] at hQ'
    exact ⟨_, _, ht', fun t'' ht'' => hQ' t'' ho ht''⟩
  | ok m =>
    simp only [hshards, Except.map] at hQ'
    refine Op.meets_bind.mpr (meets_tag ht' fun u hu => ⟨_, _, hu, fun u' hu' => ?_⟩)
    exact Op.meets_bind.mpr (meets_modify hu' rfl rfl rfl fun u'' hu'' => hQ' u'' ho hu'')

/-- Nobody is at the gate of fetching, so that it is entered at once and free again afterwards. -/
theorem meets_fetch {Q : Except Exit (List Resource) → Scene → Prop} (h : S.At c p s)
    (hgate : c.session.fetchGate = {})
    (hQ : ∀ o s', S.answers Call.getResources.message o → S.At (c.fetch o).core p s' →
      Q ((c.fetch o).result.mapError .fault) s') :
    Reconcile.fetch.Meets S.behind Q s := by
  rw [Reconcile.fetch, Op.guarded, Op.meets_bind, Op.enter]
  have hfree : s.site.session.fetchGate = {} := (h.read Session.fetchGate fun _ => rfl).trans hgate
  refine Op.meets_bind.mpr (Op.meets_perform.mpr ⟨hfree, ?_⟩)
  rintro r t ⟨rfl, ht⟩
  rw [h.core, h.published] at ht
  refine Op.meets_unwrap_back.mpr (Op.meets_ensure.mpr (Op.meets_bind.mpr (meets_session.mpr ?_)))
  -- The gate opens again whatever was done with the rest of the core.
  have hrelease : ∀ {d : Core} {r : Except Exit (List Resource)} {u : Scene}, S.At d p u →
      d.session.fetchGate = { held := true } → (∀ u', S.At (gated false d) p u' → Q r u') →
      (Work.perform (.release .fetch)).Meets S.behind (fun _ t => Q r t) u := by
    intro d r u hu hd hr
    refine Work.meets_perform.mpr ⟨?_, fun _ u' hu' => hr u' ?_⟩
    · exact (hu.read Session.fetchGate fun _ => rfl).trans hd
    · have hu' : S.At (gated false u.site.core) u.published u' := hu'
      rwa [hu.core, hu.published] at hu'
  have hresources : t.site.session.resources = c.session.resources :=
    ht.read Session.resources fun _ => rfl
  have hback : ∀ d : Core, d.session.fetchGate = {} → gated false (gated true d) = d := by
    rintro ⟨session, storage, hookCalls⟩ hd
    cases session
    cases hd
    rfl
  rw [Op.after_ok, hresources]
  cases hc : c.session.resources with
  | some items =>
    refine hrelease ht rfl fun u hu => ?_
    rw [hback c hgate] at hu
    obtain ⟨o, ho⟩ := S.some_answer
    have hQ' := hQ o u ho
    rw [Core.fetch, hc] at hQ'
    exact hQ' hu
  | none =>
    refine meets_fetchNow ht hc fun o u ho hu => ?_
    have hfetch : (gated true c).fetch o
        = ⟨(c.fetch o).result, gated true (c.fetch o).core⟩ := by
      simp only [Core.fetch, hc, show (gated true c).session.resources = none from hc]
      cases o.resources <;> rfl
    rw [hfetch] at hu ⊢
    refine hrelease hu rfl fun u' hu' => ?_
    rw [hback _ ((Core.kept_fetch _ c).fetchGate.trans hgate)] at hu'
    exact hQ o u' ho hu'

/-- The resources are fetched once in a run, and a fault of the service does not stop it. -/
theorem meets_reconcileOnce {Q : Except Exit Unit → Scene → Prop} (h : S.At c p s)
    (hgate : c.session.fetchGate = {})
    (hQ : ∀ o s', S.answers Call.getResources.message o → S.At (c.reconcileOnce o).core p s' →
      Q ((c.reconcileOnce o).result.mapError .fault) s') :
    Control.reconcileOnce.Meets S.behind Q s := by
  rw [Control.reconcileOnce, Op.meets_bind, meets_session, Op.after_ok,
    h.read Session.isBare fun _ => rfl, h.state, ← Core.isDue]
  by_cases hdue : c.isDue = true
  · rw [if_pos hdue, Op.meets_rescue, Op.meets_bind]
    refine meets_fetch h hgate fun o s' ho h' => ?_
    have hQo := hQ o
    cases hr : (c.fetch o).result with
    | ok items =>
      rw [Core.reconcileOnce_ok hdue hr] at hQo
      exact meets_modify h' rfl rfl rfl fun t ht => hQo t ho ht
    | error f =>
      rw [Core.reconcileOnce_error hdue hr] at hQo
      by_cases hf : ∃ g, f = .client (.service g)
      · obtain ⟨g, rfl⟩ := hf
        refine Op.after_error.mpr (Op.rescued_service.mpr ?_)
        rw [Core.fetchFailed] at hQo
        split
        next hkind =>
          rw [if_pos hkind] at hQo
          exact Op.meets_bind.mpr (meets_modify h' rfl rfl rfl fun t ht =>
            meets_alarm ht fun t' ht' => hQo t' ho ht')
        next hkind =>
          rw [if_neg hkind] at hQo
          exact hQo s' ho h'
      · rw [not_exists] at hf
        rw [Core.fetchFailed_other hf] at hQo
        exact Op.after_error.mpr ((Op.rescued_other hf).mpr (hQo s' ho h'))
  · rw [if_neg hdue]
    rw [Bool.not_eq_true] at hdue
    obtain ⟨o, ho⟩ := S.some_answer
    have hQo := hQ o s ho
    rw [Core.reconcileOnce_idle hdue] at hQo
    exact hQo h

/-! ## The end of a run -/

theorem meets_runHook {phase : Phase} {hook : StopHook} {Q : Except Exit Unit → Scene → Prop}
    (h : S.At c p s)
    (hQ : ∀ s', S.At (c.runHook phase hook).core p s' →
      Q ((c.runHook phase hook).result.mapError .fault) s') :
    (Control.runHook phase hook).Meets S.behind Q s := by
  cases hook with
  | polling =>
    refine Op.meets_perform.mpr ⟨trivial, fun _ s' h' => hQ s' ?_⟩
    have h' : S.At (raised s.site.core) s.published s' := h'
    rw [h.core, h.published] at h'
    exact h'
  | configuration =>
    rw [Core.runHook] at hQ
    rw [Control.runHook]
    split
    next hphase =>
      rw [if_pos hphase] at hQ
      exact meets_modify h rfl rfl rfl hQ
    next hphase =>
      rw [if_neg hphase] at hQ
      exact hQ s h
  | user number id fails =>
    rw [Control.runHook, Op.meets_bind]
    refine Op.meets_lift.mpr
      (meets_update h rfl rfl rfl (S.grants_of_storage h.storage) fun s' h' => ?_)
    have h' : S.At { c with
        hookCalls := c.hookCalls ++ [⟨id, phase, !(c.storage.table c.storage.current).isEmpty⟩] }
        p s' := by
      rw [← h.core]
      exact h'
    rw [Core.runHook] at hQ
    cases fails with
    | true => exact hQ s' h'
    | false => exact hQ s' h'

theorem meets_runHooks {phase : Phase} {hooks : List StopHook} {Q : Except Exit Unit → Scene → Prop}
    (h : S.At c p s)
    (hQ : ∀ s', S.At (c.runHooks phase hooks).core p s' →
      Q ((c.runHooks phase hooks).result.mapError .fault) s') :
    (Control.runHooks phase hooks).Meets S.behind Q s := by
  induction hooks generalizing c s with
  | nil => exact hQ s h
  | cons hook rest ih =>
    rw [Control.runHooks, Op.meets_bind]
    refine meets_runHook h fun s' h' => ?_
    rw [Core.runHooks, Core.Turn.andThen] at hQ
    cases hr : (c.runHook phase hook).result with
    | ok a =>
      rw [hr] at hQ
      exact ih h' hQ
    | error f =>
      rw [hr] at hQ
      exact hQ s' h'

theorem meets_cleanUp {text : String} {level : Level} {Q : Except Exit Unit → Scene → Prop}
    (h : S.At c p s) (hgrant : S.grants c c.clear.core)
    (hQ : ∀ x s', S.Dates c x → S.At (c.cleanUp x).core p s' →
      Q ((c.cleanUp x).result.mapError .fault) s') :
    (do
      Keep.clear (← Op.session).store
      Op.announce text level : Op Unit).Meets S.behind Q s := by
  refine Op.meets_bind.mpr (meets_session.mpr ?_)
  rw [Op.after_ok, h.read Session.store fun _ => rfl]
  refine Op.meets_bind.mpr (meets_clear h hgrant fun s' h' => ?_)
  cases hr : c.clear.result with
  | error f =>
    have hQ₀ := hQ _ s' h.dates
    rw [Core.cleanUp, Core.andThen_error hr] at hQ₀
    exact hQ₀ h'
  | ok a =>
    refine meets_announce h' fun x t hx ht => ?_
    rw [Dates, (Core.kept_clear c).board] at hx
    have hQx := hQ x t hx
    rw [Core.cleanUp, Core.andThen_ok hr] at hQx
    exact hQx ht

theorem meets_roundOff {text : String} {level : Level} {Q : Except Exit Unit → Scene → Prop}
    (h : S.At c p s) (hgate : c.session.fetchGate = {}) (hfree : S.Free c)
    (hQ : ∀ k s', S.Suits c k → S.At (c.roundOff k).core p s' →
      Q ((c.roundOff k).result.mapError .fault) s') :
    (do
      Control.reconcileOnce
      Keep.clear (← Op.session).store
      Op.announce text level : Op Unit).Meets S.behind Q s := by
  refine Op.meets_bind.mpr (meets_reconcileOnce h hgate fun o s' ho h' => ?_)
  have hkept := Core.kept_reconcileOnce o c
  cases hr : (c.reconcileOnce o).result with
  | error f =>
    have hQ₀ := hQ ⟨o, _⟩ s' ⟨ho, h.dates⟩
    rw [Core.roundOff, Core.andThen_error hr] at hQ₀
    exact hQ₀ h'
  | ok a =>
    refine meets_cleanUp h' (hfree.grants hkept (Core.storage_reconcileOnce o c) _)
      fun x t hx ht => ?_
    have hQx := hQ ⟨o, x⟩ t (Suits.of_kept ⟨ho, hx⟩ hkept)
    rw [Core.roundOff, Core.andThen_ok hr] at hQx
    exact hQx ht

theorem meets_complete {Q : Except Exit Unit → Scene → Prop} (h : S.At c p s)
    (hgate : c.session.fetchGate = {}) (hfree : S.Free c)
    (hQ : ∀ k s', S.Suits c k → S.At (c.complete k).core p s' →
      Q ((c.complete k).result.mapError .fault) s') :
    Control.complete.Meets S.behind Q s := by
  rw [Control.complete]
  refine Op.meets_bind.mpr (meets_modify h rfl rfl rfl fun s₁ h₁ => ?_)
  have h₁ : S.At c.stopped p s₁ := h₁
  have hhooks : s₁.site.session.hooks = c.session.hooks := h₁.read Session.hooks fun _ => rfl
  refine Op.meets_bind.mpr (meets_session.mpr ?_)
  rw [Op.after_ok, hhooks]
  refine Op.meets_bind.mpr (meets_runHooks h₁ fun s₂ h₂ => ?_)
  have hkept : c.Kept (c.stopped.runHooks .complete c.session.hooks).core :=
    (Core.kept_stopped c).trans (Core.kept_runHooks ..)
  cases hr : (c.stopped.runHooks .complete c.session.hooks).result with
  | error f =>
    obtain ⟨k₀, hk₀⟩ := h.some_suits
    have hQ₀ := hQ k₀ s₂ hk₀
    rw [Core.complete, Core.andThen_error hr] at hQ₀
    exact hQ₀ h₂
  | ok a =>
    refine meets_roundOff h₂ (hkept.fetchGate.trans hgate)
      (hfree.kept hkept (Core.storage_runHooks ..)) fun k t hk ht => ?_
    have hQk := hQ k t (hk.of_kept hkept)
    rw [Core.complete, Core.andThen_ok hr] at hQk
    exact hQk ht

theorem meets_failRun {errorText : Value} {Q : Except Exit Unit → Scene → Prop} (h : S.At c p s)
    (hfree : S.Free c)
    (hQ : ∀ s', S.At (c.failRun errorText).core p s' →
      Q ((c.failRun errorText).result.mapError .fault) s') :
    (Control.failRun errorText).Meets S.behind Q s := by
  rw [Control.failRun]
  refine Op.meets_bind.mpr (meets_modify h rfl rfl rfl fun s₁ h₁ => ?_)
  have h₁ : S.At (c.failed errorText) p s₁ := h₁
  have hhooks : s₁.site.session.hooks = c.session.hooks := h₁.read Session.hooks fun _ => rfl
  refine Op.meets_bind.mpr (meets_session.mpr ?_)
  rw [Op.after_ok, hhooks]
  refine Op.meets_bind.mpr (meets_runHooks h₁ fun s₂ h₂ => ?_)
  rw [Core.failRun] at hQ
  have hkept : c.Kept ((c.failed errorText).runHooks .failed c.session.hooks).core :=
    (Core.kept_failed c errorText).trans (Core.kept_runHooks ..)
  cases hr : ((c.failed errorText).runHooks .failed c.session.hooks).result with
  | error f =>
    rw [Core.andThen_error hr] at hQ
    exact hQ s₂ h₂
  | ok a =>
    rw [Core.andThen_ok hr] at hQ
    refine Op.meets_bind.mpr (meets_session.mpr ?_)
    rw [Op.after_ok, h₂.read Session.store fun _ => rfl]
    refine Op.meets_bind.mpr (meets_clear h₂ (hfree.grants hkept (Core.storage_runHooks ..) _)
      fun s₃ h₃ => ?_)
    cases hclear : ((c.failed errorText).runHooks .failed c.session.hooks).core.clear.result with
    | error f =>
      rw [hclear] at hQ
      exact hQ s₃ h₃
    | ok a =>
      rw [hclear] at hQ
      exact meets_alarm h₃ hQ

/-! ## Status reports -/

theorem meets_advance {report : Status} {Q : Except Exit RunState.Advance → Scene → Prop}
    (h : S.At c p s)
    (hQ : ∀ x s', S.Dates c x → S.At (c.advance x report).core p s' →
      Q ((c.advance x report).result.mapError .fault) s') :
    (Control.advance report).Meets S.behind Q s := by
  rw [Control.advance]
  refine Op.meets_bind.mpr (meets_session.mpr (Op.meets_bind.mpr (Op.meets_ofExcept.mpr ?_)))
  rw [h.state, h.read Session.mode fun _ => rfl, h.read Session.transfer fun _ => rfl]
  unfold Core.advance at hQ
  cases ha : c.session.state.advance c.session.mode c.session.transfer report with
  | error f =>
    simp only [ha] at hQ
    exact hQ _ s h.dates h
  | ok a =>
    simp only [ha] at hQ
    refine Op.meets_bind.mpr (meets_modify h rfl rfl rfl fun s₁ h₁ => ?_)
    cases hp : a.provisions with
    | false =>
      simp only [hp] at hQ
      exact hQ _ s₁ h.dates h₁
    | true =>
      simp only [hp] at hQ
      refine Op.meets_bind.mpr (meets_announce h₁ fun x s₂ hx h₂ => ?_)
      have hQx := hQ x s₂ hx h₂
      cases x with
      | error f => exact hQx
      | ok _ => exact hQx

theorem meets_settle {a : RunState.Advance} {Q : Except Exit Unit → Scene → Prop}
    (h : S.At c p s) (hgate : c.session.fetchGate = {}) (hfree : S.Free c)
    (hQ : ∀ k s', S.Suits c k → S.At (c.settle k a).core p s' →
      Q ((c.settle k a).result.mapError .fault) s') :
    (Control.settle a).Meets S.behind Q s := by
  obtain ⟨k₀, hk₀⟩ := h.some_suits
  rw [Control.settle]
  refine Op.meets_bind.mpr (meets_session.mpr ?_)
  rw [Op.after_ok, h.state]
  unfold Core.settle at hQ
  by_cases hphase : c.session.state.phase = .complete
  · simp only [if_pos hphase] at hQ ⊢
    exact meets_complete h hgate hfree hQ
  · simp only [if_neg hphase] at hQ ⊢
    cases hr : a.reconciles with
    | false =>
      simp only [hr] at hQ ⊢
      exact meets_persist h (hfree.grants (.refl c) rfl _) fun s' h' =>
        hQ k₀ s' hk₀ h'
    | true =>
      simp only [hr] at hQ ⊢
      refine Op.meets_bind.mpr (meets_reconcileOnce h hgate fun o s' ho h' => ?_)
      have hQo := fun t => hQ ⟨o, _⟩ t ⟨ho, h.dates⟩
      have hkept := Core.kept_reconcileOnce o c
      cases hc : (c.reconcileOnce o).result with
      | error f =>
        simp only [if_true, Core.andThen_error hc] at hQo
        exact hQo s' h'
      | ok _ =>
        simp only [if_true, Core.andThen_ok hc] at hQo
        exact meets_persist h' (hfree.grants hkept (Core.storage_reconcileOnce o c) _) hQo

/-- A report that is no failure is followed. One notice is raised at most: of provisioning, or at the
end of the run. -/
theorem meets_follow {report : Status} {before : RunState}
    {Q : Except Exit (Option Transition) → Scene → Prop} (h : S.At c p s)
    (hactive : c.session.state.phase.isActive = true) (hgate : c.session.fetchGate = {})
    (hfree : S.Free c) (hQ : ∀ k s', S.Suits c k → S.At (c.follow k report before).core p s' →
      Q ((c.follow k report before).result.mapError .fault) s') :
    (do
      let a ← Control.advance report
      if (← Op.session).state.sameAs before then
        return some ⟨c.session.state.phase, before, false⟩
      else
        Control.settle a
        return none : Op (Option Transition)).Meets S.behind Q s := by
  obtain ⟨o₀, ho₀⟩ := S.some_answer
  refine Op.meets_bind.mpr (meets_advance h fun x s₁ hx h₁ => ?_)
  have hkept := Core.kept_advance x report c
  have hQx := hQ ⟨o₀, x⟩ s₁ ⟨ho₀, hx⟩
  cases hadv : (c.advance x report).result with
  | error f =>
    simp only [Core.follow, Core.andThen_error hadv] at hQx
    exact hQx h₁
  | ok a =>
    simp only [Core.follow, Core.andThen_ok hadv] at hQx
    refine Op.meets_bind.mpr (meets_session.mpr ?_)
    rw [Op.after_ok, h₁.state]
    split
    next hsame =>
      simp only [if_pos hsame] at hQx
      exact hQx h₁
    next hsame =>
      refine Op.meets_bind.mpr (meets_settle h₁ (hkept.fetchGate.trans hgate)
        (hfree.kept hkept (Core.storage_advance ..)) fun k s₂ hk h₂ => ?_)
      obtain ⟨y, hy, hadv', hsettle⟩ : ∃ y, S.Dates c y ∧
          c.advance y report = c.advance x report ∧
          (c.advance x report).core.settle ⟨k.answer, y⟩ a
            = (c.advance x report).core.settle k a := by
        cases hp : a.provisions with
        | false => exact ⟨k.notice, (hk.of_kept hkept).notice, Core.advance_notice hadv hp, rfl⟩
        | true => exact ⟨x, hx, rfl, Core.settle_notice (Core.advance_provisioning hactive hadv hp)⟩
      have hQk := hQ ⟨k.answer, y⟩ s₂ ⟨hk.answer, hy⟩
      simp only [Core.follow, hadv', Core.andThen_ok hadv, if_neg hsame, hsettle] at hQk
      cases hr : ((c.advance x report).core.settle k a).result with
      | error f =>
        rw [Core.andThen_error hr] at hQk
        exact hQk h₂
      | ok _ =>
        rw [Core.andThen_ok hr] at hQk
        exact hQk h₂

theorem meets_applyActive {report : Status} {Q : Except Exit (Option Transition) → Scene → Prop}
    (h : S.At c p s) (hactive : c.session.state.phase.isActive = true)
    (hgate : c.session.fetchGate = {}) (hfree : S.Free c)
    (hQ : ∀ k s', S.Suits c k → S.At (c.applyActive k report).core p s' →
      Q ((c.applyActive k report).result.mapError .fault) s') :
    (Control.applyActive c.session.state.phase report).Meets S.behind Q s := by
  obtain ⟨k₀, hk₀⟩ := h.some_suits
  rw [Control.applyActive]
  unfold Core.applyActive at hQ
  by_cases hfailure : report.isFailure = true
  · simp only [if_pos hfailure] at hQ ⊢
    refine Op.meets_bind.mpr (meets_failRun h hfree fun s₁ h₁ => ?_)
    have hQ₀ := fun t => hQ _ t hk₀
    cases hr : (c.failRun report.errorText).result with
    | error f =>
      rw [Core.andThen_error hr] at hQ₀
      exact hQ₀ s₁ h₁
    | ok _ =>
      rw [Core.andThen_ok hr] at hQ₀
      exact hQ₀ s₁ h₁
  · simp only [if_neg hfailure] at hQ ⊢
    refine Op.meets_bind.mpr (meets_snapshot h fun s₁ h₁ => ?_)
    cases hsnap : c.snapshot.result with
    | error f =>
      have hQ₀ := hQ _ s₁ hk₀
      rw [Core.andThen_error hsnap] at hQ₀
      exact hQ₀ h₁
    | ok before =>
      simp only [Core.andThen_ok hsnap] at hQ
      exact meets_follow h₁ hactive hgate hfree hQ

/-! ## Whole operations -/

/-- What readers are given by an operation that ended. -/
def given (items : α → List (Option RunState)) : Except Fault α → List (Option RunState)
  | .ok a => items a
  | .error _ => []

/-- An operation that began in a core has ended as a function on cores says. -/
def Done (S : Surroundings) (turn : Conditions → Core → Core.Turn α)
    (items : α → List (Option RunState)) (c : Core) (r : Except Exit α) (s : Scene) : Prop :=
  ∃ k, S.Suits c k ∧ r = (turn k c).result.mapError .fault ∧
    S.At (turn k c).core (given items (turn k c).result) s

section
variable {turn : Conditions → Core → Core.Turn α} {items : α → List (Option RunState)}

theorem Done.of_failing {f : Fault} (hk : S.Suits c k) (ht : turn k c = d.failing f)
    (h : S.At d [] s) : S.Done turn items c (.error (.fault f)) s := by
  refine ⟨k, hk, ?_⟩
  rw [ht]
  exact ⟨rfl, h⟩

theorem Done.of_giving {a : α} (hk : S.Suits c k) (ht : turn k c = d.giving a)
    (h : S.At d (items a) s) : S.Done turn items c (.ok a) s := by
  refine ⟨k, hk, ?_⟩
  rw [ht]
  exact ⟨rfl, h⟩

theorem Done.of_snapshot {turn : Conditions → Core → Core.Turn RunState} (hk : S.Suits c k)
    (ht : turn k c = d.snapshot) (h : S.At d (given (fun t => [some t]) d.snapshot.result) s) :
    S.Done turn (fun t => [some t]) c (d.snapshot.result.mapError .fault) s := by
  refine ⟨k, hk, ?_⟩
  rw [ht]
  exact ⟨rfl, h⟩

end

/-- **Work behind the gate does what a function on cores says.** -/
def Does (S : Surroundings) (op : Op α) (may : Core → Prop) (turn : Conditions → Core → Core.Turn α)
    (items : α → List (Option RunState)) : Prop :=
  ∀ c s, may c → S.At c [] s → op.Meets S.behind (S.Done turn items c) s

/-- **An operation goes through the state gate** and does behind it what a function on cores says. -/
def Guards (S : Surroundings) (op : Op α) (may : Core → Prop)
    (turn : Conditions → Core → Core.Turn α) (items : α → List (Option RunState)) : Prop :=
  ∃ w, op = Op.guarded .state w ∧ S.Does w may turn items

/-- What applying a report needs. -/
structure MayApply (S : Surroundings) (c : Core) : Prop where
  fetchGate : c.session.fetchGate = {}
  storage : c.session.state.phase.isActive = true → S.Free c

theorem meets_applyTraced {report : Status} {span : Nat}
    {Q : Except Exit (Option Transition) → Scene → Prop} (h : S.At c p s) (hmay : S.MayApply c)
    (hactive : c.session.state.phase.isActive = true → ∀ k s', S.Suits c k →
      S.At (c.applyActive k report).core p s' → Q ((c.applyActive k report).result.mapError .fault) s')
    (hidle : c.session.state.phase.isActive = false → ∀ s', S.At c p s' →
      Q ((c.snapshot.result.map fun t => some ⟨c.session.state.phase, t, false⟩).mapError .fault) s') :
    (Control.applyTraced c.session.state.phase report span).Meets S.behind Q s := by
  rw [Control.applyTraced]
  cases hphase : c.session.state.phase.isActive with
  | true =>
    rw [if_pos rfl]
    refine Op.meets_bind.mpr
      (meets_applyActive h hphase hmay.fetchGate (hmay.storage hphase) fun k s₁ hk h₁ => ?_)
    have hQ := fun t => hactive hphase k t hk
    cases hr : (c.applyActive k report).result with
    | error f =>
      rw [hr] at hQ
      exact hQ s₁ h₁
    | ok ignored =>
      rw [hr] at hQ
      cases ignored with
      | some t => exact hQ s₁ h₁
      | none =>
        refine Op.meets_bind.mpr (meets_session.mpr (Op.meets_bind.mpr ?_))
        exact meets_tag h₁ hQ
  | false =>
    rw [if_neg Bool.false_ne_true]
    refine Op.meets_bind.mpr (meets_snapshot h fun s₁ h₁ => ?_)
    have hQ := hidle hphase s₁ h₁
    cases hr : c.snapshot.result with
    | error f =>
      rw [hr] at hQ
      exact hQ
    | ok t =>
      rw [hr] at hQ
      exact hQ

theorem meets_publish_snapshot {Q : Except Exit RunState → Scene → Prop} (h : S.At c p s)
    (hQ : ∀ s', S.At c (p ++ given (fun t => [some t]) c.snapshot.result) s' →
      Q (c.snapshot.result.mapError .fault) s') :
    (do
      Control.publish
      Control.snapshot : Op RunState).Meets S.behind Q s := by
  refine Op.meets_bind.mpr (meets_publish h (fun t s₁ ht h₁ => ?_) fun f s₁ hf h₁ => ?_)
  · rw [ht] at hQ
    refine meets_snapshot h₁ fun s₂ h₂ => ?_
    rw [ht]
    exact hQ s₂ h₂
  · rw [hf, given, List.append_nil] at hQ
    exact hQ s₁ h₁

theorem guards_begin (S : Surroundings) (mode : Mode) (transfer : Transfer)
    (shards instances : Value) :
    S.Guards (Control.begin mode transfer shards instances)
      (fun c => ∀ d, d = c.launched mode transfer shards instances → S.grants d d.persist.core)
      (fun _ c => c.begin mode transfer shards instances) fun t => [some t] := by
  refine ⟨_, rfl, fun c s hmay h => ?_⟩
  obtain ⟨k, hk⟩ := h.some_suits
  refine Op.meets_bind.mpr (meets_session.mpr ?_)
  rw [Op.after_ok, h.state]
  cases hrun : c.session.state.isRunning with
  | true =>
    exact Done.of_failing hk (if_pos hrun) h
  | false =>
    have hbegin : c.begin mode transfer shards instances = _ :=
      if_neg (by rw [hrun]; exact Bool.false_ne_true)
    refine Op.meets_bind.mpr (meets_modify h rfl rfl rfl fun s₁ h₁ => ?_)
    have h₁ : S.At (c.launched mode transfer shards instances) [] s₁ := h₁
    refine Op.meets_bind.mpr (meets_persist h₁ (hmay _ rfl) fun s₂ h₂ => ?_)
    cases hr : (c.launched mode transfer shards instances).persist.result with
    | error f => exact Done.of_failing hk (hbegin.trans (Core.andThen_error hr _)) h₂
    | ok _ =>
      refine meets_publish_snapshot h₂ fun s₃ h₃ => ?_
      exact Done.of_snapshot hk (hbegin.trans (Core.andThen_ok hr _)) h₃

theorem guards_restore (S : Surroundings) (r : Record) :
    S.Guards (Control.restore r) (fun _ => True) (fun _ c => c.restore r) fun t => [some t] := by
  refine ⟨_, rfl, fun c s _ h => ?_⟩
  obtain ⟨k, hk⟩ := h.some_suits
  refine Op.meets_bind.mpr (Op.meets_ofExcept.mpr ?_)
  cases hstate : r.toState with
  | error f => exact Done.of_failing hk (by simp only [Core.restore, hstate]) h
  | ok state =>
    refine Op.meets_bind.mpr (meets_modify h rfl rfl rfl fun s₁ h₁ => ?_)
    refine Op.meets_bind.mpr (Op.meets_ofExcept.mpr ?_)
    cases hmode : r.readMode with
    | error f =>
      exact Done.of_failing hk (by simp only [Core.restore, hstate, hmode]; rfl) h₁
    | ok mode =>
      refine Op.meets_bind.mpr (meets_modify h₁ rfl rfl rfl fun s₂ h₂ => ?_)
      refine Op.meets_bind.mpr (Op.meets_ofExcept.mpr ?_)
      cases htransfer : r.readTransfer with
      | error f =>
        exact Done.of_failing hk (by simp only [Core.restore, hstate, hmode, htransfer]; rfl) h₂
      | ok transfer =>
        refine Op.meets_bind.mpr (meets_modify h₂ rfl rfl rfl fun s₃ h₃ => ?_)
        refine meets_publish_snapshot h₃ fun s₄ h₄ => ?_
        exact Done.of_snapshot hk (by simp only [Core.restore, hstate, hmode, htransfer]; rfl) h₄

theorem guards_reset (S : Surroundings) :
    S.Guards Control.reset (fun c => S.grants c.forgotten c.forgotten.clear.core)
      (fun _ c => c.reset) fun _ => [some {}] := by
  refine ⟨_, rfl, fun c s hmay h => ?_⟩
  obtain ⟨k, hk⟩ := h.some_suits
  refine Op.meets_bind.mpr (meets_modify h rfl rfl rfl fun s₁ h₁ => ?_)
  have h₁ : S.At c.forgotten [] s₁ := h₁
  refine Op.meets_bind.mpr (meets_session.mpr ?_)
  rw [Op.after_ok, h₁.read Session.store fun _ => rfl]
  refine Op.meets_bind.mpr (meets_clear h₁ hmay fun s₂ h₂ => ?_)
  cases hr : c.forgotten.clear.result with
  | error f => exact Done.of_failing hk (Core.andThen_error hr _) h₂
  | ok _ =>
    have hsnap : c.forgotten.clear.core.snapshot.result = .ok {} :=
      Core.snapshot_forgotten (by rw [Core.session_clear]; rfl)
    have hreset : c.reset = c.forgotten.clear.core.giving () :=
      (Core.andThen_ok hr _).trans (Core.andThen_ok hsnap _)
    refine meets_publish h₂ (fun t s₃ ht h₃ => ?_) fun f s₃ hf _ => ?_
    · rw [hsnap] at ht
      cases ht
      exact Done.of_giving hk hreset h₃
    · rw [hsnap] at hf
      cases hf

end Surroundings

/-- What a report does behind the state gate. -/
def Control.applyBehind (report : Status) : Op Transition := do
  let s ← Op.session
  let previous := s.state.phase
  match ← Op.traced (applySpan s report) (applyTraced previous report) with
  | some ignored => return ignored
  | none => do
    publish
    return ⟨previous, ← snapshot, true⟩

theorem Control.apply_eq (report : Status) : apply report = Op.guarded .state (applyBehind report) := rfl

namespace Surroundings

variable {S : Surroundings} {α : Type} {c d : Core} {k : Conditions} {p : List (Option RunState)}
variable {s : Scene}

/-- Behind the gate a report does what its function says; what changes something is published. -/
theorem does_apply (S : Surroundings) (report : Status) :
    S.Does (Control.applyBehind report) S.MayApply (fun k c => c.apply k report)
      fun t => if t.changed then [some t.state] else [] := by
  intro c s hmay h
  obtain ⟨k₀, hk₀⟩ := h.some_suits
  refine Op.meets_bind.mpr (meets_session.mpr ?_)
  rw [Op.after_ok]
  simp only [h.state]
  refine Op.meets_bind.mpr (meets_traced h fun id s₁ h₁ => ?_)
  refine meets_applyTraced h₁ hmay (fun hactive k s₂ hk h₂ => ⟨_, _, h₂, fun s₃ h₃ => ?_⟩)
    fun hidle s₂ h₂ => ⟨_, _, h₂, fun s₃ h₃ => ?_⟩
  · have happly : c.apply k report = _ := if_pos hactive
    cases hr : (c.applyActive k report).result with
    | error f => exact Done.of_failing hk (happly.trans (Core.andThen_error hr _)) h₃
    | ok ignored =>
      have happly := happly.trans (Core.andThen_ok hr _)
      cases ignored with
      | some t =>
        obtain ⟨before, _, _, _, _, rfl, _⟩ := Core.applyActive_some hr
        exact Done.of_giving hk happly h₃
      | none =>
        refine Op.meets_bind.mpr (meets_publish h₃ (fun t s₄ ht h₄ => ?_) fun f s₄ hf h₄ => ?_)
        · refine Op.meets_bind.mpr (meets_snapshot h₄ fun s₅ h₅ => ?_)
          rw [ht]
          exact Done.of_giving hk (happly.trans (Core.andThen_ok ht _)) h₅
        · exact Done.of_failing hk (happly.trans (Core.andThen_error hf _)) h₄
  · have happly : c.apply k₀ report = _ :=
      if_neg (by rw [hidle]; exact Bool.false_ne_true)
    cases hr : c.snapshot.result with
    | error f => exact Done.of_failing hk₀ (happly.trans (Core.andThen_error hr _)) h₃
    | ok t => exact Done.of_giving hk₀ (happly.trans (Core.andThen_ok hr _)) h₃

/-- **Applying a report** does what its function says; what changes something is published. -/
theorem guards_apply (S : Surroundings) (report : Status) :
    S.Guards (Control.apply report) S.MayApply (fun k c => c.apply k report)
      fun t => if t.changed then [some t.state] else [] :=
  ⟨_, Control.apply_eq report, does_apply S report⟩

theorem does_fetch (S : Surroundings) :
    S.Does Reconcile.fetch (fun c => c.session.fetchGate = {}) (fun k c => c.fetch k.answer)
      fun _ => [] := by
  refine fun c s hgate h => meets_fetch h hgate fun o s' ho h' => ?_
  refine ⟨⟨o, _⟩, ⟨ho, h.dates⟩, rfl, ?_⟩
  cases (c.fetch o).result with
  | error f => exact h'
  | ok items => exact h'

end Surroundings

end Cutover
