import Cutover.Proofs.Control.Holding

/-!
# Runs that are abreast

Two sessions follow one run, and the resources are fetched for it now in one of them, now in the other. That
shows in the mark of the run and in what is kept of the resources, and nowhere else: a report comes out the same
in both, and leaves the same record but for the mark.

* `AgreeBut`: two tables agree in every field but one;
* `Core.Abreast`: **two sessions stand at the same point of a run**, but for its mark;
* `Core.Turn.Abreast`: an operation comes out the same in both;
* `Core.Abreast.apply`: **a report comes out the same**, whatever came of fetching the resources.
-/

namespace Cutover

/-- Two tables are empty at the same time, and agree in every field but one. -/
structure AgreeBut (field : String) (t u : Table) : Prop where
  empty : u = [] ↔ t = []
  lookup : ∀ name, name ≠ field → u.lookup name = t.lookup name

namespace AgreeBut

variable {field : String} {t u v : Table}

theorem refl (field : String) (t : Table) : AgreeBut field t t := ⟨Iff.rfl, fun _ _ => rfl⟩

theorem symm (h : AgreeBut field t u) : AgreeBut field u t :=
  ⟨h.empty.symm, fun name hname => (h.lookup name hname).symm⟩

theorem trans (h : AgreeBut field t u) (h' : AgreeBut field u v) : AgreeBut field t v :=
  ⟨h'.empty.trans h.empty, fun name hname => (h'.lookup name hname).trans (h.lookup name hname)⟩

theorem of_field (before after : Table) (x y : String) :
    AgreeBut field (before ++ (field, x) :: after) (before ++ (field, y) :: after) := by
  refine ⟨by simp, fun name hname => ?_⟩
  have hne : (name == field) = false := beq_eq_false_iff_ne.mpr hname
  simp only [List.lookup_append, List.lookup_cons, hne]

end AgreeBut

theorem Record.encode_marked (s : RunState) (v : Value) (context : Record.Context) :
    AgreeBut "resources_reconciled" (Record.ofState s context).encode (Record.ofState (s.marked v) context).encode :=
  AgreeBut.of_field ((Record.ofState s context).encode.take 15) ((Record.ofState s context).encode.drop 16)
    (encodeValue s.reconciled) (encodeValue v)

/-- A request for the resources brings them, or the fault that they could not be fetched. Nothing else breaks. -/
def Outcome.IsConclusive (o : Outcome) : Prop :=
  ∀ f, o.resources = .error f → ∃ g, f = .client (.service g) ∧ g.kind = .resourceFetch

theorem Outcome.isConclusive_of_isReply {o : Outcome} (h : o.isReply = true) : o.IsConclusive :=
  fun _ hf => Core.resources_of_isReply h hf

/-- What two sessions say of the same report: the phase before, whether it changed anything, and the state after
it but for the mark. -/
structure Transition.Abreast (t u : Transition) : Prop where
  previous : u.previous = t.previous
  changed : u.changed = t.changed
  state : ∃ v, u.state = t.state.marked v

/-- Two operations come out alike: both give something, or both end by the same fault. -/
inductive Concur {α : Type} (R : α → α → Prop) : Except Fault α → Except Fault α → Prop
  | ok {a b : α} (h : R a b) : Concur R (.ok a) (.ok b)
  | error (f : Fault) : Concur R (.error f) (.error f)

namespace RunState

variable {s : RunState} {mode : Option Mode} {transfer : Option Transfer} {report : Status}

/-- The mark is a truth value. -/
def HasFlag (s : RunState) : Prop := ∃ b, s.reconciled = .bool b

theorem sameAs_marked {t : RunState} {b b' : Bool} (h : t.reconciled = .bool b) (hs : s.reconciled = .bool b) :
    (t.marked (.bool b')).sameAs (s.marked (.bool b')) = t.sameAs s := by
  have halike : ∀ x : Bool, (Value.bool x).alike (.bool x) = true := by decide
  simp only [sameAs, RunState.marked, h, hs, halike]
  rfl

theorem Course.provisions_iff {q : Quantity} {a : Advance} (h : Course s mode q a) :
    a.provisions = true ↔ s.phase = .schemaMigrating ∧ a.state.phase = .provisioning := by
  have hquiet : ¬(s.phase = .schemaMigrating ∧ s.phase = .provisioning) := fun h => by
    cases h.1.symm.trans h.2
  cases h with
  | provisions hp => exact ⟨fun _ => ⟨hp, rfl⟩, fun _ => rfl⟩
  | stays | raisesSchema | raisesData | raisesForeignKeys => exact iff_of_false Bool.false_ne_true hquiet
  | _ => exact iff_of_false Bool.false_ne_true fun h => by cases h.2

/-- **The mark does not matter to where a report leads.** -/
theorem advance_ok_marked {a : Advance} (hactive : s.phase.isActive = true)
    (h : s.advance mode transfer report = .ok a) (v : Value) : ∃ a', (s.marked v).advance mode transfer report = .ok a' ∧
      a'.state = a.state.marked v ∧ a'.provisions = a.provisions := by
  have hmarked := advance_marked s v mode transfer report
  rw [h] at hmarked
  cases ha' : (s.marked v).advance mode transfer report with
  | error f =>
    rw [ha'] at hmarked
    cases hmarked
  | ok a' =>
    rw [ha'] at hmarked
    have hstate : a'.state = a.state.marked v := Except.ok.inj hmarked
    obtain ⟨q, -, hcourse⟩ := Course.of_advance hactive h
    obtain ⟨q', -, hcourse'⟩ := Course.of_advance (s := s.marked v) hactive ha'
    refine ⟨a', rfl, hstate, ?_⟩
    rw [Bool.eq_iff_iff, hcourse.provisions_iff, hcourse'.provisions_iff, hstate]
    exact Iff.rfl

theorem advance_error_marked {f : Fault} (h : s.advance mode transfer report = .error f) (v : Value) :
    (s.marked v).advance mode transfer report = .error f := by
  have hmarked := advance_marked s v mode transfer report
  rw [h] at hmarked
  cases ha' : (s.marked v).advance mode transfer report with
  | error f' =>
    rw [ha'] at hmarked
    exact congrArg Except.error (Except.error.inj hmarked)
  | ok a' =>
    rw [ha'] at hmarked
    cases hmarked

end RunState

namespace Core

/-- **Two sessions stand at the same point of a run**, but for its mark: the state, its context and the hooks
are the same, and so is what is stored and what is put in the way of the store. -/
structure Abreast (c d : Core) : Prop where
  state : ∃ b, d.session.state = c.session.state.marked (.bool b)
  flag : c.session.state.HasFlag
  context : d.session.context = c.session.context
  hooks : d.session.hooks = c.session.hooks
  faults : d.faults = c.faults
  known : c.session.store < c.storage.stores.length
  known' : d.session.store < d.storage.stores.length
  stored : AgreeBut "resources_reconciled" c.stored d.stored

/-- An operation comes out alike in two sessions, which are abreast afterwards. -/
structure Turn.Abreast {α : Type} (R : α → α → Prop) (t u : Turn α) : Prop where
  result : Concur R t.result u.result
  core : t.core.Abreast u.core

variable {α β : Type} {R : α → α → Prop} {R' : β → β → Prop} {b c d : Core} {k k' : Conditions} {report : Status}

namespace Abreast

theorem refl (hflag : c.session.state.HasFlag) (hknown : c.session.store < c.storage.stores.length) : c.Abreast c := by
  obtain ⟨b, hb⟩ := hflag
  refine ⟨⟨b, ?_⟩, ⟨b, hb⟩, rfl, rfl, rfl, hknown, hknown, .refl _ _⟩
  rw [← hb]
  rfl

theorem flag' (h : c.Abreast d) : d.session.state.HasFlag := by
  obtain ⟨b, hb⟩ := h.state
  exact ⟨b, by rw [hb]; rfl⟩

theorem symm (h : c.Abreast d) : d.Abreast c := by
  obtain ⟨b, hb⟩ := h.state
  obtain ⟨b', hb'⟩ := h.flag
  refine ⟨⟨b', ?_⟩, h.flag', h.context.symm, h.hooks.symm, h.faults.symm, h.known', h.known, h.stored.symm⟩
  rw [hb, ← hb']
  rfl

theorem trans (h : b.Abreast c) (h' : c.Abreast d) : b.Abreast d := by
  obtain ⟨x, hx⟩ := h.state
  obtain ⟨y, hy⟩ := h'.state
  refine ⟨⟨y, ?_⟩, h.flag, h'.context.trans h.context, h'.hooks.trans h.hooks, h'.faults.trans h.faults, h.known,
    h'.known', h.stored.trans h'.stored⟩
  rw [hy, hx]
  rfl

/-- What keeps a run and its storage, but for the mark, leaves it abreast of itself. -/
theorem of_kept (hkept : c.Kept d) (hstorage : d.storage = c.storage)
    (hstate : ∃ b, d.session.state = c.session.state.marked (.bool b)) (hflag : c.session.state.HasFlag)
    (hknown : c.session.store < c.storage.stores.length) : c.Abreast d where
  state := hstate
  flag := hflag
  context := hkept.context
  hooks := hkept.hooks
  faults := by rw [Core.faults, hkept.store, hstorage, Core.faults]
  known := hknown
  known' := by rw [hkept.store, hstorage]; exact hknown
  stored := by
    rw [Core.stored, Core.stored, hkept.store, hstorage]
    exact .refl _ _

theorem onState (h : c.Abreast d) {f g : RunState → RunState}
    (hfg : ∀ b, d.session.state = c.session.state.marked (.bool b) →
      ∃ b, g d.session.state = (f c.session.state).marked (.bool b)) (hflag : (f c.session.state).HasFlag) :
    (c.onState f).Abreast (d.onState g) := by
  obtain ⟨b, hb⟩ := h.state
  exact ⟨hfg b hb, hflag, h.context, h.hooks, h.faults, h.known, h.known', h.stored⟩

theorem mode (h : c.Abreast d) : d.session.mode = c.session.mode := congrArg Record.Context.mode h.context

theorem transfer (h : c.Abreast d) : d.session.transfer = c.session.transfer := congrArg Record.Context.transfer h.context

theorem phase (h : c.Abreast d) : d.session.state.phase = c.session.state.phase := by
  obtain ⟨b, hb⟩ := h.state
  rw [hb]
  rfl

theorem sound (h : c.Abreast d) (hsound : c.session.state.Sound) : d.session.state.Sound := by
  obtain ⟨b, hb⟩ := h.state
  rw [hb]
  exact hsound.marked _

theorem giving {x y : α} (h : c.Abreast d) (hxy : R x y) : (c.giving x).Abreast R (d.giving y) := ⟨.ok hxy, h⟩

theorem failing (h : c.Abreast d) (f : Fault) : (c.failing f : Turn α).Abreast R (d.failing f) := ⟨.error f, h⟩

theorem andThen {t u : Turn α} {f g : α → Core → Turn β} (h : t.Abreast R u)
    (hfg : ∀ x y, t.result = .ok x → u.result = .ok y → R x y → (f x t.core).Abreast R' (g y u.core)) :
    (t.andThen f).Abreast R' (u.andThen g) := by
  obtain ⟨hresult, hcore⟩ := h
  cases ht : t.result with
  | ok x =>
    cases hu : u.result with
    | ok y =>
      rw [andThen_ok ht, andThen_ok hu]
      rw [ht, hu] at hresult
      cases hresult with
      | ok hxy => exact hfg x y ht hu hxy
    | error f =>
      rw [ht, hu] at hresult
      cases hresult
  | error f =>
    cases hu : u.result with
    | ok y =>
      rw [ht, hu] at hresult
      cases hresult
    | error f' =>
      rw [ht, hu] at hresult
      cases hresult
      rw [andThen_error ht, andThen_error hu]
      exact hcore.failing f

/-! ## The parts of a report -/

/-- What says nothing of its own. -/
abbrev Silent (_ _ : Unit) : Prop := True

theorem concur_unit (r : Except Fault Unit) : Concur Silent r r := by
  cases r with
  | ok _ => exact .ok trivial
  | error f => exact .error f

theorem withStorage {x y : Except Fault Unit × Storage} (h : c.Abreast d) (hx : x.1 = .ok ()) (hy : y.1 = .ok ())
    (hkeeps : c.storage.Keeps x.2) (hkeeps' : d.storage.Keeps y.2)
    (hstored : AgreeBut "resources_reconciled" (x.2.table c.session.store) (y.2.table d.session.store)) :
    (c.withStorage x).Abreast Silent (d.withStorage y) := by
  refine ⟨?_, h.state, h.flag, h.context, h.hooks, ?_, ?_, ?_, hstored⟩
  · show Concur Silent x.1 y.1
    rw [hx, hy]
    exact .ok trivial
  · show y.2.faults d.session.store = x.2.faults c.session.store
    rw [hkeeps.faults, hkeeps'.faults]
    exact h.faults
  · exact Nat.lt_of_lt_of_eq h.known hkeeps.count.symm
  · exact Nat.lt_of_lt_of_eq h.known' hkeeps'.count.symm

theorem persist (h : c.Abreast d) : c.persist.Abreast Silent d.persist := by
  obtain ⟨hsaved, htable⟩ := Storage.save_spec h.known c.record.encode_names
  obtain ⟨hsaved', htable'⟩ := Storage.save_spec h.known' d.record.encode_names
  rw [Core.persist, Core.persist, h.faults]
  cases c.faults.saveError with
  | some text => exact h.failing _
  | none =>
    refine h.withStorage hsaved hsaved' (Storage.keeps_save ..) (Storage.keeps_save ..) ?_
    obtain ⟨b, hb⟩ := h.state
    rw [htable, htable', Core.record, Core.record, Session.record, Session.record, h.context, hb]
    exact Record.encode_marked ..

theorem clear (h : c.Abreast d) : c.clear.Abreast Silent d.clear := by
  obtain ⟨hcleared, htable⟩ := Storage.clear_spec h.known
  obtain ⟨hcleared', htable'⟩ := Storage.clear_spec h.known'
  rw [Core.clear, Core.clear, h.faults]
  cases c.faults.clearError with
  | some text => exact h.failing _
  | none =>
    refine h.withStorage hcleared hcleared' (Storage.keeps_clear ..) (Storage.keeps_clear ..) ?_
    rw [htable, htable']
    exact .refl _ _

/-- Where a run is abreast of itself after something was done in either session, both are abreast afterwards. -/
theorem onward {c' d' : Core} (h : c.Abreast d) (hc : c.Abreast c') (hd : d.Abreast d') : c'.Abreast d' :=
  hc.symm.trans (h.trans hd)

theorem ofHooks (phase : Phase) (hooks : List StopHook) (hflag : c.session.state.HasFlag)
    (hknown : c.session.store < c.storage.stores.length) : c.Abreast (c.runHooks phase hooks).core := by
  obtain ⟨b, hb⟩ := hflag
  refine of_kept (kept_runHooks ..) (storage_runHooks ..) ⟨b, ?_⟩ ⟨b, hb⟩ hknown
  rw [state_runHooks, ← hb]
  rfl

theorem runHooks (h : c.Abreast d) (phase : Phase) (hooks : List StopHook) :
    (c.runHooks phase hooks).Abreast Silent (d.runHooks phase hooks) := by
  refine ⟨?_, h.onward (ofHooks phase hooks h.flag h.known) (ofHooks phase hooks h.flag' h.known')⟩
  rw [result_runHooks, result_runHooks]
  exact concur_unit _

/-- **Fetching the resources of a run** comes out well whether it brings them or not, and only marks the run. -/
theorem ofReconcileOnce {o : Outcome} (ho : o.IsConclusive) (hflag : c.session.state.HasFlag)
    (hknown : c.session.store < c.storage.stores.length) :
    (c.reconcileOnce o).result = .ok () ∧ c.Abreast (c.reconcileOnce o).core := by
  obtain ⟨b, hb⟩ := hflag
  obtain ⟨v, hv, hstate⟩ := state_reconcileOnce o c
  refine ⟨?_, of_kept (kept_reconcileOnce o c) (storage_reconcileOnce o c) ?_ ⟨b, hb⟩ hknown⟩
  · cases hdue : c.isDue with
    | false => rw [reconcileOnce_idle hdue, giving_result]
    | true =>
      cases hr : (c.fetch o).result with
      | ok items => rw [reconcileOnce_ok hdue hr, giving_result]
      | error f =>
        have hf : o.resources = .error f := by
          unfold Core.fetch at hr
          split at hr
          · cases hr
          · dsimp only at hr
            split at hr
            · cases hr
            next g hg =>
              cases hr
              exact hg
        obtain ⟨g, rfl, hkind⟩ := ho f hf
        rw [reconcileOnce_error hdue hr, fetchFailed, if_pos hkind, giving_result]
  · rcases hv with rfl | rfl
    · exact ⟨b, hb ▸ hstate⟩
    · exact ⟨true, hstate⟩

theorem reconcileOnce {o o' : Outcome} (h : c.Abreast d) (ho : o.IsConclusive) (ho' : o'.IsConclusive) :
    (c.reconcileOnce o).Abreast Silent (d.reconcileOnce o') := by
  obtain ⟨hresult, hc⟩ := ofReconcileOnce ho h.flag h.known
  obtain ⟨hresult', hd⟩ := ofReconcileOnce ho' h.flag' h.known'
  refine ⟨?_, h.onward hc hd⟩
  rw [hresult, hresult']
  exact .ok trivial

theorem complete (h : c.Abreast d) (hnotice : k'.notice = k.notice) (hk : k.answer.IsConclusive)
    (hk' : k'.answer.IsConclusive) : (c.complete k).Abreast Silent (d.complete k') := by
  have hstopped : c.stopped.Abreast d.stopped :=
    h.onState (fun b hb => ⟨b, by rw [hb]; rfl⟩) h.flag
  have hhooks := hstopped.runHooks .complete c.session.hooks
  rw [Core.complete, Core.complete, h.hooks]
  refine andThen hhooks fun _ _ _ _ _ => ?_
  refine andThen (hhooks.core.reconcileOnce hk hk') fun _ _ _ _ _ => ?_
  have hcleared := ((hhooks.core.reconcileOnce hk hk').core).clear
  refine andThen hcleared fun _ _ _ _ _ => ⟨?_, hcleared.core⟩
  rw [hnotice]
  exact concur_unit _

theorem failRun (h : c.Abreast d) (errorText : Value) :
    (c.failRun errorText).Abreast Silent (d.failRun errorText) := by
  have hfailed : (c.failed errorText).Abreast (d.failed errorText) := by
    obtain ⟨b, hb⟩ := h.state
    refine ⟨⟨b, ?_⟩, h.flag, h.context, h.hooks, h.faults, h.known, h.known', h.stored⟩
    show d.session.state.afterFailure d.session.mode errorText = _
    rw [hb, h.mode]
    rfl
  have hhooks := hfailed.runHooks .failed c.session.hooks
  rw [Core.failRun, Core.failRun, h.hooks]
  exact andThen hhooks fun _ _ _ _ _ => hhooks.core.clear

/-- A run that has moved on is closed or stored. Only one of the sessions may still lack the resources. -/
theorem settle {a a' : RunState.Advance} (h : c.Abreast d) (hnotice : k'.notice = k.notice)
    (hk : k.answer.IsConclusive) (hk' : k'.answer.IsConclusive) : (c.settle k a).Abreast Silent (d.settle k' a') := by
  rw [Core.settle, Core.settle, h.phase]
  split
  · exact h.complete hnotice hk hk'
  · obtain ⟨hresult, hc⟩ := ofReconcileOnce hk h.flag h.known
    obtain ⟨hresult', hd⟩ := ofReconcileOnce hk' h.flag' h.known'
    rw [andThen_ok hresult, andThen_ok hresult']
    split
    · split
      · exact (h.onward hc hd).persist
      · exact (hc.symm.trans h).persist
    · split
      · exact (h.trans hd).persist
      · exact h.persist

theorem concluded (h : c.Abreast d) (hsound : c.session.state.Sound) (previous : Phase) :
    (c.concluded previous).Abreast Transition.Abreast (d.concluded previous) := by
  rw [Core.concluded, Core.concluded, snapshot_eq hsound, snapshot_eq (h.sound hsound)]
  obtain ⟨b, hb⟩ := h.state
  exact h.giving ⟨rfl, rfl, _, hb⟩

/-- **A report comes out the same** in two sessions that are abreast, whatever came of fetching the resources, and
leaves them abreast. -/
theorem apply (h : c.Abreast d) (hsound : c.session.state.Sound) (hnotice : k'.notice = k.notice)
    (hk : k.answer.IsConclusive) (hk' : k'.answer.IsConclusive) (report : Status) :
    (c.apply k report).Abreast Transition.Abreast (d.apply k' report) := by
  have hsound' := h.sound hsound
  obtain ⟨b, hb⟩ := h.state
  obtain ⟨b₀, hb₀⟩ := h.flag
  have hunchanged : (c.giving (⟨c.session.state.phase, c.session.state, false⟩ : Transition)).Abreast Transition.Abreast
      (d.giving ⟨d.session.state.phase, d.session.state, false⟩) := h.giving ⟨h.phase, rfl, _, hb⟩
  have hcourse' : d.course report = (c.session.state.marked (.bool b)).advance c.session.mode c.session.transfer report := by
    rw [Core.course, h.mode, h.transfer, hb]
  cases hactive : c.session.state.phase.isActive with
  | false =>
    rw [apply_idle hsound hactive, apply_idle hsound' (by rw [h.phase, hactive])]
    exact hunchanged
  | true =>
    have hactive' : d.session.state.phase.isActive = true := by rw [h.phase, hactive]
    cases hfailure : report.isFailure with
    | true =>
      have hfailed := h.failRun report.errorText
      rw [apply_failure hactive hfailure, apply_failure hactive' hfailure, h.phase]
      refine andThen hfailed fun _ _ _ _ _ => hfailed.core.concluded ?_ _
      rw [state_failRun]
      exact hsound.afterFailure _ _
    | false =>
      cases hcourse : c.course report with
      | error f =>
        rw [apply_refused hactive hsound hfailure hcourse, apply_refused hactive' hsound' hfailure
          (hcourse'.trans (RunState.advance_error_marked hcourse _))]
        exact h.failing f
      | ok a =>
        obtain ⟨a', ha', hstate, hprovisions⟩ := RunState.advance_ok_marked hactive hcourse (.bool b)
        have hcourse' := hcourse'.trans ha'
        obtain ⟨q, -, hq⟩ := RunState.Course.of_advance hactive hcourse
        have hflag : a.state.reconciled = .bool b₀ := hq.reconciled.trans hb₀
        have hsameAs : a'.state.sameAs d.session.state = a.state.sameAs c.session.state := by
          rw [hstate, hb]
          exact RunState.sameAs_marked hflag hb₀
        cases hsame : a.state.sameAs c.session.state with
        | true =>
          rw [apply_same hactive hsound hfailure hcourse hsame, apply_same hactive' hsound' hfailure hcourse'
            (hsameAs.trans hsame)]
          exact hunchanged
        | false =>
          have htold : (c.told k a).Abreast Silent (d.told k' a') := by
            refine ⟨?_, h.onState (f := fun _ => a.state) (g := fun _ => a'.state) (fun _ _ => ⟨b, hstate⟩) ⟨b₀, hflag⟩⟩
            show Concur Silent (if a.provisions then k.notice else .ok ()) (if a'.provisions then k'.notice else .ok ())
            rw [hprovisions, hnotice]
            exact concur_unit _
          have hsettled : ((c.told k a).andThen fun _ e => e.settle k a).Abreast Silent
              ((d.told k' a').andThen fun _ e => e.settle k' a') :=
            andThen htold fun _ _ _ _ _ => htold.core.settle hnotice hk hk'
          have hsound₁ : (c.apply k report).core.session.state.Sound := sound_apply hsound
          rw [apply_moved hactive hsound hfailure hcourse hsame] at hsound₁ ⊢
          rw [apply_moved hactive' hsound' hfailure hcourse' (hsameAs.trans hsame), h.phase]
          refine andThen hsettled fun _ _ hok _ _ => hsettled.core.concluded ?_ _
          rw [andThen_ok hok, core_concluded] at hsound₁
          exact hsound₁

end Abreast

end Core

end Cutover
