import Cutover.Proofs.Control.Ending
import Cutover.Proofs.Control.Journal
import Cutover.Proofs.RunState.Soundness

/-!
# The end of a run in order

A report that ends a run does so in steps: the state first, then the stop hooks one after the other, then the resources
of a complete run, then the record, then the notice, and the last snapshot at the very end.

* `StopHook.Calls`: what can be seen of the stop hooks;
* `Core.Fetches`: what can be seen of the resources being fetched once in a run;
* `Core.Teardown`: **what can be seen of the end of a run**, in order;
* `Core.Ends.latch`: a report that ends a run tells the poll loop to end;
* `Surroundings.journal_failRun`, `Surroundings.journal_complete`: a run fails, or is completed;
* `Surroundings.journal_apply`: **a report that ends a run does it in this order**.
-/

namespace Cutover

namespace StopHook

/-- **What can be seen of a stop hook** that is called. The configuration is forgotten only of a complete run, and only
if something is set. -/
inductive Shows (p : Phase) (stored : Bool) : StopHook → List Sign → Prop
  | polling : Shows p stored .polling [.latched]
  | spares : Shows p stored .configuration []
  | forgets (phase : p = .complete) : Shows p stored .configuration [.configured]
  | user {number : Nat} {id : String} {fails : Bool} : Shows p stored (.user number id fails) [.told ⟨id, p, stored⟩]

/-- **What can be seen of stop hooks** that are called, each once and in order. -/
inductive Calls (p : Phase) (stored : Bool) : List StopHook → List Sign → Prop
  | nil : Calls p stored [] []
  | cons {hook : StopHook} {hooks : List StopHook} {new rest : List Sign} (first : hook.Shows p stored new)
    (others : Calls p stored hooks rest) : Calls p stored (hook :: hooks) (new ++ rest)

end StopHook

namespace Core

variable {c d : Core} {report : Status} {signs : List Sign}

/-- **What can be seen of the resources being fetched once in a run**: nothing if they were or need not be; otherwise
they are asked for unless they are kept, and the run is marked or the user is told. -/
inductive Fetches (c : Core) : List Sign → Prop
  | idle (due : c.isDue = false) : Fetches c []
  | kept {items : List Resource} (due : c.isDue = true) (kept : c.session.resources = some items) :
    Fetches c [.moved (c.session.state.marked (.bool true))]
  | fetched (due : c.isDue = true) (kept : c.session.resources = none) :
    Fetches c [.asked Call.getResources.message, .moved (c.session.state.marked (.bool true))]
  | refused {f : ServiceFault} (due : c.isDue = true) (kept : c.session.resources = none)
    (kind : f.kind = .resourceFetch) :
    Fetches c [.asked Call.getResources.message, .noticed (.text f.message) .error]

/-- **What can be seen of the end of a run**, in order: the state moves on and is no longer in progress, the stop hooks
are called, the resources of a complete run are fetched, the record is removed, a notice is raised, and the readers are
given the last state. -/
inductive Teardown (c : Core) (report : Status) (d : Core) : List Sign → Prop
  | failed {hooks : List Sign} (failure : report.isFailure = true)
    (state : d.session.state = c.session.state.afterFailure c.session.mode report.errorText)
    (lastFailure : d.session.lastFailure = some ⟨report.errorText, c.session.state.phase⟩)
    (calls : StopHook.Calls .failed c.keepsRecord c.session.hooks hooks) :
    Teardown c report d ([.moved d.session.state] ++ hooks ++
      [.stored [], .noticed report.errorText .error, .shown (some d.session.state)])
  | complete {a : RunState.Advance} {hooks fetched : List Sign} (failure : report.isFailure = false)
    (course : c.course report = .ok a) (phase : a.state.phase = .complete)
    (state : ∃ v, d.session.state = a.state.stopped.marked v)
    (calls : StopHook.Calls .complete c.keepsRecord c.session.hooks hooks)
    (fetches : ((c.moved a).stopped).Fetches fetched) :
    Teardown c report d ([.moved a.state, .moved a.state.stopped] ++ hooks ++ fetched ++
      [.stored [], .noticed (.text ProgressText.completed) .success, .shown (some d.session.state)])

theorem Fetches.of_alike (h : c.Alike d) (hd : d.Fetches signs) : c.Fetches signs := by
  have hdue := h.isDue
  cases hd with
  | idle due => exact .idle (hdue ▸ due)
  | kept due kept =>
    rw [h.state]
    exact .kept (hdue ▸ due) ((h.resources (hdue ▸ due)).symm.trans kept)
  | fetched due kept =>
    rw [h.state]
    exact .fetched (hdue ▸ due) ((h.resources (hdue ▸ due)).symm.trans kept)
  | refused due kept kind => exact .refused (hdue ▸ due) ((h.resources (hdue ▸ due)).symm.trans kept) kind

/-! ## The poll loop is told to end -/

/-- **The poll loop is told to end** by its stop hook, where none fails. -/
theorem latch_runHooks {hooks : List StopHook} (p : Phase) (hpolling : c.session.latch.raised = true ∨ .polling ∈ hooks)
    (hok : ∀ hook ∈ hooks, hook.fails = false) : (c.runHooks p hooks).core.session.latch.raised = true := by
  induction hooks generalizing c with
  | nil => exact hpolling.resolve_right List.not_mem_nil
  | cons hook rest ih =>
    rw [runHooks, andThen_ok (runHook_ok (hok hook List.mem_cons_self))]
    refine ih ?_ fun other ho => hok other (List.mem_cons_of_mem _ ho)
    cases hook with
    | polling => exact .inl rfl
    | configuration =>
      refine hpolling.imp (fun hraised => ?_) fun hmem => (List.mem_cons.mp hmem).resolve_left StopHook.noConfusion
      rw [runHook]
      split
      · exact hraised
      · exact hraised
    | user number id fails =>
      refine hpolling.imp (fun hraised => ?_) fun hmem => (List.mem_cons.mp hmem).resolve_left StopHook.noConfusion
      cases fails
      · exact hraised
      · exact hraised

theorem latch_finish (k : Conditions) (p : Phase) (c : Core) : (c.finish k p).core.session.latch = c.session.latch := by
  rw [finish]
  split
  · obtain ⟨_, _, _, _, hcore⟩ := core_reconcileOnce k.answer c
    have hfetched : (c.reconcileOnce k.answer).core.session.latch = c.session.latch := by
      rw [hcore]
      rfl
    refine core_andThen (P := fun d => d.session.latch = _) hfetched fun _ _ => ?_
    have hcleared : (c.reconcileOnce k.answer).core.clear.core.session.latch = c.session.latch := by
      rw [session_clear]
      exact hfetched
    exact core_andThen (P := fun d => d.session.latch = _) hcleared fun _ _ => hcleared
  · rw [session_clear]

/-- **A report that ends a run tells the poll loop to end.** -/
theorem Ends.latch {p : Phase} {k : Conditions} (h : c.Ends report p d) (hsound : c.session.state.Sound)
    (hpolling : .polling ∈ c.session.hooks) (hok : ∀ hook ∈ c.session.hooks, hook.fails = false) :
    (c.apply k report).core.session.latch.raised = true := by
  have hcalled := latch_runHooks (c := d) p (.inr hpolling) hok
  rw [h.apply_eq hsound]
  have hfinished : ((d.runHooks p c.session.hooks).andThen fun _ e => e.finish k p).core.session.latch.raised = true :=
    core_andThen (P := fun e => e.session.latch.raised = true) hcalled fun _ _ => by
      rw [latch_finish]
      exact hcalled
  refine core_andThen (P := fun e => e.session.latch.raised = true) hfinished fun _ _ => ?_
  rw [core_concluded]
  exact hfinished

theorem lastFailure_runHooks (p : Phase) (hooks : List StopHook) (c : Core) :
    (c.runHooks p hooks).core.session.lastFailure = c.session.lastFailure :=
  runHooks_same (f := fun d => d.session.lastFailure) p hooks c fun c h =>
    runHook_same (f := fun d => d.session.lastFailure) p c h (fun _ => rfl) (fun _ => rfl) fun _ _ => rfl

end Core

namespace Surroundings

variable {S : Surroundings} {c d : Core} {l : List Sign} {x : Scene × List Sign} {p : Phase}

/-! ## Stop hooks and resources -/

theorem turned_forgetConfiguration (x : Site) :
    x.turned (x.onSession Session.forgetConfiguration) = [] ∨
      x.turned (x.onSession Session.forgetConfiguration) = [.configured] := by
  by_cases h : (x.onSession Session.forgetConfiguration).session.fragments = x.session.fragments ∧
    (x.onSession Session.forgetConfiguration).session.wizard = x.session.wizard
  · exact .inl (Site.turned_of_same rfl rfl h.1 h.2 rfl rfl)
  · refine .inr ?_
    rw [Site.turned, if_neg h]
    simp [Site.onSession, Session.forgetConfiguration]

theorem journal_runHook {hook : StopHook} {Q : Except Exit Unit → Scene × List Sign → Prop} (h : S.Shows c l x)
    (hok : hook.fails = false) (hQ : ∀ new x', hook.Shows p c.keepsRecord new →
      S.Shows (c.runHook p hook).core (l ++ new) x' → Q (.ok ()) x') : (Control.runHook p hook).Meets S.journal Q x := by
  cases hook with
  | polling =>
    refine Op.meets_perform.mpr ⟨trivial, ?_⟩
    rintro _ x' ⟨hat, hlog⟩
    have hat : S.At (raised x.1.site.core) x.1.published x'.1 := hat
    have h' := h.next (g := [.latched]) hlog rfl hat rfl
    rw [h.core] at h'
    exact hQ _ x' .polling h'
  | configuration =>
    rw [Control.runHook]
    rw [Core.runHook] at hQ
    split
    next hphase =>
      rw [if_pos hphase] at hQ
      rcases turned_forgetConfiguration x.1.site with hnew | hnew
      · exact journal_modify h rfl hnew fun x' h' => hQ _ x' .spares h'
      · exact journal_modify h rfl hnew fun x' h' => hQ _ x' (.forgets hphase) h'
    next hphase =>
      rw [if_neg hphase] at hQ
      exact hQ [] x .spares (by rwa [List.append_nil])
  | user number id fails =>
    cases hok
    refine Op.meets_bind.mpr (Op.meets_lift.mpr (journal_update (g := [.told ⟨id, p, c.keepsRecord⟩])
      (d := { c with hookCalls := c.hookCalls ++ [⟨id, p, c.keepsRecord⟩] }) h ?_ ?_ fun x' h' => hQ _ x' .user h'))
    · rw [← h.core]
      rfl
    · rw [Core.keepsRecord, ← h.storage]
      simp [Site.turned]

/-- **Stop hooks are called in order**, and none is left out where none fails. -/
theorem journal_runHooks {hooks : List StopHook} {Q : Except Exit Unit → Scene × List Sign → Prop} (h : S.Shows c l x)
    (hok : ∀ hook ∈ hooks, hook.fails = false) (hQ : ∀ new x', StopHook.Calls p c.keepsRecord hooks new →
      S.Shows (c.runHooks p hooks).core (l ++ new) x' → Q (.ok ()) x') :
    (Control.runHooks p hooks).Meets S.journal Q x := by
  induction hooks generalizing c l x with
  | nil => exact hQ [] x .nil (by rwa [List.append_nil])
  | cons hook rest ih =>
    have hfirst := hok hook List.mem_cons_self
    have hsame : (c.runHook p hook).core.keepsRecord = c.keepsRecord := by
      rw [Core.keepsRecord, Core.storage_runHook, Core.keepsRecord]
    refine Op.meets_bind.mpr (journal_runHook h hfirst fun new x₁ hnew h₁ => ?_)
    refine ih h₁ (fun other ho => hok other (List.mem_cons_of_mem _ ho)) fun later x₂ hlater h₂ => ?_
    rw [hsame] at hlater
    refine hQ (new ++ later) x₂ (.cons hnew hlater) ?_
    rw [Core.runHooks, Core.andThen_ok (Core.runHook_ok hfirst), ← List.append_assoc]
    exact h₂

/-- **The resources are fetched once in a run** where the service answers or cannot be reached. -/
theorem journal_reconcileOnce {Q : Except Exit Unit → Scene × List Sign → Prop} (h : S.Shows c l x)
    (hgate : c.session.fetchGate = {})
    (hreplies : ∀ o, S.answers Call.getResources.message o → o.isReply = true)
    (hQ : ∀ o new x', o.isReply = true → c.Fetches new → S.Shows (c.reconcileOnce o).core (l ++ new) x' →
      Q (.ok ()) x') : Control.reconcileOnce.Meets S.journal Q x := by
  refine Op.meets_bind.mpr (journal_session ?_)
  rw [Op.after_ok, h.read Session.isBare fun _ => rfl, h.state, ← Core.isDue]
  cases hdue : c.isDue with
  | false =>
    rw [if_neg Bool.false_ne_true]
    obtain ⟨o, ho⟩ := S.some_answer
    refine hQ o [] x (hreplies o ho) (.idle hdue) ?_
    rw [Core.reconcileOnce_idle hdue, List.append_nil]
    exact h
  | true =>
    rw [if_pos rfl]
    refine Op.meets_rescue.mpr (Op.meets_bind.mpr (journal_fetch h hgate fun o x₁ ho h₁ => ?_))
    have hstate : (c.fetch o).core.session.state = c.session.state := Core.state_fetch o c
    cases hr : (c.fetch o).result with
    | ok items =>
      have hcore : (c.reconcileOnce o).core = (c.fetch o).core.reconciled := by
        rw [Core.reconcileOnce_ok hdue hr, Core.giving_core]
      refine journal_modify (g := [.moved (c.session.state.marked (.bool true))]) h₁ rfl ?_ fun x₂ h₂ => ?_
      · have hunmarked : c.session.state.isReconciled = false := by
          rw [Core.isDue, Bool.and_eq_true, Bool.not_eq_true', Bool.not_eq_true'] at hdue
          exact hdue.2
        have hmoves : c.session.state.marked (.bool true) ≠ c.session.state := fun hsame => by
          rw [← hsame] at hunmarked
          cases hunmarked
        rw [← hstate, ← h₁.state] at hmoves ⊢
        exact Site.turned_moved rfl hmoves rfl rfl rfl
      · refine hQ o _ x₂ (hreplies o ho) ?_ (by rw [hcore, ← List.append_assoc]; exact h₂)
        unfold fetchSigns
        cases hkept : c.session.resources with
        | some items => exact .kept hdue hkept
        | none => exact .fetched hdue hkept
    | error f =>
      have hnone : c.session.resources = none := by
        cases hkept : c.session.resources with
        | none => rfl
        | some items =>
          rw [Core.fetch, hkept] at hr
          cases hr
      have hresources : o.resources = .error f := by
        rw [Core.fetch, hnone] at hr
        dsimp only at hr
        cases ho : o.resources with
        | ok items =>
          rw [ho] at hr
          cases hr
        | error g =>
          rw [ho] at hr
          exact hr
      obtain ⟨g, rfl, hkind⟩ := Core.resources_of_isReply (hreplies o ho) hresources
      refine Op.after_error.mpr (Op.rescued_service.mpr ?_)
      rw [if_pos hkind]
      refine Op.meets_bind.mpr (journal_modify_unseen h₁ rfl (Site.turned_of_same rfl rfl rfl rfl rfl rfl) fun x₂ h₂ => ?_)
      refine journal_alarm h₂ fun x₃ h₃ => hQ o _ x₃ (hreplies o ho) (.refused hdue hnone hkind) ?_
      rw [Core.reconcileOnce_error hdue hr, Core.fetchFailed, if_pos hkind, Core.giving_core]
      rw [fetchSigns, hnone, List.append_assoc] at h₃
      exact h₃

/-! ## The end -/

/-- **A run fails in order.** -/
theorem journal_failRun {errorText : Value} {Q : Except Exit Unit → Scene × List Sign → Prop} (h : S.Shows c l x)
    (hactive : c.session.state.phase.isActive = true) (hreliable : c.Reliable) (hstored : c.stored ≠ [])
    (hQ : ∀ new x', StopHook.Calls .failed c.keepsRecord c.session.hooks new →
      S.Shows (c.failRun errorText).core (l ++ ([.moved (c.failed errorText).session.state] ++ new ++
        [.stored [], .noticed errorText .error])) x' → Q (.ok ()) x') :
    (Control.failRun errorText).Meets S.journal Q x := by
  refine Op.meets_bind.mpr (journal_modify (g := [.moved (c.failed errorText).session.state]) h rfl ?_ fun x₁ h₁ => ?_)
  · refine Site.turned_moved ?_ (fun hsame => ?_) rfl rfl rfl
    · rw [h.state, h.read Session.mode fun _ => rfl]
      rfl
    · rw [h.state] at hsame
      rw [← hsame] at hactive
      cases hactive
  have h₁ : S.Shows (c.failed errorText) _ x₁ := h₁
  have hcalled : x₁.1.site.session.hooks = c.session.hooks := h₁.read Session.hooks fun _ => rfl
  refine Op.meets_bind.mpr (journal_session ?_)
  rw [Op.after_ok, hcalled]
  refine Op.meets_bind.mpr (journal_runHooks h₁ hreliable.hooks fun new x₂ hnew h₂ => ?_)
  have hok : ((c.failed errorText).runHooks .failed c.session.hooks).result = .ok () := Core.runHooks_ok hreliable.hooks
  have halike : (c.failed errorText).Alike ((c.failed errorText).runHooks .failed c.session.hooks).core :=
    Core.Alike.runHooks ..
  have hcore : (c.failRun errorText).core
      = ((c.failed errorText).runHooks .failed c.session.hooks).core.clear.core := by
    rw [Core.failRun, Core.andThen_ok hok]
  rw [hcore] at hQ
  generalize ((c.failed errorText).runHooks .failed c.session.hooks).core = d at h₂ halike hQ
  refine Op.meets_bind.mpr (journal_session ?_)
  rw [Op.after_ok, h₂.read Session.store fun _ => rfl]
  refine Op.meets_bind.mpr (journal_clear h₂ ?_ ?_ ?_ fun x₃ h₃ => journal_alarm h₃ fun x₄ h₄ => hQ new x₄ hnew ?_)
  · rw [halike.faults]
    exact hreliable.clear
  · rw [halike.store, halike.storage]
    exact hreliable.known
  · rw [halike.stored]
    exact hstored
  · simpa only [List.append_assoc, List.cons_append, List.nil_append] using h₄

/-- **A run is completed in order.** -/
theorem journal_complete {Q : Except Exit Unit → Scene × List Sign → Prop} (h : S.Shows c l x)
    (hrunning : c.session.state.isRunning = true) (hreliable : c.Reliable) (hstored : c.stored ≠ [])
    (hgate : c.session.fetchGate = {}) (hcalm : S.Calm c)
    (hreplies : ∀ o, S.answers Call.getResources.message o → o.isReply = true)
    (hQ : ∀ k new fetched x', k.answer.isReply = true → StopHook.Calls .complete c.keepsRecord c.session.hooks new →
      c.stopped.Fetches fetched → S.Shows (c.complete k).core (l ++ ([.moved c.session.state.stopped] ++ new ++
        fetched ++ [.stored [], .noticed (.text ProgressText.completed) .success])) x' → Q (.ok ()) x') :
    Control.complete.Meets S.journal Q x := by
  refine Op.meets_bind.mpr (journal_modify (g := [.moved c.session.state.stopped]) h rfl ?_ fun x₁ h₁ => ?_)
  · refine Site.turned_moved ?_ (fun hsame => ?_) rfl rfl rfl
    · rw [h.state]
      rfl
    · rw [h.state] at hsame
      rw [← hsame] at hrunning
      cases hrunning
  have h₁ : S.Shows c.stopped _ x₁ := h₁
  have hcalled : x₁.1.site.session.hooks = c.session.hooks := h₁.read Session.hooks fun _ => rfl
  refine Op.meets_bind.mpr (journal_session ?_)
  rw [Op.after_ok, hcalled]
  refine Op.meets_bind.mpr (journal_runHooks h₁ hreliable.hooks fun new x₂ hnew h₂ => ?_)
  have hok : (c.stopped.runHooks .complete c.session.hooks).result = .ok () := Core.runHooks_ok hreliable.hooks
  have halike : c.stopped.Alike (c.stopped.runHooks .complete c.session.hooks).core := Core.Alike.runHooks ..
  have hkept := (Core.kept_stopped c).trans (Core.kept_runHooks .complete c.session.hooks c.stopped)
  have hcomplete : ∀ k, c.complete k = (c.stopped.runHooks .complete c.session.hooks).core.roundOff k := fun k => by
    rw [Core.complete, Core.andThen_ok hok]
  simp only [hcomplete] at hQ
  generalize (c.stopped.runHooks .complete c.session.hooks).core = d at h₂ halike hkept hQ
  refine Op.meets_bind.mpr (journal_reconcileOnce h₂ (hkept.fetchGate.trans hgate) hreplies
    fun o fetched x₃ ho hfetched h₃ => ?_)
  have hkept' := hkept.trans (Core.kept_reconcileOnce o d)
  have hround : (d.roundOff ⟨o, .ok ()⟩).core = (d.reconcileOnce o).core.clear.core := by
    rw [Core.roundOff, Core.andThen_ok (Core.reconcileOnce_isReply ho)]
    exact Core.core_andThen (P := fun e => e = (d.reconcileOnce o).core.clear.core) rfl fun _ _ => rfl
  have hstorage : (d.reconcileOnce o).core.storage = c.storage :=
    (Core.storage_reconcileOnce o d).trans halike.storage
  refine Op.meets_bind.mpr (journal_session ?_)
  rw [Op.after_ok, h₃.read Session.store fun _ => rfl]
  refine Op.meets_bind.mpr (journal_clear h₃ ?_ ?_ ?_ fun x₄ h₄ => ?_)
  · rw [Core.faults, hkept'.store, hstorage]
    exact hreliable.clear
  · rw [hkept'.store, hstorage]
    exact hreliable.known
  · rw [Core.stored, hkept'.store, hstorage]
    exact hstored
  refine journal_announce h₄ ?_ fun x₅ h₅ => hQ ⟨o, .ok ()⟩ new fetched x₅ ho hnew (.of_alike halike hfetched) ?_
  · intro t ht
    rw [(Core.kept_clear _).board, hkept'.board]
    exact hcalm t ht
  · rw [hround]
    simpa only [List.append_assoc, List.cons_append, List.nil_append] using h₅

/-- **What the end of a run needs** to go through: hooks and store do what they are asked, memory and store agree, the
service answers or cannot be reached, and notices can be raised. -/
structure MayEnd (S : Surroundings) (c : Core) : Prop where
  orderly : c.Orderly
  sound : c.session.state.Sound
  calm : S.Calm c
  replies : ∀ o, S.answers Call.getResources.message o → o.isReply = true

theorem MayEnd.stored_ne (h : S.MayEnd c) (hactive : c.session.state.phase.isActive = true) : c.stored ≠ [] := by
  have hagrees := h.orderly.agrees
  rw [Core.Agrees, if_pos (h.orderly.running hactive)] at hagrees
  rw [hagrees]
  exact Record.encode_ne_nil _

/-- **What comes of the end of a run**: it went in order, nothing is stored, and the run is over. -/
structure TornDown (c : Core) (report : Status) (d : Core) (signs : List Sign) : Prop where
  order : c.Teardown report d signs
  ended : c.Over d

variable {report : Status} {d₀ : Core}

theorem journal_applyActive (h : S.Shows c l x) (hmay : S.MayEnd c) (hends : c.Ends report p d₀) :
    (Control.applyActive c.session.state.phase report).Meets S.journal (fun r x' => r = .ok none ∧
      ∃ d new, S.Shows d (l ++ new) x' ∧ d.session.state.Sound ∧
        TornDown c report d (new ++ [.shown (some d.session.state)])) x := by
  obtain ⟨hreliable, -, hrunning, hgate⟩ := hmay.orderly
  cases hends with
  | fails hactive hfailure =>
    obtain ⟨-, hover⟩ := hreliable.failRun report.errorText
    have hstate := Core.state_failRun report.errorText c
    have hlast : (c.failRun report.errorText).core.session.lastFailure
        = some ⟨report.errorText, c.session.state.phase⟩ := by
      rw [Core.failRun]
      refine Core.core_andThen (P := fun d => d.session.lastFailure = _) (Core.lastFailure_runHooks ..) fun _ _ => ?_
      rw [Core.session_clear, Core.lastFailure_runHooks]
      rfl
    rw [Control.applyActive, if_pos hfailure]
    refine Op.meets_bind.mpr (journal_failRun h hactive hreliable (hmay.stored_ne hactive) fun new x' hnew h' => ?_)
    refine ⟨rfl, _, _, h', ?_, ?_, hover⟩
    · rw [hstate]
      exact hmay.sound.afterFailure _ _
    · have horder := Core.Teardown.failed hfailure hstate hlast hnew
      simpa only [hstate, Core.failed, Core.onSession, List.append_assoc, List.cons_append, List.nil_append] using horder
  | @completes a hactive hfailure hcourse hphase =>
    obtain ⟨q, -, hq⟩ := RunState.Course.of_advance hactive hcourse
    have hmoves : a.state ≠ c.session.state := fun hsame => by
      rw [← hsame, hphase] at hactive
      cases hactive
    have hsame : a.state.sameAs c.session.state = false :=
      Bool.eq_false_iff.mpr fun hsame => hmoves (hq.eq_of_sameAs hsame)
    have hquiet : a.provisions = false := by
      refine Bool.eq_false_iff.mpr fun hp => ?_
      cases (hq.provisioning hp).symm.trans hphase
    have hsound : a.state.Sound := hmay.sound.advance hcourse
    have hrunning' : (c.moved a).session.state.isRunning = true := by
      show a.state.inProgress.isTruthy = true
      rw [hq.inProgress]
      exact hrunning hactive
    have hkept : c.Kept (c.moved a) := ⟨⟨rfl, rfl, rfl, rfl, rfl, .refl _⟩, rfl⟩
    rw [Control.applyActive, if_neg (by rw [hfailure]; exact Bool.false_ne_true)]
    refine Op.meets_bind.mpr (journal_snapshot h hmay.sound (Op.meets_bind.mpr ?_))
    refine Op.meets_bind.mpr (journal_session ?_)
    rw [Op.after_ok, h.state, h.read Session.mode fun _ => rfl, h.read Session.transfer fun _ => rfl]
    refine Op.meets_bind.mpr (Op.meets_ofExcept.mpr ?_)
    have hcourse' : c.session.state.advance c.session.mode c.session.transfer report = .ok a := hcourse
    rw [hcourse']
    refine Op.meets_bind.mpr (journal_modify (g := [.moved a.state]) h rfl ?_ fun x₁ h₁ => ?_)
    · refine Site.turned_moved rfl ?_ rfl rfl rfl
      rw [h.state]
      exact hmoves
    have h₁ : S.Shows (c.moved a) (l ++ [.moved a.state]) x₁ := h₁
    rw [hquiet]
    refine Op.meets_bind.mpr (journal_session ?_)
    have hstate₁ : x₁.1.site.session.state = a.state := h₁.state
    rw [Op.after_ok, hstate₁, hsame]
    refine Op.meets_bind.mpr (Op.meets_bind.mpr (journal_session ?_))
    rw [Op.after_ok, hstate₁, if_pos hphase]
    refine journal_complete h₁ hrunning' (hreliable.kept hkept.toStays) (hmay.stored_ne hactive) hgate hmay.calm
      hmay.replies fun k new fetched x₂ hk hnew hfetched h₂ => ?_
    obtain ⟨v, -, hstate⟩ := Core.state_complete k (c.moved a)
    obtain ⟨-, hover⟩ := (hreliable.kept hkept.toStays).complete (k := k) hphase hk
    refine ⟨rfl, _, [.moved a.state] ++ _, by rw [← List.append_assoc]; exact h₂, ?_, ?_,
      ⟨hkept.toStays.trans hover.stays, hover.stored, hover.stopped, hover.terminal⟩⟩
    · rw [hstate]
      exact hsound.stopped.marked v
    · have horder := Core.Teardown.complete (d := ((c.moved a).complete k).core) hfailure hcourse hphase ⟨v, hstate⟩
        hnew hfetched
      have hmoved : (c.moved a).session.state = a.state := rfl
      simpa only [hmoved, List.append_assoc, List.cons_append, List.nil_append] using horder

/-- **A report that ends a run does it in order**, behind the state gate. -/
theorem journal_apply (h : S.Shows c l x) (hmay : S.MayEnd c) (hends : c.Ends report p d₀) :
    (Control.applyBehind report).Meets S.journal (fun r x' => ∃ d new, S.Shows d (l ++ new) x' ∧
      r = .ok ⟨c.session.state.phase, d.session.state, true⟩ ∧ TornDown c report d new) x := by
  have hactive : c.session.state.phase.isActive = true := by
    cases hends with
    | fails hactive => exact hactive
    | completes hactive => exact hactive
  refine Op.meets_bind.mpr (journal_session ?_)
  rw [Op.after_ok]
  simp only [h.state]
  refine Op.meets_bind.mpr (journal_traced h fun id x₁ h₁ => ?_)
  rw [Control.applyTraced, if_pos hactive]
  refine Op.meets_bind.mpr ((journal_applyActive h₁ hmay hends).mono ?_)
  rintro _ x₂ ⟨rfl, d, new, h₂, hsound, htorn⟩
  refine Op.meets_bind.mpr (journal_session (Op.meets_bind.mpr (journal_tag h₂ fun x₃ h₃ => ?_)))
  refine ⟨d, _, h₃, fun x₄ h₄ => ?_⟩
  refine Op.meets_bind.mpr (Op.meets_bind.mpr (journal_snapshot h₄ hsound ?_))
  refine journal_publish h₄ fun x₅ h₅ => Op.meets_bind.mpr (journal_snapshot h₅ hsound ?_)
  exact ⟨d, _, by rw [← List.append_assoc]; exact h₅, rfl, htorn⟩

end Surroundings

end Cutover
