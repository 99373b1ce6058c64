import Cutover.Proofs.Control.Sheet

/-!
# Setting what is sent

Who sets a fragment drafts it if that gives true. Shards are drafted once the service has taken them, and who
forgets the configuration leaves nothing drafted.

* `Sheet.Closes`: what an action leaves once it has given its result;
* `Sheet.meets_setShared`, `Sheet.meets_finalizeShards`: fragments that the service must know of;
* `Sheet.closes_configure`, `Sheet.closes_abandon`, `Sheet.closes_begin`: **what is asked of the configuration, and
  of the session as a whole, keeps to the draft**.
-/

namespace Cutover

namespace Sheet

variable {α : Type} {g : Errand} {s s' : Sheet} {given : Option Request} {cs : List Concern}

open Op

/-- **What an action leaves.** What is drafted once it has given its result is what the fragments hold, and a run
that was launched for an order is stored. -/
structure Closes (a : Action) (r : Except Exit Result) (s : Sheet) : Prop where
  ends : ∀ result, r = .ok result → Holds s.given { s with draft := s.draft.after a result }
  fails : ∀ e, r = .error e → s.Holds s.given
  stored : ∀ o, (Errand.action a).order? = some o → ∀ result, r = .ok result → s.stored

theorem closes_of_upheld {a : Action} {r : Except Exit Result} {p : Result → Prop} (h : Upheld (Holds given) p r s)
    (hafter : ∀ (d : Draft) result, d.after a result = d) (horder : (Errand.action a).order? = none) : Closes a r s where
  ends result _ := by
    rw [hafter]
    exact h.1.self
  fails _ _ := h.1.self
  stored o ho := by cases horder.symm.trans ho

/-! ## Fragments that are set -/

/-- A value was given to a fragment if the call gave true; otherwise nothing was. -/
def IsSet (given : Option Request) (f : Fragment) (content : f.Content) (r : Except Exit Bool) (s : Sheet) : Prop :=
  match r with
  | .ok true => Holds given { s with draft := s.draft.set f content }
  | _ => s.Holds given

/-- A setter closes if what it gives to its fragment is drafted where it gives true. -/
theorem closes_of_isSet {a : Action} {f : Fragment} {content : f.Content} {r : Except Exit Bool}
    (h : IsSet given f content r s) (hset : ∀ d : Draft, d.after a (.truth true) = d.set f content)
    (hnot : ∀ d : Draft, d.after a (.truth false) = d) (horder : (Errand.action a).order? = none) :
    Closes a (r.map .truth) s := by
  refine ⟨fun result hr => ?_, fun e hr => ?_, fun o ho => by cases horder.symm.trans ho⟩
  · cases r with
    | error e => cases hr
    | ok b =>
      cases hr
      cases b with
      | true =>
        rw [hset]
        exact Holds.self h
      | false =>
        rw [hnot]
        exact Holds.self h
  · cases r with
    | error e => exact Holds.self h
    | ok b => cases hr

theorem meets_put (hs : s.Holds given) (hg : g.applies = false) {f : Fragment} (hf : f ≠ .shards) (content : f.Content) :
    Op.Meets (drafting g) (IsSet given f content) (do
      Configure.modify fun t => (t.put f content).flag f
      return true) s := by
  refine meets_bind.mpr (meets_modify (fun _ => rfl) ?_)
  refine ⟨?_, hs.forgets.of_hooks rfl, hs.given⟩
  rw [draft_after fun happlies => by cases hg.symm.trans happlies]
  exact hs.fragments.set hf content

theorem meets_setName {f : Fragment} (hs : s.Holds given) (name : Value) {content : f.Content} {set : String → Op Bool}
    (hset : ∀ text, name = .text text → (set (trimmed text)).Meets (drafting g) (IsSet given f content) s) :
    Op.Meets (drafting g) (IsSet given f content) (do
      let name ← Configure.trimmedName name
      if name = "" then return false
      else set name) s := by
  cases name with
  | text text =>
    have hname : Configure.trimmedName (.text text) = pure (trimmed text) := rfl
    have hmeets := hset text rfl
    rw [hname]
    generalize trimmed text = name at hmeets
    refine Op.meets_bind.mpr (Op.meets_pure.mpr ?_)
    rw [Op.after_ok]
    split
    · exact hs
    · exact hmeets
  | _ => exact hs

theorem upholds_push {c : Call} (hc : IsPlain g c.message) :
    (Configure.push c).Upholding (drafting g) (Holds given) := by
  refine upholds_bind upholds_session fun _ _ => upholds_unless (b := ()) (upholds_rescue ?_ fun f => ?_)
  · exact upholds_bind (upholds_write hc) fun _ _ => upholds_pure trivial
  · exact upholds_bind (upholds_announce _ _) fun _ _ => upholds_pure trivial

/-- **A shared fragment is set**, for a sharded source once the service has taken it. -/
theorem meets_setShared (hs : s.Holds given) (hg : g.applies = false) {f : Fragment} (hf : f ≠ .shards)
    (content : f.Content) (sharded : Bool) {c : Call} (hc : IsPlain g c.message) :
    (Configure.setShared sharded c fun t => (t.put f content).flag f).Meets (drafting g) (IsSet given f content) s := by
  have hset : ∀ (taken : Bool) (s' : Sheet), s'.Holds given → Op.Meets (drafting g) (IsSet given f content) (do
      if taken then Configure.modify fun t => (t.put f content).flag f
      return taken) s' := fun taken s' hs' => by
    cases taken with
    | true => exact meets_put hs' hg hf content
    | false => exact hs'
  cases sharded with
  | false => exact hset true s hs
  | true =>
    refine meets_bind.mpr ((upholds_push hc s hs).mono fun r s' hr => ?_)
    cases r with
    | error e => exact hr.1
    | ok taken => exact hset taken s' hr.1

/-! ## Shards that are handed over -/

/-- **Shards were taken** that the fragments do not hold yet. -/
structure Taken (given : Option Request) (shards : List Shard) (s : Sheet) : Prop where
  drafted : ∃ d : Draft, d.Agrees s.site.session.fragments ∧ s.draft = d.set .shards shards
  forgets : s.site.session.Forgets
  given : s.given = given

theorem Taken.retraced {shards : List Shard} (h : s.Taken given shards) (trace : Trace) :
    (s.retraced g trace).Taken given shards := by
  obtain ⟨d, hd, hdraft⟩ := h.drafted
  exact ⟨⟨d, hd, (draft_retraced trace).trans hdraft⟩, h.forgets.of_hooks rfl, h.given⟩

/-- The shards that the service was handed are drafted if it took them. -/
def IsTaken (given : Option Request) (shards : List Shard) {α : Type} (took : α → Bool) (r : Except Exit α) (s : Sheet) : Prop :=
  match r with
  | .ok a => if took a then s.Taken given shards else s.Holds given
  | .error _ => s.Holds given

theorem IsTaken.retraced {shards : List Shard} {took : α → Bool} {r : Except Exit α}
    (h : IsTaken given shards took r s) (trace : Trace) : IsTaken given shards took r (s.retraced g trace) := by
  cases r with
  | error e => exact Holds.retraced h trace
  | ok a =>
    unfold IsTaken at h ⊢
    dsimp only at h ⊢
    split
    next htook =>
      rw [if_pos htook] at h
      exact h.retraced trace
    next htook =>
      rw [if_neg htook] at h
      exact h.retraced trace

/-- **Shards that can be submitted are handed over**, and taken unless the service refuses them. -/
theorem meets_sendShards {shards : List Shard} (hs : s.Holds given) (hvalid : validateShards shards = .ok ()) :
    (Call.setShards shards).send.Meets (drafting g) (IsTaken given shards fun a => !a.isError) s := by
  refine meets_traced fun span trace => meets_unless (a := ()) (fun trace => (hs.retraced _).retraced trace)
    (meets_bind.mpr (meets_perform.mpr ⟨⟨hs.given ▸ hs.retraced _, fun shards' hshards => ?_, fun hlaunch => ?_⟩,
      fun w s' hr => ?_⟩))
  · cases hshards.symm.trans (Call.shards?_setShards shards)
    exact hvalid
  · simp [Call.message, Message.isLaunch] at hlaunch
  · have hleads := leads_other (e := .send (Call.setShards shards).message) rfl hr
    have hgiven : s'.given = given := (hleads.same fun m o hm hlaunch => by
      cases hm
      simp [Call.message, Message.isLaunch] at hlaunch).trans hs.given
    obtain ⟨d, x, hd, hdraft⟩ := hleads.waited rfl
    have hrefused : s'.draft = d → s'.Holds given := fun h => ⟨h ▸ hd.fragments, hd.forgets, hgiven⟩
    cases w with
    | cancelled => exact fun trace => (hrefused hdraft).retraced trace
    | back o =>
      cases o with
      | answered a =>
        rw [Draft.seeing_answered (Call.shards?_setShards shards)] at hdraft
        have htaken : IsTaken given shards (fun a : Answer => !a.isError) (.ok a) s' := by
          show if (!a.isError) = true then _ else _
          by_cases ha : a.isError = true
          · rw [if_pos ha] at hdraft
            rw [ha]
            exact hrefused hdraft
          · rw [if_neg ha] at hdraft
            rw [Bool.not_eq_true] at ha
            rw [ha]
            exact ⟨⟨d, hd.fragments, hdraft⟩, hd.forgets, hgiven⟩
        refine meets_bind.mpr (meets_bind.mpr (meets_lift.mpr (meets_update (fun _ => Site.enters_same rfl rfl) ?_)))
        exact fun trace => IsTaken.retraced (htaken.retraced _) trace
      | unreachable failure text =>
        refine meets_bind.mpr (meets_bind.mpr (meets_lift.mpr (meets_update (fun _ => Site.enters_same rfl rfl) ?_)))
        exact fun trace => ((hrefused hdraft).retraced _).retraced trace
      | failed f => exact fun trace => (hrefused hdraft).retraced trace

/-- **Shards that can be submitted are sent to the service.** -/
theorem meets_pushShards {shards : List Shard} (hs : s.Holds given) (hvalid : validateShards shards = .ok ()) :
    (Configure.push (.setShards shards)).Meets (drafting g) (IsTaken given shards id) s := by
  have hreport : ∀ (f : ServiceFault) (s' : Sheet), s'.Holds given →
      Op.Meets (drafting g) (IsTaken given shards id) (do
        Op.announce f.message .error
        return false) s' := fun f s' hs' =>
    ((upholds_bind (upholds_announce _ _) fun _ _ => upholds_pure (p := fun b => b = false) rfl) s' hs').mono
      fun r s'' hr => by
        cases r with
        | error e => exact hr.1
        | ok b =>
          obtain rfl := hr.2 b rfl
          exact hr.1
  have hrescued : ∀ (e : Exit) (s' : Sheet), s'.Holds given →
      rescued (drafting g) (IsTaken given shards id) (fun f => do
        Op.announce f.message .error
        return false) (.error e : Except Exit Bool) s' := fun e s' hs' => by
    unfold rescued
    split
    · exact hreport _ s' hs'
    · exact hs'
  refine meets_bind.mpr (meets_session (meets_unless (a := ()) hs (meets_rescue.mpr ?_)))
  refine meets_bind.mpr (meets_bind.mpr ((meets_sendShards hs hvalid).mono fun r s' hr => ?_))
  cases r with
  | error e => exact hrescued e s' hr
  | ok a =>
    replace hr : if (!a.isError) = true then s'.Taken given shards else s'.Holds given := hr
    show (Call.ofService (a.check (.setShards shards))).Meets (drafting g) _ s'
    rw [Answer.check]
    cases ha : a.isError with
    | true =>
      rw [ha] at hr
      exact hreport _ s' hr
    | false =>
      rw [ha] at hr
      exact hr

/-- **The collected shards are checked and sent**, and set if the service takes them. -/
theorem meets_finalizeShards (hs : s.Holds given) (hg : g.applies = false) :
    Configure.finalizeShards.Meets (drafting g) (Upheld (Holds given) fun _ => True) s := by
  refine meets_bind.mpr (meets_session ?_)
  rw [Op.after_ok]
  generalize s.site.session.wizard.shards = shards
  refine meets_bind.mpr (meets_ofExcept.mpr ?_)
  cases hvalid : validateShards shards with
  | error f => exact upheld_error hs
  | ok _ =>
    refine meets_bind.mpr (meets_traced fun span trace => ?_)
    refine (meets_pushShards (hs.retraced trace) hvalid).mono fun r s' hr trace => ?_
    have hr' := hr.retraced (g := g) trace
    cases r with
    | error e => exact upheld_error hr'
    | ok taken =>
      cases taken with
      | false => exact upheld_ok hr' trivial
      | true =>
        obtain ⟨d, hd, hdraft⟩ := Taken.drafted hr'
        refine meets_bind.mpr (meets_modify (fun _ => rfl) (upheld_ok ?_ trivial))
        refine ⟨?_, (Taken.forgets hr').of_hooks rfl, Taken.given (s := s'.retraced g trace) hr'⟩
        rw [draft_after (fun happlies => by cases hg.symm.trans happlies), hdraft]
        exact hd.setShards hvalid

/-! ## All that is asked of the configuration -/

theorem upholds_aside {f : Session → Session} (hf : ∀ t, (f t).fragments = t.fragments ∧ (f t).hooks = t.hooks ∧
      (f t).state = t.state ∧ (f t).context = t.context) :
    (Op.modify f).Upholding (drafting g) (Holds given) := by
  refine fun s hs => meets_modify (fun _ => ?_) (upheld_ok (hs.after (hf _).1 (hf _).2.1 fun _ h => ?_) trivial)
  · rw [Session.record, Session.record, (hf _).2.2.1, (hf _).2.2.2]
  · rwa [show (s.site.onSession f).session.state = s.site.session.state from (hf _).2.2.1] at h

theorem upholds_modifyWizard (f : Wizard → Wizard) :
    (Configure.modifyWizard f).Upholding (drafting g) (Holds given) := upholds_aside fun _ => ⟨rfl, rfl, rfl, rfl⟩

theorem upholds_given {x : Except Fault α} : (Op.ofExcept x).Upholding (drafting g) (Holds given) :=
  upholds_ofExcept fun _ _ => trivial

theorem upholds_wizard (x : Except Fault (Wizard × α)) :
    Op.Upholding (drafting g) (Holds given) (do
      let (w, a) ← Op.ofExcept x
      Configure.modifyWizard fun _ => w
      return a) :=
  upholds_bind upholds_given fun _ _ => upholds_bind (upholds_modifyWizard _) fun _ _ => upholds_pure trivial

theorem upholds_quietly {op : Op Unit} (h : op.Upholding (drafting g) (Holds given)) :
    op.quietly.Upholding (drafting g) (Holds given) := upholds_bind h fun _ _ => upholds_pure trivial

theorem closes_upholding {a : Action} {op : Op Result} (h : op.Upholding (drafting g) (Holds given))
    (hs : s.Holds given) (hafter : ∀ (d : Draft) result, d.after a result = d)
    (horder : (Errand.action a).order? = none) : op.Meets (drafting g) (Closes a) s :=
  (h s hs).mono fun _ _ hr => closes_of_upheld hr hafter horder

/-- Who sets a fragment closes, if what it gives to it is drafted where it gives true. -/
theorem closes_setting {a : Action} {op : Op Bool} {f : Fragment} {content : f.Content}
    (h : op.Meets (drafting g) (IsSet given f content) s)
    (hset : ∀ d : Draft, d.after a (.truth true) = d.set f content)
    (hnot : ∀ d : Draft, d.after a (.truth false) = d) (horder : (Errand.action a).order? = none) :
    (Result.truth <$> op).Meets (drafting g) (Closes a) s :=
  meets_map.mpr (h.mono fun _ _ hr => closes_of_isSet hr hset hnot horder)

/-- **What is asked of the configuration keeps to the draft.** -/
theorem closes_configure (a : ConfigureAction) (hs : s.Holds given) :
    a.op.Meets (drafting (.action (.configure a))) (Closes (.configure a)) s := by
  cases a with
  | target target transfer =>
    refine closes_setting (Op.Meets.mono (P := IsSet given .target target) ?_ fun _ _ h => h) (fun _ => rfl)
      (fun _ => rfl) rfl
    unfold Configure.setTarget
    split
    · exact meets_put hs rfl (f := .target) Fragment.noConfusion target
    · exact hs
  | sourceProfile name =>
    refine closes_setting (Op.Meets.mono (P := IsSet given .sourceProfile name.stripped) ?_ fun _ _ h => h)
      (fun _ => rfl) (fun _ => rfl) rfl
    refine meets_setName hs name fun text htext => ?_
    subst htext
    exact meets_put hs rfl (f := .sourceProfile) Fragment.noConfusion (Value.text text).stripped
  | targetProfile name =>
    refine closes_setting (Op.Meets.mono (P := IsSet given .targetProfile name.stripped) ?_ fun _ _ h => h)
      (fun _ => rfl) (fun _ => rfl) rfl
    refine meets_setName hs name fun text htext => ?_
    subst htext
    exact meets_put hs rfl (f := .targetProfile) Fragment.noConfusion (Value.text text).stripped
  | metadata path =>
    refine closes_setting (Op.Meets.mono (P := IsSet given .metadataPath path) ?_ fun _ _ h => h) (fun _ => rfl)
      (fun _ => rfl) rfl
    unfold Configure.setMetadata
    split
    · exact meets_put hs rfl (f := .metadataPath) Fragment.noConfusion path
    · exact hs
  | streaming tuning sharded =>
    exact closes_setting (meets_setShared hs rfl (f := .streaming) Fragment.noConfusion tuning sharded
      ⟨rfl, fun _ => rfl⟩) (fun _ => rfl) (fun _ => rfl) rfl
  | staging tuning sharded =>
    exact closes_setting (meets_setShared hs rfl (f := .staging) Fragment.noConfusion tuning sharded
      ⟨rfl, fun _ => rfl⟩) (fun _ => rfl) (fun _ => rfl) rfl
  | compute tuning sharded =>
    exact closes_setting (meets_setShared hs rfl (f := .compute) Fragment.noConfusion tuning sharded
      ⟨rfl, fun _ => rfl⟩) (fun _ => rfl) (fun _ => rfl) rfl
  | shardEntry entry =>
    exact closes_upholding (upholds_map (p := fun _ => True) (upholds_bind upholds_session fun _ _ =>
      upholds_wizard _) fun _ _ => trivial) hs (fun _ _ => rfl) rfl
  | shardText text =>
    exact closes_upholding (upholds_map (p := fun _ => True) (upholds_bind upholds_session fun _ _ => upholds_bind
      (upholds_modifyWizard _) fun _ _ => upholds_given) fun _ _ => trivial) hs (fun _ _ => rfl) rfl
  | addShard shard =>
    exact closes_upholding (upholds_quietly (upholds_bind upholds_session fun _ _ => upholds_bind upholds_given
      fun _ _ => upholds_modifyWizard _)) hs (fun _ _ => rfl) rfl
  | clearShards => exact closes_upholding (upholds_quietly (upholds_modifyWizard _)) hs (fun _ _ => rfl) rfl
  | finalize =>
    exact meets_map.mpr ((meets_finalizeShards hs rfl).mono fun r s' hr => closes_of_upheld (p := fun _ => True)
      ⟨hr.1, fun _ _ => trivial⟩ (fun _ _ => rfl) rfl)
  | engine name =>
    exact closes_upholding (upholds_bind (upholds_modifyWizard _) fun _ _ => upholds_pure trivial) hs
      (fun _ _ => rfl) rfl
  | isSet fragment =>
    exact closes_upholding (upholds_bind upholds_session fun _ _ => upholds_pure trivial) hs (fun _ _ => rfl) rfl
  | reset =>
    refine meets_bind.mpr (meets_modify (fun _ => rfl) ?_)
    refine ⟨fun result _ => ?_, (fun e he => by cases he), (fun o ho => by cases ho)⟩
    exact ⟨Draft.agrees_blank rfl rfl, hs.forgets.of_hooks rfl, rfl⟩
  | snapshot =>
    exact closes_upholding (upholds_bind upholds_session fun _ _ => upholds_pure trivial) hs (fun _ _ => rfl) rfl

end Sheet

end Cutover
