import Cutover.Proofs.Control.Abreast
import Cutover.Proofs.Control.Asking
import Cutover.Proofs.Control.Viewing

/-!
# What a user is told of the resources

A fetch that fails while a report is applied does not stop the run, but it is not passed over either: the user
is told once, for good, and the session keeps the fault in mind.

* `Board.alarms`: what stays on the board until the user dismisses it;
* `Tally`: what is told, how many fetches were counted, and the fault in mind;
* `Telling.Told`: **one notice for each fetch that failed**;
* `Telling.pieces`, `Telling.frame`: what is upheld of the tally by the pieces of a report.
-/

namespace Cutover

namespace Board

variable (b : Board) (now : Int) (message : Value) (level : Level)

/-- The messages that stay until the user dismisses them. -/
def alarms (b : Board) : List Value := (b.active.filter fun n => !n.isTransient).map Notice.message

@[simp] theorem alarms_transient : (b.transient now message level).1.alarms = b.alarms := by
  unfold transient
  split
  · rfl
  · simp [alarms, post, Notice.isTransient]

@[simp] theorem alarms_persistent : (b.persistent now message level).1.alarms = b.alarms ++ [message] := by
  simp [alarms, persistent, post, Notice.isTransient]

end Board

/-- The fault that an answer to a request for the resources makes, if it holds none. -/
def Outcome.fetchFault? (o : Outcome) : Option ServiceFault :=
  match o.resources with
  | .error (.client (.service f)) => some f
  | _ => none

/-- What a session has told its user for good, how many fetches it counted, the fault it has in mind, and whether
it fetches at all. -/
structure Tally where
  alarms : List Value
  fetched : Nat
  fault : Option ServiceFault
  isBare : Bool

/-- The tally of a session. -/
def Session.tally (s : Session) : Tally := ⟨s.board.alarms, s.fetchCount, s.lastFetchFault, s.isBare⟩

/-- The view that shows the tally. -/
def View.tally : View Tally := ⟨Session.tally, fun _ _ _ _ _ => rfl⟩

/-- It has nothing to do with the tally. -/
def Concern.isUntold : Concern → Bool
  | board | counts | run => false
  | _ => true

namespace Telling

variable {α : Type} {S : Surroundings} {cs : List Concern} {s s' : Scene} {o : Outcome} {t₀ t t' : Tally}

/-- **The user was told once of each fetch that failed** since some moment, when the service answers every
request for the resources alike; and the last of these faults is kept in mind. -/
structure Told (o : Outcome) (t₀ t : Tally) : Prop where
  counted : t₀.fetched ≤ t.fetched
  told : t.alarms = t₀.alarms ++ (o.fetchFault?.toList.flatMap fun f =>
    List.replicate (t.fetched - t₀.fetched) (.text f.message))
  fault : t.fault = if t₀.fetched < t.fetched then o.fetchFault?.or t₀.fault else t₀.fault
  isBare : t.isBare = t₀.isBare
  bare : t.isBare = true → t.fetched = t₀.fetched

theorem Told.refl (o : Outcome) (t : Tally) : Told o t t where
  counted := Nat.le_refl _
  told := by cases o.fetchFault? <;> simp
  fault := (if_neg (Nat.lt_irrefl _)).symm
  isBare := rfl
  bare _ := rfl

theorem Told.failed {f : ServiceFault} (h : Told o t₀ t) (hf : o.fetchFault? = some f) (hwhole : t.isBare = false) :
    Told o t₀ { t with alarms := t.alarms ++ [.text f.message], fetched := t.fetched + 1, fault := some f } where
  counted := Nat.le_succ_of_le h.counted
  told := by
    have htold := h.told
    simp only [hf, Option.toList_some, List.flatMap_singleton] at htold ⊢
    rw [htold, Nat.succ_sub h.counted, List.replicate_succ', List.append_assoc]
  fault := by
    rw [if_pos (Nat.lt_succ_of_le h.counted), hf]
    rfl
  isBare := h.isBare
  bare hbare := nomatch hwhole.symm.trans hbare

theorem Told.fetched (h : Told o t₀ t) (hf : o.fetchFault? = none) (hwhole : t.isBare = false) :
    Told o t₀ { t with fetched := t.fetched + 1 } where
  counted := Nat.le_succ_of_le h.counted
  told := by
    have htold := h.told
    simp only [hf, Option.toList_none, List.flatMap_nil] at htold ⊢
    exact htold
  fault := by
    have hfault := h.fault
    rw [hf, Option.none_or, ite_self] at hfault ⊢
    exact hfault
  isBare := h.isBare
  bare hbare := nomatch hwhole.symm.trans hbare

/-- The tally of a scene is as a predicate says. -/
def Says (J : Tally → Prop) (s : Scene) : Prop := J (View.tally.shows s)

variable {J : Tally → Prop}

theorem Says.of_eq (h : Says J s) (hsame : View.tally.shows s' = View.tally.shows s) : Says J s' := by
  rw [Says, hsame]
  exact h

theorem hosts (hcs : cs.all Concern.isUntold = true) : Hosts S.sole Scene.site (Says J) cs where
  look s hs := by
    refine ⟨trivial, ?_⟩
    rintro _ _ ⟨⟨⟨rfl, rfl⟩, -⟩, -⟩
    exact ⟨hs, rfl, rfl⟩
  change s y hs hy := by
    refine ⟨trivial, ?_⟩
    rintro _ _ ⟨⟨rfl, -⟩, -⟩
    have hboard : y.session.board = s.site.session.board :=
      hy.same .board (Concern.not_mem_of_all hcs rfl)
    have hcounted : y.session.fetchCount = s.site.session.fetchCount :=
      congrArg Prod.fst (hy.same .counts (Concern.not_mem_of_all hcs rfl))
    have hfault : y.session.lastFetchFault = s.site.session.lastFetchFault :=
      congrArg (fun x => x.1.2.2) (hy.same .run (Concern.not_mem_of_all hcs rfl))
    have hbare : y.session.isBare = s.site.session.isBare := congrArg (fun x => x.2.1) hy.setup
    have htally : y.session.tally = s.site.session.tally := by
      rw [Session.tally, hboard, hcounted, hfault, hbare, Session.tally]
    exact ⟨hs.of_eq htally, rfl⟩
  other s e hs he _ := ⟨trivial, fun _ _ hr => hs.of_eq (View.tally.shows_of_still (hr.2 he))⟩

open Op

theorem ofTouches {op : Op α} (hop : op.Touches cs) (hcs : cs.all Concern.isUntold = true := by rfl) :
    op.Upholding S.sole (Says J) := hop.upholds (hosts hcs)

theorem plain {op : Op α} (hop : op.Touches Concern.gates) : op.Upholding S.sole (Says J) := ofTouches hop

theorem session : session.Upholding S.sole (Says J) := plain touches_session

theorem upheldSame {p : α → Prop} (r : Except Exit α) (s s' : Scene) (h : Upheld (Says J) p r s)
    (hsame : View.tally.shows s' = View.tally.shows s) : Upheld (Says J) p r s' := ⟨h.1.of_eq hsame, h.2⟩

theorem ofTraced {span : Span} {w : Nat → Op α} (hw : ∀ id, (w id).Upholding S.sole (Says J)) :
    (traced span w).Upholding S.sole (Says J) := fun _ hs =>
  View.tally.meets_traced fun id s₁ hsame => (hw id s₁ (Says.of_eq hs hsame)).mono
    fun r s₂ hr s₃ hs₃ => upheldSame r s₂ s₃ hr hs₃

theorem ofGuarded {g : GateName} {op : Op α} (hop : op.Upholding S.sole (Says J)) :
    (guarded g op).Upholding S.sole (Says J) :=
  upholds_bind (plain (touches_enter (Concern.mem_gates g))) fun _ _ => upholds_ensure hop fun _ hs =>
    ⟨trivial, fun _ _ hr => hs.of_eq (View.tally.shows_of_still (hr.2 rfl))⟩

theorem modify {f : Session → Session} (hf : ∀ s, (f s).tally = s.tally) :
    (Op.modify f).Upholding S.sole (Says J) := fun _ hs =>
  View.tally.meets_modify fun _ hs' => upheld_ok (hs.of_eq (hs'.trans (hf _))) trivial

theorem announce (text : String) (level : Level) : (announce text level).Upholding S.sole (Says J) := by
  refine fun s hs => View.tally.meets_announce fun s' hs' => ⟨hs.of_eq (hs'.trans ?_), fun _ _ => trivial⟩
  show Session.tally { s.site.session with board := _ } = s.site.session.tally
  rw [Session.tally, Board.alarms_transient, Session.tally]

/-! ## Fetching -/

/-- **A fetch** gives what is kept, or is counted; then it gives what the answer holds, or the fault that it
makes. -/
theorem meets_fetch {Q : Except Exit (List Resource) → Scene → Prop}
    (hkept : ∀ items s', View.tally.shows s' = View.tally.shows s → Q (.ok items) s')
    (hasked : ∀ o s', S.answers Call.getResources.message o →
      View.tally.shows s' = { View.tally.shows s with fetched := (View.tally.shows s).fetched + 1 } →
      Q (o.resources.mapError .fault) s') :
    Reconcile.fetch.Meets S.sole Q s := by
  have hopen : ∀ {r : Except Exit (List Resource)} {s₁ : Scene},
      (∀ s', View.tally.shows s' = View.tally.shows s₁ → Q r s') →
      (Work.perform (.release .fetch)).Meets S.sole (fun _ t => Q r t) s₁ :=
    fun hr => ⟨trivial, fun _ s' hs' => hr s' (View.tally.shows_of_still (hs'.2 rfl))⟩
  refine meets_bind.mpr (meets_bind.mpr (View.tally.meets_perform rfl fun r s₁ hr h₁ => ?_))
  obtain rfl : r = .back () := hr.1.1
  refine meets_unwrap_back.mpr (meets_ensure.mpr (meets_bind.mpr (View.meets_session ?_)))
  rw [after_ok]
  cases s₁.site.session.resources with
  | some items => exact hopen fun s' hs' => hkept items s' (hs'.trans h₁)
  | none =>
    refine meets_bind.mpr (View.tally.meets_traced fun id s₂ h₂ => ?_)
    refine meets_bind.mpr (View.tally.meets_modify fun s₃ h₃ => ?_)
    have hcounted : View.tally.shows s₃ = { View.tally.shows s with fetched := (View.tally.shows s).fetched + 1 } := by
      rw [← h₁, ← h₂]
      exact h₃
    refine meets_bind.mpr (View.tally.meets_readResources fun o s₄ ho h₄ => ?_)
    have hQ : ∀ s', View.tally.shows s' = View.tally.shows s₄ → Q (o.resources.mapError .fault) s' :=
      fun s' hs' => hasked o s' ho (hs'.trans (h₄.trans hcounted))
    rw [Outcome.resources] at hQ
    cases hshards : o.shards with
    | error f =>
      rw [hshards] at hQ
      exact fun s₅ h₅ => hopen fun s' hs' => hQ s' (hs'.trans h₅)
    | ok m =>
      rw [hshards] at hQ
      refine meets_bind.mpr (View.tally.meets_tag fun s₅ h₅ s₆ h₆ => ?_)
      refine meets_bind.mpr (View.tally.meets_modify fun s₇ h₇ => hopen fun s' hs' => hQ s' ?_)
      exact hs'.trans (h₇.trans (h₆.trans h₅))

/-- The service gives this answer to every request for the resources, which brings them or the fault that they
could not be fetched. -/
structure Conclusive (S : Surroundings) (o : Outcome) : Prop where
  answers : ∀ o', S.answers Call.getResources.message o' → o' = o
  conclusive : o.IsConclusive

/-- **The user is told of a fetch that fails**, and the fault is kept in mind. -/
theorem reconcileOnce (hS : Conclusive S o) : Control.reconcileOnce.Upholding S.sole (Says (Told o t₀)) := by
  intro s hs
  refine meets_bind.mpr (View.meets_session ?_)
  rw [after_ok]
  split
  next hdue =>
    have hwhole : (View.tally.shows s).isBare = false := by
      rw [Bool.and_eq_true, Bool.not_eq_true'] at hdue
      exact hdue.1
    refine meets_rescue.mpr (meets_bind.mpr (meets_fetch (fun items s₁ h₁ => ?_) fun o' s₁ ho h₁ => ?_))
    · exact View.tally.meets_modify fun s₂ h₂ => upheld_ok (hs.of_eq (h₂.trans h₁)) trivial
    · obtain rfl := hS.answers o' ho
      have hfault : o'.fetchFault? = match o'.resources with
        | .error (.client (.service f)) => some f
        | _ => none := rfl
      cases hr : o'.resources with
      | ok items =>
        rw [hr] at hfault
        refine View.tally.meets_modify fun s₂ h₂ => upheld_ok ?_ trivial
        have htally := h₂.trans h₁
        rw [Says, htally]
        exact Told.fetched hs hfault hwhole
      | error f =>
        obtain ⟨g, rfl, hkind⟩ := hS.conclusive f hr
        rw [hr] at hfault
        have hhandled : ∀ {op op' : Op Unit}, op.Meets S.sole (Upheld (Says (Told o' t₀)) fun _ => True) s₁ →
            (if g.kind = .resourceFetch then op else op').Meets S.sole (Upheld (Says (Told o' t₀)) fun _ => True) s₁ :=
          fun hop => by rw [if_pos hkind]; exact hop
        refine hhandled (meets_bind.mpr (View.tally.meets_modify fun s₂ h₂ =>
          View.tally.meets_alarm fun s₃ h₃ => upheld_ok ?_ trivial))
        have hkept : View.tally.shows s₂ = { View.tally.shows s₁ with fault := some g } := h₂
        have htold : View.tally.shows s₃ = { View.tally.shows s₂ with
            alarms := (View.tally.shows s₂).alarms ++ [.text g.message] } := by
          rw [h₃]
          show (⟨(s₂.site.session.board.persistent _ _ _).1.alarms, _, _, _⟩ : Tally) = _
          rw [Board.alarms_persistent]
          rfl
        rw [Says, htold, hkept, h₁]
        exact Told.failed hs hfault hwhole
  next => exact upheld_ok hs trivial

theorem frame : Frame S.sole (Says J) where
  ofTouches hop := ofTouches hop
  ofTraced := ofTraced
  ofGuarded := ofGuarded

theorem pieces (hS : Conclusive S o) : Pieces S.sole (Says (Told o t₀)) where
  toFrame := frame
  onState _ := modify fun _ => rfl
  announce := announce
  reconcileOnce := reconcileOnce hS

/-! ## Reports of a failure -/

/-- So many fetches were counted, and this fault is kept in mind. -/
def Minds (k : Nat) (x : Option ServiceFault) (t : Tally) : Prop := t.fetched = k ∧ t.fault = x

/-- **A run that fails asks for no resources**, and goes on to have the same fault in mind. -/
theorem minds_failRun (k : Nat) (x : Option ServiceFault) (errorText : Value) :
    (Control.failRun errorText).Upholding S.sole (Says (Minds k x)) := by
  refine upholds_bind (modify fun _ => rfl) fun _ _ => upholds_bind session fun _ _ =>
    upholds_bind (ofTouches (Control.touches_runHooks _ _)) fun _ _ => upholds_bind session fun _ _ =>
      upholds_bind (ofTouches (Keep.touches_clear _)) fun _ _ s hs => ?_
  refine View.tally.meets_alarm fun s' hs' => upheld_ok ?_ trivial
  rw [Says, hs']
  exact hs

end Telling

end Cutover
