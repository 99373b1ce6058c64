import Cutover.Proofs.Control.Lawful
import Cutover.Session.Background

/-!
# Work around the run is lawful

The poll loop, the readers, and what a user asks of a session as a whole keep to the same accord as the
operations on the run.

* `Accord.keepsBackground`: the work in the background;
* `Action.renews`: the actions that may begin anew;
* `Action.Lawful`, `Accord.keeps_action`: **every such action keeps to the accord**.
-/

namespace Cutover

/-- The action may begin a run, take one up or forget one. -/
def Action.renews : Action → Bool
  | run (.begin ..) => true
  | run (.restore _) => true
  | run .reset => true
  | poll (.submit _) => true
  | whole .abandon => true
  | _ => false

/-- What may be asked of the run, of its poll loop and of its resources. A run that is taken up is one
that was saved. -/
def Action.Lawful : Action → Prop
  | run (.restore r) => Accord.Saved r
  | run _ => True
  | poll _ => True
  | whole .cancel => True
  | whole .abandon => True
  | whole .reconcileNow => True
  | whole .standing => True
  | whole .kept => True
  | whole .forget => True
  | whole .close => True
  | _ => False

namespace Accord

variable {shown : List Resource → Prop} {anew : Bool} {α : Type} {p : α → Prop}

/-! ## Polling -/

theorem keeps_applyMarked (report : Status) : (lawful shown).Keeping anew (Poll.applyMarked report) := by
  refine keeps_bind (keeps_modify_blind fun _ => rfl) fun _ _ => ?_
  exact keeps_ensure (keeps_bind (keeps_apply report) fun _ _ => keeps_pure trivial)
    (keepsLast_update fun _ => rfl)

theorem keeps_read (span : Nat) : (lawful shown).Keeping anew (Poll.read span) := by
  refine keeps_rescue (keeps_map keeps_readStatus fun _ _ => trivial) fun f => ?_
  exact keeps_bind (keeps_modify_blind fun _ => rfl) fun _ _ => keeps_bind (keeps_tag _ _ _) fun _ _ =>
    keeps_bind (keeps_announce _ _) fun _ _ => keeps_pure trivial

theorem keeps_once : (lawful shown).Keeping anew Poll.once := by
  refine keeps_bind (keeps_modify_blind fun _ => rfl) fun _ _ => keeps_bind keeps_session fun x _ => ?_
  refine keeps_traced fun id => keeps_bind (keeps_read id) fun report _ => ?_
  cases report with
  | some report => exact keeps_applyMarked report
  | none => exact keeps_pure trivial

theorem keeps_onceOrReport : (lawful shown).Keeping anew Poll.onceOrReport := by
  refine keeps_tryCatch keeps_once fun e he => ?_
  cases e with
  | cancelled => exact keeps_throw he
  | fault f => exact keeps_bind (keeps_modify_blind fun _ => rfl) fun _ _ => keeps_announce _ _

theorem keeps_latchRaised : (lawful shown).Keeping anew Poll.latchRaised :=
  keeps_bind keeps_session fun _ _ => keeps_pure trivial

theorem keeps_round : (lawful shown).Keeping anew Poll.round := by
  refine keeps_bind keeps_latchRaised fun raised _ => ?_
  refine keeps_ite (fun _ => keeps_pure trivial) fun _ => keeps_bind keeps_session fun x _ => ?_
  refine keeps_bind (keeps_perform (.watchLatch _) rfl) fun r _ => ?_
  refine keeps_bind (keeps_unwrap fun _ _ => trivial) fun _ _ => keeps_bind keeps_session fun y _ => ?_
  exact keeps_ite (fun _ => keeps_pure trivial) fun _ =>
    keeps_bind keeps_onceOrReport fun _ _ => keeps_pure trivial

theorem keeps_isRunning : (lawful shown).Keeping anew Poll.isRunning := by
  refine keeps_bind keeps_session fun x _ => ?_
  cases x.pollTask with
  | some t => exact keeps_bind (keeps_perform (.hasEnded t) rfl) fun _ _ => keeps_pure trivial
  | none => exact keeps_pure trivial

theorem keeps_start : (lawful shown).Keeping anew Poll.start := by
  refine keeps_bind keeps_isRunning fun running _ => keeps_ite (fun _ => ?_) fun _ => keeps_pure trivial
  refine keeps_bind (keeps_modify_blind fun _ => rfl) fun _ _ => ?_
  exact keeps_bind (keeps_perform (.fork .pollLoop) rfl) fun _ _ => keeps_modify_blind fun _ => rfl

theorem keeps_joinQuietly (task : Nat) : (lawful shown).Keeping anew (Poll.joinQuietly task) := by
  refine keeps_bind (keeps_perform (.join task) rfl) fun r hr => ?_
  split
  · exact keeps_throw hr
  · exact keeps_pure trivial

theorem keeps_stop : (lawful shown).Keeping anew Poll.stop := by
  refine keeps_bind (keeps_perform .raiseLatch rfl) fun _ _ => keeps_bind keeps_session fun x _ => ?_
  cases x.pollTask with
  | none => exact keeps_pure trivial
  | some task =>
    have hforget : (lawful shown).Keeping anew (Op.modify fun s => { s with pollTask := none }) :=
      keeps_modify_blind fun _ => rfl
    have hjoin : (lawful shown).Keeping anew (do
        Poll.joinQuietly task
        Op.modify fun s => { s with pollTask := none }) :=
      keeps_bind (keeps_joinQuietly task) fun _ _ => hforget
    refine keeps_bind (keeps_perform (.hasEnded task) rfl) fun ended _ => ?_
    refine keeps_ite (fun _ => keeps_bind keeps_session fun y _ => ?_) fun _ => hforget
    exact keeps_ite (fun _ => keeps_bind (keeps_perform (.cancel task) rfl) fun _ _ => hjoin)
      fun _ => hjoin

theorem keeps_wait : (lawful shown).Keeping anew Poll.wait := by
  refine keeps_bind keeps_session fun x _ => ?_
  cases x.pollTask with
  | none => exact keeps_pure trivial
  | some task =>
    refine keeps_bind (keeps_perform (.join task) rfl) fun w hw => ?_
    refine keeps_bind (p := (lawful shown).Comes fun _ => True) (keeps_unwrap fun r hr => ?_) fun r hr => ?_
    · subst hr
      cases r with
      | ok _ => trivial
      | error e => exact hw
    · cases r with
      | ok _ => exact keeps_pure trivial
      | error e => exact keeps_throw hr

/-! ## Launching and conducting -/

theorem keeps_refuseSecond : (lawful shown).Keeping anew Launch.refuseSecond := by
  refine keeps_bind keeps_session fun x _ => keeps_ite (fun _ => ?_) fun _ => keeps_pure trivial
  exact keeps_bind keeps_snapshot fun _ _ => keeps_fail rfl

theorem keeps_forget : (lawful shown).Keeping anew Reconcile.forget :=
  keeps_modify fun _ hx => ⟨⟨hx.1, nofun⟩, .inr (.refl _)⟩

theorem keeps_request (r : Request) : (lawful shown).Keeping true (Launch.request r) := by
  have hsend (span : Nat) : (lawful shown).Keeping true (Launch.send r span) :=
    keeps_rescue (keeps_write _) fun f => keeps_bind (keeps_tag _ _ _) fun _ _ =>
      keeps_bind (keeps_announce _ _) fun _ _ => keeps_fail rfl
  have hbegin : (lawful shown).Keeping true (do
      let count : Int := r.shards.length
      let state ← Control.begin r.mode r.transfer (.whole count) (.whole (max 1 count))
      Poll.start
      return state) :=
    keeps_bind (keeps_begin _ _ _ _) fun _ _ => keeps_bind keeps_start fun _ _ => keeps_pure trivial
  have hsubmit : (lawful shown).Keeping true (Launch.submit r) := by
    refine keeps_traced fun id => keeps_bind (hsend id) fun _ _ => keeps_bind keeps_session fun x _ => ?_
    exact keeps_ite (fun _ => keeps_bind keeps_forget fun _ _ => hbegin) fun _ => hbegin
  refine keeps_bind keeps_refuseSecond fun _ _ => keeps_bind (keeps_modify_blind fun _ => rfl) fun _ _ => ?_
  refine keeps_bind (keeps_ensure hsubmit (keepsLast_update fun _ => rfl)) fun _ _ => ?_
  exact keeps_bind (keeps_announce _ _) fun _ _ => keeps_pure trivial

theorem keeps_abandon : (lawful shown).Keeping true Conduct.abandon :=
  keeps_bind keeps_stop fun _ _ => keeps_bind keeps_reset fun _ _ =>
    keeps_bind (keeps_modify_blind fun _ => rfl) fun _ _ => keeps_forget

/-- The resources that a user is given are those that the service answers, or were kept. -/
theorem keeps_reconcileNow : (lawful shown).Keeps anew shown Conduct.reconcileNow := by
  refine keeps_rescue keeps_reconcile fun f => ?_
  have hfail : (lawful shown).Keeps anew shown (Op.failClient (.service f)) := keeps_fail rfl
  exact keeps_ite (fun _ => keeps_bind (keeps_alarm _) fun _ _ => hfail) fun _ => hfail

theorem keeps_close : (lawful shown).Keeping anew Conduct.close :=
  keeps_bind keeps_stop fun _ _ => (keeps_perform (.publish none) rfl).keeping

/-! ## Work in the background -/

theorem keeps_leave (number : Nat) : (lawful shown).Keeping anew (Reader.leave number) :=
  keeps_modify_blind fun _ => rfl

theorem keeps_report (id : String) (state : Option RunState) :
    (lawful shown).Keeping anew (Reader.report id state) := keeps_update fun _ => rfl

theorem keeps_finish (number : Nat) (id : String) :
    (lawful shown).Keeping anew (Reader.finish number id) :=
  keeps_bind (keeps_leave number) fun _ _ => keeps_report id none

theorem keeps_give (number : Nat) (id : String) (state : RunState) :
    (lawful shown).Keeping anew (Reader.give number id state) := by
  refine keeps_bind (keeps_report id _) fun _ _ => keeps_ite (fun _ => ?_) fun _ => keeps_pure trivial
  exact keeps_bind (keeps_finish number id) fun _ _ => keeps_pure trivial

theorem keeps_readerBegin (number : Nat) (id : String) (includeCurrent : Bool) :
    (lawful shown).Keeping anew (Reader.begin number id includeCurrent) := by
  refine keeps_bind (keeps_modify_blind fun _ => rfl) fun _ _ => keeps_ite (fun _ => ?_) fun _ =>
    keeps_pure trivial
  refine keeps_bind keeps_session fun x hx => ?_
  have hcheck : x.state.check = .ok x.state := hx.1.sound.check_eq
  rw [hcheck]
  exact keeps_give number id x.state

theorem keeps_readerRound (number : Nat) (id : String) :
    (lawful shown).Keeping anew (Reader.round number id) := by
  refine keeps_bind (keeps_perform (.receive number) rfl) fun w _ => ?_
  split
  · exact keeps_give number id _
  · exact keeps_bind (keeps_finish number id) fun _ _ => keeps_pure trivial
  · exact keeps_bind (keeps_leave number) fun _ _ => keeps_throw fun _ h => by cases h

/-- **The work in the background is lawful.** -/
theorem keepsBackground (b : Background) :
    (lawful shown).Keeping anew b.begin ∧ (lawful shown).Keeping anew b.round := by
  cases b with
  | pollLoop => exact ⟨keeps_round, keeps_round⟩
  | reader number id includeCurrent =>
    exact ⟨keeps_readerBegin number id includeCurrent, keeps_readerRound number id⟩

/-! ## All actions -/

theorem gives_other {r : Result} (h : ∀ items, r ≠ .resources items)
    (h' : ∀ items, r ≠ .kept (some items)) : (lawful shown).gives r := by
  rintro items (rfl | rfl)
  · exact absurd rfl (h items)
  · exact absurd rfl (h' items)

theorem keeps_mapped {op : Op α} {f : α → Result} (h : (lawful shown).Keeping anew op)
    (hf : ∀ a, (∀ items, f a ≠ .resources items) ∧ ∀ items, f a ≠ .kept (some items)) :
    (lawful shown).Keeps anew (lawful shown).gives (f <$> op) :=
  keeps_map h fun a _ => gives_other (hf a).1 (hf a).2

theorem keeps_quiet {op : Op Unit} (h : (lawful shown).Keeping anew op) :
    (lawful shown).Keeps anew (lawful shown).gives (Op.quietly op) :=
  keeps_bind h fun _ _ =>
    keeps_pure (gives_other (fun _ hr => by cases hr) fun _ hr => by cases hr)

theorem keeps_resources {op : Op (List Resource)} (h : (lawful shown).Keeps anew shown op) :
    (lawful shown).Keeps anew (lawful shown).gives (Result.resources <$> op) := by
  refine keeps_map h fun items hitems other hother => ?_
  rcases hother with hother | hother
  · cases hother
    exact hitems
  · cases hother

theorem keeps_runAction {a : RunAction} (ha : (Action.run a).Lawful)
    (hanew : (Action.run a).renews = true → anew = true) :
    (lawful shown).Keeps anew (lawful shown).gives a.op := by
  cases a with
  | begin mode transfer shards instances =>
    rw [hanew rfl]
    exact keeps_mapped (keeps_begin mode transfer shards instances) fun _ => ⟨nofun, nofun⟩
  | restore r =>
    rw [hanew rfl]
    exact keeps_mapped (keeps_restore ha) fun _ => ⟨nofun, nofun⟩
  | apply report => exact keeps_mapped (keeps_apply report) fun _ => ⟨nofun, nofun⟩
  | reset =>
    rw [hanew rfl]
    exact keeps_quiet keeps_reset
  | reconcile => exact keeps_resources keeps_reconcile
  | close => exact keeps_quiet (keeps_perform (.publish none) rfl).keeping

theorem keeps_pollAction {a : PollAction} (hanew : (Action.poll a).renews = true → anew = true) :
    (lawful shown).Keeps anew (lawful shown).gives a.op := by
  cases a with
  | start => exact keeps_quiet keeps_start
  | stop => exact keeps_quiet keeps_stop
  | requestStop => exact keeps_quiet (keeps_perform .raiseLatch rfl).keeping
  | wait => exact keeps_quiet keeps_wait
  | once => exact keeps_quiet keeps_once
  | submit request =>
    rw [hanew rfl]
    exact keeps_mapped (keeps_request request) fun _ => ⟨nofun, nofun⟩

theorem keeps_wholeAction {a : WholeAction} (ha : (Action.whole a).Lawful)
    (hanew : (Action.whole a).renews = true → anew = true) :
    (lawful shown).Keeps anew (lawful shown).gives a.op := by
  cases a with
  | cancel => exact keeps_quiet keeps_stop
  | abandon =>
    rw [hanew rfl]
    exact keeps_quiet keeps_abandon
  | reconcileNow => exact keeps_resources keeps_reconcileNow
  | standing =>
    exact keeps_bind keeps_snapshot fun _ _ => keeps_bind keeps_session fun _ _ =>
      keeps_pure (gives_other nofun nofun)
  | kept =>
    refine keeps_bind keeps_session fun x hx => keeps_pure fun items hitems => ?_
    rcases hitems with hitems | hitems
    · cases hitems
    · exact hx.2 items (Result.kept.inj hitems)
  | forget => exact keeps_quiet keeps_forget
  | close => exact keeps_quiet keeps_close
  | _ => exact absurd ha id

/-- **Every action on a run is lawful.** -/
theorem keeps_action {a : Action} (ha : a.Lawful) (hanew : a.renews = true → anew = true) :
    (lawful shown).Keeps anew (lawful shown).gives a.op := by
  cases a with
  | run a => exact keeps_runAction ha hanew
  | poll a => exact keeps_pollAction hanew
  | whole a =>
    refine keeps_bind keeps_session fun x _ => ?_
    exact keeps_ite (fun _ => keeps_bind (p := fun _ => False) (keeps_fail rfl) nofun) fun _ =>
      keeps_wholeAction ha hanew
  | _ => exact absurd ha id

end Accord

end Cutover
