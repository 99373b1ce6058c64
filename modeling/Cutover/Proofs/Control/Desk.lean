import Cutover.Proofs.Control.Touching

/-!
# One request at a time

A request to launch a run is handed in at a desk. Work that finds the desk free and no run in progress takes
it, sends the request, and gives the desk back, however the request ends. Nobody else gives it back.

* `Desk`: the desk of a session, as work knows it;
* `desk`: **the contract of all work**: who sends a request has the desk, and no run is in progress;
* `Action.launches`, `Action.isPlain`: the actions that hand in requests, and all others that may be asked for;
* `Desk.keeps_action`, `Desk.keeps_background`: **all work keeps to it**.
-/

namespace Cutover

/-- A request to launch a run. -/
def Message.isLaunch (m : Message) : Bool := m.method = "POST" ∧ m.route = "/Migrate"

theorem Call.kind_of_isLaunch {c : Call} (h : c.message.isLaunch = true) : c.kind = .launch := by
  cases c with
  | submit r => rfl
  | _ => simp [message, Message.isLaunch] at h

/-- It has nothing to do with the desk, and with requests that are sent. -/
def Concern.isPlain : Concern → Bool
  | launching => false
  | call .launch => false
  | _ => true

/-- **The desk of a session**, as work knows it. -/
structure Desk where
  /-- This work has the desk. -/
  mine : Bool
  /-- Somebody had it when this work went on last. -/
  before : Bool
  site : Site

namespace Desk

/-- The desk is taken. -/
def isTaken (d : Desk) : Bool := d.site.session.launching

/-- A run is in progress. -/
def isRunning (d : Desk) : Bool := d.site.session.state.isRunning

/-- The site has changed: who takes the desk has it, and who gives it back does not. -/
def after (d : Desk) (y : Site) : Desk :=
  { d with
    mine := if y.session.launching = d.isTaken then d.mine else y.session.launching
    site := { y with now := d.site.now } }

/-- Others see to it that the state is sound, and that the desk stays with who has it. -/
structure Sound (d : Desk) : Prop where
  sound : d.site.session.state.Sound
  held : d.mine = true → d.isTaken = true

/-- All is in order, and this work has the desk or does not have it. -/
def Has (mine : Bool) (d : Desk) : Prop := d.Sound ∧ d.mine = mine

/-- What comes of an effect that is neither a look nor a change. -/
structure Leads (d : Desk) (e : Effect) (d' : Desk) : Prop where
  mine : d'.mine = d.mine
  sound : d'.Sound
  same : d'.before = d.before ∧ d'.isTaken = d.isTaken ∧ d'.isRunning = d.isRunning ∨
    e.isWait = true ∧ d'.before = d'.isTaken

end Desk

/-- **The contract of all work at a desk.** The state stays sound; only who has the desk gives it back; and who
sends a request has the desk, found it free, and finds no run in progress. -/
def desk : Contract Desk where
  allows d
    | .change y => y.session.state.Sound ∧
        (d.isTaken = true → y.session.launching = false → d.mine = true)
    | .send m => m.isLaunch = true → d.mine = true ∧ d.before = false ∧ d.isRunning = false
    | _ => True
  leads d
    | .look, r, d' => r = d.site ∧ d' = d
    | .change y, _, d' => d' = d.after y
    | e, _, d' => d.Leads e d'

namespace Desk

variable {α : Type} {d : Desk} {mine : Bool} {cs : List Concern}

/-! ## What has nothing to do with the desk -/

theorem isTaken_of_changes {y : Site} (h : d.site.Changes cs y) (hcs : cs.all Concern.isPlain = true) :
    y.session.launching = d.isTaken :=
  h.same .launching fun hmem => absurd (List.all_eq_true.mp hcs _ hmem) nofun

theorem after_of_taken {y : Site} (h : y.session.launching = d.isTaken) :
    d.after y = { d with site := { y with now := d.site.now } } := by
  rw [after, if_pos h]

theorem sound_of_changes {y : Site} (h : d.site.Changes cs y) (hd : d.site.session.state.Sound) :
    y.session.state.Sound := by
  rcases h.run with hsame | hstep
  · rw [show y.session.state = d.site.session.state from congrArg (·.1.1) hsame]
    exact hd
  · exact hstep.sound hd

theorem hosts (cs : List Concern) (hcs : cs.all Concern.isPlain = true) :
    Hosts desk Desk.site (Has mine) cs where
  look d hd := by
    refine ⟨trivial, ?_⟩
    rintro _ _ ⟨rfl, rfl⟩
    exact ⟨hd, rfl, rfl⟩
  change d y hd hy := by
    have htaken := isTaken_of_changes hy hcs
    have hsound := sound_of_changes hy hd.1.sound
    refine ⟨⟨hsound, fun hfree hgiven => ?_⟩, ?_⟩
    · rw [htaken, hfree] at hgiven
      cases hgiven
    · rintro _ _ rfl
      rw [after_of_taken htaken]
      exact ⟨⟨⟨hsound, fun hmine => htaken.trans (hd.1.held hmine)⟩, hd.2⟩, rfl⟩
  other d e hd he hwithin := by
    have hleads : ∀ d', d.Leads e d' → d'.Sound ∧ d'.mine = mine :=
      fun d' h => ⟨h.sound, h.mine.trans hd.2⟩
    cases e with
    | look => cases he
    | change y => cases he
    | send m =>
      refine ⟨fun hlaunch => ?_, fun _ d' h => hleads d' h⟩
      obtain ⟨c, rfl, hc⟩ := hwithin
      rw [Call.kind_of_isLaunch hlaunch] at hc
      exact absurd (List.all_eq_true.mp hcs _ hc) nofun
    | _ => exact ⟨trivial, fun _ d' h => hleads d' h⟩

/-! ## Looking, and work within a span -/

open Op

theorem meets_session {Q : Except Exit Session → Desk → Prop} (h : Q (.ok d.site.session) d) :
    Op.session.Meets desk Q d := by
  refine meets_bind.mpr (meets_lift.mpr ⟨trivial, ?_⟩)
  rintro _ _ ⟨rfl, rfl⟩
  exact h

theorem meets_update {f : Site → Site} {Q : Unit → Desk → Prop} (hsound : (f d.site).session.state.Sound)
    (hgives : d.isTaken = true → (f d.site).session.launching = false → d.mine = true)
    (h : Q () (d.after (f d.site))) : (Work.update f).Meets desk Q d := by
  refine ⟨trivial, ?_⟩
  rintro _ _ ⟨rfl, rfl⟩
  refine ⟨⟨hsound, hgives⟩, ?_⟩
  rintro _ _ rfl
  exact h

/-- The desk with another trace. -/
def retraced (d : Desk) (trace : Trace) : Desk := { d with site := { d.site with trace } }

theorem after_retrace (d : Desk) (trace : Trace) : d.after { d.site with trace } = d.retraced trace :=
  after_of_taken rfl

theorem meets_retrace {f : Site → Site} {Q : Unit → Desk → Prop} (hsound : d.site.session.state.Sound)
    (hf : ∀ x, ∃ trace, f x = { x with trace }) (h : ∀ trace, Q () (d.retraced trace)) :
    (Work.update f).Meets desk Q d := by
  obtain ⟨trace, hx⟩ := hf d.site
  refine meets_update (by rwa [hx]) (fun htaken hgiven => ?_) ?_
  · rw [hx, show d.site.session.launching = true from htaken] at hgiven
    cases hgiven
  · rw [hx, after_retrace]
    exact h trace

theorem meets_traced {s : Span} {w : Nat → Op α} {Q : Except Exit α → Desk → Prop}
    (hsound : d.site.session.state.Sound)
    (h : ∀ id trace, (w id).Meets desk (fun r d' => d'.site.session.state.Sound ∧
      ∀ trace, Q r (d'.retraced trace)) (d.retraced trace)) : (traced s w).Meets desk Q d := by
  refine meets_bind.mpr (meets_lift.mpr ⟨trivial, ?_⟩)
  rintro _ _ ⟨rfl, rfl⟩
  refine ⟨⟨hsound, fun htaken hgiven => absurd (hgiven.symm.trans htaken) nofun⟩, fun _ d' hd' => ?_⟩
  obtain rfl := hd'.trans (after_retrace _ _)
  refine meets_ensure.mpr ((h _ _).mono fun r d' hr => ?_)
  exact meets_retrace hr.1 (fun _ => ⟨_, rfl⟩) hr.2

/-! ## A launch -/

/-- Nobody has the desk through this work, which has just gone on. -/
structure Fresh (d : Desk) : Prop where
  sound : d.Sound
  mine : d.mine = false
  before : d.before = d.isTaken

/-- This work has just taken the desk. -/
structure Ready (d : Desk) : Prop where
  sound : d.Sound
  mine : d.mine = true
  before : d.before = false
  rests : d.isRunning = false

theorem Ready.retraced (h : d.Ready) (trace : Trace) : (d.retraced trace).Ready :=
  ⟨⟨h.sound.sound, h.sound.held⟩, h.mine, h.before, h.rests⟩

theorem Fresh.retraced (h : d.Fresh) (trace : Trace) : (d.retraced trace).Fresh :=
  ⟨⟨h.sound.sound, h.sound.held⟩, h.mine, h.before⟩

/-- A second launch is refused; otherwise the desk is free and no run is in progress. -/
theorem meets_refuseSecond {Q : Except Exit Unit → Desk → Prop} (hrefused : ∀ e, Q (.error e) d)
    (hfree : d.isTaken = false → d.isRunning = false → Q (.ok ()) d) :
    Launch.refuseSecond.Meets desk Q d := by
  refine meets_bind.mpr (meets_session ?_)
  show Op.Meets _ _ (if d.isTaken || d.isRunning then _ else _) _
  split
  next =>
    refine meets_bind.mpr (meets_bind.mpr (meets_session (meets_ofExcept.mpr ?_)))
    cases d.site.session.state.check with
    | ok s => exact hrefused _
    | error f => exact hrefused _
  next hneither =>
    simp only [Bool.or_eq_true, not_or, Bool.not_eq_true] at hneither
    exact hfree hneither.1 hneither.2

theorem upheld_retraced {r : Except Exit α} (h : Upheld (Has mine) (fun _ => True) r d) :
    d.site.session.state.Sound ∧ ∀ trace, Upheld (Has mine) (fun _ => True) r (d.retraced trace) :=
  ⟨h.1.1.sound, fun _ => ⟨⟨⟨h.1.1.sound, h.1.1.held⟩, h.1.2⟩, h.2⟩⟩

/-- **Only who has just taken the desk sends a request**, and has it still when the answer comes. -/
theorem meets_send (c : Call) (h : d.Ready) :
    c.send.Meets desk (Upheld (Has true) fun _ => True) d := by
  refine meets_traced h.sound.sound fun id trace => ?_
  have hready := h.retraced trace
  refine Op.Meets.mono (P := Upheld (Has true) fun _ => True) ?_ fun _ _ => upheld_retraced
  refine meets_unless (a := ()) (upheld_error ⟨hready.sound, hready.mine⟩) (meets_bind.mpr
    (meets_perform.mpr ⟨fun _ => ⟨hready.mine, hready.before, hready.rests⟩, fun w d' hd' => ?_⟩))
  refine Op.Touches.upholds (touches_bind (touches_unwrap w) fun o => ?_) (hosts [] rfl) d'
    ⟨hd'.sound, hd'.mine.trans hready.mine⟩
  cases o with
  | answered a => exact touches_bind (touches_tag _ _ _) fun _ => touches_pure a
  | unreachable failure text => exact touches_bind (touches_tag _ _ _) fun _ => touches_fail _
  | failed f => exact touches_fail f

theorem meets_sendRequest (r : Request) (id : Nat) (h : d.Ready) :
    (Launch.send r id).Meets desk (Upheld (Has true) fun _ => True) d := by
  have hwrite : (Call.submit r).write.Meets desk (Upheld (Has true) fun _ => True) d :=
    meets_then (meets_send _ h) fun _ _ => (Call.touches_ofService _).upholds (hosts [] rfl)
  refine meets_rescuedThen hwrite fun f => Op.Touches.upholds ?_ (hosts [.board] rfl)
  exact touches_bind (touches_tag _ _ _) fun _ => touches_bind (touches_announce _ _) fun _ => touches_fail _

theorem meets_submit (r : Request) (h : d.Ready) :
    (Launch.submit r).Meets desk (Upheld (Has true) fun _ => True) d := by
  refine meets_traced h.sound.sound fun id trace => ?_
  refine Op.Meets.mono (P := Upheld (Has true) fun _ => True) ?_ fun _ _ => upheld_retraced
  refine meets_then (meets_sendRequest r id (h.retraced trace)) fun _ _ => ?_
  exact (Launch.touches_taken r).upholds (hosts _ rfl)

theorem Has.given (h : d.Has true) {y : Site} (hy : y = d.site.onSession fun s => { s with launching := false }) :
    (d.after y).Has false := by
  subst hy
  have htaken : d.isTaken = true := h.1.held h.2
  have hmine : (d.after (d.site.onSession fun s => { s with launching := false })).mine = false := by
    show (if false = d.isTaken then d.mine else false) = false
    rw [htaken]
    rfl
  exact ⟨⟨h.1.sound, fun hkept => absurd (hmine.symm.trans hkept) nofun⟩, hmine⟩

/-- **A launch takes the desk only where it is free**, and gives it back. -/
theorem meets_request (r : Request) (h : d.Fresh) :
    (Launch.request r).Meets desk (Upheld (Has false) fun _ => True) d := by
  refine meets_bind.mpr (meets_refuseSecond (fun _ => upheld_error ⟨h.sound, h.mine⟩) fun hfree hrests => ?_)
  refine meets_bind.mpr (meets_lift.mpr (meets_update h.sound.sound (fun _ hgiven => by cases hgiven) ?_))
  have hready : (d.after (d.site.onSession fun s => { s with launching := true })).Ready := by
    refine ⟨⟨h.sound.sound, fun _ => rfl⟩, ?_, h.before.trans hfree, hrests⟩
    show (if true = d.isTaken then d.mine else true) = true
    rw [hfree]
    rfl
  refine meets_then (p := fun _ => True) (meets_ensure.mpr ((meets_submit r hready).mono fun _ d' hd' => ?_))
    fun _ _ => ?_
  · refine meets_update hd'.1.1.sound (fun _ _ => hd'.1.2) ⟨hd'.1.given rfl, fun _ _ => trivial⟩
  · refine Op.Touches.upholds ?_ (hosts [.board] rfl)
    exact touches_bind (touches_announce _ _) fun _ => touches_pure _

/-- **So does a launch that assembles its request first.** -/
theorem meets_order (o : Order) (h : d.Fresh) :
    (Launch.order o).Meets desk (Upheld (Has false) fun _ => True) d := by
  refine meets_bind.mpr (meets_refuseSecond (fun _ => upheld_error ⟨h.sound, h.mine⟩) fun _ _ => ?_)
  refine meets_bind.mpr (meets_bind.mpr (meets_session (meets_traced h.sound.sound fun id trace => ?_)))
  refine meets_ofExcept.mpr ⟨h.sound.sound, fun trace => ?_⟩
  cases assemble d.site.session.summary d.site.session.fragments o with
  | ok r => exact meets_request r ((h.retraced _).retraced trace)
  | error f => exact upheld_error ⟨((h.retraced _).retraced trace).sound, h.mine⟩

end Desk

/-! ## All work -/

/-- The action submits a request to launch a run. -/
def Action.launches : Action → Bool
  | whole (.launch _) => true
  | poll (.submit _) => true
  | _ => false

/-- The action goes through the desk if it is to launch a run: it does not call the service behind it. -/
def Action.isProper : Action → Bool
  | service (.write (.submit _)) => false
  | _ => true

theorem Action.isPlain_of_proper {a : Action} (hproper : a.isProper = true) (hplain : a.launches = false) :
    a.concerns.all Concern.isPlain = true := by
  cases a with
  | whole a => cases a <;> first | rfl | cases hplain
  | run a => cases a <;> rfl
  | poll a => cases a <;> first | rfl | cases hplain
  | configure a => cases a <;> rfl
  | notice a => rfl
  | store a => rfl
  | service a =>
    cases a with
    | write c => cases c <;> first | rfl | cases hproper
    | _ => rfl

namespace Desk

variable {d : Desk}

/-- **Every action keeps to the contract**, and does not keep the desk. -/
theorem keeps_action {a : Action} (hproper : a.isProper = true) (h : d.Fresh) :
    a.op.Meets desk (Op.Upheld (Has false) fun _ => True) d := by
  cases hlaunches : a.launches with
  | false =>
    exact (Action.touches a).upholds (hosts _ (Action.isPlain_of_proper hproper hlaunches)) d ⟨h.sound, h.mine⟩
  | true =>
    cases a with
    | whole a =>
      cases a with
      | launch o =>
        refine Op.meets_bind.mpr (meets_session (Op.meets_unless (a := ()) ?_ ?_))
        · exact Op.upheld_error ⟨h.sound, h.mine⟩
        · exact Op.meets_map.mpr ((meets_order o h).mono fun _ _ hd => ⟨hd.1, fun _ _ => trivial⟩)
      | _ => cases hlaunches
    | poll a =>
      cases a with
      | submit r => exact Op.meets_map.mpr ((meets_request r h).mono fun _ _ hd => ⟨hd.1, fun _ _ => trivial⟩)
      | _ => cases hlaunches
    | _ => cases hlaunches

/-- **So does the work in the background.** -/
theorem keeps_background (b : Background) :
    b.begin.Upholding desk (Has false) ∧ b.round.Upholding desk (Has false) := by
  have hconcerns : b.concerns.all Concern.isPlain = true := by cases b <;> rfl
  obtain ⟨hbegin, hround⟩ := b.touches
  exact ⟨hbegin.upholds (hosts _ hconcerns), hround.upholds (hosts _ hconcerns)⟩

end Desk

end Cutover
