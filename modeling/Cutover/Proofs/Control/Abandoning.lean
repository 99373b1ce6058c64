import Cutover.Proofs.Control.Looping
import Cutover.Proofs.Control.Touching
import Cutover.Proofs.Store.Whole

/-!
# Abandoning a run

A run that is abandoned is forgotten part by part, and while the work waits in between others run. As long as
it may be polled they may do anything to the run. Once the loop is stopped the work relies on it that nobody
touches what the run left behind.

* `Legacy`, `Legacy.Forgotten`: what a run leaves behind, and what is left of it once it is abandoned;
* `Parting`, `parting`: a session whose run is abandoned, and the contract of the work that does it;
* `Parting.meets_reset`: the run itself is forgotten;
* `Parting.meets_abandon`: **abandoning a run forgets all that it left behind**.
-/

namespace Cutover

/-- **What a run leaves behind**: itself, its resources, what was configured for it, and its record. -/
structure Legacy where
  /-- The number of the store. -/
  store : Nat
  state : RunState
  mode : Option Mode
  transfer : Option Transfer
  fragments : FragmentSet
  resources : Option (List Resource)
  stored : Table

/-- Nothing of a run is left. -/
structure Legacy.Forgotten (l : Legacy) : Prop where
  state : l.state = {}
  mode : l.mode = none
  transfer : l.transfer = none
  flags : l.fragments.flags = []
  shards : l.fragments.shards = []
  resources : l.resources = none
  stored : l.stored = []

/-- What the run of a session left behind. -/
def Site.legacy (x : Site) : Legacy where
  store := x.session.store
  state := x.session.state
  mode := x.session.mode
  transfer := x.session.transfer
  fragments := x.session.fragments
  resources := x.session.resources
  stored := x.storage.table x.session.store

theorem Site.legacy_eq {x y : Site} (hstore : y.session.store = x.session.store) (hrun : x.SameIn y .run)
    (hresources : x.SameIn y .resources) (hconfiguration : x.SameIn y .configuration)
    (hstorage : x.SameIn y .storage) : y.legacy = x.legacy := by
  have hstate : y.session.state = x.session.state := congrArg (fun part => part.1.1) hrun
  have hmode : y.session.mode = x.session.mode := congrArg (fun part => part.2.mode) hrun
  have htransfer : y.session.transfer = x.session.transfer := congrArg (fun part => part.2.transfer) hrun
  have hfragments : y.session.fragments = x.session.fragments := congrArg Prod.fst hconfiguration
  have hkept : y.session.resources = x.session.resources := hresources
  have htable : y.storage = x.storage := hstorage
  rw [legacy, legacy, hstate, hmode, htransfer, hfragments, hkept, htable, hstore]

theorem Site.Changes.legacy {x y : Site} (h : x.Changes Concern.gates y) : y.legacy = x.legacy :=
  Site.legacy_eq (congrArg Prod.fst h.setup) (h.same _ (by decide)) (h.same _ (by decide)) (h.same _ (by decide))
    (h.same _ (by decide))

/-- **A session whose run is abandoned**, as the work knows it that does it. -/
structure Parting where
  /-- The poll loops that were ever started. -/
  loops : Nat → Prop
  /-- Those of them that have not ended. -/
  alive : Nat → Prop
  site : Site

/-- The poll loops of the session. -/
def Parting.looped (p : Parting) : Looped where
  known := p.site.session.pollTask
  applying := p.site.session.applying
  loops := p.loops
  alive := p.alive

/-- **The contract of work that abandons a run.** It stops polling; and others leave alone what the run left
behind, unless it waits while a task is known to poll. -/
def parting : Contract Parting where
  allows p e := Looped.Allows .stops p.looped e
  leads p
    | .look, x, p' => x = p.site ∧ p' = p
    | .change y, _, p' => p' = { p with site := { y with now := p.site.now } }
    | e, r, p' => Looped.Leads .stops 0 p.looped e r p'.looped ∧
        (e.isWait = true → Role.stops.Relies p.site.session.pollTask p'.site.session.pollTask) ∧
        ((e.isWait = true → p.site.session.pollTask = none) → p'.site.legacy = p.site.legacy)

namespace Parting

open Op

variable {α β : Type} {p p' : Parting} {J K : Legacy → Prop}

theorem leads_looped {e : Effect} {r : e.Reply} (h : parting.leads p e r p') :
    Looped.Leads .stops 0 p.looped e r p'.looped := by
  cases e with
  | look =>
    obtain ⟨rfl, rfl⟩ := h
    exact ⟨rfl, rfl⟩
  | change y =>
    obtain rfl : p' = { p with site := { y with now := p.site.now } } := h
    rfl
  | _ => exact h.1

/-- **What a stop does to the loops** it does here. -/
theorem meets_of_looped {w : Work α} {Q : α → Looped → Prop} (h : w.Meets (Looped.contract .stops 0) Q p.looped) :
    w.Meets parting (fun a p' => Q a p'.looped) p := by
  induction w generalizing p with
  | done a => exact h
  | ask e next ih => exact ⟨h.1, fun r p' hr => ih r (h.2 r _ (leads_looped hr))⟩

/-! ## Where nothing polls -/

/-- At most one loop is alive, and no task is known to poll. -/
structure Rests (p : Parting) : Prop where
  sound : p.looped.Sound
  unknown : p.site.session.pollTask = none

/-- **What work comes to**: if it ends normally then nothing polls, and what the run left behind is as it
should be. -/
structure Ends (J : Legacy → Prop) (r : Except Exit α) (p : Parting) : Prop where
  sound : p.looped.Sound
  legacy : ∀ a, r = .ok a → p.site.session.pollTask = none ∧ J p.site.legacy

theorem ends_error {e : Exit} (h : p.looped.Sound) : Ends J (.error e : Except Exit α) p := ⟨h, nofun⟩

theorem ends_ok {a : α} (h : p.Rests) (hJ : J p.site.legacy) : Ends J (.ok a) p := ⟨h.sound, fun _ _ => ⟨h.unknown, hJ⟩⟩

theorem meets_then {op : Op α} {f : α → Op β} (h : op.Meets parting (Ends J) p)
    (hf : ∀ a p', p'.Rests → J p'.site.legacy → (f a).Meets parting (Ends K) p') :
    (op >>= f).Meets parting (Ends K) p := by
  refine meets_bind.mpr (h.mono ?_)
  rintro (e | a) p' hp'
  · exact ends_error hp'.sound
  · obtain ⟨hunknown, hJ⟩ := hp'.legacy a rfl
    exact hf a p' ⟨hp'.sound, hunknown⟩ hJ

theorem hosts (l : Legacy) : Hosts parting Parting.site (fun p => p.Rests ∧ p.site.legacy = l) Concern.gates where
  look p hp := by
    refine ⟨Looped.allows_look, ?_⟩
    rintro _ _ ⟨rfl, rfl⟩
    exact ⟨hp, rfl, rfl⟩
  change p y hp hy := by
    have hloop : (y.session.pollTask, y.session.latch) = (p.site.session.pollTask, p.site.session.latch) :=
      hy.same .loop (by decide)
    have htask : y.session.pollTask = p.site.session.pollTask := congrArg Prod.fst hloop
    refine ⟨Looped.allows_change (.inl htask) (hy.same .applying (by decide)), ?_⟩
    rintro _ _ rfl
    exact ⟨⟨⟨Looped.sound_seen hp.1.sound htask, htask.trans hp.1.unknown⟩, hy.legacy.trans hp.2⟩, rfl⟩
  other p e hp he hwithin := by
    have hfork : e ≠ .fork .pollLoop := by
      rintro rfl
      exact absurd hwithin.2 (by decide)
    have hcancel : ∀ t, e ≠ .cancel t := by
      rintro t rfl
      have hloop : .loop ∈ Concern.gates := hwithin
      exact absurd hloop (by decide)
    refine ⟨Looped.allows_other he hfork hcancel fun _ => hp.1.sound, fun r p' hleads => ?_⟩
    obtain ⟨hrelies, hkeeps⟩ : (e.isWait = true → Role.stops.Relies p.site.session.pollTask p'.site.session.pollTask) ∧
        ((e.isWait = true → p.site.session.pollTask = none) → p'.site.legacy = p.site.legacy) := by
      cases e with
      | look => cases he
      | change => cases he
      | _ => exact hleads.2
    refine ⟨?_, (hkeeps fun _ => hp.1.unknown).trans hp.2⟩
    rcases (leads_looped hleads).other he hfork with hsame | ⟨hwait, hresumes⟩
    · exact ⟨hsame ▸ hp.1.sound, (congrArg Looped.known hsame).trans hp.1.unknown⟩
    · exact ⟨hresumes.sound, (hrelies hwait).elim (fun hsame => hsame.trans hp.1.unknown) id⟩

theorem meets_untouched {op : Op α} (h : op.Touches Concern.gates) (hp : p.Rests) :
    op.Meets parting (Ends (· = p.site.legacy)) p :=
  (h.upholds (hosts p.site.legacy) p ⟨hp, rfl⟩).mono fun _ _ hp' =>
    ⟨hp'.1.1.sound, fun _ _ => ⟨hp'.1.1.unknown, hp'.1.2⟩⟩

theorem meets_change {y : Site} {Q : Unit → Parting → Prop} (hp : p.Rests)
    (htask : y.session.pollTask = p.site.session.pollTask) (happlying : y.session.applying = p.site.session.applying)
    (hQ : ∀ p', p'.Rests → p'.site.legacy = y.legacy → Q () p') :
    (Work.perform (.change y)).Meets parting Q p := by
  refine ⟨Looped.allows_change (.inl htask) happlying, ?_⟩
  rintro _ _ rfl
  exact hQ _ ⟨Looped.sound_seen hp.sound htask, htask.trans hp.unknown⟩ rfl

theorem meets_modify {f : Session → Session} (hp : p.Rests)
    (htask : (f p.site.session).pollTask = p.site.session.pollTask)
    (happlying : (f p.site.session).applying = p.site.session.applying) :
    (Op.modify f).Meets parting (Ends (· = (p.site.onSession f).legacy)) p := by
  refine meets_lift.mpr ⟨Looped.allows_look, ?_⟩
  rintro _ _ ⟨rfl, rfl⟩
  exact meets_change hp htask happlying fun p' hp' hlegacy => ends_ok hp' hlegacy

theorem meets_session {Q : Except Exit Session → Parting → Prop} (h : Q (.ok p.site.session) p) :
    Op.session.Meets parting Q p := by
  refine meets_bind.mpr (meets_lift.mpr ⟨Looped.allows_look, ?_⟩)
  rintro _ _ ⟨rfl, rfl⟩
  exact h

theorem meets_site {Q : Except Exit Site → Parting → Prop} (h : Q (.ok p.site) p) :
    Op.site.Meets parting Q p := by
  refine meets_lift.mpr ⟨Looped.allows_look, ?_⟩
  rintro _ _ ⟨rfl, rfl⟩
  exact h

theorem meets_guarded {g : GateName} {op : Op α} (hp : p.Rests)
    (h : ∀ p', p'.Rests → p'.site.legacy = p.site.legacy → op.Meets parting (Ends J) p') :
    (guarded g op).Meets parting (Ends J) p := by
  refine meets_then (meets_untouched (touches_enter (Concern.mem_gates g)) hp) fun _ p' hp' hlegacy => ?_
  refine meets_ensure.mpr ((h p' hp' hlegacy).mono fun r q hq => ?_)
  -- To leave changes neither the loops nor anything else.
  refine ⟨Looped.allows_other rfl nofun nofun nofun, fun _ q' hleads => ?_⟩
  have hlooped : q'.looped = q.looped := hleads.1.resolve_right fun hwait => nomatch hwait.1
  have hsame : q'.site.legacy = q.site.legacy := hleads.2.2 nofun
  refine ⟨hlooped ▸ hq.sound, fun a ha => ?_⟩
  obtain ⟨hunknown, hJ⟩ := hq.legacy a ha
  exact ⟨(congrArg Looped.known hlooped).trans hunknown, hsame ▸ hJ⟩

theorem meets_traced {s : Span} {w : Nat → Op α} (hp : p.Rests)
    (h : ∀ id p', p'.Rests → p'.site.legacy = p.site.legacy → (w id).Meets parting (Ends J) p') :
    (traced s w).Meets parting (Ends J) p := by
  refine meets_then (meets_untouched (touches_enterSpan s) hp) fun id p' hp' hlegacy => ?_
  refine meets_ensure.mpr ((h id p' hp' hlegacy).mono fun r q hq => ?_)
  refine ⟨Looped.allows_look, ?_⟩
  rintro _ _ ⟨rfl, rfl⟩
  refine ⟨Looped.allows_change (.inl rfl) rfl, ?_⟩
  rintro _ _ rfl
  exact ⟨Looped.sound_seen hq.sound rfl, hq.legacy⟩

/-! ## Forgetting a run -/

/-- **The record is removed.** -/
theorem meets_clear (hp : p.Rests) :
    (Keep.clear p.site.session.store).Meets parting (Ends (· = { p.site.legacy with stored := [] })) p := by
  refine meets_bind.mpr (meets_site ?_)
  refine meets_then (meets_untouched (Keep.touches_obstacle _) hp) fun _ p₁ hp₁ h₁ => ?_
  refine meets_bind.mpr (meets_site (meets_traced hp₁ fun _ p₂ hp₂ h₂ => ?_))
  refine meets_then (meets_untouched touches_storageTurn hp₂) fun _ p₃ hp₃ h₃ => ?_
  have hlegacy : p₃.site.legacy = p.site.legacy := h₃.trans (h₂.trans h₁)
  refine meets_bind.mpr (meets_site (meets_bind.mpr (meets_lift.mpr (meets_change hp₃ rfl rfl ?_))))
  intro p₄ hp₄ h₄
  refine (meets_untouched (touches_ofExcept _) hp₄).mono fun _ _ hq => ⟨hq.sound, fun a ha => ?_⟩
  obtain ⟨hunknown, h₅⟩ := hq.legacy a ha
  refine ⟨hunknown, (h₅.trans h₄).trans ?_⟩
  have hstore : p₃.site.session.store = p.site.session.store := congrArg Legacy.store hlegacy
  rw [← hlegacy, ← hstore]
  exact congrArg (fun stored => { p₃.site.legacy with stored }) (Storage.table_clear _ _)

/-- **The run itself is forgotten**, and its record with it. -/
theorem meets_reset (hp : p.Rests) : Control.reset.Meets parting
    (Ends (· = { p.site.legacy with state := {}, mode := none, transfer := none, stored := [] })) p := by
  refine meets_guarded hp fun p₁ hp₁ h₁ => ?_
  refine meets_then (meets_modify hp₁ rfl rfl) fun _ p₂ hp₂ h₂ => ?_
  refine meets_bind.mpr (meets_session (meets_then (meets_clear hp₂) fun _ p₃ hp₃ h₃ => ?_))
  refine (meets_untouched Control.touches_publish hp₃).mono fun _ _ hq => ⟨hq.sound, fun a ha => ?_⟩
  obtain ⟨hunknown, h₄⟩ := hq.legacy a ha
  refine ⟨hunknown, ?_⟩
  rw [h₄, h₃, h₂, ← h₁]
  rfl

theorem meets_unconfigure (hp : p.Rests) : Configure.reset.Meets parting (Ends (· =
    { p.site.legacy with fragments := { p.site.legacy.fragments with flags := [], shards := [] } })) p :=
  meets_modify hp rfl rfl

theorem meets_drop (hp : p.Rests) :
    Reconcile.forget.Meets parting (Ends (· = { p.site.legacy with resources := none })) p :=
  meets_modify hp rfl rfl

/-- **Abandoning a run forgets all that it left behind**, and nothing polls any more. -/
theorem meets_abandon (hp : p.looped.Sound) : Conduct.abandon.Meets parting (Ends Legacy.Forgotten) p := by
  have hstop : Poll.stop.Meets parting (Ends fun _ => True) p :=
    (meets_of_looped (Looped.meets_stop hp)).mono fun _ _ hq =>
      ⟨hq.sound, fun a ha => ⟨hq.unknown a ha, trivial⟩⟩
  refine meets_then hstop fun _ p₁ hp₁ _ => ?_
  refine meets_then (meets_reset hp₁) fun _ p₂ hp₂ h₂ => ?_
  refine meets_then (meets_unconfigure hp₂) fun _ p₃ hp₃ h₃ => ?_
  refine (meets_drop hp₃).mono fun _ _ hq => ⟨hq.sound, fun a ha => ?_⟩
  obtain ⟨hunknown, h₄⟩ := hq.legacy a ha
  refine ⟨hunknown, ?_⟩
  rw [h₄, h₃, h₂]
  exact ⟨rfl, rfl, rfl, rfl, rfl, rfl, rfl⟩

/-- **So does the action**, where the session has the parts for it. -/
theorem meets_action (hp : p.looped.Sound) :
    (Action.whole .abandon).op.Meets parting (Ends Legacy.Forgotten) p := by
  refine Op.meets_bind.mpr (meets_session (Op.meets_unless (a := ()) (ends_error hp) ?_))
  refine meets_then (meets_abandon hp) fun _ p' hp' hforgotten => ends_ok hp' hforgotten

end Parting

end Cutover
