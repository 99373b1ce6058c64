import Cutover.Proofs.Control.Silent
import Cutover.Proofs.Control.Touching

/-!
# What calls on the run publish

A call that begins a run, takes one up, forgets it or applies a report that changes something publishes one
snapshot, and a call that closes the run publishes its end. A call that ends early publishes nothing. Between the
snapshot and the end of the call nobody else works, so that the snapshot is the state that the call leaves.

* `publishing`: the contract of such calls;
* `Op.Touches.publishes`: what tells readers nothing publishes nothing;
* `RunAction.publishes`, `RunAction.gives`: what a call publishes, and what it gives;
* `Control.publishes_action`: **every call on the run publishes just that**, and at its end.
-/

namespace Cutover

/-- A site, and what was published since somebody went on to work there. -/
structure Publishing where
  site : Site
  published : List (Option RunState) := []

namespace Publishing

/-- The state of the run. -/
def state (s : Publishing) : RunState := s.site.session.state

/-- Nothing was published, and the state of the run is sound. -/
structure Fresh (s : Publishing) : Prop where
  published : s.published = []
  sound : s.state.Sound

end Publishing

/-- A change that has nothing to do with readers and leaves a sound state. -/
structure Site.Spares (x y : Site) : Prop where
  streams : y.session.streams = x.session.streams
  nextStream : y.session.nextStream = x.session.nextStream
  events : y.events = x.events
  sound : y.session.state.Sound

/-- **The contract of calls that publish.** They wait only where they have published nothing, and others may do
anything then but leave an unsound state. -/
def publishing : Contract Publishing where
  allows s
    | .change y => s.site.Spares y
    | .publish _ => True
    | e => e.isSilent = true ∧ (e.isWait = true → s.published = [])
  leads s
    | .look, r, s' => r = s.site ∧ s' = s
    | .change y, _, s' => s' = { s with site := { y with now := s.site.now } }
    | .publish item, _, s' => s'.state = s.state ∧ s'.published = s.published ++ [item]
    | e, _, s' => s'.published = s.published ∧ s'.state.Sound ∧ (e.isWait = false → s'.state = s.state)

/-- What a call on the run publishes that gives something and leaves the run in some state. -/
def RunAction.publishes : RunAction → Result → RunState → List (Option RunState)
  | begin .., _, s | restore _, _, s | reset, _, s => [some s]
  | apply _, .transition t, s => if t.changed then [some s] else []
  | close, _, _ => [none]
  | _, _, _ => []

/-- What a call on the run gives that leaves the run in some state. -/
def RunAction.Gives : RunAction → Result → RunState → Prop
  | begin .., r, s | restore _, r, s => r = .state s
  | apply _, r, s => ∃ t, r = .transition t ∧ (t.changed = true → t.state = s)
  | _, _, _ => True

namespace Publishing

variable {α β : Type} {cs : List Concern} {s s' : Publishing} {op : Op α} {p : α → Prop}
  {P : α → RunState → List (Option RunState) → Prop}

/-- A call ended: as `P` says of the state and of what was published, or early and without a word. -/
def Ends (P : α → RunState → List (Option RunState) → Prop) : Except Exit α → Publishing → Prop
  | .ok a, s => P a s.state s.published
  | .error _, s => s.published = []

theorem leads_silent {e : Effect} {r : e.Reply} (he : e.isOther = true) (hsilent : e.isSilent = true)
    (h : publishing.leads s e r s') :
    s'.published = s.published ∧ s'.state.Sound ∧ (e.isWait = false → s'.state = s.state) := by
  cases e with
  | look => cases he
  | change y => cases he
  | publish item => cases hsilent
  | _ => exact h

theorem allows_silent {e : Effect} (he : e.isOther = true) (hsilent : e.isSilent = true)
    (h : s.published = []) : publishing.allows s e := by
  cases e with
  | look => cases he
  | change y => cases he
  | publish item => cases hsilent
  | _ => exact ⟨hsilent, fun _ => h⟩

theorem spares_of_changes {x y : Site} (h : x.Changes cs y) (hreaders : .readers ∉ cs) (hevents : .events ∉ cs)
    (hsound : x.session.state.Sound) : x.Spares y := by
  have hsame := h.same .readers hreaders
  refine ⟨congrArg Prod.fst hsame, congrArg Prod.snd hsame, h.same .events hevents, ?_⟩
  rcases h.run with hrun | hstep
  · have hstate : y.session.state = x.session.state := congrArg (fun part => part.1.1) hrun
    rw [hstate]
    exact hsound
  · exact hstep.sound hsound

theorem meets_of_touching {P : α → Unit → Prop} {Q : α → Site → Prop} {w : Work α}
    (h : w.Meets (touching cs) Q s.site) (hsilent : w.Meets silent P ()) (hreaders : .readers ∉ cs)
    (hevents : .events ∉ cs) (hs : s.Fresh) : w.Meets publishing (fun a s' => s'.Fresh ∧ P a ()) s := by
  induction w generalizing s with
  | done a => exact ⟨hs, hsilent⟩
  | ask e next ih =>
    obtain ⟨hallows, hnext⟩ := h
    obtain ⟨hquiet, hsilently⟩ := hsilent
    have hother : e.isOther = true → (Work.ask e next).Meets publishing (fun a s' => s'.Fresh ∧ P a ()) s := by
      intro he
      refine ⟨allows_silent he hquiet hs.published, fun r s' hr => ?_⟩
      obtain ⟨hpublished, hsound, -⟩ := leads_silent he hquiet hr
      refine ih r (hnext r s'.site ?_) (hsilently r () trivial) ⟨hpublished.trans hs.published, hsound⟩
      cases e with
      | look => cases he
      | change y => cases he
      | _ => trivial
    cases e with
    | look =>
      refine ⟨⟨rfl, nofun⟩, ?_⟩
      rintro _ _ ⟨rfl, rfl⟩
      exact ih _ (hnext _ _ ⟨rfl, rfl⟩) (hsilently _ () trivial) hs
    | change y =>
      have hspares := spares_of_changes hallows hreaders hevents hs.sound
      refine ⟨hspares, ?_⟩
      rintro _ _ rfl
      exact ih () (hnext () _ rfl) (hsilently () () trivial) ⟨hs.published, hspares.sound⟩
    | _ => exact hother rfl

end Publishing

open Publishing

variable {α β : Type} {cs : List Concern} {s : Publishing} {op : Op α} {p : α → Prop}
  {P : α → RunState → List (Option RunState) → Prop}

/-- **What tells readers nothing publishes nothing.** -/
theorem Op.Touches.publishes (h : op.Touches cs) (hsilent : op.Silently p)
    (hreaders : .readers ∉ cs := by decide) (hevents : .events ∉ cs := by decide) :
    op.Upholds publishing Fresh p :=
  fun s hs => (meets_of_touching (h s.site) (hsilent () trivial) hreaders hevents hs).mono
    fun _ _ hw => ⟨hw.1, hw.2.2⟩

namespace Publishing

open Op

theorem publishes_session : session.Upholding publishing Fresh := by
  have htouches : session.Touches [] := touches_session
  exact htouches.publishes silent_session

theorem publishes_enter (g : GateName) : (enter g).Upholding publishing Fresh := by
  have htouches : (enter g).Touches Concern.gates := touches_enter (Concern.mem_gates g)
  exact htouches.publishes (silent_enter g)

theorem publishes_step {f : Session → Session} (hf : ∀ s : Session, s.RunStep (f s)) :
    (modify f).Upholding publishing Fresh := by
  have htouches : (modify f).Touches [.run] := touches_step List.mem_cons_self hf
  exact htouches.publishes (silent_modify f)

theorem meets_next {Q : β → RunState → List (Option RunState) → Prop} {f : α → Op β}
    (h : op.Upholds publishing Fresh p) (hs : s.Fresh)
    (hf : ∀ a s', p a → s'.Fresh → (f a).Meets publishing (Ends Q) s') :
    (op >>= f).Meets publishing (Ends Q) s := by
  refine meets_bind.mpr ((h s hs).mono ?_)
  rintro (e | a) s' ⟨hs', ha⟩
  · exact hs'.published
  · exact hf a s' (ha a rfl) hs'

theorem meets_session {Q : Except Exit Session → Publishing → Prop} (h : Q (.ok s.site.session) s) :
    session.Meets publishing Q s := by
  refine meets_bind.mpr (meets_lift.mpr ⟨⟨rfl, nofun⟩, ?_⟩)
  rintro _ _ ⟨rfl, rfl⟩
  exact h

theorem meets_snapshot {Q : Except Exit RunState → Publishing → Prop} (hsound : s.state.Sound)
    (h : Q (.ok s.state) s) : Control.snapshot.Meets publishing Q s := by
  refine meets_bind.mpr (meets_session (meets_ofExcept.mpr ?_))
  rw [show s.site.session.state.check = .ok s.state from hsound.check_eq]
  exact h

/-- **A snapshot is published** that is the state of the run. -/
theorem meets_publish {Q : Except Exit Unit → Publishing → Prop} (hs : s.Fresh)
    (h : ∀ s', s'.state.Sound → s'.published = [some s'.state] → Q (.ok ()) s') :
    Control.publish.Meets publishing Q s := by
  refine meets_bind.mpr (meets_snapshot hs.sound (meets_perform.mpr ⟨trivial, ?_⟩))
  rintro _ s' ⟨hstate, hpublished⟩
  refine h s' (hstate ▸ hs.sound) ?_
  rw [hpublished, hs.published, hstate]
  rfl

theorem meets_guarded {g : GateName} (hs : s.Fresh)
    (h : ∀ s', s'.Fresh → op.Meets publishing (Ends P) s') : (guarded g op).Meets publishing (Ends P) s := by
  refine meets_next (publishes_enter g) hs fun _ s' _ hs' => ?_
  refine meets_ensure.mpr ((h s' hs').mono fun r s₁ hr => ⟨⟨rfl, nofun⟩, ?_⟩)
  rintro _ s₂ ⟨hpublished, -, hstate⟩
  cases r with
  | error e => exact hpublished.trans hr
  | ok a =>
    have hP : P a s₁.state s₁.published := hr
    rw [← hpublished, ← hstate rfl] at hP
    exact hP

end Publishing

namespace Control

open Op

theorem publishes_begin (mode : Mode) (transfer : Transfer) (shards instances : Value) (hs : s.Fresh) :
    (begin mode transfer shards instances).Meets publishing
      (Ends fun a state published => a = state ∧ published = [some state]) s := by
  refine meets_guarded hs fun s₁ hs₁ => meets_next publishes_session hs₁
    fun x s₂ _ hs₂ => ?_
  have hlaunch := publishes_step fun s : Session => .launched mode transfer shards instances
  refine meets_unless (a := ()) hs₂.published (meets_next hlaunch hs₂
    fun _ s₃ _ hs₃ => meets_next (touches_persist.publishes silent_persist) hs₃ fun _ s₄ _ hs₄ => ?_)
  refine meets_bind.mpr (meets_publish hs₄ fun s₅ hsound hpublished => ?_)
  exact meets_snapshot hsound ⟨rfl, hpublished⟩

theorem publishes_restore (r : Record) (hs : s.Fresh) :
    (restore r).Meets publishing (Ends fun a state published => a = state ∧ published = [some state]) s := by
  refine meets_guarded hs fun s₁ hs₁ => ?_
  -- Each part that is read is put in place at once, so that a record may be taken up in part.
  refine meets_bind.mpr (meets_ofExcept.mpr ?_)
  cases hstate : r.toState with
  | error f => exact hs₁.published
  | ok state =>
    refine meets_next (publishes_step fun s => .restored hstate) hs₁ fun _ s₂ _ hs₂ => ?_
    refine meets_bind.mpr (meets_ofExcept.mpr ?_)
    cases hmode : r.readMode with
    | error f => exact hs₂.published
    | ok mode =>
      refine meets_next (publishes_step fun s => .restoredMode hmode) hs₂ fun _ s₃ _ hs₃ => ?_
      refine meets_bind.mpr (meets_ofExcept.mpr ?_)
      cases htransfer : r.readTransfer with
      | error f => exact hs₃.published
      | ok transfer =>
        refine meets_next (publishes_step fun s => .restoredTransfer htransfer) hs₃ fun _ s₄ _ hs₄ => ?_
        refine meets_bind.mpr (meets_publish hs₄ fun s₅ hsound hpublished => ?_)
        exact meets_snapshot hsound ⟨rfl, hpublished⟩

theorem publishes_reset (hs : s.Fresh) :
    reset.Meets publishing (Ends fun _ state published => published = [some state]) s := by
  refine meets_guarded hs fun s₁ hs₁ => ?_
  refine meets_next (publishes_step fun s => .forgotten) hs₁ fun _ s₂ _ hs₂ =>
    meets_next publishes_session hs₂ fun x s₃ _ hs₃ =>
      meets_next ((Keep.touches_clear _).publishes (Keep.silent_clear _)) hs₃ fun _ s₄ _ hs₄ => ?_
  exact meets_publish hs₄ fun _ _ hpublished => hpublished

theorem touches_applyTraced (previous : Phase) (report : Status) (span : Nat) :
    (applyTraced previous report span).Touches Concern.ofReport := by
  refine touches_ite (touches_bind (touches_applyActive _ _) fun _ => ?_)
    (touches_bind touches_snapshot fun _ => touches_pure _)
  exact touches_ite (touches_bind touches_session fun _ => touches_bind (touches_tag _ _ _) fun _ =>
    touches_pure _) (touches_pure _)

/-- **A report that changes something is published**, and no other. -/
theorem publishes_apply (report : Status) (hs : s.Fresh) :
    (apply report).Meets publishing (Ends fun t state published =>
      (t.changed = true → t.state = state) ∧ published = if t.changed then [some state] else []) s := by
  refine meets_guarded hs fun s₁ hs₁ => meets_next publishes_session hs₁
    fun x s₂ _ hs₂ => ?_
  have hreport := touches_traced (s := applySpan x report) (touches_applyTraced x.state.phase report)
  refine meets_next (hreport.publishes (silent_traced (silent_applyTraced _ report))) hs₂
    fun ignored s₃ hignored hs₃ => ?_
  cases ignored with
  | some t =>
    have hchanged : t.changed = false := hignored t rfl
    refine ⟨fun h => absurd (hchanged.symm.trans h) Bool.false_ne_true, ?_⟩
    rw [hchanged]
    exact hs₃.published
  | none =>
    refine meets_bind.mpr (meets_publish hs₃ fun s₄ hsound hpublished => meets_bind.mpr ?_)
    exact meets_snapshot hsound ⟨fun _ => rfl, hpublished⟩

/-- **A call on the run publishes at its end** what it is to publish, and nothing if it ends early. -/
theorem publishes_action (a : RunAction) (hs : s.Fresh) :
    a.op.Meets publishing (Ends fun r state published => a.Gives r state ∧ published = a.publishes r state) s := by
  cases a with
  | begin mode transfer shards instances =>
    refine meets_map.mpr ((publishes_begin mode transfer shards instances hs).mono ?_)
    rintro (e | state) s' h
    · exact h
    · exact ⟨congrArg Result.state h.1, h.2⟩
  | restore record =>
    refine meets_map.mpr ((publishes_restore record hs).mono ?_)
    rintro (e | state) s' h
    · exact h
    · exact ⟨congrArg Result.state h.1, h.2⟩
  | apply report =>
    refine meets_map.mpr ((publishes_apply report hs).mono ?_)
    rintro (e | t) s' h
    · exact h
    · exact ⟨⟨t, rfl, h.1⟩, h.2⟩
  | reset =>
    refine meets_bind.mpr ((publishes_reset hs).mono ?_)
    rintro (e | _) s' h
    · exact h
    · exact ⟨trivial, h⟩
  | reconcile =>
    have hsilent : reconcile.Upholds publishing Fresh fun _ => True := touches_reconcile.publishes silent_reconcile
    refine meets_map.mpr ((hsilent s hs).mono ?_)
    rintro (e | items) s' h
    · exact h.1.published
    · exact ⟨trivial, h.1.published⟩
  | close =>
    refine meets_bind.mpr (meets_perform.mpr ⟨trivial, ?_⟩)
    rintro _ s' ⟨-, hpublished⟩
    refine ⟨trivial, hpublished.trans ?_⟩
    rw [hs.published]
    rfl

end Control

end Cutover
