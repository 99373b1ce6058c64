import Cutover.Proofs.Control.Calling
import Cutover.Proofs.Control.Holding
import Cutover.Proofs.Control.Teardown

/-!
# Calls write down what they do

A call on the run writes down what it finds behind the state gate, what is seen of its work there, and what it leaves.
Nobody else is behind the gate in between, so it is all of one piece.

* `Core.Steady`: what holds whenever nobody is behind the gate;
* `Surroundings.noting`: **the contract of calls that write down what they do**;
* `Surroundings.noting_guarded`: operations that go through the gate keep it;
* `RunAction.Noted`: what a report has written down once it was applied;
* `Surroundings.noting_call`: **every call on the run keeps the contract**.
-/

namespace Cutover

/-- What can be seen of an effect of a call that stands somewhere and comes to stand somewhere else. -/
def Stand.signs : Stand → Effect → Stand → List Sign
  | .inside s, e, _ => s.site.signs e
  | .outside, _, .inside s => [.entered s.site.core]
  | .outside, _, .outside => []

/-- **What holds whenever nobody is behind the gate**, with a state that can be shown. -/
structure Core.Steady (c₀ c : Core) : Prop where
  ready : c₀.Ready c
  sound : c.session.state.Sound

namespace Core

variable {c : Core}

theorem sound_begin (h : c.session.state.Sound) (mode : Mode) (transfer : Transfer) (shards instances : Value) :
    (c.begin mode transfer shards instances).core.session.state.Sound := by
  rw [Core.begin]
  split
  · exact h
  · have hstate : (c.launched mode transfer shards instances).persist.core.session.state = .launched mode := by
      rw [session_persist]
      rfl
    have hsound : (c.launched mode transfer shards instances).persist.core.session.state.Sound :=
      hstate ▸ RunState.sound_launched mode
    exact core_andThen (P := fun d => d.session.state.Sound) hsound fun _ _ => hsound

theorem sound_reset (c : Core) : c.reset.core.session.state.Sound := by
  have hstate : c.forgotten.clear.core.session.state = {} := by
    rw [session_clear]
    rfl
  have hsound : c.forgotten.clear.core.session.state.Sound := hstate ▸ RunState.sound_default
  exact core_andThen (P := fun d => d.session.state.Sound) hsound fun _ _ =>
    core_andThen (P := fun d => d.session.state.Sound) hsound fun _ _ => hsound

end Core

namespace Surroundings

section
variable (S : Surroundings) (I : Core → Prop)

/-- **The contract of calls that write down what they do.** A call goes through the gate once, relies on what holds
whenever nobody is behind it, and leaves a sound state. -/
def noting : Contract (Stand × List Sign) where
  allows
    | (.inside s, _), .release .state => s.site.core.session.state.Sound
    | (.outside, l), .acquire .state => l = []
    | _, _ => True
  leads x e r x' := S.LeadsCall I x.1 e r x'.1 ∧ x'.2 = x.2 ++ x.1.signs e x'.1

end

variable {S : Surroundings} {I : Core → Prop} {α : Type} {s : Scene} {l : List Sign}

theorem journal_grows {w : Work α} {x : Scene × List Sign} (h : l <+: x.2) :
    w.Meets S.journal (fun _ x' => l <+: x'.2) x := by
  induction w generalizing x with
  | done a => exact h
  | ask e next ih =>
    refine ⟨trivial, fun r x' hleads => ih r ?_⟩
    rw [hleads.2]
    exact h.trans (List.prefix_append _ _)

theorem noting_inside {w : Work α} {P : α → Scene → Prop} {Q : α → Scene × List Sign → Prop}
    (hP : w.Meets S.behind P s) (hQ : w.Meets S.journal Q (s, l)) :
    w.Meets (S.noting I) (fun r x => ∃ s', x.1 = .inside s' ∧ P r s' ∧ Q r (s', x.2)) (.inside s, l) := by
  induction w generalizing s l with
  | done a => exact ⟨s, rfl, hP, hQ⟩
  | ask e next ih =>
    obtain ⟨hallows, hnext⟩ := hP
    obtain ⟨-, hnext'⟩ := hQ
    have hrest : ∀ r (x : Stand × List Sign), (∃ s', x.1 = .inside s' ∧ S.Leads s e r s') → x.2 = l ++ s.site.signs e →
        (next r).Meets (S.noting I) (fun r x => ∃ s', x.1 = .inside s' ∧ P r s' ∧ Q r (s', x.2)) x := by
      rintro r ⟨_, l'⟩ ⟨s', rfl, hleads⟩ rfl
      exact ih r (hnext r s' hleads) (hnext' r (s', _) ⟨hleads, rfl⟩)
    cases e with
    | release g =>
      cases g with
      | state => exact absurd hallows id
      | fetch => exact ⟨trivial, fun r x h => hrest r x h.1 h.2⟩
    | _ => exact ⟨trivial, fun r x h => hrest r x h.1 h.2⟩

/-- **An operation that goes through the gate writes down what it does.** -/
theorem noting_guarded {w : Op α} {R : Except Exit α → List Sign → Prop}
    (hP : ∀ s, I s.site.core → S.At s.site.core [] s →
      w.Meets S.behind (fun _ s' => s'.site.core.session.state.Sound) s)
    (hQ : ∀ s, I s.site.core → S.At s.site.core [] s →
      w.Meets S.journal (fun r x => R r (x.2 ++ [.left x.1.site.core])) (s, [.entered s.site.core])) :
    (Op.guarded .state w).Meets (S.noting I) (fun r x => R r x.2) (.outside, []) := by
  rw [Op.guarded, Op.meets_bind, Op.enter]
  refine Op.meets_bind.mpr (Op.meets_perform.mpr ⟨rfl, ?_⟩)
  rintro r ⟨st, l⟩ ⟨⟨rfl, s, rfl, hI, hs⟩, hlog⟩
  obtain rfl : l = [.entered s.site.core] := hlog
  refine Op.meets_unwrap_back.mpr (Op.meets_ensure.mpr ((noting_inside (hP s hI hs) (hQ s hI hs)).mono ?_))
  rintro r ⟨_, l⟩ ⟨s', rfl, hsound, hR⟩
  refine Work.meets_perform.mpr ⟨hsound, ?_⟩
  rintro _ ⟨st, l'⟩ ⟨-, hlog⟩
  obtain rfl : l' = l ++ [.left s'.site.core] := hlog
  exact hR

/-- A call may look at the session before it goes through the gate, and writes nothing down. -/
theorem noting_session_outside {Q : Except Exit Session → Stand × List Sign → Prop}
    (h : ∀ session, Q (.ok session) (.outside, l)) : Op.session.Meets (S.noting I) Q (.outside, l) := by
  refine Op.meets_bind.mpr (Op.meets_lift.mpr ⟨trivial, ?_⟩)
  rintro site ⟨st, l'⟩ ⟨rfl, hlog⟩
  obtain rfl : l' = l := hlog.trans (List.append_nil l)
  exact h site.session

theorem noting_guards {op : Op α} {may : Core → Prop} {turn : Conditions → Core → Core.Turn α}
    {items : α → List (Option RunState)} (hop : S.Guards op may turn items) (hmay : ∀ c, I c → may c)
    (hsound : ∀ c k, I c → (turn k c).core.session.state.Sound) :
    op.Meets (S.noting I) (fun _ _ => True) (.outside, []) := by
  obtain ⟨w, rfl, hdoes⟩ := hop
  refine noting_guarded (R := fun _ _ => True) (fun s hI hs => ?_) fun s _ _ =>
    (journal_grows (List.prefix_refl _)).mono fun _ _ _ => trivial
  refine (hdoes _ s (hmay _ hI) hs).mono ?_
  rintro r s' ⟨k, -, -, h'⟩
  rw [h'.core]
  exact hsound _ k hI

end Surroundings

/-- **What is written down of a report that was applied**: what it found behind the gate, what it did, and what it left.
If it ended the run, it did so in order, while the record of the run was stored. -/
def RunAction.Noted : RunAction → Except Exit Result → List Sign → Prop
  | .apply report, r, l => ∃ c g d, l = .entered c :: g ++ [.left d] ∧ ∀ p d₀, c.Ends report p d₀ →
    c.stored = c.record.encode ∧ r = .ok (.transition ⟨c.session.state.phase, d.session.state, true⟩) ∧
      Surroundings.TornDown c report d g
  | _, _, _ => True

namespace Surroundings

variable {c₀ c d₀ : Core} {p : Phase} {b : Bool} {report : Status}

theorem mayEnd_ofCall (h : c₀.Steady c) : (ofCall c₀ b).MayEnd c :=
  ⟨h.ready.orderly, h.sound, calm_ofCall h.ready, fun _ ho => ho rfl⟩

theorem noting_apply (c₀ : Core) (b : Bool) (report : Status) :
    (RunAction.apply report).op.Meets ((ofCall c₀ b).noting c₀.Steady)
      (fun r x => (RunAction.apply report).Noted r x.2) (.outside, []) := by
  refine Op.meets_map.mpr ?_
  rw [Control.apply_eq]
  refine noting_guarded (R := fun r l => (RunAction.apply report).Noted (r.map .transition) l)
    (fun s hI hs => ?_) fun s hI hs => ?_
  · refine (does_apply (ofCall c₀ b) report _ s (mayApply_ofCall hI.ready) hs).mono ?_
    rintro r s' ⟨k, -, -, h'⟩
    rw [h'.core]
    exact Core.sound_apply hI.sound
  · by_cases hends : ∃ p d₀, s.site.core.Ends report p d₀
    · obtain ⟨p, d₀, hends⟩ := hends
      refine (journal_apply ⟨rfl, hs.within, rfl⟩ (mayEnd_ofCall hI) hends).mono ?_
      rintro r ⟨s', l'⟩ ⟨d, g, hshows, rfl, htorn⟩
      obtain ⟨rfl, -, rfl⟩ := hshows
      refine ⟨_, g, _, rfl, fun _ _ _ => ⟨?_, rfl, htorn⟩⟩
      have hactive : s.site.core.session.state.phase.isActive = true := by
        cases hends with
        | fails hactive => exact hactive
        | completes hactive => exact hactive
      have hagrees := hI.ready.orderly.agrees
      rw [Core.Agrees, if_pos (hI.ready.orderly.running hactive)] at hagrees
      exact hagrees
    · refine (journal_grows (List.prefix_refl _)).mono ?_
      rintro r ⟨s', l'⟩ ⟨g, rfl⟩
      exact ⟨_, g, _, rfl, fun p d₀ h => absurd ⟨p, d₀, h⟩ hends⟩

/-- **Every call on the run writes down what it does.** -/
theorem noting_call (c₀ : Core) {a : RunAction} (ha : a.isCall = true) :
    a.op.Meets ((ofCall c₀ a.begins).noting c₀.Steady) (fun r x => a.Noted r x.2) (.outside, []) := by
  cases a with
  | begin mode transfer shards instances =>
    refine Op.meets_map.mpr (noting_guards (guards_begin _ mode transfer shards instances)
      (fun c _ d _ => .inl rfl) fun c k h => ?_)
    exact Core.sound_begin h.sound mode transfer shards instances
  | apply report => exact noting_apply c₀ _ report
  | reset =>
    refine Op.meets_bind.mpr ((noting_guards (guards_reset _) (fun c h => grants_reset h.ready)
      fun c k h => Core.sound_reset c).mono ?_)
    rintro (e | _) x hx
    · exact hx
    · exact hx
  | reconcile =>
    have hguards : (ofCall c₀ false).Guards (Op.guarded .state Reconcile.fetch)
        (fun c => c.session.fetchGate = {}) (fun k c => c.fetch k.answer) fun _ => [] :=
      ⟨_, rfl, does_fetch (ofCall c₀ false)⟩
    have hfetch := noting_guards (I := c₀.Steady) hguards (fun c h => h.ready.orderly.fetchGate) fun c k h => by
      rw [Core.state_fetch]
      exact h.sound
    refine Op.meets_map.mpr (Op.meets_bind.mpr (noting_session_outside fun session => ?_))
    cases hbare : session.isBare with
    | true =>
      simp only [Op.after_ok, hbare, if_true]
      exact Op.meets_bind.mpr trivial
    | false =>
      simp only [Op.after_ok, hbare]
      exact hfetch
  | restore r => cases ha
  | close => cases ha

end Surroundings

end Cutover
