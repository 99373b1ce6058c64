import Cutover.Proofs.Control.Agreement
import Cutover.Session.Action

/-!
# Calls on the run

A call waits for the state gate, works behind it, and leaves it. It keeps what holds of the core
whenever nobody is behind the gate: it relies on that when it is let in, and it has restored it when it
leaves.

* `Stand`: where a call stands;
* `Surroundings.calling`: the contract of calls;
* `Surroundings.calling_guarded`: operations that go through the gate keep the contract;
* `Surroundings.meets_call`: so does every call on the run.
-/

namespace Cutover

/-- Where a call stands: outside of the state gate, or behind it. -/
inductive Stand where
  | outside
  | inside (s : Scene)

namespace Surroundings

section
variable (S : Surroundings) (I : Core → Prop)

/-- What a call may ask for. -/
def AllowsCall : Stand → Effect → Prop
  | .outside, .look => True
  | .outside, .acquire .state => True
  | .outside, _ => False
  | .inside s, .release .state => I s.site.core
  | .inside s, e => S.Allows s e

/-- How a call may go on. -/
def LeadsCall : Stand → (e : Effect) → e.Reply → Stand → Prop
  | .outside, .acquire .state, r, st =>
    r = .back () ∧ ∃ s, st = .inside s ∧ I s.site.core ∧ S.At s.site.core [] s
  | .outside, _, _, st => st = .outside
  | .inside _, .release .state, _, st => st = .outside
  | .inside s, e, r, st => ∃ s', st = .inside s' ∧ S.Leads s e r s'

/-- **The contract of calls**: `I` holds whenever nobody is behind the gate. -/
def calling : Contract Stand := ⟨S.AllowsCall I, S.LeadsCall I⟩

end

variable {S : Surroundings} {I : Core → Prop} {α : Type} {s : Scene}

theorem meets_inside {w : Work α} {Q : α → Scene → Prop} (h : w.Meets S.behind Q s) :
    w.Meets (S.calling I) (fun r st => ∃ s', st = .inside s' ∧ Q r s') (.inside s) := by
  induction w generalizing s with
  | done a => exact ⟨s, rfl, h⟩
  | ask e next ih =>
    obtain ⟨hallows, hnext⟩ := h
    have hrest : ∀ r st, (∃ s', st = .inside s' ∧ S.Leads s e r s') →
        (next r).Meets (S.calling I) (fun r st => ∃ s', st = .inside s' ∧ Q r s') st := by
      rintro r st ⟨s', rfl, hleads⟩
      exact ih r (hnext r s' hleads)
    cases e with
    | release g =>
      cases g with
      | state => exact absurd hallows id
      | fetch => exact ⟨hallows, hrest⟩
    | _ => exact ⟨hallows, hrest⟩

theorem meets_session_outside {Q : Except Exit Session → Stand → Prop}
    (h : ∀ session, Q (.ok session) .outside) : Op.session.Meets (S.calling I) Q .outside := by
  refine Op.meets_bind.mpr (Op.meets_lift.mpr ⟨trivial, ?_⟩)
  rintro site st rfl
  exact h site.session

/-- **An operation that goes through the gate is a call**, if it keeps what holds whenever nobody is
behind the gate. -/
theorem calling_guarded {op : Op α} {may : Core → Prop} {turn : Conditions → Core → Core.Turn α}
    {items : α → List (Option RunState)} (hop : S.Guards op may turn items)
    (hmay : ∀ c, I c → may c) (hturn : ∀ c k, I c → S.Suits c k → I (turn k c).core) :
    op.Meets (S.calling I) (fun _ st => st = .outside) .outside := by
  obtain ⟨w, rfl, hdoes⟩ := hop
  rw [Op.guarded, Op.meets_bind, Op.enter]
  refine Op.meets_bind.mpr (Op.meets_perform.mpr ⟨trivial, ?_⟩)
  rintro r st ⟨rfl, s, rfl, hI, hs⟩
  refine Op.meets_unwrap_back.mpr (Op.meets_ensure.mpr ?_)
  refine (meets_inside (hdoes _ s (hmay _ hI) hs)).mono ?_
  rintro r st ⟨s', rfl, k, hk, -, h'⟩
  have hI' : I s'.site.core := by
    rw [h'.core]
    exact hturn _ k hI hk
  exact Work.meets_perform.mpr ⟨hI', fun _ _ hst => hst⟩

/-- What surrounds a call on a run whose session began with some core: instants at which notices can be
raised, and a service that answers or cannot be reached. Where nothing is stored, only a run that begins
may store something. -/
def ofCall (c₀ : Core) (begins : Bool) : Surroundings where
  within t := c₀.session.board.dated t = .ok ()
  answers m o := m = Call.getResources.message → o.isReply = true
  grants c d := begins = true ∨
    (c.storage.table c₀.session.store = [] → d.storage.table c₀.session.store = [])
  some_answer := ⟨.unreachable "" "", fun _ => rfl⟩
  grants_of_storage h := .inr fun hnone => by rw [h]; exact hnone

end Surroundings

/-- **What holds whenever nobody is behind the gate** of a session that began with some core. -/
structure Core.Ready (c₀ c : Core) : Prop where
  orderly : c.Orderly
  stays : c₀.Stays c

/-- What is asked of the run is a call of those that may be made side by side. -/
def RunAction.isCall : RunAction → Bool
  | begin .. | apply _ | reset | reconcile => true
  | restore _ | close => false

/-- What is asked is that a run begins. -/
def RunAction.begins : RunAction → Bool
  | begin .. => true
  | _ => false

namespace Surroundings

variable {c₀ c : Core} {k : Conditions} {b : Bool}

theorem calm_ofCall (h : c₀.Ready c) : (ofCall c₀ b).Calm c := by
  intro t ht
  rw [h.stays.board]
  exact ht

theorem free_ofCall (h : c₀.Ready c) (hactive : c.session.state.phase.isActive = true) :
    (ofCall c₀ b).Free c := by
  intro d e hstorage _
  refine .inr fun hnone => ?_
  have hagrees := h.orderly.agrees
  rw [Core.Agrees, if_pos (h.orderly.running hactive), Core.stored, h.stays.store, ← hstorage,
    hnone] at hagrees
  exact absurd hagrees.symm (Record.encode_ne_nil _)

theorem mayApply_ofCall (h : c₀.Ready c) : (ofCall c₀ b).MayApply c :=
  ⟨h.orderly.fetchGate, free_ofCall h⟩

/-- Only the store of the session is cleared, where nothing may be stored then. -/
theorem grants_reset (h : c₀.Ready c) : (ofCall c₀ b).grants c.forgotten c.forgotten.clear.core := by
  refine .inr fun _ => ?_
  have hreliable := h.orderly.reliable.kept (Core.stays_forgotten c)
  obtain ⟨-, hstored⟩ := hreliable.clear_spec
  rw [Core.stored, Core.session_clear] at hstored
  rw [← h.stays.store]
  exact hstored

/-- **Every call on the run keeps the contract of calls.** -/
theorem meets_call (c₀ : Core) {a : RunAction} (ha : a.isCall = true) :
    a.op.Meets ((ofCall c₀ a.begins).calling c₀.Ready) (fun _ st => st = .outside) .outside := by
  cases a with
  | begin mode transfer shards instances =>
    refine Op.meets_map.mpr (calling_guarded (guards_begin _ mode transfer shards instances)
      (fun c _ d _ => .inl rfl) fun c k h _ => ?_)
    exact ⟨h.orderly.begin mode transfer shards instances, h.stays.trans (Core.stays_begin ..)⟩
  | apply report =>
    refine Op.meets_map.mpr (calling_guarded (guards_apply _ report)
      (fun c h => mayApply_ofCall h) fun c k h hk => ?_)
    exact ⟨h.orderly.apply (hk.answer rfl) (hk.notice.calm (calm_ofCall h)) report,
      h.stays.trans (Core.kept_apply k report c).toStays⟩
  | reset =>
    refine Op.meets_bind.mpr ((calling_guarded (guards_reset _) (fun c h => grants_reset h)
      fun c k h _ => ⟨h.orderly.reset, h.stays.trans (Core.stays_reset c)⟩).mono ?_)
    rintro (e | _) st hst
    · exact hst
    · exact hst
  | reconcile =>
    have hguards : (ofCall c₀ false).Guards (Op.guarded .state Reconcile.fetch)
        (fun c => c.session.fetchGate = {}) (fun k c => c.fetch k.answer) fun _ => [] :=
      ⟨_, rfl, does_fetch (ofCall c₀ false)⟩
    have hfetch := calling_guarded (I := c₀.Ready) hguards
      (fun c h => h.orderly.fetchGate) fun c k h _ =>
        ⟨h.orderly.fetch k.answer, h.stays.trans (Core.kept_fetch k.answer c).toStays⟩
    refine Op.meets_map.mpr (Op.meets_bind.mpr (meets_session_outside fun session => ?_))
    cases hbare : session.isBare with
    | true =>
      simp only [Op.after_ok, hbare, if_true]
      exact Op.meets_bind.mpr rfl
    | false =>
      simp only [Op.after_ok, hbare]
      refine hfetch.mono ?_
      rintro (e | _) st hst
      · exact hst
      · exact hst
  | restore r => cases ha
  | close => cases ha

end Surroundings

end Cutover
