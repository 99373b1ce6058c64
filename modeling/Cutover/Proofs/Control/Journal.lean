import Cutover.Proofs.Control.Operations

/-!
# A journal of what is done

What work behind the state gate does that others can see is written down in order: how the run moves on, what is
stored, which notices are raised, what is asked of the service, who is told.

* `Sign`, `Site.signs`: what can be seen of an effect;
* `Surroundings.journal`: **the contract with a journal** of all that was done so far;
* `Surroundings.journal_modify`, `Surroundings.journal_traced`, …: one lemma for each way to ask;
* `Surroundings.journal_clear`, `Surroundings.journal_fetch`: the record is removed, the resources are asked for.
-/

namespace Cutover

/-- What can be seen of what is done. -/
inductive Sign where
  /-- The state of the run is another. -/
  | moved (state : RunState)
  /-- A stop hook outside is called. -/
  | told (call : HookCall)
  /-- The configuration is another. -/
  | configured
  /-- The stored record is another. -/
  | stored (table : Table)
  /-- A notice is raised. -/
  | noticed (message : Value) (level : Level)
  /-- The poll loop is asked to end. -/
  | latched
  /-- A message is sent to the service. -/
  | asked (message : Message)
  /-- The readers are given a snapshot, or the end. -/
  | shown (item : Option RunState)
  /-- The state gate is gone through, and this is found behind it. -/
  | entered (core : Core)
  /-- The state gate is left, and this is left behind. -/
  | left (core : Core)

namespace Site

/-- What can be seen of a change from one site to another. -/
def turned (x y : Site) : List Sign :=
  (if y.session.state = x.session.state then [] else [.moved y.session.state]) ++
    (y.hookCalls.drop x.hookCalls.length).map .told ++
    (if y.session.fragments = x.session.fragments ∧ y.session.wizard = x.session.wizard then [] else [.configured]) ++
    (if y.storage.table x.session.store = x.storage.table x.session.store then []
      else [.stored (y.storage.table x.session.store)]) ++
    (y.session.board.active.drop x.session.board.active.length).map fun n => .noticed n.message n.level

/-- **What can be seen of an effect** that is asked for at a site. -/
def signs (x : Site) : Effect → List Sign
  | .change y => x.turned y
  | .send m => [.asked m]
  | .raiseLatch => [.latched]
  | .publish item => [.shown item]
  | .release .state => [.left x.core]
  | _ => []

theorem turned_of_same {x y : Site} (hstate : y.session.state = x.session.state) (hcalls : y.hookCalls = x.hookCalls)
    (hfragments : y.session.fragments = x.session.fragments) (hwizard : y.session.wizard = x.session.wizard)
    (hstorage : y.storage = x.storage) (hboard : y.session.board.active = x.session.board.active) :
    x.turned y = [] := by
  simp [turned, hstate, hcalls, hfragments, hwizard, hstorage, hboard]

theorem turned_moved {x : Site} {f : Session → Session} {s : RunState} (hstate : (f x.session).state = s)
    (hmoves : s ≠ x.session.state) (hfragments : (f x.session).fragments = x.session.fragments)
    (hwizard : (f x.session).wizard = x.session.wizard)
    (hboard : (f x.session).board.active = x.session.board.active) : x.turned (x.onSession f) = [.moved s] := by
  simp [turned, onSession, hstate, hmoves, hfragments, hwizard, hboard]

end Site

namespace Surroundings

/-- **The contract with a journal** of what can be seen of all that was done. -/
def journal (S : Surroundings) : Contract (Scene × List Sign) where
  allows _ _ := True
  leads x e r x' := S.Leads x.1 e r x'.1 ∧ x'.2 = x.2 ++ x.1.site.signs e

/-- A scene shows a core, and the journal is as it is said. -/
structure Shows (S : Surroundings) (c : Core) (l : List Sign) (x : Scene × List Sign) : Prop where
  core : x.1.site.core = c
  within : S.within x.1.site.now
  log : x.2 = l

variable {S : Surroundings} {α β : Type} {c d : Core} {l g : List Sign} {x : Scene × List Sign}

namespace Shows

theorem session (h : S.Shows c l x) : x.1.site.session.core = c.session := congrArg Core.session h.core

theorem storage (h : S.Shows c l x) : x.1.site.storage = c.storage := congrArg Core.storage h.core

theorem hookCalls (h : S.Shows c l x) : x.1.site.hookCalls = c.hookCalls := congrArg Core.hookCalls h.core

theorem read (h : S.Shows c l x) (f : Session → β) (hf : ∀ t : Session, f t.core = f t) :
    f x.1.site.session = f c.session := by
  rw [← h.session, hf]

theorem state (h : S.Shows c l x) : x.1.site.session.state = c.session.state :=
  h.read Session.state fun _ => rfl

/-- The scene of an effect that is no change shows what the contract says, and its signs are written down. -/
theorem next {s' : Scene} {e : Effect} {x' : Scene × List Sign} {p : List (Option RunState)} (h : S.Shows c l x)
    (hx' : x'.2 = x.2 ++ x.1.site.signs e) (hs' : x'.1 = s') (hat : S.At d p s') (hnew : x.1.site.signs e = g) :
    S.Shows d (l ++ g) x' := by
  subst hs'
  exact ⟨hat.core, hat.within, by rw [hx', h.log, hnew]⟩

end Shows

/-! ## Looking and changing -/

theorem journal_site {Q : Except Exit Site → Scene × List Sign → Prop} (h : Q (.ok x.1.site) x) :
    Op.site.Meets S.journal Q x := by
  refine Op.meets_lift.mpr ⟨trivial, ?_⟩
  rintro _ ⟨s', l'⟩ ⟨⟨rfl, rfl⟩, hlog⟩
  obtain rfl : l' = x.2 := hlog.trans (List.append_nil _)
  exact h

theorem journal_session {Q : Except Exit Session → Scene × List Sign → Prop} (h : Q (.ok x.1.site.session) x) :
    Op.session.Meets S.journal Q x :=
  Op.meets_bind.mpr (journal_site h)

theorem journal_change {y : Site} {Q : Unit → Scene × List Sign → Prop} (h : S.Shows c l x) (hcore : y.core = d)
    (hnew : x.1.site.turned y = g) (hQ : ∀ x', S.Shows d (l ++ g) x' → Q () x') :
    (Work.perform (.change y)).Meets S.journal Q x := by
  refine ⟨trivial, ?_⟩
  rintro _ ⟨s', l'⟩ ⟨rfl, hlog⟩
  exact hQ _ ⟨hcore, h.within, by rw [← hnew, ← h.log]; exact hlog⟩

theorem journal_update {f : Site → Site} {Q : Unit → Scene × List Sign → Prop} (h : S.Shows c l x)
    (hcore : (f x.1.site).core = d) (hnew : x.1.site.turned (f x.1.site) = g)
    (hQ : ∀ x', S.Shows d (l ++ g) x' → Q () x') : (Work.update f).Meets S.journal Q x := by
  refine ⟨trivial, ?_⟩
  rintro _ ⟨s', l'⟩ ⟨⟨rfl, rfl⟩, hlog⟩
  obtain rfl : l' = x.2 := hlog.trans (List.append_nil _)
  exact journal_change h hcore hnew hQ

theorem journal_modify {f : Session → Session} {Q : Except Exit Unit → Scene × List Sign → Prop} (h : S.Shows c l x)
    (hcore : (f x.1.site.session).core = f x.1.site.session.core)
    (hnew : x.1.site.turned (x.1.site.onSession f) = g)
    (hQ : ∀ x', S.Shows (c.onSession f) (l ++ g) x' → Q (.ok ()) x') : (Op.modify f).Meets S.journal Q x := by
  refine Op.meets_lift.mpr (journal_update (d := c.onSession f) h ?_ hnew hQ)
  rw [← h.core]
  exact congrArg (Core.mk · _ _) hcore

theorem journal_unseen {f : Site → Site} {Q : Unit → Scene × List Sign → Prop} (h : S.Shows c l x)
    (hcore : (f x.1.site).core = d) (hnew : x.1.site.turned (f x.1.site) = [])
    (hQ : ∀ x', S.Shows d l x' → Q () x') : (Work.update f).Meets S.journal Q x :=
  journal_update h hcore hnew fun x' h' => hQ x' (by rwa [List.append_nil] at h')

theorem journal_modify_unseen {f : Session → Session} {Q : Except Exit Unit → Scene × List Sign → Prop}
    (h : S.Shows c l x) (hcore : (f x.1.site.session).core = f x.1.site.session.core)
    (hnew : x.1.site.turned (x.1.site.onSession f) = [])
    (hQ : ∀ x', S.Shows (c.onSession f) l x' → Q (.ok ()) x') : (Op.modify f).Meets S.journal Q x :=
  journal_modify h hcore hnew fun x' h' => hQ x' (by rwa [List.append_nil] at h')

/-! ## Spans and notices -/

theorem journal_traced {span : Span} {w : Nat → Op α} {Q : Except Exit α → Scene × List Sign → Prop}
    (h : S.Shows c l x) (hw : ∀ id x', S.Shows c l x' → (w id).Meets S.journal
      (fun r y => ∃ d l', S.Shows d l' y ∧ ∀ y', S.Shows d l' y' → Q r y') x') :
    (Op.traced span w).Meets S.journal Q x := by
  refine Op.meets_bind.mpr (Op.meets_lift.mpr ⟨trivial, ?_⟩)
  rintro _ ⟨s', l'⟩ ⟨⟨rfl, rfl⟩, hlog⟩
  obtain rfl : l' = x.2 := hlog.trans (List.append_nil _)
  refine Work.meets_bind.mpr (journal_change h h.core (Site.turned_of_same rfl rfl rfl rfl rfl rfl) fun x' h' => ?_)
  rw [List.append_nil] at h'
  refine Op.meets_ensure.mpr ((hw _ _ h').mono ?_)
  rintro r y ⟨d, l', hy, hQ⟩
  exact journal_unseen hy hy.core (Site.turned_of_same rfl rfl rfl rfl rfl rfl) hQ

theorem journal_tag {id : Nat} {key : String} {value : Value} {Q : Except Exit Unit → Scene × List Sign → Prop}
    (h : S.Shows c l x) (hQ : ∀ x', S.Shows c l x' → Q (.ok ()) x') : (Op.tag id key value).Meets S.journal Q x :=
  Op.meets_lift.mpr (journal_unseen h h.core (Site.turned_of_same rfl rfl rfl rfl rfl rfl) hQ)

theorem turned_post {y : Site} {b : Board} {n : Notice} (hactive : b.active = y.session.board.active ++ [n]) :
    y.turned (y.onSession fun s => { s with board := b }) = [.noticed n.message n.level] := by
  simp [Site.turned, Site.onSession, hactive]

theorem journal_announce {text : String} {level : Level} {Q : Except Exit Unit → Scene × List Sign → Prop}
    (h : S.Shows c l x) (hcalm : S.Calm c)
    (hQ : ∀ x', S.Shows c (l ++ [.noticed (.text text) level]) x' → Q (.ok ()) x') :
    (Op.announce text level).Meets S.journal Q x := by
  have httl : x.1.site.session.board.ttl = c.session.board.ttl := h.read (fun t => t.board.ttl) fun _ => rfl
  have hdated : x.1.site.session.board.dated x.1.site.now = .ok () := by
    rw [← hcalm _ h.within]
    simp only [Board.dated, Board.expiry, httl]
  refine Op.meets_bind.mpr (journal_site ?_)
  rw [Op.after_ok, Board.transient]
  cases he : x.1.site.session.board.expiry x.1.site.now with
  | error f =>
    rw [Board.dated, he] at hdated
    cases hdated
  | ok due =>
    refine Op.meets_bind.mpr (Op.meets_lift.mpr
      (journal_update (d := c) h h.core (turned_post rfl) fun x' h' => ?_))
    exact Op.meets_bind.mpr (hQ x' h')

theorem journal_alarm {message : Value} {Q : Except Exit Unit → Scene × List Sign → Prop} (h : S.Shows c l x)
    (hQ : ∀ x', S.Shows c (l ++ [.noticed message .error]) x' → Q (.ok ()) x') :
    (Op.alarm message).Meets S.journal Q x := by
  exact Op.meets_bind.mpr (journal_site (Op.meets_lift.mpr (journal_update (d := c) h h.core (turned_post rfl) hQ)))

/-! ## Waits and the service -/

theorem journal_storageTurn {Q : Except Exit Unit → Scene × List Sign → Prop} (h : S.Shows c l x)
    (hQ : ∀ x', S.Shows c l x' → Q (.ok ()) x') : Op.storageTurn.Meets S.journal Q x := by
  refine Op.meets_bind.mpr (Op.meets_perform.mpr ⟨trivial, ?_⟩)
  rintro _ x' ⟨⟨rfl, hat⟩, hlog⟩
  have h' := h.next (g := []) hlog rfl hat rfl
  rw [h.core, List.append_nil] at h'
  exact hQ x' h'

theorem journal_send {call : Call} {Q : Except Exit Answer → Scene × List Sign → Prop} (h : S.Shows c l x)
    (hsendable : call.message.isSendable = true)
    (hQ : ∀ o x', S.answers call.message o → S.Shows c (l ++ [.asked call.message]) x' →
      Q ((o.received call).mapError .fault) x') : call.send.Meets S.journal Q x := by
  refine journal_traced h fun id x₁ h₁ => ?_
  simp only [hsendable]
  refine Op.meets_bind.mpr (Op.meets_perform.mpr ⟨trivial, ?_⟩)
  rintro r x₂ ⟨⟨⟨o, ho, rfl⟩, hat⟩, hlog⟩
  have h₂ := h₁.next hlog rfl hat rfl
  rw [h₁.core] at h₂
  refine Op.meets_bind.mpr (Op.meets_unwrap_back.mpr ?_)
  cases o with
  | answered a =>
    exact Op.meets_bind.mpr (journal_tag h₂ fun x₃ h₃ => ⟨_, _, h₃, fun x₄ h₄ => hQ _ x₄ ho h₄⟩)
  | unreachable failure text =>
    exact Op.meets_bind.mpr (journal_tag h₂ fun x₃ h₃ => ⟨_, _, h₃, fun x₄ h₄ => hQ _ x₄ ho h₄⟩)
  | failed f => exact ⟨_, _, h₂, fun x₄ h₄ => hQ _ x₄ ho h₄⟩

theorem journal_publish {item : Option RunState} {Q : Except Exit Unit → Scene × List Sign → Prop}
    (h : S.Shows c l x) (hQ : ∀ x', S.Shows c (l ++ [.shown item]) x' → Q (.ok ()) x') :
    (Op.perform (.publish item)).Meets S.journal Q x := by
  refine Op.meets_perform.mpr ⟨trivial, ?_⟩
  rintro _ x' ⟨hat, hlog⟩
  have hat : S.At x.1.site.core (x.1.published ++ [item]) x'.1 := hat
  have h' := h.next hlog rfl hat rfl
  rw [h.core] at h'
  exact hQ x' h'

theorem journal_snapshot {Q : Except Exit RunState → Scene × List Sign → Prop} (h : S.Shows c l x)
    (hsound : c.session.state.Sound) (hQ : Q (.ok c.session.state) x) : Control.snapshot.Meets S.journal Q x := by
  refine Op.meets_bind.mpr (journal_session ?_)
  rw [Op.after_ok, h.state, hsound.check_eq]
  exact hQ

/-! ## The storage -/

theorem journal_keep {name : String} {f : Storage → Except Fault α × Storage}
    {Q : Except Exit α → Scene × List Sign → Prop} (h : S.Shows c l x)
    (hnew : (if (f c.storage).2.table c.session.store = c.storage.table c.session.store then []
      else [.stored ((f c.storage).2.table c.session.store)]) = g)
    (hQ : ∀ x', S.Shows { c with storage := (f c.storage).2 } (l ++ g) x' →
      Q ((f c.storage).1.mapError .fault) x') : (Keep.traced name f).Meets S.journal Q x := by
  refine Op.meets_bind.mpr (journal_site (journal_traced h fun _ x₁ h₁ => ?_))
  refine Op.meets_bind.mpr (journal_storageTurn h₁ fun x₂ h₂ => Op.meets_bind.mpr (journal_site ?_))
  rw [Op.after_ok, h₂.storage]
  refine Op.meets_bind.mpr (Op.meets_lift.mpr (journal_change (d := { c with storage := (f c.storage).2 })
    (g := g) h₂ ?_ ?_ fun x₃ h₃ => Op.meets_ofExcept.mpr ⟨_, _, h₃, hQ⟩))
  · rw [← h₂.core]
    rfl
  · rw [← hnew, ← h₂.storage, ← h₂.read Session.store fun _ => rfl]
    simp [Site.turned]

theorem journal_clear {Q : Except Exit Unit → Scene × List Sign → Prop} (h : S.Shows c l x)
    (hfault : c.faults.clearError = none) (hknown : c.session.store < c.storage.stores.length)
    (hstored : c.stored ≠ []) (hQ : ∀ x', S.Shows c.clear.core (l ++ [.stored []]) x' → Q (.ok ()) x') :
    (Keep.clear c.session.store).Meets S.journal Q x := by
  obtain ⟨hresult, htable⟩ := Storage.clear_spec hknown
  have hclear : c.clear.core = { c with storage := (c.storage.clear c.session.store).2 } := by
    rw [Core.clear, hfault]
    rfl
  refine Op.meets_bind.mpr (journal_site ?_)
  rw [Op.after_ok, h.storage, show (c.storage.faults c.session.store).clearError = none from hfault]
  refine Op.meets_bind.mpr (journal_keep (g := [.stored []]) (f := fun s => s.clear c.session.store) h ?_ fun x' h' => ?_)
  · rw [htable]
    exact if_neg fun hsame => hstored hsame.symm
  · rw [hresult]
    rw [← hclear] at h'
    exact hQ x' h'

/-! ## The resources -/

/-- What is asked of the service for the resources that a core may keep. -/
def fetchSigns (c : Core) : List Sign :=
  match c.session.resources with
  | some _ => []
  | none => [.asked Call.getResources.message]

theorem journal_readResources {Q : Except Exit ShardMap → Scene × List Sign → Prop} (h : S.Shows c l x)
    (hQ : ∀ o x', S.answers Call.getResources.message o → S.Shows c (l ++ [.asked Call.getResources.message]) x' →
      Q (o.shards.mapError .fault) x') : Call.readResources.Meets S.journal Q x := by
  rw [Call.readResources, Op.meets_rescue, Op.meets_bind]
  exact journal_send h rfl fun o x' ho h' => after_shards (hQ o x' ho h')

theorem journal_fetchNow {Q : Except Exit (List Resource) → Scene × List Sign → Prop} (h : S.Shows c l x)
    (hnone : c.session.resources = none)
    (hQ : ∀ o x', S.answers Call.getResources.message o →
      S.Shows (c.fetch o).core (l ++ [.asked Call.getResources.message]) x' →
        Q ((c.fetch o).result.mapError .fault) x') : Reconcile.fetchNow.Meets S.journal Q x := by
  refine Op.meets_bind.mpr (journal_traced h fun id x₁ h₁ => ?_)
  refine Op.meets_bind.mpr (journal_modify_unseen h₁ rfl (Site.turned_of_same rfl rfl rfl rfl rfl rfl) fun x₂ h₂ => ?_)
  refine Op.meets_bind.mpr (journal_readResources h₂ fun o x₃ ho h₃ => ?_)
  have hQ' := hQ o
  simp only [Core.fetch, hnone, Outcome.resources] at hQ'
  cases hshards : o.shards with
  | error f =>
    simp only [hshards, Except.map] at hQ'
    exact ⟨_, _, h₃, fun x₄ h₄ => hQ' x₄ ho h₄⟩
  | ok m =>
    simp only [hshards, Except.map] at hQ'
    refine Op.meets_bind.mpr (journal_tag h₃ fun x₄ h₄ => ⟨_, _, h₄, fun x₅ h₅ => ?_⟩)
    exact Op.meets_bind.mpr (journal_modify_unseen h₅ rfl (Site.turned_of_same rfl rfl rfl rfl rfl rfl)
      fun x₆ h₆ => hQ' x₆ ho h₆)

theorem journal_fetch {Q : Except Exit (List Resource) → Scene × List Sign → Prop} (h : S.Shows c l x)
    (hgate : c.session.fetchGate = {})
    (hQ : ∀ o x', S.answers Call.getResources.message o → S.Shows (c.fetch o).core (l ++ fetchSigns c) x' →
      Q ((c.fetch o).result.mapError .fault) x') : Reconcile.fetch.Meets S.journal Q x := by
  refine Op.meets_bind.mpr (Op.meets_bind.mpr (Op.meets_perform.mpr ⟨trivial, ?_⟩))
  rintro _ x₁ ⟨⟨rfl, hat⟩, hlog⟩
  have h₁ := h.next (g := []) hlog rfl hat rfl
  rw [h.core, List.append_nil] at h₁
  -- The gate opens again whatever was done with the rest of the core.
  have hrelease : ∀ {d : Core} {l' : List Sign} {r : Except Exit (List Resource)} {y : Scene × List Sign},
      S.Shows (gated true d) l' y → d.session.fetchGate = {} → (∀ y', S.Shows d l' y' → Q r y') →
        (Work.perform (.release .fetch)).Meets S.journal (fun _ y' => Q r y') y := by
    rintro ⟨session, storage, hookCalls⟩ l' r y hy hd hr
    refine Work.meets_perform.mpr ⟨trivial, fun _ y' hlead => hr y' ?_⟩
    obtain ⟨hat, hlog⟩ := hlead
    have hat : S.At (gated false y.1.site.core) y.1.published y'.1 := hat
    have hy' := hy.next (g := []) hlog rfl hat rfl
    rw [hy.core, List.append_nil] at hy'
    cases session
    cases hd
    exact hy'
  refine Op.meets_unwrap_back.mpr (Op.meets_ensure.mpr (Op.meets_bind.mpr (journal_session ?_)))
  have hresources : x₁.1.site.session.resources = c.session.resources := h₁.read Session.resources fun _ => rfl
  rw [Op.after_ok, hresources]
  unfold fetchSigns at hQ
  cases hc : c.session.resources with
  | some items =>
    refine hrelease h₁ hgate fun y hy => ?_
    obtain ⟨o, ho⟩ := S.some_answer
    have hQ' := hQ o y ho
    rw [Core.fetch, hc] at hQ'
    exact hQ' (by rwa [List.append_nil])
  | none =>
    rw [hc] at hQ
    refine journal_fetchNow h₁ hc fun o y ho hy => ?_
    have hfetch : (gated true c).fetch o = ⟨(c.fetch o).result, gated true (c.fetch o).core⟩ := by
      simp only [Core.fetch, hc, show (gated true c).session.resources = none from hc]
      cases o.resources <;> rfl
    rw [hfetch] at hy ⊢
    exact hrelease hy ((Core.kept_fetch _ c).fetchGate.trans hgate) fun y' hy' => hQ o y' ho hy'

end Surroundings

end Cutover
