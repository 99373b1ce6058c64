import Cutover.Proofs.Control.Operations

/-!
# A fetch that is shared

Whoever reads the resources goes through a gate first. Behind it nobody else fetches, so that what is found there
stays until the answer has come, but for what somebody drops in the meantime.

* `Sharing`: what a reader knows of its fetch;
* `sharing`: **the contract of a reader**: it asks only behind the gate, once, where nothing is kept;
* `Sharing.Yields`: what comes of reading the resources;
* `Sharing.meets_fetch`: **a reader keeps to the contract**, and that comes of it.
-/

namespace Cutover

/-- **What a reader knows** of its fetch. -/
structure Sharing where
  site : Site
  /-- It is behind the gate. -/
  inside : Bool := false
  /-- What was kept when it came through the gate. -/
  found : Option (Option (List Resource)) := none
  /-- How often it asked the service. -/
  asked : Nat := 0
  /-- How many fetches it counted. -/
  counted : Nat := 0
  /-- How the service answered, or that the reader was cancelled while it waited. -/
  reply : Option (Waited Outcome) := none

/-- **The contract of a reader.** It asks only behind the gate, once, where nothing is kept, and has counted that
before; and it leaves the kept resources alone where it is not behind the gate. While it waits for the answer others
may change anything, but they keep nothing. -/
def sharing : Contract Sharing where
  allows s
    | .look => True
    | .change y => y.session.fetchGate = s.site.session.fetchGate ∧
        s.site.session.fetchCount ≤ y.session.fetchCount ∧
        (s.inside = false → y.session.resources = s.site.session.resources)
    | .acquire .fetch => s = { site := s.site }
    | .release .fetch => s.inside = true
    | .send m => m = Call.getResources.message ∧ s.site.session.resources = none ∧
        s = { site := s.site, inside := true, found := some none, counted := 1 }
    | _ => False
  leads s
    | .look, r, s' => r = s.site ∧ s' = s
    | .change y, _, s' => s' =
        { s with
          site := { y with now := s.site.now }
          counted := s.counted + (y.session.fetchCount - s.site.session.fetchCount) }
    | .acquire _, .back (), s' => ∃ site, s' = { s with site, inside := true, found := some site.session.resources }
    | .acquire _, .cancelled, s' => ∃ site, s' = { s with site, reply := some .cancelled }
    | .release _, _, s' => ∃ gate, s' =
        { s with site := s.site.onSession fun t => { t with fetchGate := gate }, inside := false }
    | .send _, r, s' => ∃ site, site.session.resources = none ∧ s' = { s with site, asked := s.asked + 1, reply := some r }
    | _, _, _ => False

namespace Sharing

variable {α : Type} {s : Sharing}

/-- What a reader gets who asked the service. -/
def gets : Waited Outcome → Except Exit (List Resource)
  | .back o => o.resources.mapError .fault
  | .cancelled => .error .cancelled

/-- **What comes of reading the resources.** Who does not come through the gate was cancelled. Who finds resources
gets them and does not ask. Who finds none asks once, gets what the service answers and keeps it, or nothing. -/
structure Yields (r : Except Exit (List Resource)) (s : Sharing) : Prop where
  outside : s.inside = false
  counted : s.counted = s.asked
  cancelled : s.found = none → r = .error .cancelled ∧ s.asked = 0 ∧ s.reply = some .cancelled
  finds : ∀ items, s.found = some (some items) → r = .ok items ∧ s.asked = 0 ∧ s.site.session.resources = some items
  asks : s.found = some none → s.asked = 1 ∧ ∃ answer, s.reply = some answer ∧ r = gets answer ∧
    s.site.session.resources = (gets answer).toOption

/-- The reader with another trace. -/
def retraced (s : Sharing) (trace : Trace) : Sharing := { s with site := { s.site with trace } }

open Op

theorem meets_session {Q : Except Exit Session → Sharing → Prop} (h : Q (.ok s.site.session) s) :
    Op.session.Meets sharing Q s := by
  refine meets_bind.mpr (meets_lift.mpr ⟨trivial, ?_⟩)
  rintro _ _ ⟨rfl, rfl⟩
  exact h

theorem meets_update {f : Site → Site} {Q : Unit → Sharing → Prop}
    (hgate : (f s.site).session.fetchGate = s.site.session.fetchGate)
    (hcounted : s.site.session.fetchCount ≤ (f s.site).session.fetchCount)
    (hkept : s.inside = false → (f s.site).session.resources = s.site.session.resources)
    (h : Q () { s with
      site := { f s.site with now := s.site.now }
      counted := s.counted + ((f s.site).session.fetchCount - s.site.session.fetchCount) }) :
    (Work.update f).Meets sharing Q s := by
  refine ⟨trivial, ?_⟩
  rintro _ s ⟨rfl, rfl⟩
  refine ⟨⟨hgate, hcounted, hkept⟩, ?_⟩
  rintro _ _ rfl
  exact h

theorem meets_retrace {f : Site → Site} {Q : Unit → Sharing → Prop} (hf : ∀ x, ∃ trace, f x = { x with trace })
    (h : ∀ trace, Q () (s.retraced trace)) : (Work.update f).Meets sharing Q s := by
  obtain ⟨trace, hx⟩ := hf s.site
  have hsame := h trace
  refine meets_update (by rw [hx]) (Nat.le_of_eq (by rw [hx])) (fun _ => by rw [hx]) ?_
  rw [hx, Nat.sub_self]
  exact hsame

theorem meets_keep {items : List Resource} {Q : Except Exit Unit → Sharing → Prop} (hinside : s.inside = true)
    (h : Q (.ok ()) { s with site := s.site.onSession fun t => { t with resources := some items } }) :
    (modify fun t => { t with resources := some items }).Meets sharing Q s := by
  refine meets_lift.mpr (meets_update rfl (Nat.le_refl _) (fun hout => ?_) ?_)
  · cases hinside.symm.trans hout
  · simpa [Site.onSession] using h

theorem meets_tag {id : Nat} {key : String} {value : Value} {Q : Except Exit Unit → Sharing → Prop}
    (h : ∀ trace, Q (.ok ()) (s.retraced trace)) : (tag id key value).Meets sharing Q s :=
  meets_lift.mpr (meets_retrace (fun _ => ⟨_, rfl⟩) h)

theorem meets_traced {span : Span} {w : Nat → Op α} {Q : Except Exit α → Sharing → Prop}
    (h : ∀ id trace, (w id).Meets sharing (fun r s' => ∀ trace, Q r (s'.retraced trace)) (s.retraced trace)) :
    (traced span w).Meets sharing Q s := by
  refine meets_bind.mpr (meets_lift.mpr ⟨trivial, ?_⟩)
  rintro _ _ ⟨rfl, rfl⟩
  refine ⟨⟨rfl, Nat.le_refl _, fun _ => rfl⟩, ?_⟩
  rintro _ _ rfl
  rw [Nat.sub_self]
  exact meets_ensure.mpr ((h _ _).mono fun r s' hr => meets_retrace (fun _ => ⟨_, rfl⟩) hr)

/-- A reader behind the gate that found nothing, with a fetch that it counted. -/
def ready (x : Site) : Sharing := { site := x, inside := true, found := some none, counted := 1 }

/-- It has an answer, and nothing is kept. -/
def answered (x : Site) (answer : Waited Outcome) : Sharing := { ready x with asked := 1, reply := some answer }

theorem meets_send {x : Site} {Q : Except Exit Answer → Sharing → Prop} (hnone : x.session.resources = none)
    (hcancelled : ∀ y, y.session.resources = none → Q (.error .cancelled) (answered y .cancelled))
    (hQ : ∀ o y, y.session.resources = none →
      Q ((o.received .getResources).mapError .fault) (answered y (.back o))) :
    Call.getResources.send.Meets sharing Q (ready x) := by
  have hsendable : Call.getResources.message.isSendable = true := rfl
  rw [Call.send]
  refine meets_traced fun id trace => ?_
  simp only [hsendable]
  refine meets_bind.mpr (meets_perform.mpr ⟨⟨rfl, hnone, rfl⟩, ?_⟩)
  rintro r _ ⟨y, hy, rfl⟩
  refine meets_bind.mpr ?_
  cases r with
  | cancelled => exact fun trace => hcancelled _ hy
  | back o =>
    refine meets_unwrap_back.mpr ?_
    cases o with
    | answered a => exact meets_bind.mpr (meets_tag fun trace trace' => hQ (.answered a) _ hy)
    | unreachable failure text =>
      exact meets_bind.mpr (meets_tag fun trace trace' => hQ (.unreachable failure text) _ hy)
    | failed f => exact fun trace => hQ (.failed f) _ hy

theorem meets_readResources {x : Site} {Q : Except Exit ShardMap → Sharing → Prop} (hnone : x.session.resources = none)
    (hcancelled : ∀ y, y.session.resources = none → Q (.error .cancelled) (answered y .cancelled))
    (hQ : ∀ o y, y.session.resources = none → Q (o.shards.mapError .fault) (answered y (.back o))) :
    Call.readResources.Meets sharing Q (ready x) := by
  rw [Call.readResources, meets_rescue, meets_bind]
  exact meets_send hnone hcancelled fun o y hy => Surroundings.after_shards (hQ o y hy)

/-- **A fetch** where nothing is kept: what the service answers is kept. -/
theorem meets_fetchNow {x : Site} {Q : Except Exit (List Resource) → Sharing → Prop} (hnone : x.session.resources = none)
    (hQ : ∀ answer y, y.session.resources = (gets answer).toOption → Q (gets answer) (answered y answer)) :
    Reconcile.fetchNow.Meets sharing Q { site := x, inside := true, found := some none } := by
  rw [Reconcile.fetchNow, meets_bind]
  refine meets_traced fun id trace => meets_bind.mpr (meets_lift.mpr ?_)
  refine meets_update rfl (Nat.le_succ _) (fun hout => by cases hout) ?_
  -- One more fetch was counted.
  have hcounted : ∀ k : Nat, 0 + (k + 1 - k) = 1 := fun k => by omega
  refine meets_bind.mpr ?_
  simp only [retraced, Site.onSession, hcounted]
  refine meets_readResources hnone (fun y hy trace => hQ .cancelled _ hy) fun o y hy => ?_
  cases hshards : o.shards with
  | error f =>
    have hgets : gets (.back o) = .error (.fault f) := by rw [gets, Outcome.resources, hshards]; rfl
    intro trace
    have hfault := hQ (.back o) { y with trace } (by rw [hgets]; exact hy)
    rw [hgets] at hfault
    exact hfault
  | ok m =>
    have hgets : gets (.back o) = .ok (flattenResources m) := by rw [gets, Outcome.resources, hshards]; rfl
    refine meets_bind.mpr (meets_tag fun trace trace' => meets_bind.mpr (meets_keep rfl ?_))
    have hkept := hQ (.back o) ({ y with trace := trace' }.onSession fun t => { t with resources := some (flattenResources m) })
      (by rw [hgets]; rfl)
    rw [hgets] at hkept
    exact hkept

theorem meets_leave {r : Except Exit (List Resource)} (hinside : s.inside = true) (h : Yields r { s with inside := false }) :
    (Work.perform (.release .fetch)).Meets sharing (fun _ s' => Yields r s') s := by
  refine Work.meets_perform.mpr ⟨hinside, ?_⟩
  rintro _ _ ⟨gate, rfl⟩
  exact ⟨rfl, h.counted, h.cancelled, h.finds, h.asks⟩

/-- **Whoever reads the resources keeps to the contract**, and what comes of it is what should. -/
theorem meets_fetch (x : Site) : Reconcile.fetch.Meets sharing Yields { site := x } := by
  rw [Reconcile.fetch, guarded, meets_bind, enter, meets_bind]
  refine meets_perform.mpr ⟨rfl, fun r s' hr => ?_⟩
  cases r with
  | cancelled =>
    obtain ⟨y, rfl⟩ := hr
    exact ⟨rfl, rfl, fun _ => ⟨rfl, rfl, rfl⟩, fun _ hfound => (by cases hfound), fun hfound => (by cases hfound)⟩
  | back u =>
    obtain ⟨y, rfl⟩ := hr
    refine meets_unwrap_back.mpr (meets_ensure.mpr (meets_bind.mpr (meets_session ?_)))
    rw [after_ok]
    cases hkept : y.session.resources with
    | some items =>
      refine meets_leave rfl ⟨rfl, rfl, fun hfound => (by cases hfound), fun items' hfound => ?_, fun hfound => (by cases hfound)⟩
      cases hfound
      exact ⟨rfl, rfl, hkept⟩
    | none =>
      refine meets_fetchNow hkept fun answer y' hy' => meets_leave rfl ?_
      exact ⟨rfl, rfl, fun hfound => (by cases hfound), fun _ hfound => (by cases hfound), fun _ =>
        ⟨rfl, answer, rfl, rfl, hy'⟩⟩

end Sharing

end Cutover
