import Cutover.Proofs.World.Alone

/-!
# Views of a session

A view shows a part of a session in which gates, latch and readers do not appear. While an operation is done
alone the view changes as the operation changes the session, and not by itself.

* `View`: what is shown of a session;
* `View.meets_modify`, `View.meets_traced`, `View.meets_send`, …: one lemma for each way to ask, seen from a
  view;
* `View.meets_fetch`: a fetch, whatever comes of it;
* `View.hosts`: **work that leaves alone what is viewed**.
-/

namespace Cutover

/-- What is shown of a session, gates, latch and readers aside. -/
structure View (τ : Type) where
  of : Session → τ
  still : ∀ s stateGate fetchGate latch streams, of { s with stateGate, fetchGate, latch, streams } = of s

namespace View

variable {τ α : Type} (V : View τ) {S : Surroundings} {s : Scene} {Q : Except Exit α → Scene → Prop}

/-- What is shown of a scene. -/
def shows (s : Scene) : τ := V.of s.site.session

theorem shows_of_still {s s' : Scene} (h : s.site.Still s'.site) : V.shows s' = V.shows s := by
  obtain ⟨now, stateGate, fetchGate, latch, streams, hsite⟩ := h
  rw [View.shows, hsite]
  exact V.still ..

open Op

omit V in
theorem meets_site {Q : Except Exit Site → Scene → Prop} (h : Q (.ok s.site) s) : site.Meets S.sole Q s := by
  refine meets_lift.mpr ⟨trivial, ?_⟩
  rintro _ _ ⟨⟨⟨rfl, rfl⟩, -⟩, -⟩
  exact h

omit V in
theorem meets_session {Q : Except Exit Session → Scene → Prop} (h : Q (.ok s.site.session) s) :
    session.Meets S.sole Q s :=
  meets_bind.mpr (meets_site h)

theorem meets_update {f : Site → Site} {Q : Unit → Scene → Prop}
    (h : ∀ s', V.shows s' = V.of (f s.site).session → Q () s') : (Work.update f).Meets S.sole Q s := by
  refine ⟨trivial, ?_⟩
  rintro _ s₁ ⟨⟨⟨rfl, rfl⟩, -⟩, -⟩
  refine ⟨trivial, ?_⟩
  rintro _ s₂ ⟨⟨rfl, -⟩, -⟩
  exact h _ rfl

theorem meets_modify {f : Session → Session} {Q : Except Exit Unit → Scene → Prop}
    (h : ∀ s', V.shows s' = V.of (f s.site.session) → Q (.ok ()) s') : (Op.modify f).Meets S.sole Q s :=
  meets_lift.mpr (V.meets_update h)

theorem meets_perform {e : Effect} (he : e.isOther = true) {Q : Except Exit e.Reply → Scene → Prop}
    (h : ∀ r s', S.LeadsAlone s e r s' → V.shows s' = V.shows s → Q (.ok r) s') : (perform e).Meets S.sole Q s :=
  Op.meets_perform.mpr ⟨trivial, fun r s' hr => h r s' hr.1 (V.shows_of_still (hr.2 he))⟩

theorem meets_traced {span : Span} {w : Nat → Op α}
    (h : ∀ id s₁, V.shows s₁ = V.shows s →
      (w id).Meets S.sole (fun r t => ∀ t', V.shows t' = V.shows t → Q r t') s₁) :
    (traced span w).Meets S.sole Q s := by
  refine meets_bind.mpr (meets_lift.mpr ⟨trivial, ?_⟩)
  rintro _ s₁ ⟨⟨⟨rfl, rfl⟩, -⟩, -⟩
  refine ⟨trivial, ?_⟩
  rintro _ s₂ ⟨⟨rfl, -⟩, -⟩
  refine meets_ensure.mpr ((h _ _ ?_).mono fun r t hr => V.meets_update fun s' hs' => ?_)
  · rfl
  · exact hr s' hs'

theorem meets_tag {id : Nat} {key : String} {value : Value} {Q : Except Exit Unit → Scene → Prop}
    (h : ∀ s', V.shows s' = V.shows s → Q (.ok ()) s') : (tag id key value).Meets S.sole Q s :=
  meets_lift.mpr (V.meets_update h)

theorem meets_announce {text : String} {level : Level} {Q : Except Exit Unit → Scene → Prop}
    (h : ∀ s', V.shows s' =
        V.of { s.site.session with board := (s.site.session.board.transient s.site.now (.text text) level).1 } →
      Q (((s.site.session.board.transient s.site.now (.text text) level).2.map fun _ => ()).mapError .fault) s') :
    (announce text level).Meets S.sole Q s := by
  refine meets_bind.mpr (meets_site ?_)
  rw [after_ok]
  generalize s.site.session.board.transient s.site.now (.text text) level = raised at h
  obtain ⟨board, result⟩ := raised
  refine meets_bind.mpr (V.meets_modify fun s' hs' => ?_)
  refine meets_bind.mpr (meets_ofExcept.mpr ?_)
  cases result with
  | ok notice => exact h s' hs'
  | error f => exact h s' hs'

theorem meets_alarm {message : Value} {Q : Except Exit Unit → Scene → Prop}
    (h : ∀ s', V.shows s' =
        V.of { s.site.session with board := (s.site.session.board.persistent s.site.now message .error).1 } →
      Q (.ok ()) s') : (alarm message).Meets S.sole Q s :=
  meets_bind.mpr (meets_site (V.meets_modify h))

/-! ## Calls -/

theorem meets_send {call : Call} {Q : Except Exit Answer → Scene → Prop} (hsendable : call.message.isSendable = true)
    (h : ∀ o s', S.answers call.message o → V.shows s' = V.shows s → Q ((o.received call).mapError .fault) s') :
    call.send.Meets S.sole Q s := by
  refine V.meets_traced fun id s₁ h₁ => ?_
  simp only [hsendable]
  refine meets_bind.mpr (V.meets_perform rfl fun r s₂ hr h₂ => ?_)
  obtain ⟨⟨⟨o, ho, rfl⟩, -⟩, -⟩ := hr
  have hsame : V.shows s₂ = V.shows s := h₂.trans h₁
  refine meets_bind.mpr (meets_unwrap_back.mpr ?_)
  cases o with
  | answered a =>
    exact meets_bind.mpr (V.meets_tag fun s₃ h₃ s₄ h₄ => h _ s₄ ho (h₄.trans (h₃.trans hsame)))
  | unreachable failure text =>
    exact meets_bind.mpr (V.meets_tag fun s₃ h₃ s₄ h₄ => h _ s₄ ho (h₄.trans (h₃.trans hsame)))
  | failed f => exact fun s₃ h₃ => h _ s₃ ho (h₃.trans hsame)

theorem meets_readResources {Q : Except Exit ShardMap → Scene → Prop}
    (h : ∀ o s', S.answers Call.getResources.message o → V.shows s' = V.shows s → Q (o.shards.mapError .fault) s') :
    Call.readResources.Meets S.sole Q s :=
  meets_rescue.mpr (meets_bind.mpr (V.meets_send rfl fun o s' ho hs' =>
    Surroundings.after_shards (h o s' ho hs')))

end View

end Cutover
