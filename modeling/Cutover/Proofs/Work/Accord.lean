import Cutover.Proofs.Store.Whole
import Cutover.Proofs.Work.Contract
import Cutover.Session.Action

/-!
# Accords

All work on a session keeps to an accord. Whenever work waits, what the accord says of the session
holds; so it holds again when the work goes on, whoever worked in the meantime. In between, nobody else
works, and the work may do as it likes.

* `Accord`: what holds whenever work waits, and what work may do to it;
* `Stretch`: what was to be seen when work went on last, and what is to be seen now;
* `Accord.contract`: the contract of all work;
* `Accord.Keeps`: an operation keeps to the accord wherever it is begun, with lemmas for the parts that
  operations are made of.
-/

namespace Cutover

/-- The effect is a wait: others may work before the reply comes. -/
def Effect.isWait : Effect → Bool
  | acquire _ => true
  | sleep _ => true
  | storageTurn => true
  | send _ => true
  | join _ => true
  | watchLatch _ => true
  | receive _ => true
  | _ => false

/-- An effect that is neither a look nor a change of the site. -/
def Effect.isOther : Effect → Bool
  | look => false
  | change _ => false
  | _ => true

/-- The fault of a state that is not sound, or of a change of phase that is not allowed. -/
def Fault.isUnsound : Fault → Bool
  | client (.badTransition _ _) => true
  | refused (.notAPercentage _ _) => true
  | refused .strayErrorText => true
  | _ => false

/-- **What all work on a session keeps to.** -/
structure Accord (V : Type) where
  /-- What the accord sees of a session. -/
  view : Session → V
  /-- What holds whenever work waits. -/
  holds : V → Prop
  /-- What work may do from one wait to the next, unless it may begin anew. -/
  may : V → V → Prop
  /-- How messages may be answered. -/
  answers : Message → Outcome → Prop
  /-- How work may end early. -/
  exits : Exit → Prop
  /-- What work may give. -/
  gives : Result → Prop
  /-- Gates, latch, readers and notices are not seen. -/
  blind : ∀ (s : Session) (stateGate fetchGate : Gate) (latch : Latch) (streams : List Stream)
    (board : Board), view { s with stateGate, fetchGate, latch, streams, board } = view s
  may_refl : ∀ v, may v v
  may_trans : ∀ {u v x}, may u v → may v x → may u x
  exits_cancelled : exits .cancelled
  gives_nothing : gives .nothing
  exits_sound : ∀ {f : Fault}, f.isUnsound = false → exits (.fault f)
  exits_failed : ∀ {m f}, answers m (.failed f) → exits (.fault f)

/-- What was to be seen when work went on last, and what is to be seen now. -/
structure Stretch (V : Type) where
  start : V
  now : V

namespace Accord

variable {V : Type} (A : Accord V) (anew : Bool)

/-- How a wait may end. -/
def Ends : (e : Effect) → e.Reply → Prop
  | .send m, .back o => A.answers m o
  | .join _, .back (.error x) => A.exits x
  | _, _ => True

/-- What work may do from one wait to the next. -/
def Grants (v v' : V) : Prop := anew = true ∨ A.may v v'

/-- Work may wait here. -/
structure Settled (s : Stretch V) : Prop where
  holds : A.holds s.now
  granted : A.Grants anew s.start s.now

/-- How work may go on. -/
def Leads (s : Stretch V) : (e : Effect) → e.Reply → Stretch V → Prop
  | .look, r, s' => s' = s ∧ A.view r.session = s.now
  | .change x, _, s' => s' = { s with now := A.view x.session }
  | e, r, s' => A.Ends e r ∧ (s' = s ∨ e.isWait = true ∧ ∃ v, A.holds v ∧ s' = ⟨v, v⟩)

/-- **The contract of all work**: it waits only where what the accord says holds. -/
def contract : Contract (Stretch V) where
  allows s e := e.isWait = true → A.Settled anew s
  leads := A.Leads

variable {α β : Type}

/-- What work comes to: something that `p` says, or an early end as it may be. -/
def Comes (p : α → Prop) : Except Exit α → Prop
  | .ok a => p a
  | .error e => A.exits e

/-- Work ended where it might wait. -/
def Well (p : α → Prop) (r : Except Exit α) (s : Stretch V) : Prop := A.Settled anew s ∧ A.Comes p r

/-- **An operation keeps to the accord** wherever it is begun, and gives what `p` says. -/
def Keeps (p : α → Prop) (op : Op α) : Prop :=
  ∀ s, A.Settled anew s → op.Meets (A.contract anew) (A.Well anew p) s

/-- An operation that gives anything keeps to the accord. -/
abbrev Keeping (op : Op α) : Prop := A.Keeps anew (fun _ => True) op

/-- Work at the end of an operation keeps to the accord. -/
def KeepsLast (w : Work Unit) : Prop :=
  ∀ s, A.Settled anew s → w.Meets (A.contract anew) (fun _ t => A.Settled anew t) s

variable {A} {anew} {p : α → Prop} {q : β → Prop} {s s' : Stretch V}

theorem grants_refl (v : V) : A.Grants anew v v := .inr (A.may_refl v)

theorem Grants.trans {u v x : V} (h : A.Grants anew u v) (h' : A.Grants anew v x) :
    A.Grants anew u x := by
  rcases h with h | h
  · exact .inl h
  · exact h'.imp_right (A.may_trans h)

theorem settled_fresh {v : V} (h : A.holds v) : A.Settled anew ⟨v, v⟩ := ⟨h, grants_refl v⟩

theorem Settled.next (h : A.Settled anew s) {e : Effect}
    (hs : s' = s ∨ e.isWait = true ∧ ∃ v, A.holds v ∧ s' = ⟨v, v⟩) : A.Settled anew s' := by
  rcases hs with rfl | ⟨-, v, hv, rfl⟩
  · exact h
  · exact settled_fresh hv

theorem Well.mono {p' : α → Prop} {r : Except Exit α} (h : A.Well anew p r s) (hp : ∀ a, p a → p' a) :
    A.Well anew p' r s := by
  cases r with
  | ok a => exact ⟨h.1, hp a h.2⟩
  | error e => exact h

theorem Keeps.mono {p' : α → Prop} {op : Op α} (h : A.Keeps anew p op) (hp : ∀ a, p a → p' a) :
    A.Keeps anew p' op := fun s hs => (h s hs).mono fun _ _ hw => hw.mono hp

theorem Keeps.keeping {op : Op α} (h : A.Keeps anew p op) : A.Keeping anew op := h.mono fun _ _ => trivial

/-! ## One operation after another -/

theorem keeps_pure {a : α} (h : p a) : A.Keeps anew p (pure a) := fun _ hs => ⟨hs, h⟩

theorem keeps_throw {e : Exit} (h : A.exits e) : A.Keeps anew p (throw e : Op α) := fun _ hs => ⟨hs, h⟩

theorem keeps_fail {f : Fault} (h : f.isUnsound = false) : A.Keeps anew p (Op.fail f : Op α) :=
  keeps_throw (A.exits_sound h)

theorem meets_then {op : Op α} {f : α → Op β} (h : op.Meets (A.contract anew) (A.Well anew p) s)
    (hf : ∀ a, p a → A.Keeps anew q (f a)) : (op >>= f).Meets (A.contract anew) (A.Well anew q) s := by
  refine Op.meets_bind.mpr (h.mono ?_)
  rintro (e | a) t hw
  · exact hw
  · exact hf a hw.2 t hw.1

theorem keeps_bind {op : Op α} {f : α → Op β} (h : A.Keeps anew p op)
    (hf : ∀ a, p a → A.Keeps anew q (f a)) : A.Keeps anew q (op >>= f) :=
  fun s hs => meets_then (h s hs) hf

theorem meets_map {op : Op α} {f : α → β} (h : op.Meets (A.contract anew) (A.Well anew p) s)
    (hf : ∀ a, p a → q (f a)) : (f <$> op).Meets (A.contract anew) (A.Well anew q) s := by
  refine Op.meets_map.mpr (h.mono ?_)
  rintro (e | a) t hw
  · exact hw
  · exact ⟨hw.1, hf a hw.2⟩

theorem keeps_map {op : Op α} {f : α → β} (h : A.Keeps anew p op) (hf : ∀ a, p a → q (f a)) :
    A.Keeps anew q (f <$> op) := fun s hs => meets_map (h s hs) hf

theorem keeps_tryCatch {op : Op α} {handle : Exit → Op α} (h : A.Keeps anew p op)
    (hhandle : ∀ e, A.exits e → A.Keeps anew p (handle e)) : A.Keeps anew p (tryCatch op handle) := by
  refine fun s hs => Op.meets_tryCatch.mpr ((h s hs).mono ?_)
  rintro (e | a) t hw
  · exact hhandle e hw.2 t hw.1
  · exact hw

theorem keeps_rescue {op : Op α} {handle : ServiceFault → Op α} (h : A.Keeps anew p op)
    (hhandle : ∀ f, A.Keeps anew p (handle f)) : A.Keeps anew p (Op.rescue op handle) := by
  refine keeps_tryCatch h fun e he => ?_
  split
  · exact hhandle _
  · exact keeps_throw he

theorem keeps_ofExcept {x : Except Fault α} (hok : ∀ a, x = .ok a → p a)
    (herror : ∀ f, x = .error f → A.exits (.fault f)) : A.Keeps anew p (Op.ofExcept x) := by
  cases x with
  | ok a => exact keeps_pure (hok a rfl)
  | error f => exact keeps_throw (herror f rfl)

theorem keeps_unwrap {x : Waited α} (h : ∀ a, x = .back a → p a) : A.Keeps anew p (Op.unwrap x) := by
  cases x with
  | back a => exact keeps_pure (h a rfl)
  | cancelled => exact keeps_throw A.exits_cancelled

theorem keeps_ite {c : Prop} [Decidable c] {op op' : Op α} (h : c → A.Keeps anew p op)
    (h' : ¬c → A.Keeps anew p op') : A.Keeps anew p (if c then op else op') := by
  split
  next hc => exact h hc
  next hc => exact h' hc

theorem meets_last {op : Op α} {last : Work Unit} (h : op.Meets (A.contract anew) (A.Well anew p) s)
    (hlast : A.KeepsLast anew last) : (op.ensure last).Meets (A.contract anew) (A.Well anew p) s :=
  Op.meets_ensure.mpr (h.mono fun _ t hw => (hlast t hw.1).mono fun _ _ ht => ⟨ht, hw.2⟩)

theorem keeps_ensure {op : Op α} {last : Work Unit} (h : A.Keeps anew p op)
    (hlast : A.KeepsLast anew last) : A.Keeps anew p (op.ensure last) :=
  fun s hs => meets_last (h s hs) hlast

/-! ## Effects -/

theorem Leads.other {e : Effect} {r : e.Reply} (he : e.isOther = true) (h : A.Leads s e r s') :
    A.Ends e r ∧ (s' = s ∨ e.isWait = true ∧ ∃ v, A.holds v ∧ s' = ⟨v, v⟩) := by
  cases e <;> first | exact h | cases he

theorem keeps_perform (e : Effect) (he : e.isOther = true) :
    A.Keeps anew (A.Ends e) (Op.perform e) := by
  refine fun s hs => Op.meets_perform.mpr ⟨fun _ => hs, fun r s' hleads => ?_⟩
  obtain ⟨hends, hnext⟩ := Leads.other he hleads
  exact ⟨hs.next hnext, hends⟩

/-! ## Looking and changing -/

variable {Q : Except Exit α → Stretch V → Prop}

theorem meets_site {Q : Except Exit Site → Stretch V → Prop}
    (hQ : ∀ x : Site, A.view x.session = s.now → Q (.ok x) s) :
    Op.site.Meets (A.contract anew) Q s := by
  refine Op.meets_lift.mpr ⟨nofun, ?_⟩
  rintro r s' ⟨rfl, hr⟩
  exact hQ r hr

theorem meets_session {Q : Except Exit Session → Stretch V → Prop}
    (hQ : ∀ x : Session, A.view x = s.now → Q (.ok x) s) :
    Op.session.Meets (A.contract anew) Q s :=
  Op.meets_bind.mpr (meets_site fun x hx => hQ x.session hx)

theorem meets_update {f : Site → Site} {Q : Unit → Stretch V → Prop}
    (hQ : ∀ x : Site, A.view x.session = s.now → Q () { s with now := A.view (f x).session }) :
    (Work.update f).Meets (A.contract anew) Q s := by
  refine ⟨nofun, ?_⟩
  rintro r s' ⟨rfl, hr⟩
  refine ⟨nofun, ?_⟩
  rintro - s' rfl
  exact hQ r hr

theorem meets_modify {f : Session → Session} {Q : Except Exit Unit → Stretch V → Prop} (g : V → V)
    (hf : ∀ x, A.view (f x) = g (A.view x)) (hQ : Q (.ok ()) { s with now := g s.now }) :
    (Op.modify f).Meets (A.contract anew) Q s := by
  refine Op.meets_lift.mpr (meets_update fun x hx => ?_)
  rw [show A.view (Site.onSession f x).session = g s.now by rw [← hx]; exact hf x.session]
  exact hQ

theorem meets_update_blind {f : Site → Site} {Q : Unit → Stretch V → Prop}
    (hf : ∀ x, A.view (f x).session = A.view x.session) (hQ : Q () s) :
    (Work.update f).Meets (A.contract anew) Q s := by
  refine meets_update fun x hx => ?_
  rw [hf, hx]
  exact hQ

theorem meets_modify_blind {f : Session → Session} {Q : Except Exit Unit → Stretch V → Prop}
    (hf : ∀ x, A.view (f x) = A.view x) (hQ : Q (.ok ()) s) :
    (Op.modify f).Meets (A.contract anew) Q s :=
  Op.meets_lift.mpr (meets_update_blind (fun x => hf x.session) hQ)

theorem keeps_site : A.Keeps anew (fun x => A.holds (A.view x.session)) Op.site := by
  refine fun s hs => meets_site fun x hx => ⟨hs, ?_⟩
  have hholds := hs.holds
  rwa [← hx] at hholds

theorem keeps_session : A.Keeps anew (fun x => A.holds (A.view x)) Op.session :=
  keeps_bind keeps_site fun _ hx => keeps_pure hx

theorem keeps_modify {f : Session → Session} (hf : ∀ x, A.holds (A.view x) →
    A.holds (A.view (f x)) ∧ A.Grants anew (A.view x) (A.view (f x))) :
    A.Keeping anew (Op.modify f) := by
  rintro ⟨start, now⟩ ⟨hholds, hgranted⟩
  refine Op.meets_lift.mpr (meets_update fun x hx => ?_)
  subst hx
  obtain ⟨hholds', hgrants⟩ := hf x.session hholds
  exact ⟨⟨hholds', hgranted.trans hgrants⟩, trivial⟩

theorem keeps_modify_blind {f : Session → Session} (hf : ∀ x, A.view (f x) = A.view x) :
    A.Keeping anew (Op.modify f) := fun _ hs => meets_modify_blind hf ⟨hs, trivial⟩

theorem keepsLast_update {f : Site → Site} (hf : ∀ x, A.view (f x).session = A.view x.session) :
    A.KeepsLast anew (Work.update f) := fun _ hs => meets_update_blind hf hs

theorem keeps_update {f : Site → Site} (hf : ∀ x, A.view (f x).session = A.view x.session) :
    A.Keeping anew (Op.lift (Work.update f)) :=
  fun _ hs => Op.meets_lift.mpr (meets_update_blind hf ⟨hs, trivial⟩)

/-! ## Gates, spans and notices -/

theorem keeps_enter (g : GateName) : A.Keeping anew (Op.enter g) :=
  keeps_bind (keeps_perform (.acquire g) rfl) fun _ _ => keeps_unwrap fun _ _ => trivial

theorem keepsLast_release (g : GateName) : A.KeepsLast anew (Work.perform (.release g)) :=
  fun _ hs => ⟨fun _ => hs, fun _ _ hleads => hs.next hleads.2⟩

/-- **Work behind a gate keeps to the accord** as it does without one. -/
theorem keeps_guarded {g : GateName} {op : Op α} (h : A.Keeps anew p op) :
    A.Keeps anew p (Op.guarded g op) :=
  keeps_bind (keeps_enter g) fun _ _ => keeps_ensure h (keepsLast_release g)

theorem meets_traced {span : Span} {w : Nat → Op α}
    (h : ∀ id, (w id).Meets (A.contract anew) (A.Well anew p) s) :
    (Op.traced span w).Meets (A.contract anew) (A.Well anew p) s := by
  refine Op.meets_bind.mpr (Op.meets_lift.mpr ⟨nofun, ?_⟩)
  rintro r s' ⟨rfl, hr⟩
  refine ⟨nofun, ?_⟩
  rintro - s' rfl
  rw [hr]
  have hlast (id : Nat) : A.KeepsLast anew (Work.update fun x => { x with trace := x.trace.leave id }) :=
    keepsLast_update fun _ => rfl
  exact meets_last (h _) (hlast _)

theorem keeps_traced {span : Span} {w : Nat → Op α} (h : ∀ id, A.Keeps anew p (w id)) :
    A.Keeps anew p (Op.traced span w) := fun s hs => meets_traced fun id => h id s hs

theorem keeps_tag (id : Nat) (key : String) (value : Value) : A.Keeping anew (Op.tag id key value) :=
  keeps_update fun _ => rfl

theorem view_board (x : Session) (board : Board) : A.view { x with board } = A.view x :=
  A.blind x x.stateGate x.fetchGate x.latch x.streams board

/-- Why the expiry of a notice is out of range has nothing to do with the state of a run. -/
theorem isUnsound_expiry {b : Board} {now : Int} {f : Fault} (h : b.expiry now = .error f) :
    f.isUnsound = false := by
  unfold Board.expiry at h
  simp only [bind, Except.bind] at h
  split at h
  next f' hf' =>
    cases h
    unfold microsecondsOf at hf'
    split at hf' <;> cases hf' <;> rfl
  next =>
    split at h
    · cases h
      rfl
    · cases h

theorem meets_announce {text : String} {level : Level} {Q : Except Exit Unit → Stretch V → Prop}
    (hok : Q (.ok ()) s) (herror : ∀ f : Fault, f.isUnsound = false → Q (.error (.fault f)) s) :
    (Op.announce text level).Meets (A.contract anew) Q s := by
  refine Op.meets_bind.mpr (meets_site fun x _ => ?_)
  simp only [Op.after_ok, Board.transient]
  cases he : x.session.board.expiry x.now with
  | error f =>
    exact Op.meets_bind.mpr (meets_modify_blind (fun y => view_board y _) (herror f (isUnsound_expiry he)))
  | ok due => exact Op.meets_bind.mpr (meets_modify_blind (fun y => view_board y _) hok)

theorem keeps_announce (text : String) (level : Level) : A.Keeping anew (Op.announce text level) :=
  fun _ hs => meets_announce ⟨hs, trivial⟩ fun _ hf => ⟨hs, A.exits_sound hf⟩

theorem keeps_alarm (message : Value) : A.Keeping anew (Op.alarm message) := by
  refine keeps_bind keeps_site fun x _ => ?_
  exact keeps_modify_blind fun y => view_board y _

/-! ## Storing -/

theorem keeps_sleep (d : Int) : A.Keeping anew (Op.sleep d) :=
  keeps_bind (keeps_perform (.sleep d) rfl) fun _ _ => keeps_unwrap fun _ _ => trivial

theorem keeps_storageTurn : A.Keeping anew Op.storageTurn :=
  keeps_bind (keeps_perform .storageTurn rfl) fun _ _ => keeps_unwrap fun _ _ => trivial

theorem keeps_transact {f : Storage → Except Fault α × Storage}
    (hf : ∀ x g, (f x).1 = .error g → g.isUnsound = false) : A.Keeping anew (Keep.transact f) := by
  refine keeps_bind keeps_storageTurn fun _ _ s hs => Op.meets_bind.mpr (meets_site fun x hx => ?_)
  refine Op.meets_bind.mpr (Op.meets_lift.mpr ⟨nofun, ?_⟩)
  rintro - s' rfl
  have hsame : ({ s with now := A.view x.session } : Stretch V) = s := by rw [hx]
  refine keeps_ofExcept (fun _ _ => trivial) (fun g hg => A.exits_sound (hf _ g hg)) _ ?_
  exact hsame ▸ hs

theorem keeps_keep {name : String} {f : Storage → Except Fault α × Storage}
    (hf : ∀ x g, (f x).1 = .error g → g.isUnsound = false) : A.Keeping anew (Keep.traced name f) :=
  keeps_bind keeps_site fun _ _ => keeps_traced fun _ => keeps_transact hf

theorem keeps_obstacle (error : Option String) : A.Keeping anew (Keep.obstacle error) := by
  cases error with
  | some text => exact keeps_fail rfl
  | none => exact keeps_pure trivial

theorem save_encode_ok (x : Storage) (n : Nat) (r : Record) : (x.save n r.encode).1 = .ok () := by
  unfold Storage.save
  split
  · rfl
  · rw [Database.save_eq _ r.encode_names]

theorem clear_ok (x : Storage) (n : Nat) : (x.clear n).1 = .ok () := by
  unfold Storage.clear
  split
  · rfl
  · rw [Database.clear_eq]

theorem keeps_save (n : Nat) (r : Record) : A.Keeping anew (Keep.save n r) := by
  have hrest : A.Keeping anew (do
      Keep.obstacle ((← Op.site).storage.faults n).saveError
      Keep.traced "save" fun s => s.save n r.encode) := by
    refine keeps_bind keeps_site fun x _ => keeps_bind (keeps_obstacle _) fun _ _ => ?_
    refine keeps_keep fun y g hg => ?_
    rw [save_encode_ok] at hg
    cases hg
  refine keeps_bind keeps_site fun x _ => ?_
  cases (x.storage.faults n).saveDelay with
  | some d => exact keeps_bind (keeps_sleep d) fun _ _ => hrest
  | none => exact hrest

theorem keeps_clear (n : Nat) : A.Keeping anew (Keep.clear n) := by
  refine keeps_bind keeps_site fun x _ => keeps_bind (keeps_obstacle _) fun _ _ => ?_
  refine keeps_keep fun y g hg => ?_
  rw [clear_ok] at hg
  cases hg

/-! ## Calling the service -/

theorem keeps_failService (f : ServiceFault) : A.Keeps anew p (Call.failService f : Op α) := keeps_fail rfl

theorem keeps_send (c : Call) :
    A.Keeps anew (fun a => A.answers c.message (.answered a)) (Call.send c) := by
  refine keeps_traced fun span => ?_
  dsimp only
  refine keeps_ite (fun _ => keeps_bind (p := fun _ => False) (keeps_fail rfl) nofun) fun _ => ?_
  refine keeps_bind (keeps_perform (.send c.message) rfl) fun w hw => ?_
  refine keeps_bind (p := A.answers c.message) (keeps_unwrap fun o ho => ?_) fun o ho => ?_
  · rw [ho] at hw
    exact hw
  · cases o with
    | answered a => exact keeps_bind (keeps_tag _ _ _) fun _ _ => keeps_pure ho
    | unreachable failure text => exact keeps_bind (keeps_tag _ _ _) fun _ _ => keeps_failService _
    | failed f => exact keeps_throw (A.exits_failed ho)

theorem keeps_ofService {x : Except ServiceFault α} (h : ∀ a, x = .ok a → p a) :
    A.Keeps anew p (Call.ofService x) := by
  cases x with
  | ok a => exact keeps_pure (h a rfl)
  | error f => exact keeps_failService f

theorem keeps_write (c : Call) : A.Keeping anew c.write :=
  keeps_bind (keeps_send c) fun _ _ => keeps_ofService fun _ _ => trivial

theorem keeps_readStatus : A.Keeping anew Call.readStatus :=
  keeps_bind (keeps_send .getStatus) fun _ _ => keeps_ofService fun _ _ => trivial

theorem keeps_readResources : A.Keeps anew
    (fun m => ∃ a, A.answers Call.getResources.message (.answered a) ∧ a.toShardMap = .ok m)
    Call.readResources := by
  refine keeps_rescue (keeps_bind (keeps_send .getResources) fun a ha => ?_) fun f => keeps_failService _
  exact keeps_ofService fun m hm => ⟨a, ha, hm⟩

end Accord

end Cutover
