import Cutover.Proofs.Work.Contract
import Cutover.Session.Action

/-!
# Work that does not see the gate of the state

Who works behind the gate of the state need not know who else waits before it. Two pieces of work are
alike if they ask for the same, save that each sees a gate of its own when it looks at the site and leaves
that gate as it is when it changes the site. An operation that is alike itself does not see the gate.
A call on the run asks for the gate, works behind it and opens it again, and what it does behind the gate
does not depend on who waits before it.

* `Site.withGate`: the site with another gate of the state;
* `Session.bounds`: what no work behind the gate changes by itself;
* `Work.Alike`: two pieces of work that do the same, whatever the gate of the state looks like to each;
* `Op.Blind`: **an operation does not see the gate of the state**, with lemmas for the parts that
  operations are made of;
* `Control.blind_settle`, …: what is done behind the gate is done without seeing it;
* `Control.IsUnseen`: **an operation goes through the gate, and does not see it behind it**.
-/

namespace Cutover

/-- The site with another gate of the state. -/
def Site.withGate (s : Site) (g : Gate) : Site := { s with session := { s.session with stateGate := g } }

/-- What no work behind the gate of the state changes by itself: the gates, and which parts the session
has. -/
def Session.bounds (s : Session) : Gate × Gate × Bool := (s.stateGate, s.fetchGate, s.isBare)

/-- The session with other bounds. -/
def Session.withBounds (s : Session) (b : Gate × Gate × Bool) : Session :=
  { s with stateGate := b.1, fetchGate := b.2.1, isBare := b.2.2 }

theorem Session.bounds_of_withBounds {f : Session → Session}
    (hf : ∀ s b, f (s.withBounds b) = (f s).withBounds b) (s : Session) : (f s).bounds = s.bounds := by
  have hsame : f s = (f s).withBounds s.bounds := hf s s.bounds
  rw [hsame]
  rfl

/-- What may be asked for behind the gate of the state, beside looking at the site and changing it. -/
def Effect.isUnseen : Effect → Bool
  | acquire .fetch => true
  | release .fetch => true
  | sleep _ => true
  | storageTurn => true
  | send _ => true
  | raiseLatch => true
  | publish _ => true
  | _ => false

/-- The site as the first of two pieces of work saw it last, and the gate as the second saw it, unless they
have waited since. -/
abbrev Sight := Option (Site × Gate)

variable {α β : Type}

namespace Work

/-- **Two pieces of work do the same**, whatever the gate of the state looks like to each. After anything
but a look or a change they go on in the same way. -/
inductive Alike : Sight → Work α → Work α → Prop
  | done (v : Sight) (a : α) : Alike v (.done a) (.done a)
  | look {v : Sight} {next next' : Site → Work α}
    (h : ∀ (s : Site) g, Alike (some (s, g)) (next s) (next' (s.withGate g))) :
    Alike v (.ask .look next) (.ask .look next')
  | change {s x : Site} {g : Gate} {next next' : Unit → Work α}
    (hx : x.session.bounds = s.session.bounds) (h : Alike (some (x, g)) (next ()) (next' ())) :
    Alike (some (s, g)) (.ask (.change x) next) (.ask (.change (x.withGate g)) next')
  | other {v : Sight} {e : Effect} {next : e.Reply → Work α} (he : e.isUnseen = true)
    (h : ∀ r, Alike none (next r) (next r)) : Alike v (.ask e next) (.ask e next)

theorem Alike.bind {v : Sight} {w w' : Work α} {f : α → Work β} (h : Alike v w w')
    (hf : ∀ v a, Alike v (f a) (f a)) : Alike v (w >>= f) (w' >>= f) := by
  induction h with
  | done v a => exact hf v a
  | look _ ih => exact .look ih
  | change hx _ ih => exact .change hx ih
  | other he _ ih => exact .other he ih

theorem alike_site_bind {v : Sight} {f : Site → Work α}
    (h : ∀ (s : Site) g, Alike (some (s, g)) (f s) (f (s.withGate g))) :
    Alike v (site >>= f) (site >>= f) := .look h

theorem alike_update {v : Sight} {f : Site → Site} (hs : ∀ s, (f s).session.bounds = s.session.bounds)
    (hf : ∀ s g, f (s.withGate g) = (f s).withGate g) : Alike v (update f) (update f) := by
  refine alike_site_bind fun s g => ?_
  rw [hf]
  exact .change (hs s) (.done _ _)

end Work

namespace Op

/-- **An operation does not see the gate of the state.** -/
def Blind (op : Op α) : Prop := ∀ v, Work.Alike v op.run op.run

variable {op : Op α}

/-! ## One operation after another -/

theorem blind_pure (a : α) : (pure a : Op α).Blind := fun v => .done v _

theorem blind_throw (e : Exit) : (throw e : Op α).Blind := fun v => .done v _

theorem blind_fail (f : Fault) : (fail f : Op α).Blind := blind_throw _

theorem blind_bind {f : α → Op β} (h : op.Blind) (hf : ∀ a, (f a).Blind) : (op >>= f).Blind := by
  refine fun v => (h v).bind ?_
  rintro v (e | a)
  · exact .done v _
  · exact hf a v

theorem blind_tryCatch {handle : Exit → Op α} (h : op.Blind) (hhandle : ∀ e, (handle e).Blind) :
    (tryCatch op handle : Op α).Blind := by
  refine fun v => (h v).bind ?_
  rintro v (e | a)
  · exact hhandle e v
  · exact .done v _

theorem blind_rescue {handle : ServiceFault → Op α} (h : op.Blind) (hhandle : ∀ f, (handle f).Blind) :
    (rescue op handle).Blind := by
  refine blind_tryCatch h fun e => ?_
  split
  · exact hhandle _
  · exact blind_throw _

theorem blind_ensure {last : Work Unit} (h : op.Blind) (hlast : ∀ v, Work.Alike v last last) :
    (op.ensure last).Blind :=
  fun v => (h v).bind fun v _ => (hlast v).bind fun v _ => .done v _

theorem blind_ite {c : Prop} [Decidable c] {op' : Op α} (h : op.Blind) (h' : op'.Blind) :
    (if c then op else op').Blind := by
  split
  · exact h
  · exact h'

theorem blind_unless {c : Prop} [Decidable c] {f : Fault} {g : β → Op α} {b : β} (h : (g b).Blind) :
    (if c then fail f >>= g else g b).Blind := by
  split
  · exact fun v => .done v _
  · exact h

theorem blind_ofExcept (x : Except Fault α) : (ofExcept x).Blind := by
  cases x with
  | ok a => exact blind_pure a
  | error f => exact blind_fail f

theorem blind_unwrap (x : Waited α) : (unwrap x).Blind := by
  cases x with
  | back a => exact blind_pure a
  | cancelled => exact blind_throw _

/-! ## Effects -/

theorem blind_lift {w : Work α} (h : ∀ v, Work.Alike v w w) : (lift w).Blind :=
  fun v => (h v).bind fun v _ => .done v _

theorem blind_perform {e : Effect} (he : e.isUnseen = true) : (perform e).Blind :=
  blind_lift fun _ => .other he fun r => .done none r

theorem blind_storageTurn : storageTurn.Blind := blind_bind (blind_perform rfl) blind_unwrap

theorem blind_sleep (d : Int) : (sleep d).Blind := blind_bind (blind_perform rfl) blind_unwrap

theorem blind_site_bind {f : Site → Op α} (h : ∀ s, (f s).Blind) (hf : ∀ s g, f (s.withGate g) = f s) :
    (site >>= f).Blind := by
  refine fun v => .look fun s g => ?_
  have hsame : Work.Alike (some (s, g)) (f s).run (f (s.withGate g)).run := by
    rw [hf]
    exact h s _
  exact hsame

theorem blind_session_bind {f : Session → Op α} (h : ∀ s, (f s).Blind)
    (hf : ∀ s g, f { s with stateGate := g } = f s) : (session >>= f).Blind :=
  blind_site_bind (f := fun s => f s.session) (fun s => h s.session) fun s g => hf s.session g

theorem blind_modify {f : Session → Session} (hf : ∀ s b, f (s.withBounds b) = (f s).withBounds b) :
    (modify f).Blind := by
  have hbounds := Session.bounds_of_withBounds hf
  refine blind_lift fun _ => Work.alike_update (fun s => hbounds s.session) fun s g => ?_
  have hgate : f { s.session with stateGate := g } = { f s.session with stateGate := g } := by
    calc f (s.session.withBounds (g, s.session.bounds.2))
        = (f s.session).withBounds (g, s.session.bounds.2) := hf _ _
      _ = (f s.session).withBounds (g, (f s.session).bounds.2) := by rw [hbounds]
  exact congrArg (fun session => { s with session }) hgate

theorem blind_guarded (h : op.Blind) : (guarded .fetch op).Blind :=
  blind_bind (blind_bind (blind_perform rfl) blind_unwrap) fun _ =>
    blind_ensure h fun _ => .other rfl fun r => .done none r

/-! ## Spans and notices -/

theorem blind_enterSpan (s : Span) : (enterSpan s).Blind :=
  blind_lift fun _ => .look fun site _ => .change (x := { site with trace := (site.trace.enter s).2 }) rfl
    (.done _ _)

theorem blind_tag (span : Nat) (key : String) (value : Value) : (tag span key value).Blind :=
  blind_lift fun _ => Work.alike_update (fun _ => rfl) fun _ _ => rfl

theorem blind_traced {s : Span} {f : Nat → Op α} (h : ∀ id, (f id).Blind) : (traced s f).Blind :=
  blind_bind (blind_enterSpan s) fun id =>
    blind_ensure (h id) fun _ => Work.alike_update (fun _ => rfl) fun _ _ => rfl

theorem blind_announce (message : String) (level : Level) : (announce message level).Blind :=
  blind_site_bind (fun _ => blind_bind (blind_modify fun _ _ => rfl) fun _ =>
    blind_bind (blind_ofExcept _) fun _ => blind_pure _) fun _ _ => rfl

theorem blind_alarm (message : Value) : (alarm message).Blind :=
  blind_site_bind (fun _ => blind_modify fun _ _ => rfl) fun _ _ => rfl

end Op

open Op

/-! ## Storing and calling -/

namespace Keep

theorem blind_transact (f : Storage → Except Fault α × Storage) : (transact f).Blind := by
  refine blind_bind blind_storageTurn fun _ v => .look fun site g => ?_
  refine .change (x := { site with storage := (f site.storage).2 }) rfl ?_
  exact blind_ofExcept (f site.storage).1 _

theorem blind_traced (operation : String) (f : Storage → Except Fault α × Storage) :
    (traced operation f).Blind :=
  blind_site_bind (fun _ => Op.blind_traced fun _ => blind_transact f) fun _ _ => rfl

theorem blind_obstacle (error : Option String) : (obstacle error).Blind := by
  cases error with
  | some text => exact blind_fail _
  | none => exact blind_pure _

theorem blind_save (store : Nat) (r : Record) : (save store r).Blind := by
  have hrest : Blind (do
      obstacle ((← site).storage.faults store).saveError
      traced "save" fun s => s.save store r.encode) :=
    blind_site_bind (fun _ => blind_bind (blind_obstacle _) fun _ => blind_traced _ _) fun _ _ => rfl
  refine blind_site_bind (fun x => ?_) fun _ _ => rfl
  cases (x.storage.faults store).saveDelay with
  | some d => exact blind_bind (blind_sleep d) fun _ => hrest
  | none => exact hrest

theorem blind_clear (store : Nat) : (clear store).Blind :=
  blind_site_bind (fun _ => blind_bind (blind_obstacle _) fun _ => blind_traced _ _) fun _ _ => rfl

end Keep

namespace Call

theorem blind_send (c : Call) : c.send.Blind := by
  refine Op.blind_traced fun span => ?_
  dsimp only
  refine blind_unless (f := .refused .notFinite) (b := PUnit.unit) ?_
  refine blind_bind (blind_perform rfl) fun w => blind_bind (blind_unwrap w) fun o => ?_
  cases o with
  | answered a => exact blind_bind (blind_tag _ _ _) fun _ => blind_pure a
  | unreachable failure text => exact blind_bind (blind_tag _ _ _) fun _ => blind_fail _
  | failed f => exact blind_fail f

theorem blind_ofService (x : Except ServiceFault α) : (ofService x).Blind := by
  cases x with
  | ok a => exact blind_pure a
  | error f => exact blind_fail _

theorem blind_readResources : readResources.Blind :=
  blind_rescue (blind_bind (blind_send .getResources) fun _ => blind_ofService _) fun _ => blind_fail _

end Call

/-! ## Behind the gate -/

namespace Control

theorem blind_snapshot : snapshot.Blind := blind_session_bind (fun _ => blind_ofExcept _) fun _ _ => rfl

theorem blind_publish : publish.Blind := blind_bind blind_snapshot fun _ => blind_perform rfl

theorem blind_persist : persist.Blind := blind_session_bind (fun _ => Keep.blind_save _ _) fun _ _ => rfl

theorem blind_fetch : Reconcile.fetch.Blind := by
  refine blind_guarded (blind_session_bind (fun s => ?_) fun _ _ => rfl)
  cases s.resources with
  | some resources => exact blind_pure _
  | none =>
    refine blind_bind (blind_traced fun _ => ?_) fun _ =>
      blind_bind (blind_modify fun _ _ => rfl) fun _ => blind_pure _
    exact blind_bind (blind_modify fun _ _ => rfl) fun _ =>
      blind_bind Call.blind_readResources fun _ => blind_bind (blind_tag _ _ _) fun _ => blind_pure _

theorem blind_reconcileOnce : reconcileOnce.Blind := by
  refine blind_session_bind (fun _ => blind_ite ?_ (blind_pure _)) fun _ _ => rfl
  refine blind_rescue (blind_bind blind_fetch fun _ => blind_modify fun _ _ => rfl)
    fun _ => blind_ite ?_ (blind_fail _)
  exact blind_bind (blind_modify fun _ _ => rfl) fun _ => blind_alarm _

theorem blind_runHooks (phase : Phase) (hooks : List StopHook) : (runHooks phase hooks).Blind := by
  induction hooks with
  | nil => exact blind_pure _
  | cons hook rest ih =>
    refine blind_bind ?_ fun _ => ih
    cases hook with
    | polling => exact blind_perform rfl
    | configuration => exact blind_ite (blind_modify fun _ _ => rfl) (blind_pure _)
    | user number id fails =>
      exact blind_bind (blind_lift fun _ => Work.alike_update (fun _ => rfl) fun _ _ => rfl) fun _ =>
        blind_ite (blind_fail _) (blind_pure _)

theorem blind_complete : complete.Blind :=
  blind_bind (blind_modify fun _ _ => rfl) fun _ =>
    blind_session_bind (fun _ => blind_bind (blind_runHooks _ _) fun _ =>
      blind_bind blind_reconcileOnce fun _ =>
        blind_session_bind (fun _ => blind_bind (Keep.blind_clear _) fun _ => blind_announce _ _)
          fun _ _ => rfl) fun _ _ => rfl

theorem blind_failRun (errorText : Value) : (failRun errorText).Blind :=
  blind_bind (blind_modify fun _ _ => rfl) fun _ =>
    blind_session_bind (fun _ => blind_bind (blind_runHooks _ _) fun _ =>
      blind_session_bind (fun _ => blind_bind (Keep.blind_clear _) fun _ => blind_alarm _)
        fun _ _ => rfl) fun _ _ => rfl

theorem blind_advance (report : Status) : (advance report).Blind := by
  refine blind_session_bind (fun _ => blind_bind (blind_ofExcept _) fun _ =>
    blind_bind (blind_modify fun _ _ => rfl) fun _ => ?_) fun _ _ => rfl
  exact blind_ite (blind_bind (blind_announce _ _) fun _ => blind_pure _) (blind_pure _)

theorem blind_settle (a : RunState.Advance) : (settle a).Blind := by
  refine blind_session_bind (fun _ => blind_ite blind_complete ?_) fun _ _ => rfl
  exact blind_ite (blind_bind blind_reconcileOnce fun _ => blind_persist) blind_persist

theorem blind_applyActive (previous : Phase) (report : Status) : (applyActive previous report).Blind := by
  refine blind_ite (blind_bind (blind_failRun _) fun _ => blind_pure _) ?_
  refine blind_bind blind_snapshot fun _ => blind_bind (blind_advance report) fun _ =>
    blind_session_bind (fun _ => ?_) fun _ _ => rfl
  exact blind_ite (blind_pure _) (blind_bind (blind_settle _) fun _ => blind_pure _)

theorem blind_applyTraced (previous : Phase) (report : Status) (span : Nat) :
    (applyTraced previous report span).Blind := by
  refine blind_ite (blind_bind (blind_applyActive _ _) fun _ => ?_)
    (blind_bind blind_snapshot fun _ => blind_pure _)
  exact blind_ite (blind_session_bind (fun _ => blind_bind (blind_tag _ _ _) fun _ => blind_pure _)
    fun _ _ => rfl) (blind_pure _)

/-- What an operation does it does behind the gate, and without seeing it. -/
def IsUnseen (op : Op α) : Prop := ∃ w : Op α, op = guarded .state w ∧ w.Blind

theorem unseen_begin (mode : Mode) (transfer : Transfer) (shards instances : Value) :
    IsUnseen (begin mode transfer shards instances) := by
  refine ⟨_, rfl, blind_session_bind (fun _ => blind_unless (b := PUnit.unit) ?_) fun _ _ => rfl⟩
  exact blind_bind (blind_modify fun _ _ => rfl) fun _ => blind_bind blind_persist fun _ =>
    blind_bind blind_publish fun _ => blind_snapshot

theorem unseen_restore (r : Record) : IsUnseen (restore r) :=
  ⟨_, rfl, blind_bind (blind_ofExcept _) fun _ =>
    blind_bind (blind_modify fun _ _ => rfl) fun _ => blind_bind (blind_ofExcept _) fun _ =>
      blind_bind (blind_modify fun _ _ => rfl) fun _ => blind_bind (blind_ofExcept _) fun _ =>
        blind_bind (blind_modify fun _ _ => rfl) fun _ =>
          blind_bind blind_publish fun _ => blind_snapshot⟩

theorem unseen_reset : IsUnseen reset :=
  ⟨_, rfl, blind_bind (blind_modify fun _ _ => rfl) fun _ =>
    blind_session_bind (fun _ => blind_bind (Keep.blind_clear _) fun _ => blind_publish) fun _ _ => rfl⟩

theorem unseen_apply (report : Status) : IsUnseen (apply report) := by
  refine ⟨_, rfl, blind_session_bind (fun _ => blind_bind (blind_traced fun id => blind_applyTraced _ _ id)
    fun ignored => ?_) fun _ _ => rfl⟩
  cases ignored with
  | some ignored => exact blind_pure _
  | none => exact blind_bind blind_publish fun _ => blind_bind blind_snapshot fun _ => blind_pure _

end Control

end Cutover
