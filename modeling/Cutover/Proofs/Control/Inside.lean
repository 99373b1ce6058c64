import Cutover.Proofs.Control.Restoring
import Cutover.Proofs.RunState.Confined
import Cutover.Proofs.Store.Whole
import Cutover.Proofs.Work.Contract
import Cutover.Session.Action

/-!
# Work inside the mode of a run

Work on a session that has a run, or takes it up from the store, never gives up what holds of the session
and of the store, not even between two waits; and it shows readers only what is inside the mode of the
run. It may rely on others doing the same while it waits.

A run begins inside its mode; a report that is applied keeps it there, whatever fails on the way; and so
does a session that takes the run up from the store.

* `Session.Carries`, `Session.Abides`, `Storage.Confined`: what holds of a session and of a store;
* `Site.Leads`: nothing of that is given up;
* `inside`: **the contract of work inside the mode of a run**;
* `Lasting`, with one lemma for each way to ask: work that has nothing to do with the run;
* `carrying`: the session has the run, and a store of its own;
* `Inside.upholds_begin`: **a run begins inside its mode**;
* `Inside.upholds_apply`: **a report is applied inside the mode of the run**;
* `Inside.upholds_takeUp`: **a stored run is taken up inside its mode**;
* `Inside.upholds_round`: so it is polled.
-/

namespace Cutover

section

variable {mode : Mode} {transfer : Transfer}

/-! ## Sessions, records and stores of a run -/

/-- **The session has a run** of some mode and transfer, which is inside its mode. -/
structure Session.Carries (mode : Mode) (transfer : Transfer) (s : Session) : Prop where
  sound : s.state.PlainSound
  confined : s.state.Confined mode transfer
  ofMode : s.mode = some mode
  ofTransfer : s.transfer = some transfer
  shardCount : s.shardCount.IsWhole
  instanceCount : s.instanceCount.IsWhole

/-- The session is idle or inside the mode of the run, and has the run once it knows how data moves. -/
structure Session.Abides (mode : Mode) (transfer : Transfer) (s : Session) : Prop where
  state : s.state = {} ∨ s.state.Confined mode transfer
  carries : s.transfer ≠ none → s.Carries mode transfer

/-- **The record reads as one of the run**, and its state is inside the mode. -/
structure Record.Confined (mode : Mode) (transfer : Transfer) (r : Record) : Prop where
  state : ∃ s, r.toState = .ok s ∧ s.PlainSound ∧ s.Confined mode transfer
  ofMode : r.readMode = .ok (some mode)
  ofTransfer : r.readTransfer = .ok (some transfer)
  shardCount : r.shardCount.IsWhole
  instanceCount : r.instanceCount.IsWhole

/-- Nothing is stored, or such a record. -/
def Storage.Confined (mode : Mode) (transfer : Transfer) (s : Storage) (n : Nat) : Prop :=
  s.table n = [] ∨ ∃ r, Record.decode (s.table n) = .ok r ∧ r.Confined mode transfer

namespace Session

variable {s t : Session} {state : RunState}

theorem Carries.abides (h : s.Carries mode transfer) : s.Abides mode transfer :=
  ⟨.inr h.confined, fun _ => h⟩

theorem Carries.congr (h : s.Carries mode transfer) (hstate : t.state = s.state)
    (hcontext : t.context = s.context) : t.Carries mode transfer where
  sound := hstate ▸ h.sound
  confined := hstate ▸ h.confined
  ofMode := (congrArg Record.Context.mode hcontext).trans h.ofMode
  ofTransfer := (congrArg Record.Context.transfer hcontext).trans h.ofTransfer
  shardCount := by
    rw [show t.shardCount = s.shardCount from congrArg Record.Context.shardCount hcontext]
    exact h.shardCount
  instanceCount := by
    rw [show t.instanceCount = s.instanceCount from congrArg Record.Context.instanceCount hcontext]
    exact h.instanceCount

theorem Abides.congr (h : s.Abides mode transfer) (hstate : t.state = s.state)
    (hcontext : t.context = s.context) : t.Abides mode transfer where
  state := hstate ▸ h.state
  carries htransfer := by
    have hsame : t.transfer = s.transfer := congrArg Record.Context.transfer hcontext
    exact (h.carries (hsame ▸ htransfer)).congr hstate hcontext

theorem Carries.inState (h : s.Carries mode transfer) (hsound : state.PlainSound)
    (hconfined : state.Confined mode transfer) : { s with state }.Carries mode transfer :=
  { h with sound := hsound, confined := hconfined }

theorem Carries.record (h : s.Carries mode transfer) : s.record.Confined mode transfer where
  state := ⟨s.state, Record.toState_ofState h.sound.sound, h.sound, h.confined⟩
  ofMode := Record.readMode_ofState.trans (congrArg Except.ok h.ofMode)
  ofTransfer := Record.readTransfer_ofState.trans (congrArg Except.ok h.ofTransfer)
  shardCount := h.shardCount
  instanceCount := h.instanceCount

theorem Carries.decode (h : s.Carries mode transfer) :
    Record.decode s.record.encode = .ok s.record :=
  Record.decode_encode
    (Record.plain_ofState h.sound.plain ⟨⟨_, rfl⟩, h.shardCount, h.instanceCount⟩)

end Session

namespace Storage

variable {s : Storage} {n : Nat}

theorem table_setMemory_of_le (h : s.stores.length ≤ n) (t : Table) :
    (s.setMemory n t).table n = s.table n := by
  unfold table
  cases hk : s.kind with
  | memory => simp [setMemory, memory, store, hk, h]
  | rows => simp [setMemory, hk]

theorem Confined.save (h : s.Confined mode transfer n) {x : Session}
    (hx : x.Carries mode transfer) : (s.save n x.record.encode).2.Confined mode transfer n := by
  by_cases hn : n < s.stores.length
  · obtain ⟨-, htable⟩ := save_spec hn x.record.encode_names
    refine .inr ⟨x.record, ?_, hx.record⟩
    rw [htable]
    exact hx.decode
  · unfold Storage.save
    cases hk : s.kind with
    | memory =>
      rw [Confined, table_setMemory_of_le (Nat.le_of_not_lt hn)]
      exact h
    | rows =>
      refine .inr ⟨x.record, ?_, hx.record⟩
      simp only [Database.save_eq _ x.record.encode_names]
      exact hx.decode

theorem Confined.clear (h : s.Confined mode transfer n) :
    (s.clear n).2.Confined mode transfer n := by
  by_cases hn : n < s.stores.length
  · exact .inl (clear_spec hn).2
  · unfold Storage.clear
    cases hk : s.kind with
    | memory =>
      rw [Confined, table_setMemory_of_le (Nat.le_of_not_lt hn)]
      exact h
    | rows =>
      simp only [Database.clear_eq]
      exact .inl rfl

theorem Confined.loaded (h : s.Confined mode transfer n) {r : Record}
    (hr : (s.load n).1 = .ok (some r)) : r.Confined mode transfer := by
  rw [(load_eq s n).1] at hr
  rcases h with hnone | ⟨r', hdecode, hr'⟩
  · rw [hnone] at hr
    cases hr
  · unfold recordOf at hr
    split at hr
    · cases hr
    · rw [hdecode] at hr
      cases hr
      exact hr'

end Storage

/-! ## What is never given up -/

/-- **Nothing is given up**: what holds of the session and of its store goes on to hold. -/
structure Site.Leads (mode : Mode) (transfer : Transfer) (x y : Site) : Prop where
  store : y.session.store = x.session.store
  abides : x.session.Abides mode transfer → y.session.Abides mode transfer
  carries : x.session.Carries mode transfer → y.session.Carries mode transfer
  stored : x.storage.Confined mode transfer x.session.store →
    y.storage.Confined mode transfer y.session.store

namespace Site.Leads

variable {x y z : Site}

theorem refl (x : Site) : x.Leads mode transfer x := ⟨rfl, id, id, id⟩

theorem trans (h : x.Leads mode transfer y) (h' : y.Leads mode transfer z) :
    x.Leads mode transfer z where
  store := h'.store.trans h.store
  abides hx := h'.abides (h.abides hx)
  carries hx := h'.carries (h.carries hx)
  stored hx := h'.stored (h.stored hx)

theorem of_same (hstate : y.session.state = x.session.state)
    (hcontext : y.session.context = x.session.context) (hstore : y.session.store = x.session.store)
    (hstored : x.storage.Confined mode transfer x.session.store →
      y.storage.Confined mode transfer x.session.store) : x.Leads mode transfer y where
  store := hstore
  abides hx := hx.congr hstate hcontext
  carries hx := hx.congr hstate hcontext
  stored hx := hstore.symm ▸ hstored hx

theorem of_carries (h : y.session.Carries mode transfer) (hstore : y.session.store = x.session.store)
    (hstorage : y.storage = x.storage) : x.Leads mode transfer y where
  store := hstore
  abides _ := h.abides
  carries _ := h
  stored hx := by
    rw [hstore, hstorage]
    exact hx

end Site.Leads

/-- **The contract of work inside the mode of a run.** It gives up nothing, and neither do others while it
waits. What it publishes is inside the mode, and only a session that has the run is polled. -/
def inside (mode : Mode) (transfer : Transfer) : Contract Site where
  allows s
    | .change x => s.Leads mode transfer x ∧ x.session.streams = s.session.streams
    | .publish item => ∀ state, item = some state → state.Confined mode transfer
    | .fork b => b = .pollLoop ∧ s.session.Carries mode transfer
    | .join _ | .cancel _ | .receive _ => False
    | _ => True
  leads s
    | .look, r, s' => r = s ∧ s' = s
    | .change x, _, s' => s' = { x with now := s.now }
    | _, _, s' => s.Leads mode transfer s'

/-- An effect that work may ask for wherever it is. -/
def Effect.isFree : Effect → Bool
  | look | change _ | publish _ | fork _ | join _ | cancel _ | receive _ => false
  | _ => true

/-- What is not given up lasts. -/
def Lasting (mode : Mode) (transfer : Transfer) (J : Site → Prop) : Prop :=
  ∀ x y : Site, x.Leads mode transfer y → J x → J y

/-- What has to do with the run of a session, and with its readers. -/
def Session.footing (s : Session) : RunState × Record.Context × Nat × List Stream :=
  (s.state, s.context, s.store, s.streams)

namespace Inside

open Op

variable {α : Type} {p : α → Prop} {J : Site → Prop} {s : Site} {Q : Except Exit α → Site → Prop}

/-! ## Looking and changing -/

theorem meets_site {Q : Except Exit Site → Site → Prop} (h : Q (.ok s) s) :
    site.Meets (inside mode transfer) Q s := by
  refine meets_lift.mpr ⟨trivial, ?_⟩
  rintro _ _ ⟨rfl, rfl⟩
  exact h

theorem meets_session {Q : Except Exit Session → Site → Prop} (h : Q (.ok s.session) s) :
    session.Meets (inside mode transfer) Q s := meets_bind.mpr (meets_site h)

theorem meets_update {f : Site → Site} {Q : Unit → Site → Prop} (hleads : s.Leads mode transfer (f s))
    (hstreams : (f s).session.streams = s.session.streams) (h : Q () { f s with now := s.now }) :
    (Work.update f).Meets (inside mode transfer) Q s := by
  refine ⟨trivial, ?_⟩
  rintro _ _ ⟨rfl, rfl⟩
  refine ⟨⟨hleads, hstreams⟩, ?_⟩
  rintro _ _ rfl
  exact h

theorem meets_modify {f : Session → Session} {Q : Except Exit Unit → Site → Prop}
    (hleads : s.Leads mode transfer (s.onSession f))
    (hstreams : (f s.session).streams = s.session.streams) (h : Q (.ok ()) (s.onSession f)) :
    (modify f).Meets (inside mode transfer) Q s :=
  meets_lift.mpr (meets_update hleads hstreams h)

theorem upholds_site : site.Upholds (inside mode transfer) J J :=
  fun _ hs => meets_site (upheld_ok hs hs)

theorem upholds_session :
    session.Upholds (inside mode transfer) J fun x => ∃ s, J s ∧ s.session = x :=
  fun s hs => meets_session (upheld_ok hs ⟨s, hs, rfl⟩)

theorem leads_of_footing {y : Site} (hsession : y.session.footing = s.session.footing)
    (hstorage : y.storage = s.storage) : s.Leads mode transfer y :=
  .of_same (congrArg (·.1) hsession) (congrArg (·.2.1) hsession) (congrArg (·.2.2.1) hsession)
    fun h => hstorage ▸ h

section
variable (hJ : Lasting mode transfer J)
include hJ

theorem upholds_update {f : Site → Site} (hleads : ∀ s, J s → s.Leads mode transfer (f s))
    (hstreams : ∀ s, (f s).session.streams = s.session.streams) :
    (Work.update f).Upholds (inside mode transfer) J := by
  intro s hs
  have hleads' : s.Leads mode transfer { f s with now := s.now } :=
    ⟨(hleads s hs).store, (hleads s hs).abides, (hleads s hs).carries, (hleads s hs).stored⟩
  exact meets_update (hleads s hs) (hstreams s) (hJ _ _ hleads' hs)

theorem upholds_modify {f : Session → Session}
    (hleads : ∀ s : Site, J s → s.Leads mode transfer (s.onSession f))
    (hstreams : ∀ x, (f x).streams = x.streams) : (modify f).Upholding (inside mode transfer) J :=
  upholds_lift (upholds_update hJ hleads fun s => hstreams s.session)

theorem upholds_aside {f : Site → Site} (hsession : ∀ s, (f s).session.footing = s.session.footing)
    (hstorage : ∀ s, (f s).storage = s.storage) : (Work.update f).Upholds (inside mode transfer) J :=
  upholds_update hJ (fun s _ => leads_of_footing (hsession s) (hstorage s)) fun s =>
    congrArg (·.2.2.2) (hsession s)

theorem upholds_modifyAside {f : Session → Session} (hf : ∀ x, (f x).footing = x.footing) :
    (modify f).Upholding (inside mode transfer) J :=
  upholds_lift (upholds_aside hJ (fun s => hf s.session) fun _ => rfl)

/-! ## Effects -/

theorem upholds_perform (e : Effect) (he : e.isFree = true) :
    (perform e).Upholding (inside mode transfer) J := by
  refine fun s hs => meets_perform.mpr ⟨?_, fun r s' h => ?_⟩
  · cases e <;> trivial
  · have hleads : s.Leads mode transfer s' := by
      cases e <;> first | exact h | cases he
    exact upheld_ok (hJ s s' hleads hs) trivial

theorem upholds_publish {state : RunState} (h : state.Confined mode transfer) :
    (perform (.publish (some state))).Upholding (inside mode transfer) J := by
  refine fun s hs => meets_perform.mpr ⟨?_, fun r s' hleads => upheld_ok (hJ s s' hleads hs) trivial⟩
  rintro _ ⟨⟩
  exact h

theorem upholds_fork (hcarries : ∀ s, J s → s.session.Carries mode transfer) :
    (perform (.fork .pollLoop)).Upholding (inside mode transfer) J :=
  fun s hs => meets_perform.mpr ⟨⟨rfl, hcarries s hs⟩, fun _ s' hleads =>
    upheld_ok (hJ s s' hleads hs) trivial⟩

theorem upholds_release (g : GateName) :
    (Work.perform (.release g)).Upholds (inside mode transfer) J :=
  fun s hs => ⟨trivial, fun _ s' hleads => hJ s s' hleads hs⟩

/-! ## Gates, spans and notices -/

theorem upholds_enter (g : GateName) : (enter g).Upholding (inside mode transfer) J :=
  upholds_bind (upholds_perform hJ (.acquire g) rfl) fun _ _ => upholds_unwrap fun _ _ => trivial

theorem upholds_guarded {g : GateName} {op : Op α} (h : op.Upholds (inside mode transfer) J p) :
    (guarded g op).Upholds (inside mode transfer) J p :=
  upholds_bind (upholds_enter hJ g) fun _ _ => upholds_ensure h (upholds_release hJ g)

/-- Work within a span begins with the session and the storage as they were before. -/
theorem meets_traced {span : Span} {w : Nat → Op α}
    (h : ∀ (id : Nat) (s' : Site), s'.session = s.session → s'.storage = s.storage →
      (w id).Meets (inside mode transfer) (Upheld J p) s') :
    (traced span w).Meets (inside mode transfer) (Upheld J p) s := by
  refine meets_bind.mpr (meets_lift.mpr ⟨trivial, ?_⟩)
  rintro _ _ ⟨rfl, rfl⟩
  refine ⟨⟨leads_of_footing rfl rfl, rfl⟩, ?_⟩
  rintro _ _ rfl
  have hlast (id : Nat) : (Work.update fun x => { x with trace := x.trace.leave id }).Upholds
      (inside mode transfer) J := upholds_aside hJ (fun _ => rfl) fun _ => rfl
  refine meets_ensure.mpr ((h _ _ ?_ ?_).mono fun _ s' hw => ?_)
  · rfl
  · rfl
  · exact (hlast _ s' hw.1).mono fun _ _ ht => ⟨ht, hw.2⟩

theorem upholds_traced {span : Span} {w : Nat → Op α}
    (h : ∀ id, (w id).Upholds (inside mode transfer) J p) :
    (traced span w).Upholds (inside mode transfer) J p := by
  refine fun s hs => meets_traced hJ fun id s' hsession hstorage => h id s' ?_
  exact hJ s s' (leads_of_footing (congrArg Session.footing hsession) hstorage) hs

theorem upholds_tag (id : Nat) (key : String) (value : Value) :
    (tag id key value).Upholding (inside mode transfer) J :=
  upholds_lift (upholds_aside hJ (fun _ => rfl) fun _ => rfl)

theorem upholds_announce (text : String) (level : Level) :
    (announce text level).Upholding (inside mode transfer) J := by
  refine upholds_bind upholds_site fun _ _ => ?_
  refine upholds_bind (upholds_modifyAside hJ fun _ => rfl) fun _ _ => ?_
  exact upholds_bind (upholds_ofExcept fun _ _ => trivial) fun _ _ => upholds_pure trivial

theorem upholds_alarm (message : Value) : (alarm message).Upholding (inside mode transfer) J :=
  upholds_bind upholds_site fun _ _ => upholds_modifyAside hJ fun _ => rfl

theorem upholds_sleep (d : Int) : (sleep d).Upholding (inside mode transfer) J :=
  upholds_bind (upholds_perform hJ (.sleep d) rfl) fun _ _ => upholds_unwrap fun _ _ => trivial

theorem upholds_storageTurn : storageTurn.Upholding (inside mode transfer) J :=
  upholds_bind (upholds_perform hJ .storageTurn rfl) fun _ _ => upholds_unwrap fun _ _ => trivial

/-! ## The storage -/

/-- Something is done with the storage that keeps it inside the mode of the run. -/
theorem upholds_transact {f : Storage → Except Fault α × Storage}
    (hstored : ∀ s, J s → s.storage.Confined mode transfer s.session.store →
      (f s.storage).2.Confined mode transfer s.session.store)
    (hp : ∀ s a, J s → (f s.storage).1 = .ok a → p a) :
    (Keep.transact f).Upholds (inside mode transfer) J p := by
  refine upholds_bind (upholds_storageTurn hJ) fun _ _ s hs => ?_
  have hleads : s.Leads mode transfer { s with storage := (f s.storage).2 } :=
    .of_same rfl rfl rfl (hstored s hs)
  refine meets_bind.mpr (meets_site (meets_bind.mpr (meets_lift.mpr ⟨⟨hleads, rfl⟩, ?_⟩)))
  rintro _ _ rfl
  exact upholds_ofExcept (fun a ha => hp s a hs ha) _ (hJ _ _ hleads hs)

theorem upholds_keep {name : String} {f : Storage → Except Fault α × Storage}
    (hstored : ∀ s, J s → s.storage.Confined mode transfer s.session.store →
      (f s.storage).2.Confined mode transfer s.session.store)
    (hp : ∀ s a, J s → (f s.storage).1 = .ok a → p a) :
    (Keep.traced name f).Upholds (inside mode transfer) J p :=
  upholds_bind upholds_site fun _ _ =>
    upholds_traced hJ fun _ => upholds_transact hJ hstored hp

omit hJ in
theorem upholds_obstacle (error : Option String) :
    (Keep.obstacle error).Upholding (inside mode transfer) J := by
  cases error with
  | some text => exact upholds_fail _
  | none => exact upholds_pure trivial

theorem upholds_save {x : Session} (hx : x.Carries mode transfer)
    (hstore : ∀ s, J s → s.session.store = x.store) :
    (Keep.save x.store x.record).Upholding (inside mode transfer) J := by
  have hrest : Upholding (inside mode transfer) J (do
      Keep.obstacle ((← site).storage.faults x.store).saveError
      Keep.traced "save" fun t => t.save x.store x.record.encode) := by
    refine upholds_bind upholds_site fun _ _ => upholds_bind (upholds_obstacle _) fun _ _ => ?_
    refine upholds_keep hJ (fun s hs h => ?_) fun _ _ _ _ => trivial
    rw [hstore s hs] at h ⊢
    exact h.save hx
  refine upholds_bind upholds_site fun y _ => ?_
  cases (y.storage.faults x.store).saveDelay with
  | some d => exact upholds_bind (upholds_sleep hJ d) fun _ _ => hrest
  | none => exact hrest

theorem upholds_clear {store : Nat} (hstore : ∀ s, J s → s.session.store = store) :
    (Keep.clear store).Upholding (inside mode transfer) J := by
  refine upholds_bind upholds_site fun _ _ => upholds_bind (upholds_obstacle _) fun _ _ => ?_
  refine upholds_keep hJ (fun s hs h => ?_) fun _ _ _ _ => trivial
  rw [hstore s hs] at h ⊢
  exact h.clear

/-- What is loaded from a store inside the mode of a run is a record of that run. -/
theorem upholds_load {store : Nat} (hstore : ∀ s, J s → s.session.store = store)
    (hstored : ∀ s, J s → s.storage.Confined mode transfer store) :
    (Keep.load store).Upholds (inside mode transfer) J fun o =>
      ∀ r, o = some r → r.Confined mode transfer := by
  refine upholds_keep hJ (fun s hs h => ?_) fun s o hs ho => ?_
  · rw [hstore s hs] at h ⊢
    rw [Storage.Confined, (Storage.load_eq _ _).2.1]
    exact h
  · rintro r rfl
    exact (hstored s hs).loaded ho

/-! ## Calling the service -/

omit hJ in
theorem plain_toStatus {a : Answer} {report : Status} (h : a.toStatus = .ok report) :
    report.Plain := by
  unfold Answer.toStatus at h
  cases hd : a.decode .getStatus "progress" ProgressDocument.read with
  | error f =>
    rw [hd] at h
    cases h
  | ok d =>
    rw [hd] at h
    cases h
    exact ⟨⟨_, rfl⟩, ⟨_, rfl⟩⟩

theorem upholds_send (c : Call) : c.send.Upholding (inside mode transfer) J := by
  refine upholds_traced hJ fun span => upholds_unless (b := ()) ?_
  refine upholds_bind (upholds_perform hJ (.send c.message) rfl) fun w _ => ?_
  refine upholds_bind (upholds_unwrap (p := fun _ => True) fun _ _ => trivial) fun o _ => ?_
  cases o with
  | answered a => exact upholds_bind (upholds_tag hJ _ _ _) fun _ _ => upholds_pure trivial
  | unreachable failure text => exact upholds_bind (upholds_tag hJ _ _ _) fun _ _ => upholds_fail _
  | failed f => exact upholds_fail f

omit hJ in
theorem upholds_ofService {x : Except ServiceFault α} (h : ∀ a, x = .ok a → p a) :
    (Call.ofService x).Upholds (inside mode transfer) J p := by
  cases x with
  | ok a => exact upholds_pure (h a rfl)
  | error f => exact upholds_fail _

theorem upholds_readSummary : Call.readSummary.Upholding (inside mode transfer) J :=
  upholds_bind (upholds_send hJ .getSummary) fun _ _ => upholds_ofService fun _ _ => trivial

theorem upholds_readStatus : Call.readStatus.Upholds (inside mode transfer) J Status.Plain :=
  upholds_bind (upholds_send hJ .getStatus) fun _ _ => upholds_ofService fun _ h => plain_toStatus h

theorem upholds_readResources : Call.readResources.Upholding (inside mode transfer) J :=
  upholds_rescue (upholds_bind (upholds_send hJ .getResources) fun _ _ =>
    upholds_ofService fun _ _ => trivial) fun _ => upholds_fail _

end

end Inside

end

/-- The session has a run of some mode and transfer, and keeps it in some store. -/
def carrying (mode : Mode) (transfer : Transfer) (store : Nat) (s : Site) : Prop :=
  s.session.Carries mode transfer ∧ s.session.store = store

/-- What is stored is inside the mode of a run. -/
def standing (mode : Mode) (transfer : Transfer) (store : Nat) (s : Site) : Prop :=
  s.storage.Confined mode transfer store ∧ s.session.store = store

variable {mode : Mode} {transfer : Transfer} {store : Nat}

theorem Lasting.and {I J : Site → Prop} (h : Lasting mode transfer I) (h' : Lasting mode transfer J) :
    Lasting mode transfer fun s => I s ∧ J s :=
  fun x y hxy hx => ⟨h x y hxy hx.1, h' x y hxy hx.2⟩

theorem lasting_store : Lasting mode transfer fun s => s.session.store = store :=
  fun _ _ h hs => h.store.trans hs

theorem lasting_carries : Lasting mode transfer fun s => s.session.Carries mode transfer :=
  fun _ _ h => h.carries

theorem lasting_carrying : Lasting mode transfer (carrying mode transfer store) :=
  lasting_carries.and lasting_store

theorem lasting_standing : Lasting mode transfer (standing mode transfer store) := by
  rintro x y h ⟨hstored, rfl⟩
  have hstored' := h.stored hstored
  rw [h.store] at hstored'
  exact ⟨hstored', h.store⟩

namespace Inside

open Op

variable {α : Type} {p : α → Prop} {J : Site → Prop} {s : Site} {report : Status}

/-! ## Snapshots and publishing -/

theorem upholds_snapshot : Control.snapshot.Upholding (inside mode transfer) J :=
  upholds_bind upholds_session fun _ _ => upholds_ofExcept fun _ _ => trivial

section
variable (hJ : Lasting mode transfer J)
include hJ

theorem upholds_publishRun (hcarries : ∀ s, J s → s.session.Carries mode transfer) :
    Control.publish.Upholding (inside mode transfer) J := by
  have hsnapshot : Control.snapshot.Upholds (inside mode transfer) J fun t =>
      t.Confined mode transfer := by
    refine upholds_bind upholds_session fun x hx => upholds_ofExcept fun t ht => ?_
    obtain ⟨s, hs, rfl⟩ := hx
    obtain ⟨rfl, -⟩ := RunState.sound_of_check ht
    exact (hcarries s hs).confined
  exact upholds_bind hsnapshot fun _ ht => upholds_publish hJ ht

/-! ## Fetching the resources -/

theorem upholds_fetch : Reconcile.fetch.Upholding (inside mode transfer) J := by
  refine upholds_guarded hJ (upholds_bind upholds_session fun x _ => ?_)
  cases x.resources with
  | some resources => exact upholds_pure trivial
  | none =>
    refine upholds_bind (p := fun _ => True) (upholds_traced hJ fun id => ?_) fun _ _ => ?_
    · refine upholds_bind (upholds_modifyAside hJ fun _ => rfl) fun _ _ => ?_
      refine upholds_bind (upholds_readResources hJ) fun _ _ => ?_
      exact upholds_bind (upholds_tag hJ _ _ _) fun _ _ => upholds_pure trivial
    · exact upholds_bind (upholds_modifyAside hJ fun _ => rfl) fun _ _ => upholds_pure trivial

theorem upholds_runHooks (phase : Phase) (hooks : List StopHook) :
    (Control.runHooks phase hooks).Upholding (inside mode transfer) J := by
  induction hooks with
  | nil => exact upholds_pure trivial
  | cons hook rest ih =>
    refine upholds_bind (p := fun _ => True) ?_ fun _ _ => ih
    cases hook with
    | polling => exact upholds_perform hJ .raiseLatch rfl
    | configuration =>
      exact upholds_ite (fun _ => upholds_modifyAside hJ fun _ => rfl) fun _ => upholds_pure trivial
    | user number id fails =>
      refine upholds_bind (upholds_lift (upholds_aside hJ (fun _ => rfl) fun _ => rfl)) fun _ _ => ?_
      exact upholds_ite (fun _ => upholds_fail _) fun _ => upholds_pure trivial

end

/-! ## A session that has the run -/

theorem upholds_state {f : Session → Session}
    (hf : ∀ x, x.Carries mode transfer → (f x).Carries mode transfer)
    (hstore : ∀ x, (f x).store = x.store) (hstreams : ∀ x, (f x).streams = x.streams) :
    (modify f).Upholding (inside mode transfer) (carrying mode transfer store) :=
  upholds_modify lasting_carrying
    (fun s hs => .of_carries (hf s.session hs.1) (hstore s.session) rfl) hstreams

theorem upholds_persist :
    Control.persist.Upholding (inside mode transfer) (carrying mode transfer store) := by
  refine upholds_bind upholds_session fun x hx => ?_
  obtain ⟨s, ⟨hcarries, rfl⟩, rfl⟩ := hx
  exact upholds_save lasting_carrying hcarries fun _ ht => ht.2

theorem upholds_clearRun {next : Op Unit}
    (hnext : next.Upholding (inside mode transfer) (carrying mode transfer store)) :
    (do
      Keep.clear (← session).store
      next : Op Unit).Upholding (inside mode transfer) (carrying mode transfer store) := by
  refine upholds_bind upholds_session fun x hx => ?_
  obtain ⟨s, ⟨-, rfl⟩, rfl⟩ := hx
  exact upholds_bind (upholds_clear lasting_carrying fun _ ht => ht.2) fun _ _ => hnext

theorem upholds_reconcileOnce :
    Control.reconcileOnce.Upholding (inside mode transfer) (carrying mode transfer store) := by
  refine upholds_bind upholds_session fun x _ => upholds_ite (fun _ => ?_) fun _ => upholds_pure trivial
  refine upholds_rescue (upholds_bind (upholds_fetch lasting_carrying) fun _ _ => ?_) fun f => ?_
  · exact upholds_state
      (fun x hx => hx.inState (hx.sound.marked (.inr rfl)) (hx.confined.marked (.bool true)))
      (fun _ => rfl) fun _ => rfl
  · refine upholds_ite (fun _ => ?_) fun _ => upholds_fail _
    exact upholds_bind (upholds_modifyAside lasting_carrying fun _ => rfl) fun _ _ =>
      upholds_alarm lasting_carrying _

theorem upholds_complete :
    Control.complete.Upholding (inside mode transfer) (carrying mode transfer store) := by
  refine upholds_bind (upholds_state (fun x hx => hx.inState hx.sound.stopped hx.confined.stopped)
    (fun _ => rfl) fun _ => rfl) fun _ _ => ?_
  refine upholds_bind upholds_session fun _ _ => ?_
  refine upholds_bind (upholds_runHooks lasting_carrying _ _) fun _ _ => ?_
  refine upholds_bind upholds_reconcileOnce fun _ _ => ?_
  exact upholds_clearRun (upholds_announce lasting_carrying _ _)

theorem upholds_failRun (hreport : report.Plain) :
    (Control.failRun report.errorText).Upholding (inside mode transfer)
      (carrying mode transfer store) := by
  refine upholds_bind (upholds_state (fun x hx => ?_) (fun _ => rfl) fun _ => rfl) fun _ _ => ?_
  · have hconfined := hx.confined.afterFailure report.errorText
    rw [← hx.ofMode] at hconfined
    exact { hx with sound := hx.sound.afterFailure hreport, confined := hconfined }
  refine upholds_bind upholds_session fun _ _ => ?_
  refine upholds_bind (upholds_runHooks lasting_carrying _ _) fun _ _ => ?_
  exact upholds_clearRun (upholds_alarm lasting_carrying _)

theorem upholds_settle (a : RunState.Advance) :
    (Control.settle a).Upholding (inside mode transfer) (carrying mode transfer store) := by
  refine upholds_bind upholds_session fun _ _ => upholds_ite (fun _ => upholds_complete) fun _ => ?_
  exact upholds_ite (fun _ => upholds_bind upholds_reconcileOnce fun _ _ => upholds_persist)
    fun _ => upholds_persist

/-! ## Status reports -/

theorem meets_advance (hs : carrying mode transfer store s)
    (hactive : s.session.state.phase.isActive = true) (hreport : report.Plain) :
    (Control.advance report).Meets (inside mode transfer)
      (Upheld (carrying mode transfer store) fun _ => True) s := by
  obtain ⟨hcarries, hstore⟩ := hs
  refine meets_bind.mpr (meets_session (meets_bind.mpr (meets_ofExcept.mpr ?_)))
  rw [hcarries.ofMode, hcarries.ofTransfer]
  cases ha : s.session.state.advance (some mode) (some transfer) report with
  | error f => exact upheld_error ⟨hcarries, hstore⟩
  | ok a =>
    have hmoved : { s.session with state := a.state }.Carries mode transfer :=
      hcarries.inState (hcarries.sound.course hreport hactive ha) (hcarries.confined.advance hactive ha)
    refine meets_bind.mpr (meets_modify (.of_carries hmoved rfl rfl) rfl ?_)
    have hrest : (do
        if a.provisions then announce ProgressText.provisioning
        return a : Op RunState.Advance).Upholding (inside mode transfer)
          (carrying mode transfer store) :=
      upholds_ite (fun _ => upholds_bind (upholds_announce lasting_carrying _ _) fun _ _ =>
        upholds_pure trivial) fun _ => upholds_pure trivial
    exact hrest _ ⟨hmoved, hstore⟩

theorem meets_applyActive {previous : Phase} (hs : carrying mode transfer store s)
    (hactive : s.session.state.phase.isActive = true) (hreport : report.Plain) :
    (Control.applyActive previous report).Meets (inside mode transfer)
      (Upheld (carrying mode transfer store) fun _ => True) s := by
  unfold Control.applyActive
  split
  · exact upholds_bind (upholds_failRun hreport) (fun _ _ => upholds_pure trivial) s hs
  · refine meets_bind.mpr (meets_bind.mpr (meets_session (meets_ofExcept.mpr ?_)))
    rw [hs.1.sound.sound.check_eq]
    refine meets_then (meets_advance hs hactive hreport) fun a _ => ?_
    refine upholds_bind upholds_session fun _ _ => upholds_ite (fun _ => upholds_pure trivial) fun _ => ?_
    exact upholds_bind (upholds_settle a) fun _ _ => upholds_pure trivial

theorem meets_applyTraced {span : Nat} (hs : carrying mode transfer store s) (hreport : report.Plain) :
    (Control.applyTraced s.session.state.phase report span).Meets (inside mode transfer)
      (Upheld (carrying mode transfer store) fun _ => True) s := by
  unfold Control.applyTraced
  split
  next hactive =>
    refine meets_then (meets_applyActive hs hactive hreport) fun result _ => ?_
    refine upholds_ite (fun _ => ?_) fun _ => upholds_pure trivial
    refine upholds_bind upholds_session fun _ _ => ?_
    exact upholds_bind (upholds_tag lasting_carrying _ _ _) fun _ _ => upholds_pure trivial
  next =>
    exact upholds_bind upholds_snapshot (fun _ _ => upholds_pure trivial) s hs

/-- **A report is applied inside the mode of the run.** -/
theorem upholds_apply (hreport : report.Plain) :
    (Control.apply report).Upholding (inside mode transfer) (carrying mode transfer store) := by
  refine upholds_guarded lasting_carrying fun s hs => ?_
  refine meets_bind.mpr (meets_session ?_)
  refine meets_then (p := fun _ => True) (meets_traced lasting_carrying fun id s' hsession _ => ?_)
    fun ignored _ => ?_
  · rw [← hsession]
    refine meets_applyTraced ?_ hreport
    rw [carrying, hsession]
    exact hs
  · cases ignored with
    | some ignored => exact upholds_pure trivial
    | none =>
      refine upholds_bind (upholds_publishRun lasting_carrying fun _ hs => hs.1) fun _ _ => ?_
      exact upholds_bind upholds_snapshot fun _ _ => upholds_pure trivial

/-! ## Beginning a run and taking it up -/

/-- A session that has begun a run. -/
def begun (mode : Mode) (transfer : Transfer) (shards instances : Value) (s : Session) : Session :=
  { s with
    state := .launched mode
    mode := some mode
    transfer := some transfer
    shardCount := shards
    instanceCount := instances
    lastFailure := none
    lastFetchFault := none }

/-- **A run begins inside its mode**, whatever the session did before. -/
theorem upholds_begin {shards instances : Value} (hshards : shards.IsWhole)
    (hinstances : instances.IsWhole) :
    (Control.begin mode transfer shards instances).Upholding (inside mode transfer)
      fun s => s.session.store = store := by
  have hcarries (x : Session) : (begun mode transfer shards instances x).Carries mode transfer :=
    ⟨⟨RunState.plain_launched mode, RunState.sound_launched mode⟩,
      RunState.confined_launched mode transfer, rfl, rfl, hshards, hinstances⟩
  have hstored : (do
      Control.persist
      Control.publish
      Control.snapshot).Upholding (inside mode transfer) (carrying mode transfer store) := by
    refine upholds_bind upholds_persist fun _ _ => ?_
    exact upholds_bind (upholds_publishRun lasting_carrying fun _ ht => ht.1) fun _ _ =>
      upholds_snapshot
  have hrest : (do
      modify (begun mode transfer shards instances)
      Control.persist
      Control.publish
      Control.snapshot).Upholding (inside mode transfer) fun s => s.session.store = store := by
    intro s hs
    -- from here on the session has the run, which is more than was known before
    refine meets_bind.mpr (meets_modify (.of_carries (hcarries s.session) rfl rfl) rfl ?_)
    have hbegun : carrying mode transfer store (s.onSession (begun mode transfer shards instances)) :=
      ⟨hcarries s.session, hs⟩
    exact (hstored _ hbegun).mono fun _ _ hw => ⟨hw.1.2, hw.2⟩
  refine upholds_guarded lasting_store ?_
  refine upholds_bind upholds_session fun _ _ => upholds_ite (fun _ => ?_) fun _ => hrest
  exact upholds_bind (p := fun _ => True) (upholds_fail _) fun _ _ => hrest

theorem leads_state {state : RunState} (hsound : state.PlainSound)
    (hconfined : state.Confined mode transfer) (s : Site) :
    s.Leads mode transfer (s.onSession fun x => { x with state }) where
  store := rfl
  abides h := ⟨.inr hconfined, fun ht => (h.carries ht).inState hsound hconfined⟩
  carries h := h.inState hsound hconfined
  stored h := h

theorem leads_mode (s : Site) :
    s.Leads mode transfer (s.onSession fun x => { x with mode := some mode }) where
  store := rfl
  abides h := ⟨h.state, fun ht => { h.carries ht with ofMode := rfl }⟩
  carries h := { h with ofMode := rfl }
  stored h := h

/-- **What is restored of a record of the run is inside its mode**, and the session has the run then. -/
theorem meets_restore {r : Record} (hr : r.Confined mode transfer) (hs : standing mode transfer store s) :
    (Control.restore r).Meets (inside mode transfer) (fun result s' =>
      standing mode transfer store s' ∧ ∀ a, result = .ok a → s'.session.Carries mode transfer) s := by
  obtain ⟨state, hstate, hsound, hconfined⟩ := hr.state
  have htaken : Lasting mode transfer fun t =>
      standing mode transfer store t ∧ t.session.Carries mode transfer :=
    lasting_standing.and lasting_carries
  have hshown : (do
      Control.publish
      Control.snapshot).Upholding (inside mode transfer) fun t =>
        standing mode transfer store t ∧ t.session.Carries mode transfer :=
    upholds_bind (upholds_publishRun htaken fun _ ht => ht.2) fun _ _ => upholds_snapshot
  refine meets_bind.mpr ((upholds_enter lasting_standing .state s hs).mono ?_)
  -- behind the gate nothing is waited for until all three parts are set, so the site is known exactly
  rintro (e | -) s' ⟨hs', -⟩
  · exact after_error.mpr ⟨hs', fun _ h => by cases h⟩
  have hcarries : { s'.session with
      state
      mode := some mode
      transfer := some transfer
      shardCount := r.shardCount
      instanceCount := r.instanceCount }.Carries mode transfer :=
    ⟨hsound, hconfined, rfl, rfl, hr.shardCount, hr.instanceCount⟩
  refine after_ok.mpr (meets_ensure.mpr (meets_bind.mpr (meets_ofExcept.mpr ?_)))
  rw [hstate]
  refine meets_bind.mpr (meets_modify (leads_state hsound hconfined s') rfl ?_)
  refine meets_bind.mpr (meets_ofExcept.mpr ?_)
  rw [hr.ofMode]
  refine meets_bind.mpr (meets_modify (leads_mode _) rfl ?_)
  refine meets_bind.mpr (meets_ofExcept.mpr ?_)
  rw [hr.ofTransfer]
  refine meets_bind.mpr (meets_modify (.of_carries hcarries rfl rfl) rfl ?_)
  refine (hshown _ ⟨?_, hcarries⟩).mono fun _ t hw => ?_
  · exact hs'
  · refine ⟨trivial, fun _ t' hleads => ?_⟩
    exact ⟨(htaken t t' hleads hw.1).1, fun _ _ => (htaken t t' hleads hw.1).2⟩

/-! ## Taking a run up -/

theorem upholds_summary (hJ : Lasting mode transfer J) :
    Conduct.readSummary.Upholding (inside mode transfer) J := by
  refine upholds_bind (p := fun _ => True) (upholds_rescue ?_ fun f => ?_) fun summary _ => ?_
  · exact upholds_map (upholds_readSummary hJ) fun _ _ => trivial
  · exact upholds_bind (upholds_announce hJ _ _) fun _ _ => upholds_pure trivial
  · cases summary with
    | some summary => exact upholds_modifyAside hJ fun _ => rfl
    | none => exact upholds_pure trivial

theorem upholds_start (hJ : Lasting mode transfer J)
    (hcarries : ∀ s, J s → s.session.Carries mode transfer) :
    Poll.start.Upholding (inside mode transfer) J := by
  have hrunning : Poll.isRunning.Upholding (inside mode transfer) J := by
    refine upholds_bind upholds_session fun x _ => ?_
    cases x.pollTask with
    | some t => exact upholds_bind (upholds_perform hJ (.hasEnded t) rfl) fun _ _ => upholds_pure trivial
    | none => exact upholds_pure trivial
  refine upholds_bind hrunning fun _ _ => upholds_ite (fun _ => ?_) fun _ => upholds_pure trivial
  refine upholds_bind (upholds_modifyAside hJ fun _ => rfl) fun _ _ => ?_
  refine upholds_bind (upholds_fork hJ hcarries) fun _ _ => ?_
  exact upholds_modifyAside hJ fun _ => rfl

/-- **A session that begins takes the run up inside its mode**, if it finds it in the store. -/
theorem upholds_takeUp :
    Conduct.begin.Upholding (inside mode transfer) (standing mode transfer store) := by
  refine upholds_bind (upholds_summary lasting_standing) fun _ _ => ?_
  refine upholds_bind upholds_session fun x hx => ?_
  obtain ⟨s, ⟨-, hstore⟩, rfl⟩ := hx
  rw [hstore]
  refine upholds_bind (upholds_load lasting_standing (fun _ hs => hs.2) fun _ hs => hs.1) fun o ho => ?_
  cases o with
  | none => exact upholds_snapshot
  | some r =>
    refine upholds_ite (fun _ s hs => ?_) fun _ => upholds_snapshot
    refine meets_bind.mpr ((meets_restore (ho r rfl) hs).mono ?_)
    rintro (e | a) s' ⟨hs', hcarries⟩
    · exact upheld_error hs'
    have hpolled : (do
        Poll.start
        return a : Op RunState).Upholding (inside mode transfer) fun t =>
          standing mode transfer store t ∧ t.session.Carries mode transfer :=
      upholds_bind (upholds_start (lasting_standing.and lasting_carries) fun _ ht => ht.2) fun _ _ =>
        upholds_pure trivial
    exact (hpolled s' ⟨hs', hcarries a rfl⟩).mono fun _ _ hw => ⟨hw.1.1, hw.2⟩

/-! ## Polling -/

theorem upholds_read (span : Nat) :
    (Poll.read span).Upholds (inside mode transfer) (carrying mode transfer store) fun o =>
      ∀ report, o = some report → report.Plain := by
  refine upholds_rescue (upholds_map (upholds_readStatus lasting_carrying) fun r hr => ?_) fun f => ?_
  · rintro _ ⟨⟩
    exact hr
  · refine upholds_bind (upholds_modifyAside lasting_carrying fun _ => rfl) fun _ _ => ?_
    refine upholds_bind (upholds_tag lasting_carrying _ _ _) fun _ _ => ?_
    exact upholds_bind (upholds_announce lasting_carrying _ _) fun _ _ => upholds_pure nofun

/-- **The service is asked, and what it reports is applied, inside the mode of the run.** -/
theorem upholds_once : Poll.once.Upholding (inside mode transfer) (carrying mode transfer store) := by
  refine upholds_bind (upholds_modifyAside lasting_carrying fun _ => rfl) fun _ _ => ?_
  refine upholds_bind upholds_session fun _ _ => upholds_traced lasting_carrying fun id => ?_
  refine upholds_bind (upholds_read id) fun o ho => ?_
  cases o with
  | none => exact upholds_pure trivial
  | some report =>
    refine upholds_bind (upholds_modifyAside lasting_carrying fun _ => rfl) fun _ _ => ?_
    refine upholds_ensure ?_ (upholds_aside lasting_carrying (fun _ => rfl) fun _ => rfl)
    exact upholds_bind (upholds_apply (ho report rfl)) fun _ _ => upholds_pure trivial

theorem upholds_round : Poll.round.Upholding (inside mode transfer) (carrying mode transfer store) := by
  have hraised : Poll.latchRaised.Upholding (inside mode transfer) (carrying mode transfer store) :=
    upholds_bind upholds_session fun _ _ => upholds_pure trivial
  have honce : Poll.onceOrReport.Upholding (inside mode transfer) (carrying mode transfer store) := by
    refine upholds_tryCatch upholds_once fun e => ?_
    cases e with
    | cancelled => exact upholds_throw _
    | fault f =>
      refine upholds_bind (upholds_modifyAside lasting_carrying fun _ => rfl) fun _ _ => ?_
      exact upholds_announce lasting_carrying _ _
  refine upholds_bind hraised fun _ _ => upholds_ite (fun _ => upholds_pure trivial) fun _ => ?_
  refine upholds_bind upholds_session fun x _ => ?_
  refine upholds_bind (upholds_perform lasting_carrying (.watchLatch _) rfl) fun w _ => ?_
  refine upholds_bind (upholds_unwrap (p := fun _ => True) fun _ _ => trivial) fun _ _ => ?_
  refine upholds_bind upholds_session fun _ _ => upholds_ite (fun _ => upholds_pure trivial) fun _ => ?_
  exact upholds_bind honce fun _ _ => upholds_pure trivial

end Inside

end Cutover
