import Cutover.Proofs.RunState.Soundness
import Cutover.Proofs.Work.Accord
import Cutover.Proofs.Work.Contract

/-!
# What work touches

Every piece of work has to do with a few things only: it changes some parts of the site, goes through some
gates, and makes some kinds of calls. All else it leaves alone, and to the run it does nothing but take it one step further.
What is true of all work that touches no more than some things is true of each piece of it.

* `Concern`: a part of the site, a gate, or a kind of call;
* `touching`: the contract of work that touches some things only;
* `Op.Touches`: an operation touches no more, with lemmas for the parts that operations are made of;
* `Hosts`, `Op.Touches.upholds`: **such work upholds what no such change can break**, and so do a span and a gate.
-/

namespace Cutover

/-- The kinds of calls to the service. -/
inductive CallKind where
  | launch
  | status
  | resources
  | summary
  | configuration
  deriving DecidableEq, Repr

/-- The kind of a call. -/
def Call.kind : Call → CallKind
  | submit _ => .launch
  | getStatus => .status
  | getResources => .resources
  | getSummary => .summary
  | setShards _ | setStreaming _ | setStaging _ | setCompute _ => .configuration

/-- **What work may have to do with**: a part of the site, a gate, or a kind of call. -/
inductive Concern where
  /-- The state of the run, with its mode, its transfer and what went wrong. -/
  | run
  | resources
  /-- How often there was a fetch, a poll and a failure. -/
  | counts
  /-- Which task polls, and its end. -/
  | loop
  | applying
  | launching
  | configuration
  | summary
  | board
  | readers
  | storage
  | hookCalls
  | events
  | gate (name : GateName)
  | call (kind : CallKind)
  deriving DecidableEq, Repr

/-- What work has to do with that goes through gates. -/
def Concern.gates : List Concern := [gate .state, gate .fetch]

theorem Concern.mem_gates (g : GateName) : gate g ∈ gates := by
  cases g <;> decide

namespace Session

/-- Everything that a run changes. -/
def runPart (s : Session) : (RunState × Option RunFailure × Option ServiceFault) × Record.Context :=
  ((s.state, s.lastFailure, s.lastFetchFault), s.context)

/-- What no work changes by itself. -/
def setup (s : Session) : Nat × Bool × List StopHook × Quantity × Quantity × Quantity × Gate × Gate :=
  (s.store, s.isBare, s.hooks, s.pageSize, s.interval, s.board.ttl, s.stateGate, s.fetchGate)

end Session

namespace Site

/-- Two sites are the same in what is of some concern. -/
def SameIn (x y : Site) : Concern → Prop
  | .run => y.session.runPart = x.session.runPart
  | .resources => y.session.resources = x.session.resources
  | .counts => (y.session.fetchCount, y.session.pollCount, y.session.failureCount) =
      (x.session.fetchCount, x.session.pollCount, x.session.failureCount)
  | .loop => (y.session.pollTask, y.session.latch) = (x.session.pollTask, x.session.latch)
  | .applying => y.session.applying = x.session.applying
  | .launching => y.session.launching = x.session.launching
  | .configuration => (y.session.fragments, y.session.wizard) = (x.session.fragments, x.session.wizard)
  | .summary => y.session.summary = x.session.summary
  | .board => y.session.board = x.session.board
  | .readers => (y.session.streams, y.session.nextStream) = (x.session.streams, x.session.nextStream)
  | .storage => y.storage = x.storage
  | .hookCalls => y.hookCalls = x.hookCalls
  | .events => y.events = x.events
  | .gate _ | .call _ => True

theorem sameIn_refl (x : Site) (c : Concern) : x.SameIn x c := by cases c <;> first | rfl | trivial

/-- **Only what is of some concern changes**, and the run goes one step at most. -/
structure Changes (cs : List Concern) (x y : Site) : Prop where
  setup : y.session.setup = x.session.setup
  same : ∀ c, c ∉ cs → x.SameIn y c
  run : y.session.runPart = x.session.runPart ∨ x.session.RunStep y.session

namespace Changes

variable {cs cs' : List Concern} {x y : Site}

theorem mono (h : x.Changes cs y) (hcs : cs ⊆ cs') : x.Changes cs' y :=
  { h with same := fun c hc => h.same c fun hmem => hc (hcs hmem) }

theorem of_one (c : Concern) (hc : c ∈ cs) (hsetup : y.session.setup = x.session.setup)
    (hrun : y.session.runPart = x.session.runPart) (h : ∀ d, d ≠ c → x.SameIn y d) : x.Changes cs y :=
  ⟨hsetup, fun d hd => h d fun hdc => hd (hdc ▸ hc), .inl hrun⟩

theorem of_step (hc : .run ∈ cs) (h : x.session.RunStep y.session) (hstorage : y.storage = x.storage)
    (hhookCalls : y.hookCalls = x.hookCalls) (hevents : y.events = x.events) : x.Changes cs y := by
  obtain ⟨session, storage, trace, hookCalls, events, now⟩ := y
  dsimp only at h hstorage hhookCalls hevents
  subst hstorage hhookCalls hevents
  refine ⟨?_, fun c hc' => ?_, .inr h⟩
  · cases h <;> rfl
  · cases c with
    | run => exact absurd hc hc'
    | _ => cases h <;> first | rfl | trivial

theorem of_trace (cs : List Concern) (x : Site) (trace : Trace) : x.Changes cs { x with trace } :=
  ⟨rfl, fun c _ => sameIn_refl x c, .inl rfl⟩

end Changes

end Site

/-- The effect is not beyond some concerns: which calls are sent, who goes through a gate, and who starts tasks,
cancels them and waits for their end. -/
def Effect.Within (cs : List Concern) : Effect → Prop
  | .send m => ∃ c : Call, m = c.message ∧ .call c.kind ∈ cs
  | .acquire g | .release g => .gate g ∈ cs
  | .fork b => b = .pollLoop ∧ .loop ∈ cs
  | .cancel _ | .join _ => .loop ∈ cs
  | _ => True

/-- **The contract of work that touches some things only.** Others may change anything while it waits. -/
def touching (cs : List Concern) : Contract Site where
  allows x
    | .change y => x.Changes cs y
    | e => e.Within cs
  leads x
    | .look, r, x' => r = x ∧ x' = x
    | .change y, _, x' => x' = { y with now := x.now }
    | _, _, _ => True

/-- Work touches some things only. -/
def Work.Touches {α : Type} (cs : List Concern) (w : Work α) : Prop :=
  ∀ x, w.Meets (touching cs) (fun _ _ => True) x

namespace Op

variable {α β : Type} {cs cs' : List Concern}

/-- **An operation touches some things only.** -/
def Touches (cs : List Concern) (op : Op α) : Prop := ∀ x, op.Meets (touching cs) (fun _ _ => True) x

variable {op : Op α}

theorem Touches.mono (h : op.Touches cs) (hcs : cs ⊆ cs') : op.Touches cs' := by
  refine fun x => (Work.Meets.along (I := fun _ => True) (h x) trivial (fun x e _ hallows => ?_)
    fun x e r x' _ _ hleads => ⟨?_, trivial⟩).mono fun _ _ _ => trivial
  · cases e with
    | change y => exact Site.Changes.mono hallows hcs
    | send m =>
      obtain ⟨c, hm, hc⟩ := hallows
      exact ⟨c, hm, hcs hc⟩
    | fork b => exact ⟨hallows.1, hcs hallows.2⟩
    | acquire | release | cancel | join => exact hcs hallows
    | _ => trivial
  · cases e <;> exact hleads

/-! ## One operation after another -/

theorem touches_pure (a : α) : Touches cs (pure a : Op α) := fun _ => trivial

theorem touches_throw (e : Exit) : Touches cs (throw e : Op α) := fun _ => trivial

theorem touches_fail (f : Fault) : Touches cs (fail f : Op α) := touches_throw _

theorem meets_thenTouches {f : α → Op β} {x : Site} (h : op.Meets (touching cs) (fun _ _ => True) x)
    (hf : ∀ a, (f a).Touches cs) : (op >>= f).Meets (touching cs) (fun _ _ => True) x := by
  refine meets_bind.mpr (h.mono ?_)
  rintro (e | a) x' -
  · trivial
  · exact hf a x'

theorem touches_bind {f : α → Op β} (h : op.Touches cs) (hf : ∀ a, (f a).Touches cs) :
    Touches cs (op >>= f) := fun x => meets_thenTouches (h x) hf

theorem touches_map {f : α → β} (h : op.Touches cs) : Touches cs (f <$> op) :=
  fun x => meets_map.mpr ((h x).mono fun _ _ _ => trivial)

theorem touches_tryCatch {handle : Exit → Op α} (h : op.Touches cs) (hhandle : ∀ e, (handle e).Touches cs) :
    Touches cs (tryCatch op handle) := by
  refine fun x => meets_tryCatch.mpr ((h x).mono ?_)
  rintro (e | a) x' -
  · exact hhandle e x'
  · trivial

theorem touches_rescue {handle : ServiceFault → Op α} (h : op.Touches cs)
    (hhandle : ∀ f, (handle f).Touches cs) : (rescue op handle).Touches cs := by
  refine touches_tryCatch h fun e => ?_
  split
  · exact hhandle _
  · exact touches_throw _

theorem touches_ensure {last : Work Unit} (h : op.Touches cs) (hlast : last.Touches cs) :
    (op.ensure last).Touches cs :=
  fun x => meets_ensure.mpr ((h x).mono fun _ x' _ => hlast x')

theorem touches_ite {c : Prop} [Decidable c] {op' : Op α} (h : op.Touches cs) (h' : op'.Touches cs) :
    Touches cs (if c then op else op') := by
  split
  · exact h
  · exact h'

/-- What is refused under some condition touches no more than what comes otherwise. -/
theorem touches_unless {c : Prop} [Decidable c] {f : Fault} {g : β → Op α} {b : β} (h : (g b).Touches cs) :
    Touches cs (if c then fail f >>= g else g b) :=
  touches_ite (fun _ => trivial) h

theorem touches_ofExcept (r : Except Fault α) : (ofExcept r).Touches cs := by
  cases r with
  | ok a => exact touches_pure a
  | error f => exact touches_fail f

theorem touches_given {r : Except Fault α} {f : α → Op β} (h : ∀ a, r = .ok a → (f a).Touches cs) :
    Touches cs (ofExcept r >>= f) := by
  cases r with
  | ok a => exact h a rfl
  | error e => exact fun _ => trivial

theorem touches_unwrap (r : Waited α) : (unwrap r).Touches cs := by
  cases r with
  | back a => exact touches_pure a
  | cancelled => exact touches_throw _

theorem touches_quietly {op : Op Unit} (h : op.Touches cs) : (quietly op).Touches cs :=
  touches_bind h fun _ => touches_pure _

/-! ## Effects -/

theorem touches_perform (e : Effect) (he : e.isOther = true) (hwithin : e.Within cs) :
    (perform e).Touches cs := by
  refine fun x => meets_perform.mpr ⟨?_, fun _ _ _ => trivial⟩
  cases e with
  | change y => cases he
  | _ => exact hwithin

theorem touches_release {g : GateName} (hg : .gate g ∈ cs) : (Work.perform (.release g)).Touches cs :=
  fun _ => ⟨hg, fun _ _ _ => trivial⟩

theorem touches_site : site.Touches cs := fun _ => ⟨trivial, fun _ _ _ => trivial⟩

theorem touches_session : session.Touches cs := touches_bind touches_site fun x => touches_pure x.session

theorem meets_thenLooked {f : Session → Op α} {x : Site}
    (h : (f x.session).Meets (touching cs) (fun _ _ => True) x) :
    (session >>= f).Meets (touching cs) (fun _ _ => True) x := by
  refine meets_bind.mpr (meets_bind.mpr (meets_lift.mpr ⟨trivial, ?_⟩))
  rintro _ _ ⟨rfl, rfl⟩
  exact h

theorem meets_updateTouches {f : Site → Site} {x : Site} (hf : x.Changes cs (f x)) :
    (Work.update f).Meets (touching cs) (fun _ _ => True) x := by
  refine ⟨trivial, ?_⟩
  rintro _ _ ⟨rfl, rfl⟩
  exact ⟨hf, fun _ _ _ => trivial⟩

theorem touches_update {f : Site → Site} (hf : ∀ x : Site, x.Changes cs (f x)) : (Work.update f).Touches cs :=
  fun x => meets_updateTouches (hf x)

theorem touches_lift {w : Work α} (h : w.Touches cs) : (lift w).Touches cs := fun x => meets_lift.mpr (h x)

theorem touches_modify {f : Session → Session} (hf : ∀ x : Site, x.Changes cs (x.onSession f)) :
    (modify f).Touches cs := touches_lift (touches_update hf)

theorem touches_modifyOne {f : Session → Session} (c : Concern) (hc : c ∈ cs)
    (hsetup : ∀ s, (f s).setup = s.setup) (hrun : ∀ s, (f s).runPart = s.runPart)
    (hf : ∀ (x : Site) (d : Concern), d ≠ c → x.SameIn (x.onSession f) d) : (modify f).Touches cs :=
  touches_modify fun x => .of_one c hc (hsetup x.session) (hrun x.session) (hf x)

theorem touches_step {f : Session → Session} (hc : .run ∈ cs) (hf : ∀ s : Session, s.RunStep (f s)) :
    (modify f).Touches cs :=
  touches_modify fun x => .of_step hc (hf x.session) rfl rfl rfl

/-! ## Gates, spans and notices -/

theorem touches_enter {g : GateName} (hg : .gate g ∈ cs) : (enter g).Touches cs :=
  touches_bind (touches_perform (.acquire g) rfl hg) fun _ => touches_unwrap _

theorem touches_guarded {g : GateName} (hg : .gate g ∈ cs) (h : op.Touches cs) : (guarded g op).Touches cs :=
  touches_bind (touches_enter hg) fun _ => touches_ensure h (touches_release hg)

theorem touches_enterSpan (s : Span) : (enterSpan s).Touches cs := by
  refine touches_lift fun x => ⟨trivial, ?_⟩
  rintro _ _ ⟨rfl, rfl⟩
  exact ⟨.of_trace cs _ _, fun _ _ _ => trivial⟩

theorem touches_traced {s : Span} {w : Nat → Op α} (h : ∀ id, (w id).Touches cs) :
    (traced s w).Touches cs :=
  touches_bind (touches_enterSpan s) fun id =>
    touches_ensure (h id) (touches_update fun _ => .of_trace cs _ _)

theorem touches_tag (id : Nat) (key : String) (value : Value) : (tag id key value).Touches cs :=
  touches_lift (touches_update fun _ => .of_trace cs _ _)

theorem meets_reboard {x : Site} {board : Board} (hc : .board ∈ cs) (httl : board.ttl = x.session.board.ttl) :
    (modify fun s => { s with board }).Meets (touching cs) (fun _ _ => True) x := by
  refine meets_lift.mpr (meets_updateTouches (.of_one .board hc ?_ rfl fun d hd => ?_))
  · rw [Site.onSession, Session.setup, httl]
    rfl
  · cases d with
    | board => exact absurd rfl hd
    | _ => first | rfl | trivial

theorem touches_seen {f : Site → Op α} (h : ∀ x, (f x).Meets (touching cs) (fun _ _ => True) x) :
    Touches cs (site >>= f) := by
  refine fun x => meets_bind.mpr (meets_lift.mpr ⟨trivial, ?_⟩)
  rintro _ _ ⟨rfl, rfl⟩
  exact h _

theorem ttl_transient (b : Board) (now : Int) (message : Value) (level : Level) :
    (b.transient now message level).1.ttl = b.ttl := by
  rw [Board.transient]
  split <;> rfl

theorem touches_announce (text : String) (level : Level) : (announce text level).Touches [.board] :=
  touches_seen fun _ => meets_thenTouches (meets_reboard List.mem_cons_self (ttl_transient ..)) fun _ =>
    touches_bind (touches_ofExcept _) fun _ => touches_pure _

theorem touches_alarm (message : Value) : (alarm message).Touches [.board] :=
  touches_seen fun _ => meets_reboard List.mem_cons_self rfl

theorem touches_sleep (d : Int) : (sleep d).Touches cs :=
  touches_bind (touches_perform (.sleep d) rfl trivial) fun _ => touches_unwrap _

theorem touches_storageTurn : storageTurn.Touches cs :=
  touches_bind (touches_perform .storageTurn rfl trivial) fun _ => touches_unwrap _

end Op

open Op

variable {α : Type} {cs : List Concern}

/-! ## Storing -/

namespace Keep

theorem touches_transact (f : Storage → Except Fault α × Storage) : (transact f).Touches [.storage] := by
  refine touches_bind touches_storageTurn fun _ x => meets_bind.mpr ?_
  refine meets_lift.mpr ⟨trivial, ?_⟩
  rintro _ _ ⟨rfl, rfl⟩
  refine meets_thenTouches (meets_lift.mpr ⟨?_, fun _ _ _ => trivial⟩) fun _ => touches_ofExcept _
  refine .of_one .storage List.mem_cons_self rfl rfl fun d hd => ?_
  cases d with
  | storage => exact absurd rfl hd
  | _ => first | rfl | trivial

theorem touches_traced (operation : String) (f : Storage → Except Fault α × Storage) :
    (traced operation f).Touches [.storage] :=
  touches_bind touches_site fun _ => Op.touches_traced fun _ => touches_transact f

theorem touches_obstacle (error : Option String) : (obstacle error).Touches cs := by
  cases error with
  | some text => exact touches_fail _
  | none => exact touches_pure _

theorem touches_load (store : Nat) : (load store).Touches [.storage] := touches_traced _ _

theorem touches_save (store : Nat) (r : Record) : (save store r).Touches [.storage] := by
  refine touches_bind touches_site fun x => ?_
  have hrest : Touches [.storage] (do
      obstacle ((← site).storage.faults store).saveError
      traced "save" fun s => s.save store r.encode) :=
    touches_bind touches_site fun _ => touches_bind (touches_obstacle _) fun _ => touches_traced _ _
  cases (x.storage.faults store).saveDelay with
  | some d => exact touches_bind (touches_sleep d) fun _ => hrest
  | none => exact hrest

theorem touches_clear (store : Nat) : (clear store).Touches [.storage] :=
  touches_bind touches_site fun _ => touches_bind (touches_obstacle _) fun _ => touches_traced _ _

theorem touches_fieldName (name : Value) : (fieldName name).Touches cs := by
  unfold fieldName
  split
  · exact touches_ite (touches_pure _) (touches_fail _)
  · exact touches_fail _

theorem touches_getField (store : Nat) (name : Value) : (getField store name).Touches [.storage] :=
  touches_bind (touches_fieldName name) fun _ => touches_transact _

theorem touches_setField (store : Nat) (name value : Value) : (setField store name value).Touches [.storage] :=
  touches_bind (touches_fieldName name) fun _ => touches_transact _

end Keep

/-! ## Calling the service -/

namespace Call

theorem touches_send (c : Call) : c.send.Touches [.call c.kind] := by
  refine Op.touches_traced fun span => ?_
  refine touches_unless (b := ()) (touches_bind (touches_perform (.send c.message) rfl ?_) fun w => ?_)
  · exact ⟨c, rfl, List.mem_cons_self⟩
  · refine touches_bind (touches_unwrap w) fun o => ?_
    cases o with
    | answered a => exact touches_bind (touches_tag _ _ _) fun _ => touches_pure a
    | unreachable failure text => exact touches_bind (touches_tag _ _ _) fun _ => touches_fail _
    | failed f => exact touches_fail f

theorem touches_ofService (r : Except ServiceFault α) : (ofService r).Touches cs := by
  cases r with
  | ok a => exact touches_pure a
  | error f => exact touches_fail _

theorem touches_write (c : Call) : c.write.Touches [.call c.kind] :=
  touches_bind (touches_send c) fun _ => touches_ofService _

theorem touches_readStatus : readStatus.Touches [.call .status] :=
  touches_bind (touches_send .getStatus) fun _ => touches_ofService _

theorem touches_readSummary : readSummary.Touches [.call .summary] :=
  touches_bind (touches_send .getSummary) fun _ => touches_ofService _

theorem touches_readResources : readResources.Touches [.call .resources] :=
  touches_rescue (touches_bind (touches_send .getResources) fun _ => touches_ofService _) fun _ => touches_fail _

end Call

/-! ## What such work upholds -/

/-- **No work that touches some things only can break an invariant** of a contract, whose states show the
site. -/
structure Hosts {σ : Type} (C : Contract σ) (site : σ → Site) (I : σ → Prop) (cs : List Concern) : Prop where
  look : ∀ s, I s → C.allows s .look ∧ ∀ r s', C.leads s .look r s' → I s' ∧ r = site s ∧ site s' = site s
  change : ∀ s y, I s → (site s).Changes cs y → C.allows s (.change y) ∧
    ∀ r s', C.leads s (.change y) r s' → I s' ∧ site s' = { y with now := (site s).now }
  other : ∀ s e, I s → e.isOther = true → e.Within cs → C.allows s e ∧ ∀ r s', C.leads s e r s' → I s'

section
variable {σ : Type} {C : Contract σ} {site : σ → Site} {I : σ → Prop}

theorem Work.meets_of_touching {Q : α → Site → Prop} {w : Work α} {s : σ} (hosts : Hosts C site I cs)
    (h : w.Meets (touching cs) Q (site s)) (hs : I s) : w.Meets C (fun _ s' => I s') s := by
  induction w generalizing s with
  | done a => exact hs
  | ask e next ih =>
    obtain ⟨hallows, hnext⟩ := h
    have hother : e.isOther = true → e.Within cs → (Work.ask e next).Meets C (fun _ s' => I s') s := by
      intro he hwithin
      obtain ⟨hallows', hleads⟩ := hosts.other s e hs he hwithin
      refine ⟨hallows', fun r s' hr => ih r (hnext r (site s') ?_) (hleads r s' hr)⟩
      cases e with
      | look => cases he
      | change y => cases he
      | _ => trivial
    cases e with
    | look =>
      obtain ⟨hallows', hleads⟩ := hosts.look s hs
      refine ⟨hallows', fun r s' hr => ?_⟩
      obtain ⟨hs', hseen, hsame⟩ := hleads r s' hr
      exact ih r (hnext r (site s') ⟨hseen, hsame⟩) hs'
    | change y =>
      obtain ⟨hallows', hleads⟩ := hosts.change s y hs hallows
      refine ⟨hallows', fun r s' hr => ?_⟩
      obtain ⟨hs', hsame⟩ := hleads r s' hr
      exact ih r (hnext r (site s') hsame) hs'
    | _ => exact hother rfl hallows

/-- **Work that touches some things only upholds what no such change can break.** -/
theorem Op.Touches.upholds {op : Op α} (h : op.Touches cs) (hosts : Hosts C site I cs) :
    op.Upholding C I :=
  fun s hs => (Work.meets_of_touching hosts (h (site s)) hs).mono fun _ _ hs' => ⟨hs', fun _ _ => trivial⟩

theorem Work.Touches.upholds {w : Work Unit} (h : w.Touches cs) (hosts : Hosts C site I cs) : w.Upholds C I :=
  fun s hs => Work.meets_of_touching hosts (h (site s)) hs

namespace Hosts

variable {op : Op α} (hosts : Hosts C site I cs)
include hosts

theorem upholds_traced {s : Span} {w : Nat → Op α} (h : ∀ id, (w id).Upholding C I) : (traced s w).Upholding C I :=
  upholds_bind ((touches_enterSpan s).upholds hosts) fun id _ =>
    upholds_ensure (h id) (Work.Touches.upholds (touches_update fun _ => .of_trace cs _ _) hosts)

theorem upholds_guarded {g : GateName} (hg : .gate g ∈ cs) (h : op.Upholding C I) :
    (guarded g op).Upholding C I :=
  upholds_bind ((touches_enter hg).upholds hosts) fun _ _ =>
    upholds_ensure h (Work.Touches.upholds (touches_release hg) hosts)

end Hosts

end

end Cutover
