import Cutover.Proofs.Control.Repeating
import Cutover.Proofs.World.Opening
import Cutover.World.Observation

/-!
# A launch done alone

A launch that nobody interferes with is all or nothing, but for two things: what cannot be saved was begun
all the same, and is neither stored nor polled; and what cannot be told is in place though the launch ends
early.

* `Core.begins`: the run of a request that was accepted begins;
* `Surroundings.Launched`, `Surroundings.alone_request`: what comes of a launch;
* `World.InPlace`, `World.AsBefore`, `World.Halfway`: what it may leave;
* `World.Tended`, `World.Launchable.tended`: a session polls after a launch, by the loop that ran or a new one;
* `World.launch_outcome`: **a launch that is done alone leaves one of the three**.
-/

namespace Cutover

namespace Core

variable {c : Core} {r : Request} {f : Fault} {state : RunState}

/-- The core of a session that is about to launch a run, or no longer. -/
def atDesk (c : Core) (launching : Bool) : Core := c.onSession fun s => { s with launching }

/-- The core of a session that keeps no resources, unless it never does. -/
def dropped (c : Core) : Core :=
  if c.session.isBare then c else c.onSession fun s => { s with resources := none }

/-- **The run of a request that was accepted begins.** -/
def begins (r : Request) (c : Core) : Turn RunState :=
  c.dropped.begin r.mode r.transfer (.whole r.shards.length) (.whole (max 1 r.shards.length))

/-- The core of a run that was begun, before it is stored. -/
def underway (r : Request) (c : Core) : Core :=
  c.dropped.launched r.mode r.transfer (.whole r.shards.length) (.whole (max 1 r.shards.length))

theorem stays_dropped (c : Core) : c.Stays c.dropped ∧ c.dropped.session.state = c.session.state ∧
    c.dropped.session.pollTask = c.session.pollTask ∧ c.dropped.storage = c.storage := by
  unfold dropped
  split
  · exact ⟨.refl c, rfl, rfl, rfl⟩
  · exact ⟨⟨rfl, rfl, rfl, rfl, rfl, .refl _⟩, rfl, rfl, rfl⟩

theorem begins_eq (h : c.session.state.isRunning = false) :
    c.begins r = (c.underway r).persist.andThen fun _ d => d.snapshot := by
  refine if_neg ?_
  rw [(stays_dropped c).2.1, h]
  exact Bool.false_ne_true

theorem pollTask_begins (r : Request) (c : Core) :
    (c.begins r).core.session.pollTask = c.session.pollTask := by
  have hdropped := (stays_dropped c).2.2.1
  unfold begins begin
  split
  · exact hdropped
  · refine core_andThen (P := fun d => d.session.pollTask = c.session.pollTask) ?_ fun _ _ => ?_
    · rw [session_persist]
      exact hdropped
    · show (persist _).core.session.pollTask = c.session.pollTask
      rw [session_persist]
      exact hdropped

theorem stays_begins (r : Request) (c : Core) : c.Stays (c.begins r).core :=
  (stays_dropped c).1.trans (stays_begin ..)

theorem store_underway (r : Request) (c : Core) :
    (c.underway r).session.store = c.session.store ∧ (c.underway r).storage = c.storage := by
  obtain ⟨hstays, -, -, hstorage⟩ := stays_dropped c
  exact ⟨hstays.store, hstorage⟩

theorem begins_ok (hrests : c.session.state.isRunning = false)
    (hknown : c.session.store < c.storage.stores.length) (h : (c.begins r).result = .ok state) :
    state = .launched r.mode ∧ (c.begins r).core.session = (c.underway r).session ∧
      (c.begins r).core.stored = (c.underway r).record.encode := by
  obtain ⟨hstore, hstorage⟩ := store_underway r c
  rw [begins_eq hrests] at h ⊢
  obtain ⟨_, hpersist, heq⟩ := of_andThen_ok h
  have hsession := session_persist (c.underway r)
  rw [heq] at h ⊢
  refine ⟨?_, hsession, stored_persist (by rwa [hstore, hstorage]) hpersist⟩
  have hcheck : (c.underway r).persist.core.session.state.check = .ok state := h
  rw [hsession] at hcheck
  exact (RunState.sound_of_check hcheck).1

/-- **A run that was begun and could not be saved is in progress and not stored.** -/
theorem begins_error (hrests : c.session.state.isRunning = false)
    (hknown : c.session.store < c.storage.stores.length) (h : (c.begins r).result = .error f) :
    (∃ text, c.faults.saveError = some text ∧ f = .storage text) ∧
      (c.begins r).core.session = (c.underway r).session ∧ (c.begins r).core.storage = c.storage := by
  obtain ⟨hstore, hstorage⟩ := store_underway r c
  have hfaults : (c.underway r).faults = c.faults := by rw [faults, faults, hstore, hstorage]
  rw [begins_eq hrests] at h ⊢
  cases hpersist : (c.underway r).persist.result with
  | ok _ =>
    -- The state of a run that was just launched can always be shown.
    have hsession := session_persist (c.underway r)
    have hcheck : (c.underway r).persist.core.session.state.check = .ok (.launched r.mode) := by
      rw [hsession]
      exact (RunState.sound_launched r.mode).check_eq
    rw [andThen_ok hpersist] at h
    cases hcheck.symm.trans h
  | error g =>
    rw [andThen_error hpersist] at h ⊢
    obtain rfl : g = f := Except.error.inj h
    refine ⟨?_, session_persist _, (storage_persist (by rwa [hstore, hstorage]) hpersist).trans hstorage⟩
    rw [persist, hfaults] at hpersist
    cases hsave : c.faults.saveError with
    | some text =>
      rw [hsave] at hpersist
      exact ⟨text, rfl, (Except.error.inj hpersist).symm⟩
    | none =>
      rw [hsave] at hpersist
      have hsaved := (Storage.save_spec (s := (c.underway r).storage) (n := (c.underway r).session.store)
        (by rwa [hstore, hstorage]) (c.underway r).record.encode_names).1
      cases hsaved.symm.trans hpersist

end Core

namespace Surroundings

variable {S : Surroundings} {c : Core} {s : Scene} {p : List (Option RunState)} {r : Request} {α : Type}

/-! ## What comes of a launch -/

/-- **What comes of submitting a request.** -/
inductive Submitted (S : Surroundings) (c : Core) (r : Request) : Except Exit RunState → Scene → Prop
  /-- It is not accepted, or its refusal cannot be told. -/
  | rejected {e : Exit} {s : Scene} (core : S.At c [] s) (forked : s.forked = []) :
    Submitted S c r (.error e) s
  /-- The run was begun and cannot be saved. -/
  | unsaved {f : Fault} {s : Scene} (fails : (c.begins r).result = .error f)
    (core : S.At (c.begins r).core [] s) (forked : s.forked = []) : Submitted S c r (.error (.fault f)) s
  /-- The run was begun, and is polled. -/
  | underway {state : RunState} {d : Core} {s : Scene} (begun : (c.begins r).result = .ok state)
    (started : S.Started (c.begins r).core d s.forked) (core : S.At d [some state] s) : Submitted S c r (.ok state) s

theorem meets_anySend {call : Call} {Q : Except Exit Answer → Scene → Prop} (h : S.At c p s)
    (hQ : ∀ (x : Except Fault Answer) s', S.At c p s' → Q (x.mapError .fault) s') :
    call.send.Meets S.behind Q s := by
  cases hsendable : call.message.isSendable with
  | true => exact meets_send h hsendable fun o s' _ h' => hQ (o.received call) s' h'
  | false =>
    rw [Call.send]
    refine meets_traced h fun id s' h' => ?_
    simp only [hsendable]
    exact ⟨c, p, h', fun t ht => hQ (.error (.refused .notFinite)) t ht⟩

theorem meets_sendRequest (h : S.At c p s) (id : Nat) :
    (Launch.send r id).Meets S.behind (fun _ s' => S.At c p s') s := by
  -- A fault of the call is reported, if the notice can be raised.
  have hreport : ∀ (f : ServiceFault) s', S.At c p s' → (do
      Op.tag id Attribute.errorType (.text f.kind.toClass.name)
      Op.announce f.message .error
      Op.failClient (.service f) : Op Unit).Meets S.behind (fun _ s'' => S.At c p s'') s' := by
    intro f s' h'
    refine Op.meets_bind.mpr (meets_tag h' fun s₁ h₁ => Op.meets_bind.mpr (meets_announce h₁ fun x s₂ _ h₂ => ?_))
    cases x <;> exact h₂
  have hfault : ∀ (f : Fault) s', S.At c p s' → Op.rescued S.behind (fun _ s'' => S.At c p s'')
      (fun f => do
        Op.tag id Attribute.errorType (.text f.kind.toClass.name)
        Op.announce f.message .error
        Op.failClient (.service f)) (.error (.fault f) : Except Exit Unit) s' := by
    intro f s' h'
    by_cases hf : ∃ g, f = .client (.service g)
    · obtain ⟨g, rfl⟩ := hf
      exact hreport g s' h'
    · rw [not_exists] at hf
      exact (Op.rescued_other hf).mpr h'
  rw [Launch.send, Op.meets_rescue, Call.write, Op.meets_bind]
  refine meets_anySend h fun x s' h' => ?_
  cases x with
  | error f => exact hfault f s' h'
  | ok a =>
    show Op.Meets _ _ (Call.ofService (a.check (.submit r))) _
    cases a.check (.submit r) with
    | ok _ => exact h'
    | error f => exact hfault (.client (.service f)) s' h'

theorem alone_begins {Q : Except Exit RunState → Scene → Prop} (h : S.At c.dropped [] s)
    (hfree : s.site.session.stateGate = {}) (hknows : S.Knows c)
    (hgrants : ∀ d e, S.grants d e) (hforked : s.forked = [])
    (hQ : ∀ res s', Submitted S c r res s' → s'.site.session.stateGate = {} → Q res s') :
    Op.Meets S.alone Q (do
      let count : Int := r.shards.length
      let state ← Control.begin r.mode r.transfer (.whole count) (.whole (max 1 count))
      Poll.start
      return state) s := by
  have hguards := guards_begin S r.mode r.transfer (.whole r.shards.length) (.whole (max 1 r.shards.length))
  refine Op.meets_bind.mpr (alone_guarded hguards h (fun d _ => hgrants _ _) hfree ?_)
  intro k s₁ _ h₁ hfree₁ hforked₁
  have hforked₁ := hforked₁.trans hforked
  have h₁ : S.At (c.begins r).core (given (fun state => [some state]) (c.begins r).result) s₁ := h₁
  show Op.after S.alone Q _ ((c.begins r).result.mapError .fault) s₁
  cases hbegun : (c.begins r).result with
  | error f =>
    rw [hbegun] at h₁
    exact hQ _ s₁ (.unsaved hbegun h₁ hforked₁) hfree₁
  | ok state =>
    rw [hbegun] at h₁
    have hknows₁ : S.Knows (c.begins r).core := fun t ht => hknows t ((Core.pollTask_begins r c).symm.trans ht)
    refine Op.meets_bind.mpr (alone_start h₁ hknows₁ fun d f s₂ hstarted h₂ hforked₂ hgate₂ => ?_)
    obtain rfl : s₂.forked = f := by rw [hforked₂, hforked₁, List.nil_append]
    exact hQ _ s₂ (.underway hbegun hstarted h₂) (hgate₂.trans hfree₁)

theorem alone_submit {Q : Except Exit RunState → Scene → Prop} (h : S.At c [] s)
    (hfree : s.site.session.stateGate = {}) (hknows : S.Knows c)
    (hgrants : ∀ d e, S.grants d e) (hforked : s.forked = [])
    (hQ : ∀ res s', Submitted S c r res s' → s'.site.session.stateGate = {} → Q res s') :
    (Launch.submit r).Meets S.alone Q s := by
  refine alone_traced h fun id s₁ h₁ hsteady₁ => ?_
  refine Op.meets_bind.mpr ((meets_alone (meets_sendRequest h₁ id)).mono ?_)
  rintro res s₂ ⟨h₂, hgate₂, hforked₂⟩
  have hfree₂ := hgate₂.trans (hsteady₁.1.trans hfree)
  have hforked₂ := hforked₂.trans (hsteady₁.2.trans hforked)
  -- Whatever comes of it, the span is closed after it.
  have hclosed : ∀ (res : Except Exit RunState) (s' : Scene), Submitted S c r res s' →
      s'.site.session.stateGate = {} →
      ∃ d q, S.At d q s' ∧ ∀ t', S.At d q t' → Steady s' t' → Q res t' := by
    intro res s' hres hfree'
    cases hres with
    | rejected core forked =>
      exact ⟨_, _, core, fun t' ht' hsteady => hQ _ t' (.rejected ht' (hsteady.2.trans forked)) (hsteady.1.trans hfree')⟩
    | unsaved fails core forked =>
      exact ⟨_, _, core, fun t' ht' hsteady => hQ _ t' (.unsaved fails ht' (hsteady.2.trans forked)) (hsteady.1.trans hfree')⟩
    | underway begun started core =>
      exact ⟨_, _, core, fun t' ht' hsteady =>
        hQ _ t' (.underway begun (hsteady.2 ▸ started) ht') (hsteady.1.trans hfree')⟩
  cases res with
  | error e => exact hclosed _ s₂ (.rejected h₂ hforked₂) hfree₂
  | ok _ =>
    refine Op.meets_bind.mpr (alone_session ?_)
    have hbare : s₂.site.session.isBare = c.session.isBare := h₂.read Session.isBare fun _ => rfl
    show Op.Meets _ _ (if !s₂.site.session.isBare then _ else _) _
    rw [hbare]
    cases hcase : c.session.isBare with
    | true =>
      have hsame : c.dropped = c := by rw [Core.dropped, hcase]; rfl
      exact alone_begins (hsame.symm ▸ h₂) hfree₂ hknows hgrants hforked₂ hclosed
    | false =>
      refine Op.meets_bind.mpr (alone_modify h₂ rfl rfl rfl fun s₃ h₃ hsteady₃ => ?_)
      have hdropped : c.dropped = c.onSession fun s => { s with resources := none } := by
        rw [Core.dropped, hcase]
        rfl
      exact alone_begins (hdropped.symm ▸ h₃) (hsteady₃.1.trans hfree₂) hknows hgrants
        (hsteady₃.2.trans hforked₂) hclosed

/-- **What comes of a launch.** -/
inductive Launched (S : Surroundings) (c : Core) (r : Request) : Except Exit RunState → Scene → Prop
  /-- It is refused, for a launch or a run is under way. -/
  | refused {e : Exit} {s : Scene} (core : S.At c [] s) (forked : s.forked = []) : Launched S c r (.error e) s
  /-- It is not accepted, or its refusal cannot be told. -/
  | rejected {e : Exit} {s : Scene} (core : S.At ((c.atDesk true).atDesk false) [] s) (forked : s.forked = []) :
    Launched S c r (.error e) s
  /-- The run was begun and cannot be saved. -/
  | unsaved {f : Fault} {s : Scene} (fails : ((c.atDesk true).begins r).result = .error f)
    (core : S.At (((c.atDesk true).begins r).core.atDesk false) [] s) (forked : s.forked = [])
    (rests : c.session.state.isRunning = false) : Launched S c r (.error (.fault f)) s
  /-- The run was begun, and is polled. The user is told if the notice can be raised. -/
  | underway {state : RunState} {d : Core} {x : Except Fault Unit} {s : Scene}
    (begun : ((c.atDesk true).begins r).result = .ok state)
    (started : S.Started ((c.atDesk true).begins r).core d s.forked) (core : S.At (d.atDesk false) [some state] s)
    (told : S.Dates c x) (rests : c.session.state.isRunning = false) :
    Launched S c r ((x.map fun _ => state).mapError .fault) s

/-- A second launch is refused; otherwise the desk is free and no run is in progress. -/
theorem alone_refuseSecond {Q : Except Exit Unit → Scene → Prop} (hrefused : ∀ e, Q (.error e) s)
    (hfree : s.site.session.state.isRunning = false → Q (.ok ()) s) :
    Launch.refuseSecond.Meets S.alone Q s := by
  refine Op.meets_bind.mpr (alone_session ?_)
  show Op.Meets _ _ (if s.site.session.launching || s.site.session.state.isRunning then _ else _) _
  split
  next =>
    refine Op.meets_bind.mpr (Op.meets_bind.mpr (alone_session (Op.meets_ofExcept.mpr ?_)))
    cases s.site.session.state.check with
    | ok state => exact hrefused _
    | error f => exact hrefused _
  next hneither =>
    simp only [Bool.or_eq_true, not_or, Bool.not_eq_true] at hneither
    exact hfree hneither.2

theorem alone_leave {d : Core} {Q : Unit → Scene → Prop} (h : S.At d p s)
    (hQ : ∀ s', S.At (d.atDesk false) p s' → s'.forked = s.forked → Q () s') :
    (Work.update (Site.onSession fun s => { s with launching := false })).Meets S.alone Q s :=
  Op.meets_lift.mp (alone_modify (f := fun s => { s with launching := false })
    (Q := fun res s' => res = .ok () → Q () s') h rfl rfl rfl fun s' h' hsteady _ => hQ s' h' hsteady.2)
    |>.mono fun _ _ hres => hres rfl

/-- What a session raises its notices on is the same whether its poll loop was started or goes on. -/
theorem Started.board {d : Core} {f : List (Nat × Background)} (h : S.Started c d f) :
    d.session.board = c.session.board := by
  cases h <;> rfl

/-- **What comes of a launch** that is done alone. -/
theorem alone_request {Q : Except Exit RunState → Scene → Prop} (h : S.At c [] s)
    (hfree : s.site.session.stateGate = {}) (hknows : S.Knows c)
    (hgrants : ∀ d e, S.grants d e) (hforked : s.forked = [])
    (hQ : ∀ res s', Launched S c r res s' → Q res s') : (Launch.request r).Meets S.alone Q s := by
  refine Op.meets_bind.mpr (alone_refuseSecond (fun e => hQ _ s (.refused h hforked)) fun hrests => ?_)
  have hrests : c.session.state.isRunning = false := by rwa [h.state] at hrests
  refine Op.meets_bind.mpr (alone_modify h rfl rfl rfl fun s₁ h₁ hsteady₁ => ?_)
  have h₁ : S.At (c.atDesk true) [] s₁ := h₁
  refine Op.meets_bind.mpr (Op.meets_ensure.mpr (alone_submit h₁ (hsteady₁.1.trans hfree) hknows hgrants
    (hsteady₁.2.trans hforked) fun res s₂ hcame hfree₂ => ?_))
  cases hcame with
  | rejected core forked =>
    exact alone_leave core fun s₃ h₃ hforked₃ => hQ _ s₃ (.rejected h₃ (hforked₃.trans forked))
  | unsaved fails core forked =>
    exact alone_leave core fun s₃ h₃ hforked₃ => hQ _ s₃ (.unsaved fails h₃ (hforked₃.trans forked) hrests)
  | @underway state d _ begun started core =>
    refine alone_leave core fun s₃ h₃ hforked₃ => ?_
    have hannounce : (Op.announce ProgressText.started .success).Meets S.behind (fun res s' => ∃ x,
        S.Dates (d.atDesk false) x ∧ S.At (d.atDesk false) [some state] s' ∧ res = x.mapError .fault) s₃ :=
      meets_announce h₃ fun x s' hx h' => ⟨x, hx, h', rfl⟩
    refine Op.meets_bind.mpr ((meets_alone hannounce).mono ?_)
    rintro _ s₄ ⟨⟨x, hx, h₄, rfl⟩, -, hforked₄⟩
    have hdates : S.Dates c x := by
      obtain ⟨t, ht, rfl⟩ := hx
      have hboard : d.session.board = c.session.board :=
        started.board.trans (Core.stays_begins r (c.atDesk true)).board
      exact ⟨t, ht, congrArg (fun b : Board => b.dated t) hboard⟩
    have hforked₄ := hforked₄.trans hforked₃
    have hlast := hQ _ s₄ (.underway begun (hforked₄ ▸ started) h₄ hdates hrests)
    cases x with
    | ok _ => exact hlast
    | error f => exact hlast

end Surroundings

namespace World

open Surroundings

variable {n : Nat} {w w' : World} {r : Request} {res : Except Exit Result} {job : Job}

/-- A session behind whose gate nobody is, where the poll loop that is known, if any, is there. -/
structure Launchable (n : Nat) (w : World) : Prop where
  known : n < w.sessions.length
  stateGate : (w.session n).stateGate = {}
  pollTask : ∀ t, (w.session n).pollTask = some t → t < w.tasks.length

/-- **A session polls**: the loop that ran before goes on, or else a new one was started. -/
structure Tended (n : Nat) (w w' : World) : Prop where
  polling : w'.isPolling n = true
  started : w.isPolling n = false → Polls n w w'
  kept : w.isPolling n = true → (w'.session n).pollTask = (w.session n).pollTask ∧ ¬Polls n w w'

/-- The poll loop of a session is as it was. -/
structure Untended (n : Nat) (w w' : World) : Prop where
  pollTask : (w'.session n).pollTask = (w.session n).pollTask
  polling : w'.isPolling n = w.isPolling n
  silent : ¬Polls n w w'

/-- **The run of a request is in progress**, its record is stored, and it is polled. -/
structure InPlace (n : Nat) (r : Request) (w w' : World) : Prop extends Tended n w w' where
  state : (w'.session n).state = .launched r.mode
  mode : (w'.session n).mode = some r.mode
  transfer : (w'.session n).transfer = some r.transfer
  stored : w'.storage.table (w'.session n).store = (w'.session n).record.encode

/-- **The run is as it was**, so that a launch can be called for again. -/
structure AsBefore (n : Nat) (w w' : World) : Prop extends Untended n w w' where
  launching : (w.session n).launching = false → (w'.session n).launching = false
  state : (w'.session n).state = (w.session n).state
  mode : (w'.session n).mode = (w.session n).mode
  transfer : (w'.session n).transfer = (w.session n).transfer
  stored : w'.storage.table (w'.session n).store = w.storage.table (w.session n).store

/-- **A run was begun that is not stored**, and no loop was started to poll it. -/
structure Halfway (n : Nat) (r : Request) (w w' : World) : Prop extends Untended n w w' where
  state : (w'.session n).state = .launched r.mode
  mode : (w'.session n).mode = some r.mode
  transfer : (w'.session n).transfer = some r.transfer
  stored : w'.storage.table (w'.session n).store = w.storage.table (w.session n).store

/-- What a launch comes to, and what it leaves. -/
inductive LaunchOutcome (n : Nat) (r : Request) (w w' : World) : Except Exit Result → Prop
  | launched {state : RunState} (left : InPlace n r w w') : LaunchOutcome n r w w' (.ok (.state state))
  | refused {e : Exit} (left : AsBefore n w w') : LaunchOutcome n r w w' (.error e)
  | unsaved {text : String} (reason : (w.storage.faults (w.session n).store).saveError = some text)
    (left : Halfway n r w w') : LaunchOutcome n r w w' (.error (.fault (.storage text)))
  | untold {f : Fault} {t : Int} (since : w.now ≤ t) (before : t ≤ w'.now)
    (reason : (w.session n).board.dated t = .error f) (left : InPlace n r w w') :
    LaunchOutcome n r w w' (.error (.fault f))

/-! ## The poll loop -/

theorem Launchable.hasEnded (hw : w.Launchable n) (hbeside : Beside n w.tasks.length (w.begun n job) w') {t : Nat}
    (ht : (w.session n).pollTask = some t) : w'.hasEnded t = w.hasEnded t := by
  have hlt := hw.pollTask t ht
  have hbegun : (w.begun n job).tasks[t]? = w.tasks[t]? := List.getElem?_append_left hlt
  have hlt' := (List.getElem?_eq_some_iff.mp (hbegun.trans (List.getElem?_eq_getElem hlt))).1
  rw [(hbeside.hasEnded (Nat.ne_of_lt hlt) hlt').2, World.hasEnded, World.hasEnded, hbegun]

theorem Launchable.untended (hw : w.Launchable n) (hforked : Forked n (w.begun n job) w' [] [])
    (hbeside : Beside n w.tasks.length (w.begun n job) w')
    (hsame : (w'.session n).pollTask = (w.session n).pollTask) : Untended n w w' where
  pollTask := hsame
  polling := by
    rw [isPolling, isPolling, hsame]
    cases ht : (w.session n).pollTask with
    | none => rfl
    | some t => exact congrArg not (hw.hasEnded hbeside ht)
  silent := not_polls hforked hbeside

/-- What is known of the loop of a session that is about to launch a run. -/
def knowing (n : Nat) (w : World) (S : Surroundings) : Surroundings :=
  { S with ended := fun t b => (w.session n).pollTask = some t ∧ w.hasEnded t = b }

theorem Launchable.bears (hw : w.Launchable n) {S : Surroundings} (h : w.Answers S) :
    w.Bears (knowing n w S) w.tasks.length where
  answers := h
  ended t b := by
    rintro ⟨ht, hb⟩
    have hlt := hw.pollTask t ht
    exact ⟨Nat.ne_of_lt hlt, hlt, hb⟩

theorem isPolling_of_polling {S : Surroundings} {c : Core} {b : Bool} (h : (knowing n w S).Polling c b)
    (hc : c.session.pollTask = (w.session n).pollTask) : w.isPolling n = b := by
  cases h with
  | never hnone => rw [isPolling, ← hc, hnone]
  | known htask hb =>
    rw [isPolling, hb.1]
    exact congrArg not hb.2

/-- **The poll loop is tended** by a launch that begins a run. -/
theorem Launchable.tended {S : Surroundings} {c d : Core} {f : List (Nat × Background)} (hw : w.Launchable n)
    (hc : c.session.pollTask = (w.session n).pollTask) (hstarted : (knowing n w S).Started c d f)
    (hd : (w'.session n).pollTask = d.session.pollTask) (hforked : Forked n (w.begun n job) w' [] f)
    (hbeside : Beside n w.tasks.length (w.begun n job) w') : Tended n w w' := by
  cases hstarted with
  | already hpolling =>
    have huntended := hw.untended hforked hbeside (hd.trans hc)
    have hpolls := isPolling_of_polling hpolling hc
    refine ⟨huntended.polling.trans hpolls, fun hrests => ?_, fun _ => ⟨hd.trans hc, huntended.silent⟩⟩
    rw [hpolls] at hrests
    cases hrests
  | anew task hpolling =>
    have hrests := isPolling_of_polling hpolling hc
    have hd : (w'.session n).pollTask = some task := hd
    obtain hearlier | ⟨hle, loop, hloop, hsession, hpoll⟩ := hforked.started _ List.mem_cons_self
    · cases hearlier
    have hgrown : (w.begun n job).tasks.length = w.tasks.length + 1 := by
      simp [begun, unqueue, spawn, enqueue]
    have hne : task ≠ w.tasks.length := by omega
    obtain ⟨work, hfresh⟩ := hbeside.new task loop hne hle hloop
    refine ⟨?_, fun _ => ⟨task, loop, by omega, hloop, hsession, hpoll, hd⟩, fun hpolls => ?_⟩
    · rw [isPolling, hd]
      show (!w'.hasEnded task) = true
      rw [World.hasEnded, hloop]
      show (!loop.hasEnded) = true
      rw [Task.hasEnded, hfresh]
      rfl
    · rw [hrests] at hpolls
      cases hpolls

/-! ## What is left -/

theorem asBefore_of_core {launching : Bool} (hcore : (w'.site n).core = (w.site n).core.atDesk launching)
    (hdesk : (w.session n).launching = false → launching = false) (huntended : Untended n w w') : AsBefore n w w' where
  toUntended := huntended
  launching hfree := (congrArg (fun c : Core => c.session.launching) hcore).trans (hdesk hfree)
  state := congrArg (fun c : Core => c.session.state) hcore
  mode := congrArg (fun c : Core => c.session.mode) hcore
  transfer := congrArg (fun c : Core => c.session.transfer) hcore
  stored := congrArg Core.stored hcore

theorem halfway_of_core {c d : Core} (hcore : (w'.site n).core = d.atDesk false)
    (hsession : d.session = (c.underway r).session) (hstored : d.stored = w.storage.table (w.session n).store)
    (huntended : Untended n w w') : Halfway n r w w' where
  toUntended := huntended
  state := (congrArg (fun c : Core => c.session.state) hcore).trans (congrArg Session.state hsession)
  mode := (congrArg (fun c : Core => c.session.mode) hcore).trans (congrArg Session.mode hsession)
  transfer := (congrArg (fun c : Core => c.session.transfer) hcore).trans (congrArg Session.transfer hsession)
  stored := (congrArg Core.stored hcore).trans hstored

theorem inPlace_of_core {S : Surroundings} {c d e : Core} {f : List (Nat × Background)}
    (hcore : (w'.site n).core = e.atDesk false) (hstarted : S.Started d e f)
    (hsession : d.session = (c.underway r).session) (hstored : d.stored = (c.underway r).record.encode)
    (htended : Tended n w w') : InPlace n r w w' := by
  have hstate : e.session.state = .launched r.mode := by
    cases hstarted <;> exact congrArg Session.state hsession
  have hmode : e.session.mode = some r.mode := by
    cases hstarted <;> exact congrArg Session.mode hsession
  have htransfer : e.session.transfer = some r.transfer := by
    cases hstarted <;> exact congrArg Session.transfer hsession
  have hrecord : e.record = (c.underway r).record := by
    have hd : d.session.record = (c.underway r).record := congrArg Session.record hsession
    cases hstarted <;> exact hd
  have hkept : e.stored = (c.underway r).record.encode := by
    cases hstarted <;> exact hstored
  refine ⟨htended, (congrArg (fun c : Core => c.session.state) hcore).trans hstate,
    (congrArg (fun c : Core => c.session.mode) hcore).trans hmode,
    (congrArg (fun c : Core => c.session.transfer) hcore).trans htransfer, ?_⟩
  have hsame : (w'.session n).record = e.record := congrArg Core.record hcore
  rw [hsame, hrecord, ← hkept]
  exact congrArg Core.stored hcore

/-- **What comes of a launch that is done alone**: it returns, and the run of its request is in progress, stored
and polled; or it ends early, and the run is as it was. Only a run that cannot be saved is left half begun, and
only where nobody can be told of it a run is in place though the launch ended early. -/
theorem launch_outcome (hw : w.Launchable n) (hknown : (w.session n).store < w.storage.stores.length) (r : Request) :
    ∃ w' res, Does n (Action.poll (.submit r)).op w w' res ∧ LaunchOutcome n r w w' res := by
  have hmeets : ∀ S : Surroundings, (∀ d e, S.grants d e) → S.within w.now →
      (Action.poll (.submit r)).op.Meets (knowing n w S).alone (fun res s' => ∃ x,
        res = x.map .state ∧ (knowing n w S).Launched (w.site n).core r x s') ⟨w.site n, [], []⟩ := by
    intro S hgrants hnow
    have hknows : (knowing n w S).Knows (w.site n).core := fun t ht => ⟨w.hasEnded t, ht, rfl⟩
    refine Op.meets_map.mpr (alone_request ⟨rfl, rfl, hnow⟩ hw.stateGate hknows hgrants rfl ?_)
    exact fun x s' hlaunched => ⟨x, rfl, hlaunched⟩
  have hsome : ∃ o, (fun (_ : Message) (_ : Outcome) => True) Call.getResources.message o :=
    ⟨.unreachable "" "", trivial⟩
  have hcan : w.CanDo (Action.poll (.submit r)).op ⟨w.site n, [], []⟩ :=
    ⟨knowing n w .boundless, _, fun _ => trivial, hw.bears (bears_boundless w 0).answers,
      hmeets .boundless (fun _ _ => trivial) trivial⟩
  obtain ⟨w', res, hdoes, -⟩ := does_ended hw.known rfl hcan
  refine ⟨w', res, hdoes, ?_⟩
  let S : Surroundings := spanning w w' (fun _ _ => True) hsome
  obtain ⟨p, forked, ⟨x, rfl, hlaunched⟩, -, hforked, hbeside⟩ :=
    hdoes.spec (S := knowing n w S) hw.known rfl hcan (fun _ hx hx' => ⟨hx, hx'⟩)
      (hw.bears fun _ => .of_forall fun _ => trivial)
      (hmeets S (fun _ _ => trivial) ⟨Int.le_refl _, hdoes.now_le hw.known rfl hcan⟩)
  have hcore : ∀ {c : Core} {q}, (knowing n w S).At c q ⟨w'.site n, p, forked⟩ → (w'.site n).core = c :=
    fun h => h.core
  have hbegins : (((w.site n).core.atDesk true).begins r).core.session.pollTask = (w.session n).pollTask :=
    Core.pollTask_begins r _
  cases hlaunched with
  | refused core hnone =>
    obtain rfl : forked = [] := hnone
    have hdesk : (w'.site n).core = (w.site n).core.atDesk (w.session n).launching := hcore core
    refine .refused (asBefore_of_core hdesk id ?_)
    exact hw.untended hforked hbeside (congrArg (fun c : Core => c.session.pollTask) (hcore core))
  | rejected core hnone =>
    obtain rfl : forked = [] := hnone
    refine .refused (asBefore_of_core (hcore core) (fun _ => rfl) ?_)
    exact hw.untended hforked hbeside (congrArg (fun c : Core => c.session.pollTask) (hcore core))
  | unsaved fails core hnone rests =>
    obtain rfl : forked = [] := hnone
    obtain ⟨⟨text, hreason, rfl⟩, hsession, hstorage⟩ :=
      Core.begins_error (c := (w.site n).core.atDesk true) rests hknown fails
    have hpollTask := (congrArg (fun c : Core => c.session.pollTask) (hcore core)).trans hbegins
    refine .unsaved hreason (halfway_of_core (hcore core) hsession ?_ (hw.untended hforked hbeside hpollTask))
    rw [Core.stored, hstorage]
    exact congrArg _ (Core.stays_begins r _).store
  | @underway state d x _ begun started core told rests =>
    obtain ⟨rfl, hsession, hstored⟩ :=
      Core.begins_ok (c := (w.site n).core.atDesk true) rests hknown begun
    have hpollTask := congrArg (fun c : Core => c.session.pollTask) (hcore core)
    have htended : Tended n w w' := hw.tended hbegins started hpollTask hforked hbeside
    have hleft := inPlace_of_core (hcore core) started hsession hstored htended
    cases x with
    | ok _ => exact .launched hleft
    | error f =>
      obtain ⟨t, ⟨hsince, hby⟩, hdated⟩ := told
      exact .untold hsince hby hdated.symm hleft

/-- A request for a run that migrates the data. -/
def dataRequest : Request where
  target := { database := .text "a" }
  mode := .dataOnly
  transfer := .bulk

/-- A session whose poll loop has ended and whose runs cannot be saved. -/
def unsaving : World where
  sessions := [{ board := { ttl := .whole 5 }, pollTask := some 0 }]
  tasks := [{ session := 0, stage := .ended (.ok .nothing), loop := some .pollLoop }]
  storage := ({} : Storage).onFaults 0 fun f => { f with saveError := some "disk full" }

/-- A launch that cannot be saved leaves a run half begun. -/
theorem launch_unsaved : ∃ w', Does 0 (Action.poll (.submit dataRequest)).op unsaving w'
    (.error (.fault (.storage "disk full"))) ∧ Halfway 0 dataRequest unsaving w' := by
  obtain ⟨w', res, hdoes, houtcome⟩ := launch_outcome (w := unsaving) (n := 0)
    ⟨by decide, rfl, fun _ ht => Option.some.inj ht ▸ Nat.zero_lt_one⟩ (by decide) dataRequest
  have hended : Does 0 (Action.poll (.submit dataRequest)).op unsaving
      (unsaving.after 0 (Action.poll (.submit dataRequest)).op) (.error (.fault (.storage "disk full"))) :=
    does_after rfl
  obtain ⟨rfl, rfl⟩ := hdoes.unique hended
  refine ⟨_, hended, ?_⟩
  cases houtcome with
  | refused left => cases left.state
  | unsaved reason left => exact left
  | untold since before reason left => exact absurd left.stored.symm (Record.encode_ne_nil _)

end World

end Cutover
