import Cutover.Proofs.World.Desk
import Cutover.Proofs.World.Launching
import Cutover.Proofs.World.Opening
import Cutover.Proofs.World.Restart

/-!
# A run that cannot be taken up

A session takes up a run bit by bit: the state, then the mode, then how data moves. What comes before
the first bit that cannot be read stays. So a record whose state cannot be read leaves the session as
it was, and one whose mode or transfer is no word of theirs leaves a state behind that nobody asked
for.

* `Record.Legible`: the mode and the transfer of a record can be read;
* `Core.restore_error`: what a run that could not be taken up leaves;
* `sending`, `World.sendings_of_meets`: **the contract of work that sends a message before it ends**;
* `Launch.sends_request`: a launch does, unless another or a run is under way;
* `World.failed_restore_whole`: **what cannot be restored leaves the session whole**.
-/

namespace Cutover

/-- The mode and the transfer of a record can be read, if it has them. -/
structure Record.Legible (r : Record) : Prop where
  mode : ∃ m, r.readMode = .ok m
  transfer : ∃ t, r.readTransfer = .ok t

/-- **What a run that could not be taken up leaves**: everything as it was, if its state cannot be read;
otherwise that state, and perhaps its mode. -/
theorem Core.restore_error {c : Core} {r : Record} {f : Fault} (h : (c.restore r).result = .error f) :
    r.toState = .error f ∧ (c.restore r).core = c ∨
      ∃ state mode, r.toState = .ok state ∧ ¬r.Legible ∧
        (c.restore r).core = c.onSession fun s => { s with state, mode } := by
  unfold restore at h ⊢
  cases hstate : r.toState with
  | error g =>
    rw [hstate] at h
    exact .inl ⟨h, rfl⟩
  | ok state =>
    simp only [hstate] at h ⊢
    cases hmode : r.readMode with
    | error g =>
      refine .inr ⟨state, c.session.mode, rfl, fun hlegible => ?_, rfl⟩
      obtain ⟨_, hm⟩ := hlegible.mode
      cases hmode.symm.trans hm
    | ok mode =>
      simp only [hmode] at h ⊢
      cases htransfer : r.readTransfer with
      | error g =>
        refine .inr ⟨state, mode, rfl, fun hlegible => ?_, rfl⟩
        obtain ⟨_, ht⟩ := hlegible.transfer
        cases htransfer.symm.trans ht
      | ok transfer =>
        -- All of it can be read, and what is read of a state is sound.
        simp only [htransfer] at h
        have hcheck : state.check = .error f := h
        rw [(RunState.sound_of_toState hstate).check_eq] at hcheck
        cases hcheck

/-! ## Work that sends a message -/

/-- **The contract of work that sends a message before it ends**: until then it only looks and changes
the site. -/
def sending (m : Message) : Contract Site where
  allows
    | _, .look => True
    | _, .change _ => True
    | _, .send m' => m' = m
    | _, _ => False
  leads
    | x, .look, r, x' => r = x ∧ x' = x
    | x, .change y, _, x' => x' = { y with now := x.now }
    | _, _, _, _ => False

section
variable {α : Type} {m : Message} {x : Site} {Q : Except Exit α → Site → Prop}

theorem sending_session {Q : Except Exit Session → Site → Prop} (h : Q (.ok x.session) x) :
    Op.session.Meets (sending m) Q x := by
  refine Op.meets_bind.mpr (Op.meets_lift.mpr ⟨trivial, ?_⟩)
  rintro _ _ ⟨rfl, rfl⟩
  exact h

theorem sending_traced {span : Span} {op : Nat → Op α}
    (h : ∀ id x (P : Except Exit α → Site → Prop), (op id).Meets (sending m) P x) :
    (Op.traced span op).Meets (sending m) Q x := by
  refine Op.meets_bind.mpr (Op.meets_lift.mpr ⟨trivial, ?_⟩)
  rintro _ _ ⟨rfl, rfl⟩
  refine ⟨trivial, ?_⟩
  rintro _ _ rfl
  exact Op.meets_ensure.mpr (h _ _ _)

theorem Call.sending_send {c : Call} {Q : Except Exit Answer → Site → Prop}
    (h : c.message.isSendable = true) : c.send.Meets (sending c.message) Q x := by
  refine sending_traced fun id y P => ?_
  rw [h]
  exact Op.meets_bind.mpr (Op.meets_perform.mpr ⟨rfl, fun _ _ hlead => False.elim hlead⟩)

/-- **A launch sends its request**, unless another or a run is under way. -/
theorem Launch.sends_request {r : Request} {Q : Except Exit RunState → Site → Prop}
    (h : (Call.submit r).message.isSendable = true) (hdesk : x.session.launching = false)
    (hrests : x.session.state.isRunning = false) :
    (request r).Meets (sending (Call.submit r).message) Q x := by
  refine Op.meets_bind.mpr (Op.meets_bind.mpr (sending_session ?_))
  show Op.Meets _ _ (if x.session.launching || x.session.state.isRunning then _ else _) _
  rw [hdesk, hrests]
  refine Op.meets_bind.mpr (Op.meets_lift.mpr ⟨trivial, ?_⟩)
  rintro _ _ ⟨rfl, rfl⟩
  refine ⟨trivial, ?_⟩
  rintro _ _ rfl
  refine Op.meets_bind.mpr (Op.meets_ensure.mpr (sending_traced fun id y P => ?_))
  exact Op.meets_bind.mpr (Op.meets_rescue.mpr (Op.meets_bind.mpr (Call.sending_send h)))

end

namespace World

variable {n t : Nat} {w w' : World} {e : Exit} {r : Record}

/-- **What is bound to be sent is sent** as soon as its task goes on. -/
theorem sendings_of_meets {m : Message} {job : Job} {x : Site}
    (h : job.Meets (Cutover.sending m) (fun _ _ => False) x) (hw : w.sessionOf t < w.sessions.length)
    (hsite : w.site (w.sessionOf t) = x) : ∃ v rest, sendings t job w = (v, m) :: rest := by
  induction job generalizing w x with
  | done r => exact absurd h id
  | ask e next ih =>
    obtain ⟨hallows, hleads⟩ := h
    cases e with
    | look =>
      exact ih _ (hleads _ x ⟨hsite, rfl⟩) hw hsite
    | change y =>
      have hset : (w.setSite (w.sessionOf t) y).site (w.sessionOf t) = { y with now := x.now } := by
        rw [site_setSite hw, ← hsite]
        rfl
      have hcount : (w.setSite (w.sessionOf t) y).sessions.length = w.sessions.length := by simp [setSite]
      exact ih () (w := w.setSite (w.sessionOf t) y) (hleads () _ rfl) (hcount ▸ hw) hset
    | send m' =>
      obtain rfl : m' = m := hallows
      rw [sendings]
      exact ⟨w, _, List.singleton_append⟩
    | _ => exact absurd hallows id

/-- A request that is submitted is sent as soon as its task goes on. -/
def SendsAtOnce (n : Nat) (request : Request) (w : World) : Prop :=
  ∃ v rest, (w.spawn n (.ofOp (Action.poll (.submit request)).op)).2.sendingsOf w.tasks.length
    = (v, (Call.submit request).message) :: rest

theorem sendsAtOnce {request : Request} (hn : n < w.sessions.length)
    (h : (Call.submit request).message.isSendable = true) (hdesk : (w.session n).launching = false)
    (hrests : (w.session n).state.isRunning = false) : SendsAtOnce n request w := by
  have hfresh : (w.spawn n (.ofOp (Action.poll (.submit request)).op)).2.tasks[w.tasks.length]?
      = some { session := n, stage := .fresh (.ofOp (Action.poll (.submit request)).op) } := by
    simp [spawn, enqueue]
  have hsession : (w.spawn n (.ofOp (Action.poll (.submit request)).op)).2.sessionOf w.tasks.length
      = n := by
    rw [sessionOf, hfresh]
  have hmeets := Launch.sends_request (x := w.site n) (Q := fun _ _ => False) h hdesk hrests
  rw [SendsAtOnce, sendingsOf, hfresh]
  refine sendings_of_meets (Op.meets_map.mpr (Op.meets_map.mpr hmeets)) ?_ ?_
  · rw [hsession]
    exact hn
  · rw [hsession]
    rfl

/-! ## What is left -/

/-- **The run of a session is as it was.** -/
structure RunKept (n : Nat) (w w' : World) : Prop where
  state : (w'.session n).state = (w.session n).state
  context : (w'.session n).context = (w.session n).context

/-- A session that was just opened. -/
structure Newborn (n : Nat) (w : World) : Prop extends Unopened n w where
  state : (w.session n).state = {}
  launching : (w.session n).launching = false

/-- **What a restore that ends early leaves**: nothing of it is published or stored, and the transfer and
the counts are as they were. The state and the mode are as well if mode and transfer of the record can
be read, or its state cannot. -/
structure Unrestored (n : Nat) (r : Record) (w w' : World) : Prop where
  untouched : Untouched n w.tasks.length w w'
  storage : w'.storage = w.storage
  transfer : (w'.session n).transfer = (w.session n).transfer
  shardCount : (w'.session n).shardCount = (w.session n).shardCount
  instanceCount : (w'.session n).instanceCount = (w.session n).instanceCount
  kept : r.Legible ∨ (∃ f, r.toState = .error f) → RunKept n w w'

theorem guards_restoring (S : Surroundings) (r : Record) :
    S.Guards (Control.restore r) (fun _ => True ∧ ∀ d e, S.grants d e) (fun _ c => c.restore r)
      fun t => [some t] := by
  obtain ⟨op, hop, hdoes⟩ := S.guards_restore r
  exact ⟨op, hop, fun c s _ => hdoes c s trivial⟩

theorem Does.unrestored (h : Does n (RunAction.restore r).op w w' (.error e))
    (hn : n < w.sessions.length) (hfree : (w.session n).stateGate = {}) : Unrestored n r w w' := by
  obtain ⟨-, -, hcame⟩ := h.guarded (f := .state) (P := fun _ => True) hn hfree
    (fun S => guards_restoring S r) trivial (A := fun _ _ => True) ⟨.unreachable "" "", trivial⟩
    fun _ => .of_forall fun _ => trivial
  have hresult := hcame.result
  have hcore := hcame.core
  have hserved := hcame.served
  cases hr : ((w.site n).core.restore r).result with
  | ok t =>
    rw [hr] at hresult
    cases hresult
  | error f =>
    rw [hr] at hserved
    have huntouched := hserved.untouched rfl
    obtain ⟨-, hsame⟩ | ⟨state, mode, hstate, hillegible, hleft⟩ := Core.restore_error hr
    · rw [hsame] at hcore
      exact ⟨huntouched, congrArg Core.storage hcore,
        congrArg (fun c : Core => c.session.transfer) hcore,
        congrArg (fun c : Core => c.session.shardCount) hcore,
        congrArg (fun c : Core => c.session.instanceCount) hcore,
        fun _ => ⟨congrArg (fun c : Core => c.session.state) hcore,
          congrArg (fun c : Core => c.session.context) hcore⟩⟩
    · rw [hleft] at hcore
      refine ⟨huntouched, congrArg Core.storage hcore,
        congrArg (fun c : Core => c.session.transfer) hcore,
        congrArg (fun c : Core => c.session.shardCount) hcore,
        congrArg (fun c : Core => c.session.instanceCount) hcore, fun hwhole => ?_⟩
      obtain hlegible | ⟨f', hunreadable⟩ := hwhole
      · exact absurd hlegible hillegible
      · cases hunreadable.symm.trans hstate

/-- **A session that fails to begin has no run**, if mode and transfer of the stored record can be read,
or its state cannot. -/
theorem Does.idleStill (h : Does n WholeAction.begin.op w w' (.error e)) (hw : w.Newborn n)
    (hstored : ∀ r, Storage.recordOf (w.storage.table (w.session n).store) = .ok (some r) →
      r.Legible ∨ ∃ f, r.toState = .error f) :
    (w'.session n).state = {} ∧ (w'.session n).launching = false ∧ n < w'.sessions.length := by
  obtain ⟨x, p, f, hx, hbegan, -, -, hbeside⟩ := h.began hw.toUnopened
  have hknown : n < w'.sessions.length := hbeside.length ▸ hw.known
  have hload : (w.storage.load (w.session n).store).1 = _ := (Storage.load_eq ..).1
  rw [← hload] at hstored
  have hidle : ∀ {d : Core} {summary wizard}, (w'.site n).core = d →
      d.session = ((w.site n).core.summarized summary wizard).session →
      (w'.session n).state = {} ∧ (w'.session n).launching = false ∧ n < w'.sessions.length := by
    intro d summary wizard hcore hsession
    have hstate : d.session.state = (w.session n).state := by
      rw [hsession]
      rfl
    have hdesk : d.session.launching = (w.session n).launching := by
      rw [hsession]
      rfl
    rw [← hcore] at hstate hdesk
    exact ⟨hstate.trans hw.state, hdesk.trans hw.launching, hknown⟩
  cases hbegan with
  | early core session => exact hidle core.core session
  | refused load restores core =>
    obtain ⟨-, hsame⟩ | ⟨state, mode, hstate, hillegible, -⟩ := Core.restore_error restores
    · rw [hsame] at core
      exact hidle core.core rfl
    · obtain hlegible | ⟨f', hunreadable⟩ := hstored _ load
      · exact absurd hlegible hillegible
      · cases hunreadable.symm.trans hstate
  | idle none core => exact hidle core.core rfl
  | resumes => cases hx

/-- **What cannot be restored leaves the session whole**, but for a record whose state can be read and
whose mode or transfer cannot.

* A restore that ends early leaves the run as it was, and nothing of it is published.
* A session that was just opened and fails to begin is idle still, and a launch that is called for then
  is not refused: its request is sent at once. -/
theorem failed_restore_whole (n : Nat) (w w' : World) (e : Exit) :
    (∀ r : Record, n < w.sessions.length → (w.session n).stateGate = {} →
      Does n (RunAction.restore r).op w w' (.error e) → Unrestored n r w w') ∧
    (w.Newborn n → Does n WholeAction.begin.op w w' (.error e) →
      (∀ r, Storage.recordOf (w.storage.table (w.session n).store) = .ok (some r) →
        r.Legible ∨ ∃ f, r.toState = .error f) →
        (w'.session n).state = {} ∧ ∀ request : Request,
          (Call.submit request).message.isSendable = true → SendsAtOnce n request w') := by
  refine ⟨fun r hn hfree h => h.unrestored hn hfree, fun hw h hstored => ?_⟩
  obtain ⟨hstate, hdesk, hknown⟩ := h.idleStill hw hstored
  refine ⟨hstate, fun request hsendable => sendsAtOnce hknown hsendable hdesk ?_⟩
  rw [hstate]
  rfl

/-- A record of a run in progress whose phase is no word of theirs. -/
def unreadable : Record where
  phase := .text "nonsense"
  inProgress := .bool true

/-- Two sessions whose store holds that record. -/
def spoiled : World := twins.after 0 (Action.store (.save unreadable)).op

/-- The first of them has failed to begin. -/
def spoiledBegun : World := spoiled.after 0 WholeAction.begin.op

/-- A run in progress stays as it is when that record is restored, and a session that finds it in the
store is idle still and sends a request that is submitted then. -/
theorem unreadable_restore_whole :
    RunKept 0 twinsBegun (twinsBegun.after 0 (RunAction.restore unreadable).op) ∧
      (spoiledBegun.session 0).state = {} ∧ SendsAtOnce 0 dataRequest spoiledBegun := by
  have hstate : ∃ f, unreadable.toState = .error f := ⟨_, rfl⟩
  have hbegun : 0 < twinsBegun.sessions.length := Nat.lt_of_lt_of_eq (by decide : 0 < 2) rfl
  have hrestored : Does 0 (RunAction.restore unreadable).op twinsBegun
      (twinsBegun.after 0 (RunAction.restore unreadable).op) (.error (.fault _)) := does_after rfl
  have hfresh : spoiled.Newborn 0 :=
    ⟨⟨Nat.lt_of_lt_of_eq (by decide : 0 < 2) rfl, rfl, rfl⟩, rfl, rfl⟩
  have hfailed : Does 0 WholeAction.begin.op spoiled spoiledBegun (.error (.fault _)) :=
    does_after rfl
  have hstored : Storage.recordOf (spoiled.storage.table (spoiled.session 0).store)
      = .ok (some unreadable) := rfl
  obtain ⟨hstill, hsends⟩ := (failed_restore_whole 0 spoiled spoiledBegun _).2 hfresh hfailed fun r hr => by
    cases hstored.symm.trans hr
    exact .inr hstate
  exact ⟨((failed_restore_whole 0 twinsBegun _ _).1 unreadable hbegun rfl hrestored).kept (.inr hstate),
    hstill, hsends dataRequest (by decide)⟩

end World

end Cutover
