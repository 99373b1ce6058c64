import Cutover.Proofs.Control.Repeating
import Cutover.Proofs.RunState.Order
import Cutover.Proofs.World.AtOnce
import Cutover.Proofs.World.Opening
import Cutover.Proofs.World.Retry

/-!
# The course of a run

A run begins, reports are applied to it, and fresh sessions take it up from the store. Where it stands is
where the reports take it, one after the other, from where it was launched, whether the hooks, the resources, the store
and the notices did what they were asked or not.

* `Core.state_after`: **the state after a report that was applied**;
* `World.Begun`: a session has just begun a run;
* `World.Onward`: what a run goes through, with the reports that are applied to it;
* `World.Underway`: **where a run stands after these reports**;
* `World.Onward.underway`: a run stands there all along.
-/

namespace Cutover

/-! ## Where a report takes a run -/

namespace Core

variable {c : Core} {k : Conditions} {report : Status}

/-- **A report takes the state of a run where it should**, however that ends; the resources may have been
marked as well. -/
theorem state_after (h : c.session.state.Sound) : ∃ v, (c.apply k report).core.session.state
    = (c.session.state.after c.session.mode c.session.transfer report).marked v := by
  refine apply_cases (P := fun u => ∃ v, u.core.session.state
    = (c.session.state.after c.session.mode c.session.transfer report).marked v) h ?_ ?_ ?_ ?_ ?_
  · intro hidle
    rw [RunState.after_idle hidle]
    exact ⟨c.session.state.reconciled, rfl⟩
  · intro hactive hfailure
    rw [RunState.after_failure hactive hfailure]
    refine ⟨c.session.state.reconciled, ?_⟩
    exact core_andThen (P := fun d => d.session.state = _) (state_failRun ..) fun _ _ => by
      rw [core_concluded, state_failRun]
      rfl
  · intro hactive hfailure f hf
    have hstays : c.session.state.after c.session.mode c.session.transfer report
        = c.session.state := by
      rw [RunState.after, if_pos hactive, if_neg (by rw [hfailure]; exact Bool.false_ne_true)]
      unfold course at hf
      rw [hf]
    rw [hstays]
    exact ⟨c.session.state.reconciled, rfl⟩
  · intro hactive hfailure a ha hsame
    rw [RunState.after_ok hactive hfailure ha, RunState.Advance.settled, hsame, if_neg]
    · exact ⟨c.session.state.reconciled, rfl⟩
    · intro hcomplete
      rw [hcomplete] at hactive
      cases hactive
  · intro hactive hfailure a ha _
    obtain ⟨v, -, hstate⟩ := state_moved (k := k) hactive ha
    rw [RunState.after_ok hactive hfailure ha]
    exact ⟨v, hstate⟩

/-- **A run that began normally** is the run that was launched, and memory and store agree on it. -/
theorem launched_of_begin {mode : Mode} {transfer : Transfer} {shards instances : Value} {s : RunState}
    (hknown : c.session.store < c.storage.stores.length)
    (hok : (c.begin mode transfer shards instances).result = .ok s) :
    (c.begin mode transfer shards instances).core.session
        = (c.launched mode transfer shards instances).session ∧
      (c.begin mode transfer shards instances).core.Agrees := by
  unfold begin at hok ⊢
  split at hok
  · cases hok
  next hrests =>
    rw [if_neg hrests]
    generalize hd : c.launched mode transfer shards instances = d at hok ⊢
    have hknown' : d.session.store < d.storage.stores.length := hd ▸ hknown
    have hrunning : d.session.state.isRunning = true := hd ▸ isRunning_launched mode
    obtain ⟨_, hsaved, hrest⟩ := of_andThen_ok hok
    have hcore : (d.persist.andThen fun _ e => e.snapshot).core = d.persist.core := by
      rw [hrest]
      rfl
    rw [hcore]
    refine ⟨session_persist d, ?_⟩
    rw [Agrees, stored_persist hknown' hsaved, record, record, session_persist, if_pos hrunning]

end Core

/-! ## What a run goes through -/

namespace World

variable {n m k : Nat} {w w' u u' v : World} {mode : Mode} {transfer : Transfer} {report : Status}
variable {log more : List Status} {r : Except Exit Result} {calm : Bool}

/-- **A session has just begun a run**, whatever it did before. -/
inductive Begun (mode : Mode) (transfer : Transfer) (n : Nat) : World → Prop
  | intro {w w' : World} {shards instances : Value} {x : Result} (rests : w.Rests n)
    (store : (w.session n).store < w.storage.stores.length) (shardCount : shards.IsWhole)
    (instanceCount : instances.IsWhole)
    (does : Does n (RunAction.begin mode transfer shards instances).op w w' (.ok x)) :
    Begun mode transfer n w'

/-- **A fresh session that succeeds another**: it does not poll, and its store holds what is stored of the
run of the other. -/
structure Succeeds (k m : Nat) (w w' : World) : Prop where
  rests : w'.Rests k
  pollTask : (w'.session k).pollTask = none
  store : (w'.session k).store < w'.storage.stores.length
  stored : w'.storage.table (w'.session k).store = w.storage.table (w.session m).store

/-- **What a run goes through** from one session to another, with the reports that are applied to it. In
a calm run every report comes out normally. In any other a session is succeeded only where memory and
store agree. -/
inductive Onward (calm : Bool) : Nat → World → List Status → Nat → World → Prop
  | here (n : Nat) (w : World) : Onward calm n w [] n w
  | applies {n m : Nat} {w u u' : World} {log : List Status} {report : Status}
    {r : Except Exit Result} (onward : Onward calm n w log m u) (plain : report.Plain)
    (does : Does m (RunAction.apply report).op u u' r)
    (normal : calm = true → ∃ x, r = .ok x) : Onward calm n w (log ++ [report]) m u'
  | passes {n m : Nat} {w u u' : World} {log : List Status} (onward : Onward calm n w log m u)
    (undisturbed : Undisturbed m u u') : Onward calm n w log m u'
  | restarts {n m k : Nat} {w u v v' : World} {log : List Status} {x : Result}
    (onward : Onward calm n w log m u) (running : (u.session m).state.isRunning = true)
    (succeeds : Succeeds k m u v) (does : Does k WholeAction.begin.op v v' (.ok x))
    (agrees : calm = false → (u.site m).core.Agrees) : Onward calm n w log k v'

theorem Onward.plain (h : Onward calm n w log m u) : ∀ report ∈ log, report.Plain := by
  induction h with
  | here => exact fun _ hnone => absurd hnone List.not_mem_nil
  | applies _ plain _ _ ih =>
    intro report hreport
    rcases List.mem_append.mp hreport with hreport | hreport
    · exact ih report hreport
    · rw [List.mem_singleton.mp hreport]
      exact plain
  | passes _ _ ih => exact ih
  | restarts _ _ _ _ _ ih => exact ih

/-! ## Where a run stands -/

/-- **Where a run stands after some reports**: where they take it, one after the other, from where it
was launched. -/
structure Underway (calm : Bool) (mode : Mode) (transfer : Transfer) (log : List Status) (n : Nat)
    (w : World) : Prop where
  rests : w.Rests n
  live : (w.site n).core.Live
  ofMode : (w.session n).mode = some mode
  ofTransfer : (w.session n).transfer = some transfer
  state : ∃ v, (w.session n).state
    = ((RunState.launched mode).afterAll (some mode) (some transfer) log).marked v
  agrees : calm = true → (w.site n).core.Agrees

theorem Begun.underway (h : Begun mode transfer n w) : Underway calm mode transfer [] n w := by
  cases h with
  | @intro w₀ _ shards instances x rests store shardCount instanceCount does =>
    have hcame := does.beginRun rests
    have hstays := Core.stays_begin mode transfer shards instances (w₀.site n).core
    cases hr : ((w₀.site n).core.begin mode transfer shards instances).result with
    | error f =>
      have hresult := hcame.result
      rw [hr] at hresult
      cases hresult
    | ok s =>
      obtain ⟨hsession, hagrees⟩ := Core.launched_of_begin store hr
      rw [← hcame.core] at hsession hagrees hstays
      have hstate : (w.session n).state = .launched mode := congrArg Session.state hsession
      have hplain := Core.plain_launched (w₀.site n).core mode transfer shardCount instanceCount
      refine ⟨hcame.rests rests (Core.stays_begin ..), ⟨?_, ?_, fun _ => ?_⟩, congrArg Session.mode hsession,
        congrArg Session.transfer hsession, ⟨(w.session n).state.reconciled, ?_⟩, fun _ => hagrees⟩
      · exact ⟨hsession ▸ hplain.state, hsession ▸ hplain.shardCount, hsession ▸ hplain.instanceCount⟩
      · rw [hstays.store, hstays.storage.count]
        exact store
      · exact (congrArg RunState.isRunning hstate).trans (Core.isRunning_launched mode)
      · rw [hstate]
        rfl

namespace Underway

theorem inAgreement (h : Underway calm mode transfer log n w)
    (hagrees : calm = false → (w.site n).core.Agrees) : (w.site n).core.Agrees := by
  cases calm with
  | true => exact h.agrees rfl
  | false => exact hagrees rfl

theorem applies (h : Underway calm mode transfer log n w) (hreport : report.Plain)
    (hdoes : Does n (RunAction.apply report).op w w' r) (hnormal : calm = true → ∃ x, r = .ok x) :
    Underway calm mode transfer (log ++ [report]) n w' := by
  obtain ⟨k, hcame⟩ := hdoes.applied h.rests
  have hkept := Core.kept_apply k report (w.site n).core
  have hcontext : (w'.session n).context = (w.session n).context :=
    (congrArg (fun c : Core => c.session.context) hcame.core).trans hkept.context
  refine ⟨hcame.rests h.rests hkept.toStays, hcame.core ▸ h.live.apply hreport,
    (congrArg Record.Context.mode hcontext).trans h.ofMode,
    (congrArg Record.Context.transfer hcontext).trans h.ofTransfer, ?_, fun hcalm => ?_⟩
  · obtain ⟨v, hv⟩ := h.state
    obtain ⟨v', hv'⟩ := Core.state_after h.live.plain.state.sound
    have hstate : (w'.session n).state = _ :=
      (congrArg (fun c : Core => c.session.state) hcame.core).trans hv'
    refine ⟨v', hstate.trans ?_⟩
    show ((w.session n).state.after (w.session n).mode (w.session n).transfer report).marked v' = _
    rw [h.ofMode, h.ofTransfer, hv, RunState.after_marked, RunState.afterAll_concat]
    rfl
  · obtain ⟨x, rfl⟩ := hnormal hcalm
    cases hr : ((w.site n).core.apply k report).result with
    | error f =>
      have hresult := hcame.result
      rw [hr] at hresult
      cases hresult
    | ok t =>
      obtain ⟨-, hsame, hchanged⟩ := h.live.apply_ok hreport hr
      rw [← hcame.core] at hsame hchanged
      cases ht : t.changed with
      | true => exact hchanged ht
      | false =>
        rw [hsame ht]
        exact h.agrees hcalm

theorem passes (h : Underway calm mode transfer log n w) (hu : Undisturbed n w w') :
    Underway calm mode transfer log n w' := by
  have hstate : (w'.site n).core.session.state = (w.site n).core.session.state := hu.state
  have hcontext : (w'.site n).core.session.context = (w.site n).core.session.context := hu.context
  have hstored : (w'.site n).core.stored = (w.site n).core.stored := by
    show w'.storage.table (w'.session n).store = w.storage.table (w.session n).store
    rw [hu.store, hu.stored]
  have hrecord : (w'.site n).core.record = (w.site n).core.record := by
    rw [Core.record, Session.record, hstate, hcontext, Core.record, Session.record]
  have hknown : (w'.site n).core.session.store < (w'.site n).core.storage.stores.length := by
    show (w'.session n).store < w'.storage.stores.length
    rw [hu.store, hu.count]
    exact h.live.known
  refine ⟨hu.rests, h.live.ofRun hstate hcontext hknown, (congrArg Record.Context.mode hu.context).trans h.ofMode,
    (congrArg Record.Context.transfer hu.context).trans h.ofTransfer, hu.state ▸ h.state, fun hcalm => ?_⟩
  rw [Core.Agrees, hstored, hstate, hrecord]
  exact h.agrees hcalm

theorem restarts {x : Result} (h : Underway calm mode transfer log n w)
    (hrunning : (w.session n).state.isRunning = true) (hagrees : (w.site n).core.Agrees)
    (hsucceeds : Succeeds k n w u) (hdoes : Does k WholeAction.begin.op u u' (.ok x)) :
    Underway calm mode transfer log k u' ∧ (u'.session k).state = (w.session n).state := by
  have hrests := hsucceeds.rests
  have hstored : u.storage.table (u.session k).store = (w.site n).core.record.encode := by
    rw [hsucceeds.stored]
    exact hagrees.trans (if_pos hrunning)
  obtain ⟨-, hfree, hlength, summary, wizard, task, hcore⟩ :=
    hdoes.takesUp ⟨hrests.known, hrests.stateGate, hsucceeds.pollTask⟩ h.live.plain hrunning hstored
  have hstate : (u'.session k).state = (w.session n).state :=
    congrArg (fun c : Core => c.session.state) hcore
  have hcontext : (u'.session k).context = (w.session n).context :=
    congrArg (fun c : Core => c.session.context) hcore
  refine ⟨⟨⟨?_, hfree, ?_⟩, h.live.ofRun hstate hcontext ?_, ?_, ?_, ?_, fun _ => ?_⟩, hstate⟩
  · rw [hlength]
    exact hrests.known
  · exact (congrArg (fun c : Core => c.session.fetchGate) hcore).trans hrests.fetchGate
  · rw [hcore]
    exact hsucceeds.store
  · exact (congrArg Record.Context.mode hcontext).trans h.ofMode
  · exact (congrArg Record.Context.transfer hcontext).trans h.ofTransfer
  · exact hstate.symm ▸ h.state
  · have hrunning' : (u'.site k).core.session.state.isRunning = true := hstate.symm ▸ hrunning
    rw [Core.Agrees, if_pos hrunning', hcore]
    exact hstored

end Underway

/-- **A run stands all along where the reports take it.** -/
theorem Onward.underway (h : Onward calm n w more m u) (hw : Underway calm mode transfer log n w) :
    Underway calm mode transfer (log ++ more) m u := by
  induction h with
  | here =>
    rw [List.append_nil]
    exact hw
  | applies _ plain does normal ih =>
    rw [← List.append_assoc]
    exact (ih hw).applies plain does normal
  | passes _ undisturbed ih => exact (ih hw).passes undisturbed
  | restarts _ running succeeds does agrees ih =>
    exact ((ih hw).restarts running ((ih hw).inAgreement agrees) succeeds does).1

theorem Begun.underway_of_onward (hbegun : Begun mode transfer n w) (h : Onward calm n w log m u) :
    Underway calm mode transfer log m u :=
  (h.underway hbegun.underway :)

end World

end Cutover
