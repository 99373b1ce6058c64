import Cutover.Proofs.World.Diary
import Cutover.Proofs.World.Enduring

/-!
# Runs end in order

Whoever reports what ends a run, and whatever else is called meanwhile, the run ends in order and all of a piece. The
loop that polled such a report ends with its round.

* `Surroundings.alone_rest_ends`: a poll that ends the run tells the loop to end;
* `World.Lap.ends_loop`: **a loop whose poll ends the run ends**;
* `World.torn_down_in_order`: **a run ends in order, and its loop with it**.
-/

namespace Cutover

/-! ## The loop that polled the report -/

namespace Surroundings

variable {S : Surroundings} {c d d₀ : Core} {p : Phase} {q : List (Option RunState)} {s : Scene} {report : Status}

/-- What a poll finds that ends the run: nobody at the gates, hooks that do not fail, that of the loop among them,
and a state that the report ends. -/
structure MayHalt (c : Core) (report : Status) (p : Phase) (d₀ : Core) : Prop where
  fetchGate : c.session.fetchGate = {}
  sound : c.session.state.Sound
  polling : .polling ∈ c.session.hooks
  hooks : ∀ hook ∈ c.session.hooks, hook.fails = false
  ends : c.Ends report p d₀

theorem MayHalt.latch (h : MayHalt c report p d₀) (k : Conditions) :
    (c.polled.pollApply k report).core.session.latch.raised = true := by
  have hends : ∃ d, (c.polled.marking true).Ends report p d := by
    cases h.ends with
    | fails active failure => exact ⟨_, .fails active failure⟩
    | completes active failure course phase => exact ⟨_, .completes active failure course phase⟩
  obtain ⟨d, hends⟩ := hends
  exact hends.latch h.sound h.polling h.hooks

variable (hmay : MayHalt c report p d₀) (hgrants : ∀ d e, S.grants d e)
  (hstatus : ∀ o, S.answers Call.getStatus.message o → o.status = .ok report)
include hmay hgrants hstatus

theorem alone_once_ends (hfree : s.site.session.stateGate = {}) (h : S.At c [] s) :
    Poll.once.Meets S.alone (fun _ s' => ∃ d q, S.At d q s' ∧ d.session.latch.raised = true) s := by
  refine Op.meets_bind.mpr (alone_modify h rfl rfl rfl fun s₁ h₁ hsteady₁ => ?_)
  refine Op.meets_bind.mpr (alone_session (alone_traced (c := c.polled) h₁ fun id s₂ h₂ hsteady₂ => ?_))
  have hfree₂ : s₂.site.session.stateGate = {} := hsteady₂.1.trans (hsteady₁.1.trans hfree)
  refine Op.meets_bind.mpr (alone_of_behind (meets_read h₂
    (Q := fun r s' => S.At c.polled [] s' ∧ r = .ok (some report)) ?read ?missed ?other) ?rest)
  case read =>
    intro o report' s' ho hs h'
    cases (hstatus o ho).symm.trans hs
    exact ⟨h', rfl⟩
  case missed => exact fun o f s' ho hs _ => by cases (hstatus o ho).symm.trans hs
  case other => exact fun o f d g s' ho hs _ _ _ => by cases (hstatus o ho).symm.trans hs
  case rest =>
    rintro r s₃ ⟨h₃, rfl⟩ hsteady₃
    refine alone_applyMarked h₃ (hsteady₃.1.trans hfree₂) hmay.fetchGate hgrants fun k q s₄ _ h₄ _ => ?_
    exact ⟨_, q, h₄, fun s₅ h₅ _ => ⟨_, q, h₅, hmay.latch k⟩⟩

theorem alone_onceOrReport_ends (hfree : s.site.session.stateGate = {}) (h : S.At c [] s) :
    Poll.onceOrReport.Meets S.alone (fun _ s' => s'.site.session.latch.raised = true) s := by
  have hraised : ∀ {d q s'}, S.At d q s' → d.session.latch.raised = true → s'.site.session.latch.raised = true :=
    fun h' hd => (h'.read (fun t => t.latch.raised) fun _ => rfl).trans hd
  refine Op.meets_tryCatch.mpr ((alone_once_ends hmay hgrants hstatus hfree h).mono ?_)
  rintro ((f | _) | _) s' ⟨d, q, h', hd⟩
  · refine alone_of_behind (P := fun _ s₁ => S.At d.missed q s₁) ?_ fun _ s₁ h₁ _ => hraised h₁ hd
    exact Op.meets_bind.mpr (meets_modify h' rfl rfl rfl fun s₁ h₁ => meets_announce h₁ fun x s₂ _ h₂ => h₂)
  · exact hraised h' hd
  · exact hraised h' hd

/-- **A poll that ends the run tells the loop to end**, whether notices can be raised or not. -/
theorem alone_rest_ends (hrunning : c.session.state.isRunning = true) (hlatch : c.session.latch.raised = false)
    (hfree : s.site.session.stateGate = {}) (h : S.At c [] s) :
    (Poll.rest (.back false)).Meets S.alone (fun _ s' => s'.site.session.latch.raised = true) s := by
  refine Op.meets_bind.mpr (Op.meets_unwrap_back.mpr (Op.meets_bind.mpr (alone_session ?_)))
  have hraised : s.site.session.latch.raised = false :=
    (h.read (fun t => t.latch.raised) fun _ => rfl).trans hlatch
  show Op.Meets _ _ (if (s.site.session.latch.raised || !s.site.session.state.isRunning) = true then _ else _) _
  rw [hraised, h.state, hrunning]
  refine Op.meets_bind.mpr ((alone_onceOrReport_ends hmay hgrants hstatus hfree h).mono ?_)
  rintro (e | _) s' hs'
  · exact hs'
  · exact hs'

end Surroundings

namespace World

variable {n t : Nat} {u v : World} {due : Option Int} {status resources : ScriptLine} {report : Status} {p : Phase}
variable {d₀ : Core}

/-- **A loop whose poll ends the run ends**, and polls no more. -/
theorem Lap.ends_loop (h : Lap t status resources u v) (hu : u.AtPause n t) (hrests : u.Rests n)
    (hrunning : (u.session n).state.isRunning = true) (hmay : Surroundings.MayHalt (u.site n).core report p d₀)
    (hstatus : status.outcome.status = .ok report) : ∃ r, v.stage? t = some (.ended r) := by
  obtain ⟨due, hawaits⟩ := h.awaits hu
  obtain ⟨x, y, r, v', hlap, hsite, -, -, hbeside, hran, hpaused⟩ := lap_runs hawaits hrests status resources
  obtain rfl := hlap.unique h
  -- The service gives only the one status.
  obtain ⟨S, hS⟩ : ∃ S, S = spanning x y (fun m o => m = Call.getStatus.message → o = status.outcome)
      ⟨status.outcome, fun _ => rfl⟩ := ⟨_, rfl⟩
  have hcore : (x.site n).core = (u.site n).core := by
    rw [hsite]
    rfl
  have hfree : (x.site n).session.stateGate = {} := by
    rw [hsite]
    exact hrests.stateGate
  have hrest : (Poll.rest (.back false)).Meets S.alone (fun _ s => s.site.session.latch.raised = true)
      ⟨x.site n, [], []⟩ := by
    rw [hS]
    refine Surroundings.alone_rest_ends hmay (fun _ _ => trivial) (fun o ho => ?_) hrunning hawaits.unraised hfree
      ⟨hcore, rfl, Int.le_refl _, hran.beside.now⟩
    rw [ho rfl]
    exact hstatus
  have hanswers : x.Answers S := by
    rw [hS]
    exact fun m => hbeside.replies m _ ((replies_replying u status resources m).mono fun _ hl => hl.1)
  obtain ⟨_, _, hraised, -⟩ := hran.meets S ⟨x.site n, [], []⟩ (fun _ s => s.site.session.latch.raised = true)
    (fun _ _ => True) (fun z hz hz' => by rw [hS]; exact ⟨hz, hz'⟩) (hanswers.bears fun i b hb => by rw [hS] at hb; exact hb) rfl (meets_ofRound hrest)
    Surroundings.meets_sole_true
  exact ⟨_, hpaused.ended fun _ => hraised⟩

/-! ## In order -/

/-- **A run ends in order, and its loop with it.**

* What a report does behind the gate that ends the run, whether a call applies it or a poll, goes in this order: the
  state moves on and no run is in progress any more; the stop hooks are called, once each and in order; the resources of
  a complete run are fetched unless they were; then the record is removed, then the notice is raised, and at last the
  readers are given the last state.
* Whatever else is called meanwhile, what a call that applies a report writes down is of one piece. If the report ends the
  run, the record of that run is stored when it begins, and it does all of that.
* A loop whose poll ends the run ends with that round, and asks for no status again. -/
theorem torn_down_in_order (n t : Nat) (report : Status) :
    (∀ (S : Surroundings) (c d₀ : Core) (p : Phase) (x : Scene × List Sign), S.Shows c [] x → S.MayEnd c →
      c.Ends report p d₀ → (Control.applyBehind report).Meets S.journal (fun r x' => ∃ d g, S.Shows d g x' ∧
        r = .ok ⟨c.session.state.phase, d.session.state, true⟩ ∧ Surroundings.TornDown c report d g) x) ∧
    (∀ (w₀ w : World) (calls : Calls) (log : Log) (r : Except Exit Result), w₀.Starts n → Diary n w₀ calls log w →
      (t, .apply report) ∈ calls → w.stage? t = some (.ended r) →
        ∃ c g d, Piece t log (.entered c :: g ++ [.left d]) ∧ ∀ p d₀, c.Ends report p d₀ →
          c.stored = c.record.encode ∧ r = .ok (.transition ⟨c.session.state.phase, d.session.state, true⟩) ∧
            Surroundings.TornDown c report d g) ∧
    ∀ (u v : World) (status resources : ScriptLine) (p : Phase) (d₀ : Core), Lap t status resources u v →
      u.AtPause n t → u.Rests n → (u.session n).state.isRunning = true →
        Surroundings.MayHalt (u.site n).core report p d₀ → status.outcome.status = .ok report →
          ∃ r, v.stage? t = some (.ended r) := by
  refine ⟨fun S c d₀ p x hshows hmay hends => Surroundings.journal_apply hshows hmay hends,
    fun w₀ w calls log r hstart hdiary ha hended => ?_, fun u v status resources p d₀ hlap hu hrests hrunning hmay hstatus =>
      hlap.ends_loop hu hrests hrunning hmay hstatus⟩
  obtain ⟨_, hpiece, c, g, d, rfl, hends⟩ := hdiary.noted hstart ha hended
  exact ⟨c, g, d, hpiece, hends⟩

/-- A single session with a stop hook of its own. -/
def listening : World where
  sessions := [{ board := { ttl := .whole 5 }, hooks := [.polling, .user 0 "told" false] }]

/-- A run is begun in it. -/
def listeningBegun : World :=
  (listening.spawn 0 (.ofOp (RunAction.begin .dataOnly .bulk (.whole 2) (.whole 3)).op)).2.resume 0

/-- The service reports an error. -/
def gone : Status where
  signal := .quiet
  progress := .whole 0
  errorText := .text "gone"

/-- That is applied. -/
def listeningTold : World := (listeningBegun.spawn 0 (.ofOp (RunAction.apply gone).op)).2.resume 1

/-- The loop of that run waits for its first round. -/
def listeningAwaits : World :=
  run 1 (.ofRound Poll.round)
    (((listeningBegun.onSession 0 fun s => { s with interval := .whole 5 }).fork 0 .pollLoop).2.unqueue 1)

/-- The service answers with that error. -/
def goneLine : ScriptLine := ⟨.answered { body := "\x7b\"ErrorMessage\":\"gone\"\x7d".toUTF8.toList }, 0⟩

theorem status_goneLine : goneLine.outcome.status = .ok gone := by
  have hstatus : goneLine.outcome.status.toOption = some gone := by decide +kernel
  cases h : goneLine.outcome.status with
  | error f =>
    rw [h] at hstatus
    cases hstatus
  | ok report =>
    rw [h] at hstatus
    cases hstatus
    rfl

theorem starts_listening : listening.Starts 0 where
  known := by decide
  stateGate := rfl
  fetchGate := rfl
  reliable := by
    have hhooks : ∀ hook ∈ (listening.session 0).hooks, hook.fails = false := by
      simp [listening, World.session, StopHook.fails]
    exact ⟨hhooks, rfl, rfl, by decide⟩
  run := .inl ⟨rfl, rfl⟩
  replies := rfl
  notices := rfl

theorem mayEnd_listening :
    (Surroundings.ofCall (listeningBegun.site 0).core false).MayEnd (listeningBegun.site 0).core := by
  have hstate : (listeningBegun.site 0).core.session.state = .launched .dataOnly := rfl
  have horderly : (listeningBegun.site 0).core.Orderly :=
    ⟨⟨starts_listening.reliable.hooks, rfl, rfl, by decide⟩, rfl, fun _ => rfl, rfl⟩
  exact Surroundings.mayEnd_ofCall ⟨⟨horderly, .refl _⟩, hstate ▸ RunState.sound_launched .dataOnly⟩

/-- A run that has begun is ended in order by a report of an error, and its loop ends with the round that finds it. -/
theorem listening_torn_down :
    (Control.applyBehind gone).Meets (Surroundings.ofCall (listeningBegun.site 0).core false).journal
      (fun r x' => ∃ d g, (Surroundings.ofCall (listeningBegun.site 0).core false).Shows d g x' ∧
        r = .ok ⟨(listeningBegun.session 0).state.phase, d.session.state, true⟩ ∧
          Surroundings.TornDown (listeningBegun.site 0).core gone d g) (⟨listeningBegun.site 0, [], []⟩, []) ∧
    (∃ log g d, Piece 1 log (.entered (listeningBegun.site 0).core :: g ++ [.left d]) ∧
      (listeningBegun.site 0).core.stored = (listeningBegun.site 0).core.record.encode ∧
      listeningTold.stage? 1 = some (.ended (.ok (.transition ⟨(listeningBegun.session 0).state.phase, d.session.state,
        true⟩))) ∧ Surroundings.TornDown (listeningBegun.site 0).core gone d g) ∧
    ∃ v r, Lap 1 goneLine goneLine listeningAwaits v ∧ v.stage? 1 = some (.ended r) := by
  have hactive : (listeningBegun.session 0).state.phase.isActive = true := rfl
  refine ⟨?behind, ?call, ?loop⟩
  case behind =>
    exact (torn_down_in_order 0 1 gone).1 _ _ _ .failed _ ⟨rfl, rfl, rfl⟩ mayEnd_listening (.fails hactive rfl)
  case call =>
    have hbegun : Diary 0 listening _ _ listeningBegun :=
      (Diary.start.call (.begin .dataOnly .bulk (.whole 2) (.whole 3)) rfl).resume List.mem_cons_self
    have hdiary : Diary 0 listening _ _ listeningTold := (hbegun.call (.apply gone) rfl).resume List.mem_cons_self
    obtain ⟨c, g, d, hpiece, hends⟩ := (torn_down_in_order 0 1 gone).2.1 listening listeningTold _ _ _ starts_listening
      hdiary List.mem_cons_self rfl
    -- The report finds the run that was begun.
    have hentered : ∃ rest, (listeningBegun.spawn 0 (.ofOp (RunAction.apply gone).op)).2.signsOf 1 =
        .entered (listeningBegun.site 0).core :: rest := ⟨_, rfl⟩
    obtain ⟨rest, hentered⟩ := hentered
    have hfirst := hpiece.first
    rw [hentered, List.nil_append, List.find?_append, List.find?_eq_none.mpr (by simp), Option.none_or] at hfirst
    cases hfirst
    obtain ⟨hstored, hresult, htorn⟩ := hends _ _ (.fails hactive rfl)
    exact ⟨_, g, d, hpiece, hstored, congrArg (fun r => some (Stage.ended r)) hresult, htorn⟩
  case loop =>
    have hloop : ((listeningBegun.onSession 0 fun s => { s with interval := .whole 5 }).fork 0 .pollLoop).2.unqueue 1
        |>.IsLoop 0 1 := ⟨by decide, _, _, rfl⟩
    have hawaits : listeningAwaits.Awaits 0 1 (some 5000000) :=
      ((paused_round (.refl _) (.refl 0 1 _) hloop).awaits rfl rfl).1
    have hrests : listeningAwaits.Rests 0 := ⟨Nat.lt_of_lt_of_eq (by decide : 0 < 1) rfl, rfl, rfl⟩
    obtain ⟨-, -, v, -, -, hlap, -⟩ := lap_goes hawaits hrests goneLine goneLine
    have hstate : (listeningAwaits.site 0).core.session.state = .launched .dataOnly := rfl
    have hmay : Surroundings.MayHalt (listeningAwaits.site 0).core gone .failed _ :=
      { fetchGate := rfl
        sound := hstate ▸ RunState.sound_launched .dataOnly
        polling := List.mem_cons_self
        hooks := starts_listening.reliable.hooks
        ends := .fails rfl rfl }
    obtain ⟨r, hended⟩ := (torn_down_in_order 0 1 gone).2.2 listeningAwaits v goneLine goneLine .failed _ hlap
      (.inl ⟨_, hawaits⟩) hrests rfl hmay status_goneLine
    exact ⟨v, r, hlap, hended⟩

end World

end Cutover
