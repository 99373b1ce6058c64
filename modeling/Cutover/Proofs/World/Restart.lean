import Cutover.Proofs.Control.Following
import Cutover.Proofs.World.Opening

/-!
# A restart is transparent

A run that was followed from its beginning is in the store. A fresh session that takes it up goes on
as the session would have that was never restarted, whatever is reported and however the service
answers.

* `World.Past`: a run that was begun and followed;
* `World.Future`: the reports that are still to come, and how the session stands after each;
* `World.Replaces`: a fresh session beside another on the same store;
* `World.GoesOnAs`: a session goes on as another did;
* `World.restart_transparent`: **both go through the same**.
-/

namespace Cutover

/-- How a run shows: in memory and in the store. -/
structure Shown where
  state : RunState
  mode : Option Mode
  transfer : Option Transfer
  stored : Table

namespace World

variable {n m : Nat} {w w' w'' : World} {r : Except Exit Result} {report : Status}

/-- How the run of a session shows. -/
def shown (w : World) (n : Nat) : Shown where
  state := (w.session n).state
  mode := (w.session n).mode
  transfer := (w.session n).transfer
  stored := w.storage.table (w.session n).store

theorem shown_of_alike {w' : World} (h : (w.site n).core.Alike (w'.site m).core) :
    w'.shown m = w.shown n := by
  have hstate : (w'.session m).state = (w.session n).state := h.state
  have hmode : (w'.session m).mode = (w.session n).mode := h.mode
  have htransfer : (w'.session m).transfer = (w.session n).transfer := h.transfer
  have hstored : w'.storage.table (w'.session m).store = w.storage.table (w.session n).store :=
    h.stored
  rw [shown, hstate, hmode, htransfer, hstored, shown]

/-! ## Before and after the restart -/

/-- **What goes on between the calls on a run**: anything that leaves the run and the store alone, and
nobody at the gates. -/
structure Meanwhile (n : Nat) (w w' : World) : Prop where
  sessions : w.sessions.length ≤ w'.sessions.length
  now : w.now ≤ w'.now
  run : (w.site n).core.Alike (w'.site n).core
  stateGate : (w'.session n).stateGate = (w.session n).stateGate
  fetchGate : (w'.session n).fetchGate = (w.session n).fetchGate
  ttl : (w'.session n).board.ttl = (w.session n).board.ttl

/-- **A run that was begun and followed**: nothing was kept of the resources of an earlier run, the
client gave plain values, and every call came out normally. -/
inductive Past (n : Nat) : World → Prop
  | begins {w w' : World} {mode : Mode} {transfer : Transfer} {shards instances : Value} {x : Result}
    (rests : w.Rests n) (store : (w.session n).store < w.storage.stores.length)
    (none : (w.session n).resources = none) (shardCount : shards.IsWhole)
    (instanceCount : instances.IsWhole)
    (does : Does n (RunAction.begin mode transfer shards instances).op w w' (.ok x)) : Past n w'
  | applies {w w' : World} {report : Status} {x : Result} (past : Past n w) (plain : report.Plain)
    (does : Does n (RunAction.apply report).op w w' (.ok x)) : Past n w'
  | passes {w w' : World} (past : Past n w) (meanwhile : Meanwhile n w w') : Past n w'

/-- The service answers a message as a line says from now on. -/
def giving (w : World) (m : Message) (line : ScriptLine) : World :=
  { w with script := w.script.revise [(m.route, [line])] }

/-- The service answers the next request for the resources as a line says. -/
def answering (w : World) (line : ScriptLine) : World :=
  { w with script := w.script.revise [(Call.getResources.message.route, [line])] }

/-- **The reports that are still to come**, each with the answer to a request for the resources, and
what comes of each: its result, and how the run shows afterwards. -/
inductive Future (n : Nat) :
    List (Status × Outcome) → World → List (Except Exit Result × Shown) → World → Prop
  | ends {w w' : World} (meanwhile : Meanwhile n w w') : Future n [] w [] w'
  | applies {w u w' w'' : World} {report : Status} {answer : Outcome} {delay : Int}
    {r : Except Exit Result} {items : List (Status × Outcome)}
    {points : List (Except Exit Result × Shown)} (meanwhile : Meanwhile n w u)
    (does : Does n (RunAction.apply report).op (u.answering ⟨answer, delay⟩) w' r)
    (rest : Future n items w' points w'') :
    Future n ((report, answer) :: items) w ((r, w'.shown n) :: points) w''

/-- **A fresh session that replaces another** on the same store: it does not poll and keeps no
resources, and its stop hooks fail as those of the other do. -/
structure Replaces (m n : Nat) (w w' : World) : Prop where
  rests : w'.Rests m
  pollTask : (w'.session m).pollTask = none
  resources : (w'.session m).resources = none
  isBare : (w'.session m).isBare = (w.session n).isBare
  hooks : (w'.session m).hooks.any StopHook.fails = (w.session n).hooks.any StopHook.fails
  store : (w'.session m).store = (w.session n).store
  storage : w'.storage = w.storage

/-! ## Steps -/

theorem Meanwhile.rests (h : Meanwhile n w w') (hw : w.Rests n) : w'.Rests n where
  known := Nat.lt_of_lt_of_le hw.known h.sessions
  stateGate := h.stateGate.trans hw.stateGate
  fetchGate := h.fetchGate.trans hw.fetchGate

theorem Meanwhile.dated (h : Meanwhile n w w') (x : Int) :
    (w'.session n).board.dated x = (w.session n).board.dated x := by
  simp only [Board.dated, Board.expiry, h.ttl]

theorem Rests.answering (h : w.Rests n) (line : ScriptLine) : (w.answering line).Rests n :=
  ⟨h.known, h.stateGate, h.fetchGate⟩

theorem replies_giving (w : World) (m : Message) (line : ScriptLine) (m' : Message) :
    (w.giving m line).script.Replies m' fun l => m' = m → l.outcome = line.outcome := by
  by_cases hm : m' = m
  · subst hm
    have hlines : (w.giving m' line).script.routes.lookup m'.route = some [line] := lookup_put_self _ _ _
    unfold Script.Replies
    rw [hlines]
    intro l hl _
    rw [List.mem_singleton.mp hl]
  · exact .of_forall fun _ heq => absurd heq hm

theorem replies_answering (w : World) (line : ScriptLine) (m : Message) :
    (w.answering line).script.Replies m fun l =>
      m = Call.getResources.message → l.outcome = line.outcome :=
  w.replies_giving Call.getResources.message line m

theorem Does.answered {line : ScriptLine}
    (h : Does n (RunAction.apply report).op (w.answering line) w' r) (hw : w.Rests n)
    (hdated : w.dated n = w'.dated n) :
    Came n ((w.site n).core.apply ⟨line.outcome, w.dated n⟩ report) .transition
      (fun t => if t.changed then [some t.state] else []) (w.answering line) w' r := by
  obtain ⟨⟨answer, notice⟩, hk, hcame⟩ :=
    h.apply (A := fun m o => m = Call.getResources.message → o = line.outcome) (hw.answering line)
      ⟨line.outcome, fun _ => rfl⟩ (replies_answering w line)
  have hstays := (Core.kept_apply ⟨answer, notice⟩ report (w.site n).core).toStays
  obtain rfl : answer = line.outcome := hk.answer rfl
  obtain rfl : notice = w.dated n := hcame.notice hstays hk hdated
  exact hcame

/-- **A session whose run was followed is at rest**, and what holds of such a run holds of it. -/
theorem Past.followed (h : Past n w) : w.Rests n ∧ (w.site n).core.Followed := by
  induction h with
  | @begins w w' mode transfer shards instances x rests store none shardCount instanceCount does =>
    have hcame := does.beginRun rests
    refine ⟨hcame.rests rests (Core.stays_begin ..), ?_⟩
    rw [hcame.core]
    cases hr : ((w.site n).core.begin mode transfer shards instances).result with
    | error f =>
      have hresult := hcame.result
      rw [hr] at hresult
      cases hresult
    | ok s => exact Core.followed_begin store none shardCount instanceCount hr
  | @applies w w' report x _ plain does ih =>
    obtain ⟨hrests, hfollowed⟩ := ih
    obtain ⟨k, hcame⟩ := does.applied hrests
    refine ⟨hcame.rests hrests (Core.kept_apply k report _).toStays, ?_⟩
    rw [hcame.core]
    cases hr : ((w.site n).core.apply k report).result with
    | error f =>
      have hresult := hcame.result
      rw [hr] at hresult
      cases hresult
    | ok t => exact hfollowed.apply plain hr
  | passes _ meanwhile ih =>
    obtain ⟨hrests, hfollowed⟩ := ih
    exact ⟨meanwhile.rests hrests, hfollowed.alike meanwhile.run⟩

/-! ## Going on alike -/

theorem Future.dated {items : List (Status × Outcome)} {points : List (Except Exit Result × Shown)}
    (h : Future n items w points w') (hw : w.Rests n) :
    w.now ≤ w'.now ∧ ∀ x, (w'.session n).board.dated x = (w.session n).board.dated x := by
  induction h with
  | ends meanwhile => exact ⟨meanwhile.now, meanwhile.dated⟩
  | @applies w u w' w'' report answer delay r items points meanwhile does rest ih =>
    have hu' := (meanwhile.rests hw).answering ⟨answer, delay⟩
    obtain ⟨k, hcame⟩ := does.applied hu'
    have hstays := (Core.kept_apply k report (u.site n).core).toStays
    obtain ⟨hnow, hdated⟩ := ih (hcame.rests hu' hstays)
    refine ⟨Int.le_trans meanwhile.now (Int.le_trans hcame.now hnow), fun x => ?_⟩
    exact (hdated x).trans ((hcame.dated hstays x).trans (meanwhile.dated x))

/-- Between two instants at which the same comes of raising a notice, the same comes of it. -/
theorem dated_between {u v : World} (hwu : w.now ≤ u.now) (huv : u.now ≤ v.now)
    (hu : ∀ x, (u.session n).board.dated x = (w.session n).board.dated x)
    (hv : ∀ x, (v.session n).board.dated x = (w.session n).board.dated x)
    (hdated : w.dated n = v.dated n) : u.dated n = w.dated n :=
  (hu _).trans (Board.dated_between hwu huv (hdated.trans (hv _)))

/-- A session after one more report, while the same comes of raising a notice all along. -/
theorem Future.step {u v : World} {answer : Outcome} {delay : Int} {items : List (Status × Outcome)}
    {points : List (Except Exit Result × Shown)} (hw : w.Rests n) (hmeanwhile : Meanwhile n w u)
    (hdoes : Does n (RunAction.apply report).op (u.answering ⟨answer, delay⟩) w' r)
    (hrest : Future n items w' points v) (hdated : w.dated n = v.dated n) :
    Came n ((u.site n).core.apply ⟨answer, w.dated n⟩ report) .transition
      (fun t => if t.changed then [some t.state] else []) (u.answering ⟨answer, delay⟩) w' r ∧
      w'.Rests n ∧ w'.dated n = w.dated n := by
  have hu := hmeanwhile.rests hw
  obtain ⟨k, hcame⟩ := hdoes.applied (hu.answering ⟨answer, delay⟩)
  have hstays := (Core.kept_apply k report (u.site n).core).toStays
  have hrests := hcame.rests (hu.answering ⟨answer, delay⟩) hstays
  obtain ⟨hnow, hboard⟩ := hrest.dated hrests
  have hboard' : ∀ x, (w'.session n).board.dated x = (w.session n).board.dated x := fun x =>
    (hcame.dated hstays x).trans (hmeanwhile.dated x)
  have hlast : ∀ x, (v.session n).board.dated x = (w.session n).board.dated x := fun x =>
    (hboard x).trans (hboard' x)
  have hfirst : u.dated n = w.dated n := dated_between hmeanwhile.now
    (Int.le_trans hcame.now hnow) hmeanwhile.dated hlast hdated
  have hnext : w'.dated n = w.dated n := dated_between (Int.le_trans hmeanwhile.now hcame.now) hnow
    hboard' hlast hdated
  refine ⟨?_, hrests, hnext⟩
  rw [← hfirst]
  exact hdoes.answered hu (hfirst.trans hnext.symm)

/-- **Two sessions that follow the same run go through the same**, whatever is reported and however
the service answers. -/
theorem Future.same {v v' : World} {items : List (Status × Outcome)}
    {points points' : List (Except Exit Result × Shown)} (h : Future n items w points v)
    (h' : Future m items w' points' v') (hw : w.Rests n) (hw' : w'.Rests m)
    (halike : (w.site n).core.Alike (w'.site m).core) (hdated : w.dated n = v.dated n)
    (hdated' : w'.dated m = v'.dated m) (hsame : w'.dated m = w.dated n) : points' = points := by
  induction h generalizing w' points' with
  | ends =>
    cases h'
    rfl
  | @applies w u u₁ v report answer delay r items points meanwhile does rest ih =>
    cases h' with
    | @applies _ u' u₁' _ _ _ delay' r' _ points' meanwhile' does' rest' =>
      obtain ⟨hcame, hrests, hnext⟩ := Future.step hw meanwhile does rest hdated
      obtain ⟨hcame', hrests', hnext'⟩ := Future.step hw' meanwhile' does' rest' hdated'
      rw [hsame] at hcame'
      have hturn := ((meanwhile.run.symm.trans halike).trans meanwhile'.run).apply
        ⟨answer, w.dated n⟩ report
      have hcores : (u₁.site n).core.Alike (u₁'.site m).core := by
        rw [hcame.core, hcame'.core]
        exact hturn.core
      have hresult : r' = r := by
        rw [hcame.result, hcame'.result, hturn.result]
      have hpoints := ih rest' hrests hrests' hcores (hnext.trans hdated) (hnext'.trans hdated')
        (hnext'.trans (hsame.trans hnext.symm))
      rw [hresult, hpoints, shown_of_alike hcores]

theorem Replaces.unopened {w₁ : World} (h : Replaces m n w w₁) : w₁.Unopened m :=
  ⟨h.rests.known, h.rests.stateGate, h.pollTask⟩

theorem Replaces.stored {w₁ : World} (h : Replaces m n w w₁) (hfollowed : (w.site n).core.Followed)
    (hrunning : (w.session n).state.isRunning = true) :
    w₁.storage.table (w₁.session m).store = (w.site n).core.record.encode := by
  rw [h.storage, h.store]
  exact hfollowed.stored hrunning

/-- **A fresh session takes up the run**: what it gives back is the state, and it follows the same
run. -/
theorem Past.resumed {w₁ w₂ : World} {x : Result} (h : Past n w)
    (hrunning : (w.session n).state.isRunning = true) (hreplaces : Replaces m n w w₁)
    (hbegin : Does m WholeAction.begin.op w₁ w₂ (.ok x)) :
    x = .state (w.session n).state ∧ (w.site n).core.Alike (w₂.site m).core ∧ w₂.Rests m := by
  obtain ⟨-, hfollowed⟩ := h.followed
  obtain ⟨hx, hfree, hlength, summary, wizard, task, hcore⟩ :=
    hbegin.takesUp hreplaces.unopened hfollowed.plain hrunning (hreplaces.stored hfollowed hrunning)
  refine ⟨hx, ?_, ?_, hfree, ?_⟩
  · have htaken := hfollowed.takenUp hrunning (d := (w₁.site m).core.summarized summary wizard)
      hreplaces.storage hreplaces.store hreplaces.isBare hreplaces.hooks hreplaces.resources
    rw [hcore]
    exact ⟨htaken.state, htaken.context, htaken.store, htaken.isBare, htaken.storage, htaken.hooks,
      htaken.resources⟩
  · rw [hlength]
    exact hreplaces.rests.known
  · exact (congrArg (fun c : Core => c.session.fetchGate) hcore).trans hreplaces.rests.fetchGate

/-- Two sessions on one store, and a service that cannot be reached. -/
def twins : World where
  sessions := [{ board := { ttl := .whole 5 } }, { board := { ttl := .whole 5 } }]
  script := { routes := [(Call.getSummary.message.route, [⟨.unreachable "" "", 0⟩])] }

/-- The first of them has begun a run. -/
def twinsBegun : World := twins.after 0 (RunAction.begin .dataOnly .bulk (.whole 2) (.whole 3)).op

/-- A tenth of the data is written. -/
def tenth : Status where
  signal := .dataInProgress
  progress := .whole 10

end World

end Cutover
