import Cutover.Proofs.World.Astir
import Cutover.Proofs.World.Hushed
import Cutover.Proofs.World.InTurn

/-!
# Two worlds with boards of their own

Two worlds that are the same but for their notices stay so, as long as notices can be raised: whatever is done to
both, and whatever their tasks do when it is their turn.

* `Job.Heedless`, `Stage.Heedless`: what a task has yet to do does not heed the notices;
* `World.Heedless`: no task of a world does, and notices can be raised on every board;
* `World.Twinned`: **two worlds are the same but for their notices**;
* `World.Retains`: no time has passed, and neither a session nor a task is gone;
* `World.run_twinned`, `World.Twinned.resume`: **the same task works in both**.
-/

namespace Cutover

/-! ## Tasks -/

/-- A stretch of work comes to the same, but for what it reads of the notices. -/
def Job.Heedless (limit : Int) (reads : Bool) (job : Job) : Prop :=
  Work.Alongside limit (fun r r' => Outturn.hushed reads r = Outturn.hushed reads r') job job

/-- What a task has yet to do does not heed the notices. -/
inductive Stage.Heedless (limit : Int) (reads : Bool) : Stage → Prop
  | fresh {job : Job} (goes : Job.Heedless limit reads job) : Heedless limit reads (.fresh job)
  | waiting {e : Effect} {next : e.Reply → Job} {alarm : Option (Alarm e.Reply)}
    (goes : ∀ r, Job.Heedless limit reads (next r)) : Heedless limit reads (.waiting e next alarm)
  | woken {e : Effect} {next : e.Reply → Job} {r : e.Reply} (goes : ∀ r, Job.Heedless limit reads (next r)) :
    Heedless limit reads (.woken e next r)
  | ended (r : Except Exit Result) : Heedless limit reads (.ended r)

variable {limit : Int} {b : Bool}

theorem Job.heedless_ofOp {op : Op Result} (h : op.Heedless limit) : Job.Heedless limit b (.ofOp op) :=
  (Op.heedless_map h).mono fun _ _ heq => congrArg (Outturn.hushed b) heq

theorem Job.heedless_ofRound {op : Op Bool} (h : op.Heedless limit) : Job.Heedless limit b (.ofRound op) :=
  (Op.heedless_map h).mono fun _ _ heq => congrArg (Outturn.hushed b) heq

theorem Job.heedless_notice (a : NoticeAction) : Job.Heedless limit true (.ofOp a.op) := by
  refine a.alongside.bind fun r r' hlike => ?_
  cases r with
  | ok x =>
    cases r' with
    | ok x' => exact .done rfl
    | error e => cases hlike
  | error e =>
    cases r' with
    | ok x' => cases hlike
    | error e' =>
      cases hlike
      exact .done rfl

/-- **Whatever is asked**, it does not heed the notices, or it reads them. -/
theorem Job.heedless_action (a : Action) : Job.Heedless limit a.isNotice (.ofOp a.op) := by
  cases ha : a.isNotice with
  | false => exact heedless_ofOp (a.heedless ha)
  | true =>
    cases a with
    | notice a => exact heedless_notice a
    | _ => cases ha

theorem Stage.Heedless.turned {tells : Nat → Except Exit Result → Prop} {breaks : Prop} {stage stage' : Stage}
    (h : stage.Heedless limit b) (hturned : Relation.ReflTransGen (Stage.Turned tells breaks) stage stage') :
    stage'.Heedless limit b := by
  refine Stage.Turned.carries hturned (fun _ _ => .fresh (.done rfl)) (fun e next r r' hs => ?_) (fun e next alarm r hs => ?_) h
  · cases hs with
    | woken goes => exact .woken goes
  · cases hs with
    | waiting goes => exact .woken goes

namespace World

variable {reads : Nat → Bool} {w w' v v' : World} {n t i : Nat}

/-! ## One world -/

/-- **No task heeds the notices, and notices can be raised on every board.** -/
structure Heedless (limit : Int) (reads : Nat → Bool) (w : World) : Prop where
  boards : ∀ m < w.sessions.length, (w.session m).board.Raises limit
  homes : ∀ (i : Nat) (task : Task), w.tasks[i]? = some task → task.session < w.sessions.length
  stages : ∀ (i : Nat) (task : Task), w.tasks[i]? = some task → task.stage.Heedless limit (reads i)

namespace Heedless

theorem home (h : w.Heedless limit reads) (ht : w.stage? t ≠ none) : w.sessionOf t < w.sessions.length := by
  obtain ⟨stage, hstage⟩ := Option.ne_none_iff_exists'.mp ht
  obtain ⟨task, htask, -⟩ := Option.map_eq_some_iff.mp hstage
  rw [sessionOf, htask]
  exact h.homes t task htask

theorem of_same (h : w.Heedless limit reads) (hsessions : w'.sessions = w.sessions) (htasks : w'.tasks = w.tasks) :
    w'.Heedless limit reads where
  boards m hm := by
    have hsame : w'.session m = w.session m := by rw [session, session, hsessions]
    rw [hsame]
    exact h.boards m (hsessions ▸ hm)
  homes i task hi := by
    rw [hsessions]
    exact h.homes i task (htasks ▸ hi)
  stages i task hi := h.stages i task (htasks ▸ hi)

theorem astir (h : w.Heedless limit reads) (hn : n < w.sessions.length) (hastir : Astir n w w') :
    w'.Heedless limit reads where
  boards m hm := by
    obtain ⟨_, _, _, _, hsession⟩ := hastir.sessions m
    rw [hsession]
    exact h.boards m (hastir.length ▸ hm)
  homes i task' hi' := by
    rw [hastir.length]
    rcases hastir.before hi' with ⟨task, stage, watchers, hi, rfl, -⟩ | ⟨-, hsession, -⟩
    · exact h.homes i task hi
    · exact hsession ▸ hn
  stages i task' hi' := by
    rcases hastir.before hi' with ⟨task, stage, watchers, hi, rfl, hturned⟩ | ⟨-, -, b, -, hstage⟩
    · exact (h.stages i task hi).turned hturned
    · rw [hstage]
      exact .fresh (Job.heedless_ofRound b.heedless.1)

theorem stirred (h : w.Heedless limit reads) (hstirred : Stirred (fun _ _ => True) True w w') :
    w'.Heedless limit reads where
  boards m hm := by
    obtain ⟨_, _, _, _, hsession⟩ := hstirred.sessions m
    rw [hsession]
    exact h.boards m (hstirred.length ▸ hm)
  homes i task' hi' := by
    obtain ⟨task, stage, hi, rfl, -⟩ := hstirred.before hi'
    rw [hstirred.length]
    exact h.homes i task hi
  stages i task' hi' := by
    obtain ⟨task, stage, hi, rfl, hturned⟩ := hstirred.before hi'
    exact (h.stages i task hi).turned hturned

theorem setStage {stage : Stage} (h : w.Heedless limit reads) (hstage : stage.Heedless limit (reads t)) :
    (w.setStage t stage).Heedless limit reads where
  boards := h.boards
  homes i task' hi' := by
    rcases setStage_cases hi' with ⟨-, task, hi, rfl⟩ | ⟨-, hi⟩
    · exact h.homes i task hi
    · exact h.homes i task' hi
  stages i task' hi' := by
    rcases setStage_cases hi' with ⟨rfl, task, hi, rfl⟩ | ⟨-, hi⟩
    · exact hstage
    · exact h.stages i task' hi

theorem finish (h : w.Heedless limit reads) (t : Nat) (r : Except Exit Result) :
    (w.finish t r).Heedless limit reads :=
  (h.setStage (.ended r)).stirred (stirred_wakeWatchers fun _ _ _ _ _ _ => trivial)

theorem conclude (h : w.Heedless limit reads) (t : Nat) (r : Except Exit Outturn) :
    (w.conclude t r).Heedless limit reads := by
  unfold World.conclude
  split
  · exact h.finish t _
  · exact h.finish t _
  · split
    next b _ =>
      have hround := h.setStage (t := t) (.fresh (Job.heedless_ofRound b.heedless.2))
      exact { hround with }
    next => exact h.finish t _

theorem setSite {y : Site} (h : w.Heedless limit reads) (hy : y.session.board.Raises limit) :
    (w.setSite n y).Heedless limit reads where
  boards m hm := by
    have hlt : m < w.sessions.length := by simpa [World.setSite] using hm
    by_cases hmn : n = m
    · subst hmn
      simpa [World.setSite, session, hlt] using hy
    · simpa [World.setSite, session, hmn] using h.boards m hlt
  homes i task hi := by simpa [World.setSite] using h.homes i task hi
  stages := h.stages

theorem onSession {f : Session → Session} (h : w.Heedless limit reads) (hboard : ∀ s, (f s).board = s.board) :
    (w.onSession n f).Heedless limit reads := by
  by_cases hn : n < w.sessions.length
  · have hset := h.setSite (n := n) (y := { w.site n with session := f (w.session n) }) (by
      show (f (w.session n)).board.Raises limit
      rw [hboard]
      exact h.boards n hn)
    exact { hset with }
  · have hsame : (w.onSession n f).sessions = w.sessions := List.set_eq_of_length_le (Nat.le_of_not_lt hn)
    exact h.of_same hsame rfl

theorem join {s : Session} (h : w.Heedless limit reads) (hs : s.board.Raises limit) :
    World.Heedless limit reads { w with sessions := w.sessions ++ [s] } where
  boards m hm := by
    rcases Nat.lt_or_ge m w.sessions.length with hlt | hge
    · have hold : World.session { w with sessions := w.sessions ++ [s] } m = w.session m := by
        simp [session, List.getElem?_append_left hlt]
      rw [hold]
      exact h.boards m hlt
    · have heq : m = w.sessions.length := by
        simp only [List.length_append, List.length_singleton] at hm
        omega
      subst heq
      simpa [session] using hs
  homes i task hi := by
    have hhome := h.homes i task hi
    simp only [List.length_append, List.length_singleton]
    omega
  stages := h.stages

theorem reread {reads' : Nat → Bool} (h : w.Heedless limit reads) (hreads : ∀ i < w.tasks.length, reads' i = reads i) :
    w.Heedless limit reads' where
  boards := h.boards
  homes := h.homes
  stages i task hi := by
    rw [hreads i (List.getElem?_eq_some_iff.mp hi).1]
    exact h.stages i task hi

theorem spawn {job : Job} {loop : Option Background} (h : w.Heedless limit reads) (hn : n < w.sessions.length)
    (hjob : Job.Heedless limit (reads w.tasks.length) job) : (w.spawn n job loop).2.Heedless limit reads where
  boards := h.boards
  homes i task hi := by
    rcases spawn_before hi with hi | ⟨-, rfl⟩
    · exact h.homes i task hi
    · exact hn
  stages i task hi := by
    rcases spawn_before hi with hi | ⟨rfl, rfl⟩
    · exact h.stages i task hi
    · exact .fresh hjob

end Heedless

/-! ## Two worlds -/

/-- **Two worlds are the same but for their notices**, and no task heeds these. -/
structure Twinned (limit : Int) (reads : Nat → Bool) (w v : World) : Prop where
  same : v.hushed reads = w.hushed reads
  left : w.Heedless limit reads
  right : v.Heedless limit reads

namespace Twinned

variable (h : Twinned limit reads w v)

include h

theorem now : v.now = w.now := (congrArg World.now h.same :)

theorem length : v.sessions.length = w.sessions.length := by
  have hsame := congrArg (fun u => u.sessions.length) h.same
  simpa [hushed] using hsame

theorem count : v.tasks.length = w.tasks.length := by
  have hsame := congrArg (fun u => u.tasks.length) h.same
  simpa [hushed] using hsame

theorem sessionOf (t : Nat) : v.sessionOf t = w.sessionOf t := by
  have hsame := congrArg (fun u => u.sessionOf t) h.same
  rwa [sessionOf_hushed, sessionOf_hushed] at hsame

theorem session (m : Nat) : v.session m = { w.session m with board := (v.session m).board } := by
  have hsame := congrArg (fun u => u.session m) h.same
  rw [session_hushed, session_hushed] at hsame
  exact congrArg (fun s : Session => { s with board := (v.session m).board }) hsame

theorem site (m : Nat) : v.site m = (w.site m).withBoard (v.session m).board := by
  have hrest : v.site m = { w.site m with session := v.session m } := by
    have hstorage : v.storage = w.storage := (congrArg World.storage h.same :)
    have htrace : v.trace = w.trace := (congrArg World.trace h.same :)
    have hhooks : v.hookCalls = w.hookCalls := (congrArg World.hookCalls h.same :)
    have hevents : v.events = w.events := (congrArg World.events h.same :)
    rw [World.site, hstorage, htrace, hhooks, hevents, h.now]
    rfl
  rw [hrest, h.session m]
  rfl

theorem stage? {stage : Stage} (hlive : ∀ r, stage ≠ .ended r) : v.stage? t = some stage ↔ w.stage? t = some stage := by
  rw [← stage?_hushed hlive, h.same, stage?_hushed hlive]

omit h

theorem lift {f : World → World} (h : Twinned limit reads w v)
    (hf : ∀ w, (f w).hushed reads = f (w.hushed reads))
    (hstirred : ∀ w, Stirred (fun _ _ => True) True w (f w)) : Twinned limit reads (f w) (f v) where
  same := by rw [hf, hf, h.same]
  left := h.left.stirred (hstirred w)
  right := h.right.stirred (hstirred v)

theorem surround {f : World → World} (h : Twinned limit reads w v)
    (hf : ∀ w, (f w).hushed reads = f (w.hushed reads)) (hsessions : ∀ w, (f w).sessions = w.sessions)
    (htasks : ∀ w, (f w).tasks = w.tasks) : Twinned limit reads (f w) (f v) where
  same := by rw [hf, hf, h.same]
  left := h.left.of_same (hsessions w) (htasks w)
  right := h.right.of_same (hsessions v) (htasks v)

theorem ring (h : Twinned limit reads w v) (t : Nat) : Twinned limit reads (w.ring t) (v.ring t) :=
  h.lift (fun w => ring_hushed w t) fun w => stirred_ring w t

theorem serve (h : Twinned limit reads w v) (t : Nat) :
    Twinned limit reads (w.wakeAtStorage t) (v.wakeAtStorage t) :=
  h.lift (fun w => wakeAtStorage_hushed w t) fun w => stirred_wakeAtStorage w t

theorem cancel (h : Twinned limit reads w v) (t : Nat) : Twinned limit reads (w.cancel t) (v.cancel t) :=
  h.lift (fun w => cancel_hushed w t) fun w => stirred_cancelWithin trivial _ w t

theorem settleAtGate (h : Twinned limit reads w v) (t : Nat) (e : Effect) (r : e.Reply) :
    Twinned limit reads (w.settleAtGate t e r) (v.settleAtGate t e r) :=
  h.lift (fun w => settleAtGate_hushed w t e r) fun w => stirred_settleAtGate w t e r

theorem spawn {job : Job} {loop : Option Background} (h : Twinned limit reads w v) (hn : n < w.sessions.length)
    (hjob : Job.Heedless limit (reads w.tasks.length) job) :
    Twinned limit reads (w.spawn n job loop).2 (v.spawn n job loop).2 where
  same := by
    have hspawn : ∀ u : World, ((u.hushed reads).spawn n job loop).2 = (u.spawn n job loop).2.hushed reads :=
      fun u => congrArg Prod.snd (spawn_hushed u n job loop)
    rw [← hspawn, ← hspawn, h.same]
  left := h.left.spawn hn hjob
  right := h.right.spawn (h.length ▸ hn) (h.count ▸ hjob)

theorem setStage {stage : Stage} (h : Twinned limit reads w v) (hstage : stage.Heedless limit (reads t)) :
    Twinned limit reads (w.setStage t stage) (v.setStage t stage) where
  same := by rw [setStage_hushed, setStage_hushed, h.same]
  left := h.left.setStage hstage
  right := h.right.setStage hstage

theorem onSession {f : Session → Session} (h : Twinned limit reads w v) (hf : ∀ s, (f s).hushed = f s.hushed)
    (hboard : ∀ s, (f s).board = s.board) : Twinned limit reads (w.onSession n f) (v.onSession n f) where
  same := by rw [onSession_hushed hf, onSession_hushed hf, h.same]
  left := h.left.onSession hboard
  right := h.right.onSession hboard

theorem join {s s' : Session} (h : Twinned limit reads w v) (hs : s.board.Raises limit) (hs' : s'.board.Raises limit)
    (hsame : s'.hushed = s.hushed) : Twinned limit reads { w with sessions := w.sessions ++ [s] }
      { v with sessions := v.sessions ++ [s'] } where
  same := by
    have hjoined : ∀ (u : World) (s : Session), World.hushed reads { u with sessions := u.sessions ++ [s] } =
        { u.hushed reads with sessions := (u.hushed reads).sessions ++ [s.hushed] } := fun u s => by
      simp [hushed]
    rw [hjoined, hjoined, h.same, hsame]
  left := h.left.join hs
  right := h.right.join hs'

theorem reread {reads' : Nat → Bool} (h : Twinned limit reads w v) (hreads : ∀ i < w.tasks.length, reads' i = reads i) :
    Twinned limit reads' w v where
  same := by
    rw [hushed_congr hreads, hushed_congr (h.count ▸ hreads), h.same]
  left := h.left.reread hreads
  right := h.right.reread (h.count ▸ hreads)

theorem conclude {r r' : Except Exit Outturn} (h : Twinned limit reads w v)
    (hr : Outturn.hushed (reads t) r = Outturn.hushed (reads t) r') :
    Twinned limit reads (w.conclude t r) (v.conclude t r') where
  same := by rw [conclude_hushed, conclude_hushed, h.same, hr]
  left := h.left.conclude t r
  right := h.right.conclude t r'

theorem perform {e : Effect} (h : Twinned limit reads w v) (ht : w.stage? t ≠ none) (he : e.isOther = true) :
    Twinned limit reads (w.perform t e).1 (v.perform t e).1 ∧ (v.perform t e).2 = (w.perform t e).2 := by
  have hsame : ((v.perform t e).1.hushed reads, (v.perform t e).2) =
      ((w.perform t e).1.hushed reads, (w.perform t e).2) := by
    rw [← perform_hushed v t he, h.same, perform_hushed w t he]
  have hhome := h.left.home ht
  have hhome' : v.sessionOf t < v.sessions.length := by rwa [h.sessionOf, h.length]
  refine ⟨⟨(congrArg Prod.fst hsame :), ?_, ?_⟩, (congrArg Prod.snd hsame :)⟩
  · exact h.left.astir hhome (astir_perform w t he)
  · exact h.right.astir hhome' (astir_perform v t he)

theorem setSite {y : Site} {c : Board} (h : Twinned limit reads w v) (hy : y.session.board.Raises limit)
    (hc : c.Raises limit) : Twinned limit reads (w.setSite n y) (v.setSite n (y.withBoard c)) where
  same := by
    have hsessions : (v.setSite n (y.withBoard c)).hushed reads = (v.hushed reads).setSite n (y.withBoard {}) := by
      simp only [World.setSite, hushed, List.map_set]
      rfl
    have hsessions' : (w.setSite n y).hushed reads = (w.hushed reads).setSite n (y.withBoard {}) := by
      simp only [World.setSite, hushed, List.map_set]
      rfl
    rw [hsessions, hsessions', h.same]
  left := h.left.setSite hy
  right := h.right.setSite hc

end Twinned

/-! ## Instants -/

/-- **No time has passed**, and neither a session nor a task is gone. -/
structure Retains (w w' : World) : Prop where
  now : w'.now = w.now
  known : w.sessions.length ≤ w'.sessions.length
  count : w.tasks.length ≤ w'.tasks.length

namespace Retains

theorem refl (w : World) : w.Retains w := ⟨rfl, Nat.le_refl _, Nat.le_refl _⟩

theorem trans {w'' : World} (h : w.Retains w') (h' : w'.Retains w'') : w.Retains w'' :=
  ⟨h'.now.trans h.now, Nat.le_trans h.known h'.known, Nat.le_trans h.count h'.count⟩

theorem of_stirred (h : Stirred (fun _ _ => True) True w w') (hindoors : w.Indoors w') : w.Retains w' :=
  ⟨congrArg Site.now (hindoors.site 0), Nat.le_of_eq h.length.symm, Nat.le_of_eq h.count.symm⟩

theorem stage? (h : w.Retains w') (ht : w.stage? t ≠ none) : w'.stage? t ≠ none := by
  simp only [World.stage?, ne_eq, Option.map_eq_none_iff, List.getElem?_eq_none_iff] at ht ⊢
  exact fun hle => ht (Nat.le_trans h.count hle)

end Retains

theorem retains_setStage (w : World) (t : Nat) (stage : Stage) : w.Retains (w.setStage t stage) :=
  ⟨rfl, Nat.le_refl _, by simp [setStage, onTask]⟩

theorem retains_perform (w : World) (t : Nat) (e : Effect) : w.Retains (w.perform t e).1 := by
  by_cases he : e.isOther = true
  · have hastir := astir_perform w t he
    refine ⟨congrArg Site.now (site_perform w t he 0), Nat.le_of_eq hastir.length.symm, Nat.le_of_not_lt fun hlt => ?_⟩
    obtain ⟨_, _, hthere, -⟩ := hastir.onward _ _ (List.getElem?_eq_getElem hlt)
    rw [List.getElem?_eq_none (Nat.le_refl _)] at hthere
    cases hthere
  · cases e with
    | look => exact .refl w
    | change y => exact ⟨rfl, by simp [perform, setSite], Nat.le_refl _⟩
    | _ => exact absurd rfl he

theorem retains_settleAtGate (w : World) (t : Nat) (e : Effect) (r : e.Reply) : w.Retains (w.settleAtGate t e r) :=
  .of_stirred (stirred_settleAtGate w t e r) (indoors_settleAtGate w t e r)

theorem retains_finish (w : World) (t : Nat) (r : Except Exit Result) : w.Retains (w.finish t r) := by
  have htold : Stirred (fun _ _ => True) True (w.setStage t (.ended r)) (w.finish t r) :=
    stirred_wakeWatchers fun _ _ _ _ _ _ => trivial
  refine (retains_setStage w t (.ended r)).trans ⟨?_, Nat.le_of_eq htold.length.symm, Nat.le_of_eq htold.count.symm⟩
  exact congrArg Site.now ((indoors_finish w t r).site 0)

theorem retains_conclude (w : World) (t : Nat) (r : Except Exit Outturn) : w.Retains (w.conclude t r) := by
  unfold conclude
  split
  · exact retains_finish w t _
  · exact retains_finish w t _
  · split
    next b _ =>
      have hround := retains_setStage w t (.fresh (.ofRound b.round))
      exact ⟨hround.now, hround.known, hround.count⟩
    next => exact retains_finish w t _

/-- **No time passes while a task works.** -/
theorem retains_run (t : Nat) (job : Job) (w : World) : w.Retains (run t job w) := by
  induction job generalizing w with
  | done r => exact retains_conclude w t r
  | ask e next ih =>
    have hperformed := retains_perform w t e
    rw [run]
    cases hw : w.perform t e with
    | mk w' uptake =>
      rw [hw] at hperformed
      cases uptake with
      | reply r => exact hperformed.trans (ih r w')
      | wait alarm => exact hperformed.trans (retains_setStage w' t _)

theorem retains_resume (w : World) (t : Nat) : w.Retains (w.resume t) := by
  unfold resume
  split
  · exact retains_run _ _ _
  · exact (retains_settleAtGate w t _ _).trans (retains_run _ _ _)
  · exact .refl w

/-! ## Working -/

/-- **The same work is done in both.** -/
theorem run_twinned {job job' : Job} (h : Twinned limit reads w v) (ht : w.stage? t ≠ none) (hnow : w.now ≤ limit)
    (hjob : Work.Alongside limit (fun r r' => Outturn.hushed (reads t) r = Outturn.hushed (reads t) r') job job') :
    Twinned limit reads (run t job w) (run t job' v) := by
  induction hjob generalizing w v with
  | done hr => exact h.conclude hr
  | @look next next' _ ih =>
    have hhome := h.left.home ht
    have hhome' : w.sessionOf t < v.sessions.length := by rwa [h.length]
    show Twinned limit reads (run t (next (w.site (w.sessionOf t))) w) (run t (next' (v.site (v.sessionOf t))) v)
    rw [h.sessionOf, h.site]
    exact ih _ _ hnow (h.left.boards _ hhome) (h.right.boards _ hhome') h ht hnow
  | @change y c next next' hy hc _ ih =>
    show Twinned limit reads (run t (next ()) (w.setSite (w.sessionOf t) y))
      (run t (next' ()) (v.setSite (v.sessionOf t) (y.withBoard c)))
    rw [h.sessionOf]
    exact ih (h.setSite hy hc) ht hnow
  | @other e next he hnext ih =>
    obtain ⟨hperformed, huptake⟩ := h.perform ht he
    have habides := retains_perform w t e
    rw [run, run]
    cases hw : w.perform t e with
    | mk w' uptake =>
      cases hv : v.perform t e with
      | mk v' uptake' =>
        rw [hw, hv] at hperformed huptake
        rw [hw] at habides
        cases huptake
        cases uptake with
        | reply r => exact ih r hperformed (habides.stage? ht) (habides.now.symm ▸ hnow)
        | wait alarm => exact hperformed.setStage (.waiting hnext)

theorem resume_idle (hfresh : ∀ job, w.stage? t ≠ some (.fresh job))
    (hwoken : ∀ e next r, w.stage? t ≠ some (.woken e next r)) : w.resume t = w := by
  unfold World.resume
  split
  next hstage => exact absurd hstage (hfresh _)
  next hstage => exact absurd hstage (hwoken _ _ _)
  next => rfl

/-- **It is the turn of the same task in both.** -/
theorem Twinned.resume (h : Twinned limit reads w v) (hnow : w.now ≤ limit) (t : Nat) :
    Twinned limit reads (w.resume t) (v.resume t) := by
  have hstages : ∀ {stage : Stage}, w.stage? t = some stage → stage.Heedless limit (reads t) := fun hstage => by
    obtain ⟨task, ht, rfl⟩ := Option.map_eq_some_iff.mp hstage
    exact h.left.stages t task ht
  have hfresh : ∀ job, v.stage? t = some (.fresh job) ↔ w.stage? t = some (.fresh job) :=
    fun job => h.stage? fun r hr => by cases hr
  have hwoken : ∀ e next r, v.stage? t = some (.woken e next r) ↔ w.stage? t = some (.woken e next r) :=
    fun e next r => h.stage? fun r hr => by cases hr
  by_cases hf : ∃ job, w.stage? t = some (.fresh job)
  · obtain ⟨job, hjob⟩ := hf
    have hthere : w.stage? t ≠ none := by rw [hjob]; exact Option.some_ne_none _
    rw [resume_fresh hjob, resume_fresh ((hfresh job).mpr hjob)]
    cases hstages hjob with
    | fresh goes => exact run_twinned h hthere hnow goes
  by_cases hw : ∃ e next r, w.stage? t = some (.woken e next r)
  · obtain ⟨e, next, r, hr⟩ := hw
    have habides := retains_settleAtGate w t e r
    have hthere : (w.settleAtGate t e r).stage? t ≠ none := habides.stage? (by rw [hr]; exact Option.some_ne_none _)
    rw [resume_woken hr, resume_woken ((hwoken e next r).mpr hr)]
    cases hstages hr with
    | woken goes => exact run_twinned (h.settleAtGate t e r) hthere (habides.now.symm ▸ hnow) (goes r)
  · have hidle : w.resume t = w :=
      resume_idle (fun job hjob => hf ⟨job, hjob⟩) fun e next r hr => hw ⟨e, next, r, hr⟩
    have hidle' : v.resume t = v := resume_idle (fun job hjob => hf ⟨job, (hfresh job).mp hjob⟩)
      fun e next r hr => hw ⟨e, next, r, (hwoken e next r).mp hr⟩
    rwa [hidle, hidle']

end World

end Cutover
