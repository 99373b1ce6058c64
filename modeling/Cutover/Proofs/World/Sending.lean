import Cutover.Proofs.World.Drafting

/-!
# What was set is what is sent

However setters, pushes to the service, work on the shards, resets and launches interleave in a session, a launch
sends the request that the draft of the session gives: what was set since the configuration was forgotten last, and
nothing else. The run that the launch begins, and the record that it stores, have as many shards as that request.

* `World.DraftMove`, `World.DraftHistory`: one thing that happens, with what is drafted, and one after the other;
* `World.Drafted`: what holds all through a history;
* `World.Abides`: what a launch does when it goes on;
* `World.sent_as_set`: **what was set is what is sent.**
-/

namespace Cutover

namespace World

variable {asked : Nat → Action} {n t : Nat} {w₀ w₁ w w' : World} {d₁ d d' : Draft} {task : Task} {o : Order}
  {gives gives' : Nat → Option Request} {r : Request}

/-! ## Histories -/

/-- **One thing that happens**, and what it does to the draft of a session: somebody calls for an action or
subscribes to the states of a run, a task goes on, a wait ends, a task is cancelled, or something changes that
neither sets nor forgets a configuration. Shards are handed over to the service by nothing but the configuration. -/
inductive DraftMove (asked : Nat → Action) (n : Nat) : World × Draft → World × Draft → Prop
  | call {w : World} {d : Draft} {m : Nat} {a : Action} (known : m < w.sessions.length)
    (isAsked : asked w.tasks.length = a) (proper : m = n → a.handsOver = false) :
    DraftMove asked n (w, d) ((w.spawn m (.ofOp a.op)).2, d)
  | subscribe {w : World} {d : Draft} {m : Nat} {b : Background} (known : m < w.sessions.length) :
    DraftMove asked n (w, d) ((w.fork m b).2, d)
  | resume (w : World) (d : Draft) (t : Nat) : DraftMove asked n (w, d) (w.resume t, w.drawnOf asked n t d)
  | ring (w : World) (d : Draft) (t : Nat) : DraftMove asked n (w, d) (w.ring t, d)
  | serve (w : World) (d : Draft) (t : Nat) : DraftMove asked n (w, d) (w.wakeAtStorage t, d)
  | cancel (w : World) (d : Draft) (t : Nat) : DraftMove asked n (w, d) (w.cancel t, d)
  | elsewhere {w w' : World} {d : Draft} (length : w.sessions.length ≤ w'.sessions.length)
    (fragments : (w'.session n).fragments = (w.session n).fragments)
    (forgets : (w.session n).Forgets → (w'.session n).Forgets) (tasks : w'.tasks = w.tasks) :
    DraftMove asked n (w, d) (w', d)

/-- One thing happens after the other. -/
abbrev DraftHistory (asked : Nat → Action) (n : Nat) : World × Draft → World × Draft → Prop :=
  Relation.ReflTransGen (DraftMove asked n)

/-- **All keeps to the draft**: the fragments of the session hold what was drafted, and its tasks may go on, those
that have sent a request for an order and those that have not. -/
structure Drafted (asked : Nat → Action) (n : Nat) (gives : Nat → Option Request) (w : World) (d : Draft) : Prop
    extends Sheet.Staffed asked n none gives w where
  fragments : d.Agrees (w.session n).fragments
  forgets : (w.session n).Forgets
  only : ∀ i r, gives i = some r → ∃ task : Task, w.tasks[i]? = some task

open Sheet

theorem drafted_of_start (known : n < w.sessions.length) (htasks : w.tasks = [])
    (hflags : (w.session n).fragments.flags = []) (hshards : (w.session n).fragments.shards = [])
    (hforgets : (w.session n).Forgets) : Drafted asked n (fun _ => none) w .blank := by
  refine ⟨⟨known, fun i task _ hi => ?_⟩, Draft.agrees_blank hflags hshards, hforgets, fun i r hr => by cases hr⟩
  rw [htasks] at hi
  cases hi

namespace Drafted

theorem spared (h : Drafted asked n gives w d) (hw : Spares asked n w w') : Drafted asked n gives w' d where
  toStaffed := h.toStaffed.spared hw
  fragments := hw.fragments.1 ▸ h.fragments
  forgets := h.forgets.of_hooks hw.fragments.2
  only i r hr := by
    obtain ⟨task, hi⟩ := h.only i r hr
    obtain ⟨task', hi', -⟩ := hw.onward i task hi
    exact ⟨task', hi'⟩

theorem call (h : Drafted asked n gives w d) {m : Nat} {a : Action} (hasked : asked w.tasks.length = a)
    (hproper : m = n → a.handsOver = false) : Drafted asked n gives (w.spawn m (.ofOp a.op)).2 d := by
  refine ⟨⟨h.known, fun i task _ hi hsession => ?_⟩, h.fragments, h.forgets, fun i r hr => ?_⟩
  · rcases spawn_before hi with hi | ⟨rfl, rfl⟩
    · exact h.stands i task (fun hout => by cases hout) hi hsession
    · have hnone : gives w.tasks.length = none := by
        cases hgives : gives w.tasks.length with
        | none => rfl
        | some r =>
          obtain ⟨task, hi⟩ := h.only _ r hgives
          exact absurd (List.getElem?_eq_some_iff.mp hi).1 (Nat.lt_irrefl _)
      rw [hnone]
      show Sheet.Stands (.action (asked w.tasks.length)) none (.fresh (.ofOp a.op))
      rw [hasked]
      exact stands_ofOp (hproper hsession)
  · obtain ⟨task, hi⟩ := h.only i r hr
    exact ⟨task, (spawn_other (List.getElem?_eq_some_iff.mp hi).1).trans hi⟩

/-- **A task of the session goes on.** -/
theorem goesOn (h : Drafted asked n gives w d) (ht : w.tasks[t]? = some task) (hsession : task.session = n) :
    ∃ given, Drafted asked n (Function.update gives t given) (w.resume t) (w.drawnOf asked n t d) ∧
      Left asked gives n t (task.errand asked t) (atHand gives n t w d) (w.resume t) (w.drawnOf asked n t d)
        (w.sendingsOf t) (w.changingsOf t) given := by
  obtain ⟨given, hleft⟩ := resume_left h.toStaffed h.fragments h.forgets ht hsession
  refine ⟨given, ⟨hleft.staffed, hleft.fragments, hleft.forgets, fun i r hr => ?_⟩, hleft⟩
  have hi : ∃ task : Task, w.tasks[i]? = some task := by
    by_cases hit : i = t
    · exact ⟨task, hit ▸ ht⟩
    · rw [Function.update_of_ne hit] at hr
      exact h.only i r hr
  obtain ⟨before, hi⟩ := hi
  obtain ⟨task', hi', -⟩ := resume_onward w t hi
  exact ⟨task', hi'⟩

/-- **A task goes on**, whose ever it is. -/
theorem resume (h : Drafted asked n gives w d) (t : Nat) :
    ∃ gives', Drafted asked n gives' (w.resume t) (w.drawnOf asked n t d) ∧
      ∀ i r, gives i = some r → gives' i = some r := by
  cases ht : w.tasks[t]? with
  | none =>
    have hdrawn : w.drawnOf asked n t d = d := by rw [drawnOf, ht]
    rw [resume_of_none ht, hdrawn]
    exact ⟨gives, h, fun _ _ hr => hr⟩
  | some task =>
    by_cases hsession : task.session = n
    · obtain ⟨given, hdrafted, hleft⟩ := h.goesOn ht hsession
      refine ⟨_, hdrafted, fun i r hr => ?_⟩
      by_cases hit : i = t
      · subst hit
        rw [Function.update_self]
        exact hleft.kept r hr
      · rw [Function.update_of_ne hit]
        exact hr
    · rw [drawnOf_other ht hsession]
      exact ⟨gives, h.spared (.of_bypasses (resume_bypasses ht hsession)), fun _ _ hr => hr⟩

end Drafted

/-- **Whatever happens keeps to the draft**, and a request that was given for an order stays so. -/
theorem DraftMove.drafted (h : DraftMove asked n (w, d) (w', d')) (hw : Drafted asked n gives w d) :
    ∃ gives', Drafted asked n gives' w' d' ∧ ∀ i r, gives i = some r → gives' i = some r := by
  have hstirred : Stirred (fun _ _ => True) True w w' →
      ∃ gives', Drafted asked n gives' w' d ∧ ∀ i r, gives i = some r → gives' i = some r :=
    fun h => ⟨gives, hw.spared (.of_stirred h), fun _ _ hr => hr⟩
  cases h with
  | call known isAsked proper => exact ⟨gives, hw.call isAsked proper, fun _ _ hr => hr⟩
  | subscribe known => exact ⟨gives, hw.spared (.of_astir (astir_fork ..)), fun _ _ hr => hr⟩
  | resume _ _ t => exact hw.resume t
  | ring _ _ t => exact hstirred (stirred_ring w t)
  | serve _ _ t => exact hstirred (stirred_wakeAtStorage w t)
  | cancel _ _ t => exact hstirred (stirred_cancelWithin trivial _ w t)
  | elsewhere length fragments forgets tasks =>
    refine ⟨gives, ⟨⟨Nat.lt_of_lt_of_le hw.known length, ?_⟩, ?_, forgets hw.forgets, ?_⟩, fun _ _ hr => hr⟩
    · rw [tasks]
      exact hw.stands
    · rw [fragments]
      exact hw.fragments
    · rw [tasks]
      exact hw.only

theorem DraftHistory.drafted {p p' : World × Draft} (h : DraftHistory asked n p p')
    (hw : Drafted asked n gives p.1 p.2) :
    ∃ gives', Drafted asked n gives' p'.1 p'.2 ∧ ∀ i r, gives i = some r → gives' i = some r := by
  induction h with
  | refl => exact ⟨gives, hw, fun _ _ hr => hr⟩
  | tail _ hmove ih =>
    obtain ⟨gives', hw', hkept⟩ := ih
    obtain ⟨gives'', hw'', hkept'⟩ := DraftMove.drafted hmove hw'
    exact ⟨gives'', hw'', fun i r hr => hkept' i r (hkept i r hr)⟩

/-! ## What a launch sends -/

/-- **What a launch does when it goes on**, once its request was sent: all that it enters of the run is as the request
says, and when it ends normally it has stored a record with as many shards. -/
structure Abides (n t : Nat) (r : Request) (w : World) : Prop where
  enters : ∀ v y, (v, y) ∈ w.changingsOf t → (v.site n).Enters (some r) y
  stores : ∀ result, w.verdict? t = none → (w.resume t).verdict? t = some (.ok result) →
    ∃ v y, (v, y) ∈ w.changingsOf t ∧ (v.site n).Stores (some r) y

/-- **A task is to launch a run of a session for an order.** -/
structure Orders (asked : Nat → Action) (n t : Nat) (o : Order) (w : World) : Prop where
  isAsked : asked t = .whole (.launch o)
  task : ∃ task : Task, w.tasks[t]? = some task ∧ task.session = n ∧ task.loop = none

namespace Orders

theorem move (h : Orders asked n t o w) (hmove : DraftMove asked n (w, d) (w', d')) : Orders asked n t o w' where
  isAsked := h.isAsked
  task := by
    obtain ⟨task, ht, hsession, hloop⟩ := h.task
    have hspared : Spares asked n w w' → ∃ task : Task, w'.tasks[t]? = some task ∧ task.session = n ∧ task.loop = none :=
      fun hspares => by
        obtain ⟨task', ht', hsession', hloop'⟩ := hspares.onward t task ht
        exact ⟨task', ht', hsession'.trans hsession, hloop'.trans hloop⟩
    have hstirred : Stirred (fun _ _ => True) True w w' → ∃ task : Task, w'.tasks[t]? = some task ∧
        task.session = n ∧ task.loop = none := fun hstirred => hspared (.of_stirred hstirred)
    cases hmove with
    | call known isAsked proper =>
      exact ⟨task, (spawn_other (List.getElem?_eq_some_iff.mp ht).1).trans ht, hsession, hloop⟩
    | subscribe known => exact hspared (.of_astir (astir_fork ..))
    | resume _ _ i =>
      obtain ⟨task', ht', hsession', hloop'⟩ := resume_onward w i ht
      exact ⟨task', ht', hsession'.trans hsession, hloop'.trans hloop⟩
    | ring _ _ i => exact hstirred (stirred_ring w i)
    | serve _ _ i => exact hstirred (stirred_wakeAtStorage w i)
    | cancel _ _ i => exact hstirred (stirred_cancelWithin trivial _ w i)
    | elsewhere length fragments forgets tasks => exact ⟨task, tasks ▸ ht, hsession, hloop⟩

theorem history {p p' : World × Draft} (h : Orders asked n t o p.1) (hhistory : DraftHistory asked n p p') :
    Orders asked n t o p'.1 := by
  induction hhistory with
  | refl => exact h
  | tail _ hmove ih => exact ih.move hmove

end Orders

/-- **A launch that has sent its request abides by it.** -/
theorem abides_of_left {s : Sheet} (hleft : Left asked gives n t (.action (.whole (.launch o))) s (w.resume t) d
    (w.sendingsOf t) (w.changingsOf t) (some r)) (hstored : s.stored → w.verdict? t ≠ none) : Abides n t r w where
  enters v y hmem := hleft.enters v y hmem rfl
  stores result hlive hended := (hleft.stores o result rfl hended).resolve_left fun hs => hstored hs hlive

/-- **What was set is what is sent.** After any history of a session of which nothing was set, a launch sends the
request that the draft of the session gives: each setting of the body is what was drafted, or its default. From then
on, whatever happens, all that the launch enters of the run is as that request says, and if it ends normally it has
stored a record with as many shards. -/
theorem sent_as_set (known : n < w₀.sessions.length) (htasks : w₀.tasks = [])
    (hflags : (w₀.session n).fragments.flags = []) (hshards : (w₀.session n).fragments.shards = [])
    (hforgets : (w₀.session n).Forgets) (h : DraftHistory asked n (w₀, .blank) (w₁, d₁))
    (horders : Orders asked n t o w₁) {v : World} {m : Message} (hsends : (v, m) ∈ w₁.sendingsOf t)
    (hlaunch : m.isLaunch = true) :
    m.method = "POST" ∧ m.route = "/Migrate" ∧ m.body = some (d₁.body (v.session n).summary o) ∧
      ∃ r : Request, m = (Call.submit r).message ∧ d₁.Gives (v.session n).summary o r ∧ Abides n t r w₁ ∧
        ∀ w₂ d₂, DraftHistory asked n (w₁.resume t, w₁.drawnOf asked n t d₁) (w₂, d₂) → Abides n t r w₂ := by
  have herrand : ∀ {task : Task}, task.loop = none → task.errand asked t = .action (.whole (.launch o)) :=
    fun hloop => by rw [Task.errand, hloop, horders.isAsked]
  obtain ⟨gives, hdrafted, -⟩ := DraftHistory.drafted h (drafted_of_start known htasks hflags hshards hforgets)
  obtain ⟨task, ht, hsession, hloop⟩ := horders.task
  obtain ⟨given, hafter, hleft⟩ := hdrafted.goesOn ht hsession
  rw [herrand hloop] at hleft
  obtain ⟨r, rfl, hm, hgives⟩ := hleft.sends v m o hsends hlaunch rfl
  have hbody : m.body = some (d₁.body (v.session n).summary o) := by
    rw [hm]
    exact congrArg some hgives.payload
  refine ⟨congrArg Message.method hm, congrArg Message.route hm, hbody, r, hm, hgives,
    abides_of_left hleft (fun hs => hs), fun w₂ d₂ hlater => ?_⟩
  obtain ⟨gives', hdrafted', hkept⟩ := DraftHistory.drafted hlater hafter
  have horders' : Orders asked n t o w₂ := (horders.move (.resume w₁ d₁ t)).history hlater
  obtain ⟨task', ht', hsession', hloop'⟩ := horders'.task
  obtain ⟨given', -, hleft'⟩ := hdrafted'.goesOn ht' hsession'
  rw [herrand hloop'] at hleft'
  obtain rfl : given' = some r := hleft'.kept r (hkept t r (Function.update_self ..))
  exact abides_of_left hleft' fun hs => hs

/-! ## A sharded run -/

/-- The next call is made, and goes on at once. -/
def attend (asked : Nat → Action) (n : Nat) (p : World × Draft) : World × Draft :=
  let w := (p.1.spawn n (.ofOp (asked p.1.tasks.length).op)).2
  (w.resume p.1.tasks.length, w.drawnOf asked n p.1.tasks.length p.2)

theorem attended {p : World × Draft} (hproper : ∀ i, (asked i).handsOver = false) (known : n < p.1.sessions.length) :
    DraftHistory asked n p (attend asked n p) :=
  (Relation.ReflTransGen.single (.call known rfl fun _ => hproper _)).tail (.resume _ _ _)

/-- A shard of some source. -/
def oneShard (id : String) : Shard where
  id := .text id
  engine := .text "mysql"
  host := .text "h"
  port := .text "3306"
  user := .text "u"

/-- A sharded run of the data. -/
def shardedOrder : Order where
  mode := .dataOnly
  transfer := .bulk
  isSharded := some (.bool true)

/-- What is asked of a session: to set a target, to collect two shards, to hand them over, and to launch a run. -/
def shardedCalls : Nat → Action
  | 0 => .configure (.target { database := .text "a" } .bulk)
  | 1 => .configure (.addShard (oneShard "s1"))
  | 2 => .configure (.addShard (oneShard "s2"))
  | 3 => .configure .finalize
  | _ => .whole (.launch shardedOrder)

/-- A session of which nothing is set. -/
def unset : World where
  sessions := [{ hooks := [.polling, .configuration] }]

/-- The session once its configuration is set. -/
def configured : World × Draft :=
  attend shardedCalls 0 (attend shardedCalls 0 (attend shardedCalls 0 (attend shardedCalls 0 (unset, .blank))))

/-- The run is to be launched. -/
def ordered : World := (configured.1.spawn 0 (.ofOp (shardedCalls 4).op)).2

/-- The target that was set is in the body of the call, and the two shards that were handed over are those of the
run. -/
theorem sharded_as_set : ∃ (r : Request) (v : World) (m : Message), (v, m) ∈ ordered.sendingsOf 4 ∧
    m.body = some (configured.2.body (v.session 0).summary shardedOrder) ∧
    configured.2.toldOrEmpty .target Target.database = .text "a" ∧ m = (Call.submit r).message ∧
    r.shards = [oneShard "s1", oneShard "s2"] ∧ Abides 0 4 r ordered := by
  have hproper : ∀ i, (shardedCalls i).handsOver = false := by
    rintro (_ | _ | _ | _ | _) <;> rfl
  have hconfigured : DraftHistory shardedCalls 0 (unset, .blank) configured :=
    (((attended hproper (by decide +kernel)).trans (attended hproper (by decide +kernel))).trans
      (attended hproper (by decide +kernel))).trans (attended hproper (by decide +kernel))
  have hcount : configured.1.tasks.length = 4 := by decide +kernel
  have hordered : DraftHistory shardedCalls 0 (unset, .blank) (ordered, configured.2) :=
    hconfigured.tail (.call (by decide +kernel) (congrArg shardedCalls hcount) fun _ => rfl)
  have htask : ordered.tasks[4]? = some { session := 0, stage := .fresh (.ofOp (shardedCalls 4).op) } := by
    rw [← hcount]
    exact List.getElem?_concat_length
  have hsends : ((ordered.sendingsOf 4).any fun p => p.2.isLaunch) = true := by decide +kernel
  obtain ⟨⟨v, m⟩, hmem, hlaunch⟩ := List.any_eq_true.mp hsends
  obtain ⟨-, -, hbody, r, hm, hgives, habides, -⟩ := sent_as_set (n := 0) (t := 4) (o := shardedOrder) (by decide) rfl rfl rfl
    ⟨[.polling], [], rfl, by simp [StopHook.fails]⟩ hordered ⟨rfl, _, htask, rfl, rfl⟩ hmem hlaunch
  have htruthy : r.isSharded.isTruthy = true := by rw [hgives.isSharded]; rfl
  have hdraft : configured.2 .shards = some [oneShard "s1", oneShard "s2"] := by decide +kernel
  have htarget : configured.2.toldOrEmpty .target Target.database = .text "a" := by decide +kernel
  exact ⟨r, v, m, hmem, hbody, htarget, hm, Option.some.inj ((hgives.sharded htruthy).1.symm.trans hdraft), habides⟩

end World

end Cutover
