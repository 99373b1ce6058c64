import Cutover.Proofs.Control.Ordering
import Cutover.Proofs.World.Desk
import Cutover.Proofs.World.Streaming

/-!
# The draft of a session in the world

What tasks do to the fragments of a session is told by its draft, whoever of them goes on, and whatever others do.

* `World.changings`: what a task changes while it works, and the world in which it does;
* `World.drawn`, `World.drawnOf`: what is drafted once a task has gone on;
* `Sheet.Stands`, `Sheet.Staffed`: **every task of the session may go on**;
* `Sheet.Spares`: nothing was done to the fragments of the session, as most effects do;
* `Sheet.run_leaves`, `Sheet.resume_left`: **a task that goes on keeps to the draft**.
-/

namespace Cutover

/-- What a task is there for. -/
def Task.errand (asked : Nat → Action) (i : Nat) (task : Task) : Errand :=
  match task.loop with
  | some b => .background b
  | none => .action (asked i)

/-- What is drafted at the end of a stretch of work. -/
def Draft.ending (d : Draft) : Errand → Except Exit Outturn → Draft
  | .action a, .ok (.result r) => d.after a r
  | _, _ => d

theorem Draft.ending_error {d : Draft} {g : Errand} {e : Exit} : d.ending g (.error e) = d := by cases g <;> rfl

namespace World

/-- What an effect changes. -/
def changing (w : World) : Effect → List (World × Site)
  | .change y => [(w, y)]
  | _ => []

/-- **What a task changes while it works**, each change with the world in which it is made. -/
def changings (t : Nat) : Job → World → List (World × Site)
  | .done _, _ => []
  | .ask e next, w => w.changing e ++
    match w.perform t e with
    | (w', .reply r) => changings t (next r) w'
    | (_, .wait _) => []

/-- What a task changes when it goes on. -/
def changingsOf (w : World) (t : Nat) : List (World × Site) :=
  match (w.tasks[t]?).map Task.stage with
  | some (.fresh job) => changings t job w
  | some (.woken e next reply) => changings t (next reply) (w.settleAtGate t e reply)
  | _ => []

/-- **What is drafted of a session once a task has worked** for it. -/
def drawn (n t : Nat) (g : Errand) : Job → World → Draft → Draft
  | .done r, _, d => d.ending g r
  | .ask e next, w, d =>
    match w.perform t e with
    | (w', .reply r) => drawn n t g (next r) w' (d.seeing g (w.site n) e r)
    | (_, .wait _) => d

/-- What is drafted of a session once a task has gone on. Only its own tasks draft something. -/
def drawnOf (w : World) (asked : Nat → Action) (n t : Nat) (d : Draft) : Draft :=
  match w.tasks[t]? with
  | some task =>
    if task.session = n then
      match task.stage with
      | .fresh job => drawn n t (task.errand asked t) job w d
      | .woken e next reply =>
        drawn n t (task.errand asked t) (next reply) (w.settleAtGate t e reply)
          (d.seeing (task.errand asked t) (w.site n) e reply)
      | _ => d
    else d
  | none => d

end World

namespace Sheet

open World

variable {w w' w'' : World} {n m i t : Nat} {task : Task} {g : Errand} {given given' : Option Request} {d : Draft}
  {stage stage' : Stage} {asked : Nat → Action} {out : Option Nat} {gives : Nat → Option Request} {s : Sheet}

/-! ## Tasks that may go on -/

/-- What a stretch of work leaves at its end. -/
structure Shuts (g : Errand) (r : Except Exit Outturn) (s : Sheet) : Prop where
  holds : Holds s.given { s with draft := s.draft.ending g r }
  stored : ∀ o, g.order? = some o → ∀ out, r = .ok out → s.stored

/-- The rest of the work of a task keeps to the draft. -/
abbrev Goes (g : Errand) (job : Job) (s : Sheet) : Prop := job.Meets (drafting g) (Shuts g) s

/-- Work may go on after a wait. -/
def GoesOn (g : Errand) (given : Option Request) (e : Effect) (next : e.Reply → Job) : Prop :=
  ∀ (r : e.Reply) (s : Sheet) (d : Draft) (x : Site), Holds given { s with draft := d } →
    s.draft = d.seeing g x e r → Goes g (next r) s

/-- **A task that may go on**, and has sent a request for its order or none. -/
inductive Stands (g : Errand) : Option Request → Stage → Prop
  | fresh {given : Option Request} {job : Job}
    (goes : ∀ s : Sheet, s.Holds given → s.before = s.draft → Goes g job s) : Stands g given (.fresh job)
  | waiting {given : Option Request} {e : Effect} {next : e.Reply → Job} {alarm : Option (Alarm e.Reply)}
    (goes : GoesOn g given e next) : Stands g given (.waiting e next alarm)
  | woken {given : Option Request} {e : Effect} {next : e.Reply → Job} {r : e.Reply}
    (goes : GoesOn g given e next) : Stands g given (.woken e next r)
  | ended {given : Option Request} {r : Except Exit Result} : Stands g given (.ended r)

theorem Stands.turned {tells : Nat → Except Exit Result → Prop} {breaks : Prop} (h : Stands g given stage)
    (hturned : Relation.ReflTransGen (Stage.Turned tells breaks) stage stage') : Stands g given stage' := by
  refine Stage.Turned.carries hturned (fun job hs => ?_) (fun e next r r' hs => ?_) (fun e next alarm r hs => ?_) h
  · cases hs with
    | fresh => exact .fresh fun s hs _ => ⟨Draft.ending_error ▸ hs.self, (fun o ho out hr => by cases hr)⟩
  · cases hs with
    | woken goes => exact .woken goes
  · cases hs with
    | waiting goes => exact .woken goes

theorem stands_ofOp {a : Action} (ha : a.handsOver = false) : Stands (.action a) none (.fresh (.ofOp a.op)) :=
  .fresh fun s hs hbefore => Op.meets_map.mpr ((closes_action a ha hs hbefore).mono fun r s' hr => by
    refine ⟨?_, fun o ho out hout => ?_⟩
    · cases r with
      | error e => exact hr.fails e rfl
      | ok result => exact hr.ends result rfl
    · cases r with
      | error e => cases hout
      | ok result => exact hr.stored o ho result rfl)

theorem stands_ofRound (b : Background) : Stands (.background b) given (.fresh (.ofRound b.begin)) ∧
    Stands (.background b) given (.fresh (.ofRound b.round)) := by
  have hround : ∀ {op : Op Bool}, op.Upholding (drafting (.background b)) (Holds given) →
      Stands (.background b) given (.fresh (.ofRound op)) := fun hop =>
    .fresh fun s hs _ => Op.meets_map.mpr ((hop s hs).mono fun r s' hr => by
      refine ⟨hr.1.self, fun o ho => ?_⟩
      cases ho)
  exact ⟨hround (keeps_background b).1, hround (keeps_background b).2⟩

/-- **Every task of a session may go on.** Of the task that works its stage says nothing. -/
structure Staffed (asked : Nat → Action) (n : Nat) (out : Option Nat) (gives : Nat → Option Request) (w : World) :
    Prop where
  known : n < w.sessions.length
  stands : ∀ (i : Nat) (task : Task), out ≠ some i → w.tasks[i]? = some task → task.session = n →
    Stands (task.errand asked i) (gives i) task.stage

/-- **Nothing was done to the fragments of a session**, and its tasks may go on as they might. -/
structure Spares (asked : Nat → Action) (n : Nat) (w w' : World) : Prop where
  length : w'.sessions.length = w.sessions.length
  session : ∃ stateGate fetchGate latch streams, w'.session n = { w.session n with stateGate, fetchGate, latch, streams }
  onward : ∀ (i : Nat) (task : Task), w.tasks[i]? = some task →
    ∃ task' : Task, w'.tasks[i]? = some task' ∧ task'.session = task.session ∧ task'.loop = task.loop
  back : ∀ (i : Nat) (task' : Task), w'.tasks[i]? = some task' → task'.session = n →
    (∃ task : Task, w.tasks[i]? = some task ∧ task.session = n ∧ task'.loop = task.loop ∧
      ∀ g given, Stands g given task.stage → Stands g given task'.stage) ∨
    ∀ given, Stands (task'.errand asked i) given task'.stage

namespace Spares

theorem fragments (h : Spares asked n w w') : (w'.session n).fragments = (w.session n).fragments ∧
    (w'.session n).hooks = (w.session n).hooks := by
  obtain ⟨_, _, _, _, hn⟩ := h.session
  rw [hn]
  exact ⟨rfl, rfl⟩

theorem of_bypasses (h : Bypasses n w w') : Spares asked n w w' where
  length := h.length
  session := h.session
  onward := h.onward
  back i task' hi' hsession := by
    rcases h.back i task' hi' hsession with ⟨task, hi, hn, hloop, hturned⟩ | ⟨b, hb, hturned⟩
    · exact .inl ⟨task, hi, hn, hloop, fun g given hstands => hstands.turned hturned⟩
    · refine .inr fun given => ?_
      rw [Task.errand, hb]
      exact (stands_ofRound b).1.turned hturned

theorem of_astir (h : Astir m w w') : Spares asked n w w' := of_bypasses (.of_astir h)

theorem of_stirred (h : Stirred (fun _ _ => True) True w w') : Spares asked n w w' := of_bypasses (.of_stirred h)

end Spares

theorem Staffed.spared (h : Staffed asked n out gives w) (hw : Spares asked n w w') :
    Staffed asked n out gives w' where
  known := hw.length ▸ h.known
  stands i task' hout hi' hsession := by
    rcases hw.back i task' hi' hsession with ⟨task, hi, hn, hloop, hstands⟩ | hnew
    · have herrand : task'.errand asked i = task.errand asked i := by rw [Task.errand, hloop]; rfl
      rw [herrand]
      exact hstands _ _ (h.stands i task hout hi hn)
    · exact hnew _

/-! ## A task works -/

theorem Staffed.working (h : Staffed asked n none gives w) : Staffed asked n (some t) gives w :=
  { h with stands := fun i task _ => h.stands i task (fun h => by cases h) }

theorem Staffed.settled (h : Staffed asked n (some t) gives w) (ht : w.tasks[t]? = some task)
    (hstands : Stands (task.errand asked t) given stage) :
    Staffed asked n none (Function.update gives t given) (w.setStage t stage) where
  known := h.known
  stands i task' _ hi' hsession := by
    rcases setStage_cases hi' with ⟨rfl, before, hi, rfl⟩ | ⟨hne, hi⟩
    · cases ht.symm.trans hi
      rw [Function.update_self]
      exact hstands
    · rw [Function.update_of_ne (Ne.symm hne)]
      exact h.stands i task' (fun hout => hne (Option.some.inj hout)) hi hsession

/-- **A task of the session works**, and sees its fragments as they are. -/
structure Works (asked : Nat → Action) (gives : Nat → Option Request) (n t : Nat) (g : Errand) (w : World) (s : Sheet) :
    Prop extends Staffed asked n (some t) gives w where
  task : ∃ task : Task, w.tasks[t]? = some task ∧ task.session = n ∧ task.errand asked t = g
  site : s.site = w.site n

namespace Works

theorem sessionOf (h : Works asked gives n t g w s) : w.sessionOf t = n := by
  obtain ⟨task, ht, hsession, -⟩ := h.task
  simp only [World.sessionOf, ht, hsession]

theorem session (h : Works asked gives n t g w s) : s.site.session = w.session n := congrArg Site.session h.site

theorem changed (h : Works asked gives n t g w s) (y : Site) :
    Works asked gives n t g (w.setSite n y) (s.after g y) where
  known := by
    rw [World.setSite, List.length_set]
    exact h.known
  stands := h.stands
  task := h.task
  site := by
    rw [site_setSite h.known, after, h.site]
    rfl

theorem spared (h : Works asked gives n t g w s) (hw : Spares asked n w w') {s' : Sheet} (hsite : s'.site = w'.site n) :
    Works asked gives n t g w' s' where
  toStaffed := h.toStaffed.spared hw
  task := by
    obtain ⟨task, ht, hsession, herrand⟩ := h.task
    obtain ⟨task', ht', hsession', hloop⟩ := hw.onward t task ht
    refine ⟨task', ht', hsession'.trans hsession, ?_⟩
    rw [← herrand, Task.errand, hloop]
    rfl
  site := hsite

end Works

/-- **What a task leaves that went on**: every task may go on, and the fragments hold what is drafted. A request that
was sent for an order is the one that the draft gave when the task went on; all that is entered of the run is as the
request says; and if the task has ended normally its record was stored. -/
structure Left (asked : Nat → Action) (gives : Nat → Option Request) (n t : Nat) (g : Errand) (s : Sheet) (w : World)
    (d : Draft) (sent : List (World × Message)) (changed : List (World × Site)) (given : Option Request) : Prop where
  staffed : Staffed asked n none (Function.update gives t given) w
  fragments : d.Agrees (w.session n).fragments
  forgets : (w.session n).Forgets
  kept : ∀ r, s.given = some r → given = some r
  sends : ∀ v m o, (v, m) ∈ sent → m.isLaunch = true → g.order? = some o →
    ∃ r, given = some r ∧ m = (Call.submit r).message ∧ s.before.Gives (v.session n).summary o r
  enters : ∀ v y, (v, y) ∈ changed → g.order?.isSome = true → (v.site n).Enters given y
  stores : ∀ o result, g.order? = some o → w.verdict? t = some (.ok result) →
    s.stored ∨ ∃ v y, (v, y) ∈ changed ∧ (v.site n).Stores given y

/-- What a task leaves that works. -/
abbrev Leaves (asked : Nat → Action) (gives : Nat → Option Request) (n t : Nat) (g : Errand) (s : Sheet) (job : Job)
    (w : World) (given : Option Request) : Prop :=
  Left asked gives n t g s (run t job w) (drawn n t g job w s.draft) (sendings t job w) (changings t job w) given

/-! ## The end of a stretch of work -/

/-- **A task comes to the end of a stretch of work.** -/
theorem leaves_conclude {r : Except Exit Outturn} (h : Works asked gives n t g w s) (hshuts : Shuts g r s) :
    Leaves asked gives n t g s (.done r) w s.given := by
  obtain ⟨task, ht, hsession, herrand⟩ := h.task
  -- Whatever stage the task comes to, others are only spared.
  have hleft : ∀ stage : Stage, Stands g s.given stage →
      Spares asked n (w.setStage t stage) (w.conclude t r) →
      (∀ o result, g.order? = some o → (w.conclude t r).verdict? t = some (.ok result) → ∃ out, r = .ok out) →
      Leaves asked gives n t g s (.done r) w s.given := by
    intro stage hstands hspares hends
    have hstaffed := h.toStaffed.settled ht (herrand.symm ▸ hstands)
    obtain ⟨hfragments, hhooks⟩ := hspares.fragments
    refine ⟨hstaffed.spared hspares, ?_, ?_, fun _ hr => hr, (fun v m o hmem => by cases hmem),
      (fun v y hmem => by cases hmem), fun o result ho hverdict => ?_⟩
    · show (s.draft.ending g r).Agrees ((w.conclude t r).session n).fragments
      rw [hfragments, show ((w.setStage t stage).session n).fragments = s.site.session.fragments from
        (congrArg Session.fragments h.session).symm]
      exact hshuts.holds.fragments
    · refine hshuts.holds.forgets.of_hooks (hhooks.trans ?_)
      exact (congrArg Session.hooks h.session).symm
    · obtain ⟨out, hout⟩ := hends o result ho hverdict
      exact .inl (hshuts.stored o ho out hout)
  have hfinish : ∀ result : Except Exit Result, w.conclude t r = w.finish t result →
      (∀ x, result = .ok x → ∃ out, r = .ok out) → Leaves asked gives n t g s (.done r) w s.given := by
    intro result heq hout
    refine hleft (.ended result) .ended (heq ▸ .of_stirred (stirred_finish w t result)) fun o x ho hverdict => hout x ?_
    rw [heq, verdict?_finish ht] at hverdict
    exact Option.some.inj hverdict
  cases hr : r with
  | error e => exact hr ▸ hfinish (.error e) (by rw [hr]; rfl) fun x hx => by cases hx
  | ok out =>
    cases out with
    | result x => exact hr ▸ hfinish (.ok x) (by rw [hr]; rfl) fun _ _ => ⟨_, hr⟩
    | again =>
      cases hloop : task.loop with
      | none =>
        refine hr ▸ hfinish (.ok .nothing) ?_ fun _ _ => ⟨_, hr⟩
        rw [hr, conclude, ht]
        simp only [Option.bind_some, hloop]
      | some b =>
        have hg : g = .background b := by rw [← herrand, Task.errand, hloop]
        have heq : w.conclude t r = { w.setStage t (.fresh (.ofRound b.round)) with
            ready := ⟨t, 0⟩ :: (w.setStage t (.fresh (.ofRound b.round))).ready } := by
          rw [hr, conclude, ht]
          simp only [Option.bind_some, hloop]
        rw [← hr]
        refine hleft (.fresh (.ofRound b.round)) (hg ▸ (stands_ofRound b).2) ?_ fun o result ho => ?_
        · rw [heq]
          exact .of_bypasses (.of_tasks rfl rfl rfl)
        · rw [hg] at ho
          cases ho

/-! ## What a task does next -/

/-- What is given once an effect is asked for: a request that is sent for an order, or what was given before. -/
structure Grants (g : Errand) (e : Effect) (s : Sheet) (given : Option Request) : Prop where
  kept : ∀ r, s.given = some r → given = some r
  sends : ∀ m o, e = .send m → m.isLaunch = true → g.order? = some o →
    s.before = s.draft ∧ ∃ r, given = some r ∧ s.Bids o m r
  same : (∀ m o, e = .send m → m.isLaunch = true → g.order? ≠ some o) → given = s.given

theorem exists_grants {e : Effect} (h : (drafting g).allows s e) : ∃ given, Grants g e s given := by
  by_cases hsends : ∃ m o, e = .send m ∧ m.isLaunch = true ∧ g.order? = some o
  · obtain ⟨m, o, rfl, hlaunch, ho⟩ := hsends
    obtain ⟨hnone, hbefore, r, hbids⟩ := h.2.2 hlaunch o ho
    refine ⟨some r, fun r' hr' => ?_, fun m' o' hm ho' hg => ?_, fun hnot => absurd ho (hnot m o rfl hlaunch)⟩
    · cases hnone.symm.trans hr'
    · cases hm
      cases ho.symm.trans hg
      exact ⟨hbefore, r, rfl, hbids⟩
  · exact ⟨s.given, fun _ hr => hr, fun m o hm hlaunch ho => absurd ⟨m, o, hm, hlaunch, ho⟩ hsends, fun _ => rfl⟩

theorem holds_of_wait {e : Effect} (hwait : e.isWait = true) (h : (drafting g).allows s e) : s.Holds s.given := by
  cases e with
  | send m => exact h.1
  | look => cases hwait
  | change y => cases hwait
  | _ => exact h hwait

/-- What comes of an effect that is neither a look nor a change, in whatever world others leave behind. -/
theorem leads_of_grants {e : Effect} {r : e.Reply} {x : Site} (hgrants : Grants g e s given)
    (hgiven : s'.given = given) (hdraft : s'.draft = d.seeing g x e r)
    (hquiet : e.isWait = false → s.Quiet s') (hholds : e.isWait = true → Holds given { s' with draft := d }) :
    Leads g s e r s' where
  quiet := hquiet
  waited hwait := ⟨d, x, hgiven.symm ▸ hholds hwait, hdraft⟩
  bids m o hm hlaunch ho := by
    obtain ⟨-, r, hr, hbids⟩ := hgrants.sends m o hm hlaunch ho
    exact ⟨r, hgiven.trans hr, hbids⟩
  same hnot := hgiven.trans (hgrants.same hnot)

/-- **Who works may begin to wait**. -/
theorem stands_of_waits {e : Effect} {next : e.Reply → Job} {alarm : Option (Alarm e.Reply)}
    (hgrants : Grants g e s given) (hwait : e.isWait = true) (hgoes : Goes g (.ask e next) s) :
    Stands g given (.waiting e next alarm) := by
  refine .waiting fun r s' d x hd hdraft => hgoes.2 r s' ?_
  have hleads : Leads g s e r s' := leads_of_grants hgrants hd.given hdraft
    (fun hnot => by cases hwait.symm.trans hnot) fun _ => hd
  cases e with
  | look => cases hwait
  | change y => cases hwait
  | _ => exact hleads

/-- **What is left of a task that goes on working** after an effect. -/
theorem leaves_ask {e : Effect} {next : e.Reply → Job} {r : e.Reply} (h : Leaves asked gives n t g s' (next r) w' given)
    (hperform : w.perform t e = (w', .reply r)) (hbefore : s'.before = s.before) (hdraft : s'.draft = s.draft.seeing g (w.site n) e r)
    (hkept : ∀ r, s.given = some r → s'.given = some r)
    (hstored : s'.stored → s.stored ∨ ∃ y, e = .change y ∧ (w.site n).Stores s.given y)
    (hsends : ∀ m o, e = .send m → m.isLaunch = true → g.order? = some o →
      s.before = s.draft ∧ ∃ r, s'.given = some r ∧ m = (Call.submit r).message ∧
        s.draft.Gives (w.session n).summary o r)
    (henters : ∀ y, e = .change y → g.order?.isSome = true → (w.site n).Enters s.given y) :
    Leaves asked gives n t g s (.ask e next) w given := by
  have hkept' : ∀ r, s.given = some r → given = some r := fun r hr => h.kept r (hkept r hr)
  have hrun : run t (.ask e next) w = run t (next r) w' := by rw [run, hperform]
  have hdrawn : drawn n t g (.ask e next) w s.draft = drawn n t g (next r) w' s'.draft := by
    rw [drawn, hperform, hdraft]
  have hsendings : sendings t (.ask e next) w = w.sending e ++ sendings t (next r) w' := by rw [sendings, hperform]
  have hchangings : changings t (.ask e next) w = w.changing e ++ changings t (next r) w' := by
    rw [changings, hperform]
  refine ⟨hrun ▸ h.staffed, ?_, hrun ▸ h.forgets, hkept', fun v m o hmem hlaunch ho => ?_,
    fun v y hmem ho => ?_, fun o result ho hverdict => ?_⟩
  · rw [hrun, hdrawn]
    exact h.fragments
  · rw [hsendings] at hmem
    rcases List.mem_append.mp hmem with hmem | hmem
    · cases e with
      | send m' =>
        cases List.mem_singleton.mp hmem
        obtain ⟨hsame, r, hr, hm, hgives⟩ := hsends m o rfl hlaunch ho
        exact ⟨r, h.kept r hr, hm, hsame ▸ hgives⟩
      | _ => cases hmem
    · exact hbefore ▸ h.sends v m o hmem hlaunch ho
  · rw [hchangings] at hmem
    rcases List.mem_append.mp hmem with hmem | hmem
    · cases e with
      | change y' =>
        cases List.mem_singleton.mp hmem
        exact (henters y rfl ho).mono hkept'
      | _ => cases hmem
    · exact h.enters v y hmem ho
  · rw [hrun] at hverdict
    rw [hchangings]
    rcases h.stores o result ho hverdict with hnow | ⟨v, y, hmem, hlater⟩
    · refine (hstored hnow).imp_right ?_
      rintro ⟨y, rfl, hstores⟩
      exact ⟨w, y, List.mem_append_left _ (List.mem_singleton.mpr rfl), hstores.mono hkept'⟩
    · exact .inr ⟨v, y, List.mem_append_right _ hmem, hlater⟩

/-- **What is left of a task that begins to wait.** -/
theorem leaves_wait {e : Effect} {next : e.Reply → Job} {alarm : Option (Alarm e.Reply)}
    (h : Works asked gives n t g w s) (hgoes : Goes g (.ask e next) s) (hgrants : Grants g e s given)
    (hperform : w.perform t e = (w', .wait alarm)) (hspares : Spares asked n w w') :
    Leaves asked gives n t g s (.ask e next) w given := by
  have hwait := isWait_of_perform hperform
  have hholds := holds_of_wait hwait hgoes.1
  obtain ⟨hfragments, hhooks⟩ := hspares.fragments
  have hworks : Works asked gives n t g w' { s with site := w'.site n } := h.spared hspares rfl
  obtain ⟨task, ht, -, herrand⟩ := hworks.task
  have hrun : run t (.ask e next) w = w'.setStage t (.waiting e next alarm) := by rw [run, hperform]
  have hsendings : sendings t (.ask e next) w = w.sending e := by rw [sendings, hperform, List.append_nil]
  have hchangings : changings t (.ask e next) w = [] := by
    rw [changings, hperform, List.append_nil]
    cases e with
    | change y => cases hwait
    | _ => rfl
  refine ⟨?_, ?_, ?_, hgrants.kept, fun v m o hmem hlaunch ho => ?_, fun v y hmem => ?_, fun o result _ hverdict => ?_⟩
  · rw [hrun]
    exact hworks.toStaffed.settled ht (herrand.symm ▸ stands_of_waits hgrants hwait hgoes)
  · rw [hrun, drawn, hperform]
    show s.draft.Agrees (w'.session n).fragments
    rw [hfragments, ← h.session]
    exact hholds.fragments
  · rw [hrun]
    refine hholds.forgets.of_hooks (hhooks.trans ?_)
    rw [h.session]
  · rw [hsendings] at hmem
    cases e with
    | send m' =>
      cases List.mem_singleton.mp hmem
      obtain ⟨hbefore, r, hr, hm, hgives⟩ := hgrants.sends m o rfl hlaunch ho
      exact ⟨r, hr, hm, by rw [hbefore, ← h.session]; exact hgives⟩
    | _ => cases hmem
  · rw [hchangings] at hmem
    cases hmem
  · rw [hrun, verdict?, stage?_setStage_self ht] at hverdict
    cases hverdict

/-- **A task that works keeps to the draft.** -/
theorem run_leaves {job : Job} (h : Works asked gives n t g w s) (hgoes : Goes g job s) :
    ∃ given, Leaves asked gives n t g s job w given := by
  induction job generalizing w s with
  | done r => exact ⟨s.given, leaves_conclude h hgoes⟩
  | ask e next ih =>
    have hother : e.isOther = true → (∀ r s', Leads g s e r s' → (drafting g).leads s e r s') →
        ∃ given, Leaves asked gives n t g s (.ask e next) w given := by
      intro he hleads
      obtain ⟨given, hgrants⟩ := exists_grants hgoes.1
      have hastir := astir_perform w t he
      have hspares : Spares asked n w (w.perform t e).1 := .of_astir hastir
      have hsite := site_perform w t he n
      cases hperform : w.perform t e with
      | mk w' uptake =>
        rw [hperform] at hspares hsite
        cases uptake with
        | wait alarm => exact ⟨given, leaves_wait h hgoes hgrants hperform hspares⟩
        | reply r =>
          -- What the task sees next.
          let s' : Sheet := { s with draft := s.draft.seeing g (w.site n) e r, given, site := w'.site n }
          obtain ⟨stateGate, fetchGate, latch, streams, hsession⟩ := hspares.session
          have hquiet : e.isWait = false → s.Quiet s' := fun hwait => by
            refine ⟨Draft.seeing_other he fun m hm => ?_, rfl, rfl, stateGate, fetchGate, latch, streams, ?_⟩
            · rw [hm] at hwait
              cases hwait
            · show w'.site n = _
              rw [hsite, hsession, h.site]
              rfl
          have hholds : e.isWait = true → Holds given { s' with draft := s.draft } := fun hwait => by
            have hs := holds_of_wait hwait hgoes.1
            refine ⟨?_, hs.forgets.of_hooks ?_, rfl⟩
            · show s.draft.Agrees (w'.session n).fragments
              rw [hspares.fragments.1, ← h.session]
              exact hs.fragments
            · show (w'.session n).hooks = _
              rw [hspares.fragments.2, ← h.session]
          have hworks : Works asked gives n t g w' s' := h.spared hspares rfl
          obtain ⟨given', hleft⟩ := ih r hworks
            (hgoes.2 r s' (hleads r s' (leads_of_grants hgrants rfl rfl hquiet hholds)))
          refine ⟨given', leaves_ask hleft hperform rfl rfl hgrants.kept .inl (fun m o hm hlaunch ho => ?_) (fun y hy => ?_)⟩
          · obtain ⟨hbefore, r', hr', hm', hgives⟩ := hgrants.sends m o hm hlaunch ho
            exact ⟨hbefore, r', hr', hm', h.session ▸ hgives⟩
          · rw [hy] at he
            cases he
    cases e with
    | look =>
      obtain ⟨given, hleft⟩ := ih s.site h (hgoes.2 s.site s ⟨rfl, rfl⟩)
      exact ⟨given, leaves_ask hleft (by rw [perform, h.sessionOf, h.site]) rfl rfl (fun _ hr => hr) .inl
        (fun m o hm => by cases hm) (fun y hy => by cases hy)⟩
    | change y =>
      have hperform : w.perform t (.change y) = (w.setSite n y, .reply ()) := by rw [perform, h.sessionOf]
      obtain ⟨given, hleft⟩ := ih () (h.changed y) (hgoes.2 () (s.after g y) rfl)
      refine ⟨given, leaves_ask (r := ()) hleft hperform rfl ?_ (fun _ hr => hr) (fun hstored => ?_)
        (fun m o hm => by cases hm) (fun y' hy ho => ?_)⟩
      · rw [after, h.site]
      · exact hstored.imp_right fun hstores => ⟨y, rfl, h.site ▸ hstores⟩
      · cases hy
        exact h.site ▸ hgoes.1 ho
    | _ => exact hother rfl fun _ _ h => h

/-! ## A task goes on -/

/-- **A task of another session leaves everything as it was drafted.** -/
theorem drawnOf_other (ht : w.tasks[t]? = some task) (hother : task.session ≠ n) : w.drawnOf asked n t d = d := by
  rw [drawnOf, ht]
  exact if_neg hother

/-- What a task of the session sees when it goes on. -/
def atHand (gives : Nat → Option Request) (n t : Nat) (w : World) (d : Draft) : Sheet where
  draft := d
  before := d
  given := gives t
  stored := w.verdict? t ≠ none
  site := w.site n

/-- **A task of the session that goes on keeps to the draft.** -/
theorem resume_left (h : Staffed asked n none gives w) (hd : d.Agrees (w.session n).fragments)
    (hforgets : (w.session n).Forgets) (ht : w.tasks[t]? = some task) (hsession : task.session = n) :
    ∃ given, Left asked gives n t (task.errand asked t) (atHand gives n t w d) (w.resume t) (w.drawnOf asked n t d)
      (w.sendingsOf t) (w.changingsOf t) given := by
  have hstands := h.stands t task (fun hout => by cases hout) ht hsession
  have hdrawn : w.drawnOf asked n t d = match task.stage with
      | .fresh job => drawn n t (task.errand asked t) job w d
      | .woken e next reply => drawn n t (task.errand asked t) (next reply) (w.settleAtGate t e reply)
          (d.seeing (task.errand asked t) (w.site n) e reply)
      | _ => d := by
    rw [drawnOf, ht]
    exact if_pos hsession
  -- Who cannot go on leaves all as it is.
  have hidle : Left asked gives n t (task.errand asked t) (atHand gives n t w d) w d [] [] (gives t) :=
    { staffed := (Function.update_eq_self t gives).symm ▸ h
      fragments := hd
      forgets := hforgets
      kept := fun _ hr => hr
      sends := fun v m o hmem => by cases hmem
      enters := fun v y hmem => by cases hmem
      stores := fun o result _ hverdict => .inl fun hnone => by cases hnone.symm.trans hverdict }
  rw [hdrawn]
  unfold resume sendingsOf changingsOf
  cases hstage : task.stage with
  | waiting e next alarm =>
    simp only [ht, Option.map_some, hstage]
    exact ⟨_, hidle⟩
  | ended r =>
    simp only [ht, Option.map_some, hstage]
    exact ⟨_, hidle⟩
  | fresh job =>
    simp only [ht, Option.map_some, hstage]
    rw [hstage] at hstands
    generalize hgives : gives t = given at hstands
    cases hstands with
    | fresh goes =>
      have hworks : Works asked gives n t (task.errand asked t) w (atHand gives n t w d) :=
        ⟨h.working, ⟨task, ht, hsession, rfl⟩, rfl⟩
      exact run_leaves hworks (goes _ ⟨hd, hforgets, hgives⟩ rfl)
  | woken e next r =>
    simp only [ht, Option.map_some, hstage]
    rw [hstage] at hstands
    generalize hgives : gives t = given at hstands
    cases hstands with
    | woken goes =>
      have hsettled : Spares asked n w (w.settleAtGate t e r) := .of_stirred (stirred_settleAtGate w t e r)
      let s : Sheet := { atHand gives n t w d with
        draft := d.seeing (task.errand asked t) (w.site n) e r, site := (w.settleAtGate t e r).site n }
      have hat : Works asked gives n t (task.errand asked t) w (atHand gives n t w d) :=
        ⟨h.working, ⟨task, ht, hsession, rfl⟩, rfl⟩
      have hworks : Works asked gives n t (task.errand asked t) (w.settleAtGate t e r) s := hat.spared hsettled rfl
      obtain ⟨hfragments, hhooks⟩ := hsettled.fragments
      have hholds : Holds given { s with draft := d } := ⟨hfragments ▸ hd, hforgets.of_hooks hhooks, hgives⟩
      obtain ⟨given', hleaves⟩ := run_leaves hworks (goes r s d (w.site n) hholds rfl)
      exact ⟨given', { hleaves with }⟩

end Sheet

end Cutover
