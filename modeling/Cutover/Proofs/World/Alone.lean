import Cutover.Proofs.Control.Operations
import Cutover.Proofs.World.Astir
import Cutover.World.Timing

/-!
# A task alone

A task may go on while nobody else does anything: it works when it can, and its waits end by
themselves. Work that is done alone keeps the contract of work behind the state gate without being
behind it, and it may go through the gate and start work in the background.

* `Surroundings.alone`: the contract of work that is done alone;
* `Surroundings.alone_guarded`: an operation behind the state gate, done alone;
* `World.alone?`, `World.Alone`: a task goes on by itself;
* `World.alone_ends`: work that meets the contract comes to an end as it says.
-/

namespace Cutover

/-- A site is as it was, but for time, gates, latch and readers. -/
def Site.Still (x y : Site) : Prop := ∃ now stateGate fetchGate latch streams,
  y = { x with now, session := { x.session with stateGate, fetchGate, latch, streams } }

theorem Site.Still.refl (x : Site) : x.Still x := ⟨_, _, _, _, _, rfl⟩

namespace Surroundings

variable (S : Surroundings)

/-- What work that is done alone may ask for. -/
def AllowsAlone (s : Scene) : Effect → Prop
  | .acquire .state => s.site.session.stateGate = {}
  | .release .state => s.site.session.stateGate = { held := true }
  | .fork _ => True
  | .hasEnded i => ∃ b, S.ended i b
  | e => S.Allows s e

/-- The state gate and what was started are as before. -/
def Steady (s s' : Scene) : Prop :=
  s'.site.session.stateGate = s.site.session.stateGate ∧ s'.forked = s.forked

/-- How work that is done alone may go on. -/
def LeadsAlone (s : Scene) : (e : Effect) → e.Reply → Scene → Prop
  | .acquire .state, r, s' => r = .back () ∧ S.At s.site.core s.published s' ∧
      s'.site.session.stateGate = { held := true } ∧ s'.forked = s.forked
  | .release .state, _, s' => S.At s.site.core s.published s' ∧
      s'.site.session.stateGate = {} ∧ s'.forked = s.forked
  | .fork b, r, s' => S.At s.site.core s.published s' ∧
      s'.site.session.stateGate = s.site.session.stateGate ∧ s'.forked = s.forked ++ ([(r, b)] : List (Nat × Background))
  | .hasEnded i, r, s' => S.ended i r ∧ S.At s.site.core s.published s' ∧ Steady s s'
  | e, r, s' => S.Leads s e r s' ∧ Steady s s'

/-- **The contract of work that is done alone.** -/
def alone : Contract Scene := ⟨S.AllowsAlone, S.LeadsAlone⟩

/-- **The contract that sees the whole site.** It allows everything; what the work does not change stays
as it is, but for time, gates, latch and readers. -/
def sole : Contract Scene where
  allows _ _ := True
  leads s e r s' := S.LeadsAlone s e r s' ∧ (e.isOther = true → s.site.Still s'.site)

variable {S} {α : Type} {c : Core} {s : Scene} {p : List (Option RunState)}

theorem meets_sole_true {w : Work α} : w.Meets S.sole (fun _ _ => True) s := by
  induction w generalizing s with
  | done a => trivial
  | ask e next ih => exact ⟨trivial, fun r _ _ => ih r⟩

theorem meets_alone {op : Op α} {Q : Except Exit α → Scene → Prop} (h : op.Meets S.behind Q s) :
    op.Meets S.alone (fun r s' => Q r s' ∧ Steady s s') s := by
  refine Work.Meets.along h ⟨rfl, rfl⟩ (fun s' e _ ha => ?_) fun s' e r s'' hI ha hl => ?_
  · cases e with
    | acquire g =>
      cases g with
      | state => exact absurd ha id
      | fetch => exact ha
    | release g =>
      cases g with
      | state => exact absurd ha id
      | fetch => exact ha
    | fork b => trivial
    | hasEnded i => exact absurd ha id
    | _ => exact ha
  · have htrans : Steady s' s'' → Steady s s'' := fun h => ⟨h.1.trans hI.1, h.2.trans hI.2⟩
    cases e with
    | acquire g =>
      cases g with
      | state => exact absurd ha id
      | fetch => exact ⟨hl.1, htrans hl.2⟩
    | release g =>
      cases g with
      | state => exact absurd ha id
      | fetch => exact ⟨hl.1, htrans hl.2⟩
    | fork b => exact absurd ha id
    | hasEnded i => exact absurd ha id
    | _ => exact ⟨hl.1, htrans hl.2⟩

/-- **An operation behind the state gate, done alone**: the gate is free again at its end. -/
theorem alone_guarded {op : Op α} {may : Core → Prop} {turn : Conditions → Core → Core.Turn α}
    {items : α → List (Option RunState)} {Q : Except Exit α → Scene → Prop}
    (hop : S.Guards op may turn items) (h : S.At c [] s) (hmay : may c)
    (hfree : s.site.session.stateGate = {})
    (hQ : ∀ k s', S.Suits c k → S.At (turn k c).core (given items (turn k c).result) s' →
      s'.site.session.stateGate = {} → s'.forked = s.forked →
        Q ((turn k c).result.mapError .fault) s') :
    op.Meets S.alone Q s := by
  obtain ⟨w, rfl, hdoes⟩ := hop
  rw [Op.guarded, Op.meets_bind, Op.enter]
  refine Op.meets_bind.mpr (Op.meets_perform.mpr ⟨hfree, ?_⟩)
  rintro r s₁ ⟨rfl, h₁, hheld, hforked⟩
  rw [h.core, h.published] at h₁
  refine Op.meets_unwrap_back.mpr (Op.meets_ensure.mpr ?_)
  refine (meets_alone (hdoes c s₁ hmay h₁)).mono ?_
  rintro r s₂ ⟨⟨k, hk, rfl, h₂⟩, hgate, hforked'⟩
  refine Work.meets_perform.mpr ⟨hgate.trans hheld, ?_⟩
  rintro r s₃ ⟨h₃, hopen, hforked''⟩
  rw [h₂.core, h₂.published] at h₃
  exact hQ k s₃ hk h₃ hopen (hforked''.trans (hforked'.trans hforked))

theorem alone_of_behind {op : Op α} {P Q : Except Exit α → Scene → Prop} (h : op.Meets S.behind P s)
    (hQ : ∀ r s', P r s' → Steady s s' → Q r s') : op.Meets S.alone Q s :=
  (meets_alone h).mono fun r s' hP => hQ r s' hP.1 hP.2

theorem alone_session {Q : Except Exit Session → Scene → Prop} (h : Q (.ok s.site.session) s) :
    Op.session.Meets S.alone Q s := by
  refine Op.meets_bind.mpr (Op.meets_lift.mpr ⟨trivial, ?_⟩)
  rintro _ _ ⟨⟨rfl, rfl⟩, -⟩
  exact h

theorem alone_update {f : Site → Site} {Q : Unit → Scene → Prop} {d : Core} (h : S.At c p s)
    (hgate : (f s.site).session.stateGate = s.site.session.stateGate)
    (hstreams : (f s.site).session.streams = s.site.session.streams)
    (hcore : (f s.site).core = d) (hstorage : d.storage = c.storage)
    (hQ : ∀ s', S.At d p s' → Steady s s' → Q () s') : (Work.update f).Meets S.alone Q s := by
  refine ⟨trivial, ?_⟩
  rintro _ _ ⟨⟨rfl, rfl⟩, -⟩
  refine ⟨⟨hgate, hstreams, ?_⟩, ?_⟩
  · rw [h.core, hcore]
    exact S.grants_of_storage hstorage
  · rintro _ _ ⟨rfl, -⟩
    exact hQ _ ⟨hcore, h.published, h.within⟩ ⟨hgate, rfl⟩

theorem alone_modify {f : Session → Session} {Q : Except Exit Unit → Scene → Prop} (h : S.At c p s)
    (hgate : (f s.site.session).stateGate = s.site.session.stateGate)
    (hstreams : (f s.site.session).streams = s.site.session.streams)
    (hcore : (f s.site.session).core = f s.site.session.core)
    (hQ : ∀ s', S.At (c.onSession f) p s' → Steady s s' → Q (.ok ()) s') : (Op.modify f).Meets S.alone Q s := by
  refine Op.meets_lift.mpr (alone_update (d := c.onSession f) h hgate hstreams ?_ rfl hQ)
  rw [← h.core]
  exact congrArg (Core.mk · _ _) hcore

theorem alone_traced {span : Span} {w : Nat → Op α} {Q : Except Exit α → Scene → Prop} (h : S.At c p s)
    (hw : ∀ id s₁, S.At c p s₁ → Steady s s₁ →
      (w id).Meets S.alone (fun r t => ∃ d q, S.At d q t ∧ ∀ t', S.At d q t' → Steady t t' → Q r t') s₁) :
    (Op.traced span w).Meets S.alone Q s := by
  refine Op.meets_bind.mpr (Op.meets_lift.mpr ⟨trivial, ?_⟩)
  rintro _ s₁ ⟨⟨rfl, rfl⟩, -⟩
  refine ⟨⟨rfl, rfl, S.grants_of_storage rfl⟩, ?_⟩
  rintro _ s₂ ⟨rfl, -⟩
  refine Op.meets_ensure.mpr ((hw _ _ ?_ ?_).mono ?_)
  · exact h.of_core rfl rfl rfl
  · exact ⟨rfl, rfl⟩
  · rintro r t ⟨d, q, ht, hQ⟩
    exact alone_update ht rfl rfl ht.core rfl hQ

theorem leadsAlone_of_ends {s' : Scene} {e : Effect} {r : e.Reply} (h : S.Ends e r)
    (hat : S.At s.site.core s.published s') (hsteady : Steady s s') : S.LeadsAlone s e r s' := by
  cases e with
  | sleep d => exact ⟨⟨h, hat⟩, hsteady⟩
  | storageTurn => exact ⟨⟨h, hat⟩, hsteady⟩
  | send m => exact ⟨⟨h, hat⟩, hsteady⟩
  | _ => exact absurd h id

end Surroundings

namespace World

/-! ## Effects of work that is done alone -/

/-- The tasks that work has started. -/
structure Forked (n : Nat) (w w' : World) (f f' : List (Nat × Background)) : Prop where
  started : ∀ x ∈ f', x ∈ f ∨ w.tasks.length ≤ x.1 ∧
    ∃ task, w'.tasks[x.1]? = some task ∧ task.session = n ∧ task.loop = some x.2
  count : w'.tasks.length + f.length = w.tasks.length + f'.length
  grown : w.tasks.length ≤ w'.tasks.length

/-- **What comes of an effect of work that is done alone.** -/
inductive PerformedAlone (S : Surroundings) (n t : Nat) (w : World) (s : Scene) (e : Effect) :
    World × Uptake e.Reply → Prop
  | reply {w' : World} {r : e.Reply} {p : List (Option RunState)} {f : List (Nat × Background)}
    (leads : S.LeadsAlone s e r { site := w'.site n, published := p, forked := f })
    (beside : Beside n t w w') (instant : w'.now = w.now) (stays : w'.tasks[t]? = w.tasks[t]?)
    (served : Served n t w w' s.published p) (forked : Forked n w w' s.forked f) :
    PerformedAlone S n t w s e (w', .reply r)
  | wait {w' : World} {alarm : Option (Alarm e.Reply)} (site : w'.site n = s.site)
    (aside : Aside n t w w') (untouched : Untouched n t w w')
    (ends : ∀ a, alarm = some a → S.Ends e a.reply)
    (untimed : alarm = none → e = .storageTurn) : PerformedAlone S n t w s e (w', .wait alarm)

variable {S : Surroundings} {n t : Nat} {w w' : World} {s : Scene}

theorem hasEnded_of_roused {stage stage' : Stage} (h : stage.Roused stage') (task : Task) :
    ({ task with stage := stage' } : Task).hasEnded = ({ task with stage } : Task).hasEnded := by
  cases h with
  | same _ => rfl
  | woken => rfl

theorem Beside.hasEnded (h : Beside n t w w') {i : Nat} (hi : i ≠ t) (hlt : i < w.tasks.length) :
    i < w'.tasks.length ∧ w'.hasEnded i = w.hasEnded i := by
  have htask := List.getElem?_eq_getElem hlt
  obtain ⟨stage, hstage, hroused⟩ := h.tasks i _ hi htask
  refine ⟨(List.getElem?_eq_some_iff.mp hstage).1, ?_⟩
  rw [World.hasEnded, World.hasEnded, hstage, htask]
  exact hasEnded_of_roused hroused _

theorem Beside.bears (h : Beside n t w w') (hbears : w.Bears S t) : w'.Bears S t where
  answers m := h.replies m _ (hbears.answers m)
  ended i b hb := by
    obtain ⟨hi, hlt, hended⟩ := hbears.ended i b hb
    obtain ⟨hlt', hsame⟩ := h.hasEnded hi hlt
    exact ⟨hi, hlt', hsame.trans hended⟩

theorem Forked.of_count (h : w'.tasks.length = w.tasks.length) (f : List (Nat × Background)) :
    Forked n w w' f f := ⟨fun _ hx => .inl hx, by rw [h], Nat.le_of_eq h.symm⟩

theorem Forked.trans {w'' : World} {f f' f'' : List (Nat × Background)} (h : Forked n w w' f f')
    (h' : Forked n w' w'' f' f'') (hbeside : Beside n t w' w'') : Forked n w w'' f f'' := by
  refine ⟨fun x hx => ?_, ?_, Nat.le_trans h.grown h'.grown⟩
  · rcases h'.started x hx with hearlier | ⟨hle, hlater⟩
    · refine (h.started x hearlier).imp_right fun ⟨hle, task, htask, hsession, hloop⟩ => ⟨hle, ?_⟩
      by_cases hxt : x.1 = t
      · rw [hxt] at htask ⊢
        obtain ⟨stage, hstage⟩ := hbeside.own task htask
        exact ⟨_, hstage, hsession, hloop⟩
      · obtain ⟨stage, hstage, _⟩ := hbeside.tasks x.1 task hxt htask
        exact ⟨_, hstage, hsession, hloop⟩
    · exact .inr ⟨Nat.le_trans h.grown hle, hlater⟩
  · have := h.count
    have := h'.count
    omega

/-- What may be asked for behind the gate is granted to work that is done alone. -/
theorem Performed.alone {e : Effect} {x : World × Uptake e.Reply} (h : Performed S n t w s e x)
    (hsite : w.site n = s.site)
    (hleads : ∀ r s', S.Leads s e r s' → Surroundings.Steady s s' → S.LeadsAlone s e r s') :
    PerformedAlone S n t w s e x := by
  have hgate : s.site.session.stateGate = (w.session n).stateGate :=
    (congrArg (·.session.stateGate) hsite).symm
  cases h with
  | reply leads aside served =>
    exact .reply (f := s.forked) (hleads _ _ leads ⟨aside.gate.trans hgate.symm, rfl⟩) aside.toBeside
      aside.instant aside.stays served (.of_count aside.count _)
  | wait site aside untouched ends untimed =>
    exact .wait site aside untouched ends untimed

theorem beside_spawn {m : Nat} {job : Job} {loop : Option Background} (_ht : t < w.tasks.length) :
    Beside n t w (w.spawn m job loop).2 := by
  have hold : ∀ (i : Nat) (task : Task), w.tasks[i]? = some task →
      (w.spawn m job loop).2.tasks[i]? = some { task with stage := task.stage } := by
    intro i task h
    have hi := (List.getElem?_eq_some_iff.mp h).1
    exact (List.getElem?_append_left hi).trans h
  refine ⟨Int.le_refl _, fun _ _ h => h, rfl, fun _ _ => rfl, fun task h => ⟨_, hold t task h⟩,
    fun i task _ h => ⟨_, hold i task h, .same _⟩, fun i task _ hi h => ?_⟩
  have h : (w.tasks ++ [_])[i]? = some task := h
  rw [List.getElem?_append_right hi, List.getElem?_singleton] at h
  split at h
  · cases h
    exact ⟨job, rfl⟩
  · cases h

theorem performedAlone_fork {b : Background} (hw : w.Works n t) (ht : t < w.tasks.length)
    (hsite : w.site n = s.site) (hwithin : S.within w.now) :
    PerformedAlone S n t w s (.fork b) (w.perform t (.fork b)) := by
  have hcore : (w.site n).core = s.site.core := congrArg Site.core hsite
  have hgate : (w.session n).stateGate = s.site.session.stateGate :=
    congrArg (·.session.stateGate) hsite
  have huntouched : Untouched n t w (w.fork n b).2 := by
    refine ⟨rfl, fun i m next alarm _ h => ?_⟩
    obtain ⟨task, hi, hstage⟩ := Option.map_eq_some_iff.mp h
    obtain ⟨hlt, _⟩ := List.getElem?_eq_some_iff.mp hi
    exact (congrArg (Option.map Task.stage) ((List.getElem?_append_left hlt).trans hi)).trans
      (congrArg some hstage)
  rw [perform, hw.session]
  refine .reply (p := s.published) (f := s.forked ++ [(w.tasks.length, b)])
    ⟨at_site hcore hwithin, hgate, rfl⟩ (beside_spawn ht) rfl (List.getElem?_append_left ht)
    (huntouched.served _) ⟨fun x hx => ?_, ?_, ?_⟩
  · rcases List.mem_append.mp hx with hx | hx
    · exact .inl hx
    · rw [List.mem_singleton.mp hx]
      exact .inr ⟨Nat.le_refl _, _, List.getElem?_concat_length, rfl, rfl⟩
  · simp only [enqueue, List.length_append, List.length_singleton]
    omega
  · simp only [enqueue, List.length_append, List.length_singleton]
    omega

theorem performedAlone_gate {e : Effect} {r : e.Reply} {g : Gate} (hw : w.Works n t)
    (hsite : w.site n = s.site) (hwithin : S.within w.now)
    (hleads : ∀ s', s'.site.session.stateGate = g → S.At s.site.core s.published s' →
      s'.forked = s.forked → S.LeadsAlone s e r s') :
    PerformedAlone S n t w s e (w.onSession n fun s => s.setGate g .state, .reply r) := by
  have hcore : (w.site n).core = s.site.core := congrArg Site.core hsite
  have hsite' := site_onSession hw.known fun s => s.setGate g .state
  have huntouched : Untouched n t w (w.onSession n fun s => s.setGate g .state) :=
    .of_tasks (congrArg (·.session.streams) hsite') rfl
  have hforked : Forked n w (w.onSession n fun s => s.setGate g .state) s.forked s.forked :=
    ⟨fun _ hx => .inl hx, rfl, Nat.le_refl _⟩
  refine .reply (hleads _ (congrArg (·.session.stateGate) hsite') (at_site ?_ hwithin) rfl)
    (beside_onSession n t w _) rfl rfl (huntouched.served _) hforked
  rw [hsite', ← hcore]
  rfl

/-- **A world does what the contract of work that is done alone says.** -/
theorem performedAlone {e : Effect} (hw : w.Works n t) (ht : t < w.tasks.length) (hruns : w.Runs t)
    (hsite : w.site n = s.site) (hallows : S.AllowsAlone s e) (hwithin : S.within w.now)
    (hbears : w.Bears S t) :
    PerformedAlone S n t w s e (w.perform t e) := by
  have hsession : w.session n = s.site.session := congrArg Site.session hsite
  have hcore : (w.site n).core = s.site.core := congrArg Site.core hsite
  have hbehind : S.Allows s e → Performed S n t w s e (w.perform t e) := fun h =>
    performed hw hruns hsite h hwithin hbears.answers
  cases e with
  | acquire g =>
    cases g with
    | fetch => exact (hbehind hallows).alone hsite fun _ _ h h' => ⟨h, h'⟩
    | state =>
      have hfree : (w.session n).gate .state = {} := by rw [hsession]; exact hallows
      rw [perform, acquire_free hw hfree]
      refine performedAlone_gate hw hsite hwithin fun s' hgate hat hforked => ?_
      exact ⟨rfl, hat, hgate, hforked⟩
  | release g =>
    cases g with
    | fetch => exact (hbehind hallows).alone hsite fun _ _ h h' => ⟨h, h'⟩
    | state =>
      have hheld : (w.session n).gate .state = { held := true } := by rw [hsession]; exact hallows
      rw [release_held hw hheld]
      exact performedAlone_gate hw hsite hwithin fun s' hgate hat hforked => ⟨hat, hgate, hforked⟩
  | fork b => exact performedAlone_fork hw ht hsite hwithin
  | send m => exact (hbehind hallows).alone hsite fun _ _ h h' => ⟨h, h'⟩
  | sleep d => exact (hbehind hallows).alone hsite fun _ _ h h' => ⟨h, h'⟩
  | storageTurn => exact (hbehind hallows).alone hsite fun _ _ h h' => ⟨h, h'⟩
  | look => exact (hbehind hallows).alone hsite fun _ _ h h' => ⟨h, h'⟩
  | change x => exact (hbehind hallows).alone hsite fun _ _ h h' => ⟨h, h'⟩
  | raiseLatch => exact (hbehind hallows).alone hsite fun _ _ h h' => ⟨h, h'⟩
  | publish item => exact (hbehind hallows).alone hsite fun _ _ h h' => ⟨h, h'⟩
  | join other => exact absurd hallows id
  | hasEnded other =>
    obtain ⟨b, hb⟩ := hallows
    obtain rfl := (hbears.ended other b hb).2.2
    exact .reply (f := s.forked) ⟨hb, at_site hcore hwithin, congrArg (·.session.stateGate) hsite, rfl⟩
      (.refl n t w) rfl rfl ((Untouched.refl n t w).served _) (.of_count rfl _)
  | cancel other => exact absurd hallows id
  | watchLatch d => exact absurd hallows id
  | receive stream => exact absurd hallows id

/-! ## Going on alone -/

/-- The places of a task in the queues are given up. -/
def unqueue (w : World) (t : Nat) : World :=
  { w with
    ready := w.ready.filter fun p => p.task ≠ t
    storageQueue := w.storageQueue.filter (· ≠ t) }

/-- What a task does next while nobody else does anything: it works, or its wait ends by itself. There
is nothing when it has ended or waits for somebody else. -/
def alone? (t : Nat) (w : World) : Option World :=
  match w.stage? t with
  | some (.fresh _) => some ((w.unqueue t).resume t)
  | some (.woken _ _ _) => some ((w.unqueue t).resume t)
  | some (.waiting _ _ (some alarm)) => some (ring { w with now := max w.now alarm.due } t)
  | some (.waiting .storageTurn _ none) => some (wakeAtStorage (w.unqueue t) t)
  | _ => none

theorem alone?_fresh {job : Job} (h : w.stage? t = some (.fresh job)) :
    w.alone? t = some (run t job (w.unqueue t)) := by
  rw [alone?, h]
  unfold resume
  rw [show ((w.unqueue t).tasks[t]?).map Task.stage = some (.fresh job) from h]

theorem alone?_woken {e : Effect} {next : e.Reply → Job} {r : e.Reply}
    (h : w.stage? t = some (.woken e next r)) :
    w.alone? t = some (run t (next r) ((w.unqueue t).settleAtGate t e r)) := by
  rw [alone?, h]
  unfold resume
  rw [show ((w.unqueue t).tasks[t]?).map Task.stage = some (.woken e next r) from h]

/-- **A task goes on alone.** -/
inductive Alone (t : Nat) : World → World → Prop
  | refl (w : World) : Alone t w w
  | step {w w' w'' : World} (first : w.alone? t = some w') (rest : Alone t w' w'') : Alone t w w''

/-- A task works for a session. -/
structure WorksFor (w : World) (n t : Nat) : Prop where
  known : n < w.sessions.length
  task : ∃ task, w.tasks[t]? = some task ∧ task.session = n

theorem WorksFor.works (h : w.WorksFor n t) : w.Works n t := by
  obtain ⟨task, ht, hn⟩ := h.task
  exact ⟨by simp [sessionOf, ht, hn], h.known⟩

theorem WorksFor.lt (h : w.WorksFor n t) : t < w.tasks.length := by
  obtain ⟨task, ht, -⟩ := h.task
  exact (List.getElem?_eq_some_iff.mp ht).1

theorem WorksFor.beside (h : w.WorksFor n t) (hbeside : Beside n t w w') : w'.WorksFor n t := by
  obtain ⟨task, ht, hn⟩ := h.task
  obtain ⟨stage', ht'⟩ := hbeside.own _ ht
  exact ⟨hbeside.length ▸ h.known, _, ht', hn⟩

theorem stage?_setStage (h : w.WorksFor n t) (stage : Stage) : (w.setStage t stage).stage? t = some stage := by
  obtain ⟨_, ht, -⟩ := h.task
  simp [stage?, setStage, onTask, ht]

theorem beside_setStage {stage : Stage} (hnow : w.now ≤ w'.now) (hscript : w'.script = w.script)
    (hsessions : w'.sessions = w.sessions) (htasks : w'.tasks = (w.setStage t stage).tasks) :
    Beside n t w w' ∧ Untouched n t w w' ∧ w'.tasks.length = w.tasks.length := by
  have hget : ∀ i, i ≠ t → w'.tasks[i]? = w.tasks[i]? := fun i hi => by
    simp [htasks, setStage, onTask, hi.symm]
  have hsession : ∀ m, w'.session m = w.session m := fun m => by
    simp only [session, hsessions]
  refine ⟨⟨hnow, fun _ _ h => by rw [hscript]; exact h, by rw [hsessions], fun m _ => hsession m,
    fun task h => ⟨stage, ?_⟩, fun i task hi h => ⟨task.stage, by rw [hget i hi]; exact h, .same _⟩,
    fun i task hi hle h => ?_⟩, ⟨by rw [hsession], fun i m next alarm hi h => ?_⟩, ?_⟩
  · simp [htasks, setStage, onTask, h]
  · rw [hget i hi, List.getElem?_eq_none hle] at h
    cases h
  · rw [stage?, hget i hi]
    exact h
  · simp [htasks, setStage, onTask]

/-! ## Without a pause -/

/-- A task pauses: it watches the latch of its session, or has ended. -/
def pauses (w : World) (t : Nat) : Bool :=
  match w.stage? t with
  | some (.waiting (.watchLatch _) _ _) => true
  | some (.ended _) => true
  | _ => false

/-- **A task goes on alone without a pause**, up to some world. -/
inductive NonStop (t : Nat) : World → World → Prop
  | refl (w : World) : NonStop t w w
  | step {w w' w'' : World} (first : w.alone? t = some w') (busy : w.pauses t = false) (rest : NonStop t w' w'') :
    NonStop t w w''

theorem NonStop.alone (h : NonStop t w w') : Alone t w w' := by
  induction h with
  | refl w => exact .refl w
  | step first _ _ ih => exact .step first ih

theorem pauses_of_ends {e : Effect} {next : e.Reply → Job} {alarm : Option (Alarm e.Reply)}
    (hstage : w.stage? t = some (.waiting e next alarm)) (he : e.isPassive = false) : w.pauses t = false := by
  rw [pauses, hstage]
  cases e with
  | watchLatch d => cases he
  | _ => rfl

/-- What a task comes to whose wait is over: it works on in a world where only time has passed. -/
structure Resumed (n t : Nat) (w : World) (job : Job) (w' : World) : Prop where
  nonStop : ∀ w'', NonStop t (run t job w') w'' → NonStop t w w''
  runs : w'.Runs t
  beside : Beside n t w w'
  untouched : Untouched n t w w'
  count : w'.tasks.length = w.tasks.length
  site : w'.site n = { w.site n with now := w'.now }

theorem resumed_of_woken {e : Effect} {next : e.Reply → Job} {r : e.Reply} (w' : World)
    (h : w.WorksFor n t) (hends : S.Ends e r) (hfirst : w.alone? t = some w') (hbusy : w.pauses t = false)
    (hnow : w.now ≤ w'.now) (hscript : w'.script = w.script) (hsessions : w'.sessions = w.sessions)
    (hshared : w'.site n = { w.site n with now := w'.now })
    (htasks : w'.tasks = (w.setStage t (.woken e next r)).tasks) :
    Resumed n t w (next r) (w'.unqueue t) := by
  obtain ⟨hbeside, huntouched, hcount⟩ :
      Beside n t w (w'.unqueue t) ∧ Untouched n t w (w'.unqueue t) ∧
        (w'.unqueue t).tasks.length = w.tasks.length :=
    beside_setStage hnow hscript hsessions htasks
  have hstage : w'.stage? t = some (.woken e next r) := by
    rw [stage?, htasks]
    exact stage?_setStage h _
  refine ⟨fun w'' hrest => .step hfirst hbusy (.step ?_ ?_ hrest), ?_, hbeside, huntouched, hcount, hshared⟩
  · rw [alone?_woken hstage, settleAtGate_of_ends hends]
  · rw [pauses, hstage]
  · intro e' next' alarm hwait
    rw [show (w'.unqueue t).stage? t = some (.woken e next r) from hstage] at hwait
    cases hwait

theorem ring_eq {e : Effect} {next : e.Reply → Job} {a : Alarm e.Reply}
    (hstage : w.stage? t = some (.waiting e next (some a))) :
    ∃ laps, ring w t = (w.setStage t (.woken e next a.reply)).enqueue t laps := by
  unfold ring
  rw [show (w.tasks[t]?).map Task.stage = _ from hstage]
  exact ⟨_, rfl⟩

theorem wakeAtStorage_eq {next : (Effect.storageTurn).Reply → Job}
    {alarm : Option (Alarm (Effect.storageTurn).Reply)}
    (hstage : w.stage? t = some (.waiting .storageTurn next alarm)) :
    wakeAtStorage w t = (w.setStage t (.woken .storageTurn next (.back ()))).enqueue t := by
  unfold wakeAtStorage
  rw [show (w.tasks[t]?).map Task.stage = _ from hstage]

theorem isPassive_of_ends {e : Effect} {r : e.Reply} (h : S.Ends e r) : e.isPassive = false := by
  cases e with
  | sleep d => rfl
  | storageTurn => rfl
  | send m => rfl
  | _ => exact absurd h id

/-- **A wait ends by itself**, with the reply that ends it. -/
theorem wait_ends {e : Effect} {next : e.Reply → Job} {alarm : Option (Alarm e.Reply)}
    (h : w.WorksFor n t) (hstage : w.stage? t = some (.waiting e next alarm))
    (hends : ∀ a, alarm = some a → S.Ends e a.reply)
    (huntimed : alarm = none → e = .storageTurn) :
    ∃ w' r, Resumed n t w (next r) w' ∧ ∀ S : Surroundings,
      (∀ a, alarm = some a → S.Ends e a.reply) → S.Ends e r := by
  cases alarm with
  | some a =>
    obtain ⟨laps, hring⟩ : ∃ laps, ring { w with now := max w.now a.due } t = _ := ring_eq hstage
    have hfirst : w.alone? t = some (ring { w with now := max w.now a.due } t) := by
      rw [alone?, hstage]
    rw [hring] at hfirst
    exact ⟨_, a.reply, resumed_of_woken _ h (hends a rfl) hfirst
      (pauses_of_ends hstage (isPassive_of_ends (hends a rfl))) (Int.le_max_left _ _) rfl rfl rfl rfl,
      fun S hS => hS a rfl⟩
  | none =>
    obtain rfl := huntimed rfl
    have hfirst : w.alone? t = some (wakeAtStorage (w.unqueue t) t) := by
      rw [alone?, hstage]
    rw [wakeAtStorage_eq (w := w.unqueue t) hstage] at hfirst
    have hends : S.Ends .storageTurn (.back ()) := rfl
    exact ⟨_, .back (), resumed_of_woken _ h hends hfirst (pauses_of_ends hstage rfl) (Int.le_refl _) rfl rfl
      rfl rfl, fun S _ => rfl⟩

/-! ## Work that is done in the end -/

/-- **What comes of work that began in a world and was done alone**: it ended in another world, as the
contracts say that it meets. -/
structure RanOut (n t : Nat) (w : World) (job : Job) (v : World) (r : Except Exit Outturn) : Prop where
  beside : Beside n t w v
  meets : ∀ (S : Surroundings) (s : Scene) (Q P : Except Exit Outturn → Scene → Prop),
    (∀ x, w.now ≤ x → x ≤ v.now → S.within x) → w.Bears S t → w.site n = s.site →
    job.Meets S.alone Q s → job.Meets S.sole P s →
    ∃ p f, Q r { site := v.site n, published := p, forked := f } ∧
      P r { site := v.site n, published := p, forked := f } ∧
      Served n t w v s.published p ∧ Forked n w v s.forked f

/-- An effect that is neither a look nor a change leaves the site as it is, but for gates, latch and
readers. -/
theorem still_perform (w : World) (t n : Nat) {e : Effect} (he : e.isOther = true) :
    (w.site n).Still ((w.perform t e).1.site n) := by
  obtain ⟨stateGate, fetchGate, latch, streams, hsession⟩ := (astir_perform w t he).sessions n
  refine ⟨w.now, stateGate, fetchGate, latch, streams, ?_⟩
  rw [site_perform w t he n, hsession]
  rfl

/-- **Work that meets the contract is done in the end** when it is done alone. -/
theorem runs_out {job : Job} (h : w.WorksFor n t) (hruns : w.Runs t) {Q : Except Exit Outturn → Scene → Prop}
    (hwithin : ∀ x, S.within x) (hbears : w.Bears S t) (hsite : w.site n = s.site)
    (hmeets : job.Meets S.alone Q s) :
    ∃ v r, NonStop t (run t job w) (v.conclude t r) ∧ RanOut n t w job v r := by
  induction job generalizing w s with
  | done result =>
    rw [run]
    refine ⟨w, result, .refl _, .refl n t w, fun S s Q P _ _ hs hQ hP => ?_⟩
    refine ⟨s.published, s.forked, ?_, ?_, (Untouched.refl n t w).served _, .of_count rfl _⟩
    · rw [hs]
      exact hQ
    · rw [hs]
      exact hP
  | ask e next ih =>
    have hperformed := performedAlone h.works h.lt hruns hsite hmeets.1 (hwithin _) hbears
    have hall := fun (S : Surroundings) (s : Scene) =>
      performedAlone (S := S) (s := s) (e := e) h.works h.lt hruns
    have hstill := fun he => still_perform w t n (e := e) he
    rw [run]
    generalize w.perform t e = x at hperformed hall hstill
    cases hperformed with
    | @reply w₁ r p f leads beside instant stays served forked =>
      have hruns₁ : w₁.Runs t := by
        unfold Runs stage?
        rw [stays]
        exact hruns
      obtain ⟨v, result, hgoes, hran⟩ := ih r (h.beside beside) hruns₁
        (beside.bears hbears) (s := ⟨w₁.site n, p, f⟩) rfl (hmeets.2 r _ leads)
      refine ⟨v, result, hgoes, beside.trans hran.beside, ?_⟩
      intro S s Q P hwithin hbears hsite hmeets hsole
      have hnow := Int.le_trans beside.now hran.beside.now
      cases hall S s hsite hmeets.1 (hwithin _ (Int.le_refl _) hnow) hbears with
      | @reply _ _ p f leads _ _ _ served forked =>
        obtain ⟨p', f', hQ, hP, hserved', hforked'⟩ := hran.meets S ⟨w₁.site n, p, f⟩ Q P
          (fun x hx => hwithin x (Int.le_trans beside.now hx))
          (beside.bears hbears) rfl (hmeets.2 r _ leads)
          (hsole.2 r _ ⟨leads, fun he => hsite ▸ hstill he⟩)
        exact ⟨p', f', hQ, hP, served.trans beside hserved' hran.beside,
          forked.trans hforked' hran.beside⟩
    | @wait w₁ alarm site aside untouched ends untimed =>
      obtain ⟨hbeside₂, huntouched₂, hcount₂⟩ :
          Beside n t w₁ (w₁.setStage t (.waiting e next alarm)) ∧
            Untouched n t w₁ (w₁.setStage t (.waiting e next alarm)) ∧ _ :=
        beside_setStage (Int.le_refl _) rfl rfl rfl
      have hworksFor₁ := h.beside aside.toBeside
      obtain ⟨w₃, r, hresumed, hends⟩ := wait_ends (h.beside (aside.toBeside.trans hbeside₂))
        (stage?_setStage hworksFor₁ _) ends untimed
      have hbeside₃ := aside.toBeside.trans (hbeside₂.trans hresumed.beside)
      have huntouched₃ := untouched.trans (huntouched₂.trans hresumed.untouched)
      have hcount₃ := hresumed.count.trans (hcount₂.trans aside.count)
      have hsite₃ : w₃.site n = { w₁.site n with now := w₃.now } := hresumed.site
      have hleads : ∀ (S : Surroundings) (s : Scene), w₁.site n = s.site → S.Ends e r →
          S.within w₃.now → S.LeadsAlone s e r ⟨w₃.site n, s.published, s.forked⟩ := by
        intro S s hs he hw
        rw [hsite₃, hs]
        exact Surroundings.leadsAlone_of_ends he ⟨rfl, rfl, hw⟩ ⟨rfl, rfl⟩
      obtain ⟨v, result, hgoes, hran⟩ := ih r (h.beside hbeside₃) hresumed.runs
        (hbeside₃.bears hbears) rfl
        (hmeets.2 r _ (hleads S s site (hends S ends) (hwithin _)))
      refine ⟨v, result, hresumed.nonStop _ hgoes, hbeside₃.trans hran.beside, ?_⟩
      intro S s Q P hwithin hbears hsite hmeets hsole
      have hnow := Int.le_trans hbeside₃.now hran.beside.now
      cases hall S s hsite hmeets.1 (hwithin _ (Int.le_refl _) hnow) hbears with
      | wait site _ _ ends _ =>
        have hlead := hleads S s site (hends S ends) (hwithin _ hbeside₃.now hran.beside.now)
        obtain ⟨p', f', hQ, hP, hserved', hforked'⟩ := hran.meets S _ Q P
          (fun x hx => hwithin x (Int.le_trans hbeside₃.now hx))
          (hbeside₃.bears hbears) rfl (hmeets.2 r _ hlead)
          (hsole.2 r _ ⟨hlead, fun _ => ⟨w₃.now, _, _, _, _, by rw [hsite₃, site]⟩⟩)
        exact ⟨p', f', hQ, hP, (huntouched₃.served _).trans hbeside₃ hserved' hran.beside,
          (Forked.of_count hcount₃ _).trans hforked' hran.beside⟩

/-! ## Tasks that work in no rounds -/

/-- How a stretch of work that is no round ends its task. -/
def lastResult : Except Exit Outturn → Except Exit Result
  | .error e => .error e
  | .ok (.result r) => .ok r
  | .ok .again => .ok .nothing

/-- A task that works in no rounds, and that nobody waits for. -/
structure Single (w : World) (n t : Nat) : Prop where
  known : n < w.sessions.length
  task : ∃ stage, w.tasks[t]? = some { session := n, stage }

theorem Single.worksFor (h : w.Single n t) : w.WorksFor n t := by
  obtain ⟨stage, ht⟩ := h.task
  exact ⟨h.known, _, ht, rfl⟩

theorem Single.works (h : w.Single n t) : w.Works n t := h.worksFor.works

theorem Single.conclude_eq (h : w.Single n t) (result : Except Exit Outturn) :
    w.conclude t result = w.setStage t (.ended (lastResult result)) := by
  obtain ⟨stage, ht⟩ := h.task
  rcases result with e | ⟨r | _⟩ <;> simp [conclude, finish, lastResult, ht]

theorem Single.beside (h : w.Single n t) (hbeside : Beside n t w w') : w'.Single n t := by
  obtain ⟨stage, ht⟩ := h.task
  obtain ⟨stage', ht'⟩ := hbeside.own _ ht
  exact ⟨hbeside.length ▸ h.known, stage', ht'⟩

/-- What comes of work that began in a world and was done alone: it has ended, and as the contracts
say that it meets. -/
structure Ended (n t : Nat) (w : World) (job : Job) (w' : World) (r : Except Exit Result) : Prop where
  stage : w'.stage? t = some (.ended r)
  beside : Beside n t w w'
  meets : ∀ (S : Surroundings) (s : Scene) (Q P : Except Exit Outturn → Scene → Prop),
    (∀ x, w.now ≤ x → x ≤ w'.now → S.within x) →
    w.Bears S t →
    w.site n = s.site → job.Meets S.alone Q s → job.Meets S.sole P s →
    ∃ result p f, Q result { site := w'.site n, published := p, forked := f } ∧
      P result { site := w'.site n, published := p, forked := f } ∧
      r = lastResult result ∧ Served n t w w' s.published p ∧ Forked n w w' s.forked f

/-- **Work that meets the contract comes to an end alone.** -/
theorem run_ends {job : Job} (h : w.Single n t) (hruns : w.Runs t) {Q : Except Exit Outturn → Scene → Prop}
    (hwithin : ∀ x, S.within x)
    (hbears : w.Bears S t)
    (hsite : w.site n = s.site) (hmeets : job.Meets S.alone Q s) :
    ∃ w' r, Alone t (run t job w) w' ∧ Ended n t w job w' r := by
  obtain ⟨v, result, hgoes, hran⟩ := runs_out h.worksFor hruns hwithin hbears hsite hmeets
  have hv := h.beside hran.beside
  rw [hv.conclude_eq] at hgoes
  obtain ⟨hbeside, huntouched, hcount⟩ :
      Beside n t v (v.setStage t (.ended (lastResult result))) ∧
        Untouched n t v (v.setStage t (.ended (lastResult result))) ∧ _ :=
    beside_setStage (Int.le_refl _) rfl rfl rfl
  refine ⟨_, lastResult result, hgoes.alone, stage?_setStage hv.worksFor _, hran.beside.trans hbeside, ?_⟩
  intro S s Q P hwithin hbears hsite hmeets hsole
  obtain ⟨p, f, hQ, hP, hserved, hforked⟩ := hran.meets S s Q P hwithin hbears hsite hmeets hsole
  exact ⟨result, p, f, hQ, hP, rfl, hserved.trans hran.beside (huntouched.served _) hbeside,
    hforked.trans (.of_count hcount f) hbeside⟩

end World

end Cutover
