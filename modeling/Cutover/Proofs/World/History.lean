import Cutover.Proofs.Control.Calling
import Cutover.Proofs.World.Alone

/-!
# Histories of calls

Calls on the run of one session are made side by side. A `History` lets them go on in any order, each
wait end at any time, and everything around them change that is no part of the core. Whoever is behind
the gate is known, and so is the line of those who wait for it; that is enough to say how each call
stands, and that nobody but whoever is behind the gate changes the core.

* `Gate.ofLine`: the gate as it looks with a line of tasks before it;
* `World.Standing`: how far a call has come, by its position;
* `World.Ordered`: **what holds all through a history**;
* `World.Move`, `World.History`: one thing that happens, and one after the other;
* `World.ordered_move`, `World.ordered_history`: a move and a history keep it.
-/

namespace Cutover

/-! ## Lines -/

/-- The gate with a line of tasks before it. The first of the line was called if nobody is inside. -/
def Gate.ofLine (held : Bool) : List Nat → Gate
  | [] => { held }
  | t :: rest =>
    { held, queue := (t, if held then .waiting else .granted) :: rest.map (·, .waiting) }

namespace Gate

variable {held : Bool} {line : List Nat} {t : Nat}

@[simp] theorem held_ofLine (held : Bool) (line : List Nat) : (ofLine held line).held = held := by
  cases line <;> rfl

theorem enter?_ofLine (h : held = true ∨ line ≠ []) : (ofLine held line).enter? = none := by
  rcases h with rfl | h
  · cases line <;> rfl
  · cases line with
    | nil => exact absurd rfl h
    | cons i rest => cases held <;> rfl

theorem queueUp_ofLine (h : held = true ∨ line ≠ []) (t : Nat) :
    (ofLine held line).queueUp t = ofLine held (line ++ [t]) := by
  cases line with
  | nil =>
    rcases h with rfl | h
    · rfl
    · exact absurd rfl h
  | cons i rest =>
    rw [List.cons_append]
    simp only [queueUp, ofLine, List.map_append, List.map_cons, List.map_nil, List.cons_append]

theorem letIn_ofLine {rest : List Nat} (h : t ∉ rest) :
    (ofLine false (t :: rest)).letIn t = ofLine true rest := by
  have hrest : ((rest.map fun i => (i, Ticket.waiting)).filter fun e => e.1 ≠ t) =
      rest.map fun i => (i, Ticket.waiting) := by
    rw [List.filter_eq_self]
    intro e he
    obtain ⟨i, hi, rfl⟩ := List.mem_map.mp he
    simpa using fun hit : i = t => h (hit ▸ hi)
  have hqueue : (ofLine false (t :: rest)).letIn t =
      { held := true, queue := rest.map fun i => (i, Ticket.waiting) } := by
    rw [← hrest]
    simp [letIn, ofLine]
  rw [hqueue]
  cases rest <;> rfl

theorem leave_ofLine (line : List Nat) : (ofLine true line).leave = (ofLine false line, line.head?) := by
  cases line <;> rfl

end Gate

/-- The position of a call at the gate. -/
inductive Position where
  | apart
  | queued
  | called
  | inside
  deriving DecidableEq

/-- The position of a task, by who is inside and who stands in the line. -/
def Position.of (holder : Option Nat) (line : List Nat) (t : Nat) : Position :=
  if holder = some t then .inside
  else if t ∈ line then if holder = none ∧ line.head? = some t then .called else .queued
  else .apart

namespace Position

variable {holder : Option Nat} {line : List Nat} {t i : Nat}

theorem of_inside (t : Nat) (line : List Nat) : Position.of (some t) line t = .inside := if_pos rfl

theorem of_apart (h : holder ≠ some t) (ht : t ∉ line) : Position.of holder line t = .apart := by
  rw [Position.of, if_neg h, if_neg ht]

theorem eq_inside : Position.of holder line t = .inside ↔ holder = some t := by
  unfold Position.of
  by_cases h : holder = some t
  · simp [h]
  · rw [if_neg h]
    refine ⟨fun hinside => ?_, fun hholder => absurd hholder h⟩
    split at hinside
    · split at hinside <;> cases hinside
    · cases hinside

theorem eq_apart (h : Position.of holder line t = .apart) : holder ≠ some t ∧ t ∉ line := by
  unfold Position.of at h
  split at h
  · cases h
  next hholder =>
    split at h
    · split at h <;> cases h
    next hline => exact ⟨hholder, hline⟩

theorem eq_called (h : Position.of holder line t = .called) :
    holder = none ∧ ∃ rest, line = t :: rest := by
  unfold Position.of at h
  split at h
  · cases h
  · split at h
    · split at h
      next hcalled =>
        refine ⟨hcalled.1, ?_⟩
        cases line with
        | nil => cases hcalled.2
        | cons i rest =>
          cases hcalled.2
          exact ⟨rest, rfl⟩
      · cases h
    · cases h

theorem of_append (hit : i ≠ t) (h : holder.isSome = true ∨ line ≠ []) :
    Position.of holder (line ++ [t]) i = Position.of holder line i := by
  have hmem : i ∈ line ++ [t] ↔ i ∈ line := by simp [hit]
  unfold Position.of
  simp only [hmem]
  cases line with
  | nil =>
    cases holder with
    | none => simp at h
    | some _ => rfl
  | cons j rest => rfl

theorem crowded (h : ¬(holder = none ∧ line = [])) : holder.isSome = true ∨ line ≠ [] := by
  cases holder with
  | none => exact .inr fun hnil => h ⟨rfl, hnil⟩
  | some _ => exact .inl rfl

theorem of_last (hholder : holder ≠ some t) (hline : t ∉ line) (h : ¬(holder = none ∧ line = [])) :
    Position.of holder (line ++ [t]) t = .queued := by
  have hhead : ¬ (holder = none ∧ (line ++ [t]).head? = some t) := by
    rintro ⟨rfl, hhead⟩
    cases line with
    | nil => exact h ⟨rfl, rfl⟩
    | cons i rest =>
      cases hhead
      exact hline List.mem_cons_self
  rw [Position.of, if_neg hholder, if_pos (List.mem_append_right _ (List.mem_singleton_self t)), if_neg hhead]

theorem of_letIn {rest : List Nat} (hit : i ≠ t) :
    Position.of (some t) rest i = Position.of none (t :: rest) i := by
  have hmem : i ∈ t :: rest ↔ i ∈ rest := by simp [hit]
  have hsome : some t ≠ some i := fun h => hit (Option.some.inj h).symm
  unfold Position.of
  simp [hmem, hsome]

theorem of_leave (hit : i ≠ t) : Position.of none line i = Position.of (some t) line i ∨
    Position.of (some t) line i = .queued ∧ Position.of none line i = .called := by
  have hsome : some t ≠ some i := fun h => hit (Option.some.inj h).symm
  unfold Position.of
  simp only [if_neg hsome]
  by_cases hmem : i ∈ line
  · by_cases hhead : line.head? = some i
    · exact .inr (by simp [hmem, hhead])
    · exact .inl (by simp [hmem, hhead])
  · exact .inl (by simp [hmem])

end Position

namespace World

/-! ## How calls stand -/

/-- The rest of the work of a call that stands somewhere. -/
def Goes (S : Surroundings) (I : Core → Prop) (job : Job) (st : Stand) : Prop :=
  job.Meets (S.calling I) (fun _ st => st = .outside) st

/-- **How far a call has come**, by its position at the gate and the core. -/
inductive Standing (S : Surroundings) (I : Core → Prop) (c : Core) : Position → Stage → Prop
  | fresh {job : Job} (goes : Goes S I job .outside) : Standing S I c .apart (.fresh job)
  | ended {r : Except Exit Result} : Standing S I c .apart (.ended r)
  | atGate {p : Position} {next : Waited Unit → Job} (position : p = .queued ∨ p = .called)
    (goes : ∀ s, I s.site.core → S.At s.site.core [] s → Goes S I (next (.back ())) (.inside s)) :
    Standing S I c p (.waiting (.acquire .state) next none)
  | called {next : Waited Unit → Job}
    (goes : ∀ s, I s.site.core → S.At s.site.core [] s → Goes S I (next (.back ())) (.inside s)) :
    Standing S I c .called (.woken (.acquire .state) next (.back ()))
  | waiting {e : Effect} {next : e.Reply → Job} {alarm : Option (Alarm e.Reply)}
    {p : List (Option RunState)} (ends : ∀ a, alarm = some a → S.Ends e a.reply)
    (goes : ∀ r s, S.Ends e r → S.At c p s → Goes S I (next r) (.inside s)) :
    Standing S I c .inside (.waiting e next alarm)
  | woken {e : Effect} {next : e.Reply → Job} {r : e.Reply} {p : List (Option RunState)}
    (ends : S.Ends e r) (goes : ∀ s, S.At c p s → Goes S I (next r) (.inside s)) :
    Standing S I c .inside (.woken e next r)

section
variable {S : Surroundings} {I : Core → Prop} {c d : Core} {p : Position} {stage stage' : Stage}

theorem Standing.of_core (h : Standing S I c p stage) (hp : p ≠ .inside) : Standing S I d p stage := by
  cases h with
  | fresh goes => exact .fresh goes
  | ended => exact .ended
  | atGate position goes => exact .atGate position goes
  | called goes => exact .called goes
  | waiting _ _ => exact absurd rfl hp
  | woken _ _ => exact absurd rfl hp

theorem Standing.first (h : Standing S I c .queued stage) : Standing S I c .called stage := by
  cases h with
  | atGate _ goes => exact .atGate (.inr rfl) goes

theorem Standing.eq_of_roused (h : Standing S I c p stage) (hp : p ≠ .inside)
    (hroused : stage.Roused stage') : stage' = stage := by
  cases hroused with
  | same _ => rfl
  | woken hpassive =>
    cases h with
    | atGate _ _ => cases hpassive
    | waiting _ _ => exact absurd rfl hp

end

/-! ## What holds all through a history -/

/-- The calls that were made: the task of each and what was asked. -/
abbrev Calls := List (Nat × RunAction)

/-- **What holds all through a history** of calls on the run of a session that began with some core:
who is behind the gate, who stands in the line, and how every call stands but the one that works just
now. -/
structure Ordered (c₀ : Core) (n : Nat) (calls : Calls) (busy holder : Option Nat) (line : List Nat)
    (w : World) : Prop where
  known : n < w.sessions.length
  within : c₀.session.board.dated w.now = .ok ()
  replies : w.script.Replies Call.getResources.message fun l => l.outcome.isReply = true
  tasks : ∀ t a, (t, a) ∈ calls → ∃ stage, w.tasks[t]? = some { session := n, stage } ∧
    (busy ≠ some t → Standing (.ofCall c₀ a.begins) c₀.Ready (w.site n).core (.of holder line t) stage)
  single : ∀ t a b, (t, a) ∈ calls → (t, b) ∈ calls → a = b
  gate : (w.session n).stateGate = .ofLine holder.isSome line
  free : holder = none → c₀.Ready (w.site n).core
  nodup : line.Nodup
  member : ∀ t, holder = some t ∨ t ∈ line → ∃ a, (t, a) ∈ calls
  apart : ∀ t, holder = some t → t ∉ line

namespace Ordered

variable {c₀ : Core} {n t i : Nat} {a : RunAction} {calls : Calls} {busy holder holder' : Option Nat}
variable {line line' : List Nat} {w w' : World} {stage : Stage}

theorem works (h : Ordered c₀ n calls busy holder line w) (ht : (t, a) ∈ calls) : w.Works n t := by
  obtain ⟨stage, hstage, _⟩ := h.tasks t a ht
  exact ⟨by rw [sessionOf, hstage], h.known⟩

theorem answers (h : Ordered c₀ n calls busy holder line w) {b : Bool} :
    w.Answers (.ofCall c₀ b) := by
  intro m
  by_cases hm : m = Call.getResources.message
  · subst hm
    exact h.replies.mono fun l hl _ => hl
  · exact .of_forall fun _ heq => absurd heq hm

theorem lt (h : Ordered c₀ n calls busy holder line w) (ht : (t, a) ∈ calls) :
    t < w.tasks.length := by
  obtain ⟨stage, hstage, _⟩ := h.tasks t a ht
  exact (List.getElem?_eq_some_iff.mp hstage).1

theorem begun (h : Ordered c₀ n calls none holder line w) (t : Nat) :
    Ordered c₀ n calls (some t) holder line w :=
  { h with
    tasks := fun i a hi => by
      obtain ⟨stage, hstage, hstanding⟩ := h.tasks i a hi
      exact ⟨stage, hstage, fun _ => hstanding nofun⟩ }

/-- What is no part of the core may change, and what is part of it by whoever is behind the gate. -/
theorem transfer (h : Ordered c₀ n calls busy holder line w)
    (hlength : w.sessions.length ≤ w'.sessions.length)
    (hwithin : c₀.session.board.dated w'.now = .ok ())
    (hreplies : w'.script.Replies Call.getResources.message fun l => l.outcome.isReply = true)
    (hgate : (w'.session n).stateGate = (w.session n).stateGate)
    (hcore : (w'.site n).core = (w.site n).core ∨ ∃ t, busy = some t ∧ holder = some t)
    (htasks : ∀ t a task, (t, a) ∈ calls → w.tasks[t]? = some task →
      ∃ stage, w'.tasks[t]? = some { task with stage } ∧ (busy ≠ some t → stage = task.stage)) :
    Ordered c₀ n calls busy holder line w' where
  known := Nat.lt_of_lt_of_le h.known hlength
  within := hwithin
  replies := hreplies
  tasks t a ht := by
    obtain ⟨stage, hstage, hstanding⟩ := h.tasks t a ht
    obtain ⟨stage', hstage', hsame⟩ := htasks t a _ ht hstage
    refine ⟨stage', hstage', fun hbusy => ?_⟩
    rw [hsame hbusy]
    rcases hcore with hcore | ⟨i, hi, hholder⟩
    · rw [hcore]
      exact hstanding hbusy
    · refine (hstanding hbusy).of_core fun hinside => hbusy ?_
      rw [Position.eq_inside] at hinside
      rw [hi, ← hholder, hinside]
  single := h.single
  gate := hgate.trans h.gate
  free hnone := by
    rcases hcore with hcore | ⟨i, hi, hholder⟩
    · rw [hcore]
      exact h.free hnone
    · rw [hnone] at hholder
      cases hholder
  nodup := h.nodup
  member := h.member
  apart := h.apart

theorem restage {busy' : Option Nat} (h : Ordered c₀ n calls busy holder line w)
    (hbusy : ∀ j, j ≠ i → busy' ≠ some j → busy ≠ some j)
    (hs : ∀ a, (i, a) ∈ calls → busy' ≠ some i →
      Standing (.ofCall c₀ a.begins) c₀.Ready (w.site n).core (.of holder line i) stage) :
    Ordered c₀ n calls busy' holder line (w.setStage i stage) :=
  { h with
    tasks := fun t a ht => by
      obtain ⟨before, hbefore, hstanding⟩ := h.tasks t a ht
      by_cases hit : i = t
      · subst hit
        exact ⟨stage, tasks_setStage_self hbefore, hs a ht⟩
      · refine ⟨before, (tasks_setStage_ne hit).trans hbefore, fun hnow => ?_⟩
        exact hstanding (hbusy t (Ne.symm hit) hnow) }

theorem enqueue (h : Ordered c₀ n calls busy holder line w) (t laps : Nat) :
    Ordered c₀ n calls busy holder line (w.enqueue t laps) := { h with }

theorem regate {g : Gate} (h : Ordered c₀ n calls (some t) holder line w)
    (hgate : g = .ofLine holder'.isSome line') (hnodup : line'.Nodup)
    (hmember : ∀ i, holder' = some i ∨ i ∈ line' → ∃ a, (i, a) ∈ calls)
    (hapart : ∀ i, holder' = some i → i ∉ line')
    (hfree : holder' = none → c₀.Ready (w.site n).core)
    (hpos : ∀ i, i ≠ t → Position.of holder' line' i = Position.of holder line i ∨
      Position.of holder line i = .queued ∧ Position.of holder' line' i = .called) :
    Ordered c₀ n calls (some t) holder' line' (w.onSession n fun s => s.setGate g .state) := by
  have hsite := site_onSession h.known fun s => s.setGate g .state
  have hcore : ((w.onSession n fun s => s.setGate g .state).site n).core = (w.site n).core := by
    rw [hsite]
    rfl
  exact
    { known := by
        rw [onSession, List.length_set]
        exact h.known
      within := h.within
      replies := h.replies
      tasks := fun i a hi => by
        obtain ⟨stage, hstage, hstanding⟩ := h.tasks i a hi
        refine ⟨stage, hstage, fun hbusy => ?_⟩
        have hstanding := hstanding hbusy
        rw [hcore]
        rcases hpos i fun hit => hbusy (hit ▸ rfl) with hsame | ⟨hqueued, hcalled⟩
        · rw [hsame]
          exact hstanding
        · rw [hcalled]
          rw [hqueued] at hstanding
          exact hstanding.first
      single := h.single
      gate := (congrArg (·.session.stateGate) hsite).trans hgate
      free := fun hnone => by
        rw [hcore]
        exact hfree hnone
      nodup := hnodup
      member := hmember
      apart := hapart }

end Ordered

/-! ## A call that works -/

section
variable {c₀ : Core} {n t i : Nat} {a : RunAction} {calls : Calls} {busy holder : Option Nat}
variable {line : List Nat} {w w' : World} {q : Stand}

theorem ordered_wakeAtGate (h : Ordered c₀ n calls busy holder line w)
    (hcalled : Position.of holder line i = .called) :
    Ordered c₀ n calls busy holder line (w.wakeAtGate i) := by
  unfold wakeAtGate
  split
  next g next alarm hstage =>
    refine (h.restage (fun _ _ h => h) fun a ha hbusy => ?_).enqueue i 0
    obtain ⟨stage, htask, hstanding⟩ := h.tasks i a ha
    have hstanding := hstanding hbusy
    rw [hcalled] at hstanding ⊢
    rw [htask] at hstage
    cases hstage
    cases hstanding with
    | atGate _ goes => exact .called goes
  next => exact h

/-- Where the call stands that works just now. -/
def Stands (holder : Option Nat) (line : List Nat) (t : Nat) (x : Site) : Stand → Prop
  | .outside => holder ≠ some t ∧ t ∉ line
  | .inside s => holder = some t ∧ s.site = x

/-- What a call may do to the core: store something where nothing was stored only if a run begins. -/
abbrev Grants (c₀ : Core) (a : RunAction) (n : Nat) (w w' : World) : Prop :=
  (Surroundings.ofCall c₀ a.begins).grants (w.site n).core (w'.site n).core

theorem Grants.of_core (h : (w'.site n).core = (w.site n).core) : Grants c₀ a n w w' :=
  (Surroundings.ofCall c₀ a.begins).grants_of_storage (congrArg Core.storage h)

theorem Grants.trans {w'' : World} (h : Grants c₀ a n w w') (h' : Grants c₀ a n w' w'') :
    Grants c₀ a n w w'' := by
  rcases h with hbegins | h
  · exact .inl hbegins
  · exact h'.imp_right fun h' hnone => h' (h hnone)

theorem grants_of_leads {S : Surroundings} {s s' : Scene} {e : Effect} {r : e.Reply}
    (hallows : S.Allows s e) (hleads : S.Leads s e r s') : S.grants s.site.core s'.site.core := by
  have hat : ∀ {c : Core} {p : List (Option RunState)}, c.storage = s.site.core.storage →
      S.At c p s' → S.grants s.site.core s'.site.core := by
    intro c p hstorage h
    refine S.grants_of_storage ?_
    rw [h.core, hstorage]
  cases e with
  | look =>
    obtain ⟨-, rfl⟩ := hleads
    exact S.grants_of_storage rfl
  | change x =>
    cases hleads
    exact hallows.2.2
  | acquire g => exact hat (c := Surroundings.gated true s.site.core) rfl hleads.2
  | release g => exact hat (c := Surroundings.gated false s.site.core) rfl hleads
  | sleep d => exact hat rfl hleads.2
  | storageTurn => exact hat rfl hleads.2
  | send m => exact hat rfl hleads.2
  | raiseLatch => exact hat (c := Surroundings.raised s.site.core) rfl hleads
  | publish item => exact hat rfl hleads
  | _ => exact absurd hallows id

theorem inside_cases {S : Surroundings} {I : Core → Prop} {s : Scene} {e : Effect}
    (h : S.AllowsCall I (.inside s) e) : e = .release .state ∧ I s.site.core ∨
      S.Allows s e ∧ ∀ r s', S.Leads s e r s' → S.LeadsCall I (.inside s) e r (.inside s') := by
  cases e with
  | release g =>
    cases g with
    | state => exact .inl ⟨rfl, h⟩
    | fetch => exact .inr ⟨h, fun r s' hleads => ⟨s', rfl, hleads⟩⟩
  | _ => exact .inr ⟨h, fun r s' hleads => ⟨s', rfl, hleads⟩⟩

theorem outside_cases {S : Surroundings} {I : Core → Prop} {e : Effect}
    (h : S.AllowsCall I .outside e) : e = .look ∨ e = .acquire .state := by
  cases e with
  | look => exact .inl rfl
  | acquire g =>
    cases g with
    | state => exact .inr rfl
    | fetch => exact absurd h id
  | _ => exact absurd h id

/-- **Work behind the gate keeps the order**: the reply leads on, or a wait begins. -/
theorem ordered_inside {s : Scene} {e : Effect} {next : e.Reply → Job}
    (ha : (t, a) ∈ calls) (h : Ordered c₀ n calls (some t) holder line w) (hruns : w.Runs t)
    (hholder : holder = some t) (hsite : s.site = w.site n)
    (hallows : (Surroundings.ofCall c₀ a.begins).Allows s e)
    (hgoes : ∀ r s', (Surroundings.ofCall c₀ a.begins).Leads s e r s' →
      Goes (.ofCall c₀ a.begins) c₀.Ready (next r) (.inside s')) :
    (∃ w' r s', w.perform t e = (w', .reply r) ∧ Ordered c₀ n calls (some t) holder line w' ∧
      w'.Runs t ∧ s'.site = w'.site n ∧ (Surroundings.ofCall c₀ a.begins).Leads s e r s' ∧
      Grants c₀ a n w w') ∨
    ∃ w' alarm, w.perform t e = (w', .wait alarm) ∧
      Ordered c₀ n calls none holder line (w'.setStage t (.waiting e next alarm)) ∧
      (w'.site n).core = (w.site n).core := by
  have hperformed := performed (h.works ha) hruns hsite.symm hallows h.within h.answers
  have hcore : (w.site n).core = s.site.core := by rw [hsite]
  have htransfer : ∀ {w'}, Aside n t w w' → Ordered c₀ n calls (some t) holder line w' := by
    intro w' haside
    refine h.transfer (Nat.le_of_eq haside.length.symm) ?_ (haside.replies _ _ h.replies) haside.gate
      (.inr ⟨t, rfl, hholder⟩) fun i b task hi htask => ?_
    · rw [haside.instant]
      exact h.within
    · by_cases hit : i = t
      · subst hit
        exact ⟨task.stage, haside.stays.trans htask, fun hbusy => absurd rfl hbusy⟩
      · obtain ⟨stage', hstage', hroused⟩ := haside.tasks i task hit htask
        refine ⟨stage', hstage', fun hbusy => ?_⟩
        obtain ⟨stage, hstage, hstanding⟩ := h.tasks i b hi
        rw [hstage] at htask
        cases htask
        refine (hstanding hbusy).eq_of_roused ?_ hroused
        rw [Ne, Position.eq_inside, hholder]
        exact fun hti => hit (Option.some.inj hti).symm
  generalize hx : w.perform t e = x at hperformed
  cases hperformed with
  | @reply w' r p leads aside _ =>
    refine .inl ⟨w', r, _, rfl, htransfer aside, aside.runs hruns, rfl, leads, ?_⟩
    have hgrants := grants_of_leads hallows leads
    rw [← hcore] at hgrants
    exact hgrants
  | @wait w' alarm site aside _ ends _ =>
    have hcore' : (w'.site n).core = (w.site n).core := by rw [site, hsite]
    refine .inr ⟨w', alarm, rfl, ?_, hcore'⟩
    refine (htransfer aside).restage (fun j hj _ hjt => hj (Option.some.inj hjt).symm)
      fun b hb _ => ?_
    cases h.single t b a hb ha
    rw [hholder, Position.of_inside]
    refine .waiting (p := s.published) ends fun r s' hends hat => hgoes r s' ?_
    rw [hcore', hcore] at hat
    exact Surroundings.leads_of_ends hends hat

/-! ## Entering, waiting and leaving -/

theorem site_wakeAtGate (w : World) (i n : Nat) : (w.wakeAtGate i).site n = w.site n := by
  unfold wakeAtGate
  split <;> rfl

theorem core_setGate (hn : n < w.sessions.length) (g : Gate) :
    ((w.onSession n fun s => s.setGate g .state).site n).core = (w.site n).core := by
  rw [site_onSession hn]
  rfl

theorem ordered_enter (ha : (t, a) ∈ calls) (h : Ordered c₀ n calls (some t) none [] w) :
    Ordered c₀ n calls (some t) (some t) []
      (w.onSession n fun s => s.setGate { held := true } .state) := by
  refine h.regate rfl List.nodup_nil ?_ (fun _ _ => List.not_mem_nil) nofun fun i hit => .inl ?_
  · rintro i (hi | hi)
    · cases hi
      exact ⟨a, ha⟩
    · cases hi
  · have hne : some t ≠ some i := fun hti => hit (Option.some.inj hti).symm
    rw [Position.of_apart hne List.not_mem_nil, Position.of_apart (by nofun) List.not_mem_nil]

theorem onSession_letIn {rest : List Nat} (hgate : (w.session n).stateGate = .ofLine false (t :: rest))
    (ht : t ∉ rest) : (w.onSession n fun s => s.setGate ((s.gate .state).letIn t) .state) =
      w.onSession n fun s => s.setGate (.ofLine true rest) .state := by
  have hstate : (w.session n).gate .state = .ofLine false (t :: rest) := hgate
  rw [onSession, onSession, hstate, Gate.letIn_ofLine ht]

theorem onSession_queueUp {held : Bool} (hgate : (w.session n).stateGate = .ofLine held line)
    (h : held = true ∨ line ≠ []) (t : Nat) : (w.onSession n fun s => s.setGate ((s.gate .state).queueUp t) .state) =
      w.onSession n fun s => s.setGate (.ofLine held (line ++ [t])) .state := by
  have hstate : (w.session n).gate .state = .ofLine held line := hgate
  rw [onSession, onSession, hstate, Gate.queueUp_ofLine h]

theorem ordered_letIn {rest : List Nat} (h : Ordered c₀ n calls (some t) none (t :: rest) w) :
    Ordered c₀ n calls (some t) (some t) rest
      (w.onSession n fun s => s.setGate ((s.gate .state).letIn t) .state) := by
  obtain ⟨ht, hrest⟩ := List.nodup_cons.mp h.nodup
  rw [onSession_letIn h.gate ht]
  refine h.regate rfl hrest ?_ ?_ (fun hnone => ?_) fun i hit => .inl (Position.of_letIn hit)
  · rintro i (hi | hi)
    · cases hi
      exact h.member t (.inr List.mem_cons_self)
    · exact h.member i (.inr (List.mem_cons_of_mem _ hi))
  · rintro i hi
    cases hi
    exact ht
  · cases hnone

theorem ordered_queueUp (ha : (t, a) ∈ calls) (h : Ordered c₀ n calls (some t) holder line w)
    (hholder : holder ≠ some t) (hline : t ∉ line) (hwait : holder.isSome = true ∨ line ≠ []) :
    Ordered c₀ n calls (some t) holder (line ++ [t])
      (w.onSession n fun s => s.setGate ((s.gate .state).queueUp t) .state) := by
  rw [onSession_queueUp h.gate hwait]
  refine h.regate rfl ?_ ?_ ?_ h.free fun i hit => .inl (Position.of_append hit hwait)
  · refine List.nodup_append.mpr ⟨h.nodup, List.nodup_cons.mpr ⟨List.not_mem_nil, .nil⟩, ?_⟩
    rintro i hi j hj rfl
    exact hline (List.mem_singleton.mp hj ▸ hi)
  · rintro i (hi | hi)
    · exact h.member i (.inl hi)
    · rcases List.mem_append.mp hi with hi | hi
      · exact h.member i (.inr hi)
      · exact ⟨a, List.mem_singleton.mp hi ▸ ha⟩
  · intro i hi hmem
    rcases List.mem_append.mp hmem with hmem | hmem
    · exact h.apart i hi hmem
    · exact hholder (List.mem_singleton.mp hmem ▸ hi)

/-- Whoever is behind the gate leaves it as it should be, and the first of the line is called. -/
theorem ordered_leave (h : Ordered c₀ n calls (some t) (some t) line w)
    (hready : c₀.Ready (w.site n).core) :
    Ordered c₀ n calls (some t) none line
        (w.callAtGate n .state ((w.session n).gate .state).leave) ∧
      ((w.callAtGate n .state ((w.session n).gate .state).leave).site n).core = (w.site n).core := by
  have hgate : (w.session n).gate .state = .ofLine true line := h.gate
  have hopened : Ordered c₀ n calls (some t) none line
      (w.onSession n fun s => s.setGate (.ofLine false line) .state) := by
    refine h.regate rfl h.nodup ?_ nofun (fun _ => hready) fun i hit => Position.of_leave hit
    rintro i (hi | hi)
    · cases hi
    · exact h.member i (.inr hi)
  rw [hgate, Gate.leave_ofLine, callAtGate]
  cases line with
  | nil => exact ⟨hopened, core_setGate h.known _⟩
  | cons i rest =>
    refine ⟨ordered_wakeAtGate hopened (by simp [Position.of]), ?_⟩
    exact (congrArg Site.core (site_wakeAtGate ..)).trans (core_setGate h.known _)

theorem runs_callAtGate (hruns : w.Runs t) (r : Gate × Option Nat) :
    (w.callAtGate n .state r).Runs t := by
  intro e next alarm hwait
  rw [callAtGate] at hwait
  split at hwait
  next i _ =>
    unfold wakeAtGate at hwait
    split at hwait
    next g next' alarm' hstage =>
      by_cases hit : i = t
      · subst hit
        exact hruns _ _ _ hstage
      · refine hruns e next alarm ?_
        rw [← hwait]
        simp [stage?, enqueue, setStage, onTask, hit]
        rfl
    next => exact hruns e next alarm hwait
  next => exact hruns e next alarm hwait

/-- **A call outside of the gate keeps the order**: it goes through or joins the line. -/
theorem ordered_acquire {next : Waited Unit → Job} (ha : (t, a) ∈ calls)
    (h : Ordered c₀ n calls (some t) holder line w) (hholder : holder ≠ some t) (hline : t ∉ line)
    (hgoes : ∀ s, c₀.Ready s.site.core → (Surroundings.ofCall c₀ a.begins).At s.site.core [] s →
      Goes (.ofCall c₀ a.begins) c₀.Ready (next (.back ())) (.inside s)) :
    (∃ w', w.acquire t .state = (w', .reply (.back ())) ∧ holder = none ∧ line = [] ∧
      Ordered c₀ n calls (some t) (some t) [] w' ∧ w'.tasks = w.tasks ∧
      (w'.site n).core = (w.site n).core) ∨
    ∃ w' line', w.acquire t .state = (w', .wait none) ∧
      Ordered c₀ n calls none holder line' (w'.setStage t (.waiting (.acquire .state) next none)) ∧
      (w'.site n).core = (w.site n).core := by
  have hworks := h.works ha
  by_cases hopen : holder = none ∧ line = []
  · obtain ⟨rfl, rfl⟩ := hopen
    exact .inl ⟨_, acquire_free hworks (g := .state) h.gate, rfl, rfl, ordered_enter ha h, rfl,
      core_setGate h.known _⟩
  · have hwait := Position.crowded hopen
    have hgate : (w.session n).gate .state = .ofLine holder.isSome line := h.gate
    refine .inr ⟨w.onSession n fun s => s.setGate ((s.gate .state).queueUp t) .state, line ++ [t],
      ?_, ?_, core_setGate h.known _⟩
    · simp only [acquire, hworks.session, hgate, Gate.enter?_ofLine hwait]
    · refine (ordered_queueUp ha h hholder hline hwait).restage
        (fun j hj _ hjt => hj (Option.some.inj hjt).symm) fun b hb _ => ?_
      cases h.single t b a hb ha
      rw [Position.of_last hholder hline hopen]
      exact .atGate (.inl rfl) hgoes

theorem ordered_conclude (ha : (t, a) ∈ calls) (h : Ordered c₀ n calls (some t) holder line w)
    (hholder : holder ≠ some t) (hline : t ∉ line) (r : Except Exit Outturn) :
    w.conclude t r = w.setStage t (.ended (lastResult r)) ∧
      Ordered c₀ n calls none holder line (w.setStage t (.ended (lastResult r))) := by
  obtain ⟨stage, hstage, _⟩ := h.tasks t a ha
  have hsingle : w.Single n t := ⟨h.known, stage, hstage⟩
  refine ⟨hsingle.conclude_eq r, ?_⟩
  refine h.restage (fun j hj _ hjt => hj (Option.some.inj hjt).symm) fun _ _ _ => ?_
  rw [Position.of_apart hholder hline]
  exact .ended

/-- **A call keeps the order while it works**, until it waits or ends. -/
theorem ordered_run {j : Job} (ha : (t, a) ∈ calls)
    (h : Ordered c₀ n calls (some t) holder line w) (hruns : w.Runs t)
    (hstands : Stands holder line t (w.site n) q)
    (hgoes : Goes (.ofCall c₀ a.begins) c₀.Ready j q) :
    ∃ holder' line', Ordered c₀ n calls none holder' line' (run t j w) ∧
      Grants c₀ a n w (run t j w) := by
  induction j generalizing w q holder line with
  | done result =>
    cases hgoes
    obtain ⟨hholder, hline⟩ := hstands
    obtain ⟨hconclude, hordered⟩ := ordered_conclude ha h hholder hline result
    rw [run, hconclude]
    exact ⟨holder, line, hordered, .of_core rfl⟩
  | ask e next ih =>
    obtain ⟨hallows, hnext⟩ := hgoes
    rw [run]
    cases q with
    | outside =>
      obtain ⟨hholder, hline⟩ := hstands
      rcases outside_cases hallows with rfl | rfl
      · exact ih _ h hruns (q := .outside) ⟨hholder, hline⟩ (hnext _ .outside rfl)
      · rcases ordered_acquire ha h hholder hline fun s hI hat =>
          hnext (.back ()) _ ⟨rfl, s, rfl, hI, hat⟩ with
          ⟨w', hperform, rfl, rfl, hordered, htasks, hcore⟩ |
          ⟨w', line', hperform, hordered, hcore⟩
        · rw [perform, hperform]
          have hruns' : w'.Runs t := by
            unfold Runs stage?
            rw [htasks]
            exact hruns
          have hready : c₀.Ready (w'.site n).core := hcore ▸ h.free rfl
          obtain ⟨holder', line', hordered', hgrants⟩ := ih (.back ()) hordered hruns'
            (q := .inside ⟨w'.site n, [], []⟩) ⟨rfl, rfl⟩
            (hnext (.back ()) _ ⟨rfl, _, rfl, hready, rfl, rfl, hordered.within⟩)
          exact ⟨holder', line', hordered', .trans (.of_core hcore) hgrants⟩
        · rw [perform, hperform]
          exact ⟨holder, line', hordered, .of_core hcore⟩
    | inside s =>
      obtain ⟨rfl, hsite⟩ := hstands
      rcases inside_cases hallows with ⟨rfl, hI⟩ | ⟨hbehind, hleads⟩
      · have hready : c₀.Ready (w.site n).core := hsite ▸ hI
        obtain ⟨hordered, hcore⟩ := ordered_leave h hready
        simp only [perform, (h.works ha).session]
        obtain ⟨holder', line', hordered', hgrants⟩ := ih () hordered (runs_callAtGate hruns _)
          (q := .outside) ⟨(Option.some_ne_none t).symm, h.apart t rfl⟩ (hnext () .outside rfl)
        exact ⟨holder', line', hordered', .trans (.of_core hcore) hgrants⟩
      · rcases ordered_inside ha h hruns rfl hsite hbehind
          (fun r s' hl => hnext r _ (hleads r s' hl)) with
          ⟨w', r, s', hperform, hordered, hruns', hsite', hl, hgrants⟩ |
          ⟨w', alarm, hperform, hordered, hcore⟩
        · rw [hperform]
          obtain ⟨holder', line', hordered', hgrants'⟩ := ih r hordered hruns'
            (q := .inside s') ⟨rfl, hsite'⟩ (hnext r _ (hleads r s' hl))
          exact ⟨holder', line', hordered', hgrants.trans hgrants'⟩
        · rw [hperform]
          exact ⟨some t, line, hordered, .of_core hcore⟩

end

end World

end Cutover
