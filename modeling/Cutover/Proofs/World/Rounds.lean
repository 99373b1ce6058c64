import Cutover.Proofs.World.AtOnce
import Cutover.Proofs.World.Reading

/-!
# What a reader does in one round

Once a reader has been given something it works without a wait until its round is done: it reports the item, and
with its last item it leaves its place. What is to be remembered of that is known from the world alone.

* `World.tidings`, `World.tidingsOf`: **what is to be remembered of the work of a task**, effect after effect;
* `witnessed`: the contract of work that only looks at the site and changes it, with what is remembered;
* `World.run_witnessed`: such work is done at once;
* `Reader.meets_given`, `Reader.meets_begin`: **what a reader does** with an item, and when it takes its place.
-/

namespace Cutover

/-- The numbers of the readers that were not there before. -/
def Session.newcomers (before after : Session) : List Nat :=
  (after.streams.map Stream.number).filter fun k => k ∉ before.streams.map Stream.number

theorem Session.newcomers_of_subset {s s' : Session}
    (h : ∀ k ∈ s'.streams.map Stream.number, k ∈ s.streams.map Stream.number) : s.newcomers s' = [] :=
  List.filter_eq_nil_iff.mpr fun k hk => by simpa using h k hk

namespace World

/-- What is to be remembered of an effect in a session. -/
def tiding (w : World) (n : Nat) : Effect → List Tiding
  | .change y => ((w.session n).newcomers y.session).map fun k => .entered n k y.session.state
  | .publish item => [.published n item]
  | _ => []

/-- **What is to be remembered of the work of a task**, effect after effect. -/
def tidings (t : Nat) : Job → World → List Tiding
  | .done _, _ => []
  | .ask e next, w => w.tiding (w.sessionOf t) e ++
    match w.perform t e with
    | (w', .reply r) => tidings t (next r) w'
    | (_, .wait _) => []

/-- What is to be remembered when a task goes on. -/
def tidingsOf (w : World) (t : Nat) : List Tiding :=
  match (w.tasks[t]?).map Task.stage with
  | some (.fresh job) => tidings t job w
  | some (.woken e next reply) => tidings t (next reply) (w.settleAtGate t e reply)
  | _ => []

end World

/-- A site, and what is to be remembered so far. -/
structure Witnessed where
  site : Site
  tidings : List Tiding

/-- **The contract of work in a session that only looks at the site and changes it.** -/
def witnessed (n : Nat) : Contract Witnessed where
  allows
    | _, .look | _, .change _ => True
    | _, _ => False
  leads
    | s, .look, r, s' => r = s.site ∧ s' = s
    | s, .change y, _, s' => s' = ⟨{ y with now := s.site.now },
        s.tidings ++ (s.site.session.newcomers y.session).map fun k => .entered n k y.session.state⟩
    | _, _, _, _ => False

section
variable {n : Nat} {s : Witnessed}

theorem witnessed_session {Q : Except Exit Session → Witnessed → Prop} (h : Q (.ok s.site.session) s) :
    Op.session.Meets (witnessed n) Q s := by
  refine Op.meets_bind.mpr (Op.meets_lift.mpr ⟨trivial, ?_⟩)
  rintro _ _ ⟨rfl, rfl⟩
  exact h

theorem witnessed_update {f : Site → Site} {Q : Unit → Witnessed → Prop}
    (hf : ∀ k ∈ (f s.site).session.streams.map Stream.number, k ∈ s.site.session.streams.map Stream.number)
    (h : Q () ⟨{ f s.site with now := s.site.now }, s.tidings⟩) : (Work.update f).Meets (witnessed n) Q s := by
  refine ⟨trivial, ?_⟩
  rintro _ _ ⟨rfl, rfl⟩
  refine ⟨trivial, ?_⟩
  rintro _ _ rfl
  rw [Session.newcomers_of_subset hf, List.map_nil, List.append_nil]
  exact h

end

namespace World

variable {n t : Nat} {w : World} {task : Task} {l : List Tiding}

/-- **Work that only looks and changes is done at once**, and so is what is to be remembered of it. -/
theorem run_witnessed {job : Job} {Q : Except Exit Outturn → Witnessed → Prop} (ht : w.tasks[t]? = some task)
    (hn : task.session < w.sessions.length) (h : job.Meets (witnessed task.session) Q ⟨w.site task.session, l⟩) :
    ∃ r y l', Q r ⟨y, l ++ l'⟩ ∧ tidings t job w = l' ∧ run t job w = (w.setSite task.session y).conclude t r := by
  induction job generalizing w l with
  | done r =>
    refine ⟨r, w.site task.session, [], ?_, rfl, ?_⟩
    · rw [List.append_nil]
      exact h
    · rw [run, setSite_site hn]
  | ask e next ih =>
    obtain ⟨hallows, hnext⟩ := h
    have hsession : w.sessionOf t = task.session := by simp only [sessionOf, ht]
    cases e with
    | look =>
      have hrun : run t (.ask .look next) w = run t (next (w.site task.session)) w := by
        rw [run, perform, hsession]
      have htidings : tidings t (.ask .look next) w = tidings t (next (w.site task.session)) w := by
        rw [tidings, perform, hsession]
        rfl
      rw [hrun, htidings]
      exact ih _ ht hn (hnext _ _ ⟨rfl, rfl⟩)
    | change y =>
      have hrun : run t (.ask (.change y) next) w = run t (next ()) (w.setSite task.session y) := by
        rw [run, perform, hsession]
      have htidings : tidings t (.ask (.change y) next) w =
          (((w.session task.session).newcomers y.session).map fun k => .entered task.session k y.session.state) ++
            tidings t (next ()) (w.setSite task.session y) := by
        rw [tidings, perform, hsession]
        rfl
      have hn' : task.session < (w.setSite task.session y).sessions.length := by simpa [World.setSite] using hn
      have hmeets := hnext () _ rfl
      rw [show ({ y with now := (w.site task.session).now } : Site) = (w.setSite task.session y).site task.session from
        (site_setSite hn y).symm] at hmeets
      obtain ⟨r, y', l', hQ, hl', hrun'⟩ := ih () (w := w.setSite task.session y) ht hn' hmeets
      refine ⟨r, y', (((w.session task.session).newcomers y.session).map fun k =>
        .entered task.session k y.session.state) ++ l', ?_, ?_, ?_⟩
      · rw [← List.append_assoc]
        exact hQ
      · rw [htidings, hl']
      · rw [hrun, hrun', setSite_setSite]
    | _ => exact absurd hallows id

theorem run_known {job : Job} {r : Except Exit Outturn} {y : Site} (ht : w.tasks[t]? = some task)
    (hn : task.session < w.sessions.length) (h : job.Meets (witnessed task.session)
      (fun r' s => r' = r ∧ s.site = y ∧ s.tidings = l) ⟨w.site task.session, []⟩) :
    tidings t job w = l ∧ run t job w = (w.setSite task.session y).conclude t r := by
  obtain ⟨r', y', l', ⟨hr, hy, hl⟩, htidings, hrun⟩ := run_witnessed ht hn h
  obtain rfl : r' = r := hr
  obtain rfl : y' = y := hy
  obtain rfl : l' = l := hl
  exact ⟨htidings, hrun⟩

end World

/-! ## What a reader does -/

/-- A site whose readers are others, and to whom something was reported. -/
def Site.read (x : Site) (streams : List Stream) (told : List StreamEvent) : Site :=
  { x with session := { x.session with streams }, events := x.events ++ told }

/-- The readers of a session once one with some item has come to its end, or goes on. -/
def remaining (k : Nat) (item : Option RunState) (streams : List Stream) : List Stream :=
  if endsWith item then streams.filter fun r => r.number ≠ k else streams

theorem mailbox?_remaining {s s' : Session} {item : Option RunState} {k : Nat}
    (h : s'.streams = remaining k item s.streams) (j : Nat) :
    s'.mailbox? j = if j = k ∧ endsWith item = true then none else s.mailbox? j := by
  unfold remaining at h
  rw [Session.mailbox?, h, Session.mailbox?]
  cases endsWith item with
  | false => simp
  | true =>
    by_cases hjk : j = k
    · subst hjk
      simp
    · have hsame : ∀ r : Stream, (!decide (r.number = k) && decide (r.number = j)) = decide (r.number = j) := by
        intro r
        by_cases hr : r.number = j
        · simp [hr, hjk]
        · simp [hr]
      simp [List.find?_filter, hjk, hsame]

theorem mailbox?_append {s s' : Session} {k : Nat} {id : String}
    (h : s'.streams = s.streams ++ [{ number := k, id }]) (hnew : s.mailbox? k = none) (j : Nat) :
    s'.mailbox? j = if j = k then some [] else s.mailbox? j := by
  rw [Session.mailbox?, h, List.find?_append]
  by_cases hjk : j = k
  · subst hjk
    have hnone : s.streams.find? (fun r => decide (r.number = j)) = none := Option.map_eq_none_iff.mp hnew
    simp [hnone]
  · simp [Session.mailbox?, hjk, Ne.symm hjk]

theorem numbers_remaining (streams : List Stream) (item : Option RunState) (k : Nat) :
    ((remaining k item streams).map Stream.number).Sublist (streams.map Stream.number) := by
  unfold remaining
  split
  · exact List.filter_sublist.map _
  · exact .refl _

/-- What a reader reports of one item. -/
def reported (id : String) (item : Option RunState) : List StreamEvent :=
  (upToEnd [item]).map (StreamEvent.mk id)

namespace Reader

variable {n k : Nat} {id : String} {x : Site} {streams : List Stream} {told : List StreamEvent} {l : List Tiding}

theorem meets_leave {Q : Except Exit Unit → Witnessed → Prop}
    (h : Q (.ok ()) ⟨x.read (streams.filter fun r => r.number ≠ k) told, l⟩) :
    (leave k).Meets (witnessed n) Q ⟨x.read streams told, l⟩ := by
  refine Op.meets_lift.mpr (witnessed_update (fun j hj => ?_) h)
  obtain ⟨r, hr, rfl⟩ := List.mem_map.mp hj
  exact List.mem_map_of_mem (List.mem_filter.mp hr).1

theorem meets_report {state : Option RunState} {Q : Except Exit Unit → Witnessed → Prop}
    (h : Q (.ok ()) ⟨x.read streams (told ++ [⟨id, state⟩]), l⟩) :
    (report id state).Meets (witnessed n) Q ⟨x.read streams told, l⟩ := by
  refine Op.meets_lift.mpr (witnessed_update (fun j hj => hj) ?_)
  have hsame : { x.read streams told with events := (x.read streams told).events ++ [⟨id, state⟩] } =
      x.read streams (told ++ [⟨id, state⟩]) := by
    simp [Site.read]
  exact (congrArg (Witnessed.mk · l) hsame) ▸ h

theorem meets_finish {Q : Except Exit Unit → Witnessed → Prop}
    (h : Q (.ok ()) ⟨x.read (streams.filter fun r => r.number ≠ k) (told ++ [⟨id, none⟩]), l⟩) :
    (finish k id).Meets (witnessed n) Q ⟨x.read streams told, l⟩ :=
  Op.meets_bind.mpr (meets_leave (meets_report h))

/-- **A reader that is given an item reports it**, and with its last item it leaves its place. -/
theorem meets_given (item : Option RunState) {Q : Except Exit Bool → Witnessed → Prop}
    (h : Q (.ok !endsWith item) ⟨x.read (remaining k item streams) (told ++ reported id item), l⟩) :
    (given k id (.back item)).Meets (witnessed n) Q ⟨x.read streams told, l⟩ := by
  cases item with
  | none => exact Op.meets_bind.mpr (meets_finish h)
  | some s =>
    refine Op.meets_bind.mpr (meets_report ?_)
    show Op.Meets _ _ (if s.phase.isTerminal then _ else _) _
    cases hs : s.phase.isTerminal with
    | true =>
      refine Op.meets_bind.mpr (meets_finish ?_)
      simpa [endsWith, remaining, reported, upToEnd, hs] using h
    | false => simpa [endsWith, remaining, reported, upToEnd, hs] using h

theorem meets_cancelled {Q : Except Exit Bool → Witnessed → Prop}
    (h : Q (.error .cancelled) ⟨x.read (streams.filter fun r => r.number ≠ k) told, l⟩) :
    (given k id .cancelled).Meets (witnessed n) Q ⟨x.read streams told, l⟩ :=
  Op.meets_bind.mpr (meets_leave h)

/-- What comes of a round with some item. -/
def comesOf (item : Option RunState) : Except Exit Outturn :=
  .ok (if !endsWith item then .again else .result .nothing)

theorem read_self (x : Site) : x.read x.session.streams [] = x := by simp [Site.read]

/-- **The rest of a round** of a reader that is given an item. -/
theorem meets_rest (k : Nat) (id : String) (item : Option RunState) (x : Site) :
    Work.Meets (witnessed n) (fun r s => r = comesOf item ∧
      s.site = x.read (remaining k item x.session.streams) (reported id item) ∧ s.tidings = [])
      (rest k id (.back item)) ⟨x, []⟩ := by
  have hgiven : (given k id (.back item)).Meets (witnessed n) (fun r s => r = .ok !endsWith item ∧
      s.site = x.read (remaining k item x.session.streams) (reported id item) ∧ s.tidings = [])
      ⟨x.read x.session.streams [], []⟩ := meets_given item ⟨rfl, rfl, rfl⟩
  rw [read_self] at hgiven
  refine Op.meets_map.mpr (hgiven.mono ?_)
  rintro _ s ⟨rfl, hs⟩
  exact ⟨rfl, hs⟩

theorem meets_rest_cancelled (k : Nat) (id : String) (x : Site) :
    Work.Meets (witnessed n) (fun r s => r = .error .cancelled ∧
      s.site = x.read (x.session.streams.filter fun r => r.number ≠ k) [] ∧ s.tidings = [])
      (rest k id .cancelled) ⟨x, []⟩ := by
  have hcancelled : (given k id .cancelled).Meets (witnessed n) (fun r s => r = .error .cancelled ∧
      s.site = x.read (x.session.streams.filter fun r => r.number ≠ k) [] ∧ s.tidings = [])
      ⟨x.read x.session.streams [], []⟩ := meets_cancelled ⟨rfl, rfl, rfl⟩
  rw [read_self] at hcancelled
  refine Op.meets_map.mpr (hcancelled.mono ?_)
  rintro _ s ⟨rfl, hs⟩
  exact ⟨rfl, hs⟩

theorem newcomers_append (id : String) {s s' : Session} (hnew : k ∉ s.streams.map Stream.number)
    (hs' : s'.streams = s.streams ++ [{ number := k, id }]) : s.newcomers s' = [k] := by
  have hold : (s.streams.map Stream.number).filter (fun j => j ∉ s.streams.map Stream.number) = [] :=
    List.filter_eq_nil_iff.mpr fun j hj => by simpa using hj
  have hcomes : [k].filter (fun j => j ∉ s.streams.map Stream.number) = [k] :=
    List.filter_eq_self.mpr fun j hj => by
      obtain rfl : j = k := List.mem_singleton.mp hj
      simpa using hnew
  rw [Session.newcomers, hs', List.map_append, List.filter_append, hold, List.nil_append]
  exact hcomes

theorem meets_enter {Q : Except Exit Unit → Witnessed → Prop} (hnew : k ∉ streams.map Stream.number)
    (h : Q (.ok ()) ⟨x.read (streams ++ [{ number := k, id }]) told, l ++ [.entered n k x.session.state]⟩) :
    (enter k id).Meets (witnessed n) Q ⟨x.read streams told, l⟩ := by
  refine Op.meets_lift.mpr ⟨trivial, ?_⟩
  rintro _ _ ⟨rfl, rfl⟩
  refine ⟨trivial, ?_⟩
  rintro _ _ rfl
  rw [newcomers_append id hnew rfl]
  exact h

/-- **A reader takes its place**, and is given the current state if it wants that. -/
theorem meets_begin (includeCurrent : Bool) {Q : Except Exit Bool → Witnessed → Prop}
    (hnew : k ∉ x.session.streams.map Stream.number) (hsound : x.session.state.Sound)
    (hwants : includeCurrent = true → Q (.ok !endsWith (some x.session.state))
      ⟨x.read (remaining k (some x.session.state) (x.session.streams ++ [{ number := k, id }]))
        (reported id (some x.session.state)), l ++ [.entered n k x.session.state]⟩)
    (hnot : includeCurrent = false →
      Q (.ok true) ⟨x.read (x.session.streams ++ [{ number := k, id }]) [], l ++ [.entered n k x.session.state]⟩) :
    (begin k id includeCurrent).Meets (witnessed n) Q ⟨x, l⟩ := by
  rw [← read_self x]
  refine Op.meets_bind.mpr (meets_enter hnew ?_)
  show Op.Meets _ _ (if includeCurrent then _ else _) _
  cases includeCurrent with
  | false => exact hnot rfl
  | true =>
    refine Op.meets_bind.mpr (witnessed_session (Op.after_ok.mpr ?_))
    simp only [Site.read, hsound.check_eq]
    exact meets_given (some x.session.state) (hwants rfl)

theorem meets_first_current (id : String) (hnew : k ∉ x.session.streams.map Stream.number)
    (hsound : x.session.state.Sound) :
    Work.Meets (witnessed n) (fun r s => r = comesOf (some x.session.state) ∧
      s.site = x.read (remaining k (some x.session.state) (x.session.streams ++ [{ number := k, id }]))
        (reported id (some x.session.state)) ∧ s.tidings = [.entered n k x.session.state])
      (Job.ofRound (begin k id true)) ⟨x, []⟩ :=
  Op.meets_map.mpr (meets_begin true hnew hsound (fun _ => ⟨rfl, rfl, rfl⟩) nofun)

theorem meets_first_later (id : String) (hnew : k ∉ x.session.streams.map Stream.number)
    (hsound : x.session.state.Sound) :
    Work.Meets (witnessed n) (fun r s => r = .ok .again ∧
      s.site = x.read (x.session.streams ++ [{ number := k, id }]) [] ∧ s.tidings = [.entered n k x.session.state])
      (Job.ofRound (begin k id false)) ⟨x, []⟩ :=
  Op.meets_map.mpr (meets_begin false hnew hsound nofun fun _ => ⟨rfl, rfl, rfl⟩)

end Reader

end Cutover
