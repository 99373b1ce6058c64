import Cutover.Proofs.World.Broadcast
import Cutover.Proofs.World.Touching

/-!
# Streams lose and invent nothing

Calls on the run come and go, and so do readers. Whatever the order in which all of them go on, and whoever is
cancelled: a call that gives something has published what belongs to that, once, and a reader reports the state that
it found and then what was published since, in order, up to the first state that is terminal or to the end of all.

* `World.run_publishing`: **what a call publishes** when it goes on;
* `World.resume_reading`: **a reader that goes on keeps up**;
* `World.StreamMove`, `World.StreamHistory`: one thing that happens, and one after the other;
* `World.Ledger`: **what was published is what the calls are to publish** that gave something;
* `World.Faithful`: **what a reader reports is what it is to be given**;
* `World.streams_faithful`: both hold **in every history**.
-/

namespace Cutover

/-- What a call has published by the end of a turn: what it is to publish if it came to its end, and nothing if
not. -/
def RunAction.Told (a : RunAction) (published : List (Option RunState)) (x : RunState) :
    Option (Except Exit Result) → Prop
  | some (.ok r) => a.Gives r x ∧ published = a.publishes r x
  | _ => published = []

namespace World

variable {asked : Nat → RunAction} {log : List Tiding} {w w' w'' : World} {n k t : Nat} {id : String}
  {includeCurrent : Bool} {task : Task} {item : Option RunState} {m : List (Option RunState)}

/-! ## Whose turn it is -/

/-- **A task had its turn**: it may have come to its end, and nobody else did. -/
structure Turn (t : Nat) (w w' : World) : Prop where
  badge? : w'.badge? = w.badge?
  verdict? : ∀ i, i ≠ t → w'.verdict? i = w.verdict? i

namespace Turn

theorem refl (w : World) : Turn t w w := ⟨rfl, fun _ _ => rfl⟩

theorem trans (h : Turn t w w') (h' : Turn t w' w'') : Turn t w w'' :=
  ⟨h'.badge?.trans h.badge?, fun i hi => (h'.verdict? i hi).trans (h.verdict? i hi)⟩

theorem of_stirred (h : Stirred (fun _ _ => True) True w w') : Turn t w w' :=
  ⟨h.badge?, fun i _ => congrFun h.verdict? i⟩

theorem of_tasks (h : w'.tasks = w.tasks) : Turn t w w' := by
  refine ⟨funext fun i => ?_, fun i _ => ?_⟩
  · rw [World.badge?, h, World.badge?]
  · rw [World.verdict?, stage?, h, World.verdict?, stage?]

theorem of_setStage (w : World) (t : Nat) (stage : Stage) : Turn t w (w.setStage t stage) :=
  ⟨Looped.badge?_setStage, fun i hi => by rw [World.verdict?, stage?_setStage_ne hi.symm, World.verdict?]⟩

end Turn

theorem stirred_finish (w : World) (t : Nat) (r : Except Exit Result) :
    Stirred (fun _ _ => True) True (w.setStage t (.ended r)) (w.finish t r) :=
  stirred_wakeWatchers fun _ _ _ _ _ _ => trivial

theorem turn_finish (w : World) (t : Nat) (r : Except Exit Result) : Turn t w (w.finish t r) :=
  (Turn.of_setStage w t _).trans (.of_stirred (stirred_finish w t r))

theorem verdict?_finish (ht : w.tasks[t]? = some task) (r : Except Exit Result) :
    (w.finish t r).verdict? t = some r := by
  rw [(stirred_finish w t r).verdict?, verdict?, stage?_setStage_self ht]
  rfl

theorem state_finish (w : World) (t : Nat) (r : Except Exit Result) (n : Nat) :
    ((w.finish t r).session n).state = (w.session n).state := (stirred_finish w t r).state n

theorem turn_conclude (w : World) (t : Nat) (r : Except Exit Outturn) : Turn t w (w.conclude t r) := by
  unfold conclude
  split
  · exact turn_finish w t _
  · exact turn_finish w t _
  · split
    · exact (Turn.of_setStage w t _).trans (.of_tasks rfl)
    · exact turn_finish w t _

theorem turn_setSite (w : World) (n : Nat) (y : Site) (t : Nat) (r : Except Exit Outturn) :
    Turn t w ((w.setSite n y).conclude t r) := by
  have hset : Turn t w (w.setSite n y) := .of_tasks rfl
  exact hset.trans (turn_conclude _ t r)

/-! ## A call goes on -/

/-- **A call had its turn**: it published some items, all that it is to publish if it came to its end, and none if
not. -/
structure Spoke (asked : Nat → RunAction) (log : List Tiding) (t n : Nat) (w : World)
    (published items : List (Option RunState)) (w' : World) : Prop where
  broadcast : Broadcast asked none (log ++ items.map (.published n)) w'
  turn : Turn t w w'
  told : (asked t).Told (published ++ items) (w'.session n).state (w'.verdict? t)

theorem Spoke.after {published items : List (Option RunState)} (h : Spoke asked log t n w' published items w'')
    (hturn : Turn t w w') : Spoke asked log t n w published items w'' :=
  { h with turn := hturn.trans h.turn }

theorem spoke_conclude {s : Publishing} {r : Except Exit Outturn} (h : Broadcast asked (some t) log w)
    (ht : w.tasks[t]? = some task) (hloop : task.loop = none) (hsite : s.site = w.site task.session)
    (hcomes : Publishing.Comes (asked t) r s) :
    Spoke asked log t task.session w s.published [] (w.conclude t r) := by
  have hfinished : ∀ r, Broadcast asked none (log ++ [].map (.published task.session)) (w.finish t r) := fun r => by
    rw [List.map_nil, List.append_nil]
    exact h.finished ht fun k id includeCurrent hreader => nomatch hloop.symm.trans hreader
  rcases r with e | (r | _)
  · refine ⟨hfinished _, turn_finish w t _, ?_⟩
    rw [conclude, verdict?_finish ht, List.append_nil]
    exact hcomes
  · refine ⟨hfinished _, turn_finish w t _, ?_⟩
    have hstate : s.state = (w.session task.session).state := congrArg (fun x => x.session.state) hsite
    rw [conclude, verdict?_finish ht, state_finish, List.append_nil, ← hstate]
    exact hcomes
  · exact absurd hcomes id

/-- **A call that works publishes what it is to publish**, and that is what is remembered. -/
theorem run_publishing {job : Job} {s : Publishing} (h : Broadcast asked (some t) log w)
    (ht : w.tasks[t]? = some task) (hloop : task.loop = none) (hsite : s.site = w.site task.session)
    (hjob : job.Meets publishing (Publishing.Comes (asked t)) s) :
    ∃ items, tidings t job w = items.map (.published task.session) ∧
      Spoke asked log t task.session w s.published items (run t job w) := by
  induction job generalizing w s log task with
  | done r => exact ⟨[], rfl, spoke_conclude h ht hloop hsite hjob⟩
  | ask e next ih =>
    obtain ⟨hallows, hnext⟩ := hjob
    have hn := h.known ht
    have hsession : w.sessionOf t = task.session := Touching.sessionOf_eq ht
    have hother : e.isOther = true → e.isSilent = true → (e.isWait = true → s.published = []) →
        w.tiding task.session e = [] →
        ∃ items, tidings t (.ask e next) w = items.map (.published task.session) ∧
          Spoke asked log t task.session w s.published items (run t (.ask e next) w) := by
      intro he hsilent hwaits htiding
      have hunheard := unheard_perform w t he hsilent
      have hafter := h.unheard hunheard
      have hturn : Turn t w (w.perform t e).1 := .of_stirred hunheard.stirred
      have hstate := hunheard.stirred.state task.session
      obtain ⟨stage, ht', -⟩ := hunheard.stirred.tasks t task ht
      rw [tidings, run, hsession, htiding, List.nil_append]
      generalize hperform : w.perform t e = done at hunheard hafter hturn hstate ht'
      obtain ⟨w', uptake⟩ := done
      have hleads : ∀ r x, x.state.Sound → (e.isWait = false → x.state = s.state) → x.published = s.published →
          publishing.leads s e r x := fun r x hsound hsame hpublished =>
        Publishing.leads_of_silent he hsilent hpublished hsound hsame
      cases uptake with
      | reply r =>
        have hsame : (w'.session task.session).state = s.state :=
          hstate.trans (congrArg (fun x => x.session.state) hsite).symm
        have hmeets := hnext r ⟨w'.site task.session, s.published⟩
          (hleads r _ (hafter.sessions task.session).sound (fun _ => hsame) rfl)
        obtain ⟨items, hitems, hspoke⟩ := ih r hafter ht' hloop rfl hmeets
        exact ⟨items, hitems, hspoke.after hturn⟩
      | wait alarm =>
        have hwait : e.isWait = true := isWait_of_perform hperform
        have hgoes : ∀ r, ∀ x : Publishing, x.Fresh →
            (next r).Meets publishing (Publishing.Comes (asked t)) x := fun r x hx =>
          hnext r x (hleads r x hx.sound (fun hnone => by cases hwait.symm.trans hnone)
            (hx.published.trans (hwaits hwait).symm))
        refine ⟨[], rfl, ?_, hturn.trans (.of_setStage w' t _), ?_⟩
        · rw [List.map_nil, List.append_nil]
          exact hafter.settled ht' (fun _ => .waiting hsilent hgoes) fun k id includeCurrent hreader => by
            cases hloop.symm.trans hreader
        · rw [verdict?, stage?_setStage_self ht', List.append_nil]
          exact hwaits hwait
    cases e with
    | look =>
      have hmeets := hnext (w.site task.session) s ⟨hsite.symm, rfl⟩
      obtain ⟨items, hitems, hspoke⟩ := ih _ h ht hloop hsite hmeets
      refine ⟨items, ?_, ?_⟩
      · rw [tidings, perform, hsession]
        exact hitems
      · rw [run, perform, hsession]
        exact hspoke
    | change y =>
      have hspares : (w.site task.session).Spares y := hsite ▸ hallows
      have hmeets := hnext () { s with site := { y with now := s.site.now } } rfl
      have hsite' : ({ y with now := s.site.now } : Site) = (w.setSite task.session y).site task.session := by
        rw [site_setSite hn, hsite]
        rfl
      obtain ⟨items, hitems, hspoke⟩ := ih () (h.spares hn hspares) ht hloop hsite' hmeets
      have hnewcomers : (w.session task.session).newcomers y.session = [] :=
        Session.newcomers_of_subset fun j hj => by
          rw [hspares.streams] at hj
          exact hj
      refine ⟨items, ?_, ?_⟩
      · rw [tidings, perform, hsession, tiding, hnewcomers, List.map_nil, List.nil_append]
        exact hitems
      · rw [run, perform, hsession]
        exact hspoke.after (.of_tasks rfl)
    | publish item =>
      have hstirred := (within_publish w task.session item).stirred
      obtain ⟨stage, ht', -⟩ := hstirred.tasks t task ht
      have hmeets := hnext () ⟨(w.publish task.session item).site task.session, s.published ++ [item]⟩
        ⟨(hstirred.state task.session).trans (congrArg (fun x => x.session.state) hsite).symm, rfl⟩
      obtain ⟨items, hitems, hspoke⟩ := ih () (h.publish task.session item) ht' hloop rfl hmeets
      refine ⟨item :: items, ?_, ?_⟩
      · rw [tidings, perform, hsession, List.map_cons, ← hitems]
        rfl
      · rw [run, perform, hsession]
        refine ⟨?_, (Turn.of_stirred hstirred).trans hspoke.turn, ?_⟩
        · rw [List.map_cons, ← List.singleton_append, ← List.append_assoc]
          exact hspoke.broadcast
        · rw [← List.singleton_append, ← List.append_assoc]
          exact hspoke.told
    | _ => exact hother rfl hallows.1 hallows.2 rfl

/-- **A call that goes on** publishes what it is to publish. -/
theorem resume_publishing (h : Broadcast asked none log w) (ht : w.tasks[t]? = some task) (hloop : task.loop = none)
    (hlive : w.verdict? t = none) : ∃ items, w.tidingsOf t = items.map (.published task.session) ∧
      Spoke asked log t task.session w [] items (w.resume t) := by
  have hstage : (w.tasks[t]?).map Task.stage = some task.stage := by rw [ht, Option.map_some]
  have hfresh : ∀ {w' : World} {out : Option Nat}, Broadcast asked out log w' →
      (⟨w'.site task.session, []⟩ : Publishing).Fresh := fun h' => ⟨rfl, (h'.sessions task.session).sound⟩
  have hstands := h.calls t task nofun ht hloop
  rw [tidingsOf, resume, hstage]
  cases hcase : task.stage with
  | waiting e next alarm =>
    refine ⟨[], rfl, ?_, .refl w, ?_⟩
    · rwa [List.map_nil, List.append_nil]
    · rw [hlive]
      rfl
  | ended r =>
    rw [verdict?_eq ht, hcase] at hlive
    cases hlive
  | fresh job =>
    have hworking := h.working ht (by rw [hcase]; rfl)
    rw [hcase] at hstands
    cases hstands with
    | fresh goes => exact run_publishing hworking ht hloop rfl (goes _ (hfresh h))
  | woken e next r =>
    have hunheard := unheard_settleAtGate w t e r
    have hafter := (h.working ht (by rw [hcase]; rfl)).unheard hunheard
    obtain ⟨stage, ht', -⟩ := hunheard.stirred.tasks t task ht
    rw [hcase] at hstands
    cases hstands with
    | woken goes =>
      obtain ⟨items, hitems, hspoke⟩ := run_publishing hafter ht' hloop rfl (goes r _ (hfresh hafter))
      exact ⟨items, hitems, hspoke.after (.of_stirred hunheard.stirred)⟩

/-! ## A reader goes on -/

/-- **A reader had its turn**: it published nothing. -/
structure Listened (asked : Nat → RunAction) (log : List Tiding) (t : Nat) (w : World) (l : List Tiding)
    (w' : World) : Prop where
  broadcast : Broadcast asked none (log ++ l) w'
  turn : Turn t w w'
  quiet : ∀ n, l.filterMap (Tiding.item? n) = []

/-- **A reader that has reported an item** comes to its end or to another round. -/
theorem conclude_given {before : List (Option RunState)} (h : Broadcast asked (some t) log w)
    (ht : w.tasks[t]? = some task) (hloop : task.loop = some (.reader k id includeCurrent))
    (hheard : w.heard id = before ++ upToEnd [item]) (isOpen : IsOpen before)
    (hdue : due? task.session k includeCurrent log = some (before ++ item :: m))
    (hplace : (w.session task.session).mailbox? k = if endsWith item then none else some m) :
    Broadcast asked none log (w.conclude t (Reader.comesOf item)) := by
  unfold Reader.comesOf
  cases hends : endsWith item with
  | true =>
    rw [hends] at hplace
    obtain ⟨hupTo, hclosed⟩ := upToEnd_of_ends hends m
    refine h.finished ht fun k' id' c hloop' => ?_
    cases hloop.symm.trans hloop'
    refine .atEnd hplace hdue ?_ ?_
    · rw [hheard, upToEnd_append isOpen, hupTo]
    · rw [hheard]
      exact List.mem_append_right _ hclosed
  | false =>
    rw [hends] at hplace
    have hopen := isOpen_of_not_ends hends
    rw [upToEnd_of_isOpen hopen] at hheard
    refine h.again ht hloop (.between hplace ?_ ?_)
    · rw [hdue, hheard, List.append_assoc]
      rfl
    · rw [hheard]
      exact List.forall_mem_append.mpr ⟨isOpen, hopen⟩

theorem run_given (h : Broadcast asked (some t) log w) (ht : w.tasks[t]? = some task)
    (hloop : task.loop = some (.reader k id includeCurrent)) (hplace : (w.session task.session).mailbox? k = some m)
    (hdue : due? task.session k includeCurrent log = some (w.heard id ++ item :: m)) (isOpen : IsOpen (w.heard id)) :
    Listened asked log t w (tidings t (Reader.rest k id (.back item)) w)
      (run t (Reader.rest k id (.back item)) w) := by
  have hn := h.known ht
  obtain ⟨htidings, hrun⟩ := run_known ht hn (Reader.meets_rest k id item (w.site task.session))
  have hparting := h.parting ht hloop item (upToEnd [item])
  have hafter := mailbox?_remaining (s := w.session task.session)
    (streams_read hn (remaining k item (w.session task.session).streams) (reported id item)) k
  rw [hplace] at hafter
  rw [htidings, hrun]
  refine ⟨?_, turn_setSite .., fun _ => rfl⟩
  rw [List.append_nil]
  exact conclude_given hparting ht hloop (heard_read ..) isOpen hdue (hafter.trans (by simp))

theorem run_cancelled (h : Broadcast asked (some t) log w) (ht : w.tasks[t]? = some task)
    (hloop : task.loop = some (.reader k id includeCurrent))
    (upTo : w.heard id <+: upToEnd ((due? task.session k includeCurrent log).getD [])) :
    Listened asked log t w (tidings t (Reader.rest k id .cancelled) w) (run t (Reader.rest k id .cancelled) w) := by
  have hn := h.known ht
  obtain ⟨htidings, hrun⟩ := run_known ht hn (Reader.meets_rest_cancelled k id (w.site task.session))
  have hheard := heard_read w task.session (remaining k none (w.session task.session).streams) id []
  rw [htidings, hrun]
  refine ⟨?_, turn_setSite .., fun _ => rfl⟩
  rw [List.append_nil] at hheard ⊢
  refine (h.parting ht hloop none []).finished ht fun k' id' c hloop' => ?_
  cases hloop.symm.trans hloop'
  exact .cancelled (hheard ▸ upTo)

theorem run_begin (h : Broadcast asked (some t) log w) (ht : w.tasks[t]? = some task)
    (hloop : task.loop = some (.reader k id includeCurrent)) (hplace : (w.session task.session).mailbox? k = none)
    (hheard : w.heard id = []) (hdue : due? task.session k includeCurrent log = none) :
    Listened asked log t w (tidings t (.ofRound (Reader.begin k id includeCurrent)) w)
      (run t (.ofRound (Reader.begin k id includeCurrent)) w) := by
  have hn := h.known ht
  have hnew := mailbox?_eq_none.mp hplace
  have hsound := (h.sessions task.session).sound
  have hentering := h.entering ht hloop hplace
  have hentered := due?_entered hdue (w.session task.session).state
  generalize hstreams : (w.session task.session).streams ++ [({ number := k, id } : Stream)] = streams at hentering
  have hmailbox : ((w.setSite task.session ((w.site task.session).read streams [])).session
      task.session).mailbox? k = some [] :=
    (mailbox?_append ((streams_read hn streams []).trans hstreams.symm) hplace k).trans (if_pos rfl)
  have hheard' : (w.setSite task.session ((w.site task.session).read streams [])).heard id = [] :=
    (heard_read w task.session streams id []).trans (by rw [hheard]; rfl)
  cases includeCurrent with
  | false =>
    obtain ⟨htidings, hrun⟩ := run_known ht hn (Reader.meets_first_later (x := w.site task.session) id hnew hsound)
    rw [show (w.site task.session).session.streams ++ [({ number := k, id } : Stream)] = streams from hstreams]
      at hrun
    rw [htidings, hrun]
    refine ⟨hentering.again ht hloop (.between hmailbox ?_ ?_), turn_setSite .., fun _ => rfl⟩
    · rw [hentered, hheard']
      rfl
    · rw [hheard']
      exact isOpen_nil
  | true =>
    obtain ⟨htidings, hrun⟩ := run_known ht hn (Reader.meets_first_current (x := w.site task.session) id hnew hsound)
    rw [show (w.site task.session).session.streams ++ [({ number := k, id } : Stream)] = streams from hstreams]
      at hrun
    rw [htidings, hrun]
    refine ⟨?_, turn_setSite .., fun _ => rfl⟩
    -- It takes its place with nothing reported yet, and is then given the state.
    generalize hw' : w.setSite task.session ((w.site task.session).read streams []) = w' at hentering hmailbox hheard'
    have ht' : w'.tasks[t]? = some task := by
      rw [← hw']
      exact ht
    have hn' := hentering.known ht'
    have hstreams' : (w'.session task.session).streams = streams := by
      rw [← hw', streams_read hn]
    have hworld := setSite_read_read hn streams (remaining k (some (w.session task.session).state) streams)
      (reported id (some (w.session task.session).state)) hw'
    have hparting := hentering.parting ht' hloop (some (w.session task.session).state)
      (upToEnd [some (w.session task.session).state])
    have hafter := mailbox?_remaining (s := w'.session task.session)
      (streams_read hn' (remaining k (some (w.session task.session).state) (w'.session task.session).streams)
        (reported id (some (w.session task.session).state))) k
    have htold := heard_read w' task.session (remaining k (some (w.session task.session).state)
      (w'.session task.session).streams) id (upToEnd [some (w.session task.session).state])
    rw [hmailbox, hstreams'] at hafter
    rw [hstreams'] at hparting htold
    rw [hheard'] at htold
    rw [show (w.site task.session).session.state = (w.session task.session).state from rfl, ← hworld]
    exact conclude_given (m := []) hparting ht' hloop htold isOpen_nil hentered (hafter.trans (by simp))

section
variable {e : Effect} {next : e.Reply → Job} {r : e.Reply} {alarm : Option (Alarm e.Reply)}

theorem tidings_reply (h : w.perform t e = (w', .reply r)) :
    tidings t (.ask e next) w = w.tiding (w.sessionOf t) e ++ tidings t (next r) w' := by
  rw [tidings, h]

theorem tidings_wait (h : w.perform t e = (w', .wait alarm)) :
    tidings t (.ask e next) w = w.tiding (w.sessionOf t) e := by
  rw [tidings, h, List.append_nil]

end

theorem onSession_eq_setSite (w : World) (n : Nat) (streams : List Stream) :
    w.onSession n (fun s => { s with streams }) = w.setSite n ((w.site n).read streams []) := by
  simp [onSession, setSite, Site.read, site]

/-- A reader that asks for an item takes the first that it has, or waits for one. -/
theorem run_receive (h : Broadcast asked (some t) log w) (ht : w.tasks[t]? = some task)
    (hloop : task.loop = some (.reader k id includeCurrent)) (hplace : (w.session task.session).mailbox? k = some m)
    (hdue : due? task.session k includeCurrent log = some (w.heard id ++ m)) (isOpen : IsOpen (w.heard id)) :
    Listened asked log t w (tidings t (.ask (.receive k) (Reader.rest k id)) w)
      (run t (.ask (.receive k) (Reader.rest k id)) w) := by
  have hn := h.known ht
  have hsession : w.sessionOf t = task.session := Touching.sessionOf_eq ht
  cases m with
  | nil =>
    have hperform : w.perform t (.receive k) = (w, .wait none) := by
      rw [perform, hsession, take?_none hplace]
    have htidings : tidings t (.ask (.receive k) (Reader.rest k id)) w = [] := tidings_wait hperform
    have hrun : run t (.ask (.receive k) (Reader.rest k id)) w =
        w.setStage t (.waiting (.receive k) (Reader.rest k id) none) := run_wait hperform
    rw [htidings, hrun]
    refine ⟨?_, .of_setStage w t _, fun _ => rfl⟩
    rw [List.append_nil] at hdue ⊢
    refine h.settled ht (fun hnone => by cases hnone.symm.trans hloop) fun k' id' c hloop' => ?_
    cases hloop.symm.trans hloop'
    exact .waits hplace hdue isOpen
  | cons item m =>
    generalize hstreams : ((w.session task.session).streams.map fun r : Stream =>
      if r.number = k then { r with mailbox := m } else r) = streams
    have htake : w.take? task.session k =
        some (item, w.setSite task.session ((w.site task.session).read streams [])) := by
      rw [take?_some hplace, ← onSession_eq_setSite, ← hstreams]
      rfl
    have hperform : w.perform t (.receive k) =
        (w.setSite task.session ((w.site task.session).read streams []), .reply (.back item)) := by
      rw [perform, hsession, htake]
    have hnumbers : streams.map Stream.number = (w.session task.session).streams.map Stream.number := by
      rw [← hstreams]
      exact numbers_map _ (fun _ => m) k
    have hmailbox : ∀ j, Session.mailbox? { w.session task.session with streams } j =
        if k = j then some m else (w.session task.session).mailbox? j := fun j => by
      rw [← hstreams, mailbox?_map _ (fun _ => m) k j]
      by_cases hkj : k = j
      · rw [if_pos hkj, if_pos hkj, ← hkj, hplace]
        rfl
      · rw [if_neg hkj, if_neg hkj]
    have hread := h.read (l := []) ht hloop (hnumbers ▸ (h.sessions _).places)
      (fun j hj => (h.sessions _).below j (hnumbers ▸ hj)) (fun j hj => by rw [hmailbox, if_neg (Ne.symm hj)])
      (fun _ _ _ _ => by rw [List.append_nil]) []
    have hheard := heard_read w task.session streams id []
    rw [List.append_nil] at hread hheard
    have hplace' : ((w.setSite task.session ((w.site task.session).read streams [])).session
        task.session).mailbox? k = some m := by
      exact (congrArg (Session.mailbox? · k) (session_read hn _ _)).trans ((hmailbox k).trans (if_pos rfl))
    rw [← hheard] at hdue isOpen
    have hgiven := run_given hread ht hloop hplace' hdue isOpen
    have htidings : tidings t (.ask (.receive k) (Reader.rest k id)) w =
        tidings t (Reader.rest k id (.back item)) (w.setSite task.session ((w.site task.session).read streams [])) :=
      tidings_reply hperform
    have hrun : run t (.ask (.receive k) (Reader.rest k id)) w =
        run t (Reader.rest k id (.back item)) (w.setSite task.session ((w.site task.session).read streams [])) :=
      run_reply hperform
    rw [htidings, hrun]
    have hset : Turn t w (w.setSite task.session ((w.site task.session).read streams [])) := .of_tasks rfl
    exact { hgiven with turn := hset.trans hgiven.turn }

/-- **A reader that goes on keeps up.** -/
theorem resume_reading (h : Broadcast asked none log w) (ht : w.tasks[t]? = some task)
    (hloop : task.loop = some (.reader k id includeCurrent)) :
    Listened asked log t w (w.tidingsOf t) (w.resume t) := by
  have hstage : (w.tasks[t]?).map Task.stage = some task.stage := by rw [ht, Option.map_some]
  have hreads := h.reads t task k id includeCurrent nofun ht hloop
  have hworking : task.stage.works = true → Broadcast asked (some t) log w := h.working ht
  have hidle : Listened asked log t w [] w := ⟨(List.append_nil log).symm ▸ h, .refl w, fun _ => rfl⟩
  rw [ReadsAt] at hreads
  rw [tidingsOf, resume, hstage]
  generalize task.stage = stage at hreads hworking
  cases hreads with
  | coming place_eq heard_eq due_eq => exact run_begin (hworking rfl) ht hloop place_eq heard_eq due_eq
  | between place_eq due_eq isOpen =>
    dsimp only
    rw [Reader.ofRound_round]
    exact run_receive (hworking rfl) ht hloop place_eq due_eq isOpen
  | handed place_eq due_eq isOpen => exact run_given (hworking rfl) ht hloop place_eq due_eq isOpen
  | leaving upTo => exact run_cancelled (hworking rfl) ht hloop upTo
  | dropped upTo =>
    refine ⟨?_, turn_conclude w t (.error .cancelled), fun _ => rfl⟩
    show Broadcast asked none (log ++ []) (w.finish t (.error .cancelled))
    rw [List.append_nil]
    refine (hworking rfl).finished ht fun k' id' c hloop' => ?_
    cases hloop.symm.trans hloop'
    exact .cancelled upTo
  | _ => exact hidle

end World

end Cutover
