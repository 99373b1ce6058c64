import Cutover.Proofs.World.Streaming

/-!
# Streams lose and invent nothing

Calls on the run come and go, and so do readers; each of them goes on whenever it does, and anybody may be cancelled.
All through such a history, what was published is what the calls were to publish that gave something, once for each
and in the order in which they ended. And a reader reports the state that it found and what was published since, in
order and each item once, up to the first state that is terminal or to the end of all.

* `World.StreamMove`, `World.StreamHistory`: one thing that happens, and one after the other, with what is to be
  remembered of it;
* `World.Ledger`: **what was published is what the calls are to publish** that gave something;
* `World.Faithful`: **what a reader reports is what it is to be given**;
* `World.streams_faithful`: both hold **in every history**.
-/

namespace Cutover

/-- **A call that gave something**, and the state in which it left the run of its session. -/
structure Completion where
  task : Nat
  session : Nat
  result : Result
  state : RunState

/-- What a reader was handed and has not reported yet. -/
def Stage.inHand : Stage → List (Option RunState)
  | .woken (.receive _) _ (.back item) => [item]
  | _ => []

/-- The reader was cancelled. -/
def Stage.isCancelled : Stage → Bool
  | .fresh (.done (.error .cancelled)) => true
  | .woken (.receive _) _ .cancelled => true
  | .ended (.error _) => true
  | _ => false

namespace World

variable {asked : Nat → RunAction} {log l : List Tiding} {done cs : List Completion} {w w' : World} {n k t : Nat}
  {id : String} {includeCurrent : Bool} {task : Task} {stage : Stage}

/-- The call that gives something when a task goes on, if there is one. -/
def completionsOf (w : World) (t : Nat) : List Completion :=
  match w.badge? t, w.verdict? t, (w.resume t).verdict? t with
  | some (n, none), none, some (.ok r) => [⟨t, n, r, ((w.resume t).session n).state⟩]
  | _, _, _ => []

/-! ## Histories -/

/-- **One thing that happens**, with what is to be remembered of it: somebody calls or subscribes, a task goes on, a
wait ends, a task is cancelled, or something changes that has nothing to do with the run and its readers. -/
inductive StreamMove (asked : Nat → RunAction) : World → List Tiding → List Completion → World → Prop
  | call {w : World} {n : Nat} {a : RunAction} (asks : asked w.tasks.length = a) (known : n < w.sessions.length) :
    StreamMove asked w [] [] (w.spawn n (.ofOp a.op)).2
  | subscribe {w : World} {n : Nat} {id : String} {includeCurrent : Bool} (known : n < w.sessions.length)
    (unheard : w.heard id = []) (unnamed : ∀ i m j c, w.badge? i ≠ some (m, some (.reader j id c))) :
    StreamMove asked w [] [] (w.subscribe n id includeCurrent)
  | resume (w : World) (t : Nat) : StreamMove asked w (w.tidingsOf t) (w.completionsOf t) (w.resume t)
  | ring (w : World) (t : Nat) : StreamMove asked w [] [] (w.ring t)
  | serve (w : World) (t : Nat) : StreamMove asked w [] [] (w.wakeAtStorage t)
  | cancel (w : World) (t : Nat) : StreamMove asked w [] [] (w.cancel t)
  | elsewhere {w w' : World} (length : w.sessions.length ≤ w'.sessions.length)
    (sessions : ∀ m, (w'.session m).streams = (w.session m).streams ∧
      (w'.session m).nextStream = (w.session m).nextStream ∧ (w'.session m).state = (w.session m).state)
    (tasks : w'.tasks = w.tasks) (events : w'.events = w.events) : StreamMove asked w [] [] w'

/-- **One thing happens after the other**, from when nobody called or subscribed yet. -/
inductive StreamHistory (asked : Nat → RunAction) : List Tiding → List Completion → World → Prop
  | start {w : World} (tasks : w.tasks = []) (streams : ∀ m, (w.session m).streams = [])
    (sound : ∀ m, (w.session m).state.Sound) : StreamHistory asked [] [] w
  | next {log l : List Tiding} {done cs : List Completion} {w w' : World} (before : StreamHistory asked log done w)
    (move : StreamMove asked w l cs w') : StreamHistory asked (log ++ l) (done ++ cs) w'

/-! ## What was published -/

/-- **What was published in a session is what its calls are to publish that gave something**: each call once, and
all in the order in which they ended. -/
structure Ledger (asked : Nat → RunAction) (log : List Tiding) (done : List Completion) (w : World) : Prop where
  published : ∀ n, log.filterMap (Tiding.item? n) =
    (done.filter fun c => c.session = n).flatMap fun c => (asked c.task).publishes c.result c.state
  gives : ∀ c ∈ done, (asked c.task).Gives c.result c.state
  called : ∀ c ∈ done, w.badge? c.task = some (c.session, none) ∧ w.verdict? c.task = some (.ok c.result)
  once : (done.map Completion.task).Nodup
  complete : ∀ t n r, w.badge? t = some (n, none) → w.verdict? t = some (.ok r) → t ∈ done.map Completion.task

theorem badge?_of_verdict? {r : Except Exit Result} (h : w.verdict? t = some r) : ∃ b, w.badge? t = some b := by
  obtain ⟨stage, hstage, -⟩ := Option.bind_eq_some_iff.mp h
  obtain ⟨task, ht, -⟩ := Option.map_eq_some_iff.mp hstage
  exact ⟨_, badge?_eq ht⟩

theorem filterMap_published (items : List (Option RunState)) (n m : Nat) :
    (items.map (Tiding.published m)).filterMap (Tiding.item? n) = if m = n then items else [] := by
  by_cases hmn : m = n
  · simp [List.filterMap_map, Function.comp_def, Tiding.item?, hmn]
  · simp [List.filterMap_map, Function.comp_def, Tiding.item?, hmn]

namespace Ledger

theorem kept (h : Ledger asked log done w) (hbadge : ∀ i b, w.badge? i = some b → w'.badge? i = some b)
    (hverdict : ∀ i n r, w'.badge? i = some (n, none) →
      (w'.verdict? i = some (.ok r) ↔ w.verdict? i = some (.ok r)))
    (hquiet : ∀ n, l.filterMap (Tiding.item? n) = []) : Ledger asked (log ++ l) (done ++ []) w' := by
  rw [List.append_nil]
  refine ⟨fun n => ?_, h.gives, fun c hc => ?_, h.once, fun t n r ht hr => ?_⟩
  · rw [List.filterMap_append, hquiet, List.append_nil]
    exact h.published n
  · obtain ⟨hcalled, hgave⟩ := h.called c hc
    have hcalled' := hbadge _ _ hcalled
    exact ⟨hcalled', (hverdict _ _ _ hcalled').mpr hgave⟩
  · have hbefore := (hverdict t n r ht).mp hr
    obtain ⟨b, hb⟩ := badge?_of_verdict? hbefore
    obtain rfl := Option.some.inj ((hbadge t b hb).symm.trans ht)
    exact h.complete t n r hb hbefore

theorem same (h : Ledger asked log done w) (hbadge : w'.badge? = w.badge?) (hverdict : w'.verdict? = w.verdict?) :
    Ledger asked (log ++ []) (done ++ []) w' :=
  h.kept (fun _ _ hi => hbadge ▸ hi) (fun _ _ _ _ => by rw [hverdict]) fun _ => rfl

theorem spawn {job : Job} {loop : Option Background} (h : Ledger asked log done w) :
    Ledger asked (log ++ []) (done ++ []) (w.spawn n job loop).2 := by
  refine h.kept (fun i b hi => ?_) (fun i _ _ _ => by rw [Looped.verdict?_spawn]) fun _ => rfl
  rw [Looped.badge?_spawn, if_neg]
  · exact hi
  · rintro rfl
    rw [World.badge?, List.getElem?_eq_none (Nat.le_refl _)] at hi
    cases hi

/-- **A call gave something**, and has published what belongs to that. -/
theorem enter {r : Result} {x : RunState} (h : Ledger asked log done w) (hcall : w.badge? t = some (n, none))
    (hlive : w.verdict? t = none) (hturn : Turn t w w') (hverdict : w'.verdict? t = some (.ok r))
    (hgives : (asked t).Gives r x) :
    Ledger asked (log ++ ((asked t).publishes r x).map (.published n)) (done ++ [⟨t, n, r, x⟩]) w' := by
  have hlisted : ∀ c ∈ done, c.task ≠ t := by
    rintro c hc rfl
    cases hlive.symm.trans (h.called c hc).2
  refine ⟨fun m => ?_, ?_, ?_, ?_, fun i m r' hi hr' => ?_⟩
  · rw [List.filterMap_append, filterMap_published, h.published, List.filter_append, List.flatMap_append]
    by_cases hnm : n = m
    · simp [hnm]
    · simp [hnm]
  · exact List.forall_mem_append.mpr ⟨h.gives, List.forall_mem_singleton.mpr hgives⟩
  · refine List.forall_mem_append.mpr ⟨fun c hc => ?_, List.forall_mem_singleton.mpr ⟨?_, hverdict⟩⟩
    · rw [hturn.badge?, hturn.verdict? _ (hlisted c hc)]
      exact h.called c hc
    · rw [hturn.badge?]
      exact hcall
  · rw [List.map_append]
    refine List.nodup_append.mpr ⟨h.once, by simp, fun i hi j hj => ?_⟩
    obtain ⟨c, hc, rfl⟩ := List.mem_map.mp hi
    rw [List.map_cons, List.map_nil, List.mem_singleton] at hj
    rw [hj]
    exact hlisted c hc
  · rw [List.map_append, List.mem_append]
    by_cases hit : i = t
    · rw [List.map_cons, List.map_nil, List.mem_singleton]
      exact .inr hit
    · rw [hturn.badge?] at hi
      rw [hturn.verdict? i hit] at hr'
      exact .inl (h.complete i m r' hi hr')

/-- **A call went on**, and is entered if it gave something. -/
theorem spoke {items : List (Option RunState)} (h : Ledger asked log done w) (ht : w.tasks[t]? = some task)
    (hloop : task.loop = none) (hlive : w.verdict? t = none)
    (hspoke : Spoke asked log t task.session w [] items (w.resume t)) :
    Ledger asked (log ++ items.map (.published task.session)) (done ++ w.completionsOf t) (w.resume t) := by
  have hcall : w.badge? t = some (task.session, none) := by rw [badge?_eq ht, hloop]
  have htold := hspoke.told
  have hidle : items = [] → (∀ r, (w.resume t).verdict? t ≠ some (.ok r)) →
      Ledger asked (log ++ items.map (.published task.session)) (done ++ []) (w.resume t) := by
    rintro rfl hnone
    refine h.kept (fun i b hi => hspoke.turn.badge? ▸ hi) (fun i n r _ => ?_) fun _ => rfl
    by_cases hit : i = t
    · rw [hit, hlive]
      exact ⟨fun hr => absurd hr (hnone r), fun hr => by cases hr⟩
    · rw [hspoke.turn.verdict? i hit]
  rw [completionsOf, hcall, hlive]
  cases hverdict : (w.resume t).verdict? t with
  | none =>
    rw [hverdict] at htold hidle
    exact hidle htold fun r hr => by cases hr
  | some r =>
    rw [hverdict] at htold hidle
    cases r with
    | error e => exact hidle htold fun r hr => by cases hr
    | ok r =>
      obtain ⟨hgives, hitems⟩ := htold
      rw [List.nil_append] at hitems
      rw [hitems]
      exact h.enter hcall hlive hspoke.turn hverdict hgives

theorem listened (h : Ledger asked log done w) {b : Background} (hbadge : w.badge? t = some (n, some b))
    (hlistened : Listened asked log t w l (w.resume t)) :
    Ledger asked (log ++ l) (done ++ w.completionsOf t) (w.resume t) := by
  rw [completionsOf, hbadge]
  refine h.kept (fun i b hi => hlistened.turn.badge? ▸ hi) (fun i m r hi => ?_) hlistened.quiet
  have hit : i ≠ t := by
    rintro rfl
    rw [hlistened.turn.badge?, hbadge] at hi
    cases hi
  rw [hlistened.turn.verdict? i hit]

end Ledger

/-! ## What is kept -/

/-- **A task that goes on** publishes what is entered, or reads what was published. -/
theorem resume_keeps (hbroadcast : Broadcast asked none log w) (hledger : Ledger asked log done w) (t : Nat) :
    Broadcast asked none (log ++ w.tidingsOf t) (w.resume t) ∧
      Ledger asked (log ++ w.tidingsOf t) (done ++ w.completionsOf t) (w.resume t) := by
  have hidle : w.resume t = w → w.tidingsOf t = [] → w.completionsOf t = [] →
      Broadcast asked none (log ++ w.tidingsOf t) (w.resume t) ∧
        Ledger asked (log ++ w.tidingsOf t) (done ++ w.completionsOf t) (w.resume t) := by
    intro hresume htidings hcompletions
    rw [hresume, htidings, hcompletions]
    exact ⟨(List.append_nil log).symm ▸ hbroadcast, hledger.same rfl rfl⟩
  cases ht : w.tasks[t]? with
  | none =>
    refine hidle (by rw [resume, ht]; rfl) (by rw [tidingsOf, ht]; rfl) ?_
    rw [completionsOf, badge?, ht]
    rfl
  | some task =>
    have hbadge := badge?_eq ht
    cases hloop : task.loop with
    | some b =>
      rw [hloop] at hbadge
      obtain ⟨k, id, includeCurrent, rfl, -⟩ := hbroadcast.enlisted.reader t _ _ hbadge
      have hlistened := resume_reading hbroadcast ht hloop
      exact ⟨hlistened.broadcast, hledger.listened hbadge hlistened⟩
    | none =>
      cases hverdict : w.verdict? t with
      | none =>
        obtain ⟨items, htidings, hspoke⟩ := resume_publishing hbroadcast ht hloop hverdict
        rw [htidings]
        exact ⟨hspoke.broadcast, hledger.spoke ht hloop hverdict hspoke⟩
      | some r =>
        have hended : task.stage = .ended r := by
          rw [verdict?_eq ht] at hverdict
          cases hstage : task.stage with
          | ended r' =>
            rw [hstage] at hverdict
            cases hverdict
            rfl
          | _ =>
            rw [hstage] at hverdict
            cases hverdict
        have hstage : (w.tasks[t]?).map Task.stage = some (.ended r) := by rw [ht, Option.map_some, hended]
        refine hidle (by rw [resume, hstage]) (by rw [tidingsOf, hstage]) ?_
        rw [completionsOf, hverdict]
        split <;> simp_all

/-- **Whatever happens, every reader keeps up**, and what is published is entered. -/
theorem StreamMove.keeps (h : StreamMove asked w l cs w') (hbroadcast : Broadcast asked none log w)
    (hledger : Ledger asked log done w) :
    Broadcast asked none (log ++ l) w' ∧ Ledger asked (log ++ l) (done ++ cs) w' := by
  have hnil : ∀ {w' : World}, Broadcast asked none log w' → Broadcast asked none (log ++ []) w' := fun h =>
    (List.append_nil log).symm ▸ h
  have hunheard : ∀ {w' : World}, Unheard w w' →
      Broadcast asked none (log ++ []) w' ∧ Ledger asked (log ++ []) (done ++ []) w' := fun h =>
    ⟨hnil (hbroadcast.unheard h), hledger.same h.stirred.badge? h.stirred.verdict?⟩
  cases h with
  | call asks known => exact ⟨hnil (hbroadcast.call asks known), hledger.spawn⟩
  | @subscribe n id includeCurrent known unheard unnamed =>
    have hnumbered : Ledger asked log done (w.onSession n fun s => { s with nextStream := s.nextStream + 1 }) :=
      ⟨hledger.published, hledger.gives, hledger.called, hledger.once, hledger.complete⟩
    exact ⟨hnil (hbroadcast.subscribe known unheard unnamed), hnumbered.spawn⟩
  | resume t => exact resume_keeps hbroadcast hledger t
  | ring t => exact hunheard (unheard_ring w t)
  | serve t => exact hunheard (unheard_wakeAtStorage w t)
  | cancel t =>
    have hstirred : Stirred (fun _ _ => True) True w (w.cancel t) := stirred_cancelWithin trivial _ w t
    exact ⟨hnil (hbroadcast.interrupted hstirred (interrupted_cancelWithin _ w t)),
      hledger.same hstirred.badge? hstirred.verdict?⟩
  | elsewhere length sessions tasks events =>
    refine ⟨hnil (hbroadcast.elsewhere length (fun m => ?_) tasks events), hledger.same ?_ ?_⟩
    · obtain ⟨hstreams, hnext, hstate⟩ := sessions m
      exact ⟨hstreams, hnext, hstate ▸ (hbroadcast.sessions m).sound⟩
    · exact (Turn.of_tasks (t := 0) tasks).badge?
    · funext i
      rw [verdict?, stage?, tasks, verdict?, stage?]

theorem broadcast_start (hnobody : ∀ i b, w.badge? i ≠ some b) (htasks : w.tasks = [])
    (hstreams : ∀ m, (w.session m).streams = []) (hsound : ∀ m, (w.session m).state.Sound) :
    Broadcast asked none [] w where
  enlisted := ⟨fun i _ _ hi => absurd hi (hnobody i _), fun i _ _ hi => absurd hi (hnobody i _),
    fun i _ _ _ _ _ _ _ hi => absurd hi (hnobody i _), fun i _ _ _ _ _ _ _ _ hi => absurd hi (hnobody i _)⟩
  sessions m := ⟨hsound m, by simp [hstreams], by simp [hstreams]⟩
  idle _ hout := nomatch hout
  calls i task _ hi := by simp [htasks] at hi
  reads i task k id includeCurrent _ hi := by simp [htasks] at hi
  unborn _ _ _ _ := rfl

/-- All through a history every reader keeps up, and what is published is entered. -/
theorem StreamHistory.keeps (h : StreamHistory asked log done w) :
    Broadcast asked none log w ∧ Ledger asked log done w := by
  induction h with
  | @start w tasks streams sound =>
    have hnobody : ∀ i b, w.badge? i ≠ some b := fun i b hi => by
      rw [badge?, tasks, List.getElem?_nil, Option.map_none] at hi
      cases hi
    exact ⟨broadcast_start hnobody tasks streams sound, fun _ => rfl, fun _ hc => absurd hc List.not_mem_nil,
      fun _ hc => absurd hc List.not_mem_nil, List.nodup_nil, fun i _ _ hi => absurd hi (hnobody i _)⟩
  | next _ move ih => exact move.keeps ih.1 ih.2

/-! ## What is reported -/

/-- **What a reader reports is what it is to be given**, no more and no less and in no other order. -/
structure Faithful (w : World) (log : List Tiding) (n k : Nat) (id : String) (includeCurrent : Bool)
    (stage : Stage) : Prop where
  /-- It reports nothing that it was not to be given, and nothing after its end. -/
  upTo : w.heard id <+: upToEnd ((due? n k includeCurrent log).getD [])
  /-- What it has not reported yet is in its hand and in its mailbox, and nothing that it has reported is an end. -/
  ahead : stage.verdict? = none → stage.isCancelled = false →
    (due? n k includeCurrent log).getD [] = w.heard id ++ stage.inHand ++ ((w.session n).mailbox? k).getD [] ∧
      IsOpen (w.heard id)
  /-- If it waits, it has a place and has reported everything. -/
  waits : ∀ e next alarm, stage = .waiting e next alarm →
    due? n k includeCurrent log = some (w.heard id) ∧ k ∈ (w.session n).streams.map Stream.number
  /-- If it came to its end, it has reported everything up to there, and has no place anymore. -/
  ends : ∀ r, stage = .ended (.ok r) → ∃ due, due? n k includeCurrent log = some due ∧ w.heard id = upToEnd due ∧
    none ∈ w.heard id ∧ k ∉ (w.session n).streams.map Stream.number
  /-- It ends in no other way but by being cancelled. -/
  breaksOff : ∀ e, stage = .ended (.error e) → e = .cancelled

/-- **A reader that keeps up is faithful.** -/
theorem faithful_of_reads (h : w.ReadsAt log n k id includeCurrent stage) :
    Faithful w log n k id includeCurrent stage := by
  refine ⟨h.upTo, fun hlive huncut => ?_, fun e next alarm hstage => ?_, fun r hstage => ?_, fun e hstage => ?_⟩
  · cases h with
    | coming place_eq heard_eq due_eq =>
      rw [place_eq, heard_eq, due_eq]
      exact ⟨rfl, isOpen_nil⟩
    | @between m place_eq due_eq isOpen =>
      rw [place_eq, due_eq]
      refine ⟨?_, isOpen⟩
      show w.heard id ++ m = w.heard id ++ [] ++ m
      rw [List.append_nil]
    | waits place_eq due_eq isOpen =>
      rw [place_eq, due_eq]
      refine ⟨?_, isOpen⟩
      show w.heard id = w.heard id ++ [] ++ []
      rw [List.append_nil, List.append_nil]
    | handed place_eq due_eq isOpen =>
      rw [place_eq, due_eq, List.append_assoc]
      exact ⟨rfl, isOpen⟩
    | leaving => cases huncut
    | dropped => cases huncut
    | atEnd => cases hlive
    | cancelled => cases hlive
  · subst hstage
    cases h with
    | waits place_eq due_eq isOpen => exact ⟨due_eq, mem_numbers_of_mailbox? place_eq⟩
  · subst hstage
    cases h with
    | atEnd place_eq due_eq heard_eq closed =>
      exact ⟨_, due_eq, heard_eq, closed, mailbox?_eq_none.mp place_eq⟩
  · subst hstage
    cases h with
    | cancelled => rfl

/-- **Streams lose and invent nothing.** All through a history, what was published is what the calls are to publish
that gave something, and every reader reports what it is to be given. -/
theorem streams_faithful (h : StreamHistory asked log done w) :
    Ledger asked log done w ∧
    ∀ (i : Nat) (task : Task) (k : Nat) (id : String) (includeCurrent : Bool), w.tasks[i]? = some task →
      task.loop = some (.reader k id includeCurrent) → Faithful w log task.session k id includeCurrent task.stage := by
  obtain ⟨hbroadcast, hledger⟩ := h.keeps
  exact ⟨hledger, fun i task k id includeCurrent hi hloop =>
    faithful_of_reads (hbroadcast.reads i task k id includeCurrent nofun hi hloop)⟩

theorem StreamHistory.resumed (h : StreamHistory asked log done w) (htidings : w.tidingsOf t = l)
    (hcompletions : w.completionsOf t = cs) : StreamHistory asked (log ++ l) (done ++ cs) (w.resume t) :=
  htidings ▸ hcompletions ▸ h.next (.resume w t)

/-- What the calls ask for: first a run is begun, and then it is closed to all readers. -/
def beginThenClose (t : Nat) : RunAction :=
  if t = 1 then .begin .dataOnly .bulk (.whole 0) (.whole 1) else .close

/-- A session where nothing happened yet. -/
def untold : World := { sessions := [{}] }

/-- Somebody reads in it, and waits for more. -/
def attentive : World := ((untold.subscribe 0 "a" true).resume 0).resume 0

/-- A run is to be launched. -/
def toAnnounce : World := (attentive.spawn 0 (.ofOp (beginThenClose 1).op)).2

/-- The run that was launched is to be closed. -/
def toSilence : World := ((toAnnounce.resume 1).spawn 0 (.ofOp (beginThenClose 2).op)).2

/-- The reader heard of both. -/
def overheard : World := ((toSilence.resume 2).resume 0).resume 0

/-- What is to be remembered of that. -/
def overheardLog : List Tiding :=
  [.entered 0 0 {}, .published 0 (some (.launched .dataOnly)), .published 0 none]

/-- What the calls gave. -/
def overheardCalls : List Completion :=
  [⟨1, 0, .state (.launched .dataOnly), .launched .dataOnly⟩, ⟨2, 0, .nothing, .launched .dataOnly⟩]

/-- A reader reports the state that it found, the run that was launched, and the end. -/
theorem overheard_toTheEnd : StreamHistory beginThenClose overheardLog overheardCalls overheard ∧
    Ledger beginThenClose overheardLog overheardCalls overheard ∧
    Faithful overheard overheardLog 0 0 "a" true (.ended (.ok .nothing)) ∧
    overheard.heard "a" = [some {}, some (.launched .dataOnly), none] := by
  have hsessions : ∀ m, (untold.session m).streams = [] ∧ (untold.session m).state = {} := by
    rintro (_ | m) <;> exact ⟨rfl, rfl⟩
  have huntold : StreamHistory beginThenClose [] [] untold :=
    .start rfl (fun m => (hsessions m).1) fun m => (hsessions m).2 ▸ RunState.sound_default
  have hnobody : ∀ i b, untold.badge? i ≠ some b := fun i b hi => by simp [untold, badge?] at hi
  have hsubscribed : StreamHistory beginThenClose [] [] (untold.subscribe 0 "a" true) :=
    huntold.next (.subscribe Nat.one_pos rfl fun i m j c => hnobody i _)
  have hentered : StreamHistory beginThenClose [.entered 0 0 {}] [] ((untold.subscribe 0 "a" true).resume 0) :=
    hsubscribed.next (.resume _ 0)
  have hattentive : StreamHistory beginThenClose [.entered 0 0 {}] [] attentive := hentered.next (.resume _ 0)
  have htoAnnounce : StreamHistory beginThenClose [.entered 0 0 {}] [] toAnnounce :=
    hattentive.next (.call rfl Nat.one_pos)
  have hlaunched : StreamHistory beginThenClose [.entered 0 0 {}, .published 0 (some (.launched .dataOnly))]
      [⟨1, 0, .state (.launched .dataOnly), .launched .dataOnly⟩] (toAnnounce.resume 1) :=
    htoAnnounce.resumed (by decide +kernel) rfl
  have htoSilence : StreamHistory beginThenClose [.entered 0 0 {}, .published 0 (some (.launched .dataOnly))]
      [⟨1, 0, .state (.launched .dataOnly), .launched .dataOnly⟩] toSilence := hlaunched.next (.call rfl Nat.one_pos)
  have hclosed : StreamHistory beginThenClose overheardLog overheardCalls (toSilence.resume 2) :=
    htoSilence.resumed (by decide +kernel) rfl
  have hread : StreamHistory beginThenClose overheardLog overheardCalls ((toSilence.resume 2).resume 0) :=
    hclosed.resumed (by decide +kernel) rfl
  have hoverheard : StreamHistory beginThenClose overheardLog overheardCalls overheard :=
    hread.resumed (by decide +kernel) rfl
  have hended : overheard.tasks[0]? =
      some { session := 0, loop := some (.reader 0 "a" true), stage := .ended (.ok .nothing) } := rfl
  obtain ⟨hledger, hreaders⟩ := streams_faithful hoverheard
  exact ⟨hoverheard, hledger, hreaders 0 _ 0 "a" true hended rfl, rfl⟩

end World

end Cutover
