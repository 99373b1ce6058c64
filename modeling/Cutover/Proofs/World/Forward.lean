import Cutover.Proofs.RunState.Skipping
import Cutover.Proofs.World.Onward
import Cutover.Proofs.World.Restart

/-!
# Late reports, lost reports and the end of a run

Reports come late, come twice or get lost. A run is not troubled by that: it only goes forward, so that
what it was told once it need not be told again, and what it is told at last stands for all that was lost
before.

* `World.late_reports_passed_over`: **what was reported once changes nothing any more**;
* `World.lost_reports_made_good`: **the last report alone says where the run is**;
* `World.goes_forward`: **a run only goes forward, and stays as it is at its end**.
-/

namespace Cutover

namespace World

variable {n m k n' : Nat} {w w' u v : World} {mode : Mode} {transfer : Transfer}
variable {log more reports whole fewer : List Status} {calm : Bool}

/-! ## Late reports -/

theorem plainSound_launched (mode : Mode) : (RunState.launched mode).PlainSound :=
  ⟨RunState.plain_launched mode, RunState.sound_launched mode⟩

theorem Underway.knows (h : Underway calm mode transfer log n w) (hplain : ∀ r ∈ log, r.Plain)
    {report : Status} (hreport : report ∈ log) : (w.session n).state.Knows (some mode) report := by
  obtain ⟨v, hv⟩ := h.state
  have hlaunched : (RunState.launched mode).phase ≠ .idle := by
    cases mode <;> exact nofun
  have hknows : ((RunState.launched mode).afterAll (some mode) (some transfer) log).Knows (some mode)
      report := RunState.knows_afterAll (plainSound_launched mode) hlaunched hplain hreport
  rw [hv]
  exact hknows

/-- **What was reported once changes nothing any more.** At every later point of a run, also in a session
that took it up, every report that was applied before can be applied again, any number of times. It is
said to have changed nothing, and nothing has changed. -/
theorem late_reports_passed_over (hbegun : Begun mode transfer n w) (h : Onward calm n w log m u)
    (hreports : ∀ report ∈ reports, report ∈ log) : PassesOver m u reports := by
  have hu : Underway calm mode transfer log m u := hbegun.underway_of_onward h
  refine passesOver hu.rests hu.live.plain.state.sound fun report hreport => ?_
  rw [hu.ofMode]
  exact (hu.knows h.plain (hreports report hreport)).passesOver

/-- The run of the first of two sessions, a tenth of which is done. -/
def twinsTenth : World := twinsBegun.after 0 (RunAction.apply tenth).op

/-- The second session has taken it up. -/
def twinsSucceeded : World := twinsTenth.after 1 WholeAction.begin.op

theorem begun_twins : Begun .dataOnly .bulk 0 twinsBegun :=
  .intro (w := twins) (x := .state (.launched .dataOnly)) ⟨by decide, rfl, rfl⟩ (by decide)
    (Value.isWhole_whole (by decide) (by decide)) (Value.isWhole_whole (by decide) (by decide))
    (does_after rfl)

theorem onward_twins : Onward true 0 twinsBegun [tenth] 1 twinsSucceeded := by
  have htenth : Onward true 0 twinsBegun ([] ++ [tenth]) 0 twinsTenth :=
    .applies (.here 0 twinsBegun) ⟨⟨10, rfl⟩, ⟨"", rfl⟩⟩ (r := .ok (.transition
      ⟨.dataMigrating, (RunState.launched .dataOnly).raiseData (.whole 10), true⟩)) (does_after rfl)
      fun _ => ⟨_, rfl⟩
  exact .restarts (x := .state ((RunState.launched .dataOnly).raiseData (.whole 10))) htenth rfl
    ⟨⟨Nat.lt_of_lt_of_eq (by decide : 1 < 2) rfl, rfl, rfl⟩, rfl,
      Nat.lt_of_lt_of_eq (by decide : 0 < 1) rfl, rfl⟩ (does_after rfl) nofun

/-- A session that has taken up a run passes over what was reported to the session before. -/
theorem late_tenth_passed_over : PassesOver 1 twinsSucceeded [tenth, tenth] :=
  late_reports_passed_over begun_twins onward_twins (by simp)

/-! ## Lost reports -/

theorem Underway.mark (h : Underway calm mode transfer log n w) : (w.session n).state.mark
    = ((RunState.launched mode).afterAll (some mode) (some transfer) log).mark := by
  obtain ⟨v, hv⟩ := h.state
  rw [hv]
  rfl

theorem Underway.onward_exists (hw : Underway false mode transfer log n w)
    (hplain : ∀ r ∈ reports, r.Plain) : ∃ u, Onward false n w reports n u := by
  induction reports using List.reverseRecOn with
  | nil => exact ⟨w, .here n w⟩
  | append_singleton reports report ih =>
    obtain ⟨hreports, hreport⟩ := List.forall_mem_append.mp hplain
    obtain ⟨u, hu⟩ := ih hreports
    obtain ⟨u', r, hdoes⟩ := does_apply (hu.underway hw).rests report
    exact ⟨u', hu.applies (hreport report (List.mem_singleton_self _)) hdoes nofun⟩

/-- **The last report alone says where a run is.** Of reports that come in the order of the service,
any but the last that tells something may be lost: the run comes to the same phase, is in progress or not
as before, and is as far with schema, data and foreign keys. -/
theorem lost_reports_made_good (hmode : mode.migratesData = true) (hwhole : Status.InOrder whole)
    (hfewer : fewer.Sublist whole) (hlast : Status.last? fewer = Status.last? whole)
    (hbegun : Begun mode transfer n w) (hbegun' : Begun mode transfer n' w') :
    (∃ v, Onward false n' w' fewer n' v) ∧
      ∀ (calm calm' : Bool) (m m' : Nat) (u u' : World), Onward calm n w whole m u →
        Onward calm' n' w' fewer m' u' → (u'.session m').state.mark = (u.session m).state.mark := by
  refine ⟨hbegun'.underway.onward_exists fun r hr => hwhole.plain r (hfewer.mem hr), ?_⟩
  intro calm calm' m m' u u' h h'
  have hu : Underway calm mode transfer whole m u := hbegun.underway_of_onward h
  have hu' : Underway calm' mode transfer fewer m' u' := hbegun'.underway_of_onward h'
  rw [hu'.mark, hu.mark, RunState.mark_afterAll hmode (hwhole.sublist hfewer),
    RunState.mark_afterAll hmode hwhole, hlast]

/-- A single session has begun a run of schema and data. -/
def wholeBegun : World := single.after 0 (RunAction.begin .schemaAndData .bulk (.whole 2) (.whole 3)).op

/-- The schema is there. -/
def schemaThere : Status where
  signal := .schemaComplete
  progress := .whole 0

/-- That is reported, and then half of the data. -/
def wholeTold : World :=
  (wholeBegun.after 0 (RunAction.apply schemaThere).op).after 0 (RunAction.apply half).op

/-- Half of the data is reported alone. -/
def fewerTold : World := wholeBegun.after 0 (RunAction.apply half).op

/-- A run that was told of half of the data alone is as far as one that was told of the schema before. -/
theorem lost_schema_made_good :
    (fewerTold.session 0).state.mark = (wholeTold.session 0).state.mark := by
  have hbegun : Begun .schemaAndData .bulk 0 wholeBegun :=
    .intro (w := single) (x := .state (.launched .schemaAndData)) ⟨by decide, rfl, rfl⟩ (by decide)
      (Value.isWhole_whole (by decide) (by decide)) (Value.isWhole_whole (by decide) (by decide))
      (does_after rfl)
  have hschema : schemaThere.Plain := ⟨⟨0, rfl⟩, ⟨"", rfl⟩⟩
  have hhalf : half.Plain := ⟨⟨50, rfl⟩, ⟨"", rfl⟩⟩
  have hwhole : Onward false 0 wholeBegun (([] ++ [schemaThere]) ++ [half]) 0 wholeTold :=
    .applies (r := .ok _) (.applies (r := .ok _) (.here 0 wholeBegun) hschema (does_after rfl) nofun) hhalf
      (does_after rfl) nofun
  have hfewer : Onward false 0 wholeBegun ([] ++ [half]) 0 fewerTold :=
    .applies (r := .ok _) (.here 0 wholeBegun) hhalf (does_after rfl) nofun
  have hordered : Status.InOrder [schemaThere, half] := by
    refine ⟨by simp [hschema, hhalf], by decide, ?_⟩
    show List.Pairwise Status.Follows [schemaThere, half]
    simp only [List.pairwise_cons, List.mem_singleton, forall_eq, List.not_mem_nil, false_implies,
      implies_true, List.Pairwise.nil, and_true]
    exact ⟨rfl, .inl (by decide), nofun⟩
  obtain ⟨-, hsame⟩ := lost_reports_made_good rfl hordered (List.sublist_cons_self schemaThere [half]) rfl
    hbegun hbegun
  exact hsame _ _ _ _ _ _ hwhole hfewer

/-! ## The end of a run -/

theorem Onward.over (h : Onward calm m u more k v) (hu : Underway calm mode transfer log m u)
    (hover : (u.session m).state.phase.isActive = false) :
    (v.session k).state = (u.session m).state := by
  induction h with
  | here => rfl
  | applies onward _ does _ ih =>
    have hgoing := onward.underway hu
    have hstate := ih hu hover
    obtain ⟨w', hunmoved, hdoes⟩ := does_passedOver hgoing.rests hgoing.live.plain.state.sound
      (.inl (hstate.symm ▸ hover))
    obtain ⟨rfl, -⟩ := does.unique hdoes
    exact (congrArg Session.state (hunmoved.session _)).trans hstate
  | passes _ undisturbed ih => exact undisturbed.state.trans (ih hu hover)
  | restarts onward running succeeds does agrees ih =>
    have hgoing := onward.underway hu
    exact (hgoing.restarts running (hgoing.inAgreement agrees) succeeds does).2.trans (ih hu hover)

/-- **A run only goes forward.** Between any two points of a run, also if a session took it up in between,
no phase comes before one that it was in and no progress value gets less. Once it is complete or has
failed it stays as it is: any reports, also of a failure, are said to have changed nothing, and nothing
has changed. -/
theorem goes_forward (hbegun : Begun mode transfer n w) (h : Onward calm n w log m u)
    (h' : Onward calm m u more k v) : (u.session m).state.Precedes (v.session k).state ∧
      ((u.session m).state.phase = .complete ∨ (u.session m).state.phase = .failed →
        (v.session k).state = (u.session m).state ∧ ∀ reports, PassesOver k v reports) := by
  have hu : Underway calm mode transfer log m u := hbegun.underway_of_onward h
  have hv := h'.underway hu
  refine ⟨?_, fun hover => ?_⟩
  · obtain ⟨x, hx⟩ := hu.state
    obtain ⟨y, hy⟩ := hv.state
    have hplain : ((RunState.launched mode).afterAll (some mode) (some transfer) log).PlainSound :=
      (plainSound_launched mode).afterAll h.plain
    have hprecedes : ((RunState.launched mode).afterAll (some mode) (some transfer) log).Precedes
        (((RunState.launched mode).afterAll (some mode) (some transfer) log).afterAll (some mode)
          (some transfer) more) := RunState.precedes_afterAll hplain h'.plain
    rw [RunState.afterAll_append] at hy
    rw [hx, hy]
    exact ⟨hprecedes.phase, hprecedes.schema, hprecedes.data, hprecedes.foreignKeys⟩
  · have hidle : (u.session m).state.phase.isActive = false := by
      rcases hover with hp | hp <;> (rw [hp]; rfl)
    have hstate := h'.over hu hidle
    refine ⟨hstate, fun reports => passesOver hv.rests hv.live.plain.state.sound fun _ _ => .inl ?_⟩
    rw [hstate]
    exact hidle

/-- The run has failed on the side of the service. -/
def broken : Status where
  signal := .dataInProgress
  progress := .whole 10
  errorText := .text "disk full"

/-- That is reported to the second session. -/
def twinsOver : World := twinsSucceeded.after 1 (RunAction.apply broken).op

/-- A run that a session took up goes on to its end, and what is reported afterwards changes nothing. -/
theorem twins_go_forward : (twinsBegun.session 0).state.Precedes (twinsOver.session 1).state ∧
    PassesOver 1 twinsOver [broken, half] := by
  have hbroken : broken.Plain := ⟨⟨10, rfl⟩, ⟨"disk full", rfl⟩⟩
  have hover : Onward true 0 twinsBegun ([tenth] ++ [broken]) 1 twinsOver :=
    .applies (r := .ok _) onward_twins hbroken (does_after rfl) fun _ => ⟨_, rfl⟩
  have hforward := (goes_forward begun_twins (.here 0 twinsBegun) hover).1
  have hend := (goes_forward begun_twins hover (.here 1 twinsOver)).2 (.inr rfl)
  exact ⟨hforward, hend.2 _⟩

end World

end Cutover
