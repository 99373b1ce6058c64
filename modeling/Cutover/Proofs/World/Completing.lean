import Cutover.Proofs.World.Fetching
import Cutover.Proofs.World.Forward

/-!
# What a complete run serves

A run fetches its resources at the first point where they are to be there, unless some are kept then or the run
is marked. So what a complete run serves depends on what was asked for before that point, and on whether a fresh
session took the run up after it.

* `World.Gathering.ready`, `World.Gathering.underway`: the session of a run can go on;
* `World.served_at_completion`: **a complete run serves what it came by first**, be it fetched for the run or
  kept from before;
* `World.kept_at_completion`: **a complete run keeps its resources if the session that fetched them goes on**.
-/

namespace Cutover

namespace Occasion

variable {e : Occasion}

/-- Where no stop hook fails, a run calls for its resources at the points where they are to be there. -/
theorem callsFor_iff_turns (hreport : e.cause.isReport = true) (hhooks : e.hookFails = false) :
    callsFor (e.before.session e.session).hooks e.phaseBefore e.phaseAfter = true ↔ e.Turns := by
  rw [callsFor_iff hreport, Turns, hhooks]
  simp

theorem Turns.isReport (h : e.Turns) : e.cause.isReport = true := h.elim And.left And.left

end Occasion

namespace World

variable {n m k : Nat} {w w' u u' v v' : World} {r : Except Exit Result} {report : Status} {answer : Outcome}
variable {delay : Int} {log : List Occasion} {mode : Mode} {transfer : Transfer} {items : List Resource}

/-! ## The session of a run -/

theorem Gathering.ready (h : Gathering n w log m u) (hw : Ready n w)
    (hstays : ∀ e ∈ log, e.cause.isSuccession = false) : Ready m u := by
  induction h with
  | here => exact hw
  | reports _ does ih => exact (does.reported (ih fun e he => hstays e (List.mem_append_left _ he))).ready
  | requests _ does ih =>
    have hu := ih fun e he => hstays e (List.mem_append_left _ he)
    have hrequested := does.requested hu
    exact hrequested.undisturbed.ready hrequested.isBare hu
  | passes _ untroubled ih => exact untroubled.ready untroubled.isBare (ih hstays)
  | restarts => cases hstays _ (List.mem_append_right _ (List.mem_singleton_self _))

theorem Underway.answering {reports : List Status} (h : Underway false mode transfer reports n w)
    (line : ScriptLine) : Underway false mode transfer reports n (w.answering line) :=
  h.passes ⟨h.rests.answering line, rfl, rfl, rfl, rfl, rfl⟩

theorem Underway.ready {reports : List Status} (h : Underway false mode transfer reports n w)
    (hwhole : (w.session n).isBare = false) : Ready n w := ⟨h.rests, h.live.plain.state.sound, hwhole⟩

theorem Gathering.underway (h : Gathering n w log m u) (hbegun : Begun mode transfer n w)
    (hwhole : (w.session n).isBare = false) (hplain : ∀ e ∈ log, e.cause.IsPlain) :
    (∃ reports, Underway false mode transfer reports m u) ∧ (u.session m).isBare = false := by
  induction h with
  | here => exact ⟨⟨[], hbegun.underway⟩, hwhole⟩
  | reports _ does ih =>
    obtain ⟨⟨reports, hu⟩, hbare⟩ := ih fun e he => hplain e (List.mem_append_left _ he)
    have hreport := hplain _ (List.mem_append_right _ (List.mem_singleton_self _))
    exact ⟨⟨_, (hu.answering _).applies hreport does nofun⟩, (does.reported (hu.ready hbare)).ready.isBare⟩
  | requests _ does ih =>
    obtain ⟨⟨reports, hu⟩, hbare⟩ := ih fun e he => hplain e (List.mem_append_left _ he)
    have hrequested := does.requested (hu.ready hbare)
    exact ⟨⟨reports, hu.passes hrequested.undisturbed⟩, hrequested.isBare.trans hbare⟩
  | passes _ untroubled ih =>
    obtain ⟨⟨reports, hu⟩, hbare⟩ := ih hplain
    exact ⟨⟨reports, hu.passes untroubled.toUndisturbed⟩, untroubled.isBare.trans hbare⟩
  | restarts _ running agrees inherits does ih =>
    obtain ⟨⟨reports, hu⟩, hbare⟩ := ih fun e he => hplain e (List.mem_append_left _ he)
    exact ⟨⟨reports, (hu.restarts running agrees inherits.toSucceeds does).1⟩,
      (inherits.takesOver hu.live running agrees does).1⟩

/-! ## What is kept from before -/

/-- Nothing is kept when the run comes to the point where its resources are to be there: the run began with none,
and the user had not asked for any. -/
def NoneBefore (n : Nat) (w : World) (earlier : List Occasion) : Prop :=
  (w.session n).resources = none ∧ ∀ d ∈ earlier, d.cause.isRequest = false

/-- **Where the resources of a run come from**: from the fetch at the first point where they are to be there if
nothing was kept before, else from before, and the service was not asked any more. -/
structure Stems (n : Nat) (w : World) (earlier : List Occasion) (e : Occasion) (u : World)
    (items : List Resource) : Prop where
  turns : e.Turns
  first : ∀ d ∈ earlier, ¬d.Turns
  fetched : NoneBefore n w earlier → e.Brings items ∧ u.requests = e.after.requests
  before : ¬NoneBefore n w earlier →
    ((w.session n).resources = some items ∨ ∃ d ∈ earlier, d.Brings items) ∧ u.requests = e.before.requests

/-- **How far a run has come with its resources** that no session took up. -/
inductive Stocked (n : Nat) (w : World) (log : List Occasion) (m : Nat) (u : World) : Prop
  | before (turns : ∀ d ∈ log, ¬d.Turns) (mark : (u.session m).state.isReconciled = false)
    (phase : (u.session m).state.phase ≠ .complete)
    (none_iff : (u.session m).resources = none ↔ NoneBefore n w log)
    (source : ∀ items, (u.session m).resources = some items →
      (w.session n).resources = some items ∨ ∃ d ∈ log, d.Brings items)
  | after {earlier later : List Occasion} {e : Occasion} {items : List Resource}
    (split : log = earlier ++ e :: later) (stems : Stems n w earlier e u items)
    (mark : (u.session m).state.isReconciled = true) (kept : (u.session m).resources = some items)

theorem Stems.silent {earlier : List Occasion} {e : Occasion} (h : Stems n w earlier e u items)
    (hrequests : u'.requests = u.requests) : Stems n w earlier e u' items where
  turns := h.turns
  first := h.first
  fetched hnone := ⟨(h.fetched hnone).1, hrequests.trans (h.fetched hnone).2⟩
  before hsome := ⟨(h.before hsome).1, hrequests.trans (h.before hsome).2⟩

theorem noneBefore_concat {e : Occasion} :
    NoneBefore n w (log ++ [e]) ↔ NoneBefore n w log ∧ e.cause.isRequest = false := by
  simp only [NoneBefore, List.forall_mem_append, List.forall_mem_singleton, and_assoc]

namespace Stocked

theorem of_begun (h : Begun mode transfer n w) : Stocked n w [] n w := by
  refine .before (fun _ hd => absurd hd List.not_mem_nil) ?_ ?_ ?_ fun _ => .inl
  · rw [h.launched]
    cases mode <;> rfl
  · rw [h.launched]
    cases mode <;> exact nofun
  · exact ⟨fun hnone => ⟨hnone, fun _ hd => absurd hd List.not_mem_nil⟩, And.left⟩

theorem passes (h : Stocked n w log m u) (hu : Untroubled m u u') : Stocked n w log m u' := by
  cases h with
  | before turns mark phase none_iff source =>
    exact .before turns (hu.state.symm ▸ mark) (hu.state.symm ▸ phase) (hu.resources.symm ▸ none_iff)
      (hu.resources.symm ▸ source)
  | after split stems mark kept =>
    exact .after split (stems.silent hu.requests) (hu.state.symm ▸ mark) (hu.resources.trans kept)

/-- **A report takes resources that are kept for those of the run**, and has others fetched. -/
theorem reports (h : Stocked n w log m u) (hr : Reported m answer u u' r)
    (hyields : ∃ items, answer.resources = .ok items)
    (hhooks : Occasion.hookFails ⟨m, .report report answer, u, u', r⟩ = false) :
    Stocked n w (log ++ [⟨m, .report report answer, u, u', r⟩]) m u' := by
  have hiff := Occasion.callsFor_iff_turns (e := ⟨m, .report report answer, u, u', r⟩) rfl hhooks
  cases h with
  | before turns mark phase none_iff source =>
    refine hr.cases ?quiet ?finds ?brings ?lacks
    case quiet =>
      intro hmarked hkept hmark _
      have hstays : ¬Occasion.Turns ⟨m, .report report answer, u, u', r⟩ := fun hturns =>
        nomatch mark.symm.trans (hmarked (hiff.mpr hturns))
      refine .before ?_ (hmark.trans mark) (fun hp => hstays (.inr ⟨rfl, ?_, hp⟩)) ?_ fun items hitems => ?_
      · exact List.forall_mem_append.mpr ⟨turns, List.forall_mem_singleton.mpr hstays⟩
      · exact fun hsame => phase (Eq.trans hsame hp)
      · rw [hkept, none_iff, noneBefore_concat]
        exact (and_iff_left rfl).symm
      · rw [exists_mem_concat]
        exact (source items (hkept.symm.trans hitems)).imp_right .inl
    case finds =>
      intro items hcalls _ hkept hkept' hmark hrequests
      refine .after (rfl : log ++ [_] = log ++ _ :: []) ⟨hiff.mp hcalls, turns, fun hnone => ?_, fun _ => ?_⟩ hmark hkept'
      · cases (none_iff.mpr hnone).symm.trans hkept
      · exact ⟨source items hkept, hrequests⟩
    case brings =>
      intro items ho hcalls _ hkept hkept' hmark hrequests
      refine .after (rfl : log ++ [_] = log ++ _ :: []) ⟨hiff.mp hcalls, turns, fun _ => ?_, fun hsome => ?_⟩ hmark hkept'
      · exact ⟨⟨hrequests, answer, rfl, ho⟩, rfl⟩
      · exact absurd (none_iff.mp hkept) hsome
    case lacks =>
      intro f ho _ _ _ _ _ _
      obtain ⟨items, hitems⟩ := hyields
      cases ho.symm.trans hitems
  | after split stems mark kept =>
    subst split
    refine hr.cases ?quiet (fun _ _ hmark => ?_) (fun _ _ _ hmark => ?_) fun _ _ _ hmark => ?_
    case quiet =>
      intro _ hkept hmark hrequests
      exact .after (List.append_assoc ..) (stems.silent hrequests) (hmark.trans mark) (hkept.trans kept)
    all_goals cases hmark.symm.trans mark

/-- **A user who asks gets the resources fetched** if none are kept. -/
theorem requests (h : Stocked n w log m u) (hr : Requested m answer u u')
    (hyields : ∃ items, answer.resources = .ok items) :
    Stocked n w (log ++ [⟨m, .request answer, u, u', r⟩]) m u' := by
  have hstate := hr.undisturbed.state
  obtain ⟨items, hitems⟩ := hyields
  cases h with
  | before turns mark phase none_iff source =>
    have hturns : ∀ d ∈ log ++ [⟨m, .request answer, u, u', r⟩], ¬Occasion.Turns d :=
      List.forall_mem_append.mpr ⟨turns, List.forall_mem_singleton.mpr fun h => nomatch h.isReport⟩
    have hasked : ¬NoneBefore n w (log ++ [⟨m, .request answer, u, u', r⟩]) := by
      rw [noneBefore_concat]
      exact fun h => nomatch h.2
    rcases hr.cases hitems with ⟨old, hkept, hkept', -⟩ | ⟨-, hkept', hrequests⟩
    · refine .before hturns (hstate.symm ▸ mark) (hstate.symm ▸ phase) ?_ fun items' hitems' => ?_
      · rw [hkept']
        exact ⟨nofun, fun hnone => absurd hnone hasked⟩
      · rw [exists_mem_concat]
        exact (source items' (hkept.trans (hkept'.symm.trans hitems'))).imp_right .inl
    · refine .before hturns (hstate.symm ▸ mark) (hstate.symm ▸ phase) ?_ fun items' hitems' => ?_
      · rw [hkept']
        exact ⟨nofun, fun hnone => absurd hnone hasked⟩
      · rw [exists_mem_concat]
        cases hkept'.symm.trans hitems'
        exact .inr (.inr ⟨hrequests, answer, rfl, hitems⟩)
  | after split stems mark kept =>
    subst split
    rcases hr.cases hitems with ⟨old, hkept, hkept', hrequests⟩ | ⟨hnone, -⟩
    · cases hkept.symm.trans kept
      exact .after (List.append_assoc ..) (stems.silent hrequests) (hstate.symm ▸ mark) hkept'
    · cases hnone.symm.trans kept

end Stocked

theorem Gathering.stocked (h : Gathering n w log m u) (hbegun : Begun mode transfer n w)
    (hwhole : (w.session n).isBare = false) (hstays : ∀ e ∈ log, e.cause.isSuccession = false)
    (hyields : ∀ e ∈ log, e.cause.Yields) (hhooks : ∀ e ∈ log, e.hookFails = false) : Stocked n w log m u := by
  induction h with
  | here => exact .of_begun hbegun
  | reports gathering does ih =>
    obtain ⟨hstays, -⟩ := List.forall_mem_append.mp hstays
    obtain ⟨hyields, hyields'⟩ := List.forall_mem_append.mp hyields
    obtain ⟨hhooks, hhooks'⟩ := List.forall_mem_append.mp hhooks
    refine (ih hstays hyields hhooks).reports (does.reported (gathering.ready (hbegun.ready hwhole) hstays)) ?_ ?_
    · exact hyields' _ (List.mem_singleton_self _) _ rfl
    · exact hhooks' _ (List.mem_singleton_self _)
  | requests gathering does ih =>
    obtain ⟨hstays, -⟩ := List.forall_mem_append.mp hstays
    obtain ⟨hyields, hyields'⟩ := List.forall_mem_append.mp hyields
    obtain ⟨hhooks, -⟩ := List.forall_mem_append.mp hhooks
    exact (ih hstays hyields hhooks).requests (does.requested (gathering.ready (hbegun.ready hwhole) hstays))
      (hyields' _ (List.mem_singleton_self _) _ rfl)
  | passes _ untroubled ih => exact (ih hstays hyields hhooks).passes untroubled
  | restarts => cases hstays _ (List.mem_append_right _ (List.mem_singleton_self _))

/-- **A complete run serves what it came by first.** Reports are applied to a run, the user asks for the resources
in between, every fetch succeeds and no stop hook fails. Once the run is complete, its session serves a list, page
by page and as a whole. If nothing was kept when the run first came to a point where its resources were to be
there, that is the answer to the one request that was sent there. Otherwise it is the list that was kept from
before, and since then the service was not asked at all. -/
theorem served_at_completion (hbegun : Begun mode transfer n w) (hwhole : (w.session n).isBare = false)
    (h : Gathering n w log m u) (hstays : ∀ e ∈ log, e.cause.isSuccession = false)
    (hyields : ∀ e ∈ log, e.cause.Yields) (hhooks : ∀ e ∈ log, e.hookFails = false)
    (hcomplete : (u.session m).state.phase = .complete) :
    ∃ earlier e later items, log = earlier ++ e :: later ∧ Stems n w earlier e u items ∧ Serves m u items := by
  have hready := h.ready (hbegun.ready hwhole) hstays
  cases h.stocked hbegun hwhole hstays hyields hhooks with
  | before _ _ phase _ _ => exact absurd hcomplete phase
  | after split stems _ kept => exact ⟨_, _, _, _, split, stems, serves_kept hready.rests hready.isBare kept⟩

theorem resources_noResources : noResources.resources = .ok [] := rfl

/-- A user asks for the resources of a run while it migrates data. -/
def singleAsked : World := (singleBegun.answering ⟨noResources, 0⟩).after 0 WholeAction.reconcileNow.op

/-- The run is complete. -/
def singleServed : World := (singleAsked.answering ⟨noResources, 0⟩).after 0 (RunAction.apply keysThere).op

/-- A run whose resources a user asked for before they were to be there asks no more when it is complete. -/
theorem single_serves_from_before : singleAsked.requests = 1 ∧ singleServed.requests = 1 ∧
    ∃ earlier e later items, Gathering 0 singleBegun (earlier ++ e :: later) 0 singleServed ∧
      Stems 0 singleBegun earlier e singleServed items ∧ Serves 0 singleServed items := by
  have hasked : Does 0 WholeAction.reconcileNow.op (singleBegun.answering ⟨noResources, 0⟩) singleAsked (.ok _) :=
    does_after rfl
  have hcomplete : Does 0 (RunAction.apply keysThere).op (singleAsked.answering ⟨noResources, 0⟩) singleServed
      (.ok _) := does_after rfl
  have hgathering : Gathering 0 singleBegun
      (([] ++ [⟨0, .request noResources, singleBegun, singleAsked, .ok _⟩]) ++
        [⟨0, .report keysThere noResources, singleAsked, singleServed, .ok _⟩]) 0 singleServed :=
    .reports (.requests .here hasked) hcomplete
  obtain ⟨earlier, e, later, items, hsplit, hserved⟩ := served_at_completion begun_single rfl hgathering
    (by simp [Cause.isSuccession]) (by simp [Cause.Yields, Cause.answer?, resources_noResources])
    (List.forall_mem_cons.mpr ⟨rfl, List.forall_mem_singleton.mpr rfl⟩) rfl
  exact ⟨rfl, rfl, earlier, e, later, items, hsplit ▸ hgathering, hserved⟩

/-! ## What is left after a restart -/

/-- A fresh session took the run up. -/
def Succession (log : List Occasion) : Prop := ∃ d ∈ log, d.cause.isSuccession = true

/-- **The resources of a run were fetched** at the first point where they are to be there, and the service was not
asked any more. -/
structure Fetches (w : World) (earlier : List Occasion) (e : Occasion) (u : World) (items : List Resource) : Prop where
  turns : e.Turns
  first : ∀ d ∈ earlier, ¬d.Turns
  brings : e.Brings items
  before : e.before.requests = w.requests
  after : u.requests = e.after.requests

/-- **How far a run has come with its resources** that a user never asked for. -/
inductive Supplied (w : World) (log : List Occasion) (m : Nat) (u : World) : Prop
  | before (turns : ∀ d ∈ log, ¬d.Turns) (mark : (u.session m).state.isReconciled = false)
    (phase : (u.session m).state.phase ≠ .complete) (none : (u.session m).resources = none)
    (requests : u.requests = w.requests)
  | after {earlier later : List Occasion} {e : Occasion} {items : List Resource}
    (split : log = earlier ++ e :: later) (fetches : Fetches w earlier e u items)
    (mark : (u.session m).state.isReconciled = true)
    (kept : ¬Succession later → (u.session m).resources = some items)
    (lost : Succession later → (u.session m).resources = none)

theorem Fetches.silent {earlier : List Occasion} {e : Occasion} (h : Fetches w earlier e u items)
    (hrequests : u'.requests = u.requests) : Fetches w earlier e u' items :=
  { h with after := hrequests.trans h.after }

theorem succession_concat {e : Occasion} :
    Succession (log ++ [e]) ↔ Succession log ∨ e.cause.isSuccession = true := exists_mem_concat

namespace Supplied

theorem of_begun (h : Begun mode transfer n w) (hnone : (w.session n).resources = none) : Supplied w [] n w := by
  refine .before (fun _ hd => absurd hd List.not_mem_nil) ?_ ?_ hnone rfl
  · rw [h.launched]
    cases mode <;> rfl
  · rw [h.launched]
    cases mode <;> exact nofun

theorem passes (h : Supplied w log m u) (hu : Untroubled m u u') : Supplied w log m u' := by
  cases h with
  | before turns mark phase none requests =>
    exact .before turns (hu.state.symm ▸ mark) (hu.state.symm ▸ phase) (hu.resources.trans none)
      (hu.requests.trans requests)
  | after split fetches mark kept lost =>
    exact .after split (fetches.silent hu.requests) (hu.state.symm ▸ mark)
      (fun hstays => hu.resources.trans (kept hstays)) fun hleft => hu.resources.trans (lost hleft)

/-- **A report has the resources fetched** at the first point where they are to be there, and at no other. -/
theorem reports (h : Supplied w log m u) (hr : Reported m answer u u' r)
    (hyields : ∃ items, answer.resources = .ok items)
    (hhooks : Occasion.hookFails ⟨m, .report report answer, u, u', r⟩ = false) :
    Supplied w (log ++ [⟨m, .report report answer, u, u', r⟩]) m u' := by
  have hiff := Occasion.callsFor_iff_turns (e := ⟨m, .report report answer, u, u', r⟩) rfl hhooks
  cases h with
  | before turns mark phase none requests =>
    refine hr.cases ?quiet ?finds ?brings ?lacks
    case quiet =>
      intro hmarked hkept hmark hrequests
      have hstays : ¬Occasion.Turns ⟨m, .report report answer, u, u', r⟩ := fun hturns =>
        nomatch mark.symm.trans (hmarked (hiff.mpr hturns))
      refine .before ?_ (hmark.trans mark) (fun hp => hstays (.inr ⟨rfl, ?_, hp⟩)) (hkept.trans none)
        (hrequests.trans requests)
      · exact List.forall_mem_append.mpr ⟨turns, List.forall_mem_singleton.mpr hstays⟩
      · exact fun hsame => phase (Eq.trans hsame hp)
    case finds =>
      intro items _ _ hkept _ _ _
      cases none.symm.trans hkept
    case brings =>
      intro items ho hcalls _ _ hkept hmark hrequests
      refine .after (rfl : log ++ [_] = log ++ _ :: []) ⟨hiff.mp hcalls, turns, ⟨hrequests, answer, rfl, ho⟩, requests, rfl⟩ hmark
        (fun _ => hkept) fun ⟨_, hd, _⟩ => absurd hd List.not_mem_nil
    case lacks =>
      intro f ho _ _ _ _ _ _
      obtain ⟨items, hitems⟩ := hyields
      cases ho.symm.trans hitems
  | after split fetches mark kept lost =>
    subst split
    refine hr.cases ?quiet (fun _ _ hmark => ?_) (fun _ _ _ hmark => ?_) fun _ _ _ hmark => ?_
    case quiet =>
      intro _ hkept hmark hrequests
      refine .after (List.append_assoc ..) (fetches.silent hrequests) (hmark.trans mark) ?_ ?_
      · exact fun hstays => hkept.trans (kept fun hleft => hstays (succession_concat.mpr (.inl hleft)))
      · exact fun hleft => hkept.trans (lost ((succession_concat.mp hleft).resolve_right nofun))
    all_goals cases hmark.symm.trans mark

/-- **A fresh session has no resources**, and takes the run for one that has them if they were fetched. -/
theorem restarts (h : Supplied w log m u) (hstate : (v'.session k).state = (u.session m).state)
    (hnone : (v'.session k).resources = none) (hrequests : v'.requests = u.requests) :
    Supplied w (log ++ [⟨k, .succession, v, v', r⟩]) k v' := by
  cases h with
  | before turns mark phase none requests =>
    refine .before ?_ (hstate.symm ▸ mark) (hstate.symm ▸ phase) hnone (hrequests.trans requests)
    exact List.forall_mem_append.mpr ⟨turns, List.forall_mem_singleton.mpr fun h => nomatch h.isReport⟩
  | after split fetches mark kept lost =>
    subst split
    refine .after (List.append_assoc ..) (fetches.silent hrequests) (hstate.symm ▸ mark) ?_ fun _ => hnone
    exact fun hstays => absurd (succession_concat.mpr (.inr rfl)) hstays

end Supplied

theorem Gathering.supplied (h : Gathering n w log m u) (hbegun : Begun mode transfer n w)
    (hwhole : (w.session n).isBare = false) (hnone : (w.session n).resources = none)
    (hasks : ∀ e ∈ log, e.cause.isRequest = false) (hplain : ∀ e ∈ log, e.cause.IsPlain)
    (hyields : ∀ e ∈ log, e.cause.Yields) (hhooks : ∀ e ∈ log, e.hookFails = false) : Supplied w log m u := by
  induction h with
  | here => exact .of_begun hbegun hnone
  | reports gathering does ih =>
    obtain ⟨hasks, -⟩ := List.forall_mem_append.mp hasks
    obtain ⟨hplain, -⟩ := List.forall_mem_append.mp hplain
    obtain ⟨hyields, hyields'⟩ := List.forall_mem_append.mp hyields
    obtain ⟨hhooks, hhooks'⟩ := List.forall_mem_append.mp hhooks
    obtain ⟨⟨_, hu⟩, hbare⟩ := gathering.underway hbegun hwhole hplain
    refine (ih hasks hplain hyields hhooks).reports (does.reported (hu.ready hbare)) ?_ ?_
    · exact hyields' _ (List.mem_singleton_self _) _ rfl
    · exact hhooks' _ (List.mem_singleton_self _)
  | requests => cases hasks _ (List.mem_append_right _ (List.mem_singleton_self _))
  | passes _ untroubled ih => exact (ih hasks hplain hyields hhooks).passes untroubled
  | restarts gathering running agrees inherits does ih =>
    obtain ⟨hasks, -⟩ := List.forall_mem_append.mp hasks
    obtain ⟨hplain, -⟩ := List.forall_mem_append.mp hplain
    obtain ⟨hyields, -⟩ := List.forall_mem_append.mp hyields
    obtain ⟨hhooks, -⟩ := List.forall_mem_append.mp hhooks
    obtain ⟨⟨_, hu⟩, -⟩ := gathering.underway hbegun hwhole hplain
    obtain ⟨-, hempty, hrequests⟩ := inherits.takesOver hu.live running agrees does
    exact (ih hasks hplain hyields hhooks).restarts (hu.restarts running agrees inherits.toSucceeds does).2 hempty
      hrequests

/-- **A complete run keeps its resources if the session that fetched them goes on.** A run begins with none, reports
are applied to it, fresh sessions take it up, every fetch succeeds and no stop hook fails. Once the run is complete
it is marked, and its resources were asked for once, at the first point where they were to be there. The session of
that point serves them, and goes on to keep them whatever is done but to drop them or to ask past the session. A
session that took the run up later keeps none and shows empty pages. -/
theorem kept_at_completion (hbegun : Begun mode transfer n w) (hwhole : (w.session n).isBare = false)
    (hnone : (w.session n).resources = none) (h : Gathering n w log m u)
    (hasks : ∀ e ∈ log, e.cause.isRequest = false) (hplain : ∀ e ∈ log, e.cause.IsPlain)
    (hyields : ∀ e ∈ log, e.cause.Yields) (hhooks : ∀ e ∈ log, e.hookFails = false)
    (hcomplete : (u.session m).state.phase = .complete) :
    (u.session m).state.isReconciled = true ∧ ∃ earlier e later items, log = earlier ++ e :: later ∧
      Fetches w earlier e u items ∧
      (¬Succession later → Serves m u items ∧ ∀ (a : Action) (v : World) (r : Except Exit Result),
        a.drops = false → a.asksItself = false → Does m a.op u v r →
          (v.session m).resources = some items ∧ v.requests = u.requests) ∧
      (Succession later → (u.session m).resources = none ∧ ShowsPages m u []) := by
  obtain ⟨⟨_, hu⟩, hbare⟩ := h.underway hbegun hwhole hplain
  cases h.supplied hbegun hwhole hnone hasks hplain hyields hhooks with
  | before _ _ phase _ _ => exact absurd hcomplete phase
  | after split fetches mark kept lost =>
    refine ⟨mark, _, _, _, _, split, fetches, fun hstays => ?_, fun hleft => ?_⟩
    · refine ⟨serves_kept hu.rests hbare (kept hstays), fun a v r hdrops hasks hdoes => ?_⟩
      exact hdoes.keeps hu.rests.known hdrops hasks (kept hstays)
    · have hshows := showsPages hu.rests.known
      rw [lost hleft] at hshows
      exact ⟨lost hleft, hshows⟩

/-- The first of two sessions comes to apply foreign keys, and its resources are fetched. -/
def twinsTurned : World := (twinsBegun.answering ⟨noResources, 0⟩).after 0 (RunAction.apply keysBegun).op

/-- The second session has taken the run up. -/
def twinsSucceeding : World := twinsTurned.after 1 WholeAction.begin.op

/-- The run is complete. -/
def twinsComplete : World := (twinsSucceeding.answering ⟨noResources, 0⟩).after 1 (RunAction.apply keysThere).op

theorem plain_keysBegun : keysBegun.Plain := ⟨⟨0, rfl⟩, ⟨"", rfl⟩⟩

theorem plain_keysThere : keysThere.Plain := ⟨⟨0, rfl⟩, ⟨"", rfl⟩⟩

/-- A task has ended normally. -/
def endsWell (w : World) (t : Nat) : Bool :=
  match w.stage? t with
  | some (.ended (.ok _)) => true
  | _ => false

theorem does_of_endsWell (w : World) (n : Nat) (op : Op Result) (h : (w.after n op).endsWell w.tasks.length = true) :
    ∃ x, Does n op w (w.after n op) (.ok x) := by
  unfold endsWell at h
  split at h
  next x hx => exact ⟨x, does_after hx⟩
  next => cases h

/-- A session that took a run up after its resources were fetched keeps none once the run is complete. -/
theorem twins_keep_none : (twinsTurned.session 0).resources = some [] ∧
    (twinsComplete.session 1).state.isReconciled = true ∧ (twinsComplete.session 1).resources = none := by
  obtain ⟨x, hturned⟩ := does_of_endsWell (twinsBegun.answering ⟨noResources, 0⟩) 0
    (RunAction.apply keysBegun).op (by decide +kernel)
  obtain ⟨y, hsucceeding⟩ := does_of_endsWell twinsTurned 1 WholeAction.begin.op (by decide +kernel)
  obtain ⟨z, hcomplete⟩ := does_of_endsWell (twinsSucceeding.answering ⟨noResources, 0⟩) 1
    (RunAction.apply keysThere).op (by decide +kernel)
  have hinherits : Inherits 1 0 twinsTurned twinsTurned :=
    ⟨⟨⟨Nat.lt_of_lt_of_eq (by decide : 1 < 2) rfl, rfl, rfl⟩, rfl, Nat.lt_of_lt_of_eq (by decide : 0 < 1) rfl,
      rfl⟩, rfl, rfl, rfl⟩
  have hagrees : (twinsTurned.site 0).core.Agrees := by
    unfold Core.Agrees
    decide +kernel
  have hphase : (twinsComplete.session 1).state.phase = .complete := by decide +kernel
  have hhooks : (twinsBegun.session 0).hooks.any StopHook.fails = false ∧
      (twinsTurned.session 1).hooks.any StopHook.fails = false ∧
      (twinsSucceeding.session 1).hooks.any StopHook.fails = false := by decide +kernel
  have hgathering : Gathering 0 twinsBegun
      ((([] ++ [⟨0, .report keysBegun noResources, twinsBegun, twinsTurned, .ok x⟩]) ++
        [⟨1, .succession, twinsTurned, twinsSucceeding, .ok y⟩]) ++
        [⟨1, .report keysThere noResources, twinsSucceeding, twinsComplete, .ok z⟩]) 1 twinsComplete :=
    .reports (.restarts (.reports .here hturned) rfl hagrees hinherits hsucceeding) hcomplete
  have hkeeps := kept_at_completion begun_twins rfl rfl hgathering (by simp [Cause.isRequest])
    (by simp [Cause.IsPlain, plain_keysBegun, plain_keysThere])
    (by simp [Cause.Yields, Cause.answer?, resources_noResources])
    (by simpa [Occasion.hookFails] using hhooks) hphase
  exact ⟨rfl, hkeeps.1, by decide +kernel⟩

end World

end Cutover
