import Cutover.Proofs.World.Gathering

/-!
# When a run fetches its resources

* `Occasion.Accords`: the service is asked when it should be, and at no other time;
* `World.fetches_when_due`: **a run fetches its resources when it should**, at most twice.
-/

namespace Cutover

namespace Phase

variable {p q : Phase}

theorem Leads.place_le (h : p.Leads q) : p.place ≤ q.place := by
  revert h
  cases p <;> cases q <;> decide

/-- The phases at whose beginning the resources are to be there come one after the other. -/
theorem Leads.place_turns (h : p.Leads q) (hne : p ≠ q) (hturns : q = .foreignKeys ∨ q = .complete) :
    p.place - 3 < q.place - 3 := by
  revert h hne hturns
  cases p <;> cases q <;> decide

theorem Leads.place_foreignKeys (h : p.Leads .foreignKeys) (hne : p ≠ .foreignKeys) : p.place ≤ 3 := by
  revert h hne
  cases p <;> decide

end Phase

/-- What holds of every item of a list after those before it holds with one item more. -/
theorem forall_split_concat {α : Type} {P : List α → α → Prop} {xs : List α} {x : α}
    (h : ∀ earlier y later, xs = earlier ++ y :: later → P earlier y) (hx : P xs x) :
    ∀ earlier y later, xs ++ [x] = earlier ++ y :: later → P earlier y := by
  intro earlier y later hsplit
  rcases List.eq_nil_or_concat later with rfl | ⟨more, z, rfl⟩
  · obtain ⟨rfl, hlast⟩ := List.append_inj' hsplit rfl
    cases hlast
    exact hx
  · rw [List.concat_eq_append, ← List.cons_append, ← List.append_assoc] at hsplit
    exact h earlier y more (List.append_inj' hsplit rfl).1

theorem exists_mem_concat {α : Type} {P : α → Prop} {xs : List α} {x : α} :
    (∃ y ∈ xs ++ [x], P y) ↔ (∃ y ∈ xs, P y) ∨ P x := by
  simp [or_and_right, exists_or]

namespace Occasion

variable {e : Occasion} {earlier : List Occasion}

/-- **The resources are to be fetched**: the run comes to apply foreign keys, or it is complete, no stop hook fails
and no fetch has succeeded before. -/
def IsDue (earlier : List Occasion) (e : Occasion) : Prop :=
  e.Enters .foreignKeys ∨ e.Enters .complete ∧ e.hookFails = false ∧ ∀ d ∈ earlier, ¬d.Succeeds

/-- **The service is asked exactly when the resources are to be fetched**: so not when the run fails, not for a
report that is passed over, and not after a fetch that succeeded. -/
structure Accords (earlier : List Occasion) (e : Occasion) : Prop where
  due : e.IsDue earlier → e.Asks
  idle : ¬e.IsDue earlier → e.IsSilent
  failed : e.phaseAfter = .failed → e.IsSilent
  ignored : ∀ t : Transition, e.result = .ok (.transition t) → t.changed = false → e.IsSilent
  succeeded : (∃ d ∈ earlier, d.Succeeds) → e.IsSilent

theorem accords_of_silent (hsilent : e.IsSilent) (hdue : ¬e.IsDue earlier) : e.Accords earlier :=
  ⟨fun h => absurd h hdue, fun _ => hsilent, fun _ => hsilent, fun _ _ _ => hsilent, fun _ => hsilent⟩

end Occasion

namespace World

variable {n m : Nat} {w u u' : World} {r : Except Exit Result} {report : Status} {answer : Outcome}
variable {log : List Occasion} {mode : Mode} {transfer : Transfer}

/-- **How far a run has come with its resources**, which a user never asked for and no session took up. -/
structure Fetched (w : World) (log : List Occasion) (m : Nat) (u : World) : Prop where
  ready : Ready m u
  marked : (u.session m).state.isReconciled = true ↔ ∃ e ∈ log, e.Succeeds
  kept : (u.session m).resources = none ↔ (u.session m).state.isReconciled = false
  grown : w.requests ≤ u.requests
  atLeast : (u.session m).state.isReconciled = true → w.requests + 1 ≤ u.requests
  atMost : u.requests ≤ w.requests + ((u.session m).state.phase.place - 3)
  complete : (u.session m).state.phase = .complete →
    w.requests + 1 ≤ u.requests ∨ ∃ e ∈ log, e.Enters .complete ∧ e.hookFails = true
  each : ∀ earlier e later, log = earlier ++ e :: later → e.Accords earlier

namespace Fetched

theorem of_begun (h : Begun mode transfer n w) (hwhole : (w.session n).isBare = false)
    (hnone : (w.session n).resources = none) : Fetched w [] n w := by
  have hmark : (w.session n).state.isReconciled = false := by
    rw [h.launched]
    cases mode <;> rfl
  have hphase : (w.session n).state.phase ≠ .complete := by
    rw [h.launched]
    cases mode <;> exact nofun
  refine ⟨h.ready hwhole, ?_, ⟨fun _ => hmark, fun _ => hnone⟩, Nat.le_refl _, fun hmarked => ?_,
    Nat.le_add_right .., fun hcomplete => absurd hcomplete hphase, fun earlier e later hlog => ?_⟩
  · rw [hmark]
    exact ⟨nofun, fun ⟨e, he, _⟩ => absurd he List.not_mem_nil⟩
  · rw [hmark] at hmarked
    cases hmarked
  · cases earlier <;> cases hlog

theorem passes (h : Fetched w log m u) (hu : Untroubled m u u') : Fetched w log m u' := by
  refine ⟨hu.ready hu.isBare h.ready, ?_, ?_, ?_, ?_, ?_, ?_, h.each⟩
  · rw [hu.state]
    exact h.marked
  · rw [hu.resources, hu.state]
    exact h.kept
  · rw [hu.requests]
    exact h.grown
  · rw [hu.state, hu.requests]
    exact h.atLeast
  · rw [hu.state, hu.requests]
    exact h.atMost
  · rw [hu.state, hu.requests]
    exact h.complete

theorem quiet {e : Occasion} (h : Fetched w log m u) (hready : Ready m u') (haccords : e.Accords log)
    (hsilent : e.IsSilent) (hrequests : u'.requests = u.requests)
    (hkept : (u'.session m).resources = (u.session m).resources)
    (hmark : (u'.session m).state.isReconciled = (u.session m).state.isReconciled)
    (hplace : (u.session m).state.phase.place ≤ (u'.session m).state.phase.place)
    (hcomplete : (u'.session m).state.phase = .complete → (u.session m).state.phase ≠ .complete →
      (u.session m).state.isReconciled = true ∨ e.Enters .complete ∧ e.hookFails = true) :
    Fetched w (log ++ [e]) m u' := by
  refine ⟨hready, ?_, ?_, hrequests.symm ▸ h.grown, ?_, ?_, fun hp => ?_, forall_split_concat h.each haccords⟩
  · rw [hmark, h.marked, exists_mem_concat]
    refine ⟨.inl, Or.rec id fun ⟨items, hasks, _⟩ => absurd hsilent hasks.not_silent⟩
  · rw [hkept, hmark]
    exact h.kept
  · rw [hmark, hrequests]
    exact h.atLeast
  · have hmost := h.atMost
    omega
  · rw [hrequests, exists_mem_concat]
    by_cases hbefore : (u.session m).state.phase = .complete
    · exact (h.complete hbefore).imp_right .inl
    · exact (hcomplete hp hbefore).imp h.atLeast .inr

theorem asked {e : Occasion} (h : Fetched w log m u) (hready : Ready m u') (haccords : e.Accords log)
    (hrequests : u'.requests = u.requests + 1)
    (hmark : (u.session m).state.isReconciled = false)
    (hmarked : (u'.session m).state.isReconciled = true ↔ e.Succeeds)
    (hkept : (u'.session m).resources = none ↔ (u'.session m).state.isReconciled = false)
    (hplace : (u.session m).state.phase.place - 3 < (u'.session m).state.phase.place - 3) :
    Fetched w (log ++ [e]) m u' := by
  have hgrown := h.grown
  refine ⟨hready, ?_, hkept, ?_, fun _ => ?_, ?_, fun _ => .inl ?_, forall_split_concat h.each haccords⟩
  · rw [hmarked, exists_mem_concat, ← h.marked, hmark]
    exact ⟨.inr, Or.rec nofun id⟩
  · omega
  · omega
  · have hmost := h.atMost
    omega
  · omega

theorem accords_of_asks (h : Fetched w log m u) (hr : Reported m answer u u' r)
    (hcalls : callsFor (u.session m).hooks (u.session m).state.phase (u'.session m).state.phase = true)
    (hmark : (u.session m).state.isReconciled = false) (hrequests : u'.requests = u.requests + 1) :
    Occasion.Accords log ⟨m, .report report answer, u, u', r⟩ := by
  have henters := (Occasion.callsFor_iff (e := ⟨m, .report report answer, u, u', r⟩) rfl).mp hcalls
  have hnone : ¬∃ d ∈ log, d.Succeeds := fun hsome => nomatch hmark.symm.trans (h.marked.mpr hsome)
  refine ⟨fun _ => hrequests, fun hidle => absurd ?_ hidle, fun hfailed => ?_, fun t ht hsame => ?_,
    fun hsome => absurd hsome hnone⟩
  · exact henters.imp_right fun ⟨hcomplete, hhooks⟩ =>
      ⟨hcomplete, hhooks, fun d hd hsucceeds => hnone ⟨d, hd, hsucceeds⟩⟩
  · rcases henters with hforeign | ⟨hcomplete, -⟩
    · cases hfailed.symm.trans hforeign.2.2
    · cases hfailed.symm.trans hcomplete.2.2
  · have hphase := hr.unchanged t ht hsame
    rcases henters with hforeign | ⟨hcomplete, -⟩
    · exact absurd hphase.symm hforeign.2.1
    · exact absurd hphase.symm hcomplete.2.1

theorem place_of_calls {hooks : List StopHook} {p q : Phase} (hleads : p.Leads q)
    (hcalls : callsFor hooks p q = true) : p.place - 3 < q.place - 3 := by
  simp only [callsFor, ne_eq, Bool.and_eq_true, decide_eq_true_eq, Bool.or_eq_true] at hcalls
  exact hleads.place_turns hcalls.1 (hcalls.2.imp_right And.left)

/-- **A report keeps to what is due.** -/
theorem reports (h : Fetched w log m u) (hr : Reported m answer u u' r) :
    Fetched w (log ++ [⟨m, .report report answer, u, u', r⟩]) m u' := by
  have hiff := Occasion.callsFor_iff (e := ⟨m, .report report answer, u, u', r⟩) rfl
  refine hr.cases ?quiet ?finds ?brings ?lacks
  case quiet =>
    intro hmarked hkept hmark hrequests
    refine h.quiet hr.ready (Occasion.accords_of_silent hrequests ?_) hrequests hrequests hkept hmark
      hr.leads.place_le fun hp hbefore => ?_
    · rintro (hforeign | ⟨hcomplete, hhooks, hnone⟩)
      · -- Nothing was asked for before foreign keys are applied, so the run is not marked.
        have hleast := h.atLeast (hmarked (hiff.mpr (.inl hforeign)))
        have hmost := h.atMost
        have hphase : (u'.session m).state.phase = .foreignKeys := hforeign.2.2
        have hplace := Phase.Leads.place_foreignKeys (hphase ▸ hr.leads) (hphase ▸ hforeign.2.1)
        omega
      · obtain ⟨d, hd, hsucceeds⟩ := h.marked.mp (hmarked (hiff.mpr (.inr ⟨hcomplete, hhooks⟩)))
        exact hnone d hd hsucceeds
    · have hcomplete : Occasion.Enters ⟨m, .report report answer, u, u', r⟩ .complete :=
        ⟨rfl, fun hsame => hbefore (Eq.trans hsame hp), hp⟩
      cases hhooks : Occasion.hookFails ⟨m, .report report answer, u, u', r⟩ with
      | false => exact .inl (hmarked (hiff.mpr (.inr ⟨hcomplete, hhooks⟩)))
      | true => exact .inr ⟨hcomplete, rfl⟩
  case finds =>
    intro items _ hmark hkept _ _ _
    cases (h.kept.mpr hmark).symm.trans hkept
  case brings =>
    intro items ho hcalls hmark _ hkept hmark' hrequests
    refine h.asked hr.ready (h.accords_of_asks hr hcalls hmark hrequests) hrequests hmark ?_ ?_
      (place_of_calls hr.leads hcalls)
    · exact ⟨fun _ => ⟨items, hrequests, answer, rfl, ho⟩, fun _ => hmark'⟩
    · rw [hkept, hmark']
      exact ⟨nofun, nofun⟩
  case lacks =>
    intro f ho hcalls hmark _ hkept hmark' hrequests
    refine h.asked hr.ready (h.accords_of_asks hr hcalls hmark hrequests) hrequests hmark ?_
      ⟨fun _ => hmark', fun _ => hkept⟩ (place_of_calls hr.leads hcalls)
    rw [hmark']
    refine ⟨nofun, fun ⟨items, _, o, hanswer, hitems⟩ => ?_⟩
    cases hanswer
    cases ho.symm.trans hitems

end Fetched

theorem Gathering.fetched (h : Gathering n w log m u) (hw : Fetched w [] n w)
    (hreports : ∀ e ∈ log, e.cause.isReport = true) : Fetched w log m u := by
  induction h with
  | here => exact hw
  | reports _ does ih =>
    have hu := ih fun e he => hreports e (List.mem_append_left _ he)
    exact hu.reports (does.reported hu.ready)
  | passes _ untroubled ih => exact (ih hreports).passes untroubled
  | requests => cases hreports _ (List.mem_append_right _ (List.mem_singleton_self _))
  | restarts => cases hreports _ (List.mem_append_right _ (List.mem_singleton_self _))

/-- **A run fetches its resources when it should.** It begins with none, and only reports are applied to it, with
any answers of the service. At each report the service is asked once if the resources are to be fetched, and not
at all if they are not: never when the run fails, for a report that is passed over, or after a fetch that
succeeded. A run that is complete has asked, unless a stop hook failed when it completed; no run asks more than
twice; and the run is marked exactly if a fetch has succeeded. -/
theorem fetches_when_due (hbegun : Begun mode transfer n w) (hwhole : (w.session n).isBare = false)
    (hnone : (w.session n).resources = none) (h : Gathering n w log m u)
    (hreports : ∀ e ∈ log, e.cause.isReport = true) :
    (∀ earlier e later, log = earlier ++ e :: later → e.Accords earlier) ∧
      ((u.session m).state.phase = .complete →
        w.requests + 1 ≤ u.requests ∨ ∃ e ∈ log, e.Enters .complete ∧ e.hookFails = true) ∧
      u.requests ≤ w.requests + 2 ∧
      ((u.session m).state.isReconciled = true ↔ ∃ e ∈ log, e.Succeeds) := by
  have hfetched := h.fetched (.of_begun hbegun hwhole hnone) hreports
  refine ⟨hfetched.each, hfetched.complete, ?_, hfetched.marked⟩
  have hmost := hfetched.atMost
  have hplace : (u.session m).state.phase.place ≤ 5 := by
    cases (u.session m).state.phase <;> decide
  omega

/-- Foreign keys are applied. -/
def keysBegun : Status where
  signal := .foreignKeysInProgress
  progress := .whole 0

/-- The foreign keys are there. -/
def keysThere : Status where
  signal := .foreignKeysComplete
  progress := .whole 0

/-- The service cannot be reached. -/
def down : Outcome := .unreachable "ConnectError" "down"

/-- The service answers by an empty document, in which there are no resources. -/
def noResources : Outcome := .answered { body := [123, 125] }

/-- A single session comes to apply foreign keys while the service cannot be reached. -/
def singleFailed : World := (singleBegun.answering ⟨down, 0⟩).after 0 (RunAction.apply keysBegun).op

/-- It is complete, and the service answers. -/
def singleComplete : World := (singleFailed.answering ⟨noResources, 0⟩).after 0 (RunAction.apply keysThere).op

theorem begun_single : Begun .dataOnly .bulk 0 singleBegun :=
  .intro (w := single) (x := .state (.launched .dataOnly)) ⟨by decide, rfl, rfl⟩ (by decide)
    (Value.isWhole_whole (by decide) (by decide)) (Value.isWhole_whole (by decide) (by decide)) (does_after rfl)

/-- A run whose first fetch failed asks again when it is complete, and is marked then. -/
theorem single_fetches : singleComplete.requests = singleBegun.requests + 2 ∧
    singleComplete.requests ≤ singleBegun.requests + 2 ∧ (singleComplete.session 0).state.isReconciled = true := by
  have hfailed : Does 0 (RunAction.apply keysBegun).op (singleBegun.answering ⟨down, 0⟩) singleFailed (.ok _) :=
    does_after rfl
  have hcomplete : Does 0 (RunAction.apply keysThere).op (singleFailed.answering ⟨noResources, 0⟩) singleComplete
      (.ok _) := does_after rfl
  have hgathering : Gathering 0 singleBegun
      (([] ++ [⟨0, .report keysBegun down, singleBegun, singleFailed, .ok _⟩]) ++
        [⟨0, .report keysThere noResources, singleFailed, singleComplete, .ok _⟩]) 0 singleComplete :=
    .reports (.reports .here hfailed) hcomplete
  have hfetches := fetches_when_due begun_single rfl rfl hgathering (by simp [Cause.isReport])
  refine ⟨rfl, hfetches.2.2.1, hfetches.2.2.2.mpr ⟨_, List.mem_append_right _ (List.mem_singleton_self _), ?_⟩⟩
  exact ⟨[], rfl, noResources, rfl, rfl⟩

end World

end Cutover
