import Cutover.Proofs.Control.Ending
import Cutover.Proofs.World.Retry

/-!
# What is skipped at the end of a run stays skipped

A report that ends a run and comes out normally leaves nothing stored, has called every stop hook and
has given every reader the last state. Where a step breaks, what comes after it is left out: a stop hook
that fails keeps the hooks after it from being called, the record from being removed and the readers
from hearing of the end. No later report makes good for it, since the run is over.

* `World.CarriedOut`: a run was carried to its end;
* `World.CutShort`: the end of a run was broken off;
* `World.ended_for_good`: **one or the other, and so it stays**.
-/

namespace Cutover

namespace World

variable {n : Nat} {w w' u u' : World} {r : Except Exit Result} {report : Status} {p : Phase}

/-- The stop hooks of a session that are called, as they are reported outside. -/
def hookReports (w : World) (p : Phase) (hooks : List StopHook) : List HookCall :=
  hooks.filterMap (StopHook.report p !(w.storage.table w.storage.current).isEmpty)

/-- **A run was carried to its end**: nothing is stored of it, every stop hook was called, and every
reader was given the last state. -/
structure CarriedOut (n : Nat) (p : Phase) (w w' : World) : Prop where
  hooks : (w.session n).hooks.any StopHook.fails = false
  stored : w'.storage.table (w'.session n).store = []
  calls : w'.hookCalls = w.hookCalls ++ w.hookReports p (w.session n).hooks
  readers : ∀ x ∈ (w.session n).streams,
    Got n w.tasks.length (some (w'.session n).state) x w w'

/-- **The end of a run was broken off**: the hooks after one that fails were not called, and no reader
has heard of the end. The record is still there unless only the notice of a complete run was left. -/
structure CutShort (n : Nat) (p : Phase) (w w' : World) : Prop where
  calls : w'.hookCalls = w.hookCalls ++ w.hookReports p (StopHook.called (w.session n).hooks)
  readers : Untouched n w.tasks.length w w'
  stored : w'.storage.table (w'.session n).store = w.storage.table (w.session n).store ∨
    p = .complete ∧ w'.storage.table (w'.session n).store = []

/-- **Nothing is in the way of the end of a run**: no stop hook fails, the record can be removed, the
service answers or cannot be reached, and notices can be raised. -/
structure Clear (n : Nat) (w w' : World) : Prop where
  hooks : (w.session n).hooks.any StopHook.fails = false
  record : (w.storage.faults (w.session n).store).clearError = none
  replies : w.script.Replies Call.getResources.message fun l => l.outcome.isReply = true
  notices : w.dated n = .ok () ∧ w'.dated n = .ok ()

/-- **How a run ends** in a phase: it is carried to its end if the report comes out normally, and cut
short if it does not. A stop hook that fails cuts it short, and the record stays. -/
structure Ending (n : Nat) (p : Phase) (w w' : World) (r : Except Exit Result) : Prop where
  phase : (w'.session n).state.phase = p
  carriedOut : ∀ x, r = .ok x → CarriedOut n p w w'
  cutShort : ∀ e, r = .error e → CutShort n p w w'
  hook : (w.session n).hooks.any StopHook.fails = true → r = .error (.fault (.broken "hook")) ∧
    w'.storage.table (w'.session n).store = w.storage.table (w.session n).store
  clear : Clear n w w' → ∃ x, r = .ok x

section
variable (hw : Reached n w) (hreport : report.Plain)
  (hactive : (w.session n).state.phase.isActive = true)
  (hdoes : Does n (RunAction.apply report).op w w' r)
  (hover : (w'.session n).state.phase.isActive = false)
include hw hreport hactive hdoes hover

theorem Reached.ending : ∃ p, Ending n p w w' r := by
  obtain ⟨hrests, hlive⟩ := hw.live
  have hreplies : Clear n w w' → ∀ m, w.script.Replies m fun l =>
      m = Call.getResources.message → l.outcome.isReply = true := by
    intro hclear m
    by_cases hm : m = Call.getResources.message
    · exact hm ▸ hclear.replies.mono fun _ hl _ => hl
    · exact .of_forall fun _ heq => absurd heq hm
  obtain ⟨k, hcame⟩ := hdoes.applied hrests
  have hover' : ((w.site n).core.apply k report).core.session.state.phase.isActive = false :=
    hcame.core ▸ hover
  obtain ⟨p, d, hends⟩ := hlive.ends hactive hover'
  obtain ⟨hphase, hcalls⟩ := hends.calls hlive (k := k) hreport
  obtain ⟨hdone, hbroken⟩ := hends.stored hlive (k := k) hreport
  have hok := hends.ok_iff hlive (k := k) hreport
  have hhook := hends.hook_fails hlive (k := k) hreport
  have hserved := hcame.served
  have hresult := hcame.result
  rw [← hcame.core] at hphase hcalls hdone hbroken hhook
  refine ⟨p, hphase, ?_, ?_, fun hfails => ?_, fun hclear => ?_⟩
  · rintro x rfl
    cases hr : ((w.site n).core.apply k report).result with
    | error f =>
      rw [hr] at hresult
      cases hresult
    | ok t =>
      obtain ⟨hnone, -, -⟩ := hok.mp ⟨t, hr⟩
      obtain ⟨hstored, rfl⟩ := hdone t hr
      rw [hr] at hserved
      rw [StopHook.called_of_none hnone] at hcalls
      exact ⟨hnone, hstored, hcalls, (hserved.got _ List.mem_cons_self).resolve_left List.not_mem_nil⟩
  · rintro e rfl
    cases hr : ((w.site n).core.apply k report).result with
    | ok t =>
      rw [hr] at hresult
      cases hresult
    | error f =>
      rw [hr] at hserved
      refine ⟨hcalls, hserved.untouched rfl, (hbroken f hr).imp_right ?_⟩
      rintro ⟨hp, -, hstored⟩
      exact ⟨hp, hstored⟩
  · obtain ⟨hr, hstored⟩ := hhook hfails
    rw [hr] at hresult
    exact ⟨hresult, hstored⟩
  · -- The service answers now, so the report came out under conditions of another kind.
    obtain ⟨k', hk, hcame'⟩ := hdoes.apply
      (A := fun m o => m = Call.getResources.message → o.isReply = true) hrests
      ⟨.unreachable "" "", fun _ => rfl⟩ (hreplies hclear)
    obtain ⟨hbefore, hafter⟩ := hclear.notices
    have hnotice : k'.notice = .ok () :=
      (hcame'.notice (Core.kept_apply k' report _).toStays hk (hbefore.trans hafter.symm)).trans hbefore
    obtain ⟨t, ht⟩ := (hends.ok_iff hlive (k := k') hreport).mpr
      ⟨hclear.hooks, hclear.record, fun _ => ⟨Core.reconcileOnce_isReply (hk.answer rfl), hnotice⟩⟩
    have hresult' := hcame'.result
    rw [ht] at hresult'
    exact ⟨_, hresult'⟩

end

/-- **What was skipped at the end of a run stays skipped.** A report that ends a run carries it to its
end or is cut short. Whatever is reported afterwards is passed over: nothing is stored or removed any
more, no stop hook is called, and no reader hears of the end. -/
theorem ended_for_good (hw : Reached n w) (hreport : report.Plain)
    (hactive : (w.session n).state.phase.isActive = true)
    (hdoes : Does n (RunAction.apply report).op w w' r)
    (hover : (w'.session n).state.phase.isActive = false) :
    ∃ p, Ending n p w w' r ∧
      ∀ (report' : Status) (u u' : World) (r' : Except Exit Result), Undisturbed n w' u →
        Does n (RunAction.apply report').op u u' r' →
          r' = .ok (.transition ⟨p, (w'.session n).state, false⟩) ∧
          (u'.site n).core = (u.site n).core ∧ Untouched n u.tasks.length u u' := by
  obtain ⟨p, hending⟩ := hw.ending hreport hactive hdoes hover
  refine ⟨p, hending, fun report' u u' r' hu hdoes' => ?_⟩
  obtain ⟨hrests, hlive⟩ := (hu.reached (hw.applies hreport hdoes)).live
  obtain ⟨k, hcame⟩ := hdoes'.applied hrests
  have hidle : (u.site n).core.session.state.phase.isActive = false :=
    (congrArg (fun s : RunState => s.phase.isActive) hu.state).trans hover
  have hpassed : (u.site n).core.apply k report' =
      (u.site n).core.giving ⟨p, (w'.session n).state, false⟩ := by
    rw [← hending.phase, ← hu.state]
    exact Core.apply_idle hlive.plain.state.sound hidle
  have hresult := hcame.result
  have hcore := hcame.core
  have hserved := hcame.served
  rw [hpassed] at hresult hcore hserved
  exact ⟨hresult, hcore, hserved.untouched rfl⟩

/-- A session with a stop hook that fails and another one behind it. -/
def hooked : World where
  sessions := [{ board := { ttl := .whole 5 }, hooks := [.user 0 "first" true, .user 1 "second" false] }]

/-- It has begun a run. -/
def hookedBegun : World := hooked.after 0 (RunAction.begin .dataOnly .bulk (.whole 2) (.whole 3)).op

/-- All of the data is written. -/
def written : Status where
  signal := .dataComplete
  progress := .whole 0

/-- The end of the run was broken off. -/
def hookedEnded : World := hookedBegun.after 0 (RunAction.apply written).op

/-- A run that is complete stays stored because a stop hook failed, and the other one is never
called. -/
theorem stored_after_end : (hookedEnded.session 0).state.phase = .complete ∧
    hookedEnded.hookCalls = [⟨"first", .complete, true⟩] ∧
    hookedEnded.storage.table 0 = hookedBegun.storage.table 0 ∧
    ∀ report' u' r', Does 0 (RunAction.apply report').op hookedEnded u' r' →
      u'.hookCalls = hookedEnded.hookCalls ∧ u'.storage.table 0 = hookedBegun.storage.table 0 := by
  have hzero : (Value.whole 0).IsWhole :=
    Quantity.IsPlain.isWhole (q := .whole 0) ⟨0, rfl, by decide, by decide⟩
  have htwo : (Value.whole 2).IsWhole :=
    Quantity.IsPlain.isWhole (q := .whole 2) ⟨2, rfl, by decide, by decide⟩
  have hthree : (Value.whole 3).IsWhole :=
    Quantity.IsPlain.isWhole (q := .whole 3) ⟨3, rfl, by decide, by decide⟩
  have hhooked : Reached 0 hooked := .idle ⟨by decide, rfl, rfl⟩ (by decide) rfl hzero hzero
  have hbegun : Reached 0 hookedBegun :=
    hhooked.begins htwo hthree (does_after (r := .ok (.state (.launched .dataOnly))) rfl)
  have hended : Does 0 (RunAction.apply written).op hookedBegun hookedEnded
      (.error (.fault (.broken "hook"))) := does_after rfl
  obtain ⟨p, hending, hlater⟩ := ended_for_good hbegun ⟨⟨0, rfl⟩, ⟨"", rfl⟩⟩ rfl hended rfl
  have hphase : p = .complete := hending.phase.symm.trans rfl
  subst hphase
  have hrests : hookedEnded.Rests 0 := ⟨Nat.lt_of_lt_of_eq (by decide : 0 < 1) rfl, rfl, rfl⟩
  have hsame : Undisturbed 0 hookedEnded hookedEnded := ⟨hrests, rfl, rfl, rfl, rfl, rfl⟩
  have hstored := (hending.hook rfl).2
  refine ⟨hending.phase, (hending.cutShort _ rfl).calls.trans rfl, hstored, fun report' u' r' hdoes => ?_⟩
  obtain ⟨-, hcore, -⟩ := hlater report' hookedEnded u' r' hsame hdoes
  have hstorage : u'.storage = hookedEnded.storage := congrArg Core.storage hcore
  refine ⟨congrArg Core.hookCalls hcore, ?_⟩
  rw [hstorage]
  exact hstored

end World

end Cutover
