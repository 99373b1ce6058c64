import Cutover.Proofs.Service.Classes
import Cutover.Proofs.World.Restart

/-!
# Every answer is classed

A call that is made alone ends by what the class of its answer says, and by nothing else.

* `Call.Ends`: how a call may end that is answered in some way;
* `Surroundings.meets_action`: the operation of a call ends so;
* `World.call_classed`: **every call ends by the value or the fault of the class of its answer**.
-/

namespace Cutover

namespace Call

variable {c : Call} {o : Outcome} {r r' : Except ServiceFault Result}

/-- A fault of the service as the end of an operation. -/
def exit (r : Except ServiceFault Result) : Except Exit Result := r.mapError fun f => .fault (.client (.service f))

theorem Classed.unique (h : c.Classed o r) (h' : c.Classed o r') : r = r' := by
  cases o with
  | answered a => exact h.eq_verdict.trans h'.eq_verdict.symm
  | unreachable failure text =>
    cases h
    cases h'
    rfl
  | failed f => cases h

theorem exists_classed_of_isReply (c : Call) (ho : o.isReply = true) : ∃ r, c.Classed o r := by
  cases o with
  | answered a => exact c.exists_classed a
  | unreachable failure text => exact ⟨_, .unreachable failure text⟩
  | failed f => cases ho

/-- A call ends as the class of its answer says. -/
def Ends (c : Call) (o : Outcome) (x : Except Exit Result) : Prop := ∀ r, c.Classed o r → x = exit r

theorem ends_answered {a : Answer} (x : Except Exit Result) (h : x = exit (c.verdict a)) : c.Ends (.answered a) x := by
  intro r hr
  rw [h, hr.eq_verdict]

end Call

namespace Surroundings

variable {S : Surroundings} {d : Core} {p : List (Option RunState)} {s : Scene} {c : Call} {α : Type}

theorem meets_ofService {σ : Type} {C : Contract σ} {x : σ} {Q : Except Exit α → σ → Prop} {r : Except ServiceFault α} :
    (Call.ofService r).Meets C Q x ↔ Q (r.mapError fun f => .fault (.client (.service f))) x := by
  cases r <;> rfl

/-- A call other than that for the resources, with what is read off its answer. -/
theorem meets_reading {f : α → Result} {read : Answer → Except ServiceFault α} (h : S.At d p s)
    (hsendable : c.message.isSendable = true) (hverdict : ∀ a, c.verdict a = (read a).map f)
    (hfault : ∀ failure text, c.Classed (.unreachable failure text) (.error (c.unreachable text))) :
    (do Call.ofService (read (← c.send)) : Op α).Meets S.behind
      (fun r _ => ∃ o, S.answers c.message o ∧ c.Ends o (r.map f)) s := by
  refine Op.meets_bind.mpr (meets_send h hsendable fun o s' ho _ => ?_)
  cases o with
  | answered a =>
    refine meets_ofService.mpr ⟨_, ho, Call.ends_answered _ ?_⟩
    rw [hverdict]
    cases read a <;> rfl
  | unreachable failure text => exact ⟨_, ho, fun r hr => by rw [hr.unique (hfault failure text)]; rfl⟩
  | failed g => exact ⟨_, ho, fun r hr => by cases hr⟩

theorem meets_write (h : S.At d p s) (hsendable : c.message.isSendable = true) (hwrites : c.isReading = false) :
    c.write.quietly.Meets S.behind (fun r _ => ∃ o, S.answers c.message o ∧ c.Ends o r) s := by
  have hfault : ∀ failure text, c.Classed (.unreachable failure text) (.error (c.unreachable text)) := by
    intro failure text
    cases c with
    | getStatus | getResources | getSummary => cases hwrites
    | _ => exact .unreachable failure text
  refine Op.meets_bind.mpr ((meets_reading (f := fun _ => .nothing) h hsendable (fun a => Call.verdict_write hwrites)
    hfault).mono ?_)
  rintro (e | _) s' hends
  · exact hends
  · exact hends

/-- **The operation of a call ends as the class of its answer says.** -/
theorem meets_action (h : S.At d p s) (hsendable : c.message.isSendable = true) :
    (Action.service c.action).op.Meets S.behind (fun r _ => ∃ o, S.answers c.message o ∧ c.Ends o r) s := by
  cases c with
  | getStatus =>
    exact Op.meets_map.mpr (meets_reading h hsendable (fun _ => rfl) .unreachable)
  | getSummary =>
    exact Op.meets_map.mpr (meets_reading h hsendable (fun _ => rfl) .unreachable)
  | getResources =>
    refine Op.meets_map.mpr (meets_readResources h fun o s' ho _ => ⟨o, ho, ?_⟩)
    cases o with
    | answered a =>
      refine Call.ends_answered _ ?_
      rw [Outcome.shards, Call.verdict]
      cases a.toShardMap <;> rfl
    | unreachable failure text =>
      intro r hr
      rw [hr.unique (.unreachable failure text)]
      rfl
    | failed g => exact fun r hr => by cases hr
  | _ => exact meets_write h hsendable rfl

end Surroundings

namespace World

variable {n : Nat} {w : World} {c : Call} {o : Outcome}

/-- **Every answer is classed.** Whatever the service answers to a call that can be sent, and whatever failure stands in
its way, the call ends by the value or the fault of the one class that this is of. -/
theorem call_classed (hn : n < w.sessions.length) (hsendable : c.message.isSendable = true) (ho : o.isReply = true)
    (delay : Int) : ∃ w' r, c.Classed o r ∧ (∀ r', c.Classed o r' → r' = r) ∧
      Does n (Action.service c.action).op (w.giving c.message ⟨o, delay⟩) w' (Call.exit r) := by
  obtain ⟨r, hr⟩ := c.exists_classed_of_isReply ho
  have hmeets := fun A hsome => Surroundings.meets_alone (Surroundings.meets_action
    (S := .granting (fun _ => True) A hsome) (s := ⟨w.site n, [], []⟩) ⟨rfl, rfl, trivial⟩ hsendable)
  obtain ⟨w', x, hdoes, -⟩ := does_ended (w := w.giving c.message ⟨o, delay⟩) hn rfl
    (canDo_of_boundless (hmeets _ _))
  obtain ⟨p, f, ⟨⟨o', ho', hends⟩, -⟩, -⟩ := hdoes.spec
    (S := .granting (fun _ => True) (fun m o' => m = c.message → o' = o) ⟨o, fun _ => rfl⟩) hn rfl
    (canDo_of_boundless (hmeets _ _)) (fun _ _ _ => trivial)
    (Answers.bears (replies_giving w c.message ⟨o, delay⟩) fun _ _ h => h) (hmeets _ _)
  obtain rfl : o' = o := ho' rfl
  obtain rfl := hends r hr
  exact ⟨w', r, hr, fun r' hr' => hr'.unique hr, hdoes⟩

/-- The service is overloaded, and its answer to a request for the resources ends in two line ends: the fetch fails
by what the text says before them. -/
theorem resources_overloaded : ∃ w', Does 0 (Action.service .resources).op
    (({ sessions := [{}] } : World).giving Call.getResources.message
      ⟨.answered { status := 503, body := "down\n\n".toUTF8.toList }, 0⟩) w'
    (.error (.fault (.client (.service {
      kind := .resourceFetch, message := "down", operation := "get_generated_resources", status := some 503 })))) := by
  obtain ⟨w', r, hr, -, hdoes⟩ := call_classed (w := { sessions := [{}] }) (n := 0) (c := .getResources)
    (o := .answered { status := 503, body := "down\n\n".toUTF8.toList }) (by decide) rfl rfl 0
  have hbody : (Utf8.lenient "down\n\n".toUTF8.toList).toList = "down".toList ++ List.replicate 2 '\n' := by
    decide +kernel
  rw [hr.unique (.failing rfl (by decide) (by decide) (.text hbody (by decide) (by decide)))] at hdoes
  exact ⟨w', hdoes⟩

end World

end Cutover
