import Cutover.Session.Work

/-!
# Contracts of work

A `Contract` says what work may ask for in some state, and with which replies and in which states it
may go on. Work that meets a contract asks for nothing else, whatever the replies are, and ends as a
postcondition says. It upholds an invariant where it keeps to the contract as long as the invariant holds when it begins,
and leaves it holding at the end, early or not.

* `Work.Meets`: the work keeps to a contract and ends as it should;
* `Work.meets_bind`, `Work.Meets.mono`: one piece after another; a weaker postcondition;
* `Op.Meets` and its lemmas: the same for work that may end early;
* `Op.Upholds`: an operation upholds an invariant and gives what a predicate says;
* `Op.upholds_bind`, `Op.upholds_rescue`, `Op.upholds_ensure`, …: one lemma for each way to put parts together.
-/

namespace Cutover

/-- What work may ask for in some state, and with which reply and in which state it may go on. -/
structure Contract (σ : Type) where
  allows : σ → Effect → Prop
  leads : σ → (e : Effect) → e.Reply → σ → Prop

variable {σ α β : Type} {C : Contract σ} {s : σ}

namespace Work

/-- **The work keeps to a contract** whatever the replies are, and ends as `Q` says. -/
def Meets (C : Contract σ) (Q : α → σ → Prop) : Work α → σ → Prop
  | done a, s => Q a s
  | ask e next, s => C.allows s e ∧ ∀ r s', C.leads s e r s' → (next r).Meets C Q s'

theorem Meets.mono {P Q : α → σ → Prop} {w : Work α} (h : w.Meets C P s)
    (hPQ : ∀ a s', P a s' → Q a s') : w.Meets C Q s := by
  induction w generalizing s with
  | done a => exact hPQ a s h
  | ask e next ih => exact ⟨h.1, fun r s' hr => ih r (h.2 r s' hr)⟩

theorem meets_congr {P Q : α → σ → Prop} {w : Work α} (h : ∀ a s', P a s' ↔ Q a s') :
    w.Meets C P s ↔ w.Meets C Q s :=
  ⟨fun hP => hP.mono fun a s' => (h a s').mp, fun hQ => hQ.mono fun a s' => (h a s').mpr⟩

theorem meets_bind {Q : β → σ → Prop} {w : Work α} {f : α → Work β} :
    (w >>= f).Meets C Q s ↔ w.Meets C (fun a s' => (f a).Meets C Q s') s := by
  induction w generalizing s with
  | done a => rfl
  | ask e next ih =>
    rw [ask_bind]
    exact and_congr_right fun _ => forall₃_congr fun r s' _ => ih r

theorem meets_perform {e : Effect} {Q : e.Reply → σ → Prop} :
    (perform e).Meets C Q s ↔ C.allows s e ∧ ∀ r s', C.leads s e r s' → Q r s' := Iff.rfl

/-- Work that keeps to a contract keeps to another one that grants as much and keeps an invariant. -/
theorem Meets.along {D : Contract σ} {I : σ → Prop} {Q : α → σ → Prop} {w : Work α}
    (h : w.Meets C Q s) (hI : I s) (hallows : ∀ s e, I s → C.allows s e → D.allows s e)
    (hleads : ∀ s e r s', I s → C.allows s e → D.leads s e r s' → C.leads s e r s' ∧ I s') :
    w.Meets D (fun a s' => Q a s' ∧ I s') s := by
  induction w generalizing s with
  | done a => exact ⟨h, hI⟩
  | ask e next ih =>
    refine ⟨hallows s e hI h.1, fun r s' hr => ?_⟩
    obtain ⟨hlead, hI'⟩ := hleads s e r s' hI h.1 hr
    exact ih r (h.2 r s' hlead) hI'

end Work

namespace Op

/-- The work of an operation keeps to a contract, and ends as `Q` says, early or not. -/
def Meets (C : Contract σ) (Q : Except Exit α → σ → Prop) (op : Op α) (s : σ) : Prop :=
  Work.Meets C Q op.run s

theorem Meets.mono {P Q : Except Exit α → σ → Prop} {op : Op α} (h : op.Meets C P s)
    (hPQ : ∀ r s', P r s' → Q r s') : op.Meets C Q s := Work.Meets.mono h hPQ

variable {Q : Except Exit α → σ → Prop}

@[simp] theorem meets_pure {a : α} : (pure a : Op α).Meets C Q s ↔ Q (.ok a) s := Iff.rfl

@[simp] theorem meets_throw {e : Exit} : (throw e : Op α).Meets C Q s ↔ Q (.error e) s := Iff.rfl

@[simp] theorem meets_fail {f : Fault} : (Op.fail f : Op α).Meets C Q s ↔ Q (.error (.fault f)) s :=
  Iff.rfl

@[simp] theorem meets_failClient {f : ClientFault} :
    (Op.failClient f : Op α).Meets C Q s ↔ Q (.error (.fault (.client f))) s := Iff.rfl

/-- What has to hold after the first of two operations: the second goes on, or both end early. -/
def after (C : Contract σ) (Q : Except Exit β → σ → Prop) (f : α → Op β) (r : Except Exit α)
    (s : σ) : Prop :=
  match r with
  | .ok a => (f a).Meets C Q s
  | .error e => Q (.error e) s

@[simp] theorem after_ok {Q : Except Exit β → σ → Prop} {f : α → Op β} {a : α} :
    after C Q f (.ok a) s ↔ (f a).Meets C Q s := Iff.rfl

@[simp] theorem after_error {Q : Except Exit β → σ → Prop} {f : α → Op β} {e : Exit} :
    after C Q f (.error e) s ↔ Q (.error e) s := Iff.rfl

theorem meets_bind {Q : Except Exit β → σ → Prop} {op : Op α} {f : α → Op β} :
    (op >>= f).Meets C Q s ↔ op.Meets C (after C Q f) s := by
  refine Work.meets_bind.trans (Work.meets_congr ?_)
  rintro (e | a) s'
  · exact Iff.rfl
  · exact Iff.rfl

theorem meets_map {Q : Except Exit β → σ → Prop} {op : Op α} {f : α → β} :
    (f <$> op).Meets C Q s ↔ op.Meets C (fun r s' => Q (r.map f) s') s := by
  refine Work.meets_bind.trans (Work.meets_congr ?_)
  rintro (e | a) s'
  · exact Iff.rfl
  · exact Iff.rfl

theorem meets_lift {w : Work α} : (Op.lift w).Meets C Q s ↔ w.Meets C (fun a s' => Q (.ok a) s') s :=
  Work.meets_bind

theorem meets_perform {e : Effect} {Q : Except Exit e.Reply → σ → Prop} :
    (Op.perform e).Meets C Q s ↔ C.allows s e ∧ ∀ r s', C.leads s e r s' → Q (.ok r) s' := Iff.rfl

@[simp] theorem mapError_ok {ε ε' : Type} (f : ε → ε') (a : α) :
    (Except.ok a : Except ε α).mapError f = .ok a := rfl

theorem meets_ofExcept {x : Except Fault α} :
    (Op.ofExcept x).Meets C Q s ↔ Q (x.mapError .fault) s := by
  cases x <;> rfl

theorem meets_unless {Q : Except Exit β → σ → Prop} {c : Prop} [Decidable c] {f : Fault} {g : α → Op β} {a : α}
    (hrefused : Q (.error (.fault f)) s) (h : (g a).Meets C Q s) :
    (if c then Op.fail f >>= g else g a).Meets C Q s := by
  split
  · exact hrefused
  · exact h

@[simp] theorem meets_unwrap_back {a : α} :
    (Op.unwrap (.back a)).Meets C Q s ↔ Q (.ok a) s := Iff.rfl

theorem meets_ensure {op : Op α} {last : Work Unit} :
    (op.ensure last).Meets C Q s ↔ op.Meets C (fun r s' => last.Meets C (fun _ t => Q r t) s') s :=
  Work.meets_bind.trans ⟨fun h => h.mono fun _ _ h' => Work.meets_bind.mp h',
    fun h => h.mono fun _ _ h' => Work.meets_bind.mpr h'⟩

/-- What comes of an early end that is handled. -/
def handled (C : Contract σ) (Q : Except Exit α → σ → Prop) (handle : Exit → Op α)
    (r : Except Exit α) (s : σ) : Prop :=
  match r with
  | .ok a => Q (.ok a) s
  | .error e => (handle e).Meets C Q s

theorem meets_tryCatch {op : Op α} {handle : Exit → Op α} :
    (tryCatch op handle : Op α).Meets C Q s ↔ op.Meets C (handled C Q handle) s := by
  refine Work.meets_bind.trans (Work.meets_congr ?_)
  rintro (e | a) s'
  · exact Iff.rfl
  · exact Iff.rfl

/-- What comes of a fault of a call that is handled. -/
def rescued (C : Contract σ) (Q : Except Exit α → σ → Prop) (handle : ServiceFault → Op α)
    (r : Except Exit α) (s : σ) : Prop :=
  match r with
  | .error (.fault (.client (.service f))) => (handle f).Meets C Q s
  | r => Q r s

@[simp] theorem rescued_ok {handle : ServiceFault → Op α} {a : α} :
    rescued C Q handle (.ok a) s ↔ Q (.ok a) s := Iff.rfl

@[simp] theorem rescued_service {handle : ServiceFault → Op α} {f : ServiceFault} :
    rescued C Q handle (.error (.fault (.client (.service f)))) s ↔ (handle f).Meets C Q s := Iff.rfl

theorem rescued_other {handle : ServiceFault → Op α} {f : Fault}
    (hf : ∀ g, f ≠ .client (.service g)) :
    rescued C Q handle (.error (.fault f)) s ↔ Q (.error (.fault f)) s := by
  unfold rescued
  split
  next g hg =>
    cases hg
    exact absurd rfl (hf g)
  next => exact Iff.rfl

theorem meets_rescue {op : Op α} {handle : ServiceFault → Op α} :
    (Op.rescue op handle).Meets C Q s ↔ op.Meets C (rescued C Q handle) s := by
  refine meets_tryCatch.trans (Work.meets_congr ?_)
  rintro ((f | _) | a) s'
  · cases f with
    | client g => cases g <;> exact Iff.rfl
    | _ => exact Iff.rfl
  · exact Iff.rfl
  · exact Iff.rfl

end Op

/-! ## Work that upholds an invariant -/

/-- Work upholds an invariant. -/
def Work.Upholds (C : Contract σ) (I : σ → Prop) (w : Work α) : Prop :=
  ∀ s, I s → w.Meets C (fun _ s' => I s') s

namespace Op

/-- The invariant holds, and what was given is as `p` says. -/
def Upheld (I : σ → Prop) (p : α → Prop) (r : Except Exit α) (s : σ) : Prop :=
  I s ∧ ∀ a, r = .ok a → p a

/-- **An operation upholds an invariant** wherever it is begun, and gives what `p` says. -/
def Upholds (C : Contract σ) (I : σ → Prop) (p : α → Prop) (op : Op α) : Prop :=
  ∀ s, I s → op.Meets C (Upheld I p) s

/-- An operation that gives anything upholds an invariant. -/
abbrev Upholding (C : Contract σ) (I : σ → Prop) (op : Op α) : Prop := op.Upholds C I fun _ => True

variable {I : σ → Prop} {p : α → Prop} {q : β → Prop} {op op' : Op α}

theorem upheld_ok {a : α} (h : I s) (ha : p a) : Upheld I p (.ok a) s := by
  refine ⟨h, fun b hb => ?_⟩
  cases hb
  exact ha

theorem upheld_error {e : Exit} (h : I s) : Upheld I p (.error e : Except Exit α) s := ⟨h, nofun⟩

theorem upholds_pure {a : α} (h : p a) : (pure a : Op α).Upholds C I p := fun _ hs => upheld_ok hs h

theorem upholds_throw (e : Exit) : (throw e : Op α).Upholds C I p := fun _ hs => upheld_error hs

theorem upholds_fail (f : Fault) : (fail f : Op α).Upholds C I p := upholds_throw _

/-- What comes after an operation that upholds the invariant goes on with what that gave. -/
theorem meets_then {f : α → Op β} (h : op.Meets C (Upheld I p) s)
    (hf : ∀ a, p a → (f a).Upholds C I q) : (op >>= f).Meets C (Upheld I q) s := by
  refine meets_bind.mpr (h.mono ?_)
  rintro (e | a) s' ⟨hs', ha⟩
  · exact upheld_error hs'
  · exact hf a (ha a rfl) s' hs'

theorem upholds_bind {f : α → Op β} (h : op.Upholds C I p) (hf : ∀ a, p a → (f a).Upholds C I q) :
    (op >>= f).Upholds C I q := fun s hs => meets_then (h s hs) hf

theorem upholds_map {f : α → β} (h : op.Upholds C I p) (hf : ∀ a, p a → q (f a)) :
    (f <$> op).Upholds C I q := by
  refine fun s hs => meets_map.mpr ((h s hs).mono ?_)
  rintro (e | a) s' ⟨hs', ha⟩
  · exact upheld_error hs'
  · exact upheld_ok hs' (hf a (ha a rfl))

theorem meets_caught {handle : Exit → Op α} (h : op.Meets C (Upheld I p) s)
    (hhandle : ∀ e, (handle e).Upholds C I p) : (tryCatch op handle : Op α).Meets C (Upheld I p) s := by
  refine meets_tryCatch.mpr (h.mono ?_)
  rintro (e | a) s' hw
  · exact hhandle e s' hw.1
  · exact hw

theorem upholds_tryCatch {handle : Exit → Op α} (h : op.Upholds C I p)
    (hhandle : ∀ e, (handle e).Upholds C I p) : (tryCatch op handle : Op α).Upholds C I p :=
  fun s hs => meets_caught (h s hs) hhandle

theorem meets_rescuedThen {handle : ServiceFault → Op α} (h : op.Meets C (Upheld I p) s)
    (hhandle : ∀ f, (handle f).Upholds C I p) : (rescue op handle).Meets C (Upheld I p) s := by
  refine meets_caught h fun e => ?_
  split
  · exact hhandle _
  · exact upholds_throw _

theorem upholds_rescue {handle : ServiceFault → Op α} (h : op.Upholds C I p)
    (hhandle : ∀ f, (handle f).Upholds C I p) : (rescue op handle).Upholds C I p :=
  fun s hs => meets_rescuedThen (h s hs) hhandle

theorem upholds_ensure {last : Work Unit} (h : op.Upholds C I p) (hlast : last.Upholds C I) :
    (op.ensure last).Upholds C I p :=
  fun s hs => meets_ensure.mpr ((h s hs).mono fun _ s' hw =>
    (hlast s' hw.1).mono fun _ _ ht => ⟨ht, hw.2⟩)

theorem upholds_ite {c : Prop} [Decidable c] (h : c → op.Upholds C I p)
    (h' : ¬c → op'.Upholds C I p) : (if c then op else op').Upholds C I p := by
  split
  next hc => exact h hc
  next hc => exact h' hc

/-- What is refused under some condition upholds an invariant if what comes otherwise does. -/
theorem upholds_unless {c : Prop} [Decidable c] {f : Fault} {g : β → Op α} {b : β}
    (h : (g b).Upholds C I p) :
    (if c then fail f >>= g else g b).Upholds C I p :=
  upholds_ite (fun _ => upholds_bind (p := fun _ => False) (upholds_fail f) fun _ => False.elim)
    fun _ => h

theorem upholds_ofExcept {x : Except Fault α} (h : ∀ a, x = .ok a → p a) :
    (ofExcept x).Upholds C I p := by
  cases x with
  | ok a => exact upholds_pure (h a rfl)
  | error f => exact upholds_fail f

theorem upholds_unwrap {x : Waited α} (h : ∀ a, x = .back a → p a) : (unwrap x).Upholds C I p := by
  cases x with
  | back a => exact upholds_pure (h a rfl)
  | cancelled => exact upholds_throw _

theorem upholds_lift {w : Work α} (h : w.Upholds C I) : (lift w).Upholding C I :=
  fun s hs => meets_lift.mpr ((h s hs).mono fun _ _ hs' => upheld_ok hs' trivial)

end Op

end Cutover
