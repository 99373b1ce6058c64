import Cutover.Proofs.Control.Sparing
import Cutover.Proofs.Control.Touching

/-!
# Starting and stopping the poll loop

A session knows which task polls. Work that starts polling starts a loop only where none is alive, and
work that stops polling waits for the loop that is known before it forgets which one it was. The latter
relies on nobody starting another loop while it waits for the first. A loop asks for the status only when
the last one was applied.

* `Looped`, `Looped.Sound`: the poll loops of a session, of which at most one is alive;
* `Role`, `Looped.contract`: what work may do to the loops, and what it relies on while it waits;
* `Looped.keeps_spares`: work that spares the loop may be done in any role;
* `Looped.keeps_start`, `Looped.meets_stop`: **a start and a stop**;
* `Looped.meets_action`: every action in its role;
* `pacing`, `Poll.paces_round`: **one status after the other**.
-/

namespace Cutover

/-- **The poll loops of a session**: which task it knows to poll, whether a status is being applied,
which loops were ever started, and which of them have not ended. -/
structure Looped where
  known : Option Nat
  applying : Bool
  loops : Nat → Prop
  alive : Nat → Prop

/-- What work has to do with the poll loop. -/
inductive Role where
  | starts
  | stops
  | spares
  deriving DecidableEq

/-- The role of an action. -/
def Action.role (a : Action) : Role :=
  if a.starts then .starts else if a.stops then .stops else .spares

namespace Role

/-- What work may do to the task that is known to poll. Who starts a loop makes it known. -/
def May (alive : Nat → Prop) : Role → Option Nat → Option Nat → Prop
  | starts, known, known' => known' = known ∨ ∃ i, known' = some i ∧ alive i
  | stops, known, known' => known' = known ∨ known' = none
  | spares, known, known' => known' = known

/-- What others may do to it while the work waits for a loop to end. -/
def Relies : Role → Option Nat → Option Nat → Prop
  | stops, known, known' => known' = known ∨ known' = none
  | _, _, _ => True

variable {ρ : Role} {alive : Nat → Prop} {a b c : Option Nat}

theorem may_refl (ρ : Role) (a : Option Nat) : ρ.May alive a a := by
  cases ρ with
  | spares => rfl
  | _ => exact .inl rfl

theorem relies_refl (ρ : Role) (a : Option Nat) : ρ.Relies a a := by
  cases ρ with
  | stops => exact .inl rfl
  | _ => trivial

theorem May.relies (h : ρ.May alive a b) (hρ : ρ ≠ .starts) : stops.Relies a b := by
  cases ρ with
  | starts => exact absurd rfl hρ
  | stops => exact h
  | spares => exact .inl h

theorem Relies.trans (h : ρ.Relies a b) (h' : ρ.Relies b c) : ρ.Relies a c := by
  cases ρ with
  | stops =>
    rcases h' with rfl | rfl
    · exact h
    · exact .inr rfl
  | _ => trivial

end Role

namespace Looped

/-- **At most one loop is alive**, and it is the one that is known. -/
structure Sound (s : Looped) : Prop where
  single : ∀ t, s.alive t → s.known = some t
  started : ∀ t, s.known = some t → s.loops t
  alive_loops : ∀ t, s.alive t → s.loops t

/-- The loops after one more was started. -/
def started (s : Looped) (t : Nat) : Looped where
  known := s.known
  applying := s.applying
  loops i := i = t ∨ s.loops i
  alive i := i = t ∨ s.alive i

/-- The loops after the session was changed. -/
def seen (s : Looped) (x : Session) : Looped := { s with known := x.pollTask, applying := x.applying }

/-- How work may go on after a wait. The loops that were started meanwhile have later numbers than the
task that works. -/
structure Resumes (since : Nat) (s s' : Looped) : Prop where
  sound : s'.Sound
  later : ∀ i, s'.alive i → s.alive i ∨ since ≤ i

/-- How work may go on. -/
def Leads (ρ : Role) (since : Nat) (s : Looped) : (e : Effect) → e.Reply → Looped → Prop
  | .look, r, s' => s' = s ∧ r.session.pollView = (s.known, s.applying)
  | .change x, _, s' => s' = s.seen x.session
  | .fork .pollLoop, t, s' => s' = s.started t ∧ since ≤ t
  | .hasEnded t, ended, s' => s' = s ∧ (ended = true → ¬s.alive t)
  | .join t, _, s' => s.Resumes since s' ∧ ρ.Relies s.known s'.known ∧ ¬s'.alive t
  | e, _, s' => s' = s ∨ e.isWait = true ∧ s.Resumes since s'

/-- What work may ask for. It waits only where at most one loop is alive, and starts one only if that is
its role. **It cancels only to stop polling, and only where no status is being applied**; then it does not
change that. -/
structure Allows (ρ : Role) (s : Looped) (e : Effect) : Prop where
  waits : e.isWait = true → s.Sound
  change : ∀ x, e = .change x → ρ.May s.alive s.known x.session.pollTask
  marks : ∀ x, e = .change x → ρ = .stops → x.session.applying = s.applying
  fork : e = .fork .pollLoop → ρ = .starts
  cancel : ∀ t, e = .cancel t → ρ = .stops ∧ s.applying = false

/-- **The contract of work in a role**, done by a task whose loops have numbers from some number on. -/
def contract (ρ : Role) (since : Nat) : Contract Looped where
  allows := Allows ρ
  leads := Leads ρ since

variable {ρ : Role} {since : Nat} {s s' : Looped} {α β : Type}

theorem resumes_refl (h : s.Sound) : s.Resumes since s := ⟨h, fun _ => .inl⟩

theorem Resumes.trans {s'' : Looped} (h : s.Resumes since s') (h' : s'.Resumes since s'') :
    s.Resumes since s'' :=
  ⟨h'.sound, fun i hi => (h'.later i hi).elim (h.later i) .inr⟩

/-- Whatever is known of tasks from some number on is known of all. -/
theorem Leads.weaken {e : Effect} {r : e.Reply} (h : Leads ρ since s e r s') : Leads ρ 0 s e r s' := by
  have hresumes : s.Resumes since s' → s.Resumes 0 s' := fun h => ⟨h.sound, fun i _ => .inr (Nat.zero_le i)⟩
  cases e with
  | look => exact h
  | change => exact h
  | hasEnded => exact h
  | join => exact h.imp_left hresumes
  | fork b =>
    cases b with
    | pollLoop => exact h.imp_right fun _ => Nat.zero_le _
    | reader => exact h.imp_right (.imp_right hresumes)
  | _ => exact h.imp_right (.imp_right hresumes)

theorem Leads.other {e : Effect} {r : e.Reply} (he : e.isOther = true) (hfork : e ≠ .fork .pollLoop)
    (h : Leads ρ since s e r s') : s' = s ∨ e.isWait = true ∧ s.Resumes since s' := by
  cases e with
  | fork b =>
    cases b with
    | pollLoop => exact absurd rfl hfork
    | reader => exact h
  | hasEnded t => exact .inl h.1
  | join t => exact .inr ⟨rfl, h.1⟩
  | look => cases he
  | change => cases he
  | _ => exact h

/-! ## Work that spares the loop -/

theorem sparing_other {marks : Bool} {e : Effect} {r : e.Reply} {v v' : Option Nat × Bool}
    (he : e.isOther = true) (h : e.isWait = false → v' = v) : (sparing marks).leads v e r v' := by
  cases e with
  | look => cases he
  | change => cases he
  | _ => exact h

theorem sound_seen {x : Session} (hs : s.Sound) (hx : x.pollTask = s.known) : (s.seen x).Sound where
  single t ht := (show (s.seen x).known = s.known from hx).trans (hs.single t ht)
  started t ht := hs.started t (hx.symm.trans ht)
  alive_loops := hs.alive_loops

/-- Work that spares the loop may be done in any role, save that a stop marks nothing. -/
theorem keeps_of_spares {marks : Bool} {w : Work α} (hmarks : marks = true → ρ ≠ .stops)
    (h : w.Meets (sparing marks) (fun _ _ => True) (s.known, s.applying)) (hs : s.Sound) :
    w.Meets (contract ρ since) (fun _ s' => s.Resumes since s') s := by
  induction w generalizing s with
  | done a => exact resumes_refl hs
  | ask e next ih =>
    obtain ⟨hallows, hnext⟩ := h
    have hlater : ∀ r s', s.Resumes since s' →
        (next r).Meets (sparing marks) (fun _ _ => True) (s'.known, s'.applying) →
        (next r).Meets (contract ρ since) (fun _ s'' => s.Resumes since s'') s' := fun r s' hresumes hmeets =>
      (ih r hmeets hresumes.1).mono fun _ _ hlast => hresumes.trans hlast
    have hknown : ∀ x, e = .change x → x.session.pollTask = s.known := by
      rintro x rfl
      rcases hallows with hview | ⟨-, htask⟩
      · exact congrArg Prod.fst hview
      · exact htask
    refine ⟨⟨fun _ => hs, ?_, ?_, ?_, ?_⟩, fun r s' hleads => ?_⟩
    · exact fun x hx => hknown x hx ▸ ρ.may_refl _
    · rintro x rfl hρ
      rcases hallows with hview | ⟨hmark, -⟩
      · exact congrArg Prod.snd hview
      · exact absurd hρ (hmarks hmark)
    · rintro rfl
      exact absurd rfl hallows
    · rintro t rfl
      exact False.elim hallows
    · by_cases he : e.isOther = true
      · have hfork : e ≠ .fork .pollLoop := by
          rintro rfl
          exact absurd rfl hallows
        rcases Leads.other he hfork hleads with rfl | ⟨hwait, hresumes⟩
        · exact hlater r _ (resumes_refl hs) (hnext r _ (sparing_other he fun _ => rfl))
        · exact hlater r s' hresumes
            (hnext r _ (sparing_other he fun hno => by rw [hwait] at hno; cases hno))
      · cases e with
        | look =>
          obtain ⟨rfl, hr⟩ := hleads
          exact hlater r _ (resumes_refl hs) (hnext r _ ⟨rfl, hr⟩)
        | change x =>
          obtain rfl : s' = s.seen x.session := hleads
          have hx : x.session.pollTask = s.known := hknown x rfl
          have hresumes : s.Resumes since (s.seen x.session) := ⟨sound_seen hs hx, fun _ => .inl⟩
          exact hlater r _ hresumes (hnext r _ rfl)
        | _ => exact absurd rfl he

/-- An operation that may be done in a role, wherever at most one loop is alive. -/
def Keeps (ρ : Role) (since : Nat) (op : Op α) : Prop :=
  ∀ s, s.Sound → op.Meets (contract ρ since) (fun _ s' => s.Resumes since s') s

theorem keeps_marks {op : Op α} (h : op.Spares true) (hρ : ρ ≠ .stops) : Keeps ρ since op :=
  fun _ hs => keeps_of_spares (fun _ => hρ) (h _) hs

theorem keeps_spares {op : Op α} (h : op.Spares false) : Keeps ρ since op :=
  fun _ hs => keeps_of_spares (fun hmark => Bool.noConfusion hmark) (h _) hs

theorem keeps_bind {op : Op α} {f : α → Op β} (h : Keeps ρ since op) (hf : ∀ a, Keeps ρ since (f a)) :
    Keeps ρ since (op >>= f) := by
  refine fun s hs => Op.meets_bind.mpr ((h s hs).mono ?_)
  rintro (e | a) s' hs'
  · exact hs'
  · exact (hf a s' hs'.1).mono fun _ _ hlast => hs'.trans hlast

theorem keeps_map {op : Op α} {f : α → β} (h : Keeps ρ since op) : Keeps ρ since (f <$> op) :=
  fun s hs => Op.meets_map.mpr (h s hs)

theorem keeps_ite {c : Prop} [Decidable c] {op op' : Op α} (h : Keeps ρ since op) (h' : Keeps ρ since op') :
    Keeps ρ since (if c then op else op') := by
  split
  · exact h
  · exact h'

theorem keeps_ensure {op : Op α} {last : Work Unit} (h : Keeps ρ since op) (hlast : last.Spares false) :
    Keeps ρ since (op.ensure last) := by
  refine fun s hs => Op.meets_ensure.mpr ((h s hs).mono fun _ s' hs' => ?_)
  exact (keeps_of_spares (fun hmark => Bool.noConfusion hmark) (hlast _) hs'.1).mono fun _ _ hafter =>
    hs'.trans hafter

theorem keeps_traced {span : Span} {w : Nat → Op α} (h : ∀ id, Keeps ρ since (w id)) :
    Keeps ρ since (Op.traced span w) :=
  keeps_bind (keeps_spares (Op.spares_enterSpan span)) fun id =>
    keeps_ensure (h id) (Op.spares_update fun _ => rfl)

/-! ## Starting -/

theorem allows_look : Allows ρ s .look where
  waits h := by cases h
  change x h := by cases h
  marks x h := by cases h
  fork h := by cases h
  cancel t h := by cases h

theorem allows_change {x : Site} (hmay : ρ.May s.alive s.known x.session.pollTask)
    (hmarks : x.session.applying = s.applying) : Allows ρ s (.change x) where
  waits h := by cases h
  change y heq := by
    cases heq
    exact hmay
  marks y heq _ := by
    cases heq
    exact hmarks
  fork h := by cases h
  cancel t h := by cases h

theorem allows_other {e : Effect} (he : e.isOther = true) (hfork : e ≠ .fork .pollLoop)
    (hcancel : ∀ t, e ≠ .cancel t) (hs : e.isWait = true → s.Sound) : Allows ρ s e where
  waits := hs
  change x heq := by
    subst heq
    cases he
  marks x heq := by
    subst heq
    cases he
  fork heq := absurd heq hfork
  cancel t heq := absurd heq (hcancel t)

theorem allows_fork : Allows .starts s (.fork .pollLoop) where
  waits h := by cases h
  change x h := by cases h
  marks x h := by cases h
  fork _ := rfl
  cancel t h := by cases h

theorem allows_cancel {t : Nat} (h : s.applying = false) : Allows .stops s (.cancel t) where
  waits h := by cases h
  change x h := by cases h
  marks x h := by cases h
  fork h := by cases h
  cancel _ _ := ⟨rfl, h⟩

theorem meets_session {Q : Except Exit Session → Looped → Prop}
    (hQ : ∀ x : Session, x.pollTask = s.known → x.applying = s.applying → Q (.ok x) s) :
    Op.session.Meets (contract ρ since) Q s := by
  refine Op.meets_bind.mpr (Op.meets_lift.mpr ⟨allows_look, ?_⟩)
  rintro x s' ⟨rfl, hx⟩
  exact hQ x.session (congrArg Prod.fst hx) (congrArg Prod.snd hx)

theorem meets_modify {f : Session → Session} {known : Option Nat} {Q : Except Exit Unit → Looped → Prop}
    (hf : ∀ x, x.pollTask = s.known → (f x).pollTask = known)
    (happlying : ∀ x, (f x).applying = x.applying) (hmay : ρ.May s.alive s.known known)
    (hQ : Q (.ok ()) { s with known }) : (Op.modify f).Meets (contract ρ since) Q s := by
  refine Op.meets_lift.mpr ⟨allows_look, ?_⟩
  rintro x s' ⟨rfl, hx⟩
  have hknown : (Site.onSession f x).session.pollTask = known := hf x.session (congrArg Prod.fst hx)
  have hmarks : (Site.onSession f x).session.applying = s'.applying :=
    (happlying x.session).trans (congrArg Prod.snd hx)
  refine ⟨allows_change (hknown.symm ▸ hmay) hmarks, ?_⟩
  rintro - s' rfl
  rw [seen, hknown, hmarks]
  exact hQ

theorem meets_isRunning {Q : Except Exit Bool → Looped → Prop} (hs : s.Sound) (hruns : Q (.ok true) s)
    (hidle : (∀ t, ¬s.alive t) → Q (.ok false) s) : Poll.isRunning.Meets (contract ρ since) Q s := by
  refine Op.meets_bind.mpr (meets_session fun x hx _ => ?_)
  rw [Op.after_ok, hx]
  cases hknown : s.known with
  | none =>
    exact hidle fun t ht => nomatch (hs.single t ht).symm.trans hknown
  | some task =>
    refine Op.meets_bind.mpr (Op.meets_perform.mpr ⟨allows_other rfl nofun nofun nofun, ?_⟩)
    rintro ended s' ⟨rfl, hended⟩
    cases ended with
    | false => exact hruns
    | true =>
      refine hidle fun t ht => hended rfl ?_
      cases (hs.single t ht).symm.trans hknown
      exact ht

theorem sound_started (hs : s.Sound) (hnone : ∀ t, ¬s.alive t) (t : Nat) :
    ({ s.started t with known := some t } : Looped).Sound where
  single i hi := by
    rcases hi with rfl | hi
    · rfl
    · exact absurd hi (hnone i)
  started i hi := by
    cases hi
    exact .inl rfl
  alive_loops i hi := hi.imp_right (hs.alive_loops i)

/-- **A start** starts a loop only where none is alive. -/
theorem keeps_start : Keeps .starts since Poll.start := by
  refine fun s hs => Op.meets_bind.mpr (meets_isRunning hs ?_ fun hnone => ?_)
  · exact resumes_refl hs
  · rw [Op.after_ok]
    refine Op.meets_bind.mpr (meets_modify (fun _ hx => hx) (fun _ => rfl) (.inl rfl) ?_)
    refine Op.meets_bind.mpr (Op.meets_perform.mpr ⟨allows_fork, ?_⟩)
    rintro t s' ⟨rfl, hsince⟩
    refine meets_modify (fun _ _ => rfl) (fun _ => rfl) (.inr ⟨t, rfl, .inl rfl⟩) ⟨sound_started hs hnone t, ?_⟩
    rintro i (rfl | hi)
    · exact .inr hsince
    · exact .inl hi

/-! ## Stopping -/

theorem sound_forgotten (hs : s.Sound) (hnone : ∀ t, ¬s.alive t) :
    ({ s with known := none } : Looped).Sound where
  single t ht := absurd ht (hnone t)
  started := nofun
  alive_loops := hs.alive_loops

/-- What a stop comes to: normally no task is known to poll any more. -/
structure Stopped (r : Except Exit α) (s : Looped) : Prop where
  sound : s.Sound
  unknown : ∀ a, r = .ok a → s.known = none

theorem meets_forget (hs : s.Sound) (hnone : ∀ t, ¬s.alive t) :
    (Op.modify fun x => { x with pollTask := none }).Meets (contract .stops since) Stopped s :=
  meets_modify (fun _ _ => rfl) (fun _ => rfl) (.inr rfl) ⟨sound_forgotten hs hnone, fun _ _ => rfl⟩

/-- **A loop that is waited for is forgotten only when it has ended**: while the stop waits, nobody
starts another. -/
theorem meets_joinAndForget {task : Nat} (hs : s.Sound) (hknown : s.known = some task) :
    Op.Meets (contract .stops since) Stopped (do
      Poll.joinQuietly task
      Op.modify fun x => { x with pollTask := none }) s := by
  refine Op.meets_bind.mpr (Op.meets_bind.mpr (Op.meets_perform.mpr
    ⟨allows_other rfl nofun nofun fun _ => hs, fun r s' hleads => ?_⟩))
  obtain ⟨hresumes, hrelies, hended⟩ := hleads
  have hnone : ∀ t, ¬s'.alive t := by
    intro t ht
    have hsame := hresumes.sound.single t ht
    rcases hrelies with h | h
    · cases (hsame.symm.trans h).trans hknown
      exact hended ht
    · cases hsame.symm.trans h
  rw [Op.after_ok]
  split
  · exact ⟨hresumes.sound, nofun⟩
  · exact meets_forget hresumes.sound hnone

/-- **A stop** ends with no task known to poll, and none alive. -/
theorem meets_stop (hs : s.Sound) : Poll.stop.Meets (contract .stops since) Stopped s := by
  refine Op.meets_bind.mpr (Op.meets_perform.mpr ⟨allows_other rfl nofun nofun nofun, fun _ s' hleads => ?_⟩)
  obtain rfl : s = s' := (hleads.resolve_right fun h => nomatch h.1).symm
  refine Op.meets_bind.mpr (meets_session fun x hx _ => ?_)
  rw [Op.after_ok, hx]
  cases hknown : s.known with
  | none => exact ⟨hs, fun _ _ => hknown⟩
  | some task =>
    refine Op.meets_bind.mpr (Op.meets_perform.mpr ⟨allows_other rfl nofun nofun nofun, ?_⟩)
    rintro ended _ ⟨rfl, hended⟩
    cases ended with
    | true =>
      refine meets_forget hs fun t ht => hended rfl ?_
      cases (hs.single t ht).symm.trans hknown
      exact ht
    | false =>
      refine Op.meets_bind.mpr (meets_session fun y _ hy => ?_)
      show Op.Meets _ _ (if !y.applying then _ else _) _
      cases happlying : y.applying with
      | true => exact meets_joinAndForget hs hknown
      | false =>
        refine Op.meets_bind.mpr (Op.meets_perform.mpr
          ⟨allows_cancel (hy.symm.trans happlying), fun _ s' hleads => ?_⟩)
        obtain rfl := (hleads.resolve_right fun h => nomatch h.1).symm
        exact meets_joinAndForget hs hknown

/-! ## All actions -/

theorem keeps_request (r : Request) : Keeps .starts since (Launch.request r) := by
  have hbegin : Keeps .starts since (do
      let count : Int := r.shards.length
      let state ← Control.begin r.mode r.transfer (.whole count) (.whole (max 1 count))
      Poll.start
      return state) :=
    keeps_bind (keeps_spares (Control.spares_begin _ _ _ _)) fun _ => keeps_bind keeps_start fun _ =>
      keeps_spares (Op.spares_pure _)
  have hsubmit : Keeps .starts since (Launch.submit r) :=
    keeps_traced fun id => keeps_bind (keeps_spares (Launch.spares_send r id)) fun _ =>
      keeps_bind (keeps_spares Op.spares_session) fun _ =>
        keeps_ite (keeps_bind (keeps_spares Reconcile.spares_forget) fun _ => hbegin) hbegin
  exact keeps_bind (keeps_spares Launch.spares_refuseSecond) fun _ =>
    keeps_bind (keeps_spares (Op.spares_modify fun _ => rfl)) fun _ =>
      keeps_bind (keeps_ensure hsubmit (Op.spares_update fun _ => rfl)) fun _ =>
        keeps_spares (Op.spares_bind (Op.spares_announce _ _) fun _ => Op.spares_pure _)

theorem keeps_order (o : Order) : Keeps .starts since (Launch.order o) :=
  keeps_bind (keeps_spares Launch.spares_refuseSecond) fun _ =>
    keeps_bind (keeps_spares (Launch.spares_assembled o)) keeps_request

theorem keeps_begin : Keeps .starts since Conduct.begin := by
  refine keeps_bind (keeps_spares Conduct.spares_readSummary) fun _ =>
    keeps_bind (keeps_spares Op.spares_session) fun x =>
      keeps_bind (keeps_spares (Keep.spares_load _)) fun stored => ?_
  cases stored with
  | some r =>
    exact keeps_ite (keeps_bind (keeps_spares (Control.spares_restore r)) fun _ =>
      keeps_bind keeps_start fun _ => keeps_spares (Op.spares_pure _))
      (keeps_spares Control.spares_snapshot)
  | none => exact keeps_spares Control.spares_snapshot

/-- What work in a role comes to: when a stop ends normally, every loop that is alive was started after it
had begun. -/
structure Closes {α : Type} (ρ : Role) (since : Nat) (r : Except Exit α) (s : Looped) : Prop where
  sound : s.Sound
  later : ρ = .stops → ∀ a, r = .ok a → ∀ i, s.alive i → since ≤ i

theorem closes_error (e : Exit) (hs : s.Sound) : Closes ρ since (.error e : Except Exit α) s :=
  ⟨hs, fun _ _ h => by cases h⟩

theorem meets_afterStop {op : Op α} {f : α → Op β} (h : op.Meets (contract .stops since) Stopped s)
    (hf : ∀ a, (f a).Spares false) :
    (op >>= f).Meets (contract .stops since) (Closes .stops since) s := by
  refine Op.meets_bind.mpr (h.mono ?_)
  rintro (e | a) s' ⟨hs, hknown⟩
  · exact closes_error e hs
  · refine (keeps_spares (hf a) s' hs).mono fun _ s'' hafter => ⟨hafter.sound, fun _ _ _ i hi => ?_⟩
    refine (hafter.later i hi).resolve_left fun halive => ?_
    cases (hknown a rfl).symm.trans (hs.single i halive)

theorem meets_cancel (hs : s.Sound) :
    (Op.quietly Poll.stop).Meets (contract .stops since) (Closes .stops since) s :=
  meets_afterStop (meets_stop hs) fun _ => Op.spares_pure _

theorem meets_abandon (hs : s.Sound) :
    Conduct.abandon.Meets (contract .stops since) (Closes .stops since) s :=
  meets_afterStop (meets_stop hs) fun _ => Op.spares_bind Control.spares_reset fun _ =>
    Op.spares_bind Configure.spares_reset fun _ => Reconcile.spares_forget

theorem meets_close (hs : s.Sound) : Conduct.close.Meets (contract .stops since) (Closes .stops since) s :=
  meets_afterStop (meets_stop hs) fun _ => Control.spares_close

theorem Keeps.closes {op : Op α} (h : Keeps ρ since op) (hρ : ρ ≠ .stops) (hs : s.Sound) :
    op.Meets (contract ρ since) (Closes ρ since) s :=
  (h s hs).mono fun _ _ hs' => ⟨hs'.sound, fun hstops => absurd hstops hρ⟩

theorem closes_spares {a : Action} {op : Op α} (h : op.Spares true) (hstarts : a.starts = false)
    (hstops : a.stops = false) (hs : s.Sound) : op.Meets (contract a.role since) (Closes a.role since) s := by
  have hrole : a.role = .spares := by
    rw [Action.role, hstarts, hstops]
    rfl
  rw [hrole]
  exact (keeps_marks h (by decide)).closes (by decide) hs

theorem closes_quietly {op : Op Unit} (h : op.Meets (contract .stops since) (Closes .stops since) s) :
    (Op.quietly op).Meets (contract .stops since) (Closes .stops since) s := by
  refine Op.meets_bind.mpr (h.mono ?_)
  rintro (e | a) s' hs'
  · exact closes_error e hs'.sound
  · exact ⟨hs'.sound, fun hstops _ _ => hs'.later hstops a rfl⟩

theorem meets_wholeAction (a : WholeAction) (hs : s.Sound) :
    a.op.Meets (contract (Action.whole a).role since) (Closes (Action.whole a).role since) s := by
  cases a with
  | begin => exact (keeps_map keeps_begin).closes (by decide) hs
  | launch order => exact (keeps_map (keeps_order order)).closes (by decide) hs
  | cancel => exact meets_cancel hs
  | abandon => exact closes_quietly (meets_abandon hs)
  | close => exact closes_quietly (meets_close hs)
  | _ => exact closes_spares (WholeAction.spares rfl rfl) rfl rfl hs

theorem meets_pollAction (a : PollAction) (hs : s.Sound) :
    a.op.Meets (contract (Action.poll a).role since) (Closes (Action.poll a).role since) s := by
  cases a with
  | start =>
    exact (keeps_bind keeps_start fun _ => keeps_spares (Op.spares_pure _)).closes (by decide) hs
  | submit request => exact (keeps_map (keeps_request request)).closes (by decide) hs
  | stop => exact meets_cancel hs
  | _ => exact closes_spares (PollAction.spares rfl rfl) rfl rfl hs

/-- **Every action does in its role what it may.** -/
theorem meets_action (a : Action) (hs : s.Sound) :
    a.op.Meets (contract a.role since) (Closes a.role since) s := by
  cases a with
  | whole a =>
    refine Op.meets_bind.mpr (meets_session fun x _ _ => ?_)
    have hrest : a.op.Meets (contract (Action.whole a).role since) (Closes (Action.whole a).role since) s :=
      meets_wholeAction a hs
    show Op.Meets _ _ (if x.isBare then _ else _) _
    split
    · exact Op.meets_bind.mpr (Op.meets_fail.mpr (closes_error _ hs))
    · exact hrest
  | poll a => exact meets_pollAction a hs
  | run a => exact closes_spares (RunAction.spares a) rfl rfl hs
  | configure a => exact closes_spares (ConfigureAction.spares a) rfl rfl hs
  | notice a => exact closes_spares (NoticeAction.spares a) rfl rfl hs
  | store a => exact closes_spares (StoreAction.spares a) rfl rfl hs
  | service a => exact closes_spares (ServiceAction.spares a) rfl rfl hs

end Looped

/-! ## One status after the other -/

/-- **The contract of a loop** that asks for the status only while none is being applied. Nobody else marks
that, as it waits. -/
def pacing : Contract Site where
  allows x
    | .send m => m = Call.getStatus.message → x.session.applying = false
    | _ => True
  leads x
    | .look, r, x' => r = x ∧ x' = x
    | .change y, _, x' => x' = { y with now := x.now }
    | _, _, x' => x'.session.applying = x.session.applying

theorem Call.kind_of_message {c : Call} (h : c.message = Call.getStatus.message) : c.kind = .status := by
  have hroute : c.message.route = Call.getStatus.message.route := congrArg Message.route h
  cases c with
  | getStatus => rfl
  | _ => simp [message] at hroute

namespace Poll

open Op

/-- No status is being applied, or one is. -/
abbrev Marks (applying : Bool) (x : Site) : Prop := x.session.applying = applying

theorem pacing_hosts {applying : Bool} {cs : List Concern} (hmarks : .applying ∉ cs)
    (hasks : applying = true → .call .status ∉ cs) : Hosts pacing id (Marks applying) cs where
  look x hx := by
    refine ⟨trivial, ?_⟩
    rintro _ _ ⟨rfl, rfl⟩
    exact ⟨hx, rfl, rfl⟩
  change x y hx hy := by
    refine ⟨trivial, ?_⟩
    rintro _ _ rfl
    exact ⟨(hy.same .applying hmarks).trans hx, rfl⟩
  other x e hx he hwithin := by
    have hleads : ∀ r x', pacing.leads x e r x' → Marks applying x' := by
      intro r x' hr
      cases e with
      | look => cases he
      | change y => cases he
      | _ => exact Eq.trans hr hx
    refine ⟨?_, hleads⟩
    cases e with
    | send m =>
      rintro rfl
      obtain ⟨c, hc, hkind⟩ := hwithin
      rw [Call.kind_of_message hc.symm] at hkind
      cases applying with
      | false => exact hx
      | true => exact absurd hkind (hasks rfl)
    | _ => trivial

/-- A status is applied under its mark, and nobody asks for another before the mark is gone. -/
theorem paces_applyMarked (report : Status) : (applyMarked report).Upholding pacing (Marks false) := by
  refine fun x _ => meets_bind.mpr (meets_lift.mpr ⟨trivial, ?_⟩)
  rintro _ _ ⟨rfl, rfl⟩
  refine ⟨trivial, ?_⟩
  rintro _ y rfl
  have happly : (Control.apply report).Upholding pacing (Marks true) :=
    (Control.touches_apply report).upholds (pacing_hosts (by decide) fun _ => by decide)
  have hall : (Control.apply report >>= fun _ => pure ()).Upholding pacing (Marks true) :=
    upholds_bind happly fun _ _ => upholds_pure trivial
  refine meets_ensure.mpr ((hall _ rfl).mono fun r z _ => ?_)
  refine ⟨trivial, ?_⟩
  rintro _ _ ⟨rfl, rfl⟩
  refine ⟨trivial, ?_⟩
  rintro _ _ rfl
  exact ⟨rfl, fun _ _ => trivial⟩

/-- **A round of the loop** asks for the status only where none is being applied, and leaves it so. -/
theorem paces_round : round.Upholding pacing (Marks false) :=
  upholds_round (pacing_hosts (by decide) nofun) paces_applyMarked

end Poll

end Cutover
