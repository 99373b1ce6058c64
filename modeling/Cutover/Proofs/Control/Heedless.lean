import Cutover.Proofs.Work.Accord
import Cutover.Session.Action
import Cutover.Session.Background

/-!
# Nothing heeds the notices

What is on the board of a session is of no account to its work, as long as notices can be raised. Two pieces of work
go side by side if they ask for the same, save that each sees a board of its own when it looks at the site and leaves
one of its own when it changes the site.

Whatever is asked of a session does not heed the notices, but for looking at them and taking them away. What comes of
that differs, but it never fails on one board and not on another.

* `Board.Raises`: notices can be raised on a board;
* `Work.Alongside`: **two pieces of work that do the same**, whatever is on the board of each;
* `Op.Heedless`: an operation does not heed the notices, with lemmas for the parts that operations are made of;
* `Control.heedless_apply`, `Poll.heedless_round`, `Launch.heedless_order`, …: the operations, one by one;
* `Background.heedless`: the work in the background;
* `Action.heedless`, `NoticeAction.alongside`: **all that is asked of a session**.
-/

namespace Cutover

section

/-! ## Boards on which notices can be raised -/

/-- Notices that expire can be raised on a board up to an instant. -/
def Board.Raises (b : Board) (limit : Int) : Prop := ∃ due, b.expiry limit = .ok due

namespace Board

variable {b c : Board} {limit now : Int}

theorem raises_iff : b.Raises limit ↔ (b.expiry limit).toOption.isSome = true := by
  rw [Raises]
  cases b.expiry limit with
  | error f =>
    constructor
    · rintro ⟨due, hdue⟩
      cases hdue
    · intro hsome
      cases hsome
  | ok due => exact ⟨fun _ => rfl, fun _ => ⟨due, rfl⟩⟩

instance : Decidable (b.Raises limit) := decidable_of_iff' _ raises_iff

theorem Raises.of_ttl (h : b.Raises limit) (httl : c.ttl = b.ttl) : c.Raises limit := by
  rw [Raises, expiry, httl]
  exact h

theorem Raises.before (h : b.Raises limit) (hnow : now ≤ limit) : b.Raises now := by
  obtain ⟨due, hdue⟩ := h
  rw [expiry] at hdue
  rw [Raises, expiry]
  cases hstays : microsecondsOf b.ttl with
  | error f =>
    rw [hstays] at hdue
    cases hdue
  | ok stays =>
    rw [hstays] at hdue
    simp only [bind, Except.bind, pure, Except.pure] at hdue ⊢
    split at hdue
    · cases hdue
    next hlast => exact ⟨now + stays, if_neg (by omega)⟩

theorem ttl_transient (b : Board) (now : Int) (text : Value) (level : Level) :
    (b.transient now text level).1.ttl = b.ttl := by
  unfold transient
  dsimp only
  split <;> rfl

theorem Raises.posted (h : b.Raises limit) (hnow : now ≤ limit) (text : Value) (level : Level) :
    ∃ n, (b.transient now text level).2 = .ok n := by
  obtain ⟨due, hdue⟩ := h.before hnow
  unfold transient
  dsimp only
  rw [hdue]
  exact ⟨_, rfl⟩

end Board

/-- The site with another board. -/
def Site.withBoard (x : Site) (b : Board) : Site := { x with session := { x.session with board := b } }

variable {α β : Type} {R : α → α → Prop} {S : β → β → Prop} {limit : Int}

namespace Work

/-- **Two pieces of work do the same**, whatever is on the board that each sees. Notices can be raised on both up to
an instant. After anything but a look or a change they go on in the same way. -/
inductive Alongside (limit : Int) (R : α → α → Prop) : Work α → Work α → Prop
  | done {a a' : α} (h : R a a') : Alongside limit R (.done a) (.done a')
  | look {next next' : Site → Work α} (h : ∀ (x : Site) (b : Board), x.now ≤ limit → x.session.board.Raises limit →
      b.Raises limit → Alongside limit R (next x) (next' (x.withBoard b))) :
    Alongside limit R (.ask .look next) (.ask .look next')
  | change {y : Site} {c : Board} {next next' : Unit → Work α} (hy : y.session.board.Raises limit)
    (hc : c.Raises limit) (h : Alongside limit R (next ()) (next' ())) :
    Alongside limit R (.ask (.change y) next) (.ask (.change (y.withBoard c)) next')
  | other {e : Effect} {next : e.Reply → Work α} (he : e.isOther = true)
    (h : ∀ r, Alongside limit R (next r) (next r)) : Alongside limit R (.ask e next) (.ask e next)

theorem Alongside.mono {R' : α → α → Prop} {w w' : Work α} (h : Alongside limit R w w')
    (hR : ∀ a a', R a a' → R' a a') : Alongside limit R' w w' := by
  induction h with
  | done h => exact .done (hR _ _ h)
  | look _ ih => exact .look ih
  | change hy hc _ ih => exact .change hy hc ih
  | other he _ ih => exact .other he ih

theorem Alongside.bind {w w' : Work α} {f : α → Work β} (h : Alongside limit R w w')
    (hf : ∀ a a', R a a' → Alongside limit S (f a) (f a')) : Alongside limit S (w >>= f) (w' >>= f) := by
  induction h with
  | done h => exact hf _ _ h
  | look _ ih => exact .look ih
  | change hy hc _ ih => exact .change hy hc ih
  | other he _ ih => exact .other he ih

theorem alongside_update {f : Site → Site} (hf : ∀ x b, f (x.withBoard b) = (f x).withBoard b) :
    Alongside limit Eq (update f) (update f) := by
  refine .look fun x b _ hx hb => ?_
  -- What is done to a site with its own board leaves that board.
  have hboard : (f x).session.board = x.session.board := congrArg (fun y => y.session.board) (hf x x.session.board)
  have hupdate : Alongside limit Eq (perform (.change (f x))) (perform (.change ((f x).withBoard b))) :=
    .change (hboard ▸ hx) hb (.done rfl)
  rw [← hf] at hupdate
  exact hupdate

end Work

namespace Op

/-- **An operation does not heed the notices**, as long as they can be raised. -/
def Heedless (limit : Int) (op : Op α) : Prop := Work.Alongside limit Eq op.run op.run

variable {op : Op α}

/-! ## One operation after another -/

theorem heedless_pure (a : α) : (pure a : Op α).Heedless limit := .done rfl

theorem heedless_throw (e : Exit) : (throw e : Op α).Heedless limit := .done rfl

theorem heedless_fail (f : Fault) : (fail f : Op α).Heedless limit := heedless_throw _

theorem heedless_bind {f : α → Op β} (h : op.Heedless limit) (hf : ∀ a, (f a).Heedless limit) :
    (op >>= f).Heedless limit := by
  refine Work.Alongside.bind h ?_
  rintro (e | a) _ rfl
  · exact .done rfl
  · exact hf a

theorem heedless_map {f : α → β} (h : op.Heedless limit) : (f <$> op).Heedless limit :=
  heedless_bind h fun a => heedless_pure (f a)

theorem heedless_tryCatch {handle : Exit → Op α} (h : op.Heedless limit) (hhandle : ∀ e, (handle e).Heedless limit) :
    (tryCatch op handle : Op α).Heedless limit := by
  refine Work.Alongside.bind h ?_
  rintro (e | a) _ rfl
  · exact hhandle e
  · exact .done rfl

theorem heedless_rescue {handle : ServiceFault → Op α} (h : op.Heedless limit)
    (hhandle : ∀ f, (handle f).Heedless limit) : (rescue op handle).Heedless limit := by
  refine heedless_tryCatch h fun e => ?_
  split
  · exact hhandle _
  · exact heedless_throw _

theorem heedless_ensure {last : Work Unit} (h : op.Heedless limit) (hlast : Work.Alongside limit Eq last last) :
    (op.ensure last).Heedless limit := by
  refine Work.Alongside.bind h ?_
  rintro r _ rfl
  exact hlast.bind fun _ _ _ => .done rfl

theorem heedless_ite {c : Prop} [Decidable c] {op' : Op α} (h : op.Heedless limit) (h' : op'.Heedless limit) :
    (if c then op else op').Heedless limit := by
  split
  · exact h
  · exact h'

theorem heedless_unless {c : Prop} [Decidable c] {f : Fault} {g : β → Op α} {b : β} (h : (g b).Heedless limit) :
    (if c then fail f >>= g else g b).Heedless limit := by
  split
  · exact .done rfl
  · exact h

theorem heedless_ofExcept (x : Except Fault α) : (ofExcept x).Heedless limit := by
  cases x with
  | ok a => exact heedless_pure a
  | error f => exact heedless_fail f

theorem heedless_unwrap (x : Waited α) : (unwrap x).Heedless limit := by
  cases x with
  | back a => exact heedless_pure a
  | cancelled => exact heedless_throw _

/-! ## Effects -/

theorem heedless_lift {w : Work α} (h : Work.Alongside limit Eq w w) : (lift w).Heedless limit :=
  h.bind fun _ _ ha => .done (congrArg Except.ok ha)

theorem heedless_perform {e : Effect} (he : e.isOther = true) : (perform e).Heedless limit :=
  heedless_lift (.other he fun _ => .done rfl)

theorem heedless_enter (g : GateName) : (enter g).Heedless limit :=
  heedless_bind (heedless_perform rfl) heedless_unwrap

theorem heedless_storageTurn : storageTurn.Heedless limit := heedless_bind (heedless_perform rfl) heedless_unwrap

theorem heedless_sleep (d : Int) : (sleep d).Heedless limit := heedless_bind (heedless_perform rfl) heedless_unwrap

theorem heedless_site_bind {f : Site → Op α} (h : ∀ x, (f x).Heedless limit) (hf : ∀ x b, f (x.withBoard b) = f x) :
    (site >>= f).Heedless limit := by
  refine .look fun x b _ _ _ => ?_
  have hsame : Work.Alongside limit Eq (f x).run (f (x.withBoard b)).run := by
    rw [hf]
    exact h x
  exact hsame

theorem heedless_session_bind {f : Session → Op α} (h : ∀ s, (f s).Heedless limit)
    (hf : ∀ s board, f { s with board } = f s) : (session >>= f).Heedless limit :=
  heedless_site_bind (f := fun x => f x.session) (fun x => h x.session) fun x b => hf x.session b

theorem heedless_modify {f : Session → Session} (hf : ∀ s board, f { s with board } = { f s with board }) :
    (modify f).Heedless limit :=
  heedless_lift (Work.alongside_update fun x b => congrArg (fun session => { x with session }) (hf x.session b))

theorem heedless_guarded {g : GateName} (h : op.Heedless limit) : (guarded g op).Heedless limit :=
  heedless_bind (heedless_enter g) fun _ => heedless_ensure h (.other rfl fun _ => .done rfl)

/-! ## Spans -/

theorem heedless_tag (span : Nat) (key : String) (value : Value) : (tag span key value).Heedless limit :=
  heedless_lift (Work.alongside_update fun _ _ => rfl)

theorem heedless_traced {s : Span} {f : Nat → Op α} (h : ∀ id, (f id).Heedless limit) :
    (traced s f).Heedless limit := by
  refine heedless_bind (heedless_lift (.look fun x b _ hx hb => ?_)) fun id =>
    heedless_ensure (h id) (Work.alongside_update fun _ _ => rfl)
  exact .change (y := { x with trace := (x.trace.enter s).2 }) hx hb (.done rfl)

/-! ## Notices -/

theorem alongside_board {b c : Board} (hb : b.Raises limit) (hc : c.Raises limit) :
    Work.Alongside limit Eq (modify fun s => { s with board := b }).run (modify fun s => { s with board := c }).run :=
  .look fun x _ _ _ _ => .change (y := x.onSession fun s => { s with board := b }) hb hc (.done rfl)

/-- **A notice that can be raised is raised**, and nothing more comes of it. -/
theorem heedless_announce (message : String) (level : Level) : (announce message level).Heedless limit := by
  have hraised : ∀ {b : Board} {posted : Board × Except Fault Notice} {n : Notice}, posted.1 = b → posted.2 = .ok n →
      (do
        modify fun s => { s with board := posted.1 }
        let _ ← ofExcept posted.2) = modify fun s => { s with board := b } := by
    rintro _ ⟨b, _⟩ n rfl rfl
    rfl
  refine .look fun x b hnow hx hb => ?_
  obtain ⟨n, hn⟩ := hx.posted hnow (.text message) level
  obtain ⟨n', hn'⟩ := hb.posted hnow (.text message) level
  have hboard := alongside_board (hx.of_ttl (x.session.board.ttl_transient x.now (.text message) level))
    (hb.of_ttl (b.ttl_transient x.now (.text message) level))
  rw [← hraised rfl hn, ← hraised rfl hn'] at hboard
  exact hboard

theorem heedless_alarm (message : Value) : (alarm message).Heedless limit :=
  .look fun _ _ _ hx hb => alongside_board (hx.of_ttl rfl) (hb.of_ttl rfl)

end Op

end

open Op

variable {α : Type} {limit : Int}

/-! ## Storing and calling -/

namespace Keep

theorem heedless_transact (f : Storage → Except Fault α × Storage) : (transact f).Heedless limit := by
  refine heedless_bind heedless_storageTurn fun _ => .look fun x b _ hx hb => ?_
  exact .change (y := { x with storage := (f x.storage).2 }) hx hb (heedless_ofExcept (f x.storage).1)

theorem heedless_traced (operation : String) (f : Storage → Except Fault α × Storage) :
    (traced operation f).Heedless limit :=
  heedless_site_bind (fun _ => Op.heedless_traced fun _ => heedless_transact f) fun _ _ => rfl

theorem heedless_obstacle (error : Option String) : (obstacle error).Heedless limit := by
  cases error with
  | some text => exact heedless_fail _
  | none => exact heedless_pure _

theorem heedless_load (store : Nat) : (load store).Heedless limit := heedless_traced _ _

theorem heedless_save (store : Nat) (r : Record) : (save store r).Heedless limit := by
  have hrest : Heedless limit (do
      obstacle ((← site).storage.faults store).saveError
      traced "save" fun s => s.save store r.encode) :=
    heedless_site_bind (fun _ => heedless_bind (heedless_obstacle _) fun _ => heedless_traced _ _) fun _ _ => rfl
  refine heedless_site_bind (fun x => ?_) fun _ _ => rfl
  cases (x.storage.faults store).saveDelay with
  | some d => exact heedless_bind (heedless_sleep d) fun _ => hrest
  | none => exact hrest

theorem heedless_clear (store : Nat) : (clear store).Heedless limit :=
  heedless_site_bind (fun _ => heedless_bind (heedless_obstacle _) fun _ => heedless_traced _ _) fun _ _ => rfl

theorem heedless_fieldName (name : Value) : (fieldName name).Heedless limit := by
  cases name with
  | text s => exact heedless_ite (heedless_pure _) (heedless_fail _)
  | _ => exact heedless_fail _

theorem heedless_getField (store : Nat) (name : Value) : (getField store name).Heedless limit :=
  heedless_bind (heedless_fieldName name) fun _ => heedless_transact _

theorem heedless_setField (store : Nat) (name value : Value) : (setField store name value).Heedless limit :=
  heedless_bind (heedless_fieldName name) fun _ => heedless_transact _

end Keep

namespace Call

theorem heedless_send (c : Call) : c.send.Heedless limit := by
  refine Op.heedless_traced fun span => heedless_unless (b := PUnit.unit) ?_
  refine heedless_bind (heedless_perform rfl) fun w => heedless_bind (heedless_unwrap w) fun o => ?_
  cases o with
  | answered a => exact heedless_bind (heedless_tag _ _ _) fun _ => heedless_pure a
  | unreachable failure text => exact heedless_bind (heedless_tag _ _ _) fun _ => heedless_fail _
  | failed f => exact heedless_fail f

theorem heedless_ofService (x : Except ServiceFault α) : (ofService x).Heedless limit := by
  cases x with
  | ok a => exact heedless_pure a
  | error f => exact heedless_fail _

theorem heedless_write (c : Call) : c.write.Heedless limit :=
  heedless_bind (heedless_send c) fun _ => heedless_ofService _

theorem heedless_readStatus : readStatus.Heedless limit :=
  heedless_bind (heedless_send .getStatus) fun _ => heedless_ofService _

theorem heedless_readSummary : readSummary.Heedless limit :=
  heedless_bind (heedless_send .getSummary) fun _ => heedless_ofService _

theorem heedless_readResources : readResources.Heedless limit :=
  heedless_rescue (heedless_bind (heedless_send .getResources) fun _ => heedless_ofService _) fun _ => heedless_fail _

end Call

namespace Reconcile

theorem heedless_fetch : fetch.Heedless limit := by
  refine heedless_guarded (heedless_session_bind (fun s => ?_) fun _ _ => rfl)
  cases s.resources with
  | some resources => exact heedless_pure _
  | none =>
    refine heedless_bind (heedless_traced fun _ => ?_) fun _ =>
      heedless_bind (heedless_modify fun _ _ => rfl) fun _ => heedless_pure _
    exact heedless_bind (heedless_modify fun _ _ => rfl) fun _ =>
      heedless_bind Call.heedless_readResources fun _ => heedless_bind (heedless_tag _ _ _) fun _ => heedless_pure _

theorem heedless_forget : forget.Heedless limit := heedless_modify fun _ _ => rfl

end Reconcile

/-! ## The run -/

namespace Control

theorem heedless_snapshot : snapshot.Heedless limit :=
  heedless_session_bind (fun _ => heedless_ofExcept _) fun _ _ => rfl

theorem heedless_publish : publish.Heedless limit := heedless_bind heedless_snapshot fun _ => heedless_perform rfl

theorem heedless_persist : persist.Heedless limit :=
  heedless_session_bind (fun _ => Keep.heedless_save _ _) fun _ _ => rfl

theorem heedless_begin (mode : Mode) (transfer : Transfer) (shards instances : Value) :
    (begin mode transfer shards instances).Heedless limit := by
  refine heedless_guarded (heedless_session_bind (fun _ => heedless_unless (b := PUnit.unit) ?_) fun _ _ => rfl)
  exact heedless_bind (heedless_modify fun _ _ => rfl) fun _ => heedless_bind heedless_persist fun _ =>
    heedless_bind heedless_publish fun _ => heedless_snapshot

theorem heedless_restore (r : Record) : (restore r).Heedless limit :=
  heedless_guarded <|
    heedless_bind (heedless_ofExcept _) fun _ => heedless_bind (heedless_modify fun _ _ => rfl) fun _ =>
      heedless_bind (heedless_ofExcept _) fun _ => heedless_bind (heedless_modify fun _ _ => rfl) fun _ =>
        heedless_bind (heedless_ofExcept _) fun _ => heedless_bind (heedless_modify fun _ _ => rfl) fun _ =>
          heedless_bind heedless_publish fun _ => heedless_snapshot

theorem heedless_reset : reset.Heedless limit :=
  heedless_guarded <| heedless_bind (heedless_modify fun _ _ => rfl) fun _ =>
    heedless_session_bind (fun _ => heedless_bind (Keep.heedless_clear _) fun _ => heedless_publish) fun _ _ => rfl

theorem heedless_reconcile : reconcile.Heedless limit :=
  heedless_session_bind (fun _ => heedless_unless (b := PUnit.unit) (heedless_guarded Reconcile.heedless_fetch))
    fun _ _ => rfl

theorem heedless_reconcileOnce : reconcileOnce.Heedless limit := by
  refine heedless_session_bind (fun _ => heedless_ite ?_ (heedless_pure _)) fun _ _ => rfl
  refine heedless_rescue (heedless_bind Reconcile.heedless_fetch fun _ => heedless_modify fun _ _ => rfl)
    fun _ => heedless_ite ?_ (heedless_fail _)
  exact heedless_bind (heedless_modify fun _ _ => rfl) fun _ => heedless_alarm _

theorem heedless_runHooks (phase : Phase) (hooks : List StopHook) : (runHooks phase hooks).Heedless limit := by
  induction hooks with
  | nil => exact heedless_pure _
  | cons hook rest ih =>
    refine heedless_bind ?_ fun _ => ih
    cases hook with
    | polling => exact heedless_perform rfl
    | configuration => exact heedless_ite (heedless_modify fun _ _ => rfl) (heedless_pure _)
    | user number id fails =>
      exact heedless_bind (heedless_lift (Work.alongside_update fun _ _ => rfl)) fun _ =>
        heedless_ite (heedless_fail _) (heedless_pure _)

theorem heedless_complete : complete.Heedless limit :=
  heedless_bind (heedless_modify fun _ _ => rfl) fun _ =>
    heedless_session_bind (fun _ => heedless_bind (heedless_runHooks _ _) fun _ =>
      heedless_bind heedless_reconcileOnce fun _ => heedless_session_bind (fun _ =>
        heedless_bind (Keep.heedless_clear _) fun _ => heedless_announce _ _) fun _ _ => rfl) fun _ _ => rfl

theorem heedless_failRun (errorText : Value) : (failRun errorText).Heedless limit :=
  heedless_bind (heedless_modify fun _ _ => rfl) fun _ =>
    heedless_session_bind (fun _ => heedless_bind (heedless_runHooks _ _) fun _ => heedless_session_bind (fun _ =>
      heedless_bind (Keep.heedless_clear _) fun _ => heedless_alarm _) fun _ _ => rfl) fun _ _ => rfl

theorem heedless_advance (report : Status) : (advance report).Heedless limit := by
  refine heedless_session_bind (fun _ => heedless_bind (heedless_ofExcept _) fun _ =>
    heedless_bind (heedless_modify fun _ _ => rfl) fun _ => ?_) fun _ _ => rfl
  exact heedless_ite (heedless_bind (heedless_announce _ _) fun _ => heedless_pure _) (heedless_pure _)

theorem heedless_settle (a : RunState.Advance) : (settle a).Heedless limit := by
  refine heedless_session_bind (fun _ => heedless_ite heedless_complete ?_) fun _ _ => rfl
  exact heedless_ite (heedless_bind heedless_reconcileOnce fun _ => heedless_persist) heedless_persist

theorem heedless_applyActive (previous : Phase) (report : Status) : (applyActive previous report).Heedless limit := by
  refine heedless_ite (heedless_bind (heedless_failRun _) fun _ => heedless_pure _) ?_
  refine heedless_bind heedless_snapshot fun _ => heedless_bind (heedless_advance report) fun _ =>
    heedless_session_bind (fun _ => ?_) fun _ _ => rfl
  exact heedless_ite (heedless_pure _) (heedless_bind (heedless_settle _) fun _ => heedless_pure _)

theorem heedless_applyTraced (previous : Phase) (report : Status) (span : Nat) :
    (applyTraced previous report span).Heedless limit := by
  refine heedless_ite (heedless_bind (heedless_applyActive _ _) fun _ => ?_)
    (heedless_bind heedless_snapshot fun _ => heedless_pure _)
  exact heedless_ite (heedless_session_bind (fun _ => heedless_bind (heedless_tag _ _ _) fun _ => heedless_pure _)
    fun _ _ => rfl) (heedless_pure _)

/-- **Reports are applied.** -/
theorem heedless_apply (report : Status) : (apply report).Heedless limit := by
  refine heedless_guarded (heedless_session_bind (fun _ => ?_) fun _ _ => rfl)
  refine heedless_bind (heedless_traced fun id => heedless_applyTraced _ _ id) fun ignored => ?_
  cases ignored with
  | some ignored => exact heedless_pure _
  | none => exact heedless_bind heedless_publish fun _ => heedless_bind heedless_snapshot fun _ => heedless_pure _

theorem heedless_close : close.Heedless limit := heedless_perform rfl

end Control

/-! ## Polling -/

namespace Poll

theorem heedless_applyMarked (report : Status) : (applyMarked report).Heedless limit :=
  heedless_bind (heedless_modify fun _ _ => rfl) fun _ =>
    heedless_ensure (heedless_bind (Control.heedless_apply report) fun _ => heedless_pure _)
      (Work.alongside_update fun _ _ => rfl)

theorem heedless_read (span : Nat) : (read span).Heedless limit := by
  refine heedless_rescue (heedless_map Call.heedless_readStatus) fun _ => ?_
  exact heedless_bind (heedless_modify fun _ _ => rfl) fun _ => heedless_bind (heedless_tag _ _ _) fun _ =>
    heedless_bind (heedless_announce _ _) fun _ => heedless_pure _

theorem heedless_once : once.Heedless limit := by
  refine heedless_bind (heedless_modify fun _ _ => rfl) fun _ => heedless_session_bind (fun _ => ?_) fun _ _ => rfl
  refine heedless_traced fun id => heedless_bind (heedless_read id) fun report => ?_
  cases report with
  | some report => exact heedless_applyMarked report
  | none => exact heedless_pure _

theorem heedless_onceOrReport : onceOrReport.Heedless limit := by
  refine heedless_tryCatch heedless_once fun e => ?_
  cases e with
  | cancelled => exact heedless_throw _
  | fault f => exact heedless_bind (heedless_modify fun _ _ => rfl) fun _ => heedless_announce _ _

/-- **A round of the poll loop.** -/
theorem heedless_round : round.Heedless limit := by
  refine heedless_bind (heedless_session_bind (fun _ => heedless_pure _) fun _ _ => rfl) fun _ =>
    heedless_ite (heedless_pure _) (heedless_session_bind (fun s => ?_) fun _ _ => rfl)
  refine heedless_bind (heedless_perform rfl) fun w => heedless_bind (heedless_unwrap w) fun _ =>
    heedless_session_bind (fun _ => heedless_ite (heedless_pure _) ?_) fun _ _ => rfl
  exact heedless_bind heedless_onceOrReport fun _ => heedless_pure _

theorem heedless_isRunning : isRunning.Heedless limit := by
  refine heedless_session_bind (fun s => ?_) fun _ _ => rfl
  cases s.pollTask with
  | some task => exact heedless_bind (heedless_perform (e := .hasEnded task) rfl) fun _ => heedless_pure _
  | none => exact heedless_pure _

theorem heedless_start : start.Heedless limit := by
  refine heedless_bind heedless_isRunning fun _ => heedless_ite ?_ (heedless_pure _)
  exact heedless_bind (heedless_modify fun _ _ => rfl) fun _ =>
    heedless_bind (heedless_perform (e := .fork .pollLoop) rfl) fun _ => heedless_modify fun _ _ => rfl

theorem heedless_requestStop : requestStop.Heedless limit := heedless_perform rfl

theorem heedless_joinQuietly (task : Nat) : (joinQuietly task).Heedless limit := by
  refine heedless_bind (heedless_perform rfl) fun w => ?_
  split
  · exact heedless_fail _
  · exact heedless_pure _

theorem heedless_stop : stop.Heedless limit := by
  refine heedless_bind heedless_requestStop fun _ => heedless_session_bind (fun s => ?_) fun _ _ => rfl
  cases s.pollTask with
  | none => exact heedless_pure _
  | some task =>
    have hrest : Heedless limit (modify fun s => { s with pollTask := none }) := heedless_modify fun _ _ => rfl
    have hjoined := fun _ : Unit => heedless_bind (heedless_joinQuietly task) fun _ => hrest
    refine heedless_bind (heedless_perform (e := .hasEnded task) rfl) fun hasEnded => heedless_ite ?_ hrest
    refine heedless_session_bind (fun _ => heedless_ite ?_ (hjoined ())) fun _ _ => rfl
    exact heedless_bind (heedless_perform (e := .cancel task) rfl) hjoined

theorem heedless_wait : wait.Heedless limit := by
  refine heedless_session_bind (fun s => ?_) fun _ _ => rfl
  cases s.pollTask with
  | none => exact heedless_pure _
  | some task =>
    refine heedless_bind (heedless_perform (e := .join task) rfl) fun w => heedless_bind (heedless_unwrap w) fun r => ?_
    cases r with
    | ok _ => exact heedless_pure _
    | error e => exact heedless_throw _

end Poll

/-! ## Launching -/

namespace Launch

theorem heedless_refuseSecond : refuseSecond.Heedless limit := by
  refine heedless_session_bind (fun _ => heedless_ite ?_ (heedless_pure _)) fun _ _ => rfl
  exact heedless_bind Control.heedless_snapshot fun _ => heedless_fail _

theorem heedless_send (r : Request) (span : Nat) : (send r span).Heedless limit := by
  refine heedless_rescue (Call.heedless_write _) fun _ => ?_
  exact heedless_bind (heedless_tag _ _ _) fun _ => heedless_bind (heedless_announce _ _) fun _ => heedless_fail _

theorem heedless_submit (r : Request) : (submit r).Heedless limit := by
  have hbegin : Heedless limit (do
      let count : Int := r.shards.length
      let state ← Control.begin r.mode r.transfer (.whole count) (.whole (max 1 count))
      Poll.start
      return state) :=
    heedless_bind (Control.heedless_begin _ _ _ _) fun _ => heedless_bind Poll.heedless_start fun _ => heedless_pure _
  refine heedless_traced fun id => heedless_bind (heedless_send r id) fun _ =>
    heedless_session_bind (fun _ => heedless_ite ?_ hbegin) fun _ _ => rfl
  exact heedless_bind Reconcile.heedless_forget fun _ => hbegin

theorem heedless_request (r : Request) : (request r).Heedless limit := by
  refine heedless_bind heedless_refuseSecond fun _ => heedless_bind (heedless_modify fun _ _ => rfl) fun _ => ?_
  refine heedless_bind (heedless_ensure (heedless_submit r) (Work.alongside_update fun _ _ => rfl)) fun _ => ?_
  exact heedless_bind (heedless_announce _ _) fun _ => heedless_pure _

/-- **Runs are launched.** -/
theorem heedless_order (o : Order) : (order o).Heedless limit := by
  refine heedless_bind heedless_refuseSecond fun _ => heedless_bind ?_ heedless_request
  exact heedless_session_bind (fun _ => heedless_traced fun _ => heedless_ofExcept _) fun _ _ => rfl

end Launch

/-! ## Configuring -/

namespace Configure

theorem heedless_modify (f : FragmentSet → FragmentSet) : (modify f).Heedless limit := Op.heedless_modify fun _ _ => rfl

theorem heedless_modifyWizard (f : Wizard → Wizard) : (modifyWizard f).Heedless limit :=
  Op.heedless_modify fun _ _ => rfl

theorem heedless_set {c : Prop} [Decidable c] (f : FragmentSet → FragmentSet) :
    Heedless limit (do
      if c then
        modify f
        return true
      else return false) :=
  heedless_ite (heedless_bind (heedless_modify f) fun _ => heedless_pure _) (heedless_pure _)

theorem heedless_setName (name : Value) (f : String → FragmentSet → FragmentSet) :
    Heedless limit (do
      let name ← trimmedName name
      if name = "" then return false
      else
        modify (f name)
        return true) := by
  refine heedless_bind ?_ fun name => heedless_ite (heedless_pure _)
    (heedless_bind (heedless_modify (f name)) fun _ => heedless_pure _)
  cases name with
  | text s => exact heedless_pure _
  | _ => exact heedless_fail _

theorem heedless_setSourceProfile (name : Value) : (setSourceProfile name).Heedless limit := by
  unfold setSourceProfile
  exact heedless_setName name _

theorem heedless_setTargetProfile (name : Value) : (setTargetProfile name).Heedless limit := by
  unfold setTargetProfile
  exact heedless_setName name _

theorem heedless_push (c : Call) : (push c).Heedless limit := by
  refine heedless_session_bind (fun _ => heedless_unless (b := PUnit.unit) ?_) fun _ _ => rfl
  exact heedless_rescue (heedless_bind (Call.heedless_write c) fun _ => heedless_pure _) fun _ =>
    heedless_bind (heedless_announce _ _) fun _ => heedless_pure _

theorem heedless_setShared (sharded : Bool) (c : Call) (set : FragmentSet → FragmentSet) :
    (setShared sharded c set).Heedless limit := by
  have hset : ∀ taken : Bool, Heedless limit (do
      if taken then modify set
      return taken) := fun taken =>
    heedless_ite (heedless_bind (heedless_modify set) fun _ => heedless_pure _) (heedless_pure _)
  exact heedless_ite (heedless_bind (heedless_push c) hset) (hset true)

theorem heedless_finalizeShards : finalizeShards.Heedless limit := by
  refine heedless_session_bind (fun _ => heedless_bind (heedless_ofExcept _) fun _ =>
    heedless_bind (heedless_traced fun _ => heedless_push _) fun taken => ?_) fun _ _ => rfl
  exact heedless_ite (heedless_bind (heedless_modify _) fun _ => heedless_pure _) (heedless_pure _)

theorem heedless_reset : reset.Heedless limit := Op.heedless_modify fun _ _ => rfl

theorem heedless_addShard (shard : Shard) : (addShard shard).Heedless limit :=
  heedless_session_bind (fun _ => heedless_bind (heedless_ofExcept _) fun _ => heedless_modifyWizard _) fun _ _ => rfl

theorem heedless_addEntry (entry : Members) : (addEntry entry).Heedless limit :=
  heedless_session_bind (fun _ => heedless_bind (heedless_ofExcept _) fun _ =>
    heedless_bind (heedless_modifyWizard _) fun _ => heedless_pure _) fun _ _ => rfl

theorem heedless_addText (text : String) : (addText text).Heedless limit :=
  heedless_session_bind (fun _ => heedless_bind (heedless_modifyWizard _) fun _ => heedless_ofExcept _) fun _ _ => rfl

end Configure

/-! ## The session as a whole -/

namespace Conduct

theorem heedless_readSummary : readSummary.Heedless limit := by
  refine heedless_bind (heedless_rescue (heedless_map Call.heedless_readSummary) fun _ =>
    heedless_bind (heedless_announce _ _) fun _ => heedless_pure _) fun summary => ?_
  cases summary with
  | some summary => exact heedless_modify fun _ _ => rfl
  | none => exact heedless_pure _

theorem heedless_begin : begin.Heedless limit := by
  refine heedless_bind heedless_readSummary fun _ => heedless_session_bind (fun _ =>
    heedless_bind (Keep.heedless_load _) fun record => ?_) fun _ _ => rfl
  cases record with
  | none => exact Control.heedless_snapshot
  | some r =>
    refine heedless_ite ?_ Control.heedless_snapshot
    exact heedless_bind (Control.heedless_restore r) fun _ => heedless_bind Poll.heedless_start fun _ => heedless_pure _

theorem heedless_abandon : abandon.Heedless limit :=
  heedless_bind Poll.heedless_stop fun _ => heedless_bind Control.heedless_reset fun _ =>
    heedless_bind Configure.heedless_reset fun _ => Reconcile.heedless_forget

theorem heedless_reconcileNow : reconcileNow.Heedless limit := by
  refine heedless_rescue Control.heedless_reconcile fun f => ?_
  exact heedless_ite (heedless_bind (heedless_alarm _) fun _ => heedless_fail _) (heedless_fail _)

theorem heedless_close : close.Heedless limit := heedless_bind Poll.heedless_stop fun _ => Control.heedless_close

end Conduct

/-! ## Work in the background -/

namespace Reader

theorem heedless_report (id : String) (state : Option RunState) : (report id state).Heedless limit :=
  heedless_lift (Work.alongside_update fun _ _ => rfl)

theorem heedless_leave (number : Nat) : (leave number).Heedless limit := heedless_modify fun _ _ => rfl

theorem heedless_finish (number : Nat) (id : String) : (finish number id).Heedless limit :=
  heedless_bind (heedless_leave number) fun _ => heedless_report id none

theorem heedless_give (number : Nat) (id : String) (state : RunState) : (give number id state).Heedless limit :=
  heedless_bind (heedless_report _ _) fun _ =>
    heedless_ite (heedless_bind (heedless_finish _ _) fun _ => heedless_pure _) (heedless_pure _)

theorem heedless_begin (number : Nat) (id : String) (includeCurrent : Bool) :
    (begin number id includeCurrent).Heedless limit := by
  refine heedless_bind (heedless_modify fun _ _ => rfl) fun _ => heedless_ite ?_ (heedless_pure _)
  refine heedless_session_bind (fun s => ?_) fun _ _ => rfl
  cases s.state.check with
  | ok state => exact heedless_give number id state
  | error f => exact heedless_bind (heedless_leave number) fun _ => heedless_fail f

theorem heedless_round (number : Nat) (id : String) : (round number id).Heedless limit := by
  refine heedless_bind (heedless_perform rfl) fun w => ?_
  cases w with
  | back item =>
    cases item with
    | some state => exact heedless_give number id state
    | none => exact heedless_bind (heedless_finish number id) fun _ => heedless_pure _
  | cancelled => exact heedless_bind (heedless_leave number) fun _ => heedless_throw _

end Reader

/-- **The work in the background does not heed the notices.** -/
theorem Background.heedless (b : Background) : b.begin.Heedless limit ∧ b.round.Heedless limit := by
  cases b with
  | pollLoop => exact ⟨Poll.heedless_round, Poll.heedless_round⟩
  | reader number id includeCurrent =>
    exact ⟨Reader.heedless_begin number id includeCurrent, Reader.heedless_round number id⟩

/-! ## All that is asked -/

theorem heedless_quietly {op : Op Unit} (h : op.Heedless limit) : op.quietly.Heedless limit :=
  heedless_bind h fun _ => heedless_pure _

theorem WholeAction.heedless (a : WholeAction) : a.op.Heedless limit := by
  cases a with
  | begin => exact heedless_map Conduct.heedless_begin
  | launch order => exact heedless_map (Launch.heedless_order order)
  | cancel => exact heedless_quietly Poll.heedless_stop
  | abandon => exact heedless_quietly Conduct.heedless_abandon
  | reconcileNow => exact heedless_map Conduct.heedless_reconcileNow
  | page number size => exact heedless_map (heedless_session_bind (fun _ => heedless_ofExcept _) fun _ _ => rfl)
  | offers =>
    exact heedless_session_bind (fun _ => heedless_bind (heedless_ofExcept _) fun _ => heedless_pure _) fun _ _ => rfl
  | summary => exact heedless_session_bind (fun _ => heedless_pure _) fun _ _ => rfl
  | standing =>
    exact heedless_bind Control.heedless_snapshot fun _ =>
      heedless_session_bind (fun _ => heedless_pure _) fun _ _ => rfl
  | close => exact heedless_quietly Conduct.heedless_close
  | kept => exact heedless_session_bind (fun _ => heedless_pure _) fun _ _ => rfl
  | forget => exact heedless_quietly Reconcile.heedless_forget

theorem RunAction.heedless (a : RunAction) : a.op.Heedless limit := by
  cases a with
  | begin mode transfer shards instances => exact heedless_map (Control.heedless_begin _ _ _ _)
  | restore record => exact heedless_map (Control.heedless_restore record)
  | apply report => exact heedless_map (Control.heedless_apply report)
  | reset => exact heedless_quietly Control.heedless_reset
  | reconcile => exact heedless_map Control.heedless_reconcile
  | close => exact heedless_quietly Control.heedless_close

theorem PollAction.heedless (a : PollAction) : a.op.Heedless limit := by
  cases a with
  | start => exact heedless_quietly Poll.heedless_start
  | stop => exact heedless_quietly Poll.heedless_stop
  | requestStop => exact heedless_quietly Poll.heedless_requestStop
  | wait => exact heedless_quietly Poll.heedless_wait
  | once => exact heedless_quietly Poll.heedless_once
  | submit request => exact heedless_map (Launch.heedless_request request)

theorem ConfigureAction.heedless (a : ConfigureAction) : a.op.Heedless limit := by
  cases a with
  | target t transfer => exact heedless_map (Configure.heedless_set _)
  | sourceProfile name => exact heedless_map (Configure.heedless_setSourceProfile name)
  | targetProfile name => exact heedless_map (Configure.heedless_setTargetProfile name)
  | metadata path => exact heedless_map (Configure.heedless_set _)
  | streaming t sharded => exact heedless_map (Configure.heedless_setShared _ _ _)
  | staging t sharded => exact heedless_map (Configure.heedless_setShared _ _ _)
  | compute t sharded => exact heedless_map (Configure.heedless_setShared _ _ _)
  | shardEntry entry => exact heedless_map (Configure.heedless_addEntry entry)
  | shardText text => exact heedless_map (Configure.heedless_addText text)
  | addShard shard => exact heedless_quietly (Configure.heedless_addShard shard)
  | clearShards => exact heedless_quietly (Configure.heedless_modifyWizard _)
  | finalize => exact heedless_map Configure.heedless_finalizeShards
  | engine name => exact heedless_bind (Configure.heedless_modifyWizard _) fun _ => heedless_pure _
  | isSet fragment => exact heedless_session_bind (fun _ => heedless_pure _) fun _ _ => rfl
  | reset => exact heedless_quietly Configure.heedless_reset
  | snapshot => exact heedless_session_bind (fun _ => heedless_pure _) fun _ _ => rfl

theorem StoreAction.heedless (a : StoreAction) : a.op.Heedless limit := by
  refine heedless_site_bind (fun x => ?_) fun _ _ => rfl
  cases a with
  | load => exact heedless_map (Keep.heedless_load _)
  | save record => exact heedless_quietly (Keep.heedless_save _ record)
  | clear => exact heedless_quietly (Keep.heedless_clear _)
  | get name => exact heedless_map (Keep.heedless_getField _ name)
  | set name value => exact heedless_quietly (Keep.heedless_setField _ name value)

theorem ServiceAction.heedless (a : ServiceAction) : a.op.Heedless limit := by
  cases a with
  | status => exact heedless_map Call.heedless_readStatus
  | resources => exact heedless_map Call.heedless_readResources
  | summary => exact heedless_map Call.heedless_readSummary
  | write call => exact heedless_quietly (Call.heedless_write call)
  | visit => exact heedless_pure _

/-- The action looks at the notices or takes one away. -/
def Action.isNotice : Action → Bool
  | notice _ => true
  | _ => false

/-- **Nothing that is asked heeds the notices**, but what is asked of the notices themselves. -/
theorem Action.heedless {a : Action} (ha : a.isNotice = false) : a.op.Heedless limit := by
  cases a with
  | whole a => exact heedless_session_bind (fun _ => heedless_unless (b := PUnit.unit) a.heedless) fun _ _ => rfl
  | run a => exact a.heedless
  | poll a => exact a.heedless
  | configure a => exact a.heedless
  | notice a => cases ha
  | store a => exact a.heedless
  | service a => exact a.heedless

/-- Two results are alike: they are the same, or neither is a fault. -/
def Result.Like (r r' : Except Exit Result) : Prop := r.map (fun _ => ()) = r'.map fun _ => ()

theorem Board.dismissValue_eq (b : Board) (id : Value) : if id.isKey
    then ∃ c there, b.dismissValue id = .ok (c, there) ∧ c.ttl = b.ttl
    else b.dismissValue id = .error .illTyped := by
  unfold dismissValue
  split
  · split
    · exact ⟨_, _, rfl, rfl⟩
    · exact ⟨_, _, rfl, rfl⟩
  · rfl

/-- **Looking at the notices or taking one away** fails on one board if it fails on any. -/
theorem NoticeAction.alongside (a : NoticeAction) : Work.Alongside limit Result.Like a.op.run a.op.run := by
  -- What is put up is a board of each, and what is given says only that all went well.
  have hgiven : ∀ {b c : Board} {r r' : Result}, b.Raises limit → c.Raises limit →
      Work.Alongside limit Result.Like (do
        modify fun s => { s with board := b }
        return r : Op Result).run (do
        modify fun s => { s with board := c }
        return r' : Op Result).run := fun hb hc =>
    .look fun x _ _ _ _ => .change (y := x.onSession fun s => { s with board := _ }) hb hc (.done rfl)
  cases a with
  | visible => exact .look fun _ _ _ hx hb => hgiven (hx.of_ttl rfl) (hb.of_ttl rfl)
  | dismiss id =>
    refine .look fun x b _ hx hb => ?_
    have hx' := x.session.board.dismissValue_eq id
    have hb' := b.dismissValue_eq id
    show Work.Alongside limit Result.Like (ofExcept (x.session.board.dismissValue id) >>= _).run
      (ofExcept (b.dismissValue id) >>= _).run
    cases hkey : id.isKey with
    | true =>
      rw [hkey] at hx' hb'
      obtain ⟨c, there, hc, httl⟩ := hx'
      obtain ⟨c', there', hc', httl'⟩ := hb'
      rw [hc, hc']
      exact hgiven (hx.of_ttl httl) (hb.of_ttl httl')
    | false =>
      rw [hkey] at hx' hb'
      rw [hx', hb']
      exact .done rfl

end Cutover
