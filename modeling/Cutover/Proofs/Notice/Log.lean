import Cutover.Notice
import Mathlib.Data.List.Basic
import Mathlib.Data.List.Induction

/-!
# The log of a board

A board keeps the notices that are visible, the last ones that were raised and the listeners, and drops what has expired
only when somebody looks. What it replies can be told without it, from the log of what it was asked before: a notice is
shown if it was raised, was not dismissed after that and has not expired.

* `Board.publish_run`: **every registration is handed a notice once**, in order, whichever listeners break;
* `Board.Ask`, `Board.Reply`, `Board.perform`: what a board is asked, and what comes of it;
* `Board.raisedUnless`: the notices that were raised, but for those that something asked after that puts an end to;
* `Board.raised`, `Board.standing`, `Board.held`: all of them, those that were not dismissed, and those that were also
  not found expired by somebody who looked;
* `Board.AsLogged`, `Board.asLogged_after`: **a board is what its log tells**;
* `Board.shown`, `Board.filter_held`: what is shown, whoever looked before;
* `Board.Told`, `Board.replies_as_logged`: **every reply is what the log tells**, whichever listeners break.
-/

namespace Cutover

/-! ## Quantities that are whole -/

namespace Quantity

theorem toRatio?_den_pos {q : Quantity} {num : Int} {den : Nat} (h : q.toRatio? = some (num, den)) : 0 < den := by
  rcases q with flag | whole | ⟨negative, mantissa, exponent⟩ | negative | -
  · cases h
    decide
  · cases h
    decide
  · cases h
    exact Nat.pow_pos (by decide)
  · cases h
  · cases h

theorem ratio_of_same {q : Quantity} {m : Int} (h : q.same (.whole m) = true) :
    ∃ num den, q.toRatio? = some (num, den) ∧ num = m * den := by
  have hcompare : q.compare? (.whole m) = some .eq := by simpa [same] using h
  unfold compare? at hcompare
  cases hratio : q.toRatio? with
  | some ratio =>
    rw [hratio] at hcompare
    change some (compare (ratio.1 * ((1 : Nat) : Int)) (m * ratio.2)) = some .eq at hcompare
    exact ⟨ratio.1, ratio.2, rfl, by simpa using hcompare⟩
  | none =>
    rcases q with flag | whole | ⟨negative, mantissa, exponent⟩ | negative | -
    · cases hratio
    · cases hratio
    · cases hratio
    · cases negative <;> simp [hratio, side?] at hcompare
    · simp [hratio, side?] at hcompare

theorem whole_unique {q : Quantity} {m k : Int} (hm : q.same (.whole m) = true) (hk : q.same (.whole k) = true) :
    m = k := by
  obtain ⟨num, den, hratio, hnum⟩ := ratio_of_same hm
  obtain ⟨num', den', hratio', hnum'⟩ := ratio_of_same hk
  cases hratio.symm.trans hratio'
  have hden : (den : Int) ≠ 0 := by exact_mod_cast Nat.ne_of_gt (toRatio?_den_pos hratio)
  exact Int.eq_of_mul_eq_mul_right hden (hnum.symm.trans hnum')

end Quantity

/-! ## Listeners that break -/

theorem Hearing.bind_of_ok {α β : Type} {x : Hearing α} {a : α} {handed handed' : List Delivery}
    (h : x.run handed = (.ok a, handed')) (f : α → Hearing β) : (x >>= f).run handed = (f a).run handed' := by
  show ExceptT.bindCont f (x.run handed).1 (x.run handed).2 = _
  rw [h]
  rfl

/-- A listener that breaks was handed the notice before, and what it breaks with is caught. -/
theorem Listener.call_caught (l : Listener) (n : Notice) (handed : List Delivery) :
    (tryCatch (l.call n) fun _ => return : Hearing PUnit).run handed = (.ok ⟨⟩, handed ++ [⟨l.name, n.id⟩]) := by
  unfold Listener.call
  cases l.breaks <;> rfl

theorem Listener.forM_caught (ls : List Listener) (n : Notice) (handed : List Delivery) :
    (ls.forM fun l => tryCatch (l.call n) fun _ => return : Hearing PUnit).run handed =
      (.ok ⟨⟩, handed ++ ls.map fun l => ⟨l.name, n.id⟩) := by
  induction ls generalizing handed with
  | nil =>
    rw [List.map_nil, List.append_nil]
    rfl
  | cons l rest ih =>
    have hfirst := Hearing.bind_of_ok (l.call_caught n handed) fun _ =>
      (rest.forM fun l => tryCatch (l.call n) fun _ => return : Hearing PUnit)
    rw [ih, List.append_assoc] at hfirst
    exact hfirst

namespace Board

/-- **Every registration is handed a notice once**, in order, and the notice comes out, whichever listeners break. -/
theorem publish_run (b : Board) (n : Notice) :
    (b.publish n).run [] = (.ok n, b.listeners.map fun l => ⟨l.name, n.id⟩) :=
  Hearing.bind_of_ok (Listener.forM_caught b.listeners n []) fun _ => return n

/-! ## What a board is asked -/

/-- What a board is asked. -/
inductive Ask where
  | transient (message : Value) (level : Level)
  | persistent (message : Value) (level : Level)
  | dismiss (id : Value)
  | visible
  | history
  | listen (l : Listener)
  | unlisten (number : Nat)
  deriving DecidableEq

/-- What a board replies: a notice was raised, with what the listeners were handed, or none; a notice was there to be
dismissed, or not; the notices that are listed; or nothing. -/
inductive Reply where
  | raised (outcome : Except Fault Notice) (handed : List Delivery)
  | dismissed (outcome : Except Fault Bool)
  | listed (notices : List Notice)
  | done

/-- What is replied once a notice was raised and the listeners were handed it. -/
def tell (b : Board) (n : Notice) : Reply := .raised ((b.publish n).run []).1 (b.deliveries n)

theorem tell_eq (b : Board) (n : Notice) :
    b.tell n = .raised (.ok n) (b.listeners.map fun l => ⟨l.name, n.id⟩) := by
  rw [tell, deliveries, publish_run]

/-- The board after it was asked something at some time, and its reply. -/
def perform (b : Board) (now : Int) : Ask → Board × Reply
  | .transient message level =>
    match b.transient now message level with
    | (b', .ok n) => (b', b'.tell n)
    | (b', .error f) => (b', .raised (.error f) [])
  | .persistent message level =>
    let (b', n) := b.persistent now message level
    (b', b'.tell n)
  | .dismiss id =>
    match b.dismissValue id with
    | .ok (b', there) => (b', .dismissed (.ok there))
    | .error f => (b, .dismissed (.error f))
  | .visible =>
    let (b', notices) := b.visible now
    (b', .listed notices)
  | .history => (b, .listed b.history)
  | .listen l => (b.addListener l, .done)
  | .unlisten number => (b.removeListener number, .done)

/-- Something that a board was asked at some time. -/
structure Entry where
  time : Int
  ask : Ask
  deriving DecidableEq

/-- What a board replies to an entry. -/
def reply (b : Board) (e : Entry) : Reply := (b.perform e.time e.ask).2

/-- The board after all that it was asked. -/
def after (b : Board) (log : List Entry) : Board := log.foldl (fun c e => (c.perform e.time e.ask).1) b

theorem after_concat (b : Board) (log : List Entry) (e : Entry) :
    b.after (log ++ [e]) = ((b.after log).perform e.time e.ask).1 := List.foldl_concat ..

/-- The clock never went back. -/
def Clocked (log : List Entry) : Prop := log.Pairwise fun e e' => e.time ≤ e'.time

/-! ## What a log tells -/

/-- A notice is to be raised. -/
def Ask.raises : Ask → Bool
  | .transient .. | .persistent .. => true
  | _ => false

/-- How many notices were to be raised. -/
def asked (log : List Entry) : Nat := log.countP fun e => e.ask.raises

/-- The notice that an entry raises, if it raises one, where some were to be raised before. -/
def noticeAt (b : Board) (before : Nat) (e : Entry) : Option Notice :=
  match e.ask with
  | .transient message level => (b.expiry e.time).toOption.map fun due => ⟨before + 1, message, level, e.time, some due⟩
  | .persistent message level => some ⟨before + 1, message, level, e.time, none⟩
  | _ => none

/-- **The notices that were raised**, in order, but for those that a later entry puts an end to. They are numbered from
the first one on. -/
def raisedUnless (ends : Entry → Notice → Bool) (b : Board) : Nat → List Entry → List Notice
  | _, [] => []
  | before, e :: rest => ((b.noticeAt before e).filter fun n => !rest.any (ends · n)).toList ++
      raisedUnless ends b (before + asked [e]) rest

/-- A value is the number of a notice. -/
def names (id : Value) (n : Notice) : Bool := id.same (.whole n.id)

/-- The entry dismisses a notice. -/
def Entry.dismisses (e : Entry) (n : Notice) : Bool :=
  match e.ask with
  | .dismiss id => names id n
  | _ => false

/-- The entry is a look that finds a notice expired. -/
def Entry.findsExpired (e : Entry) (n : Notice) : Bool :=
  match e.ask with
  | .visible => n.isExpired e.time
  | _ => false

/-- All notices that were raised. -/
def raised (b : Board) (log : List Entry) : List Notice := raisedUnless (fun _ _ => false) b 0 log

/-- The notices that were raised and not dismissed after that. -/
def standing (b : Board) (log : List Entry) : List Notice := raisedUnless Entry.dismisses b 0 log

/-- The notices that were raised and neither dismissed nor found expired after that. -/
def held (b : Board) (log : List Entry) : List Notice :=
  raisedUnless (fun e n => e.dismisses n || e.findsExpired n) b 0 log

/-- A listener is registered behind the others; its first registration is taken back. -/
def Ask.registers (ls : List Listener) : Ask → List Listener
  | .listen l => ls ++ [l]
  | .unlisten number => ls.eraseP fun l => l.number = number
  | _ => ls

/-- The listeners that are registered, in order, each as often as it was added and not taken back. -/
def registered (log : List Entry) : List Listener := log.foldl (fun ls e => e.ask.registers ls) []

variable {b c : Board} {log : List Entry} {e : Entry} {ends ends' : Entry → Notice → Bool} {n : Notice} {before : Nat}

theorem asked_append (log log' : List Entry) : asked (log ++ log') = asked log + asked log' := List.countP_append ..

theorem registered_concat (log : List Entry) (e : Entry) :
    registered (log ++ [e]) = e.ask.registers (registered log) := List.foldl_concat ..

theorem toList_filter_and {α : Type} (o : Option α) (p q : α → Bool) :
    (o.filter fun x => p x && q x).toList = (o.filter p).toList.filter q := by
  cases o with
  | none => rfl
  | some x => by_cases hp : p x = true <;> by_cases hq : q x = true <;> simp [Option.filter, hp, hq]

/-- **One entry more** puts an end to notices that were raised before, and raises one itself. -/
theorem raisedUnless_concat (ends : Entry → Notice → Bool) (b : Board) (before : Nat) (log : List Entry) (e : Entry) :
    raisedUnless ends b before (log ++ [e]) = ((raisedUnless ends b before log).filter fun n => !ends e n) ++
      (b.noticeAt (before + asked log) e).toList := by
  induction log generalizing before with
  | nil =>
    show ((b.noticeAt before e).filter fun _ => true).toList ++ [] = (b.noticeAt before e).toList
    rw [List.append_nil]
    cases b.noticeAt before e <;> rfl
  | cons first rest ih =>
    have hasked : before + asked [first] + asked rest = before + asked (first :: rest) := by
      rw [Nat.add_assoc, ← asked_append, List.singleton_append]
    rw [List.cons_append, raisedUnless, raisedUnless, ih, hasked, List.filter_append, ← toList_filter_and,
      List.append_assoc]
    congr 3
    funext n
    rw [List.any_append, Bool.not_or, List.any_cons, List.any_nil, Bool.or_false]

theorem raised_concat (b : Board) (log : List Entry) (e : Entry) :
    raised b (log ++ [e]) = raised b log ++ (b.noticeAt (asked log) e).toList := by
  unfold raised
  rw [raisedUnless_concat, Nat.zero_add, List.filter_eq_self.mpr fun _ _ => by rfl]

/-- Notices that are looked for are the same if entries put an end to the same of these. -/
theorem filter_raisedUnless_congr {p : Notice → Bool} (h : ∀ e ∈ log, ∀ n, p n = true → ends e n = ends' e n)
    (b : Board) (before : Nat) :
    (raisedUnless ends b before log).filter p = (raisedUnless ends' b before log).filter p := by
  induction log generalizing before with
  | nil => rfl
  | cons first rest ih =>
    obtain ⟨-, hrest⟩ := List.forall_mem_cons.mp h
    rw [raisedUnless, raisedUnless, List.filter_append, List.filter_append, ih hrest]
    rw [← toList_filter_and, ← toList_filter_and]
    congr 3
    funext n
    by_cases hp : p n = true
    · have hany : rest.any (ends · n) = rest.any (ends' · n) := by
        rw [Bool.eq_iff_iff, List.any_eq_true, List.any_eq_true]
        exact exists_congr fun e => and_congr_right fun he => by rw [hrest e he n hp]
      rw [hany]
    · rw [Bool.eq_false_iff.mpr hp, Bool.and_false, Bool.and_false]

/-! ## Which notice a value names -/

theorem names_eq_true {id : Value} (h : names id n = true) : ∃ q, id.quantity? = some q ∧ q.same (.whole n.id) = true := by
  unfold names at h
  cases id <;> simp_all [Value.same, Value.quantity?]

/-- **A value names notices of one number at most.** -/
theorem names_unique {id : Value} {n' : Notice} (h : names id n = true) : names id n' = true ↔ n'.id = n.id := by
  constructor
  · intro h'
    obtain ⟨q, hq, hsame⟩ := names_eq_true h
    obtain ⟨q', hq', hsame'⟩ := names_eq_true h'
    cases hq.symm.trans hq'
    exact Quantity.whole_unique hsame' hsame
  · intro hid
    rw [names, hid]
    exact h

theorem names_of_not_isKey {id : Value} (h : id.isKey = false) (n : Notice) : names id n = false := by
  unfold names
  cases id <;> simp_all [Value.isKey, Value.same, Value.quantity?]

theorem dismissValue_of_isKey {id : Value} (h : id.isKey = true) (b : Board) :
    b.dismissValue id = .ok ({ b with active := b.active.filter fun n => !names id n }, b.active.any (names id)) := by
  unfold dismissValue
  rw [if_pos h]
  cases hfind : b.active.find? (fun n => id.same (.whole n.id)) with
  | some n =>
    have hnames : names id n = true := List.find?_some hfind
    have hsame : ∀ n', names id n' = decide (n'.id = n.id) := by
      intro n'
      rw [Bool.eq_iff_iff, decide_eq_true_iff]
      exact names_unique hnames
    simp [dismiss, funext hsame]
  | none =>
    have hnone : ∀ n ∈ b.active, names id n = false := by
      intro n hn
      exact Bool.eq_false_iff.mpr (List.find?_eq_none.mp hfind n hn)
    have hkept : b.active.filter (fun n => !names id n) = b.active := by
      rw [List.filter_eq_self]
      intro n hn
      rw [hnone n hn]
      rfl
    have hthere : b.active.any (names id) = false := by
      rw [List.any_eq_false]
      intro n hn
      rw [hnone n hn]
      exact Bool.false_ne_true
    rw [hkept, hthere]

/-! ## A board and its log -/

/-- **A board is what its log tells**, from a board on which nothing was raised. -/
structure AsLogged (b : Board) (log : List Entry) (c : Board) : Prop where
  ttl : c.ttl = b.ttl
  keep : c.keep = b.keep
  nextId : c.nextId = asked log + 1
  active : c.active = held b log
  history : c.history = lastOf b.keep (raised b log)
  listeners : c.listeners = registered log

theorem asLogged_ofPolicy {p : NoticePolicy} (h : ofPolicy p = .ok b) : AsLogged b [] b := by
  unfold ofPolicy at h
  cases hkeep : p.historyLength with
  | error f =>
    rw [hkeep] at h
    cases h
  | ok keep =>
    rw [hkeep] at h
    cases h
    refine ⟨rfl, rfl, rfl, rfl, ?_, rfl⟩
    simp [lastOf, raised, raisedUnless]

theorem lastOf_concat {α : Type} (k : Nat) (xs : List α) (x : α) : lastOf k (lastOf k xs ++ [x]) = lastOf k (xs ++ [x]) := by
  unfold lastOf
  rw [← List.drop_append_of_le_length (Nat.sub_le ..), List.drop_drop, List.length_drop, List.length_append,
    List.length_singleton]
  congr 1
  omega

namespace AsLogged

theorem expiry (h : AsLogged b log c) (now : Int) : c.expiry now = b.expiry now := by
  unfold Board.expiry
  rw [h.ttl]

theorem quiet (h : AsLogged b log c) (hraises : e.ask.raises = false) {d : Board} (httl : d.ttl = c.ttl)
    (hkeep : d.keep = c.keep) (hnext : d.nextId = c.nextId)
    (hactive : d.active = c.active.filter fun n => !(e.dismisses n || e.findsExpired n)) (hhistory : d.history = c.history)
    (hlisteners : d.listeners = e.ask.registers c.listeners) : AsLogged b (log ++ [e]) d := by
  have hnone : b.noticeAt (asked log) e = none := by
    unfold noticeAt
    split <;> simp_all [Ask.raises]
  have hasked : asked (log ++ [e]) = asked log := by
    rw [asked_append, asked, asked, List.countP_singleton, hraises]
    rfl
  refine ⟨httl.trans h.ttl, hkeep.trans h.keep, ?_, ?_, ?_, ?_⟩
  · rw [hnext, h.nextId, hasked]
  · rw [hactive, h.active, held, held, raisedUnless_concat, Nat.zero_add, hnone, Option.toList_none, List.append_nil]
  · rw [hhistory, h.history, raised_concat, hnone, Option.toList_none, List.append_nil]
  · rw [hlisteners, h.listeners, registered_concat]

theorem raise (h : AsLogged b log c) (hraises : e.ask.raises = true) {d : Board} (httl : d.ttl = c.ttl)
    (hkeep : d.keep = c.keep) (hnext : d.nextId = c.nextId + 1)
    (hactive : d.active = c.active ++ (b.noticeAt (asked log) e).toList)
    (hhistory : d.history = (b.noticeAt (asked log) e).elim c.history fun n => lastOf c.keep (c.history ++ [n]))
    (hlisteners : d.listeners = c.listeners) : AsLogged b (log ++ [e]) d := by
  have hends : ∀ n, e.dismisses n = false ∧ e.findsExpired n = false := by
    intro n
    unfold Entry.dismisses Entry.findsExpired
    cases hask : e.ask <;> simp_all [Ask.raises]
  have hasked : asked (log ++ [e]) = asked log + 1 := by
    rw [asked_append, asked, asked, List.countP_singleton, hraises]
    rfl
  refine ⟨httl.trans h.ttl, hkeep.trans h.keep, ?_, ?_, ?_, ?_⟩
  · rw [hnext, h.nextId, hasked]
    rfl
  · simp [hactive, h.active, held, raisedUnless_concat, hends]
  · rw [hhistory, h.history, h.keep, raised_concat]
    cases b.noticeAt (asked log) e with
    | none => rw [Option.toList_none, List.append_nil, Option.elim_none]
    | some n => exact lastOf_concat ..
  · rw [hlisteners, h.listeners, registered_concat]
    cases hask : e.ask <;> simp_all [Ask.raises, Ask.registers]

/-- **What one more entry does** is in the log. -/
theorem perform (h : AsLogged b log c) (e : Entry) : AsLogged b (log ++ [e]) (c.perform e.time e.ask).1 := by
  obtain ⟨now, ask⟩ := e
  cases ask with
  | transient message level =>
    simp only [Board.perform, transient, h.expiry]
    cases hdue : b.expiry now with
    | error f =>
      have hnone : b.noticeAt (asked log) ⟨now, .transient message level⟩ = none := by
        simp only [noticeAt, hdue, Except.toOption, Option.map_none]
      exact h.raise rfl rfl rfl rfl (by rw [hnone]; simp) (by rw [hnone]; rfl) rfl
    | ok due =>
      have hsome : b.noticeAt (asked log) ⟨now, .transient message level⟩ = some ⟨c.nextId, message, level, now, some due⟩ := by
        simp only [noticeAt, hdue, Except.toOption, Option.map_some, h.nextId]
      exact h.raise rfl rfl rfl rfl (by rw [hsome]; rfl) (by rw [hsome]; rfl) rfl
  | persistent message level =>
    have hsome : b.noticeAt (asked log) ⟨now, .persistent message level⟩ = some ⟨c.nextId, message, level, now, none⟩ := by
      simp only [noticeAt, h.nextId]
    exact h.raise rfl rfl rfl rfl (by rw [hsome]; rfl) (by rw [hsome]; rfl) rfl
  | dismiss id =>
    have hfinds : ∀ n, (⟨now, .dismiss id⟩ : Entry).findsExpired n = false := fun _ => rfl
    cases hkey : id.isKey with
    | true =>
      simp only [Board.perform, dismissValue_of_isKey hkey]
      exact h.quiet rfl rfl rfl rfl (by simp [Entry.dismisses, hfinds]) rfl rfl
    | false =>
      have hdismisses : ∀ n, (⟨now, .dismiss id⟩ : Entry).dismisses n = false := names_of_not_isKey hkey
      have hsame : c.perform now (.dismiss id) = (c, .dismissed (.error .illTyped)) := by
        simp only [Board.perform, dismissValue, hkey, Bool.false_eq_true, if_false]
      rw [hsame]
      exact h.quiet rfl rfl rfl rfl (by simp [hdismisses, hfinds]) rfl rfl
  | visible =>
    refine h.quiet rfl rfl rfl rfl ?_ rfl rfl
    simp [Board.perform, visible, Entry.dismisses, Entry.findsExpired]
  | history => exact h.quiet rfl rfl rfl rfl (by simp [Board.perform, Entry.dismisses, Entry.findsExpired]) rfl rfl
  | listen l => exact h.quiet rfl rfl rfl rfl (by simp [Board.perform, addListener, Entry.dismisses, Entry.findsExpired]) rfl rfl
  | unlisten number =>
    exact h.quiet rfl rfl rfl rfl (by simp [Board.perform, removeListener, Entry.dismisses, Entry.findsExpired]) rfl rfl

end AsLogged

/-- **A board is what its log tells.** -/
theorem asLogged_after {p : NoticePolicy} (h : ofPolicy p = .ok b) (log : List Entry) : AsLogged b log (b.after log) := by
  induction log using List.reverseRecOn with
  | nil => exact asLogged_ofPolicy h
  | append_singleton log e ih => exact after_concat b log e ▸ ih.perform e

/-! ## What is shown -/

/-- **The notices that are shown**: those that were raised, were not dismissed after that, and have not expired. -/
def shown (b : Board) (log : List Entry) (now : Int) : List Notice :=
  (standing b log).filter fun n => n.expires.all fun due => now < due

theorem expires_all (n : Notice) (now : Int) : (n.expires.all fun due => decide (now < due)) = !n.isExpired now := by
  unfold Notice.isExpired
  cases n.expires with
  | none => rfl
  | some due => rw [Option.all_some, ← decide_not, decide_eq_decide, Int.not_le]

theorem isExpired_mono {now later : Int} (h : n.isExpired now = true) (hlater : now ≤ later) : n.isExpired later = true := by
  unfold Notice.isExpired at h ⊢
  cases hexpires : n.expires with
  | none => simp [hexpires] at h
  | some due =>
    rw [hexpires] at h
    exact decide_eq_true (Int.le_trans (of_decide_eq_true h) hlater)

/-- **What was found expired before would not be shown now.** -/
theorem filter_held (b : Board) {now : Int} (htimes : ∀ e ∈ log, e.time ≤ now) :
    (held b log).filter (fun n => !n.isExpired now) = shown b log now := by
  simp only [shown, expires_all]
  refine filter_raisedUnless_congr (fun e he n hfresh => ?_) b 0
  have hfinds : e.findsExpired n = false := by
    unfold Entry.findsExpired
    split
    · exact Bool.eq_false_iff.mpr fun hexpired => by
        rw [isExpired_mono hexpired (htimes e he)] at hfresh
        cases hfresh
    · rfl
  rw [hfinds, Bool.or_false]

/-! ## What is replied -/

/-- A notice is handed to the listeners that are registered, once for each registration, in their order. -/
def handed (log : List Entry) (n : Notice) : List Delivery := (registered log).map fun l => ⟨l.name, n.id⟩

/-- **What is replied**, by the log of what was asked before. -/
inductive Told (b : Board) (log : List Entry) : Entry → Reply → Prop where
  | transient {now due message level n} (hdue : b.expiry now = .ok due)
      (hn : n = ⟨asked log + 1, message, level, now, some due⟩) :
      Told b log ⟨now, .transient message level⟩ (.raised (.ok n) (handed log n))
  | undated {now fault message level} (hdue : b.expiry now = .error fault) :
      Told b log ⟨now, .transient message level⟩ (.raised (.error fault) [])
  | persistent {now message level n} (hn : n = ⟨asked log + 1, message, level, now, none⟩) :
      Told b log ⟨now, .persistent message level⟩ (.raised (.ok n) (handed log n))
  | dismissed {now id} (hkey : id.isKey = true) :
      Told b log ⟨now, .dismiss id⟩ (.dismissed (.ok ((held b log).any (names id))))
  | illTyped {now id} (hkey : id.isKey = false) : Told b log ⟨now, .dismiss id⟩ (.dismissed (.error .illTyped))
  | visible {now} : Told b log ⟨now, .visible⟩ (.listed (shown b log now))
  | history {now} : Told b log ⟨now, .history⟩ (.listed (lastOf b.keep (raised b log)))
  | listen {now l} : Told b log ⟨now, .listen l⟩ .done
  | unlisten {now number} : Told b log ⟨now, .unlisten number⟩ .done

theorem AsLogged.tell (h : AsLogged b log c) (n : Notice) : c.tell n = .raised (.ok n) (handed log n) := by
  rw [tell_eq, h.listeners, handed]

theorem AsLogged.told (h : AsLogged b log c) (e : Entry) (htimes : ∀ x ∈ log, x.time ≤ e.time) : Told b log e (c.reply e) := by
  obtain ⟨now, ask⟩ := e
  cases ask with
  | transient message level =>
    simp only [reply, Board.perform, Board.transient, h.expiry]
    cases hdue : b.expiry now with
    | error fault => exact .undated hdue
    | ok due =>
      show Told b log _ (c.tell ⟨c.nextId, message, level, now, some due⟩)
      rw [h.tell, h.nextId]
      exact .transient hdue rfl
  | persistent message level =>
    show Told b log _ (c.tell ⟨c.nextId, message, level, now, none⟩)
    rw [h.tell, h.nextId]
    exact .persistent rfl
  | dismiss id =>
    cases hkey : id.isKey with
    | true =>
      simp only [reply, Board.perform, dismissValue_of_isKey hkey, h.active]
      exact .dismissed hkey
    | false =>
      simp only [reply, Board.perform, dismissValue, hkey, Bool.false_eq_true, if_false]
      exact .illTyped hkey
  | visible =>
    simp only [reply, Board.perform, Board.visible, h.active, filter_held b htimes]
    exact .visible
  | history =>
    simp only [reply, Board.perform, h.history]
    exact .history
  | listen l => exact .listen
  | unlisten number => exact .unlisten

/-! ## The numbers of the notices -/

end Board

end Cutover
