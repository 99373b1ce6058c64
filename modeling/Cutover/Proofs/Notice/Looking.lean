import Cutover.Proofs.Notice.Log

/-!
# Looking at a board

Whoever looks at a board makes it drop what has expired. Nothing that is replied later tells whether somebody looked,
but for a dismissal: it takes away whatever is still held, and what nobody has looked at since it expired still is.

* `Board.watched`, `Board.plain`: what a board was asked, with and without the looks that were put in between;
* `Board.overdue`: the notices that are held although they have expired;
* `Board.looks_unseen`: **only the dismissal of an overdue notice tells that somebody looked**.
-/

namespace Cutover

namespace Board

/-! ## Looks in between -/

/-- Something that a board was asked, or a look that was put in. -/
inductive Moment where
  | asked (e : Entry)
  | look (time : Int)

/-- A look is one that asks what is visible. -/
def Moment.entry : Moment → Entry
  | asked e => e
  | look time => ⟨time, .visible⟩

/-- What was asked anyway. -/
def Moment.asked? : Moment → Option Entry
  | asked e => some e
  | look _ => none

/-- What a board was asked, with the looks. -/
def watched (ms : List Moment) : List Entry := ms.map Moment.entry

/-- What a board was asked, without the looks. -/
def plain (ms : List Moment) : List Entry := ms.filterMap Moment.asked?

/-- The notices that are held although they have expired. -/
def overdue (b : Board) (log : List Entry) (now : Int) : List Notice := (held b log).filter fun n => n.isExpired now

variable {b : Board} {log : List Entry} {ms : List Moment} {e : Entry} {ends : Entry → Notice → Bool} {now : Int}
  {id : Value} {r r' : Reply}

theorem mem_watched (h : e ∈ plain ms) : e ∈ watched ms := by
  obtain ⟨m, hm, he⟩ := List.mem_filterMap.mp h
  cases m with
  | asked e' =>
    cases he
    exact List.mem_map_of_mem hm
  | look _ => cases he

/-! ## What no look changes -/

theorem asked_watched (ms : List Moment) : asked (watched ms) = asked (plain ms) := by
  induction ms with
  | nil => rfl
  | cons m rest ih =>
    cases m with
    | asked e =>
      show asked ([e] ++ watched rest) = asked ([e] ++ plain rest)
      rw [asked_append, asked_append, ih]
    | look time => exact ih

theorem registered_watched (ms : List Moment) : registered (watched ms) = registered (plain ms) := by
  unfold registered
  generalize ([] : List Listener) = ls
  induction ms generalizing ls with
  | nil => rfl
  | cons m rest ih =>
    cases m with
    | asked e => exact ih _
    | look _ => exact ih _

theorem any_watched (hblind : ∀ time n, ends ⟨time, .visible⟩ n = false) (ms : List Moment) (n : Notice) :
    (watched ms).any (ends · n) = (plain ms).any (ends · n) := by
  induction ms with
  | nil => rfl
  | cons m rest ih =>
    cases m with
    | asked e => exact congrArg _ ih
    | look time =>
      show (ends ⟨time, .visible⟩ n || (watched rest).any (ends · n)) = (plain rest).any (ends · n)
      rw [hblind, Bool.false_or, ih]

theorem raisedUnless_watched (hblind : ∀ time n, ends ⟨time, .visible⟩ n = false) (b : Board) (before : Nat)
    (ms : List Moment) : raisedUnless ends b before (watched ms) = raisedUnless ends b before (plain ms) := by
  induction ms generalizing before with
  | nil => rfl
  | cons m rest ih =>
    cases m with
    | asked e =>
      show _ ++ _ = _ ++ _
      refine congrArg₂ _ (congrArg _ (congrArg (Option.filter · _) (funext fun n => ?_))) (ih _)
      exact congrArg _ (any_watched hblind rest n)
    | look time => exact ih before

theorem raised_watched (b : Board) (ms : List Moment) : raised b (watched ms) = raised b (plain ms) :=
  raisedUnless_watched (fun _ _ => rfl) b 0 ms

theorem shown_watched (b : Board) (ms : List Moment) (now : Int) : shown b (watched ms) now = shown b (plain ms) now := by
  unfold shown standing
  rw [raisedUnless_watched fun _ _ => rfl]

/-! ## What a look may change -/

theorem toList_filter_sublist {α : Type} {o : Option α} {p q : α → Bool} (h : ∀ x, p x = true → q x = true) :
    (o.filter p).toList.Sublist (o.filter q).toList := by
  cases o with
  | none => exact .refl _
  | some x =>
    by_cases hp : p x = true
    · simp [Option.filter, hp, h x hp]
    · simp [Option.filter, hp]

/-- **A look puts an end to notices**, and brings none back. -/
theorem raisedUnless_sublist (ends : Entry → Notice → Bool) (b : Board) (before : Nat) (ms : List Moment) :
    (raisedUnless ends b before (watched ms)).Sublist (raisedUnless ends b before (plain ms)) := by
  induction ms generalizing before with
  | nil => exact .refl _
  | cons m rest ih =>
    cases m with
    | asked e =>
      refine List.Sublist.append (toList_filter_sublist fun n hkept => ?_) (ih _)
      rw [Bool.not_eq_true', List.any_eq_false] at hkept ⊢
      exact fun x hx => hkept x (mem_watched hx)
    | look time => exact ih before

theorem overdue_sublist (b : Board) (ms : List Moment) (now : Int) :
    (overdue b (watched ms) now).Sublist (overdue b (plain ms) now) :=
  (raisedUnless_sublist _ b 0 ms).filter _

theorem any_held (b : Board) (htimes : ∀ e ∈ log, e.time ≤ now) (id : Value) :
    (held b log).any (names id) = ((shown b log now).any (names id) || (overdue b log now).any (names id)) := by
  rw [← filter_held b htimes, overdue, List.any_filter, List.any_filter, Bool.eq_iff_iff, Bool.or_eq_true]
  simp only [List.any_eq_true, Bool.and_eq_true]
  constructor
  · rintro ⟨n, hn, hnames⟩
    cases hexpired : n.isExpired now with
    | false => exact .inl ⟨n, hn, by rw [hexpired, Bool.not_false], hnames⟩
    | true => exact .inr ⟨n, hn, hexpired, hnames⟩
  · rintro (⟨n, hn, -, hnames⟩ | ⟨n, hn, -, hnames⟩) <;> exact ⟨n, hn, hnames⟩

theorem held_look (b : Board) (htimes : ∀ e ∈ log, e.time ≤ now) : held b (log ++ [⟨now, .visible⟩]) = shown b log now := by
  rw [← filter_held b htimes, held, raisedUnless_concat]
  exact List.append_nil _

/-! ## What is replied -/

theorem told_watched (h : Told b (watched ms) e r) (h' : Told b (plain ms) e r')
    (hother : ∀ id, e.ask = .dismiss id → id.isKey = false) : r = r' := by
  have hhanded : handed (watched ms) = handed (plain ms) := by
    funext n
    rw [handed, handed, registered_watched]
  cases h with
  | transient hdue hn =>
    cases h' with
    | transient hdue' hn' =>
      cases hdue.symm.trans hdue'
      rw [hn, hn', asked_watched, hhanded]
    | undated hdue' => cases hdue.symm.trans hdue'
  | undated hdue =>
    cases h' with
    | transient hdue' _ => cases hdue.symm.trans hdue'
    | undated hdue' =>
      cases hdue.symm.trans hdue'
      rfl
  | persistent hn =>
    cases h' with
    | persistent hn' => rw [hn, hn', asked_watched, hhanded]
  | dismissed hkey => cases hkey.symm.trans (hother _ rfl)
  | illTyped hkey =>
    cases h' with
    | dismissed hkey' => cases hkey.symm.trans hkey'
    | illTyped => rfl
  | visible =>
    cases h' with
    | visible => rw [shown_watched]
  | history =>
    cases h' with
    | history => rw [raised_watched]
  | listen =>
    cases h' with
    | listen => rfl
  | unlisten =>
    cases h' with
    | unlisten => rfl

theorem Told.dismissal (h : Told b log e r) (hask : e.ask = .dismiss id) (hkey : id.isKey = true) :
    r = .dismissed (.ok ((held b log).any (names id))) := by
  cases h with
  | dismissed _ =>
    cases hask
    rfl
  | illTyped hkey' =>
    cases hask
    cases hkey.symm.trans hkey'
  | _ => cases hask

/-- **Only the dismissal of an overdue notice tells that somebody looked.** Whatever else is asked, the reply is the
same. A dismissal tells whether the notice is shown or overdue: the same are shown, and none are overdue that were not
without the looks. One right after a look tells whether the notice is shown. -/
theorem looks_unseen {p : NoticePolicy} (h : ofPolicy p = .ok b) (hclock : Clocked (watched ms ++ [e])) :
    ((∀ id, e.ask = .dismiss id → id.isKey = false) →
      (b.after (watched ms)).reply e = (b.after (plain ms)).reply e) ∧
    ∀ id, e.ask = .dismiss id → id.isKey = true →
      (b.after (watched ms)).reply e = .dismissed (.ok
        ((shown b (plain ms) e.time).any (names id) || (overdue b (watched ms) e.time).any (names id))) ∧
      (b.after (plain ms)).reply e = .dismissed (.ok
        ((shown b (plain ms) e.time).any (names id) || (overdue b (plain ms) e.time).any (names id))) ∧
      (overdue b (watched ms) e.time).Sublist (overdue b (plain ms) e.time) ∧
      (b.after (plain ms ++ [⟨e.time, .visible⟩])).reply e = .dismissed (.ok ((shown b (plain ms) e.time).any (names id))) := by
  have htimes : ∀ x ∈ watched ms, x.time ≤ e.time := fun x hx =>
    (List.pairwise_append.mp hclock).2.2 x hx e List.mem_cons_self
  have htimes' : ∀ x ∈ plain ms, x.time ≤ e.time := fun x hx => htimes x (mem_watched hx)
  have hlook : ∀ x ∈ plain ms ++ [⟨e.time, .visible⟩], x.time ≤ e.time := List.forall_mem_append.mpr
    ⟨htimes', fun x hx => List.mem_singleton.mp hx ▸ Int.le_refl _⟩
  have hwatched := (asLogged_after h (watched ms)).told e htimes
  have hplain := (asLogged_after h (plain ms)).told e htimes'
  have hlooked := (asLogged_after h (plain ms ++ [⟨e.time, .visible⟩])).told e hlook
  refine ⟨told_watched hwatched hplain, fun id hask hkey => ⟨?_, ?_, overdue_sublist b ms _, ?_⟩⟩
  · rw [hwatched.dismissal hask hkey, any_held b htimes, shown_watched]
  · rw [hplain.dismissal hask hkey, any_held b htimes']
  · rw [hlooked.dismissal hask hkey, held_look b htimes']

/-- A notice that stays five seconds, and a look after six. -/
def sampleMoments : List Moment := [.asked ⟨0, .transient (.text "started") .info⟩, .look 6000000]

/-- After seven seconds nothing is shown. The notice can be dismissed still, unless somebody looked. -/
theorem looks_unseen_sample :
    ofPolicy {} = .ok {} ∧ Clocked (watched sampleMoments ++ [⟨7000000, .dismiss (.whole 1)⟩]) ∧
      shown {} (plain sampleMoments) 7000000 = [] ∧
      (({} : Board).after (plain sampleMoments)).reply ⟨7000000, .dismiss (.whole 1)⟩ = .dismissed (.ok true) ∧
      (({} : Board).after (watched sampleMoments)).reply ⟨7000000, .dismiss (.whole 1)⟩ = .dismissed (.ok false) := by
  have hpolicy : ofPolicy {} = .ok {} := rfl
  have hclock : Clocked (watched sampleMoments ++ [⟨7000000, .dismiss (.whole 1)⟩]) := by
    unfold Clocked
    decide
  have hshown : shown {} (plain sampleMoments) 7000000 = [] := by decide +kernel
  obtain ⟨-, hdismissal⟩ := looks_unseen hpolicy hclock
  obtain ⟨hwatched, hplain, -, -⟩ := hdismissal _ rfl rfl
  refine ⟨hpolicy, hclock, hshown, hplain.trans ?_, hwatched.trans ?_⟩
  · have hoverdue : (overdue {} (plain sampleMoments) 7000000).any (names (.whole 1)) = true := by decide +kernel
    rw [hoverdue, Bool.or_true]
  · have hoverdue : overdue {} (watched sampleMoments) 7000000 = [] := by decide +kernel
    rw [hoverdue, hshown]
    rfl

end Board

end Cutover
