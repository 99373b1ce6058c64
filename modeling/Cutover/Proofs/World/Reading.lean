import Cutover.Proofs.World.Listening

/-!
# How far a reader has come

A reader reports each state that it is given, and its own end. It ends with the first state that is terminal, or
with the end that is published to all. So what it reports is what it is given, up to there.

* `upToEnd`: **what a reader reports of what it is given**;
* `Tiding`, `due?`: what is remembered of a history, and what a reader is to be given by that;
* `Reads`: **what a reader has reported, what lies before it, and what it is to be given**;
* `Reads.published`, `Reads.missed`, `Reads.interrupted`: it stays so when something is published, and when the
  reader is cancelled.
-/

namespace Cutover

/-! ## What a reader reports -/

/-- **What a reader reports of the items it is given**: each state up to the first that is terminal, and the
end. -/
def upToEnd : List (Option RunState) → List (Option RunState)
  | [] => []
  | none :: _ => [none]
  | some s :: rest => some s :: if s.phase.isTerminal then [none] else upToEnd rest

/-- No item is the end, and no state is terminal. -/
def IsOpen (items : List (Option RunState)) : Prop := ∀ x ∈ items, ∃ s, x = some s ∧ s.phase.isTerminal = false

/-- With this item a reader comes to its end. -/
def endsWith : Option RunState → Bool
  | none => true
  | some s => s.phase.isTerminal

section
variable {xs ys : List (Option RunState)} {x : Option RunState} {s : RunState}

theorem isOpen_nil : IsOpen [] := fun _ h => absurd h List.not_mem_nil

theorem isOpen_cons : IsOpen (x :: xs) ↔ (∃ s, x = some s ∧ s.phase.isTerminal = false) ∧ IsOpen xs :=
  List.forall_mem_cons

theorem upToEnd_append (h : IsOpen xs) (ys : List (Option RunState)) : upToEnd (xs ++ ys) = xs ++ upToEnd ys := by
  induction xs with
  | nil => rfl
  | cons x xs ih =>
    obtain ⟨⟨s, rfl, hs⟩, hxs⟩ := isOpen_cons.mp h
    simp [upToEnd, hs, ih hxs]

theorem upToEnd_of_isOpen (h : IsOpen xs) : upToEnd xs = xs := by
  have happend := upToEnd_append h []
  simpa [upToEnd] using happend

theorem upToEnd_begins (xs ys : List (Option RunState)) : upToEnd xs <+: upToEnd (xs ++ ys) := by
  induction xs with
  | nil => exact List.nil_prefix
  | cons x xs ih =>
    cases x with
    | none => exact List.prefix_refl _
    | some s =>
      simp only [List.cons_append, upToEnd]
      cases s.phase.isTerminal with
      | true => exact List.prefix_refl _
      | false => exact List.cons_prefix_cons.mpr ⟨rfl, ih⟩

theorem upToEnd_of_closed (h : none ∈ upToEnd xs) (ys : List (Option RunState)) :
    upToEnd (xs ++ ys) = upToEnd xs := by
  induction xs with
  | nil => exact absurd h List.not_mem_nil
  | cons x xs ih =>
    cases x with
    | none => rfl
    | some s =>
      simp only [List.cons_append, upToEnd] at h ⊢
      cases hs : s.phase.isTerminal with
      | true => rfl
      | false =>
        rw [hs] at h
        have hrest : none ∈ upToEnd xs := by simpa using h
        simp [ih hrest]

theorem upToEnd_of_ends (h : endsWith x = true) (ys : List (Option RunState)) :
    upToEnd (x :: ys) = upToEnd [x] ∧ none ∈ upToEnd [x] := by
  cases x with
  | none => exact ⟨rfl, List.mem_singleton_self _⟩
  | some s =>
    have hs : s.phase.isTerminal = true := h
    simp [upToEnd, hs]

theorem isOpen_of_not_ends (h : endsWith x = false) : IsOpen [x] := by
  cases x with
  | none => cases h
  | some s => exact isOpen_cons.mpr ⟨⟨s, rfl, h⟩, isOpen_nil⟩

/-- What is reported of an open list with anything after it begins with the list. -/
theorem prefix_of_isOpen (h : IsOpen xs) : xs <+: upToEnd (xs ++ ys) := by
  rw [upToEnd_append h]
  exact List.prefix_append _ _

end

/-! ## What is remembered of a history -/

/-- **What is remembered of a history** for its readers. -/
inductive Tiding where
  /-- A reader of a session took its place, and found the run in some state. -/
  | entered (session number : Nat) (state : RunState)
  /-- An item was published in a session. -/
  | published (session : Nat) (item : Option RunState)
  deriving DecidableEq

/-- The item that was published in a session. -/
def Tiding.item? (n : Nat) : Tiding → Option (Option RunState)
  | published m item => if m = n then some item else none
  | entered .. => none

/-- **What a reader is to be given** that took its place: the state that it found, if it wants that, and whatever
was published since. Nothing is due before. -/
def due? (n k : Nat) (includeCurrent : Bool) : List Tiding → Option (List (Option RunState))
  | [] => none
  | .entered m j state :: rest =>
    if m = n ∧ j = k then
      some ((if includeCurrent then [some state] else []) ++ rest.filterMap (Tiding.item? n))
    else due? n k includeCurrent rest
  | .published .. :: rest => due? n k includeCurrent rest

section
variable {n k : Nat} {includeCurrent : Bool}

theorem due?_append (log log' : List Tiding) : due? n k includeCurrent (log ++ log') =
    match due? n k includeCurrent log with
    | some due => some (due ++ log'.filterMap (Tiding.item? n))
    | none => due? n k includeCurrent log' := by
  induction log with
  | nil => rfl
  | cons tiding log ih =>
    cases tiding with
    | published m item => exact ih
    | entered m j state =>
      simp only [List.cons_append, due?]
      split
      · simp
      · exact ih

theorem due?_published (log : List Tiding) (m : Nat) (item : Option RunState) :
    due? n k includeCurrent (log ++ [.published m item]) =
      (due? n k includeCurrent log).map (· ++ if m = n then [item] else []) := by
  rw [due?_append]
  by_cases hmn : m = n
  · cases due? n k includeCurrent log <;> simp [Tiding.item?, hmn, due?]
  · cases due? n k includeCurrent log <;> simp [Tiding.item?, hmn, due?]

/-- A reader that takes its place is to be given the state that it finds, if it wants that. -/
theorem due?_entered {log : List Tiding} (h : due? n k includeCurrent log = none) (state : RunState) :
    due? n k includeCurrent (log ++ [.entered n k state]) = some (if includeCurrent then [some state] else []) := by
  rw [due?_append, h]
  simp [due?]

theorem due?_entered_other {m j : Nat} (h : m ≠ n ∨ j ≠ k) (log : List Tiding) (state : RunState) :
    due? m j includeCurrent (log ++ [.entered n k state]) = due? m j includeCurrent log := by
  rw [due?_append]
  have hother : ¬(n = m ∧ k = j) := fun hsame => h.elim (· hsame.1.symm) (· hsame.2.symm)
  cases due? m j includeCurrent log <;> simp [due?, Tiding.item?, hother]

end

/-! ## Rounds -/

/-- The rest of a round of a reader, once it is given something or cancelled. -/
def Reader.given (k : Nat) (id : String) : Waited (Option RunState) → Op Bool
  | .back (some s) => give k id s
  | .back none => do
    finish k id
    return false
  | .cancelled => do
    leave k
    throw .cancelled

/-- The rest of a round as the work of a task. -/
def Reader.rest (k : Nat) (id : String) (r : Waited (Option RunState)) : Job := .ofRound (given k id r)

theorem Reader.ofRound_round (k : Nat) (id : String) :
    Job.ofRound (Reader.round k id) = .ask (.receive k) (rest k id) := by
  unfold round rest
  refine congrArg (Work.ask (.receive k)) (funext fun r => ?_)
  cases r with
  | cancelled => rfl
  | back item => cases item <;> rfl

/-- **How far a reader has come**: what lies in its mailbox if it has a place, what it has reported, and what it is
to be given since it took its place. -/
inductive Reads (k : Nat) (id : String) (includeCurrent : Bool) (place : Option (List (Option RunState)))
    (heard : List (Option RunState)) (due : Option (List (Option RunState))) : Stage → Prop
  | coming (place_eq : place = none) (heard_eq : heard = []) (due_eq : due = none) :
    Reads k id includeCurrent place heard due (.fresh (.ofRound (Reader.begin k id includeCurrent)))
  | between {m : List (Option RunState)} (place_eq : place = some m) (due_eq : due = some (heard ++ m))
    (isOpen : IsOpen heard) : Reads k id includeCurrent place heard due (.fresh (.ofRound (Reader.round k id)))
  | waits (place_eq : place = some []) (due_eq : due = some heard) (isOpen : IsOpen heard) :
    Reads k id includeCurrent place heard due (.waiting (.receive k) (Reader.rest k id) none)
  | handed {m : List (Option RunState)} {item : Option RunState} (place_eq : place = some m)
    (due_eq : due = some (heard ++ item :: m)) (isOpen : IsOpen heard) :
    Reads k id includeCurrent place heard due (.woken (.receive k) (Reader.rest k id) (.back item))
  | leaving (upTo : heard <+: upToEnd (due.getD [])) :
    Reads k id includeCurrent place heard due (.woken (.receive k) (Reader.rest k id) .cancelled)
  | dropped (upTo : heard <+: upToEnd (due.getD [])) :
    Reads k id includeCurrent place heard due (.fresh (.done (.error .cancelled)))
  | atEnd {d : List (Option RunState)} (place_eq : place = none) (due_eq : due = some d)
    (heard_eq : heard = upToEnd d) (closed : none ∈ heard) :
    Reads k id includeCurrent place heard due (.ended (.ok .nothing))
  | cancelled (upTo : heard <+: upToEnd (due.getD [])) :
    Reads k id includeCurrent place heard due (.ended (.error .cancelled))

namespace Reads

open World

variable {k : Nat} {id : String} {includeCurrent : Bool} {place : Option (List (Option RunState))}
  {heard m m' : List (Option RunState)} {due : Option (List (Option RunState))} {stage stage' : Stage}
  {item : Option RunState}

theorem isListening (h : Reads k id includeCurrent place heard due stage) : stage.isListening = true := by
  cases h <;> rfl

theorem own (h : Reads k id includeCurrent place heard due stage) {j : Nat} {next : Waited (Option RunState) → Job}
    {alarm : Option (Alarm (Waited (Option RunState)))} (hstage : stage = .waiting (.receive j) next alarm) :
    j = k := by
  subst hstage
  cases h
  rfl

/-- **Nothing is reported that was not due**, nor in another order. -/
theorem upTo (h : Reads k id includeCurrent place heard due stage) : heard <+: upToEnd (due.getD []) := by
  cases h with
  | coming _ heard_eq _ =>
    rw [heard_eq]
    exact List.nil_prefix
  | between _ due_eq isOpen =>
    rw [due_eq]
    exact prefix_of_isOpen isOpen
  | waits _ due_eq isOpen =>
    simp only [due_eq, Option.getD_some, upToEnd_of_isOpen isOpen, List.prefix_refl]
  | handed _ due_eq isOpen =>
    rw [due_eq]
    exact prefix_of_isOpen isOpen
  | atEnd _ due_eq heard_eq _ =>
    rw [due_eq, heard_eq]
    exact List.prefix_refl _
  | leaving upTo => exact upTo
  | dropped upTo => exact upTo
  | cancelled upTo => exact upTo

/-- **A reader that is cancelled** has reported the beginning of what was due. -/
theorem interrupted (h : Reads k id includeCurrent place heard due stage) :
    Reads k id includeCurrent place heard due stage.cancelled := by
  have upTo := h.upTo
  cases h with
  | coming => exact .dropped upTo
  | between => exact .dropped upTo
  | waits => exact .leaving upTo
  | handed => exact .leaving upTo
  | leaving => exact .leaving upTo
  | dropped => exact .dropped upTo
  | atEnd place_eq due_eq heard_eq closed => exact .atEnd place_eq due_eq heard_eq closed
  | cancelled => exact .cancelled upTo

theorem upTo_more (h : heard <+: upToEnd (due.getD [])) :
    heard <+: upToEnd ((due.map (· ++ [item])).getD []) := by
  cases due with
  | none => exact h
  | some d => exact h.trans (upToEnd_begins d [item])

/-- **An item reaches a reader that has a place.** -/
theorem published (h : Reads k id includeCurrent (some m) heard due stage) (hgave : Gave k item m stage m' stage') :
    Reads k id includeCurrent (some m') heard (due.map (· ++ [item])) stage' := by
  cases hgave with
  | handed =>
    cases h with
    | waits place_eq due_eq isOpen =>
      obtain rfl := Option.some.inj place_eq
      exact .handed rfl (by rw [due_eq]; rfl) isOpen
  | put busy =>
    cases h with
    | coming place_eq => cases place_eq
    | between place_eq due_eq isOpen =>
      obtain rfl := Option.some.inj place_eq
      exact .between rfl (by rw [due_eq, Option.map_some, List.append_assoc]) isOpen
    | waits => exact absurd rfl (busy _ _)
    | handed place_eq due_eq isOpen =>
      obtain rfl := Option.some.inj place_eq
      exact .handed rfl (by rw [due_eq, Option.map_some, List.append_assoc, List.cons_append]) isOpen
    | leaving upTo => exact .leaving (upTo_more upTo)
    | dropped upTo => exact .dropped (upTo_more upTo)
    | atEnd place_eq => cases place_eq
    | cancelled upTo => exact .cancelled (upTo_more upTo)

/-- An item does not reach a reader that has no place, and changes nothing for it. -/
theorem missed (h : Reads k id includeCurrent none heard due stage) :
    Reads k id includeCurrent none heard (due.map (· ++ [item])) stage := by
  cases h with
  | coming place_eq heard_eq due_eq => exact .coming rfl heard_eq (by rw [due_eq]; rfl)
  | between place_eq => cases place_eq
  | waits place_eq => cases place_eq
  | handed place_eq => cases place_eq
  | leaving upTo => exact .leaving (upTo_more upTo)
  | dropped upTo => exact .dropped (upTo_more upTo)
  | @atEnd d place_eq due_eq heard_eq closed =>
    refine .atEnd (d := d ++ [item]) rfl (by rw [due_eq]; rfl) ?_ closed
    rw [heard_eq, upToEnd_of_closed (heard_eq ▸ closed)]
  | cancelled upTo => exact .cancelled (upTo_more upTo)

end Reads

end Cutover
