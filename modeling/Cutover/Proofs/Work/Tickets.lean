import Cutover.Proofs.Value.Entries
import Cutover.Session.Gate

/-!
# Tickets of a gate

Tasks stand in the queue of a gate with tickets; some may withdraw before it is their turn. A gate stays orderly
whatever is done at it: nobody stands in the queue twice, and only the first of it is let in, where nobody is inside.

* `Gate.ticket?`: the ticket of a task;
* `Gate.Orderly`: **a gate in order**;
* `Gate.Prompt`: a gate that lets nobody wait for nothing;
* `Gate.Passes`: how a gate passes on to the first of its queue when somebody leaves it;
* `Gate.Orderly.queueUp`, `Gate.Orderly.letIn`, `Gate.Orderly.withdraw`, `Gate.Orderly.leave`, `Gate.Orderly.giveUp`:
  what is done at a gate leaves it in order.
-/

namespace Cutover.Gate

variable {g g' : Gate} {t i : Nat} {who : Option Nat}

/-- The ticket of a task that stands in the queue. -/
def ticket? (g : Gate) (t : Nat) : Option Ticket := g.queue.lookup t

/-- **A gate in order**: nobody stands in the queue twice, and only the first of it was let in, where nobody is
inside. -/
structure Orderly (g : Gate) : Prop where
  nodup : (g.queue.map Prod.fst).Nodup
  first : ∀ e ∈ g.queue.tail, e.2 ≠ .granted
  free : g.held = true → ∀ e ∈ g.queue, e.2 ≠ .granted

/-- **A prompt gate**: where nobody is inside, whoever stands first does not wait any more. -/
def Prompt (g : Gate) : Prop := g.held = false → ∀ u, g.queue.head? ≠ some (u, .waiting)

theorem prompt_of_held (h : g.held = true) : g.Prompt := fun hfree => by cases h.symm.trans hfree

theorem orderly_empty : Orderly {} := ⟨List.nodup_nil, fun _ h => (List.not_mem_nil h).elim, fun h => by cases h⟩

theorem mem_of_ticket? {k : Ticket} (h : g.ticket? t = some k) : (t, k) ∈ g.queue := by
  obtain ⟨before, after, hqueue, -⟩ := List.lookup_eq_some_iff.mp h
  rw [hqueue]
  exact List.mem_append_right _ List.mem_cons_self

theorem not_mem_of_ticket? (h : g.ticket? t = none) : t ∉ g.queue.map Prod.fst := by
  intro hmem
  obtain ⟨e, he, rfl⟩ := List.mem_map.mp hmem
  exact bne_iff_ne.mp (List.lookup_eq_none_iff.mp h e he) rfl

/-- **Whoever was let in finds nobody inside**, and is the only one. -/
theorem Orderly.granted (h : g.Orderly) (ht : g.ticket? t = some .granted) :
    g.held = false ∧ ∃ rest, g.queue = (t, .granted) :: rest := by
  have hmem := mem_of_ticket? ht
  constructor
  · cases hheld : g.held with
    | false => rfl
    | true => exact absurd rfl (h.free hheld _ hmem)
  · cases hqueue : g.queue with
    | nil =>
      rw [hqueue] at hmem
      exact (List.not_mem_nil hmem).elim
    | cons e rest =>
      rw [hqueue] at hmem
      rcases List.mem_cons.mp hmem with rfl | hrest
      · exact ⟨rest, rfl⟩
      · have hfirst := h.first
        rw [hqueue] at hfirst
        exact absurd rfl (hfirst _ hrest)

theorem Orderly.granted_unique (h : g.Orderly) (ht : g.ticket? t = some .granted) (hi : g.ticket? i = some .granted) :
    t = i := by
  obtain ⟨-, rest, hqueue⟩ := h.granted ht
  obtain ⟨-, rest', hqueue'⟩ := h.granted hi
  rw [hqueue] at hqueue'
  cases hqueue'
  rfl

/-! ## Going in at once -/

theorem enter?_some (h : g.enter? = some g') :
    g' = { g with held := true } ∧ g.held = false ∧ ∀ e ∈ g.queue, e.2 ≠ .granted := by
  unfold enter? at h
  split at h
  next hfree =>
    simp only [isFree, Bool.and_eq_true, Bool.not_eq_true', List.all_eq_true, decide_eq_true_eq] at hfree
    cases h
    exact ⟨rfl, hfree.1, fun e he hgranted => by cases (hfree.2 e he).symm.trans hgranted⟩
  next => cases h

theorem Orderly.enter (h : g.Orderly) (henter : g.enter? = some g') : g'.Orderly ∧ g'.held = true ∧
    ∀ i, g'.ticket? i = g.ticket? i := by
  obtain ⟨rfl, -, hnone⟩ := enter?_some henter
  exact ⟨⟨h.nodup, h.first, fun _ => hnone⟩, rfl, fun _ => rfl⟩

/-! ## Standing in line -/

theorem Orderly.queueUp (h : g.Orderly) (ht : g.ticket? t = none) : (g.queueUp t).Orderly where
  nodup := by
    rw [Gate.queueUp, List.map_append]
    refine List.nodup_append.mpr ⟨h.nodup, List.pairwise_singleton _ _, ?_⟩
    rintro a ha b hb rfl
    rw [List.mem_singleton.mp hb] at ha
    exact not_mem_of_ticket? ht ha
  first e he := by
    have he' : e ∈ g.queue.tail ∨ e = (t, .waiting) := by
      rw [Gate.queueUp] at he
      cases hqueue : g.queue with
      | nil =>
        rw [hqueue] at he
        exact (List.not_mem_nil he).elim
      | cons first rest =>
        rw [hqueue] at he
        exact (List.mem_append.mp he).imp_right List.mem_singleton.mp
    rcases he' with he | rfl
    · exact h.first e he
    · exact fun hgranted => by cases hgranted
  free hheld e he := by
    rcases List.mem_append.mp he with he | he
    · exact h.free hheld e he
    · rw [List.mem_singleton.mp he]
      exact fun hgranted => by cases hgranted

theorem ticket?_queueUp (ht : g.ticket? t = none) (i : Nat) :
    (g.queueUp t).ticket? i = if i = t then some .waiting else g.ticket? i := by
  rw [ticket?, Gate.queueUp, List.lookup_append]
  by_cases hit : i = t
  · subst hit
    have hnone : g.queue.lookup i = none := ht
    rw [if_pos rfl, hnone, Option.none_or, List.lookup_cons_self]
  · rw [if_neg hit, List.lookup_cons, beq_false_of_ne hit]
    exact Option.or_none

theorem Prompt.queueUp (h : g.Prompt) (hclosed : g.enter? = none) (t : Nat) : (g.queueUp t).Prompt := by
  intro hfree u hu
  refine h hfree u ?_
  cases hqueue : g.queue with
  | nil =>
    have hopen : g.isFree = true := by
      have hheld : g.held = false := hfree
      rw [isFree, hqueue, hheld]
      rfl
    rw [enter?, if_pos hopen] at hclosed
    cases hclosed
  | cons first rest =>
    rw [Gate.queueUp, hqueue] at hu
    exact hu

theorem mem_tail_filter {l : List (Nat × Ticket)} {p : Nat × Ticket → Bool} {e : Nat × Ticket}
    (h : e ∈ (l.filter p).tail) : e ∈ l.tail := by
  cases l with
  | nil => exact (List.not_mem_nil h).elim
  | cons first rest =>
    by_cases hp : p first = true
    · rw [List.filter_cons_of_pos hp] at h
      exact (List.mem_filter.mp h).1
    · rw [List.filter_cons_of_neg hp] at h
      exact (List.mem_filter.mp (List.mem_of_mem_tail h)).1

/-- The gate without a task in its queue. -/
def without (g : Gate) (t : Nat) : Gate := { g with queue := g.queue.filter fun e => e.1 ≠ t }

theorem Orderly.without (h : g.Orderly) (t : Nat) : (g.without t).Orderly where
  nodup := h.nodup.sublist (List.filter_sublist.map _)
  first _ he := h.first _ (mem_tail_filter he)
  free hheld _ he := h.free hheld _ (List.mem_filter.mp he).1

theorem ticket?_without (g : Gate) (t i : Nat) : (g.without t).ticket? i = if i = t then none else g.ticket? i := by
  by_cases hit : i = t
  · rw [if_pos hit, hit]
    exact lookup_filter_self _ _
  · rw [if_neg hit]
    exact lookup_filter_of_ne _ hit

/-- **Who was let in goes in.** -/
theorem Orderly.letIn (h : g.Orderly) (ht : g.ticket? t = some .granted) : (g.letIn t).Orderly := by
  refine ⟨(h.without t).nodup, (h.without t).first, fun _ e he hgranted => ?_⟩
  obtain ⟨hmem, hne⟩ := List.mem_filter.mp he
  obtain ⟨-, rest, hqueue⟩ := h.granted ht
  have hfirst := h.first
  rw [hqueue] at hmem hfirst
  rcases List.mem_cons.mp hmem with rfl | hrest
  · simp at hne
  · exact hfirst e hrest hgranted

theorem ticket?_letIn (g : Gate) (t i : Nat) : (g.letIn t).ticket? i = if i = t then none else g.ticket? i :=
  ticket?_without g t i

theorem withdraw_queue (g : Gate) (t : Nat) : (g.withdraw t).queue.map Prod.fst = g.queue.map Prod.fst := by
  rw [withdraw, List.map_map]
  refine List.map_congr_left fun e _ => ?_
  show (if e.1 = t then (t, Ticket.withdrawn) else e).1 = e.1
  split
  next hit => exact hit.symm
  next => rfl

theorem granted_of_mem_withdraw {l : List (Nat × Ticket)} {e : Nat × Ticket}
    (he : e ∈ l.map fun e => if e.1 = t then (t, Ticket.withdrawn) else e) (hgranted : e.2 = .granted) : e ∈ l := by
  obtain ⟨before, hbefore, heq⟩ := List.mem_map.mp he
  split at heq
  · subst heq
    cases hgranted
  · exact heq ▸ hbefore

theorem Orderly.withdraw (h : g.Orderly) (t : Nat) : (g.withdraw t).Orderly where
  nodup := by
    rw [withdraw_queue]
    exact h.nodup
  first e he hgranted := by
    rw [Gate.withdraw, ← List.map_tail] at he
    exact h.first e (granted_of_mem_withdraw he hgranted) hgranted
  free hheld e he hgranted := h.free hheld e (granted_of_mem_withdraw he hgranted) hgranted

theorem Prompt.withdraw (h : g.Prompt) (t : Nat) : (g.withdraw t).Prompt := by
  intro hfree u hu
  rw [Gate.withdraw, List.head?_map] at hu
  obtain ⟨e, he, hsame⟩ := Option.map_eq_some_iff.mp hu
  split at hsame
  · cases hsame
  · exact h hfree u (hsame ▸ he)

theorem ticket?_withdraw (g : Gate) (t i : Nat) :
    (g.withdraw t).ticket? i = if i = t then (g.ticket? t).map fun _ => .withdrawn else g.ticket? i := by
  rw [ticket?, ticket?, ticket?, Gate.withdraw]
  induction g.queue with
  | nil => split <;> rfl
  | cons first rest ih =>
    obtain ⟨j, k⟩ := first
    rw [List.map_cons]
    by_cases hjt : j = t
    · subst hjt
      rw [if_pos rfl, List.lookup_cons, List.lookup_cons, List.lookup_cons, beq_self_eq_true]
      by_cases hij : i = j
      · rw [if_pos hij, hij, beq_self_eq_true]
        rfl
      · rw [if_neg hij, beq_false_of_ne hij]
        exact ih.trans (if_neg hij)
    · rw [if_neg hjt, List.lookup_cons, List.lookup_cons, List.lookup_cons, beq_false_of_ne (Ne.symm hjt)]
      by_cases hij : i = j
      · have hit : i ≠ t := fun hit => hjt (hij.symm.trans hit)
        rw [if_neg hit, hij, beq_self_eq_true]
      · rw [beq_false_of_ne hij]
        exact ih

/-! ## Leaving -/

/-- **A gate passes on** to the first of its queue, if that still waits: it is let in, and nobody else is. -/
structure Passes (g g' : Gate) (who : Option Nat) : Prop where
  orderly : g'.Orderly
  held : g'.held = g.held
  ticket : ∀ i, g'.ticket? i = if who = some i then some .granted else g.ticket? i
  waited : ∀ u, who = some u → g.ticket? u = some .waiting
  prompt : g'.Prompt

theorem Orderly.callFirst (h : g.Orderly) (hheld : g.held = false) : Passes g g.callFirst.1 g.callFirst.2 := by
  unfold Gate.callFirst
  split
  next u rest hqueue =>
    have hnodup := h.nodup
    have hfirst := h.first
    rw [hqueue] at hnodup hfirst
    refine ⟨⟨hnodup, hfirst, fun hheld' => absurd (hheld.symm.trans hheld') Bool.false_ne_true⟩, rfl, fun i => ?_,
      fun v hv => ?_, fun _ v hv => ?_⟩
    · rw [ticket?, ticket?, hqueue, List.lookup_cons, List.lookup_cons]
      by_cases hiu : i = u
      · rw [hiu, beq_self_eq_true, if_pos rfl]
      · rw [beq_false_of_ne hiu, if_neg fun hsame => hiu (Option.some.inj hsame).symm]
    · cases hv
      rw [ticket?, hqueue, List.lookup_cons_self]
    · cases hv
  next hother =>
    refine ⟨h, rfl, fun i => (if_neg fun hnone => by cases hnone).symm, fun v hv => (by cases hv), fun _ v hv => ?_⟩
    obtain ⟨rest, hqueue⟩ := List.head?_eq_some_iff.mp hv
    exact hother v rest hqueue

/-- **Whoever is inside leaves**, and the gate passes on. -/
theorem Orderly.leave (h : g.Orderly) : Passes { g with held := false } g.leave.1 g.leave.2 :=
  callFirst ⟨h.nodup, h.first, fun hnow => by cases hnow⟩ rfl

/-- **A task leaves the queue**, and the gate passes on unless somebody is inside. -/
theorem Orderly.giveUp (h : g.Orderly) (t : Nat) :
    (g.giveUp t = (g.without t, none) ∧ g.held = true) ∨
      g.held = false ∧ Passes (g.without t) (g.giveUp t).1 (g.giveUp t).2 := by
  cases hheld : g.held with
  | true => exact .inl ⟨if_pos hheld, rfl⟩
  | false =>
    have hcalls : g.giveUp t = (g.without t).callFirst := if_neg (by simp [hheld])
    rw [hcalls]
    exact .inr ⟨rfl, (h.without t).callFirst hheld⟩

end Cutover.Gate
