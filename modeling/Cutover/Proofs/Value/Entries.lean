import Cutover.Value

/-!
# Entries by name

Values are put under names, each name once: a value that is put under a name stands where the one before stood, or at
the end.

* `names_put`, `nodup_put`: the names afterwards;
* `mem_put`: the entries afterwards;
* `lookup_filter_of_ne`, `lookup_filter_self`: what stands under the names when one is taken out.
-/

namespace Cutover

variable {α : Type} {entries : List (String × α)}

theorem names_put (entries : List (String × α)) (key : String) (value : α) :
    (put entries key value).map Prod.fst =
      if key ∈ entries.map Prod.fst then entries.map Prod.fst else entries.map Prod.fst ++ [key] := by
  induction entries with
  | nil => rfl
  | cons entry rest ih =>
    obtain ⟨name, value'⟩ := entry
    by_cases hname : name = key
    · simp [put, hname]
    · have hne : key ≠ name := fun h => hname h.symm
      simp only [put, if_neg hname, List.map_cons, ih, List.mem_cons, hne, false_or]
      split <;> rfl

theorem nodup_put (h : (entries.map Prod.fst).Nodup) (key : String) (value : α) :
    ((put entries key value).map Prod.fst).Nodup := by
  rw [names_put]
  split
  · exact h
  next hnew =>
    refine List.nodup_append.mpr ⟨h, List.pairwise_singleton _ _, ?_⟩
    rintro name hname key' hkey rfl
    rw [List.mem_singleton.mp hkey] at hname
    exact hnew hname

theorem mem_put {key : String} {value : α} {entry : String × α} (h : entry ∈ put entries key value) :
    entry ∈ entries ∨ entry = (key, value) := by
  induction entries with
  | nil => exact .inr (List.mem_singleton.mp h)
  | cons first rest ih =>
    obtain ⟨name, value'⟩ := first
    rw [put] at h
    split at h
    next hname =>
      rcases List.mem_cons.mp h with rfl | hrest
      · exact .inr (by rw [hname])
      · exact .inl (List.mem_cons_of_mem _ hrest)
    next =>
      rcases List.mem_cons.mp h with rfl | hrest
      · exact .inl List.mem_cons_self
      · exact (ih hrest).imp_left (List.mem_cons_of_mem _)

theorem put_new {key : String} (h : key ∉ entries.map Prod.fst) (value : α) : put entries key value = entries ++ [(key, value)] := by
  induction entries with
  | nil => rfl
  | cons entry rest ih =>
    obtain ⟨name, value'⟩ := entry
    rw [List.map_cons, List.mem_cons, not_or] at h
    rw [put, if_neg fun hname => h.1 hname.symm, ih h.2, List.cons_append]

section
variable {κ β : Type} [BEq κ] [LawfulBEq κ] [DecidableEq κ] {key other : κ}

theorem lookup_filter_of_ne (l : List (κ × β)) (h : other ≠ key) :
    (l.filter fun e => e.1 ≠ key).lookup other = l.lookup other := by
  induction l with
  | nil => rfl
  | cons entry rest ih =>
    obtain ⟨name, value⟩ := entry
    by_cases hname : name = key
    · subst hname
      rw [List.filter_cons_of_neg (by simp), ih, List.lookup_cons, beq_false_of_ne h]
    · rw [List.filter_cons_of_pos (by simpa using hname), List.lookup_cons, List.lookup_cons, ih]

theorem lookup_filter_self (l : List (κ × β)) (key : κ) : (l.filter fun e => e.1 ≠ key).lookup key = none := by
  rw [List.lookup_eq_none_iff]
  intro entry hentry
  have hne : entry.1 ≠ key := by simpa using (List.mem_filter.mp hentry).2
  exact bne_iff_ne.mpr hne.symm

end

end Cutover
