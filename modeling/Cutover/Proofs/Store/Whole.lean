import Cutover.Store

/-!
# The whole record in the store

Saving and clearing do what they say in every kind of store, and leave the failures alone that are
put in the way of a store.

* `Storage.Keeps`: what no operation on the record changes;
* `Storage.save_spec`, `Storage.clear_spec`: saving and clearing;
* `Record.encode_names`: a record is stored under distinct names.
-/

namespace Cutover

/-! ## Rows -/

namespace Connection

theorem foldlM_insert {c : Connection} {t u : Table} (hc : c.working = some t)
    (hnames : ((t ++ u).map Prod.fst).Nodup) :
    u.foldlM insert c = .ok { c with working := some (t ++ u) } := by
  induction u generalizing c t with
  | nil => rw [List.append_nil, ← hc]; rfl
  | cons row rest ih =>
    have hnew : t.lookup row.1 = none := by
      rw [List.lookup_eq_none_iff]
      intro r hr
      rw [List.map_append, List.map_cons] at hnames
      simpa using fun h : row.1 = r.1 => (List.nodup_append.mp hnames).2.2 r.1
        (List.mem_map_of_mem hr) row.1 List.mem_cons_self h.symm
    have hinsert : insert c row = .ok { c with working := some (t ++ [row]) } := by
      simp [insert, rows, hc, hnew, bind, Except.bind, pure, Except.pure]
    rw [List.foldlM_cons, hinsert]
    have hrest := ih (c := { c with working := some (t ++ [row]) }) (t := t ++ [row]) rfl
      (by rw [List.append_assoc]; exact hnames)
    rw [List.append_assoc] at hrest
    exact hrest

end Connection

namespace Database

theorem working_ensureTable (d : Database) :
    ((Connection.ofDatabase d).ensureTable).working = some (d.rows.getD []) := by
  rcases d with ⟨_ | t⟩ <;> rfl

theorem load_eq (d : Database) : d.load = (.ok (d.rows.getD []), ⟨some (d.rows.getD [])⟩) := by
  rcases d with ⟨_ | t⟩ <;> rfl

theorem save_eq (d : Database) {t : Table} (hnames : (t.map Prod.fst).Nodup) :
    d.save t = (.ok (), ⟨some t⟩) := by
  unfold save run
  simp only [Connection.deleteAll, Connection.rows, working_ensureTable]
  have hinsert := Connection.foldlM_insert (u := t) (t := [])
    (c := { (Connection.ofDatabase d).ensureTable with working := some [] }) rfl hnames
  simp only [bind, Except.bind, pure, Except.pure] at hinsert ⊢
  rw [hinsert]
  rfl

theorem clear_eq (d : Database) : d.clear = (.ok (), ⟨some []⟩) := by
  rcases d with ⟨_ | t⟩ <;> rfl

end Database

/-! ## Stores -/

namespace Storage

variable {s s' : Storage} {n : Nat} {t : Table}

/-- What no operation on the record changes: the kind of the store, how many there are, and what is put
in their way. -/
structure Keeps (s s' : Storage) : Prop where
  kind : s'.kind = s.kind
  count : s'.stores.length = s.stores.length
  faults : ∀ n, s'.faults n = s.faults n

theorem Keeps.refl (s : Storage) : s.Keeps s := ⟨rfl, rfl, fun _ => rfl⟩

theorem Keeps.trans {s'' : Storage} (h : s.Keeps s') (h' : s'.Keeps s'') : s.Keeps s'' :=
  ⟨h'.kind.trans h.kind, h'.count.trans h.count, fun n => (h'.faults n).trans (h.faults n)⟩

theorem keeps_setMemory (s : Storage) (n : Nat) (t : Table) : s.Keeps (s.setMemory n t) := by
  refine ⟨rfl, by simp [setMemory], fun m => ?_⟩
  simp only [faults, store, setMemory, List.getD_eq_getElem?_getD, List.getElem?_modify]
  rcases s.stores[m]? with _ | o
  · rfl
  · by_cases h : n = m <;> simp [h]

theorem memory_setMemory (hn : n < s.stores.length) (t : Table) :
    (s.setMemory n t).memory n = t := by
  simp [memory, store, setMemory, hn]

theorem keeps_save (s : Storage) (n : Nat) (t : Table) : s.Keeps (s.save n t).2 := by
  unfold save
  split
  · exact keeps_setMemory s n t
  · exact ⟨rfl, rfl, fun _ => rfl⟩

theorem keeps_clear (s : Storage) (n : Nat) : s.Keeps (s.clear n).2 := by
  unfold clear
  split
  · exact keeps_setMemory s n []
  · exact ⟨rfl, rfl, fun _ => rfl⟩

/-- **A record that is saved is what is stored.** -/
theorem save_spec (hn : n < s.stores.length) (hnames : (t.map Prod.fst).Nodup) :
    (s.save n t).1 = .ok () ∧ (s.save n t).2.table n = t := by
  unfold save
  cases hk : s.kind with
  | memory =>
    refine ⟨rfl, ?_⟩
    rw [table, show (s.setMemory n t).kind = .memory from hk]
    exact memory_setMemory hn t
  | rows =>
    simp only [Database.save_eq _ hnames]
    exact ⟨trivial, rfl⟩

/-- **Nothing is stored once the record was cleared.** -/
theorem clear_spec (hn : n < s.stores.length) :
    (s.clear n).1 = .ok () ∧ (s.clear n).2.table n = [] := by
  unfold clear
  cases hk : s.kind with
  | memory =>
    refine ⟨rfl, ?_⟩
    rw [table, show (s.setMemory n []).kind = .memory from hk]
    exact memory_setMemory hn []
  | rows =>
    simp only [Database.clear_eq]
    exact ⟨trivial, rfl⟩

theorem table_clear (s : Storage) (n : Nat) : (s.clear n).2.table n = [] := by
  by_cases hn : n < s.stores.length
  · exact (clear_spec hn).2
  · unfold clear
    cases hk : s.kind with
    | memory =>
      rw [table, show (s.setMemory n []).kind = .memory from hk]
      simp [memory, store, setMemory, hn]
    | rows =>
      simp only [Database.clear_eq]
      rfl

theorem load_eq (s : Storage) (n : Nat) :
    (s.load n).1 = recordOf (s.table n) ∧ (s.load n).2.table n = s.table n ∧ s.Keeps (s.load n).2 := by
  unfold load table
  cases hk : s.kind with
  | memory => exact ⟨rfl, by simp [hk], .refl s⟩
  | rows =>
    simp only [Database.load_eq]
    exact ⟨rfl, rfl, hk.symm, rfl, fun _ => rfl⟩

theorem load_stored (h : s.table n ≠ []) : (s.load n).2 = s := by
  unfold load
  unfold table at h
  cases hk : s.kind with
  | memory => rfl
  | rows =>
    rw [hk] at h
    cases hrows : s.database.rows with
    | none =>
      simp only [hrows] at h
      exact absurd rfl h
    | some t =>
      simp only [Database.load_eq, hrows, Option.getD_some]
      rw [← hrows]
      rcases s with ⟨_, _, _⟩
      cases hk
      rfl

end Storage

theorem Record.encode_names (r : Record) : (r.encode.map Prod.fst).Nodup := by
  have hnames : r.encode.map Prod.fst = Record.fieldNames := by
    simp [encode, toMembers, fieldNames, defaults, Members.names]
  rw [hnames]
  decide

theorem Record.encode_ne_nil (r : Record) : r.encode ≠ [] := by
  simp [encode, toMembers]

end Cutover
