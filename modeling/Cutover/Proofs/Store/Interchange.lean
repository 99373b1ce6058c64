import Cutover.Proofs.Store.Whole
import Cutover.Proofs.Value.Entries
import Cutover.Session.Action

/-!
# One record, two kinds of store

A store in memory puts the texts of the fields in a list of its own, a store of rows replaces, adds and deletes rows
of a table. Which of them answers a call makes no difference: the answers are the same, and so are the texts that are
kept under each name.

* `Storage.serve`: what comes of a call of a store;
* `SameTexts`: two tables keep the same texts under the same names;
* `Record.decode_congr`, `Record.refuses_decode`: a record depends on the texts alone, and is refused if one of them
  cannot be read back;
* `Storage.Agrees.serve`: **stores that keep the same texts answer alike**, and keep the same texts afterwards;
* `StoreAction.Answers`, `Storage.answers_serve`: what a call gives, and which faults it may end with.
-/

namespace Cutover

/-! ## Tables as maps -/

/-- **Two tables keep the same texts** under the same names, each name once. -/
structure SameTexts (t u : Table) : Prop where
  names : (t.map Prod.fst).Nodup
  names' : (u.map Prod.fst).Nodup
  lookup : ∀ name, t.lookup name = u.lookup name

namespace SameTexts

theorem refl {t : Table} (h : (t.map Prod.fst).Nodup) : SameTexts t t := ⟨h, h, fun _ => rfl⟩

variable {t u : Table}

theorem isEmpty_eq (h : SameTexts t u) : t.isEmpty = u.isEmpty := by
  have hhead : ∀ {t u : Table}, (∀ name, t.lookup name = u.lookup name) → u = [] → t = [] := by
    rintro (_ | ⟨⟨name, raw⟩, rest⟩) u hlookup rfl
    · rfl
    · have hname := hlookup name
      rw [List.lookup_cons_self] at hname
      cases hname
  rw [Bool.eq_iff_iff, List.isEmpty_iff, List.isEmpty_iff]
  exact ⟨hhead fun name => (h.lookup name).symm, hhead h.lookup⟩

end SameTexts

/-- A row that replaces the one of its name stands at the end. -/
def replaced (t : Table) (name raw : String) : Table := (t.filter fun r => r.1 ≠ name) ++ [(name, raw)]

theorem lookup_replaced (t : Table) (name raw other : String) :
    (replaced t name raw).lookup other = if other = name then some raw else t.lookup other := by
  rw [replaced, List.lookup_append]
  by_cases h : other = name
  · rw [if_pos h, h, lookup_filter_self, Option.none_or, List.lookup_cons_self]
  · have hlast : ([(name, raw)] : Table).lookup other = none := by
      rw [List.lookup_cons, beq_false_of_ne h]
      rfl
    rw [if_neg h, lookup_filter_of_ne t h, hlast, Option.or_none]

theorem nodup_replaced {t : Table} (h : (t.map Prod.fst).Nodup) (name raw : String) :
    ((replaced t name raw).map Prod.fst).Nodup := by
  rw [replaced, List.map_append]
  refine List.nodup_append.mpr ⟨h.sublist (List.filter_sublist.map _), List.pairwise_singleton _ _, ?_⟩
  rintro a ha b hb rfl
  obtain ⟨row, hrow, rfl⟩ := List.mem_map.mp ha
  have hne : row.1 ≠ name := by simpa using (List.mem_filter.mp hrow).2
  exact hne (List.mem_singleton.mp hb)

/-- **A text that is set** is kept under its name, whether it is put in its place or added as a row. -/
theorem SameTexts.set {t u : Table} (h : SameTexts t u) (name raw : String) :
    SameTexts (put t name raw) (replaced u name raw) where
  names := nodup_put h.names name raw
  names' := nodup_replaced h.names' name raw
  lookup other := by
    rw [lookup_replaced]
    by_cases hother : other = name
    · rw [if_pos hother, hother, lookup_put_self]
    · rw [if_neg hother, lookup_put_of_ne _ _ hother, h.lookup]

/-! ## Records and their texts -/

namespace Record

theorem get?_texts (t : Table) (name : String) : (storedIn t).get? name = (t.lookup name).map .text := by
  induction t with
  | nil => rfl
  | cons row rest ih =>
    obtain ⟨key, raw⟩ := row
    simp only [storedIn, Members.get?, List.map_cons, List.lookup_cons] at ih ⊢
    cases name == key with
    | true => rfl
    | false => exact ih

theorem ofStored_congr {a b : Members} (h : ∀ name, a.get? name = b.get? name) : ofStored a = ofStored b := by
  simp only [ofStored, flagIn, wholeIn, fieldIn, Form.textOr, Members.getD, h]

/-- **A record depends on nothing but the texts** that are kept under the names of its fields. -/
theorem decode_congr {t u : Table} (h : ∀ name, t.lookup name = u.lookup name) : decode t = decode u :=
  ofStored_congr fun name => by rw [get?_texts, get?_texts, h]

/-- Nothing goes wrong but that a value is refused. -/
def Refuses {α : Type} (x : Except Fault α) : Prop := ∀ f, x = .error f → ∃ refusal, f = .refused refusal

section
variable {α β : Type}

theorem refuses_ok (a : α) : Refuses (.ok a) := nofun

theorem refuses_refuse (r : Refusal) : Refuses (Fault.refuse r : Except Fault α) := by
  rintro _ ⟨⟩
  exact ⟨r, rfl⟩

theorem refuses_bind {x : Except Fault α} {f : α → Except Fault β} (hx : Refuses x) (hf : ∀ a, Refuses (f a)) :
    Refuses (x >>= f) := by
  cases x with
  | ok a => exact hf a
  | error e =>
    rintro _ ⟨⟩
    exact hx e rfl

theorem refuses_map {x : Except Fault α} {f : α → β} (hx : Refuses x) : Refuses (f <$> x) := by
  cases x with
  | ok a => exact refuses_ok _
  | error e =>
    rintro _ ⟨⟩
    exact hx e rfl

end

theorem refuses_decodeFlag (name : String) (raw : Value) : Refuses (decodeFlag name raw) := by
  unfold decodeFlag
  split
  · exact refuses_ok _
  · exact refuses_ok _
  · exact refuses_refuse _

theorem refuses_decodeWhole (raw : String) : Refuses (decodeWhole (.text raw)) := by
  rw [decodeWhole]
  split
  · exact refuses_ok _
  · exact refuses_refuse _
  · exact refuses_refuse _

section
variable {t : Table} {name : String} {decode : Value → Except Fault Value} {default : Value}

theorem refuses_fieldIn (h : ∀ raw, Refuses (decode (.text raw))) :
    Refuses (fieldIn (storedIn t) name decode default) := by
  rw [fieldIn, get?_texts]
  cases t.lookup name with
  | none => exact refuses_ok _
  | some raw => exact h raw

theorem refuses_flagIn : Refuses (flagIn (storedIn t) name) := refuses_fieldIn fun _ => refuses_decodeFlag _ _

theorem refuses_wholeIn : Refuses (wholeIn (storedIn t) name) := refuses_fieldIn refuses_decodeWhole

end

/-- **A table gives a record unless one of its texts is refused.** -/
theorem refuses_decode (t : Table) : Refuses (decode t) := by
  unfold decode ofStored
  refine refuses_bind refuses_flagIn fun _ => refuses_bind refuses_flagIn fun _ => refuses_bind refuses_flagIn fun _ =>
    refuses_bind refuses_flagIn fun _ => refuses_bind refuses_flagIn fun _ => refuses_bind refuses_wholeIn fun _ =>
    refuses_bind refuses_wholeIn fun _ => refuses_bind refuses_wholeIn fun _ => refuses_bind refuses_flagIn fun _ =>
    refuses_bind refuses_flagIn fun _ => refuses_bind refuses_wholeIn fun _ => refuses_bind refuses_wholeIn fun _ => ?_
  exact refuses_ok _

theorem default_of_field {name : String} (h : fieldNames.contains name = true) :
    ∃ v, defaults.get? name = some v := by
  have hmem : name ∈ defaults.map (·.1) := by simpa [fieldNames, Members.names] using h
  obtain ⟨m, hm, hname⟩ := List.mem_map.mp hmem
  cases hget : defaults.get? name with
  | some v => exact ⟨v, rfl⟩
  | none =>
    have hne := List.lookup_eq_none_iff.mp hget m hm
    exact absurd hname.symm (bne_iff_ne.mp hne)

theorem refuses_decodeField {name : String} (h : fieldNames.contains name = true) (raw : String) :
    Refuses (decodeField name (.text raw)) := by
  obtain ⟨v, hv⟩ := default_of_field h
  rw [decodeField, hv]
  cases v with
  | bool b => exact refuses_decodeFlag _ _
  | whole n => exact refuses_decodeWhole _
  | _ => exact refuses_ok _

end Record

/-! ## Calls -/

/-- The name of the field that is called for. -/
def StoreAction.field? : StoreAction → Option Value
  | get name | set name _ => some name
  | _ => none

/-- The name is that of a field. -/
def Record.isField : Value → Bool
  | .text name => fieldNames.contains name
  | _ => false

theorem Record.text_of_isField {name : Value} (h : isField name = true) :
    ∃ text, name = .text text ∧ fieldNames.contains text = true := by
  cases name with
  | text text => exact ⟨text, rfl, h⟩
  | _ => cases h

namespace Storage

/-- **What comes of a call of a store**, with nothing put in its way. -/
def serve (s : Storage) (n : Nat) : StoreAction → Except Fault Result × Storage
  | .load => ((s.load n).1.map .record, (s.load n).2)
  | .save record => ((s.save n record.encode).1.map fun _ => .nothing, (s.save n record.encode).2)
  | .clear => ((s.clear n).1.map fun _ => .nothing, (s.clear n).2)
  | .get (.text name) => ((s.getField n name).1.map .value, (s.getField n name).2)
  | .get name => (.error (.unknownName name), s)
  | .set (.text name) value =>
    ((s.setField n name value).1.map fun _ => .nothing, (s.setField n name value).2)
  | .set name _ => (.error (.unknownName name), s)

theorem serve_unknown {a : StoreAction} {name : Value} (hfield : a.field? = some name)
    (hno : Record.isField name = false) (s : Storage) (n : Nat) :
    s.serve n a = (.error (.unknownName name), s) := by
  cases a with
  | get name' =>
    cases hfield
    cases name with
    | text text =>
      have hno : Record.fieldNames.contains text = false := hno
      rw [serve, getField, hno]
      rfl
    | _ => rfl
  | set name' value =>
    cases hfield
    cases name with
    | text text =>
      have hno : Record.fieldNames.contains text = false := hno
      rw [serve, setField, hno]
      rfl
    | _ => rfl
  | _ => cases hfield

end Storage

namespace Database

theorem get_eq (d : Database) (name : String) :
    d.get name = (.ok ((d.rows.getD []).lookup name), ⟨some (d.rows.getD [])⟩) := by
  rcases d with ⟨_ | t⟩ <;> rfl

theorem set_eq (d : Database) (name raw : String) :
    d.set name raw = (.ok (), ⟨some (replaced (d.rows.getD []) name raw)⟩) := by
  rcases d with ⟨_ | t⟩ <;> rfl

end Database

namespace Storage

variable {s s' : Storage} {n m : Nat}

/-- **A store in memory and one of rows keep the same texts.** -/
structure Agrees (n m : Nat) (s s' : Storage) : Prop where
  memory : s.kind = .memory
  rows : s'.kind = .rows
  opened : n < s.stores.length
  texts : SameTexts (s.table n) (s'.table m)

theorem table_rows (h : s.kind = .rows) (m : Nat) : s.table m = s.database.rows.getD [] := by
  rw [table, h]

theorem table_memory (h : s.kind = .memory) (n : Nat) : s.table n = s.memory n := by
  rw [table, h]

theorem Agrees.of_texts (h : Agrees n m s s') {t u : Table} (htexts : SameTexts t u) :
    Agrees n m (s.setMemory n t) { s' with database := ⟨some u⟩ } where
  memory := h.memory
  rows := h.rows
  opened := by
    rw [(keeps_setMemory s n t).count]
    exact h.opened
  texts := by
    have hkind : (s.setMemory n t).kind = .memory := h.memory
    rw [table_memory hkind, table_rows (show ({ s' with database := ⟨some u⟩ } : Storage).kind = .rows from h.rows),
      memory_setMemory h.opened]
    exact htexts

theorem Agrees.touched (h : Agrees n m s s') :
    Agrees n m s { s' with database := ⟨some (s'.database.rows.getD [])⟩ } where
  memory := h.memory
  rows := h.rows
  opened := h.opened
  texts := by
    have htexts := h.texts
    rw [table_rows h.rows] at htexts
    rw [table_rows (show ({ s' with database := ⟨some (s'.database.rows.getD [])⟩ } : Storage).kind = .rows from h.rows)]
    exact htexts

theorem recordOf_congr {t u : Table} (h : SameTexts t u) : recordOf t = recordOf u := by
  rw [recordOf, recordOf, h.isEmpty_eq, Record.decode_congr h.lookup]

/-- **Stores that keep the same texts answer alike**, and keep the same texts afterwards. -/
theorem Agrees.serve (h : Agrees n m s s') (a : StoreAction) :
    (s.serve n a).1 = (s'.serve m a).1 ∧ Agrees n m (s.serve n a).2 (s'.serve m a).2 := by
  have htexts : SameTexts (s.memory n) (s'.database.rows.getD []) := by
    rw [← table_memory h.memory, ← table_rows h.rows m]
    exact h.texts
  obtain ⟨_, stores, database⟩ := s'
  obtain rfl := h.rows
  cases a with
  | load =>
    simp only [Storage.serve, load, h.memory, Database.load_eq]
    exact ⟨congrArg (Except.map _) (recordOf_congr htexts), h.touched⟩
  | save record =>
    have hnames := record.encode_names
    simp only [Storage.serve, save, h.memory, Database.save_eq _ hnames]
    exact ⟨trivial, h.of_texts (.refl hnames)⟩
  | clear =>
    simp only [Storage.serve, clear, h.memory, Database.clear_eq]
    exact ⟨trivial, h.of_texts (SameTexts.refl List.nodup_nil)⟩
  | get name =>
    cases name with
    | text name =>
      simp only [Storage.serve, getField]
      split
      · exact ⟨rfl, h⟩
      · simp only [h.memory, Database.get_eq, htexts.lookup]
        exact ⟨rfl, h.touched⟩
    | _ => exact ⟨rfl, h⟩
  | set name value =>
    cases name with
    | text name =>
      simp only [Storage.serve, setField]
      split
      · exact ⟨rfl, h⟩
      · simp only [h.memory, Database.set_eq]
        exact ⟨trivial, h.of_texts (htexts.set name _)⟩
    | _ => exact ⟨rfl, h⟩

theorem keeps_serve (s : Storage) (n : Nat) (a : StoreAction) : s.Keeps (s.serve n a).2 := by
  cases a with
  | load => exact (load_eq s n).2.2
  | save record => exact keeps_save s n _
  | clear => exact keeps_clear s n
  | get name =>
    cases name with
    | text name =>
      simp only [serve, getField]
      split
      · exact .refl s
      · split
        · exact .refl s
        · exact ⟨rfl, rfl, fun _ => rfl⟩
    | _ => exact .refl s
  | set name value =>
    cases name with
    | text name =>
      simp only [serve, setField]
      split
      · exact .refl s
      · split
        · exact keeps_setMemory s n _
        · exact ⟨rfl, rfl, fun _ => rfl⟩
    | _ => exact .refl s

end Storage

/-! ## What calls give -/

/-- What a call for a known field gives, by the texts that are kept after it. -/
def StoreAction.reading (t : Table) : StoreAction → Except Fault Result
  | load => (Storage.recordOf t).map .record
  | get (.text name) => (Storage.fieldOf name (t.lookup name)).map .value
  | _ => .ok .nothing

/-- **What a call comes to.** A name that is no field is unknown. Any other call gives what the texts say that are kept,
and fails only if one of them is refused. -/
structure StoreAction.Answers (a : StoreAction) (t : Table) (r : Except Fault Result) : Prop where
  unknown : ∀ name, a.field? = some name → Record.isField name = false → r = .error (.unknownName name)
  known : (∀ name, a.field? = some name → Record.isField name = true) → r = a.reading t ∧ Record.Refuses r

namespace StoreAction

variable {a : StoreAction} {t : Table} {r : Except Fault Result}

theorem answers_of_unknown {name : Value} (hfield : a.field? = some name) (hno : Record.isField name = false)
    (hr : r = .error (.unknownName name)) : a.Answers t r where
  unknown name' hname' _ := by
    cases hfield.symm.trans hname'
    exact hr
  known hknown := absurd (hknown name hfield) (Bool.eq_false_iff.mp hno)

theorem answers_of_known (hfield : ∀ name, a.field? = some name → Record.isField name = true) (hr : r = a.reading t)
    (hrefuses : Record.Refuses (a.reading t)) : a.Answers t r where
  unknown name hname hno := absurd (hfield name hname) (Bool.eq_false_iff.mp hno)
  known _ := ⟨hr, hr ▸ hrefuses⟩

end StoreAction

namespace Storage

variable {s : Storage}

theorem refuses_recordOf (t : Table) : Record.Refuses (recordOf t) := by
  unfold recordOf
  split
  · exact Record.refuses_ok _
  · exact Record.refuses_map (Record.refuses_decode t)

theorem refuses_fieldOf {name : String} (h : Record.fieldNames.contains name = true) (raw : Option String) :
    Record.Refuses (fieldOf name raw) := by
  cases raw with
  | none => exact Record.refuses_ok _
  | some raw => exact Record.refuses_decodeField h raw

/-- **A call of a store in memory comes to what it should.** -/
theorem answers_serve (h : s.kind = .memory) (n : Nat) (a : StoreAction) :
    a.Answers ((s.serve n a).2.table n) (s.serve n a).1 := by
  cases a with
  | load =>
    refine StoreAction.answers_of_known (fun _ hnamed => by cases hnamed) ?_
      (Record.refuses_map (f := Result.record) (refuses_recordOf _))
    simp only [serve, load, h, StoreAction.reading, table]
  | save record =>
    refine StoreAction.answers_of_known (fun _ hnamed => by cases hnamed) ?_ (Record.refuses_ok _)
    simp only [serve, save, h]
    rfl
  | clear =>
    refine StoreAction.answers_of_known (fun _ hnamed => by cases hnamed) ?_ (Record.refuses_ok _)
    simp only [serve, clear, h]
    rfl
  | get name =>
    cases hname : Record.isField name with
    | false => exact StoreAction.answers_of_unknown rfl hname (congrArg Prod.fst (serve_unknown rfl hname s n))
    | true =>
      obtain ⟨text, rfl, hfield⟩ := Record.text_of_isField hname
      refine StoreAction.answers_of_known (fun name' hname' => Option.some.inj hname' ▸ hname) ?_
        (Record.refuses_map (f := Result.value) (refuses_fieldOf hfield _))
      simp only [serve, getField, hfield, StoreAction.reading, table, Bool.not_true, Bool.false_eq_true, if_false, h]
  | set name value =>
    cases hname : Record.isField name with
    | false => exact StoreAction.answers_of_unknown rfl hname (congrArg Prod.fst (serve_unknown rfl hname s n))
    | true =>
      obtain ⟨text, rfl, hfield⟩ := Record.text_of_isField hname
      refine StoreAction.answers_of_known (fun name' hname' => Option.some.inj hname' ▸ hname) ?_ (Record.refuses_ok _)
      simp only [serve, setField, hfield, h]
      rfl

end Storage

end Cutover
