import Cutover.Proofs.Record.RoundTrip
import Cutover.Proofs.Store.Interchange

/-!
# Nothing is lost in the store

The record of a sound state is read back from its text as it was, whatever other names stand beside its own. Where some
of its texts are missing those fields take their defaults and no other field changes. A field that is set is read back.

* `RunState.Typed`: a state whose fields hold values of their types;
* `Record.fieldsWithout`: the fields of a record, with the defaults of those that are gone;
* `Record.decode_without`: **what is read back where some texts are missing**;
* `Storage.getField_setField`: a field that is set is read back;
* `Record.nothing_lost`: **the stored record loses nothing**.
-/

namespace Cutover

/-! ## States -/

/-- **The state holds values of the types of its fields**: whole numbers, texts and truth values. -/
structure RunState.Typed (s : RunState) : Prop where
  progress : ∀ q ∈ [s.schemaProgress, s.dataProgress, s.foreignKeyProgress], ∃ n : Int, q = .whole n
  texts : ∀ v ∈ [s.schemaMessage, s.dataMessage, s.foreignKeyMessage, s.errorText], v.IsText
  flags : ∀ v ∈ [s.inProgress, s.reconciled], v.IsFlag

theorem Quantity.isPlain_of_isPercentage {n : Int} (h : (whole n).isPercentage = true) : (whole n).IsPlain := by
  rw [isPercentage, Bool.and_eq_true, Bool.not_eq_true', isBelow_whole, decide_eq_false_iff_not] at h
  obtain ⟨hlow, hhigh⟩ := h
  refine ⟨n, rfl, by omega, ?_⟩
  rw [isAtMost, compare?_whole] at hhigh
  refine Int.not_lt.mp fun hmore => ?_
  rw [Int.compare_eq_gt.mpr hmore] at hhigh
  cases hhigh

theorem RunState.Typed.plain {s : RunState} (h : s.Typed) (hs : s.Sound) : s.Plain := by
  obtain ⟨hprogress, htexts, hflags⟩ := h
  simp only [List.mem_cons, List.not_mem_nil, or_false, forall_eq_or_imp, forall_eq] at hprogress
  simp only [List.mem_cons, List.not_mem_nil, or_false, forall_eq_or_imp, forall_eq] at htexts
  simp only [List.mem_cons, List.not_mem_nil, or_false, forall_eq_or_imp, forall_eq] at hflags
  obtain ⟨⟨schema, hschema⟩, ⟨data, hdata⟩, ⟨foreignKeys, hforeignKeys⟩⟩ := hprogress
  have hplain : ∀ {q : Quantity} {n : Int}, q = .whole n → q.isPercentage = true → q.IsPlain := by
    rintro _ n rfl hq
    exact Quantity.isPlain_of_isPercentage hq
  exact {
    schemaProgress := hplain hschema hs.schema
    dataProgress := hplain hdata hs.data
    foreignKeyProgress := hplain hforeignKeys hs.foreignKeys
    schemaMessage := htexts.1
    dataMessage := htexts.2.1
    foreignKeyMessage := htexts.2.2.1
    errorText := htexts.2.2.2
    inProgress := hflags.1
    reconciled := hflags.2 }

namespace Record

variable {r : Record} {t : Table} {gone : String → Bool} {name : String} {v : Value}

/-! ## Missing texts -/

/-- The fields of a record, with the defaults of those that are gone. -/
def fieldsWithout (r : Record) (gone : String → Bool) : Members :=
  List.zipWith (fun field usual => (field.1, if gone field.1 then usual.2 else field.2)) r.toMembers defaults

/-- **A table keeps the texts of a record** but for those that are gone. Other names may stand beside them. -/
def Keeps (t : Table) (r : Record) (gone : String → Bool) : Prop :=
  ∀ name ∈ fieldNames, t.lookup name = if gone name then none else r.encode.lookup name

theorem Keeps.get? (h : Keeps t r gone) (hname : name ∈ fieldNames) :
    (storedIn t).get? name = if gone name then none else (storedIn r.encode).get? name := by
  rw [get?_texts, get?_texts, h name hname]
  split <;> rfl

theorem Keeps.flagIn (h : Keeps t r gone) (hname : name ∈ fieldNames) (hget : r.toMembers.get? name = some v)
    (hv : v.IsFlag) : flagIn (storedIn t) name = .ok (if gone name then .bool false else v) := by
  rw [Record.flagIn, fieldIn, h.get? hname]
  cases gone name with
  | true => rfl
  | false => exact flagIn_storedIn hget hv

theorem Keeps.wholeIn (h : Keeps t r gone) (hname : name ∈ fieldNames) (hget : r.toMembers.get? name = some v)
    (hv : v.IsWhole) : wholeIn (storedIn t) name = .ok (if gone name then .whole 0 else v) := by
  rw [Record.wholeIn, fieldIn, h.get? hname]
  cases gone name with
  | true => rfl
  | false => exact wholeIn_storedIn hget hv

theorem Keeps.textOr (h : Keeps t r gone) (hname : name ∈ fieldNames) (hget : r.toMembers.get? name = some v)
    (hv : v.IsText) (default : String) :
    Form.textOr (storedIn t) name default = if gone name then .text default else v := by
  rw [Form.textOr, Members.getD, h.get? hname]
  cases gone name with
  | true => rfl
  | false => exact textOr_storedIn hget hv default

/-- **Where some texts are missing those fields take their defaults**, and all others are read back as they were. -/
theorem decode_without (h : Keeps t r gone) (hplain : r.Plain) :
    ∃ r', decode t = .ok r' ∧ r'.toMembers = r.fieldsWithout gone := by
  obtain ⟨htexts, hflags, hwholes⟩ := hplain
  simp only [List.mem_cons, List.not_mem_nil, or_false, forall_eq_or_imp, forall_eq] at htexts
  simp only [List.mem_cons, List.not_mem_nil, or_false, forall_eq_or_imp, forall_eq] at hflags
  simp only [List.mem_cons, List.not_mem_nil, or_false, forall_eq_or_imp, forall_eq] at hwholes
  obtain ⟨hmode, htransfer, hphase, hschema, hdata, hforeignKeys, herror⟩ := htexts
  obtain ⟨hprogress, hschemaStarted, hdataStarted, hdataCompleted, hstarted, hreconciled, htarget⟩ := hflags
  obtain ⟨hschemaProgress, hdataProgress, hforeignKeyProgress, hshards, hinstances⟩ := hwholes
  unfold decode ofStored
  rw [h.flagIn (by decide) rfl hprogress, h.flagIn (by decide) rfl hschemaStarted,
    h.flagIn (by decide) rfl hdataStarted, h.flagIn (by decide) rfl hdataCompleted, h.flagIn (by decide) rfl hstarted,
    h.wholeIn (by decide) rfl hschemaProgress, h.wholeIn (by decide) rfl hdataProgress,
    h.wholeIn (by decide) rfl hforeignKeyProgress, h.flagIn (by decide) rfl hreconciled,
    h.flagIn (by decide) rfl htarget, h.wholeIn (by decide) rfl hshards, h.wholeIn (by decide) rfl hinstances,
    h.textOr (by decide) rfl hmode, h.textOr (by decide) rfl htransfer, h.textOr (by decide) rfl hphase,
    h.textOr (by decide) rfl hschema, h.textOr (by decide) rfl hdata, h.textOr (by decide) rfl hforeignKeys,
    h.textOr (by decide) rfl herror]
  exact ⟨_, rfl, rfl⟩

theorem decode_beside (h : ∀ name ∈ fieldNames, t.lookup name = r.encode.lookup name) (hplain : r.Plain) :
    decode t = .ok r := by
  have hkeeps : Keeps t r fun _ => false := h
  obtain ⟨r', hr', hfields⟩ := decode_without hkeeps hplain
  rw [hr']
  cases r
  cases r'
  cases hfields
  rfl

/-! ## Single fields -/

/-- The value is of the type of a field. -/
def Suits (name : String) (v : Value) : Prop :=
  match defaults.get? name with
  | some (.bool _) => v.IsFlag
  | some (.whole _) => v.IsWhole
  | some _ => v.IsText
  | none => False

theorem decodeField_encodeValue (h : Suits name v) : decodeField name (.text (encodeValue v)) = .ok v := by
  rw [Suits] at h
  rw [decodeField]
  cases hdefault : defaults.get? name with
  | none =>
    rw [hdefault] at h
    exact h.elim
  | some usual =>
    rw [hdefault] at h
    cases usual with
    | bool b => exact decodeFlag_encodeValue h name
    | whole n => exact decodeWhole_encodeValue h
    | _ => exact congrArg Except.ok (text_encodeValue h)

theorem Suits.isField (h : Suits name v) : fieldNames.contains name = true := by
  rw [Suits] at h
  cases hdefault : defaults.get? name with
  | none =>
    rw [hdefault] at h
    exact h.elim
  | some usual =>
    obtain ⟨before, after, hdefaults, -⟩ := List.lookup_eq_some_iff.mp hdefault
    rw [fieldNames, Members.names, hdefaults]
    simp

end Record

namespace Storage

variable {s : Storage} {n : Nat} {name : String} {v : Value}

theorem lookup_setField (hn : n < s.stores.length) (hfield : Record.fieldNames.contains name = true) (v : Value) :
    (s.setField n name v).1 = .ok () ∧ ((s.setField n name v).2.table n).lookup name = some (encodeValue v) := by
  cases hk : s.kind with
  | memory =>
    simp only [setField, hfield, Bool.not_true, Bool.false_eq_true, if_false, hk]
    refine ⟨trivial, ?_⟩
    rw [table_memory (show (s.setMemory n _).kind = .memory from hk), memory_setMemory hn, lookup_put_self]
  | rows =>
    simp only [setField, hfield, Bool.not_true, Bool.false_eq_true, if_false, hk, Database.set_eq]
    refine ⟨trivial, ?_⟩
    show (replaced _ name _).lookup name = _
    rw [lookup_replaced, if_pos rfl]

theorem getField_eq (hfield : Record.fieldNames.contains name = true) :
    (s.getField n name).1 = fieldOf name ((s.table n).lookup name) := by
  cases hk : s.kind with
  | memory =>
    rw [table_memory hk]
    simp only [getField, hfield, Bool.not_true, Bool.false_eq_true, if_false, hk]
  | rows =>
    rw [table_rows hk]
    simp only [getField, hfield, Bool.not_true, Bool.false_eq_true, if_false, hk, Database.get_eq]
    rfl

/-- **A field that is set to a value of its type is read back**, whatever was stored before. -/
theorem getField_setField (hn : n < s.stores.length) (h : Record.Suits name v) :
    (s.setField n name v).1 = .ok () ∧ ((s.setField n name v).2.getField n name).1 = .ok v := by
  obtain ⟨hset, hlookup⟩ := lookup_setField hn h.isField v
  refine ⟨hset, ?_⟩
  rw [getField_eq h.isField, hlookup]
  exact Record.decodeField_encodeValue h

end Storage

namespace Record

variable {s : RunState} {c : Context}

/-- **The record gives back what it was made of**: state, mode, transfer and counts. -/
structure GivesBack (r : Record) (s : RunState) (c : Context) : Prop where
  state : r.toState = .ok s
  mode : r.readMode = .ok c.mode
  transfer : r.readTransfer = .ok c.transfer
  targetSet : r.targetSet = c.targetSet
  shardCount : r.shardCount = c.shardCount
  instanceCount : r.instanceCount = c.instanceCount

theorem givesBack_ofState (hs : s.Sound) : (ofState s c).GivesBack s c :=
  ⟨toState_ofState hs, readMode_ofState, readTransfer_ofState, rfl, rfl, rfl⟩

/-- **The stored record loses nothing.** The record of a state that passes its check is read back from its text as it
was, whatever other names stand beside its own, and gives back the state, the mode, the transfer and the counts that it
was made of. Where some texts are missing those fields take their defaults, and all others are as they were. A field of a
store that is set to a value of its type is read back. -/
theorem nothing_lost (htyped : s.Typed) (hcheck : s.check = .ok s) (hc : c.Plain) :
    ((ofState s c).GivesBack s c ∧
      ∀ t : Table, (∀ name ∈ fieldNames, t.lookup name = (ofState s c).encode.lookup name) →
        decode t = .ok (ofState s c)) ∧
    (∀ (t : Table) (gone : String → Bool), Keeps t (ofState s c) gone →
      ∃ r, decode t = .ok r ∧ r.toMembers = (ofState s c).fieldsWithout gone) ∧
    ∀ (x : Storage) (n : Nat) (name : String) (v : Value), n < x.stores.length → Suits name v →
      (x.setField n name v).1 = .ok () ∧ ((x.setField n name v).2.getField n name).1 = .ok v := by
  have hs : s.Sound := (RunState.sound_of_check hcheck).2
  have hplain : (ofState s c).Plain := plain_ofState (htyped.plain hs) hc
  exact ⟨⟨givesBack_ofState hs, fun t ht => decode_beside ht hplain⟩, fun t gone ht => decode_without ht hplain,
    fun x n name v hn hv => Storage.getField_setField hn hv⟩

/-- A failed run of no mode, whose message looks like a truth value, and negative counts. -/
theorem nothing_lost_failed :
    let s : RunState := { phase := .failed, dataProgress := .whole 100, errorText := .text "true" }
    let c : Context := { transfer := some .bulk, shardCount := .whole (-3), instanceCount := .whole 7 }
    (s.Typed ∧ s.check = .ok s ∧ c.Plain) ∧ decode (ofState s c).encode = .ok (ofState s c) ∧
      (ofState s c).GivesBack s c := by
  intro s c
  have hwhole : ∀ n : Int, n.natAbs ≤ 9 → (Value.whole n).IsWhole := fun n hn => ⟨n, rfl,
    Nat.lt_of_le_of_lt hn (Nat.lt_of_lt_of_le (by decide : 9 < 10 ^ 1) (Nat.pow_le_pow_right (by decide) (by decide)))⟩
  have htyped : s.Typed := by
    refine ⟨?_, ?_, ?_⟩
    · simp [s]
    · simp [s, Value.IsText]
    · simp [s, Value.IsFlag]
  have hcheck : s.check = .ok s := by rfl
  have hc : c.Plain := ⟨⟨_, rfl⟩, hwhole (-3) (by decide), hwhole 7 (by decide)⟩
  obtain ⟨⟨hback, hall⟩, -, -⟩ := nothing_lost htyped hcheck hc
  exact ⟨⟨htyped, hcheck, hc⟩, hall _ fun _ _ => rfl, hback⟩

end Record

end Cutover
