import Cutover.Proofs.Store.Interchange
import Cutover.Proofs.World.Doing
import Mathlib.Data.List.Forall2

/-!
# Calls of a store, one after the other

A call of a store that is done alone comes to what the storage serves, in every kind of store. So the same calls on a
fresh store in memory and on a fresh store of rows come to the same, and after each of them both keep the same texts.

* `Surroundings.meets_store`: a call of a store, as work that is done alone;
* `World.Does.stored`, `World.does_store`: what comes of it, and that it ends;
* `World.StoreCalls`: calls done one after the other;
* `World.Fresh`: a store into which nothing was put, and in whose way nothing is;
* `World.stores_interchangeable`: **the two kinds of store cannot be told apart**.
-/

namespace Cutover

namespace Surroundings

variable {S : Surroundings} {c : Core} {p : List (Option RunState)} {s : Scene}

/-- Nothing is put in the way of the store that was opened last. -/
def Unhindered (c : Core) : Prop := c.storage.faults c.storage.current = {}

theorem meets_save {Q : Except Exit Unit → Scene → Prop} (h : S.At c p s) (hgrants : ∀ d e, S.grants d e) {n : Nat}
    (hfaults : c.storage.faults n = {}) (record : Record)
    (hQ : ∀ s', S.At { c with storage := (c.storage.save n record.encode).2 } p s' →
      Q ((c.storage.save n record.encode).1.mapError .fault) s') : (Keep.save n record).Meets S.behind Q s := by
  have hnone : s.site.storage.faults n = {} := by rw [h.storage, hfaults]
  rw [Keep.save, Op.meets_bind, meets_site, Op.after_ok, hnone]
  refine Op.meets_bind.mpr (meets_site.mpr ?_)
  rw [Op.after_ok, hnone]
  exact meets_keep h (hgrants _ _) hQ

theorem meets_remove {Q : Except Exit Unit → Scene → Prop} (h : S.At c p s) (hgrants : ∀ d e, S.grants d e) {n : Nat}
    (hfaults : c.storage.faults n = {})
    (hQ : ∀ s', S.At { c with storage := (c.storage.clear n).2 } p s' →
      Q ((c.storage.clear n).1.mapError .fault) s') : (Keep.clear n).Meets S.behind Q s := by
  rw [Keep.clear, Op.meets_bind, meets_site, Op.after_ok, h.storage, hfaults]
  exact meets_keep h (hgrants _ _) hQ

/-! ## Fields -/

theorem fieldName_unknown {name : Value} (h : Record.isField name = false) :
    Keep.fieldName name = Op.fail (.unknownName name) := by
  cases name with
  | text text =>
    have hno : Record.fieldNames.contains text = false := h
    rw [Keep.fieldName, hno]
    rfl
  | _ => rfl

theorem fieldName_known {text : String} (h : Record.fieldNames.contains text = true) :
    Keep.fieldName (.text text) = pure text := by rw [Keep.fieldName, if_pos h]

theorem meets_field {α : Type} {Q : Except Exit α → Scene → Prop} (h : S.At c p s) (hgrants : ∀ d e, S.grants d e)
    {text : String} (hfield : Record.fieldNames.contains text = true)
    {f : String → Storage → Except Fault α × Storage}
    (hQ : ∀ s', S.At { c with storage := (f text c.storage).2 } p s' →
      Q ((f text c.storage).1.mapError .fault) s') :
    Op.Meets S.behind Q (Keep.fieldName (.text text) >>= fun name => Keep.transact (f name)) s := by
  rw [fieldName_known hfield]
  exact meets_transact h (hgrants _ _) hQ

/-! ## Calls -/

/-- **A call of the store that was opened last**, in whose way nothing is. -/
theorem meets_store {Q : Except Exit Result → Scene → Prop} (h : S.At c p s) (hgrants : ∀ d e, S.grants d e)
    (hfaults : Unhindered c) (a : StoreAction)
    (hQ : ∀ s', S.At { c with storage := (c.storage.serve c.storage.current a).2 } p s' →
      Q ((c.storage.serve c.storage.current a).1.mapError .fault) s') : a.op.Meets S.behind Q s := by
  rw [StoreAction.op, Op.meets_bind, meets_site, Op.after_ok, h.storage]
  -- What the storage gives is shown as a result, and a fault as it is.
  have hshown : ∀ {α : Type} (x : Except Fault α) (f : α → Result),
      (x.mapError Exit.fault).map f = (x.map f).mapError .fault := fun x f => by cases x <;> rfl
  cases a with
  | load =>
    refine Op.meets_map.mpr (meets_keep h (hgrants _ _) fun s' h' => ?_)
    rw [hshown]
    exact hQ s' h'
  | save record =>
    refine Op.meets_map.mpr (meets_save h hgrants hfaults record fun s' h' => ?_)
    rw [hshown]
    exact hQ s' h'
  | clear =>
    refine Op.meets_map.mpr (meets_remove h hgrants hfaults fun s' h' => ?_)
    rw [hshown]
    exact hQ s' h'
  | get name =>
    refine Op.meets_map.mpr ?_
    cases hname : Record.isField name with
    | false =>
      rw [Storage.serve_unknown rfl hname] at hQ
      rw [Keep.getField, fieldName_unknown hname]
      exact hQ s h
    | true =>
      obtain ⟨text, rfl, hfield⟩ := Record.text_of_isField hname
      refine meets_field h hgrants hfield (f := fun text t => t.getField c.storage.current text) fun s' h' => ?_
      rw [hshown]
      exact hQ s' h'
  | set name value =>
    refine Op.meets_map.mpr ?_
    cases hname : Record.isField name with
    | false =>
      rw [Storage.serve_unknown rfl hname] at hQ
      rw [Keep.setField, fieldName_unknown hname]
      exact hQ s h
    | true =>
      obtain ⟨text, rfl, hfield⟩ := Record.text_of_isField hname
      refine meets_field h hgrants hfield (f := fun text t => t.setField c.storage.current text value) fun s' h' => ?_
      rw [hshown]
      exact hQ s' h'

end Surroundings

namespace World

variable {n m : Nat} {w w' v v' : World} {a : StoreAction} {r : Except Exit Result}

/-- The record of the store that was opened last, as it is kept. -/
def kept (w : World) : Table := w.storage.table w.storage.current

/-- A session may call the store that was opened last, in whose way nothing is. -/
structure Offers (n : Nat) (w : World) : Prop where
  known : n < w.sessions.length
  faults : w.storage.faults w.storage.current = {}

/-- What is done by a call of the store that was opened last, and how it ends. -/
def served (w : World) (a : StoreAction) : Except Fault Result × Storage := w.storage.serve w.storage.current a

open Surroundings in
theorem meets_served (hw : w.Offers n) (a : StoreAction) :
    a.op.Meets Surroundings.boundless.alone (fun r s' => r = (w.served a).1.mapError .fault ∧
      s'.site.storage = (w.served a).2) ⟨w.site n, [], []⟩ := by
  have hmeets : a.op.Meets Surroundings.boundless.behind (fun r s' => r = (w.served a).1.mapError .fault ∧
      s'.site.storage = (w.served a).2) ⟨w.site n, [], []⟩ :=
    meets_store (c := (w.site n).core) (p := []) ⟨rfl, rfl, trivial⟩ (fun _ _ => trivial) hw.faults a
      fun s' h' => ⟨rfl, h'.storage⟩
  exact (meets_alone hmeets).mono fun _ _ h => h.1

/-- **A call of a store that is done alone comes to what the storage serves.** -/
theorem Does.stored (h : Does n a.op w w' r) (hw : w.Offers n) :
    r = (w.served a).1.mapError .fault ∧ w'.storage = (w.served a).2 ∧ w'.Offers n := by
  have hmeets := meets_served hw a
  obtain ⟨p, f, ⟨hr, hstorage⟩, -, -, hbeside⟩ := h.spec (S := .boundless) hw.known rfl
    (canDo_of_boundless hmeets) (fun _ _ _ => trivial) (bears_boundless w _) hmeets
  have hstorage : w'.storage = (w.served a).2 := hstorage
  have hkeeps : w.storage.Keeps (w.served a).2 := Storage.keeps_serve _ _ a
  have hcurrent : w'.storage.current = w.storage.current := by
    rw [hstorage, Storage.current, Storage.current, hkeeps.count]
  refine ⟨hr, hstorage, hbeside.length ▸ hw.known, ?_⟩
  rw [hcurrent, hstorage, hkeeps.faults]
  exact hw.faults

theorem does_store (hw : w.Offers n) (a : StoreAction) : ∃ w' r, Does n a.op w w' r := by
  obtain ⟨w', r, hdoes, -⟩ := does_ended (s := ⟨w.site n, [], []⟩) hw.known rfl
    (canDo_of_boundless (meets_served hw a))
  exact ⟨w', r, hdoes⟩

/-! ## One call after the other -/

/-- **Calls of a store, one after the other**, with what came of each and the world after it. -/
inductive StoreCalls (n : Nat) : World → List StoreAction → List (Except Exit Result × World) → Prop
  | done (w : World) : StoreCalls n w [] []
  | call {w w' : World} {a : StoreAction} {as : List StoreAction} {r : Except Exit Result}
    {steps : List (Except Exit Result × World)} (first : Does n a.op w w' r) (rest : StoreCalls n w' as steps) :
    StoreCalls n w (a :: as) ((r, w') :: steps)

theorem some_calls (hw : w.Offers n) (calls : List StoreAction) : ∃ steps, StoreCalls n w calls steps := by
  induction calls generalizing w with
  | nil => exact ⟨_, .done w⟩
  | cons a as ih =>
    obtain ⟨w', r, hdoes⟩ := does_store hw a
    obtain ⟨steps, hsteps⟩ := ih (hdoes.stored hw).2.2
    exact ⟨_, .call hdoes hsteps⟩

/-- **A store into which nothing was put**, and in whose way nothing is. -/
structure Fresh (n : Nat) (kind : StoreKind) (w : World) : Prop extends Offers n w where
  kind : w.storage.kind = kind
  opened : w.storage.stores ≠ []
  empty : w.kept = []

/-- A store in memory and one of rows, each called by a session, keep the same texts. -/
structure Paired (n m : Nat) (w v : World) : Prop where
  memory : w.Offers n
  rows : v.Offers m
  agree : Storage.Agrees w.storage.current v.storage.current w.storage v.storage

theorem paired_fresh (hw : w.Fresh n .memory) (hv : v.Fresh m .rows) : Paired n m w v where
  memory := hw.toOffers
  rows := hv.toOffers
  agree := by
    have htexts : SameTexts w.kept v.kept := by
      rw [hw.empty, hv.empty]
      exact .refl List.nodup_nil
    have hopened := List.length_pos_iff.mpr hw.opened
    exact ⟨hw.kind, hv.kind, Nat.sub_lt hopened Nat.one_pos, htexts⟩

/-- What a call comes to, and what is kept after it. -/
structure SameStep (x y : Except Exit Result × World) : Prop where
  result : x.1 = y.1
  texts : SameTexts x.2.kept y.2.kept

/-- A call comes to what it should. -/
def Comes (a : StoreAction) (x : Except Exit Result × World) : Prop :=
  ∃ r : Except Fault Result, x.1 = r.mapError .fault ∧ a.Answers x.2.kept r

/-- **A call that both stores answer** comes to the same, and leaves the same texts. -/
theorem Paired.step {r' : Except Exit Result} (h : Paired n m w v) (hw : Does n a.op w w' r) (hv : Does m a.op v v' r') :
    SameStep (r, w') (r', v') ∧ Comes a (r, w') ∧ Paired n m w' v' := by
  obtain ⟨rfl, hstorage, hoffers⟩ := hw.stored h.memory
  obtain ⟨rfl, hstorage', hoffers'⟩ := hv.stored h.rows
  obtain ⟨hsame, hagree⟩ := h.agree.serve a
  have hkeeps : w.storage.Keeps (w.served a).2 := Storage.keeps_serve _ _ a
  have hkeeps' : v.storage.Keeps (v.served a).2 := Storage.keeps_serve _ _ a
  have hcurrent : w'.storage.current = w.storage.current := by
    rw [hstorage, Storage.current, Storage.current, hkeeps.count]
  have hcurrent' : v'.storage.current = v.storage.current := by
    rw [hstorage', Storage.current, Storage.current, hkeeps'.count]
  have hagree' : Storage.Agrees w'.storage.current v'.storage.current w'.storage v'.storage := by
    rw [hcurrent, hcurrent', hstorage, hstorage']
    exact hagree
  have hanswers : a.Answers w'.kept (w.served a).1 := by
    rw [kept, hcurrent, hstorage]
    exact Storage.answers_serve h.agree.memory _ a
  exact ⟨⟨congrArg (Except.mapError Exit.fault) hsame, hagree'.texts⟩, ⟨_, rfl, hanswers⟩, hoffers, hoffers', hagree'⟩

theorem Paired.calls (h : Paired n m w v) {calls : List StoreAction} {xs ys : List (Except Exit Result × World)}
    (hw : StoreCalls n w calls xs) (hv : StoreCalls m v calls ys) :
    List.Forall₂ SameStep xs ys ∧ List.Forall₂ Comes calls xs := by
  induction hw generalizing v ys with
  | done w =>
    cases hv
    exact ⟨.nil, .nil⟩
  | call first rest ih =>
    cases hv with
    | call first' rest' =>
      obtain ⟨hsame, hcomes, hpaired⟩ := h.step first first'
      obtain ⟨hsteps, hall⟩ := ih hpaired rest'
      exact ⟨.cons hsame hsteps, .cons hcomes hall⟩

/-- **The two kinds of store cannot be told apart.** The same calls, one after the other, on a fresh store in memory
and on a fresh store of rows can be done; each gives the same in both or fails by the same fault, and after each of them
both keep the same texts under the same names. A name that is no field is unknown, and the only other fault is a text that
is kept and cannot be read back. -/
theorem stores_interchangeable (hw : w.Fresh n .memory) (hv : v.Fresh m .rows) (calls : List StoreAction) :
    (∃ xs, StoreCalls n w calls xs) ∧ (∃ ys, StoreCalls m v calls ys) ∧
      ∀ xs ys, StoreCalls n w calls xs → StoreCalls m v calls ys →
        List.Forall₂ SameStep xs ys ∧ List.Forall₂ Comes calls xs :=
  ⟨some_calls hw.toOffers calls, some_calls hv.toOffers calls, fun _ _ => (paired_fresh hw hv).calls⟩

/-- A field is set to a text that cannot be read back, and the record is replaced after that. -/
theorem interchangeable_replaced :
    (({ sessions := [{}] } : World).Fresh 0 .memory ∧
      ({ sessions := [{}], storage := { kind := .rows } } : World).Fresh 0 .rows) ∧
    ∃ xs ys, StoreCalls 0 { sessions := [{}] } [.set (.text "number_of_shards") (.text "two"), .load,
        .get (.text "number_of_shards"), .get (.text "phase"), .save {}, .load] xs ∧
      StoreCalls 0 { sessions := [{}], storage := { kind := .rows } } [.set (.text "number_of_shards") (.text "two"), .load,
        .get (.text "number_of_shards"), .get (.text "phase"), .save {}, .load] ys ∧
      List.Forall₂ SameStep xs ys := by
  have hw : ({ sessions := [{}] } : World).Fresh 0 .memory := ⟨⟨by decide, rfl⟩, rfl, by decide, rfl⟩
  have hv : ({ sessions := [{}], storage := { kind := .rows } } : World).Fresh 0 .rows :=
    ⟨⟨by decide, rfl⟩, rfl, by decide, rfl⟩
  obtain ⟨⟨xs, hxs⟩, ⟨ys, hys⟩, hall⟩ := stores_interchangeable hw hv [.set (.text "number_of_shards") (.text "two"),
    .load, .get (.text "number_of_shards"), .get (.text "phase"), .save {}, .load]
  exact ⟨⟨hw, hv⟩, xs, ys, hxs, hys, (hall xs ys hxs hys).1⟩

end World

end Cutover
