import Cutover.Proofs.Assembly.Completeness
import Cutover.Proofs.Service.Names
import Cutover.Proofs.Shard.Collecting

/-!
# Nulls in the entries of shards

A field that is missing from an entry is empty, but one that is null is read as a word. So an entry without its nulls
gives the same shard only where no field of it that is read is null, and an id that is null counts as one: its shard is
collected and submitted like any other, where the shard of an entry without an id is not.

* `Shard.withoutNulls`, `Shard.spelledOut`: an entry without the members that are null, or with a word in their place;
* `Shard.ofEntry_spelledOut`: a null is read as that word;
* `Shard.ofEntry_withoutNulls_eq_iff`: when an entry without its nulls gives the same shard;
* `Wizard.HasIds`: all shards that are collected have ids;
* `Shard.NoId`, `Shard.Refused`: an entry whose id is missing or blank is neither collected nor submitted;
* `Shard.TakenAsWord`: one whose id is null is both;
* `Shard.nulls_spelled_out`: **what comes of the nulls in a text**.
-/

namespace Cutover

variable {entry : Members} {name : String} {text : String} {entries : List Members} {shards : List Shard}

namespace Shard

/-! ## Fields -/

/-- The fields of an entry that are read. -/
def entryFields : List String := ["shardId", "hostName", "port", "userName", "password", "dbName"]

/-- The entry without the members that are null. -/
def withoutNulls (entry : Members) : Members := entry.filter fun m => m.2 ≠ .null

/-- A value, or the word for null in its place. -/
def worded (v : Value) : Value := if v = .null then .text "None" else v

/-- The entry with the word for null in place of each null. -/
def spelledOut (entry : Members) : Members := entry.map fun m => (m.1, worded m.2)

theorem asText_worded (v : Value) : (worded v).asText = v.asText := by
  unfold worded
  split
  next hnull =>
    rw [hnull]
    rfl
  next => rfl

theorem get?_spelledOut (entry : Members) (name : String) :
    (spelledOut entry).get? name = (entry.get? name).map worded := by
  unfold Members.get? spelledOut
  induction entry with
  | nil => rfl
  | cons m rest ih =>
    rw [List.map_cons, List.lookup_cons, List.lookup_cons]
    split
    · rfl
    · exact ih

/-- A member that is null is missing without the nulls, where each name is there once, and the others stay. -/
theorem get?_withoutNulls (hnames : (entry.map Prod.fst).Nodup) (name : String) :
    (withoutNulls entry).get? name = if entry.get? name = some .null then none else entry.get? name := by
  unfold Members.get? withoutNulls
  induction entry with
  | nil => rfl
  | cons m rest ih =>
    obtain ⟨key, v⟩ := m
    obtain ⟨hnew, hrest⟩ := List.nodup_cons.mp hnames
    have ih := ih hrest
    have habsent : rest.lookup key = none :=
      List.lookup_eq_none_iff.mpr fun m hm => bne_iff_ne.mpr fun hkey => hnew (List.mem_map.mpr ⟨m, hm, hkey.symm⟩)
    by_cases hnull : v = .null
    · -- no other member of the name comes to the fore
      rw [List.filter_cons_of_neg (by simpa using hnull), ih, List.lookup_cons]
      by_cases hname : name = key
      · subst hname
        simp [habsent, hnull]
      · rw [beq_false_of_ne hname]
    · rw [List.filter_cons_of_pos (by simpa using hnull), List.lookup_cons, List.lookup_cons]
      by_cases hname : name = key
      · subst hname
        simp [hnull]
      · rw [beq_false_of_ne hname]
        exact ih

theorem entryText_spelledOut (entry : Members) (name : String) : entryText (spelledOut entry) name = entryText entry name := by
  unfold entryText Form.textOr Members.getD
  rw [get?_spelledOut]
  cases entry.get? name with
  | none => rfl
  | some v => exact asText_worded v

theorem entryText_of_null (h : entry.get? name = some .null) : entryText entry name = "None" := by
  unfold entryText Form.textOr Members.getD
  rw [h]
  rfl

theorem entryText_of_missing (h : entry.get? name = none) : entryText entry name = "" := by
  unfold entryText Form.textOr Members.getD
  rw [h]
  rfl

theorem entryText_withoutNulls_eq_iff (hnames : (entry.map Prod.fst).Nodup) (name : String) :
    entryText (withoutNulls entry) name = entryText entry name ↔ entry.get? name ≠ some .null := by
  have hget := get?_withoutNulls hnames name
  by_cases hnull : entry.get? name = some .null
  · rw [if_pos hnull] at hget
    rw [entryText_of_missing hget, entryText_of_null hnull]
    exact iff_of_false (by decide) (not_not_intro hnull)
  · rw [if_neg hnull] at hget
    unfold entryText Form.textOr Members.getD
    rw [hget]
    exact iff_of_true rfl hnull

/-! ## Shards -/

/-- **A null is read as the word for it.** -/
theorem ofEntry_spelledOut (entry : Members) (engine : Value) : ofEntry (spelledOut entry) engine = ofEntry entry engine := by
  simp only [ofEntry, entryText_spelledOut]

/-- **An entry without its nulls gives the same shard** exactly if no field of it that is read is null. -/
theorem ofEntry_withoutNulls_eq_iff (hnames : (entry.map Prod.fst).Nodup) (engine : Value) :
    ofEntry (withoutNulls entry) engine = ofEntry entry engine ↔ ∀ name ∈ entryFields, entry.get? name ≠ some .null := by
  have hfield := fun name => entryText_withoutNulls_eq_iff hnames name
  constructor
  · intro hsame name hname
    simp only [ofEntry, mk.injEq, Value.text.injEq, true_and] at hsame
    obtain ⟨hid, hhost, hport, huser, hpassword, hdatabase⟩ := hsame
    simp only [entryFields, List.mem_cons, List.not_mem_nil, or_false] at hname
    rcases hname with rfl | rfl | rfl | rfl | rfl | rfl
    · -- the id is trimmed, and the word for null has no blanks around it
      intro hnull
      have hmissing := (get?_withoutNulls hnames "shardId").trans (if_pos hnull)
      rw [entryText_of_null hnull, entryText_of_missing hmissing] at hid
      exact absurd hid (by decide +kernel)
    · exact (hfield _).mp hhost
    · exact (hfield _).mp hport
    · exact (hfield _).mp huser
    · exact (hfield _).mp hpassword
    · exact (hfield _).mp hdatabase
  · intro hsome
    have hread : ∀ name ∈ entryFields, entryText (withoutNulls entry) name = entryText entry name :=
      fun name hname => (hfield name).mpr (hsome name hname)
    simp only [entryFields, List.forall_mem_cons] at hread
    obtain ⟨hid, hhost, hport, huser, hpassword, hdatabase, -⟩ := hread
    simp only [ofEntry, hid, hhost, hport, huser, hpassword, hdatabase]

/-- The id of an entry is missing or blank. -/
def NoId (entry : Members) : Prop :=
  entry.get? "shardId" = none ∨ ∃ id, entry.get? "shardId" = some (.text id) ∧ trimmed id = ""

theorem NoId.blank (h : NoId entry) : Blank entry := by
  unfold Blank
  rcases h with hmissing | ⟨id, hid, hblank⟩
  · rw [entryText_of_missing hmissing]
    decide +kernel
  · unfold entryText Form.textOr Members.getD
    rw [hid]
    exact hblank

theorem id_of_null (h : entry.get? "shardId" = some .null) (engine : Value) : (ofEntry entry engine).id = .text "None" := by
  show Value.text (trimmed (entryText entry "shardId")) = _
  rw [entryText_of_null h]
  decide +kernel

theorem not_blank_of_null (h : entry.get? "shardId" = some .null) : ¬Blank entry := by
  unfold Blank
  rw [entryText_of_null h]
  decide +kernel

theorem isKey_of_checkIds {seen : List Value} (h : checkIds seen shards = .ok ()) : ∀ s ∈ shards, s.id.isKey = true := by
  induction shards generalizing seen with
  | nil => exact fun _ hs => absurd hs List.not_mem_nil
  | cons s rest ih =>
    unfold checkIds at h
    split at h
    · cases h
    · split at h
      · cases h
      next hkey =>
        split at h
        · cases h
        · exact List.forall_mem_cons.mpr ⟨by simpa using hkey, ih h⟩

theorem isKey_of_valid (h : validateShards shards = .ok ()) : ∀ s ∈ shards, s.id.isKey = true := by
  unfold validateShards at h
  cases hids : checkIds [] shards with
  | error f =>
    rw [hids] at h
    cases h
  | ok _ => exact isKey_of_checkIds hids

/-- The shard of an entry whose id is null is submitted with others, if the word for null is the id of none of them. -/
theorem valid_concat_null (hnull : entry.get? "shardId" = some .null) (engine : Value)
    (hshards : shards = [] ∨ validateShards shards = .ok ()) (hnew : ∀ s ∈ shards, (Value.text "None").same s.id = false) :
    validateShards (shards ++ [ofEntry entry engine]) = .ok () := by
  have hid := id_of_null hnull engine
  have hfront : ∀ s ∈ shards, s.hasId = true ∧ s.id.isKey = true := by
    rcases hshards with rfl | hvalid
    · exact fun _ hs => absurd hs List.not_mem_nil
    · exact fun s hs => ⟨(submittable_of_valid hvalid).hasIds s hs, isKey_of_valid hvalid s hs⟩
  have hdistinct : shards.Pairwise fun s s' => s'.id.same s.id = false := by
    rcases hshards with rfl | hvalid
    · exact .nil
    · exact (submittable_of_valid hvalid).distinct
  refine validateShards_of_submittable ?_ ⟨by simp, ?_, ?_⟩
  · refine List.forall_mem_append.mpr ⟨fun s hs => (hfront s hs).2, List.forall_mem_singleton.mpr ?_⟩
    rw [hid]
    rfl
  · refine List.forall_mem_append.mpr ⟨fun s hs => (hfront s hs).1, List.forall_mem_singleton.mpr ?_⟩
    rw [hasId, hid]
    rfl
  · refine List.pairwise_append.mpr ⟨hdistinct, List.pairwise_singleton _ _, fun s hs s' hs' => ?_⟩
    rw [List.mem_singleton.mp hs', hid]
    exact hnew s hs

end Shard

/-! ## Collected shards -/

namespace Wizard

open Shard

variable {w w' : Wizard} {s : Shard}

/-- All shards that are collected have ids. -/
def HasIds (w : Wizard) : Prop := ∀ s ∈ w.shards, s.hasId = true

theorem HasIds.add (h : w.HasIds) (hadd : w.add s = .ok w') : w'.HasIds := by
  unfold Wizard.add at hadd
  split at hadd
  next hid =>
    cases hadd
    exact List.forall_mem_append.mpr ⟨h, List.forall_mem_singleton.mpr hid⟩
  next => cases hadd

theorem HasIds.addEach (h : w.HasIds) (shards : List Shard) : (w.addEach shards).1.HasIds := by
  induction shards generalizing w with
  | nil => exact h
  | cons s rest ih =>
    unfold Wizard.addEach
    split
    next w' hadd => exact ih (h.add hadd)
    next => exact h

/-- **Whatever a text lists**, the shards that are collected have ids after it. -/
theorem HasIds.addText (h : w.HasIds) (text : String) : (w.addText text).1.HasIds := by
  unfold Wizard.addText
  split
  · exact h
  next shards _ => exact h.addEach shards

theorem addEntry_eq (w : Wizard) (entry : Members) : w.addEntry entry =
    if Blank entry then badShards .missingId
    else .ok ({ w with shards := w.shards ++ [ofEntry entry w.engine] }, ofEntry entry w.engine) := by
  have hid := hasId_ofEntry entry w.engine
  unfold addEntry add
  dsimp only
  by_cases hblank : Blank entry
  · rw [if_pos hblank, if_neg fun hsome => hid.mp hsome hblank]
    rfl
  · rw [if_neg hblank, if_pos (hid.mpr hblank)]
    rfl

end Wizard

/-! ## What comes of nulls -/

namespace Shard

/-- **An entry is refused**: its shard is neither collected, from the entry or from a text, nor submitted. -/
structure Refused (entry : Members) : Prop where
  unadded : ∀ w : Wizard, w.addEntry entry = badShards .missingId
  uncollected : ∀ (w : Wizard) (text : String), w.HasIds → ofEntry entry w.engine ∉ (w.addText text).1.shards
  unsubmitted : ∀ (engine : Value) (shards : List Shard), validateShards shards = .ok () → ofEntry entry engine ∉ shards

/-- **An entry is taken under the word for null**: its shard is collected, and submitted unless the word is the id of
another. -/
structure TakenAsWord (entry : Members) : Prop where
  id : ∀ engine, (ofEntry entry engine).id = .text "None"
  added : ∀ w : Wizard, w.addEntry entry =
    .ok ({ w with shards := w.shards ++ [ofEntry entry w.engine] }, ofEntry entry w.engine)
  submitted : ∀ (engine : Value) (shards : List Shard), shards = [] ∨ validateShards shards = .ok () →
    (∀ s ∈ shards, (Value.text "None").same s.id = false) → validateShards (shards ++ [ofEntry entry engine]) = .ok ()

theorem NoId.refused (h : NoId entry) : Refused entry where
  unadded w := by rw [Wizard.addEntry_eq, if_pos h.blank]
  uncollected w text hw hmem := (hasId_ofEntry entry w.engine).mp (hw.addText text _ hmem) h.blank
  unsubmitted engine _ hvalid hmem := (hasId_ofEntry entry engine).mp ((submittable_of_valid hvalid).hasIds _ hmem) h.blank

theorem takenAsWord_of_null (h : entry.get? "shardId" = some .null) : TakenAsWord entry where
  id := id_of_null h
  added w := by rw [Wizard.addEntry_eq, if_neg (not_blank_of_null h)]
  submitted engine _ hshards hnew := valid_concat_null h engine hshards hnew

/-- **What comes of the nulls in a text.** They are read as the word for null, whatever the engine. So a text without
them gives the same shards exactly if no field that is read is null. An entry whose id is missing or blank is refused,
and one whose id is null is taken under the word. -/
theorem nulls_spelled_out (hlisted : Listed text entries) (engine : Value) :
    (∀ spelled, Listed spelled (entries.map spelledOut) → parseShards spelled engine = parseShards text engine) ∧
      (∀ bare, Listed bare (entries.map withoutNulls) → (parseShards bare engine = parseShards text engine ↔
        ∀ e ∈ entries, ∀ name ∈ entryFields, e.get? name ≠ some .null)) ∧
      (∀ e, NoId e → Refused e) ∧ ∀ e : Members, e.get? "shardId" = some .null → TakenAsWord e := by
  have hparsed : ∀ {text entries}, Listed text entries → parseShards text engine = .ok (entries.map (ofEntry · engine)) :=
    fun hlisted => parseShards_eq_ok_iff.mpr ⟨_, hlisted, rfl⟩
  have hnames : ∀ e ∈ entries, (e.map Prod.fst).Nodup := by
    cases Document.named_read hlisted with
    | list parts =>
      intro e he
      cases parts _ (List.mem_map_of_mem he) with
      | object names _ => exact names
  refine ⟨fun spelled hspelled => ?_, fun bare hbare => ?_, fun _ => NoId.refused, fun _ => takenAsWord_of_null⟩
  · rw [hparsed hspelled, hparsed hlisted, List.map_map]
    exact congrArg _ (List.map_congr_left fun e _ => ofEntry_spelledOut e engine)
  · rw [hparsed hbare, hparsed hlisted, List.map_map, Except.ok.injEq, List.map_inj_left]
    exact forall₂_congr fun e he => ofEntry_withoutNulls_eq_iff (hnames e he) engine

/-- A text of one entry, whose id is null. -/
def nullId : String := "[\x7b\"shardId\": null, \"hostName\": \"h\"\x7d]"

/-- The text without it. -/
def bareId : String := "[\x7b\"hostName\": \"h\"\x7d]"

/-- The entry of the text gives a shard that is collected and can be submitted, where without its null it gives none. -/
theorem spelled_out_nullId :
    Listed nullId [[("shardId", .null), ("hostName", .text "h")]] ∧
    parseShards bareId (.text "mysql") ≠ parseShards nullId (.text "mysql") ∧
    ∃ s : Shard, s.id = .text "None" ∧
      ({ engine := .text "mysql" } : Wizard).addEntry [("shardId", .null), ("hostName", .text "h")] =
        .ok ({ engine := .text "mysql", shards := [s] }, s) ∧
      validateShards [s] = .ok () ∧
      ({ engine := .text "mysql" } : Wizard).addEntry [("hostName", .text "h")] = badShards .missingId := by
  have hlisted : Listed nullId [[("shardId", .null), ("hostName", .text "h")]] := by decide +kernel
  have hbare : Listed bareId ([[("shardId", .null), ("hostName", .text "h")]].map withoutNulls) := by decide +kernel
  obtain ⟨-, hiff, hrefused, htaken⟩ := nulls_spelled_out hlisted (.text "mysql")
  have hnull := htaken [("shardId", .null), ("hostName", .text "h")] rfl
  refine ⟨hlisted, fun hsame => ?_, _, hnull.id _, hnull.added { engine := .text "mysql" },
    hnull.submitted _ [] (.inl rfl) (by simp), (hrefused _ (.inl rfl)).unadded _⟩
  exact (hiff _ hbare).mp hsame _ List.mem_cons_self "shardId" List.mem_cons_self rfl

end Shard

end Cutover
