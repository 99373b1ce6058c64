import Cutover.Proofs.Control.Drafting

/-!
# Shards that a text gives

A text of entries is read as a whole, but its shards are collected one by one, up to the first without an id. So a text
that is refused may leave shards behind, and the text that puts it right then gives these once more.

* `Shard.Listed`, `parseShards_eq_ok_iff`: a text lists entries, and what shards are parsed from it;
* `Wizard.addEach_of_ids`, `Wizard.addEach_cut`: shards are added up to the first without an id;
* `Wizard.Collects`: **what comes of a text**, whether it can be read, is taken or is cut short;
* `Wizard.collected_up_to_blank`: that is what comes of each text, when nothing of a refused one is left, and what
  becomes of the text that puts it right.
-/

namespace Cutover

variable {text : String} {items : List Value} {entries before after : List Members} {engine : Value} {shards : List Shard}

/-! ## What a text lists -/

namespace Shard

/-- A text lists entries, in this order. -/
def Listed (text : String) (entries : List Members) : Prop :=
  Document.read text = .ok (.list (entries.map .object))

theorem listed_iff : Listed text entries ↔ (Document.read text).toOption = some (.list (entries.map .object)) := by
  unfold Listed
  cases Document.read text <;> simp [Except.toOption]

instance (text : String) (entries : List Members) : Decidable (Listed text entries) := decidable_of_iff' _ listed_iff

/-- An entry has a blank id, or none. -/
def Blank (entry : Members) : Prop := trimmed (entryText entry "shardId") = ""

instance (entry : Members) : Decidable (Blank entry) := inferInstanceAs (Decidable (_ = _))

theorem hasId_ofEntry (entry : Members) (engine : Value) : (ofEntry entry engine).hasId = true ↔ ¬Blank entry :=
  bne_iff_ne

end Shard

open Shard

theorem entries?_eq_some_iff : entries? items = some entries ↔ items = entries.map .object := by
  induction items generalizing entries with
  | nil => cases entries <;> simp [entries?]
  | cons item rest ih =>
    cases item with
    | object ms =>
      cases entries with
      | nil => simp [entries?]
      | cons e es =>
        simp only [entries?, Option.map_eq_some_iff, List.cons.injEq, ih, List.map_cons, Value.object.injEq]
        constructor
        · rintro ⟨es', hrest, hfirst, rfl⟩
          exact ⟨hfirst, hrest⟩
        · rintro ⟨hfirst, hrest⟩
          exact ⟨es, hrest, hfirst, rfl⟩
    | _ => cases entries <;> simp [entries?]

/-- **The shards of a text** are those of its entries, in their order. -/
theorem parseShards_eq_ok_iff :
    parseShards text engine = .ok shards ↔ ∃ entries, Listed text entries ∧ shards = entries.map (ofEntry · engine) := by
  constructor
  · intro h
    unfold parseShards at h
    split at h
    next items hread =>
      split at h
      next entries hentries =>
        rw [entries?_eq_some_iff.mp hentries] at hread
        exact ⟨entries, hread, (Except.ok.inj h).symm⟩
      next => cases h
    next => cases h
  · rintro ⟨entries, hlisted, rfl⟩
    unfold parseShards
    rw [hlisted]
    simp only [entries?_eq_some_iff.mpr rfl]

theorem parseShards_of_unlisted (h : ∀ entries, ¬Listed text entries) (engine : Value) :
    parseShards text engine = badShards .unreadable := by
  unfold parseShards
  split
  next items hread =>
    split
    next entries hentries =>
      rw [entries?_eq_some_iff.mp hentries] at hread
      exact absurd hread (h entries)
    next => rfl
  next => rfl

namespace Wizard

variable {w : Wizard} {s : Shard}

/-! ## One by one -/

theorem addEach_of_ids (w : Wizard) (h : ∀ s ∈ shards, s.hasId = true) :
    w.addEach shards = ({ w with shards := w.shards ++ shards }, .ok ()) := by
  induction shards generalizing w with
  | nil => rw [addEach, List.append_nil]
  | cons s rest ih =>
    obtain ⟨hs, hrest⟩ := List.forall_mem_cons.mp h
    rw [addEach, add, if_pos hs]
    exact (ih _ hrest).trans (by rw [List.append_assoc, List.singleton_append])

/-- **The first shard without an id ends it**; those before it stay. -/
theorem addEach_cut (w : Wizard) {front back : List Shard} (h : ∀ s ∈ front, s.hasId = true) (hs : s.hasId = false) :
    w.addEach (front ++ s :: back) = ({ w with shards := w.shards ++ front }, badShards .missingId) := by
  induction front generalizing w with
  | nil =>
    rw [List.nil_append, addEach, add, hs]
    simp [badShards]
  | cons first rest ih =>
    obtain ⟨hfirst, hrest⟩ := List.forall_mem_cons.mp h
    rw [List.cons_append, addEach, add, if_pos hfirst]
    exact (ih _ hrest).trans (by rw [List.append_assoc, List.singleton_append])

/-! ## A whole text -/

/-- The wizard with the shards of some entries added. -/
def taking (w : Wizard) (entries : List Members) : Wizard :=
  { w with shards := w.shards ++ entries.map (ofEntry · w.engine) }

/-- **What comes of a text.** One that lists no entries is refused. The shards of the others are added, all of them if
they have ids; else those before the first without one, and the text is refused all the same. -/
inductive Collects (w : Wizard) (text : String) : Wizard × Except Fault (List Shard) → Prop
  | unreadable (unlisted : ∀ entries, ¬Listed text entries) : Collects w text (w, badShards .unreadable)
  | taken {entries : List Members} (listed : Listed text entries) (ids : ∀ e ∈ entries, ¬Blank e) :
    Collects w text (w.taking entries, .ok (entries.map (ofEntry · w.engine)))
  | cutShort {before after : List Members} {entry : Members} (listed : Listed text (before ++ entry :: after))
    (ids : ∀ e ∈ before, ¬Blank e) (blank : Blank entry) : Collects w text (w.taking before, badShards .missingId)

theorem addText_of_listed (w : Wizard) (h : Listed text entries) :
    w.addText text = ((w.addEach (entries.map (ofEntry · w.engine))).1,
      (w.addEach (entries.map (ofEntry · w.engine))).2.map fun _ => entries.map (ofEntry · w.engine)) := by
  unfold addText
  rw [parseShards_eq_ok_iff.mpr ⟨entries, h, rfl⟩]

theorem hasId_of_entries (engine : Value) (h : ∀ e ∈ entries, ¬Blank e) :
    ∀ s ∈ entries.map (ofEntry · engine), s.hasId = true := by
  intro s hs
  obtain ⟨e, he, rfl⟩ := List.mem_map.mp hs
  exact (hasId_ofEntry e engine).mpr (h e he)

theorem Collects.eq {outcome : Wizard × Except Fault (List Shard)} (h : w.Collects text outcome) :
    w.addText text = outcome := by
  cases h with
  | unreadable unlisted =>
    unfold addText
    rw [parseShards_of_unlisted unlisted]
    rfl
  | taken listed ids =>
    rw [addText_of_listed w listed, addEach_of_ids w (hasId_of_entries w.engine ids)]
    rfl
  | @cutShort before after entry listed ids blank =>
    have hblank : (ofEntry entry w.engine).hasId = false := by
      rw [Bool.eq_false_iff, ne_eq, hasId_ofEntry, not_not]
      exact blank
    rw [addText_of_listed w listed, List.map_append, List.map_cons,
      addEach_cut w (hasId_of_entries w.engine ids) hblank]
    rfl

/-- The entries of a list all have ids, or there is a first one whose id is blank. -/
theorem exists_first_blank (entries : List Members) : (∀ e ∈ entries, ¬Blank e) ∨
    ∃ before entry after, entries = before ++ entry :: after ∧ (∀ e ∈ before, ¬Blank e) ∧ Blank entry := by
  cases hfind : entries.find? fun e => decide (Blank e) with
  | none =>
    refine .inl fun e he => ?_
    simpa using List.find?_eq_none.mp hfind e he
  | some entry =>
    obtain ⟨hblank, before, after, rfl, hbefore⟩ := List.find?_eq_some_iff_append.mp hfind
    exact .inr ⟨before, entry, after, rfl, fun e he => by simpa using hbefore e he, by simpa using hblank⟩

/-- **What comes of a text is one of the three.** -/
theorem collects_addText (w : Wizard) (text : String) : w.Collects text (w.addText text) := by
  by_cases hlisted : ∃ entries, Listed text entries
  · obtain ⟨entries, hlisted⟩ := hlisted
    rcases exists_first_blank entries with hids | ⟨before, entry, after, rfl, hids, hblank⟩
    · have htaken : w.Collects text _ := .taken hlisted hids
      exact htaken.eq ▸ htaken
    · have hcut : w.Collects text _ := .cutShort hlisted hids hblank
      exact hcut.eq ▸ hcut
  · have hunreadable : w.Collects text _ := .unreadable (not_exists.mp hlisted)
    exact hunreadable.eq ▸ hunreadable

/-! ## What a refused text leaves -/

/-- A text is cut short behind some entries: these have ids, and the next one is blank. -/
def CutBehind (text : String) (before : List Members) : Prop :=
  ∃ entry after, Listed text (before ++ entry :: after) ∧ (∀ e ∈ before, ¬Blank e) ∧ Blank entry

/-- **A refused text leaves shards behind** exactly if it is cut short behind an entry. -/
theorem leaves_shards_iff (w : Wizard) (text : String) :
    (∃ f, (w.addText text).2 = .error f ∧ (w.addText text).1 ≠ w) ↔ ∃ before, before ≠ [] ∧ CutBehind text before := by
  constructor
  · rintro ⟨f, hrefused, hchanged⟩
    have hcollects := collects_addText w text
    generalize w.addText text = outcome at hcollects hrefused hchanged
    cases hcollects with
    | unreadable _ => exact absurd rfl hchanged
    | taken _ _ => cases hrefused
    | @cutShort before after entry listed ids blank =>
      refine ⟨before, ?_, entry, after, listed, ids, blank⟩
      rintro rfl
      exact hchanged (by simp [taking])
  · rintro ⟨before, hsome, entry, after, hlisted, hids, hblank⟩
    rw [(Collects.cutShort (w := w) hlisted hids hblank).eq]
    refine ⟨_, rfl, fun hsame => hsome ?_⟩
    have hshards : w.shards ++ before.map (ofEntry · w.engine) = w.shards := congrArg Wizard.shards hsame
    simpa using hshards

/-- The entries with ids at the front of a text are all collected, whatever comes of the text. -/
theorem exists_shards_addText (w : Wizard) (hlisted : Listed text (before ++ after)) (hids : ∀ e ∈ before, ¬Blank e) :
    ∃ more, (w.addText text).1.shards = w.shards ++ before.map (ofEntry · w.engine) ++ more := by
  rcases exists_first_blank after with hafter | ⟨middle, entry, rest, rfl, hmiddle, hblank⟩
  · have hall : ∀ e ∈ before ++ after, ¬Blank e := List.forall_mem_append.mpr ⟨hids, hafter⟩
    refine ⟨after.map (ofEntry · w.engine), ?_⟩
    rw [(Collects.taken (w := w) hlisted hall).eq, taking, List.map_append, List.append_assoc]
  · have hall : ∀ e ∈ before ++ middle, ¬Blank e := List.forall_mem_append.mpr ⟨hids, hmiddle⟩
    rw [← List.append_assoc] at hlisted
    refine ⟨middle.map (ofEntry · w.engine), ?_⟩
    rw [(Collects.cutShort (w := w) hlisted hall hblank).eq, taking, List.map_append, List.append_assoc]

theorem not_valid_of_twice {front back twice : List Shard} (hsome : twice ≠ [])
    (htexts : ∀ s ∈ twice, ∃ id, s.id = .text id) : validateShards (front ++ twice ++ twice ++ back) ≠ .ok () := by
  intro hvalid
  obtain ⟨s, hs⟩ := List.exists_mem_of_ne_nil twice hsome
  have hdistinct := (submittable_of_valid hvalid).distinct
  rw [List.append_assoc, List.pairwise_append] at hdistinct
  have hother : s.id.same s.id = false := hdistinct.2.2 s (by simp [hs]) s (by simp [hs])
  obtain ⟨id, hid⟩ := htexts s hs
  rw [hid] at hother
  simp [Value.same] at hother

/-- **What a text leaves collected.** Of each text comes just what is told. Shards are left behind by a refused text
exactly if it is cut short behind an entry; and then no text that begins with the same entries mends it, since after
that the shards that are collected cannot be submitted. -/
theorem collected_up_to_blank (w : Wizard) (text : String) :
    (∀ outcome, w.addText text = outcome ↔ w.Collects text outcome) ∧
      ((∃ f, (w.addText text).2 = .error f ∧ (w.addText text).1 ≠ w) ↔
        ∃ before, before ≠ [] ∧ CutBehind text before) ∧
      ∀ before, before ≠ [] → CutBehind text before → ∀ mended rest, Listed mended (before ++ rest) →
        validateShards ((w.addText text).1.addText mended).1.shards ≠ .ok () := by
  refine ⟨fun outcome => ⟨?_, Collects.eq⟩, leaves_shards_iff w text, ?_⟩
  · rintro rfl
    exact collects_addText w text
  · rintro before hsome ⟨entry, after, hlisted, hids, hblank⟩ mended rest hmended
    obtain ⟨more, hshards⟩ := exists_shards_addText (w.taking before) hmended hids
    rw [(Collects.cutShort (w := w) hlisted hids hblank).eq, hshards]
    refine not_valid_of_twice (List.map_eq_nil_iff.not.mpr hsome) fun s hs => ?_
    obtain ⟨e, -, rfl⟩ := List.mem_map.mp hs
    exact ⟨_, rfl⟩

/-- A text of two entries, the second of which has a blank id. -/
def halfNamed : String := "[\x7b\"shardId\": \"a\"\x7d, \x7b\"shardId\": \" \"\x7d]"

/-- The text with both ids. -/
def bothNamed : String := "[\x7b\"shardId\": \"a\"\x7d, \x7b\"shardId\": \"b\"\x7d]"

/-- The entry of an id. -/
def entryOf (id : String) : Members := [("shardId", .text id)]

/-- A text that is refused for its second entry leaves the first, and so the mended text cannot be submitted. -/
theorem collected_halfNamed : Blank (entryOf " ") ∧
    ({} : Wizard).addText halfNamed = (({} : Wizard).taking [entryOf "a"], badShards .missingId) ∧
    validateShards ((({} : Wizard).addText halfNamed).1.addText bothNamed).1.shards ≠ .ok () := by
  have hhalf : Listed halfNamed ([entryOf "a"] ++ entryOf " " :: []) := by decide +kernel
  have hboth : Listed bothNamed ([entryOf "a"] ++ [entryOf "b"]) := by decide +kernel
  have hid : ∀ e ∈ [entryOf "a"], ¬Blank e := by decide +kernel
  have hblank : Blank (entryOf " ") := by decide +kernel
  obtain ⟨houtcome, -, hmended⟩ := collected_up_to_blank {} halfNamed
  exact ⟨hblank, (houtcome _).mpr (.cutShort hhalf hid hblank),
    hmended _ (List.cons_ne_nil _ _) ⟨_, _, hhalf, hid, hblank⟩ bothNamed _ hboth⟩

end Wizard

end Cutover
