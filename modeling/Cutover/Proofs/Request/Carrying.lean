import Cutover.Assembly
import Mathlib

/-!
# What the body of a request carries

The body of a request tells all of its settings but one: two requests have the same body exactly if they have the same
settings once what is left open is replaced by its default. What it does not tell is the path of a streaming
configuration, by which a run with low downtime may name its target. The shards travel on their own.

* `Quantity.text_inj`: whole numbers and truth values are told apart by their texts;
* `StreamingTuning.payload_inj`, `StagingTuning.payload_inj`, …: each part of the body tells its settings;
* `Request.ToldAlike`: two requests have the same settings, as far as the body tells;
* `Request.payload_eq_iff`: **the body tells just these settings.**
-/

namespace Cutover

/-! ## Numbers -/

namespace Quantity

/-- A number is counted: it is a whole number, as the settings are meant to be, or a truth value, which counts as one. -/
def IsCounted : Quantity → Prop
  | real _ => False
  | _ => True

theorem toInt?_boolText (b : Bool) : (Value.boolText b).toInt? = none := by
  cases b <;> cbv

/-- **Counted numbers are told apart by their texts.** -/
theorem text_inj {p q : Quantity} (hp : p.IsCounted) (hq : q.IsCounted) (h : p.text = q.text) : p = q := by
  have hwhole : ∀ (b : Bool) (n : Int), (flag b).text ≠ (whole n).text := fun b n hsame => by
    have hread : (Value.boolText b).toInt? = (toString n).toInt? := congrArg String.toInt? hsame
    rw [toInt?_boolText, Int.toString_eq_repr, Int.toInt?_repr] at hread
    cases hread
  cases p with
  | real x => exact hp.elim
  | flag b =>
    cases q with
    | real x => exact hq.elim
    | flag b' => cases b <;> cases b' <;> first | rfl | exact absurd h (by decide)
    | whole n => exact absurd h (hwhole b n)
  | whole n =>
    cases q with
    | real x => exact hq.elim
    | flag b => exact absurd h.symm (hwhole b n)
    | whole m => rw [Int.repr_injective h]

end Quantity

/-! ## The parts of a body -/

attribute [ext] Target StreamingTuning

/-- The numbers of a tuning are counted. -/
def StreamingTuning.IsCounted (t : StreamingTuning) : Prop := t.backfillTasks.IsCounted ∧ t.changeTasks.IsCounted

/-- The number of days, if there is one, is counted. -/
def StagingTuning.IsCounted (t : StagingTuning) : Prop := ∀ q, t.days = some q → q.IsCounted

theorem StreamingTuning.payload_inj {t u : StreamingTuning} (ht : t.IsCounted) (hu : u.IsCounted)
    (h : t.payload = u.payload) : t = u := by
  simp only [payload, List.cons.injEq, Prod.mk.injEq, Value.text.injEq, true_and, and_true] at h
  have hbackfill : t.backfillTasks = u.backfillTasks := Quantity.text_inj ht.1 hu.1 h.1
  have hchange : t.changeTasks = u.changeTasks := Quantity.text_inj ht.2 hu.2 h.2
  exact StreamingTuning.ext hbackfill hchange

theorem StagingTuning.payload_inj {t u : StagingTuning} (ht : t.IsCounted) (hu : u.IsCounted)
    (h : t.payload = u.payload) : t = u := by
  obtain ⟨_ | p⟩ := t <;> obtain ⟨_ | q⟩ := u
  · rfl
  · simp [payload] at h
  · simp [payload] at h
  · simp only [payload, List.cons.injEq, Prod.mk.injEq, Value.text.injEq, Option.getD_some, true_and] at h
    rw [Quantity.text_inj (ht p rfl) (hu q rfl) h.1]

theorem ComputeTuning.payload_inj {t u : ComputeTuning} (h : t.payload = u.payload) : t = u := by
  cases t
  cases u
  simpa [payload] using h

theorem MetadataPath.payload_inj {p q : MetadataPath} (h : p.payload = q.payload) : p = q := by
  cases p
  cases q
  simpa [payload] using h

theorem Mode.toValue_inj {m n : Mode} (h : Vocabulary.toValue m = Vocabulary.toValue n) : m = n := by
  have hread : ∀ m : Mode, Vocabulary.find? (Vocabulary.toValue m) = some m := fun m => by cases m <;> rfl
  exact Option.some.inj ((hread m).symm.trans ((congrArg Vocabulary.find? h).trans (hread n)))

theorem Transfer.toValue_inj {t u : Transfer} (h : Vocabulary.toValue t = Vocabulary.toValue u) : t = u := by
  have hread : ∀ t : Transfer, Vocabulary.find? (Vocabulary.toValue t) = some t := fun t => by cases t <;> rfl
  exact Option.some.inj ((hread t).symm.trans ((congrArg Vocabulary.find? h).trans (hread u)))

/-! ## The whole body -/

namespace Request

variable {r r' : Request}

/-- The numbers of a request are counted. -/
structure IsCounted (r : Request) : Prop where
  streaming : ∀ t, r.streaming = some t → t.IsCounted
  staging : ∀ t, r.staging = some t → t.IsCounted

/-- **Two requests have the same settings**, as far as the body tells. -/
structure ToldAlike (r r' : Request) : Prop where
  database : r.target.database = r'.target.database
  replicationSlot : r.target.replicationSlot = r'.target.replicationSlot
  publication : r.target.publication = r'.target.publication
  sourceProfile : r.sourceProfile = r'.sourceProfile
  targetProfile : r.targetProfile = r'.targetProfile
  mode : r.mode = r'.mode
  transfer : r.transfer = r'.transfer
  isSharded : r.isSharded = r'.isSharded
  skipForeignKeys : r.skipForeignKeys = r'.skipForeignKeys
  streaming : r.streaming.getD {} = r'.streaming.getD {}
  staging : r.staging.getD {} = r'.staging.getD {}
  compute : r.compute.getD {} = r'.compute.getD {}
  metadataPath : r.metadataPath.getD { bucket := .text "" } = r'.metadataPath.getD { bucket := .text "" }

theorem IsCounted.streamingTuning (h : r.IsCounted) : (r.streaming.getD {}).IsCounted := by
  cases hs : r.streaming with
  | none => exact ⟨trivial, trivial⟩
  | some t => exact h.streaming t hs

theorem IsCounted.stagingTuning (h : r.IsCounted) : (r.staging.getD {}).IsCounted := by
  cases hs : r.staging with
  | none => exact fun q hq => by cases hq
  | some t => exact h.staging t hs

theorem toldAlike_of_payload (hr : r.IsCounted) (hr' : r'.IsCounted) (h : r.payload = r'.payload) : r.ToldAlike r' := by
  simp only [payload, List.cons.injEq, Prod.mk.injEq, Value.object.injEq, true_and, and_true] at h
  obtain ⟨⟨hdatabase, hsource, htarget, hslot, hpublication, hmetadata⟩, hstreaming, hstaging, hcompute, hmode, htransfer,
    hsharded, hskip⟩ := h
  exact {
    database := hdatabase
    replicationSlot := hslot
    publication := hpublication
    sourceProfile := hsource
    targetProfile := htarget
    mode := Mode.toValue_inj hmode
    transfer := Transfer.toValue_inj htransfer
    isSharded := hsharded
    skipForeignKeys := hskip
    streaming := StreamingTuning.payload_inj hr.streamingTuning hr'.streamingTuning hstreaming
    staging := StagingTuning.payload_inj hr.stagingTuning hr'.stagingTuning hstaging
    compute := ComputeTuning.payload_inj hcompute
    metadataPath := MetadataPath.payload_inj hmetadata }

theorem ToldAlike.payload_eq (h : r.ToldAlike r') : r.payload = r'.payload := by
  unfold payload
  rw [h.streaming, h.staging, h.compute, h.metadataPath, h.database, h.sourceProfile, h.targetProfile, h.replicationSlot,
    h.publication, h.mode, h.transfer, h.isSharded, h.skipForeignKeys]

/-- **The body of a request tells just these settings.** The path of a streaming configuration is the only one that is
not among them: target details with the same body are the same exactly if that path is. -/
theorem payload_eq_iff (hr : r.IsCounted) (hr' : r'.IsCounted) :
    (r.payload = r'.payload ↔ r.ToldAlike r') ∧
      (r.payload = r'.payload →
        (r.target = r'.target ↔ r.target.streamingConfigPath = r'.target.streamingConfigPath)) := by
  refine ⟨⟨toldAlike_of_payload hr hr', ToldAlike.payload_eq⟩, fun h => ⟨congrArg Target.streamingConfigPath, ?_⟩⟩
  have halike := toldAlike_of_payload hr hr' h
  exact fun hpath => Target.ext halike.database halike.replicationSlot halike.publication hpath

/-- All that low downtime needs, with a target that nothing but a path names. -/
def namedByPath (path : String) : FragmentSet where
  flags := [.target, .sourceProfile, .targetProfile, .streaming, .staging]
  target := some { streamingConfigPath := .text path }
  sourceProfile := .text "source"
  targetProfile := .text "target"
  streaming := some {}
  staging := some { days := some (.whole 7) }

/-- An order for low downtime. -/
def lowDowntime : Order where
  mode := .schemaAndData
  transfer := .lowDowntime

/-- The request that is assembled for such a target. -/
def streamedTo (path : String) : Request :=
  (namedByPath path).request lowDowntime (.bool false) { streamingConfigPath := .text path }

theorem isCounted_streamedTo (path : String) : (streamedTo path).IsCounted where
  streaming _ ht := Option.some.inj ht ▸ ⟨trivial, trivial⟩
  staging _ ht := Option.some.inj ht ▸ fun _ hq => Option.some.inj hq ▸ trivial

/-- Requests that are assembled for different targets have the same body, which names no target at all. -/
theorem payload_streamedTo :
    assemble none (namedByPath "gs://a") lowDowntime = .ok (streamedTo "gs://a") ∧
    assemble none (namedByPath "gs://b") lowDowntime = .ok (streamedTo "gs://b") ∧
    (streamedTo "gs://a").payload = (streamedTo "gs://b").payload ∧
    (streamedTo "gs://a").target ≠ (streamedTo "gs://b").target := by
  obtain ⟨hiff, htarget⟩ := payload_eq_iff (isCounted_streamedTo "gs://a") (isCounted_streamedTo "gs://b")
  have hpayload : (streamedTo "gs://a").payload = (streamedTo "gs://b").payload :=
    hiff.mpr ⟨rfl, rfl, rfl, rfl, rfl, rfl, rfl, rfl, rfl, rfl, rfl, rfl, rfl⟩
  exact ⟨rfl, rfl, hpayload, fun hsame => absurd ((htarget hpayload).mp hsame) (by decide)⟩

end Request

end Cutover
