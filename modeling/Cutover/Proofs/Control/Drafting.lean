import Cutover.Proofs.Control.Desk
import Mathlib.Logic.Function.Basic

/-!
# The draft of a request

What was set of a configuration since it was forgotten last is the draft of the next request. It is told from what
can be seen from outside: the calls that set a fragment and gave true, the shard connections that the service took,
and the ends of runs. The fragments of a session hold what was drafted, and a request that is assembled from them is
the one that the draft gives.

* `Draft`: what was set, fragment by fragment;
* `Draft.after`, `Draft.seeing`: what an action that has ended, and an effect of a task, leave of a draft;
* `FragmentSet.put`, `FragmentSet.content`: a fragment is given a value; what the fragments hold that are set;
* `Draft.Agrees`: the fragments hold what was drafted;
* `Draft.Gives`, `Draft.Agrees.gives`: **what is assembled from the fragments is what the draft gives**;
* `Draft.body`, `Draft.Gives.payload`: **the body of the launch call**, setting by setting.
-/

namespace Cutover

/-! ## Drafts -/

/-- What a fragment is set to. -/
abbrev Fragment.Content : Fragment → Type
  | target => Target
  | sourceProfile => Value
  | targetProfile => Value
  | streaming => StreamingTuning
  | staging => StagingTuning
  | compute => ComputeTuning
  | metadataPath => MetadataPath
  | shards => List Shard

/-- **What was set of a configuration** since it was forgotten last, fragment by fragment. -/
abbrev Draft := (f : Fragment) → Option f.Content

/-- Nothing was set. -/
def Draft.blank : Draft := fun _ => none

/-- A fragment was set; what it was set to before counts no more. -/
def Draft.set (d : Draft) (f : Fragment) (content : f.Content) : Draft := Function.update d f (some content)

/-- A name without the blanks around it. -/
def Value.stripped : Value → Value
  | text s => text (trimmed s)
  | v => v

namespace Shard

/-- The shard that the service was handed as an object. -/
def ofPayload? : Members → Option Shard
  | [("Driver", engine), ("IsSharded", _), ("Host", host), ("Port", port), ("Database", database), ("User", user),
      ("Password", password), ("DataShardId", id)] => some { id, engine, host, port, user, password, database }
  | _ => none

theorem ofPayload?_payload (s : Shard) : ofPayload? s.payload = some s := rfl

/-- The shards that the service was handed as a list. -/
def ofPayloads? : List Value → Option (List Shard)
  | [] => some []
  | .object ms :: rest => do return (← ofPayload? ms) :: (← ofPayloads? rest)
  | _ :: _ => none

theorem ofPayloads?_payloads (shards : List Shard) :
    ofPayloads? (shards.map fun s => .object s.payload) = some shards := by
  induction shards with
  | nil => rfl
  | cons s rest ih => simp [ofPayloads?, ofPayload?_payload, ih]

end Shard

/-- The shards that a message hands over to the service, if it does so. -/
def Message.shards? (m : Message) : Option (List Shard) :=
  if m.method = "POST" ∧ m.route = "/SetShardsSourceDBDetailsForBulk" then
    match m.body with
    | some (("DbConfigs", .list items) :: _) => Shard.ofPayloads? items
    | _ => none
  else none

theorem Call.shards?_setShards (shards : List Shard) : (setShards shards).message.shards? = some shards :=
  Shard.ofPayloads?_payloads shards

theorem Call.eq_setShards {c : Call} {shards : List Shard} (h : c.message.shards? = some shards) :
    c = .setShards shards := by
  cases c with
  | setShards shards' => rw [shards?_setShards] at h; rw [Option.some.inj h]
  | _ => simp [message, Message.shards?] at h

/-- What a task is there for: to work in the background, or to do what was called for. -/
inductive Errand where
  | background (b : Background)
  | action (a : Action)

namespace Errand

/-- It applies reports, and so it may complete a run. -/
def applies : Errand → Bool
  | background .pollLoop => true
  | action (.poll .once) => true
  | action (.run (.apply _)) => true
  | _ => false

/-- It launches a run with a request that is assembled for an order. -/
def order? : Errand → Option Order
  | action (.whole (.launch o)) => some o
  | _ => none

end Errand

namespace Draft

/-- **What is drafted once an action has given a result.** What was set replaces what was set before, and nothing is
left of a configuration that was forgotten. -/
def after (d : Draft) : Action → Result → Draft
  | .configure (.target target _), .truth true => d.set .target target
  | .configure (.sourceProfile name), .truth true => d.set .sourceProfile name.stripped
  | .configure (.targetProfile name), .truth true => d.set .targetProfile name.stripped
  | .configure (.metadata path), .truth true => d.set .metadataPath path
  | .configure (.streaming tuning _), .truth true => d.set .streaming tuning
  | .configure (.staging tuning _), .truth true => d.set .staging tuning
  | .configure (.compute tuning _), .truth true => d.set .compute tuning
  | .configure .reset, _ => blank
  | .whole .abandon, _ => blank
  | _, _ => d

/-- **What is drafted after an effect** of a task. The service may take shard connections, and the run may be
complete that the task applies reports to. -/
def seeing (d : Draft) (g : Errand) (x : Site) : (e : Effect) → e.Reply → Draft
  | .change y, _ =>
    if g.applies ∧ x.session.state.phase ≠ .complete ∧ y.session.state.phase = .complete then blank else d
  | .send m, .back (.answered a) =>
    match m.shards? with
    | some shards => if a.isError then d else d.set .shards shards
    | none => d
  | _, _ => d

theorem seeing_change (d : Draft) (g : Errand) (x y : Site) (u : Unit) : d.seeing g x (.change y) u =
    if g.applies ∧ x.session.state.phase ≠ .complete ∧ y.session.state.phase = .complete then blank else d := rfl

theorem seeing_other {d : Draft} {g : Errand} {x : Site} {e : Effect} {r : e.Reply} (he : e.isOther = true)
    (hsend : ∀ m, e ≠ .send m) : d.seeing g x e r = d := by
  cases e with
  | change y => cases he
  | send m => exact absurd rfl (hsend m)
  | _ => rfl

/-- A message that hands over no shards drafts nothing, however it is answered. -/
theorem seeing_send {d : Draft} {g : Errand} {x : Site} {m : Message} {r : Waited Outcome} (hm : m.shards? = none) :
    d.seeing g x (.send m) r = d := by
  cases r with
  | back o =>
    cases o with
    | answered a =>
      show (match m.shards? with | some shards => if a.isError then d else d.set .shards shards | none => d) = d
      rw [hm]
    | _ => rfl
  | cancelled => rfl

theorem seeing_answered {d : Draft} {g : Errand} {x : Site} {m : Message} {shards : List Shard} {a : Answer}
    (hm : m.shards? = some shards) :
    d.seeing g x (.send m) (.back (.answered a)) = if a.isError then d else d.set .shards shards := by
  show (match m.shards? with | some shards => if a.isError then d else d.set .shards shards | none => d) = _
  rw [hm]

end Draft

/-! ## What the fragments hold -/

namespace FragmentSet

variable {s : FragmentSet} {f g : Fragment} {α : Type}

/-- The value of a fragment, whether it is set or not. -/
def value (s : FragmentSet) : Draft
  | .target => s.target
  | .sourceProfile => some s.sourceProfile
  | .targetProfile => some s.targetProfile
  | .streaming => s.streaming
  | .staging => s.staging
  | .compute => s.compute
  | .metadataPath => s.metadataPath
  | .shards => some s.shards

/-- A fragment is given a value. -/
def put (s : FragmentSet) : (f : Fragment) → f.Content → FragmentSet
  | .target, target => { s with target := some target }
  | .sourceProfile, name => { s with sourceProfile := name }
  | .targetProfile, name => { s with targetProfile := name }
  | .streaming, tuning => { s with streaming := some tuning }
  | .staging, tuning => { s with staging := some tuning }
  | .compute, tuning => { s with compute := some tuning }
  | .metadataPath, path => { s with metadataPath := some path }
  | .shards, shards => { s with shards }

/-- **What the fragments hold** that are set. -/
def content (s : FragmentSet) : Draft := fun f => s.ifSet f (s.value f)

theorem value_put (s : FragmentSet) (f : Fragment) (content : f.Content) :
    (s.put f content).value = s.value.set f content := by
  funext g
  cases f <;> cases g <;> rfl

theorem isSet_put (s : FragmentSet) (f g : Fragment) (content : f.Content) :
    (s.put f content).isSet g = s.isSet g := by
  cases f <;> rfl

theorem read_flag (s : FragmentSet) (f : Fragment) (read : FragmentSet → α)
    (hread : ∀ flags, read { s with flags } = read s) : read (s.flag f) = read s := by
  unfold flag
  split
  · rfl
  · exact hread _

/-- **Who sets a fragment finds it set**, and all others as they were. -/
theorem content_set (s : FragmentSet) (f : Fragment) (content : f.Content) :
    ((s.put f content).flag f).content = s.content.set f content := by
  have hvalue : ((s.put f content).flag f).value = s.value.set f content := by
    rw [read_flag _ _ value fun _ => rfl, value_put]
  funext g
  rw [FragmentSet.content, hvalue, ifSet]
  by_cases hg : g = f
  · subst hg
    rw [isSet_flag_self, if_pos rfl, Draft.set, Draft.set, Function.update_self, Function.update_self]
  · rw [isSet_flag_of_ne _ hg, isSet_put, Draft.set, Draft.set, Function.update_of_ne hg, Function.update_of_ne hg]
    rfl

end FragmentSet

/-- Shards that can be submitted: there are some, each has an id, and no id is another's. -/
structure Shard.Submittable (shards : List Shard) : Prop where
  nonempty : shards ≠ []
  hasIds : ∀ s ∈ shards, s.hasId = true
  distinct : shards.Pairwise fun s s' => s'.id.same s.id = false

/-- Ids that were checked are there, and apart from those seen before and from each other. -/
theorem checkIds_ok {seen : List Value} {shards : List Shard} (h : checkIds seen shards = .ok ()) :
    (∀ s ∈ shards, s.hasId = true ∧ seen.any s.id.same = false) ∧
      shards.Pairwise fun s s' => s'.id.same s.id = false := by
  induction shards generalizing seen with
  | nil => exact ⟨fun _ hs => absurd hs List.not_mem_nil, .nil⟩
  | cons s rest ih =>
    unfold checkIds at h
    split at h
    · cases h
    next hid =>
      split at h
      · cases h
      · split at h
        · cases h
        next hnew =>
          obtain ⟨hrest, hpairwise⟩ := ih h
          have hhead : s.hasId = true := by simpa using hid
          have hapart : seen.any s.id.same = false := by simpa using hnew
          refine ⟨List.forall_mem_cons.mpr ⟨⟨hhead, hapart⟩, fun s' hs' => ?_⟩, .cons (fun s' hs' => ?_) hpairwise⟩
          · obtain ⟨hid', hnew'⟩ := hrest s' hs'
            rw [List.any_cons, Bool.or_eq_false_iff] at hnew'
            exact ⟨hid', hnew'.2⟩
          · have hnew' := (hrest s' hs').2
            rw [List.any_cons, Bool.or_eq_false_iff] at hnew'
            exact hnew'.1

theorem Shard.submittable_of_valid {shards : List Shard} (h : validateShards shards = .ok ()) :
    Shard.Submittable shards := by
  unfold validateShards at h
  cases hids : checkIds [] shards with
  | error f =>
    rw [hids] at h
    cases h
  | ok _ =>
    rw [hids] at h
    obtain ⟨hids, hdistinct⟩ := checkIds_ok hids
    refine ⟨?_, fun s hs => (hids s hs).1, hdistinct⟩
    rintro rfl
    cases h

namespace Draft

/-- **The fragments hold what was drafted.** Shards are there if they are set, and can then be submitted. -/
structure Agrees (d : Draft) (s : FragmentSet) : Prop where
  content : s.content = d
  shards : s.shards = (d .shards).getD []
  valid : ∀ shards, d .shards = some shards → validateShards shards = .ok ()

variable {d : Draft} {s : FragmentSet}

theorem agrees_blank (hflags : s.flags = []) (hshards : s.shards = []) : blank.Agrees s where
  content := by
    funext f
    rw [FragmentSet.content, FragmentSet.ifSet, FragmentSet.isSet, hflags]
    rfl
  shards := hshards
  valid _ h := by cases h

theorem Agrees.set (h : d.Agrees s) {f : Fragment} (hf : f ≠ .shards) (content : f.Content) :
    (d.set f content).Agrees ((s.put f content).flag f) := by
  have hsame : d.set f content .shards = d .shards := Function.update_of_ne hf.symm _ _
  refine ⟨by rw [FragmentSet.content_set, h.content], ?_, fun shards hd => h.valid shards (hsame.symm.trans hd)⟩
  rw [hsame, FragmentSet.read_flag _ _ FragmentSet.shards fun _ => rfl, ← h.shards]
  cases f with
  | shards => exact absurd rfl hf
  | _ => rfl

theorem Agrees.setShards (h : d.Agrees s) {shards : List Shard} (hvalid : validateShards shards = .ok ()) :
    (d.set .shards shards).Agrees ((s.put .shards shards).flag .shards) := by
  have hnew : d.set .shards shards .shards = some shards := Function.update_self ..
  refine ⟨by rw [FragmentSet.content_set, h.content], ?_, fun shards' hd => ?_⟩
  · rw [hnew, FragmentSet.read_flag _ _ FragmentSet.shards fun _ => rfl]
    rfl
  · cases hnew.symm.trans hd
    exact hvalid

/-! ## What a draft gives -/

/-- **The request that a draft gives for an order.** What was drafted is in it, and what was not is left to its
default. There are target details, and a request for a sharded source has the shards that the service took. -/
structure Gives (d : Draft) (summary : Option Summary) (o : Order) (r : Request) : Prop where
  mode : r.mode = o.mode
  transfer : r.transfer = o.transfer
  isSharded : r.isSharded = o.sharded summary
  skipForeignKeys : r.skipForeignKeys = o.skipForeignKeys
  target : d .target = some r.target
  sourceProfile : r.sourceProfile = (d .sourceProfile).getD (.text "")
  targetProfile : r.targetProfile = (d .targetProfile).getD (.text "")
  streaming : r.streaming = d .streaming
  staging : r.staging = d .staging
  compute : r.compute = d .compute
  metadataPath : r.metadataPath = d .metadataPath
  sharded : r.isSharded.isTruthy = true → d .shards = some r.shards ∧ Shard.Submittable r.shards
  single : r.isSharded.isTruthy = false → r.shards = []

/-- A setting that was drafted with a fragment, or its default. -/
def told (d : Draft) (f : Fragment) (read : f.Content → Value) (default : Value) : Value :=
  ((d f).map read).getD default

/-- A setting that is empty by default. -/
def toldOrEmpty (d : Draft) (f : Fragment) (read : f.Content → Value) : Value := d.told f read (.text "")

/-- The settings of the workers, by the names under which the service takes them. -/
def computeSettings : List (String × (ComputeTuning → Value)) :=
  [("projectId", ComputeTuning.projectId), ("location", ComputeTuning.location), ("network", ComputeTuning.network),
    ("subnetwork", ComputeTuning.subnetwork), ("hostProjectId", ComputeTuning.hostProjectId),
    ("maxWorkers", ComputeTuning.maxWorkers), ("numWorkers", ComputeTuning.numWorkers),
    ("serviceAccountEmail", ComputeTuning.serviceAccountEmail), ("jobName", ComputeTuning.jobName),
    ("machineType", ComputeTuning.machineType), ("additionalUserLabels", ComputeTuning.additionalUserLabels),
    ("kmsKeyName", ComputeTuning.kmsKeyName), ("gcsTemplatePath", ComputeTuning.gcsTemplatePath),
    ("customJarPath", ComputeTuning.customJarPath), ("customClassName", ComputeTuning.customClassName),
    ("customParameter", ComputeTuning.customParameter)]

/-- How long staged files are kept, as the service reads it: no days, if they are kept forever. -/
def daysText (t : StagingTuning) : Value :=
  match t.days with
  | some q => .text q.text
  | none => .text "0"

/-- **The body of the launch call that a draft gives for an order**, setting by setting. -/
def body (d : Draft) (summary : Option Summary) (o : Order) : Members :=
  [("TargetDetails", .object
      [("TargetDB", d.toldOrEmpty .target Target.database), ("SourceConnProfile", d.toldOrEmpty .sourceProfile id),
        ("TargetConnProfile", d.toldOrEmpty .targetProfile id),
        ("ReplicationSlot", d.toldOrEmpty .target Target.replicationSlot),
        ("Publication", d.toldOrEmpty .target Target.publication),
        ("GcsMetadataPath", .object
          [("GcsBucketName", d.toldOrEmpty .metadataPath MetadataPath.bucket),
            ("GcsBucketRootPath", d.toldOrEmpty .metadataPath MetadataPath.root)])]),
    ("DatastreamConfig", .object
      [("maxConcurrentBackfillTasks", d.told .streaming (fun t => .text t.backfillTasks.text) (.text "50")),
        ("maxConcurrentCdcTasks", d.told .streaming (fun t => .text t.changeTasks.text) (.text "5"))]),
    ("GcsConfig", .object
      [("ttlInDays", d.told .staging daysText (.text "0")),
        ("ttlInDaysSet", d.told .staging (fun t => .bool t.days.isSome) (.bool false))]),
    ("DataflowConfig", .object (computeSettings.map fun p => (p.1, d.toldOrEmpty .compute p.2))),
    ("MigrationMode", .text o.mode.word), ("MigrationType", .text o.transfer.word),
    ("IsSharded", o.sharded summary), ("skipForeignKeys", o.skipForeignKeys)]

theorem told_of_none {f : Fragment} (h : d f = none) (read : f.Content → Value) (default : Value) :
    d.told f read default = default := by
  rw [told, h]
  rfl

theorem told_of_some {f : Fragment} {content : f.Content} (h : d f = some content) (read : f.Content → Value)
    (default : Value) : d.told f read default = read content := by
  rw [told, h]
  rfl

theorem streaming_told (d : Draft) : ((d .streaming).getD {}).payload =
    [("maxConcurrentBackfillTasks", d.told .streaming (fun t => .text t.backfillTasks.text) (.text "50")),
      ("maxConcurrentCdcTasks", d.told .streaming (fun t => .text t.changeTasks.text) (.text "5"))] := by
  cases h : d .streaming with
  | none =>
    rw [told_of_none h, told_of_none h]
    rfl
  | some t =>
    rw [told_of_some h, told_of_some h]
    rfl

theorem staging_told (d : Draft) : ((d .staging).getD {}).payload =
    [("ttlInDays", d.told .staging daysText (.text "0")),
      ("ttlInDaysSet", d.told .staging (fun t => .bool t.days.isSome) (.bool false))] := by
  cases h : d .staging with
  | none =>
    rw [told_of_none h, told_of_none h]
    rfl
  | some t =>
    rw [told_of_some h, told_of_some h]
    obtain ⟨_ | q⟩ := t <;> rfl

theorem compute_told (d : Draft) : ((d .compute).getD {}).payload =
    computeSettings.map fun p => (p.1, d.toldOrEmpty .compute p.2) := by
  cases h : d .compute with
  | none => simp only [computeSettings, List.map_cons, List.map_nil, toldOrEmpty, told_of_none h]; rfl
  | some t => simp only [computeSettings, List.map_cons, List.map_nil, toldOrEmpty, told_of_some h]; rfl

theorem metadata_told (d : Draft) : ((d .metadataPath).getD { bucket := .text "" }).payload =
    [("GcsBucketName", d.toldOrEmpty .metadataPath MetadataPath.bucket),
      ("GcsBucketRootPath", d.toldOrEmpty .metadataPath MetadataPath.root)] := by
  unfold toldOrEmpty
  cases h : d .metadataPath with
  | none =>
    rw [told_of_none h, told_of_none h]
    rfl
  | some p =>
    rw [told_of_some h, told_of_some h]
    rfl

/-- **The request that a draft gives says in its body what was drafted**, and for what was not, the default. -/
theorem Gives.payload {summary : Option Summary} {o : Order} {r : Request} (h : d.Gives summary o r) :
    r.payload = d.body summary o := by
  have htarget : ∀ read : Target → Value, d.toldOrEmpty .target read = read r.target := fun read =>
    told_of_some h.target read _
  have hname : ∀ name : Option Value, (name.map id).getD (.text "") = name.getD (.text "") := fun name => by
    rw [Option.map_id, id]
  have hsource : d.toldOrEmpty .sourceProfile id = r.sourceProfile := (hname _).trans h.sourceProfile.symm
  have htargets : d.toldOrEmpty .targetProfile id = r.targetProfile := (hname _).trans h.targetProfile.symm
  unfold Request.payload body
  dsimp only
  rw [h.streaming, h.staging, h.compute, h.metadataPath, streaming_told, staging_told, compute_told, metadata_told]
  simp only [htarget, hsource, htargets, h.isSharded, h.skipForeignKeys, h.mode, h.transfer]
  rfl

theorem of_assemble {summary : Option Summary} {o : Order} {r : Request} (h : assemble summary s o = .ok r) :
    missingFragments s o.transfer (o.sharded summary).isTruthy = [] ∧
      ((o.sharded summary).isTruthy = true → validateShards s.shards = .ok ()) ∧
      r = s.request o (o.sharded summary) (s.target.getD {}) := by
  cases hoffered : checkOffered summary o.mode o.transfer with
  | error f =>
    rw [assemble_of_unoffered hoffered] at h
    cases h
  | ok _ =>
    cases hmissing : missingFragments s o.transfer (o.sharded summary).isTruthy with
    | cons f rest =>
      rw [assemble_of_missing hoffered hmissing (List.cons_ne_nil f rest)] at h
      cases h
    | nil =>
      rw [assemble_of_accepted hoffered hmissing] at h
      cases hsharded : (o.sharded summary).isTruthy with
      | false =>
        rw [hsharded] at h
        exact ⟨rfl, (fun h => by cases h), (Except.ok.inj h).symm⟩
      | true =>
        rw [hsharded, if_pos rfl] at h
        cases hvalid : validateShards s.shards with
        | error f =>
          rw [hvalid] at h
          cases h
        | ok _ =>
          rw [hvalid] at h
          exact ⟨rfl, fun _ => rfl, (Except.ok.inj h).symm⟩

/-- **What is assembled from the fragments is what the draft gives.** -/
theorem Agrees.gives {summary : Option Summary} {o : Order} {r : Request} (h : d.Agrees s)
    (hr : assemble summary s o = .ok r) : d.Gives summary o r := by
  obtain ⟨hmissing, hvalid, rfl⟩ := of_assemble hr
  obtain rfl := h.content
  have hlacking := List.append_eq_nil_iff.mp hmissing
  have hset : s.isSet .target = true := by
    have hall := List.filter_eq_nil_iff.mp hlacking.2 .target List.mem_cons_self
    simpa using hall
  have hthere : s.targetUsable o.transfer = true := by
    have hfirst := hlacking.1
    rw [hset] at hfirst
    by_contra hunusable
    rw [Bool.not_eq_true] at hunusable
    rw [hunusable] at hfirst
    cases hfirst
  have hname : ∀ (f : Fragment) (name : Value),
      (if s.isSet f then name else .text "") = (s.ifSet f (some name)).getD (.text "") := fun f name => by
    rw [FragmentSet.ifSet]
    split <;> rfl
  refine ⟨rfl, rfl, rfl, rfl, ?_, hname _ _, hname _ _, rfl, rfl, rfl, rfl, fun hsharded => ?_, fun hsingle => if_neg ?_⟩
  · show s.ifSet .target s.target = some (s.target.getD {})
    unfold FragmentSet.targetUsable at hthere
    rw [FragmentSet.ifSet, hset, if_pos rfl]
    cases ht : s.target with
    | some t => rfl
    | none =>
      rw [ht] at hthere
      cases hthere
  · have hsubmittable := Shard.submittable_of_valid (hvalid hsharded)
    have hshards : (s.request o (o.sharded summary) (s.target.getD {})).shards = s.shards := if_pos hsharded
    rw [hshards]
    refine ⟨?_, hsubmittable⟩
    cases hd : s.content .shards with
    | some shards => rw [h.shards, hd]; rfl
    | none =>
      rw [h.shards, hd] at hsubmittable
      exact absurd rfl hsubmittable.nonempty
  · rw [show (o.sharded summary).isTruthy = false from hsingle]
    exact Bool.false_ne_true

end Draft

end Cutover
