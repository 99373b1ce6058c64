import Cutover.Proofs.Control.Drafting

/-!
# What an order comes to

An order comes to a request exactly if its options are offered, the fragments it needs are there and the shards of a
sharded source can be submitted. Otherwise it comes to the first objection, of which there are five, in this order: the
mode, the transfer, the fragments, no shards, and the earliest shard that cannot be submitted.

* `Summary.OffersMode`, `Summary.OffersTransfer`: what a source offers;
* `FragmentSet.lacks`, `missingFragments_eq`: the fragments that are lacking, each once and in order;
* `Shard.Spoils`, `validateShards_of_spoils`: the earliest shard that cannot be submitted;
* `Order.Complete`: nothing stands against an order;
* `Order.ComesTo`: **what an order comes to**, the request or the first objection;
* `Order.assembled_iff_complete`: assembling gives just that.
-/

namespace Cutover

/-! ## What is offered -/

namespace Summary

variable {u : Summary} {mode : Mode} {transfer : Transfer}

/-- A source offers a mode: a session file holds nothing but the schema. -/
def OffersMode (u : Summary) (mode : Mode) : Prop := mode = .schemaOnly ∨ u.connectionType ≠ .text sessionFile

/-- The data of a source can be streamed: its engine is one that can be, and it is no session file. -/
def Streams (u : Summary) : Prop :=
  u.connectionType ≠ .text sessionFile ∧ ∃ name, u.databaseType = .text name ∧ lowered name ∈ streamingEngines

/-- A source offers a transfer. -/
def OffersTransfer (u : Summary) (transfer : Transfer) : Prop := transfer = .bulk ∨ u.Streams

theorem requireOffered_mode (h : u.OffersMode mode) : requireOffered mode u.offeredModes = .ok () := by
  have hcontains : u.offeredModes.contains mode = true := by
    unfold offeredModes isSessionFile
    rcases h with rfl | hfile
    · split <;> rfl
    · rw [decide_eq_false hfile]
      cases mode <;> rfl
  exact if_pos hcontains

theorem requireOffered_unoffered (h : ¬u.OffersMode mode) :
    requireOffered mode u.offeredModes = .error (.client (.unsupported mode.word [Mode.schemaOnly.word])) := by
  obtain ⟨hmode, hfile⟩ := not_or.mp h
  have hoffered : u.offeredModes = [.schemaOnly] := if_pos (decide_eq_true (not_not.mp hfile))
  rw [hoffered]
  cases mode with
  | schemaOnly => exact absurd rfl hmode
  | _ => rfl

theorem offeredTransfers_of_streams (h : u.Streams) : u.offeredTransfers = .ok [.bulk, .lowDowntime] := by
  obtain ⟨hfile, name, hname, hengine⟩ := h
  have hengine' : streamingEngines.contains (lowered name) = true := List.contains_iff_mem.mpr hengine
  have hfile' : u.isSessionFile = false := decide_eq_false hfile
  unfold offeredTransfers supportsStreaming
  rw [hname, hfile']
  show (if streamingEngines.contains (lowered name) && !false then _ else _) = _
  rw [hengine']
  rfl

/-- Where the engine has a name and the data cannot be streamed, it moves in bulk. -/
theorem offeredTransfers_of_not {name : String} (hname : u.databaseType = .text name) (h : ¬u.Streams) :
    u.offeredTransfers = .ok [.bulk] := by
  have hnot : (streamingEngines.contains (lowered name) && !u.isSessionFile) = false := by
    by_contra hboth
    rw [Bool.not_eq_false, Bool.and_eq_true, Bool.not_eq_true'] at hboth
    exact h ⟨of_decide_eq_false hboth.2, name, hname, List.contains_iff_mem.mp hboth.1⟩
  unfold offeredTransfers supportsStreaming
  rw [hname]
  show (if streamingEngines.contains (lowered name) && !u.isSessionFile then _ else _) = _
  rw [hnot]
  rfl

end Summary

/-- The engine of a source, if anything is known of the source, has a name. -/
def EngineNamed (summary : Option Summary) : Prop := ∀ u, summary = some u → ∃ name, u.databaseType = .text name

/-- **Both options of an order are offered**, or nothing is known of the source. -/
def Order.Offered (o : Order) (summary : Option Summary) : Prop :=
  ∀ u, summary = some u → u.OffersMode o.mode ∧ u.OffersTransfer o.transfer

section
variable {summary : Option Summary} {u : Summary} {o : Order}

theorem checkOffered_of_offered (hnamed : EngineNamed summary) (h : o.Offered summary) :
    checkOffered summary o.mode o.transfer = .ok () := by
  cases hknown : summary with
  | none => rfl
  | some u =>
    obtain ⟨hmode, htransfer⟩ := h u hknown
    obtain ⟨name, hname⟩ := hnamed u hknown
    unfold checkOffered
    simp only [Summary.requireOffered_mode hmode, bind, Except.bind]
    by_cases hstreams : u.Streams
    · rw [Summary.offeredTransfers_of_streams hstreams]
      cases o.transfer <;> rfl
    · rw [Summary.offeredTransfers_of_not hname hstreams, htransfer.resolve_right hstreams]
      rfl

theorem checkOffered_of_not_mode (h : ¬u.OffersMode o.mode) : checkOffered (some u) o.mode o.transfer =
    .error (.client (.unsupported o.mode.word [Mode.schemaOnly.word])) := by
  unfold checkOffered
  simp only [Summary.requireOffered_unoffered h, bind, Except.bind]

theorem checkOffered_of_not_transfer (hnamed : EngineNamed (some u)) (hmode : u.OffersMode o.mode)
    (h : ¬u.OffersTransfer o.transfer) : checkOffered (some u) o.mode o.transfer =
      .error (.client (.unsupported o.transfer.word [Transfer.bulk.word])) := by
  obtain ⟨htransfer, hstreams⟩ := not_or.mp h
  obtain ⟨name, hname⟩ := hnamed u rfl
  unfold checkOffered
  simp only [Summary.requireOffered_mode hmode, Summary.offeredTransfers_of_not hname hstreams, bind, Except.bind]
  cases hlow : o.transfer with
  | bulk => exact absurd hlow htransfer
  | lowDowntime => rfl

end

/-! ## What is lacking -/

/-- The fragments that a request may need, in their order. -/
def Fragment.inOrder : List Fragment := [.target, .streaming, .staging, .sourceProfile, .targetProfile]

/-- A request needs a fragment: the target always, the tunings and, for a source that is not sharded, the profiles for
low downtime. -/
def Fragment.isNeeded (transfer : Transfer) (isSharded : Bool) : Fragment → Bool
  | target => true
  | streaming | staging => transfer = .lowDowntime
  | sourceProfile | targetProfile => transfer = .lowDowntime && !isSharded
  | _ => false

namespace FragmentSet

variable {s : FragmentSet} {transfer : Transfer} {isSharded : Bool}

/-- A fragment is there: it is set, and target details suit the transfer as well. -/
def provides (s : FragmentSet) (transfer : Transfer) : Fragment → Bool
  | .target => s.isSet .target && s.targetUsable transfer
  | f => s.isSet f

theorem provides_target_iff :
    s.provides transfer .target = true ↔ s.isSet .target = true ∧ s.targetUsable transfer = true := by
  rw [provides, Bool.and_eq_true]

/-- A fragment is needed and not there. -/
def lacks (s : FragmentSet) (transfer : Transfer) (isSharded : Bool) (f : Fragment) : Bool :=
  f.isNeeded transfer isSharded && !s.provides transfer f

end FragmentSet

/-- **The missing fragments** are those that are lacking, each once and in order. -/
theorem missingFragments_eq (s : FragmentSet) (transfer : Transfer) (isSharded : Bool) :
    missingFragments s transfer isSharded = Fragment.inOrder.filter (s.lacks transfer isSharded) := by
  unfold missingFragments requiredFragments Fragment.inOrder
  -- Whether the target is set and suits decides on the head, the transfer and sharding on the rest.
  cases hset : s.isSet .target <;> cases husable : s.targetUsable transfer <;> cases transfer <;> cases isSharded <;>
    simp [List.filter_cons, FragmentSet.lacks, FragmentSet.provides, Fragment.isNeeded, hset, husable]

theorem missingFragments_eq_nil_iff {s : FragmentSet} {transfer : Transfer} {isSharded : Bool} :
    missingFragments s transfer isSharded = [] ↔
      ∀ f : Fragment, f.isNeeded transfer isSharded = true → s.provides transfer f = true := by
  rw [missingFragments_eq, List.filter_eq_nil_iff]
  constructor
  · intro h f hneeded
    have hmem : f ∈ Fragment.inOrder := by cases f <;> first | decide | cases hneeded
    simpa [FragmentSet.lacks, hneeded] using h f hmem
  · intro h f _ hlacks
    rw [FragmentSet.lacks, Bool.and_eq_true] at hlacks
    rw [h f hlacks.1] at hlacks
    cases hlacks.2

/-! ## Shards that cannot be submitted -/

namespace Shard

variable {shards rest : List Shard} {s : Shard} {seen : List Value} {f : ShardFault}

/-- Shards have ids, and no id is another's. -/
structure Apart (shards : List Shard) : Prop where
  hasIds : ∀ s ∈ shards, s.hasId = true
  distinct : shards.Pairwise fun s s' => s'.id.same s.id = false

/-- **The earliest shard that cannot be submitted**: those before it are apart, and it has no id or that of one of
them. -/
inductive Spoils (shards : List Shard) : ShardFault → Prop
  | missingId {before after : List Shard} {s : Shard} (split : shards = before ++ s :: after) (apart : Apart before)
    (noId : s.hasId = false) : Spoils shards .missingId
  | repeatedId {before after : List Shard} {s e : Shard} (split : shards = before ++ s :: after) (apart : Apart before)
    (hasId : s.hasId = true) (earlier : e ∈ before) (same : s.id.same e.id = true) : Spoils shards (.repeatedId s.id)

theorem Apart.concat (h : Apart shards) (hid : s.hasId = true) (hnew : ∀ e ∈ shards, s.id.same e.id = false) :
    Apart (shards ++ [s]) where
  hasIds := List.forall_mem_append.mpr ⟨h.hasIds, List.forall_mem_singleton.mpr hid⟩
  distinct := List.pairwise_append.mpr ⟨h.distinct, List.pairwise_singleton _ _,
    fun e he _ hs => List.mem_singleton.mp hs ▸ hnew e he⟩

theorem apart_or_spoils (shards : List Shard) : Apart shards ∨ ∃ f, Spoils shards f := by
  -- What is behind the front that is apart gets shorter.
  suffices h : ∀ rest front : List Shard, Apart front → Apart (front ++ rest) ∨ ∃ f, Spoils (front ++ rest) f from
    h shards [] ⟨fun _ hs => absurd hs List.not_mem_nil, .nil⟩
  intro rest
  induction rest with
  | nil =>
    intro front hfront
    exact .inl (by rwa [List.append_nil])
  | cons s rest ih =>
    intro front hfront
    cases hid : s.hasId with
    | false => exact .inr ⟨_, .missingId rfl hfront hid⟩
    | true =>
      by_cases hnew : ∀ e ∈ front, s.id.same e.id = false
      · have hnext := ih (front ++ [s]) (hfront.concat hid hnew)
        rwa [List.append_assoc, List.singleton_append] at hnext
      · simp only [not_forall, Bool.not_eq_false] at hnew
        obtain ⟨e, he, hsame⟩ := hnew
        exact .inr ⟨_, .repeatedId rfl hfront hid he hsame⟩

/-- Ids that are apart from each other and from those seen before are seen, one after the other. -/
theorem checkIds_of_apart (hkeys : ∀ s ∈ shards, s.id.isKey = true) (h : Apart shards)
    (hnew : ∀ s ∈ shards, seen.any s.id.same = false) :
    checkIds seen (shards ++ rest) = checkIds ((shards.map id).reverse ++ seen) rest := by
  induction shards generalizing seen with
  | nil => rfl
  | cons s tail ih =>
    obtain ⟨hkey, hkeys⟩ := List.forall_mem_cons.mp hkeys
    obtain ⟨hid, hids⟩ := List.forall_mem_cons.mp h.hasIds
    obtain ⟨hfirst, hnew⟩ := List.forall_mem_cons.mp hnew
    obtain ⟨hapart, hdistinct⟩ := List.pairwise_cons.mp h.distinct
    have hnext : ∀ s' ∈ tail, (s.id :: seen).any s'.id.same = false := fun s' hs' => by
      rw [List.any_cons, hapart s' hs', hnew s' hs', Bool.or_false]
    rw [List.cons_append, checkIds, hid, hkey, hfirst, List.map_cons, List.reverse_cons, List.append_assoc]
    exact ih hkeys ⟨hids, hdistinct⟩ hnext

theorem validateShards_of_submittable (hkeys : ∀ s ∈ shards, s.id.isKey = true) (h : Submittable shards) :
    validateShards shards = .ok () := by
  have hids : checkIds [] (shards ++ []) = checkIds ((shards.map id).reverse ++ []) [] :=
    checkIds_of_apart hkeys ⟨h.hasIds, h.distinct⟩ fun _ _ => rfl
  rw [List.append_nil] at hids
  unfold validateShards
  rw [hids]
  cases shards with
  | nil => exact absurd rfl h.nonempty
  | cons s rest => rfl

/-- **The earliest shard that cannot be submitted is objected to.** -/
theorem validateShards_of_spoils (hkeys : ∀ s ∈ shards, s.id.isKey = true) (h : Spoils shards f) :
    validateShards shards = badShards f := by
  suffices hids : checkIds [] shards = badShards f by
    unfold validateShards
    rw [hids]
    rfl
  cases h with
  | @missingId before after s split apart noId =>
    subst split
    rw [checkIds_of_apart (fun e he => hkeys e (List.mem_append_left _ he)) apart fun _ _ => rfl, checkIds, noId]
    rfl
  | @repeatedId before after s e split apart hasId earlier same =>
    subst split
    have hkey : s.id.isKey = true := hkeys s (by simp)
    have hseen : ((before.map id).reverse ++ []).any s.id.same = true := by
      rw [List.append_nil, List.any_reverse, List.any_map]
      exact List.any_eq_true.mpr ⟨e, earlier, same⟩
    rw [checkIds_of_apart (fun e he => hkeys e (List.mem_append_left _ he)) apart fun _ _ => rfl, checkIds, hasId,
      hkey, hseen]
    rfl

end Shard

/-! ## Orders -/

namespace Order

variable {o : Order} {summary : Option Summary} {s : FragmentSet} {outcome : Except Fault Request}

/-- All that an order needs is there. -/
def Provided (o : Order) (summary : Option Summary) (s : FragmentSet) : Prop :=
  ∀ f : Fragment, f.isNeeded o.transfer (o.sharded summary).isTruthy = true → s.provides o.transfer f = true

/-- **Nothing stands against an order**: its options are offered, all that it needs is there, and if the source is
sharded its shards can be submitted. -/
structure Complete (o : Order) (summary : Option Summary) (s : FragmentSet) : Prop where
  offered : o.Offered summary
  provided : o.Provided summary s
  shards : (o.sharded summary).isTruthy = true → Shard.Submittable s.shards

/-- **What an order comes to**: the first of the objections that apply, or the request. -/
inductive ComesTo (o : Order) (summary : Option Summary) (s : FragmentSet) : Except Fault Request → Prop
  | modeUnoffered {u : Summary} (known : summary = some u) (mode : ¬u.OffersMode o.mode) :
    ComesTo o summary s (.error (.client (.unsupported o.mode.word [Mode.schemaOnly.word])))
  | transferUnoffered {u : Summary} (known : summary = some u) (mode : u.OffersMode o.mode)
    (transfer : ¬u.OffersTransfer o.transfer) :
    ComesTo o summary s (.error (.client (.unsupported o.transfer.word [Transfer.bulk.word])))
  | incomplete {missing : List Fragment} (offered : o.Offered summary) (nonempty : missing ≠ [])
    (lacking : missing = Fragment.inOrder.filter (s.lacks o.transfer (o.sharded summary).isTruthy)) :
    ComesTo o summary s (.error (.client (.incomplete (missing.map Fragment.word))))
  | noShards (offered : o.Offered summary) (provided : o.Provided summary s)
    (sharded : (o.sharded summary).isTruthy = true) (empty : s.shards = []) :
    ComesTo o summary s (.error (.client .noShards))
  | badShards {f : ShardFault} (offered : o.Offered summary) (provided : o.Provided summary s)
    (sharded : (o.sharded summary).isTruthy = true) (spoils : Shard.Spoils s.shards f) :
    ComesTo o summary s (.error (.client (.badShards f)))
  | request {target : Target} (complete : o.Complete summary s) (there : s.target = some target) :
    ComesTo o summary s (.ok (s.request o (o.sharded summary) target))

theorem ComesTo.eq (hnamed : EngineNamed summary) (hkeys : ∀ x ∈ s.shards, x.id.isKey = true)
    (h : o.ComesTo summary s outcome) : assemble summary s o = outcome := by
  cases h with
  | modeUnoffered known mode =>
    subst known
    exact assemble_of_unoffered (checkOffered_of_not_mode mode) s
  | transferUnoffered known mode transfer =>
    subst known
    exact assemble_of_unoffered (checkOffered_of_not_transfer hnamed mode transfer) s
  | incomplete offered nonempty lacking =>
    exact assemble_of_missing (checkOffered_of_offered hnamed offered) (lacking ▸ missingFragments_eq ..) nonempty
  | noShards offered provided sharded empty =>
    rw [assemble_of_accepted (checkOffered_of_offered hnamed offered) (missingFragments_eq_nil_iff.mpr provided),
      if_pos sharded, empty]
    rfl
  | badShards offered provided sharded spoils =>
    rw [assemble_of_accepted (checkOffered_of_offered hnamed offered) (missingFragments_eq_nil_iff.mpr provided),
      if_pos sharded, Shard.validateShards_of_spoils hkeys spoils]
    rfl
  | request complete there =>
    have hvalid : (if (o.sharded summary).isTruthy then validateShards s.shards else .ok ()) = .ok () := by
      split
      next hsharded => exact Shard.validateShards_of_submittable hkeys (complete.shards hsharded)
      next => rfl
    rw [assemble_of_accepted (checkOffered_of_offered hnamed complete.offered)
      (missingFragments_eq_nil_iff.mpr complete.provided), hvalid, there]
    rfl

theorem Provided.exists_target (h : o.Provided summary s) : ∃ target, s.target = some target := by
  have husable : s.targetUsable o.transfer = true := (FragmentSet.provides_target_iff.mp (h .target rfl)).2
  rw [FragmentSet.targetUsable] at husable
  cases hthere : s.target with
  | some target => exact ⟨target, rfl⟩
  | none =>
    rw [hthere] at husable
    cases husable

theorem exists_unoffered (h : ¬o.Offered summary) : ∃ outcome, o.ComesTo summary s outcome := by
  simp only [Offered, not_forall] at h
  obtain ⟨u, hknown, hunoffered⟩ := h
  by_cases hmode : u.OffersMode o.mode
  · exact ⟨_, .transferUnoffered hknown hmode fun htransfer => hunoffered ⟨hmode, htransfer⟩⟩
  · exact ⟨_, .modeUnoffered hknown hmode⟩

/-- **Every order comes to something.** -/
theorem exists_comesTo (o : Order) (summary : Option Summary) (s : FragmentSet) :
    ∃ outcome, o.ComesTo summary s outcome := by
  by_cases hoffered : o.Offered summary
  · by_cases hprovided : o.Provided summary s
    · cases hsharded : (o.sharded summary).isTruthy with
      | false =>
        obtain ⟨target, hthere⟩ := hprovided.exists_target
        exact ⟨_, .request ⟨hoffered, hprovided, fun h => by cases hsharded.symm.trans h⟩ hthere⟩
      | true =>
        rcases Shard.apart_or_spoils s.shards with hapart | ⟨f, hspoils⟩
        · by_cases hnone : s.shards = []
          · exact ⟨_, .noShards hoffered hprovided hsharded hnone⟩
          · obtain ⟨target, hthere⟩ := hprovided.exists_target
            exact ⟨_, .request ⟨hoffered, hprovided, fun _ => ⟨hnone, hapart.hasIds, hapart.distinct⟩⟩ hthere⟩
        · exact ⟨_, .badShards hoffered hprovided hsharded hspoils⟩
    · refine ⟨_, .incomplete hoffered ?_ rfl⟩
      rw [← missingFragments_eq]
      exact missingFragments_eq_nil_iff.not.mpr hprovided
  · exact exists_unoffered hoffered

/-- **A request is assembled exactly for a complete order**, and every other order comes to the first objection that
applies. Nothing is asked of the shards but that their ids can be looked up: it makes no difference whether they are
flagged. -/
theorem assembled_iff_complete (hnamed : EngineNamed summary) (hkeys : ∀ x ∈ s.shards, x.id.isKey = true) (o : Order) :
    ((∃ r, assemble summary s o = .ok r) ↔ o.Complete summary s) ∧
      ∀ outcome, assemble summary s o = outcome ↔ o.ComesTo summary s outcome := by
  obtain ⟨outcome, hcomes⟩ := exists_comesTo o summary s
  have heq := hcomes.eq hnamed hkeys
  refine ⟨⟨?_, fun hcomplete => ?_⟩, fun outcome' => ⟨?_, fun hcomes' => hcomes'.eq hnamed hkeys⟩⟩
  · rintro ⟨r, hr⟩
    rw [heq] at hr
    subst hr
    cases hcomes with
    | request complete _ => exact complete
  · obtain ⟨target, hthere⟩ := hcomplete.provided.exists_target
    exact ⟨_, (ComesTo.request hcomplete hthere).eq hnamed hkeys⟩
  · rintro rfl
    rw [heq]
    exact hcomes

/-- A shard with an id, and nothing else to tell it from others. -/
def idOnly (id : String) : Shard where
  id := .text id
  engine := .text "mysql"
  host := .text "h"
  port := .text "3306"
  user := .text "u"

/-- All that low downtime needs of a sharded source, the last of whose shards repeats the first. -/
def repeating : FragmentSet where
  flags := [.target, .streaming, .staging, .shards]
  target := some { database := .text "orders" }
  streaming := some {}
  staging := some {}
  shards := [idOnly "a", idOnly "b", idOnly "a"]

/-- A sharded source that can be streamed. -/
def shardedSource : Summary where
  databaseType := .text "MySQL"
  isSharded := .bool true

/-- Data is to be streamed. -/
def streamed : Order where
  mode := .schemaAndData
  transfer := .lowDowntime

/-- An order that is objected to for nothing but the last of its shards. -/
theorem assembled_repeating : EngineNamed (some shardedSource) ∧ (∀ x ∈ repeating.shards, x.id.isKey = true) ∧
    ¬streamed.Complete (some shardedSource) repeating ∧
    assemble (some shardedSource) repeating streamed = badShards (.repeatedId (.text "a")) := by
  have hnamed : EngineNamed (some shardedSource) := fun u hu => ⟨"MySQL", by rw [← Option.some.inj hu]; rfl⟩
  have hkeys : ∀ x ∈ repeating.shards, x.id.isKey = true := by decide
  have hoffered : streamed.Offered (some shardedSource) := fun u hu => by
    obtain rfl := Option.some.inj hu
    exact ⟨.inr (by decide), .inr ⟨by decide, "MySQL", rfl, by decide +kernel⟩⟩
  have hprovided : streamed.Provided (some shardedSource) repeating := by
    intro f
    cases f <;> decide
  have hsplit : repeating.shards = [idOnly "a", idOnly "b"] ++ idOnly "a" :: [] := rfl
  have hspoils : Shard.Spoils repeating.shards (.repeatedId (.text "a")) :=
    .repeatedId hsplit ⟨by decide, by decide +kernel⟩ (by decide) List.mem_cons_self (by decide +kernel)
  obtain ⟨hiff, houtcome⟩ := assembled_iff_complete hnamed hkeys streamed
  have hrefused := (houtcome _).mpr (.badShards hoffered hprovided rfl hspoils)
  refine ⟨hnamed, hkeys, fun hcomplete => ?_, hrefused⟩
  obtain ⟨r, hr⟩ := hiff.mpr hcomplete
  cases hrefused.symm.trans hr

end Order

end Cutover
