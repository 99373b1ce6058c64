import Cutover.Proofs.Assembly.Completeness

/-!
# What an order sees of the fragments

Two sets of fragments look alike if they have the same flags and, where a flag is set, the same values. What lies in a
fragment without its flag is then of no account to an order, with one exception: the shards of a sharded source are
checked and handed over whether they are flagged or not.

* `FragmentSet.LooksLike`: two sets of fragments look alike;
* `FragmentSet.LooksLike.handing_eq`: they give the same request but for the shards;
* `FragmentSet.LooksLike.assemble_eq_iff`: an order tells them apart by what comes of submitting their shards;
* `FragmentSet.unflagged_unseen`: **what has no flag is not seen**, unless it is a shard;
* `Draft.Agrees.assemble_eq`: sessions whose fragments look alike are not told apart.
-/

namespace Cutover

/-- What comes of submitting shards: the shards, or what stands against them. -/
def submitted (shards : List Shard) : Except Fault (List Shard) := (validateShards shards).map fun _ => shards

theorem except_map_inj {ε α β : Type} {f : α → β} (hf : Function.Injective f) {x y : Except ε α} :
    x.map f = y.map f ↔ x = y := by
  cases x <;> cases y <;> simp [Except.map, hf.eq_iff]

namespace FragmentSet

variable {s s' : FragmentSet} {summary : Option Summary} {o : Order}

/-- **Two sets look alike**: they have the same flags, and the same values where a flag is set. -/
structure LooksLike (s s' : FragmentSet) : Prop where
  flags : ∀ f, s.isSet f = s'.isSet f
  values : ∀ f, s.isSet f = true → s.value f = s'.value f

/-- The request that the fragments give, with other shards. -/
def handing (s : FragmentSet) (o : Order) (isSharded : Value) (shards : List Shard) : Request :=
  { s.request o isSharded (s.target.getD {}) with shards }

theorem handing_injective (s : FragmentSet) (o : Order) (v : Value) : Function.Injective (s.handing o v) :=
  fun _ _ h => congrArg Request.shards h

/-- What is assembled where nothing stands against the options and the fragments. -/
theorem assemble_eq_handing (hoffered : checkOffered summary o.mode o.transfer = .ok ())
    (hmissing : missingFragments s o.transfer (o.sharded summary).isTruthy = []) :
    assemble summary s o = if (o.sharded summary).isTruthy then (submitted s.shards).map (s.handing o (o.sharded summary))
      else .ok (s.handing o (o.sharded summary) []) := by
  rw [assemble_of_accepted hoffered hmissing]
  unfold handing request submitted
  cases (o.sharded summary).isTruthy with
  | false => rfl
  | true => cases validateShards s.shards <;> rfl

namespace LooksLike

theorem content_eq (h : s.LooksLike s') : s.content = s'.content := by
  funext f
  unfold content ifSet
  rw [← h.flags f]
  split
  next hset => exact h.values f hset
  next => rfl

theorem targetUnusable_eq (h : s.LooksLike s') (transfer : Transfer) :
    (s.isSet .target && !s.targetUsable transfer) = (s'.isSet .target && !s'.targetUsable transfer) := by
  rw [← h.flags .target]
  cases hset : s.isSet .target with
  | false => rfl
  | true =>
    have htarget : s.target = s'.target := h.values .target hset
    rw [targetUsable, targetUsable, htarget]

theorem missing_eq (h : s.LooksLike s') (transfer : Transfer) (isSharded : Bool) :
    missingFragments s transfer isSharded = missingFragments s' transfer isSharded := by
  have hunset : (fun f => !s.isSet f) = fun f => !s'.isSet f := funext fun f => by rw [h.flags f]
  unfold missingFragments
  rw [h.targetUnusable_eq transfer, hunset]

/-- **They give the same request** but for the shards, once the target is set. -/
theorem handing_eq (h : s.LooksLike s') (hset : s.isSet .target = true) (o : Order) (v : Value) :
    s.handing o v = s'.handing o v := by
  have hcontent := fun f => congrFun h.content_eq f
  have htarget : s.target = s'.target := h.values .target hset
  have hname : ∀ f (name : FragmentSet → Value), (s.isSet f = true → name s = name s') →
      (if s.isSet f then name s else .text "") = if s'.isSet f then name s' else .text "" := by
    intro f name hsame
    rw [← h.flags f]
    split
    next hset => exact hsame hset
    next => rfl
  funext shards
  unfold handing request
  rw [Request.mk.injEq]
  exact ⟨by rw [htarget], rfl, rfl, hcontent .streaming, hcontent .staging, hcontent .compute, hcontent .metadataPath,
    hname .sourceProfile sourceProfile fun hset => Option.some.inj (h.values .sourceProfile hset),
    hname .targetProfile targetProfile fun hset => Option.some.inj (h.values .targetProfile hset), rfl, rfl, rfl⟩

/-- **What an order can tell of two sets that look alike** is what comes of submitting their shards, and that only for a
sharded source and where nothing else stands against it. -/
theorem assemble_eq_iff (h : s.LooksLike s') : assemble summary s o = assemble summary s' o ↔
    ((o.sharded summary).isTruthy = true → checkOffered summary o.mode o.transfer = .ok () →
      missingFragments s o.transfer (o.sharded summary).isTruthy = [] → submitted s.shards = submitted s'.shards) := by
  cases hoffered : checkOffered summary o.mode o.transfer with
  | error f =>
    rw [assemble_of_unoffered hoffered, assemble_of_unoffered hoffered]
    exact ⟨fun _ _ hok => (by cases hok), fun _ => rfl⟩
  | ok _ =>
    have hsame := h.missing_eq o.transfer (o.sharded summary).isTruthy
    cases hmissing : missingFragments s o.transfer (o.sharded summary).isTruthy with
    | cons f rest =>
      have hsome : f :: rest ≠ [] := List.cons_ne_nil f rest
      rw [assemble_of_missing hoffered hmissing hsome, assemble_of_missing hoffered (hsame ▸ hmissing) hsome]
      exact ⟨fun _ _ _ hnil => (by cases hnil), fun _ => rfl⟩
    | nil =>
      have hset : s.isSet .target = true :=
        (provides_target_iff.mp (missingFragments_eq_nil_iff.mp hmissing .target rfl)).1
      rw [assemble_eq_handing hoffered hmissing, assemble_eq_handing hoffered (hsame ▸ hmissing),
        ← h.handing_eq hset]
      cases hsharded : (o.sharded summary).isTruthy with
      | false => exact ⟨fun _ hsharded => (by cases hsharded), fun _ => rfl⟩
      | true =>
        rw [if_pos rfl, if_pos rfl, except_map_inj (handing_injective s o _)]
        exact ⟨fun hsubmitted _ _ _ => hsubmitted, fun hsubmitted => hsubmitted rfl rfl rfl⟩

/-- Where shards without their flag are the same, an order cannot tell the two sets apart. -/
theorem assemble_eq (h : s.LooksLike s') (hshards : s.isSet .shards = false → s.shards = s'.shards) :
    assemble summary s o = assemble summary s' o := by
  refine h.assemble_eq_iff.mpr fun _ _ _ => congrArg submitted ?_
  cases hset : s.isSet .shards with
  | false => exact hshards hset
  | true => exact Option.some.inj (h.values .shards hset)

end LooksLike

/-- **What has no flag is not seen**, unless it is a shard. An order comes to the same for two sets of fragments that
look alike and hold the same shards where these have no flag. Of such shards it tells what comes of submitting them, and
that only for a sharded source and where nothing else stands against it. -/
theorem unflagged_unseen (h : s.LooksLike s') (summary : Option Summary) (o : Order) :
    ((s.isSet .shards = false → s.shards = s'.shards) → assemble summary s o = assemble summary s' o) ∧
      (assemble summary s o = assemble summary s' o ↔
        ((o.sharded summary).isTruthy = true → checkOffered summary o.mode o.transfer = .ok () →
          missingFragments s o.transfer (o.sharded summary).isTruthy = [] → submitted s.shards = submitted s'.shards)) :=
  ⟨h.assemble_eq, h.assemble_eq_iff⟩

/-- A target is all that is set. -/
def plain : FragmentSet where
  flags := [.target]
  target := some { database := .text "orders" }

/-- Nothing more is set, but what was set before lies about. -/
def littered : FragmentSet :=
  { plain with
    sourceProfile := .text "stale"
    streaming := some {}
    compute := some { numWorkers := .text "9" }
    shards := [{ id := .text "a", engine := .text "mysql", host := .text "h", port := .text "3306", user := .text "u" }] }

/-- What lies about is not seen, except by an order for a sharded source, which takes the shard. -/
theorem unseen_littered : plain.LooksLike littered ∧
    assemble none plain { mode := .dataOnly, transfer := .bulk } =
      assemble none littered { mode := .dataOnly, transfer := .bulk } ∧
    assemble none plain { mode := .dataOnly, transfer := .bulk, isSharded := some (.bool true) } ≠
      assemble none littered { mode := .dataOnly, transfer := .bulk, isSharded := some (.bool true) } := by
  have hlike : plain.LooksLike littered := by
    refine ⟨fun f => rfl, fun f hset => ?_⟩
    cases f with
    | target => rfl
    | _ => cases hset
  refine ⟨hlike, (unflagged_unseen hlike none _).2.mpr fun hsharded => (by cases hsharded), fun hsame => ?_⟩
  have hsubmitted := (unflagged_unseen hlike none _).2.mp hsame rfl rfl rfl
  have hrefused : submitted plain.shards = .error (.client .noShards) := rfl
  rw [hrefused] at hsubmitted
  cases hsubmitted

end FragmentSet

theorem Draft.Agrees.shards_eq_nil {d : Draft} {s : FragmentSet} (h : d.Agrees s) (hunset : s.isSet .shards = false) :
    s.shards = [] := by
  rw [h.shards, ← h.content, FragmentSet.content, FragmentSet.ifSet, hunset]
  rfl

/-- **No order can tell sessions apart whose fragments look alike.** -/
theorem Draft.Agrees.assemble_eq {d d' : Draft} {s s' : FragmentSet} (h : d.Agrees s) (h' : d'.Agrees s')
    (hlike : s.LooksLike s') (summary : Option Summary) (o : Order) : assemble summary s o = assemble summary s' o :=
  hlike.assemble_eq fun hunset =>
    (h.shards_eq_nil hunset).trans (h'.shards_eq_nil ((hlike.flags .shards).symm.trans hunset)).symm

end Cutover
