import Cutover.Proofs.Service.Names
import Cutover.Proofs.World.Restart
import Mathlib.Data.List.Perm.Basic

/-!
# The list of resources, read off the document

A document of resources has single fields and, by shard, entries. It is read twice on the way to the list that a fetch
gives: into a map by shard, and from the map into one list. What comes out can be read off the document at once.

* `ResourcesDocument.listing`: the resources a document names, shard by shard;
* `ResourcesDocument.flattenResources_toShardMap`: **the two ways agree** where each shard is listed once;
* `ResourcesDocument.listing_perm`: nothing is lost and nothing doubled by the order of the shards;
* `World.fetched_listing`: **a fetch gives the listing of the document that was answered**, and keeps it.
-/

namespace Cutover

namespace ResourcesDocument

variable (d : ResourcesDocument)

/-- A resource of a single field, if it has a name. -/
def single? (kind : ResourceKind) (name url command : String) : Option Resource :=
  if name = "" then none else some { shard := "", kind, name, url, command }

/-- An entry that is listed under a shard, if it has a name. -/
def listed? (shard : String) (e : ResourceDocument) : Option Resource :=
  if e.name = "" then none
  else some { shard, kind := .ofLabel e.label, name := e.name, url := e.url, command := e.command }

/-- The named resources of the single fields, in the order of their kinds. -/
def singles : List Resource :=
  [single? .database d.databaseName d.databaseUrl "", single? .bucket d.bucketName d.bucketUrl "",
    single? .stream d.streamName d.streamUrl "",
    single? .pipeline d.pipelineName d.pipelineUrl d.pipelineCommand,
    single? .topic d.topicName d.topicUrl "",
    single? .subscription d.subscriptionName d.subscriptionUrl "",
    single? .dashboard d.dashboardName d.dashboardUrl "",
    single? .aggregateDashboard d.aggregateName d.aggregateUrl ""].filterMap id

/-- The named entries that are listed under a shard. -/
def listedUnder (shard : String × List ResourceDocument) : List Resource := shard.2.filterMap (listed? shard.1)

/-- **The resources a document names**: those of the single fields, then the entries under the empty shard id, then
those under each other shard, in the order of the document. -/
def listing : List Resource :=
  d.singles ++ ((d.shards.getD []).filter fun shard => shard.1 = "").flatMap listedUnder ++
    ((d.shards.getD []).filter fun shard => shard.1 ≠ "").flatMap listedUnder

/-! ## The map by shard -/

theorem namedEntries_eq (shard : String) (entries : List ResourceDocument) :
    namedEntries shard entries = listedUnder (shard, entries) := by
  unfold namedEntries listedUnder
  induction entries with
  | nil => rfl
  | cons e rest ih =>
    by_cases hname : e.name = ""
    · rw [List.filter_cons_of_neg (by simpa using hname), List.filterMap_cons_none (by exact if_pos hname)]
      exact ih
    · rw [List.filter_cons_of_pos (by simpa using hname), List.map_cons,
        List.filterMap_cons_some (b := e.toResource shard) (by exact if_neg hname)]
      exact congrArg _ ih

theorem filter_candidates : (d.candidates.filter fun r => r.name ≠ "") = d.singles := by
  have hmap : d.singles = (d.candidates.map fun r => if r.name = "" then none else some r).filterMap id := rfl
  rw [hmap, List.filterMap_map]
  induction d.candidates with
  | nil => rfl
  | cons r rest ih =>
    by_cases hname : r.name = ""
    · rw [List.filter_cons_of_neg (by simpa using hname), List.filterMap_cons_none (by exact if_pos hname), ih]
    · rw [List.filter_cons_of_pos (by simpa using hname), ih, List.filterMap_cons_some (b := r) (by exact if_neg hname)]

/-- The map so far, with the shards that are still to come: what is listed under the empty shard id goes to the front,
every other shard to the end. -/
theorem foldl_extend (shards : ShardEntries) (implicit : List Resource) (named : ShardMap)
    (hnodup : (shards.map Prod.fst).Nodup) (hnew : ∀ shard ∈ shards, shard.1 ∉ named.map Prod.fst) :
    shards.foldl (fun map (shard, entries) => extend map shard (namedEntries shard entries)) ((implicitShard, implicit) :: named)
      = (implicitShard, implicit ++ (shards.filter fun shard => shard.1 = "").flatMap listedUnder) ::
        (named ++ (shards.filter fun shard => shard.1 ≠ "").map fun shard => (shard.1, listedUnder shard)) := by
  induction shards generalizing implicit named with
  | nil => simp
  | cons first rest ih =>
    obtain ⟨shard, entries⟩ := first
    rw [List.map_cons, List.nodup_cons] at hnodup
    rw [List.foldl_cons]
    dsimp only
    by_cases hempty : shard = ""
    · subst hempty
      have hput : extend ((implicitShard, implicit) :: named) "" (namedEntries "" entries) =
          (implicitShard, implicit ++ listedUnder ("", entries)) :: named := by
        simp [extend, put, implicitShard, namedEntries_eq]
      rw [hput, ih _ _ hnodup.2 fun other hother => hnew other (List.mem_cons_of_mem _ hother)]
      simp
    · have hnone : shard ∉ ((implicitShard, implicit) :: named).map Prod.fst := by
        rw [List.map_cons, List.mem_cons, not_or]
        exact ⟨hempty, hnew _ List.mem_cons_self⟩
      have hput : extend ((implicitShard, implicit) :: named) shard (namedEntries shard entries) =
          (implicitShard, implicit) :: (named ++ [(shard, listedUnder (shard, entries))]) := by
        have hlookup : ((implicitShard, implicit) :: named).lookup shard = none :=
          List.lookup_eq_none_iff.mpr fun entry hentry =>
            bne_iff_ne.mpr fun hsame => hnone (List.mem_map.mpr ⟨entry, hentry, hsame.symm⟩)
        rw [extend, put_new hnone, hlookup, namedEntries_eq]
        rfl
      rw [hput, ih _ _ hnodup.2 ?_]
      · simp [hempty]
      · intro other hother hmem
        rw [List.map_append, List.mem_append] at hmem
        rcases hmem with hmem | hmem
        · exact hnew other (List.mem_cons_of_mem _ hother) hmem
        · have hsame : other.1 = shard := List.mem_singleton.mp hmem
          exact hnodup.1 (List.mem_map.mpr ⟨other, hother, hsame⟩)

theorem stamped_of_forall {shard : String} {resources : List Resource} (h : ∀ r ∈ resources, r.shard = shard) :
    stamped (shard, resources) = resources := by
  refine (List.map_congr_left fun r hr => ?_).trans (List.map_id resources)
  rw [← h r hr]
  rfl

theorem shard_of_mem_listedUnder {shard : String × List ResourceDocument} {r : Resource} (h : r ∈ listedUnder shard) :
    r.shard = shard.1 := by
  obtain ⟨e, -, he⟩ := List.mem_filterMap.mp h
  unfold listed? at he
  split at he
  · cases he
  · cases he
    rfl

theorem stamped_listedUnder (shard : String × List ResourceDocument) :
    stamped (shard.1, listedUnder shard) = listedUnder shard :=
  stamped_of_forall fun _ => shard_of_mem_listedUnder

theorem shard_of_mem_singles {r : Resource} (h : r ∈ d.singles) : r.shard = implicitShard := by
  rw [← filter_candidates] at h
  have hmem : r ∈ d.candidates := List.mem_of_mem_filter h
  simp only [candidates, List.mem_cons, List.not_mem_nil, or_false] at hmem
  rcases hmem with rfl | rfl | rfl | rfl | rfl | rfl | rfl | rfl <;> rfl

/-! ## The list -/

theorem flattenResources_cons (implicit : List Resource) {named : ShardMap} (h : ∀ entry ∈ named, entry.1 ≠ implicitShard) :
    flattenResources ((implicitShard, implicit) :: named) = stamped (implicitShard, implicit) ++ named.flatMap stamped := by
  have hfirst : ((implicitShard, implicit) :: named).filter (fun entry => entry.1 == implicitShard) =
      [(implicitShard, implicit)] := by
    rw [List.filter_cons_of_pos (by simp),
      List.filter_eq_nil_iff.mpr fun entry hentry => by simpa using h entry hentry]
  have hrest : ((implicitShard, implicit) :: named).filter (not ∘ fun entry => entry.1 == implicitShard) = named := by
    rw [List.filter_cons_of_neg (by simp), List.filter_eq_self.mpr fun entry hentry => by simpa using h entry hentry]
  rw [flattenResources, List.partition_eq_filter_filter, hfirst, hrest]
  rfl

/-- **The list made of the map by shard is what the document lists**, where each shard is listed once. -/
theorem flattenResources_toShardMap (hnodup : ((d.shards.getD []).map Prod.fst).Nodup) :
    flattenResources d.toShardMap = d.listing := by
  have hmap := foldl_extend (d.shards.getD []) d.singles [] hnodup fun _ _ => List.not_mem_nil
  have himplicit : stamped (implicitShard, d.singles ++
      ((d.shards.getD []).filter fun shard => shard.1 = "").flatMap listedUnder) =
      d.singles ++ ((d.shards.getD []).filter fun shard => shard.1 = "").flatMap listedUnder := by
    refine stamped_of_forall fun r hr => ?_
    rcases List.mem_append.mp hr with hr | hr
    · exact d.shard_of_mem_singles hr
    · obtain ⟨shard, hshard, hr⟩ := List.mem_flatMap.mp hr
      exact (shard_of_mem_listedUnder hr).trans (of_decide_eq_true (List.mem_filter.mp hshard).2)
  have hnamed : ∀ entry ∈ ((d.shards.getD []).filter fun shard => shard.1 ≠ "").map fun shard =>
      (shard.1, listedUnder shard), entry.1 ≠ implicitShard := by
    intro entry hentry
    obtain ⟨shard, hshard, rfl⟩ := List.mem_map.mp hentry
    exact of_decide_eq_true (List.mem_filter.mp hshard).2
  rw [toShardMap, filter_candidates, hmap, List.nil_append, flattenResources_cons _ hnamed, himplicit, List.flatMap_map]
  simp only [stamped_listedUnder]
  rfl

/-- **Nothing is lost and nothing doubled** by the order of the shards. -/
theorem listing_perm : d.listing.Perm (d.singles ++ (d.shards.getD []).flatMap listedUnder) := by
  rw [listing, List.append_assoc, ← List.flatMap_append]
  refine List.Perm.append_left _ (List.Perm.flatMap_right _ ?_)
  have hsplit := List.filter_append_perm (fun shard : String × List ResourceDocument => decide (shard.1 = ""))
    (d.shards.getD [])
  simpa only [decide_not] using hsplit

theorem named_of_mem_listing {r : Resource} (h : r ∈ d.listing) : r.name ≠ "" := by
  rcases List.mem_append.mp (d.listing_perm.mem_iff.mp h) with hr | hr
  · rw [← filter_candidates] at hr
    exact of_decide_eq_true (List.mem_filter.mp hr).2
  · obtain ⟨shard, -, hr⟩ := List.mem_flatMap.mp hr
    obtain ⟨e, -, he⟩ := List.mem_filterMap.mp hr
    unfold listed? at he
    split at he
    · cases he
    next hname =>
      cases he
      exact hname

end ResourcesDocument

/-! ## Fetching -/

namespace World

variable {n : Nat} {w w' : World} {r : Except Exit Result} {o : Outcome} {delay : Int}

/-- The resources, fetched unless they are kept, as a result. -/
def fetching : Op Result := .resources <$> Reconcile.fetch

/-- The service answers a request for the resources in one way. -/
def answeredBy (o : Outcome) : Surroundings :=
  .granting (fun _ => True) (fun m o' => m = Call.getResources.message → o' = o) ⟨o, fun _ => rfl⟩

/-- How a fetch ends that some answer is given to. -/
def FetchEnds (S : Surroundings) (c : Core) (r : Except Exit Result) (s' : Scene) : Prop :=
  ∃ o, S.answers Call.getResources.message o ∧ r = ((c.fetch o).result.map .resources).mapError .fault ∧
    s'.site.core = (c.fetch o).core

theorem meets_fetching {S : Surroundings} (hw : w.Rests n) (hwithin : S.within w.now) :
    fetching.Meets S.alone (fun r s' => FetchEnds S (w.site n).core r s' ∧
      s'.site.session.stateGate = (w.session n).stateGate) ⟨w.site n, [], []⟩ := by
  have hmeets : fetching.Meets S.behind (FetchEnds S (w.site n).core) ⟨w.site n, [], []⟩ := by
    refine Op.meets_map.mpr (Surroundings.meets_fetch (c := (w.site n).core) (p := []) ⟨rfl, rfl, hwithin⟩
      hw.fetchGate fun o s' ho h' => ⟨o, ho, ?_, h'.core⟩)
    cases ((w.site n).core.fetch o).result <;> rfl
  exact (Surroundings.meets_alone hmeets).mono fun _ _ h => ⟨h.1, h.2.1⟩

/-- **A fetch that is done alone comes to what the answer says.** -/
theorem Does.fetched (h : Does n fetching (w.answering ⟨o, delay⟩) w' r) (hw : w.Rests n) :
    r = (((w.site n).core.fetch o).result.map .resources).mapError .fault ∧
      (w'.site n).core = ((w.site n).core.fetch o).core ∧ w'.Rests n := by
  have hw' := hw.answering ⟨o, delay⟩
  obtain ⟨p, f, ⟨⟨o', ho, hr, hcore⟩, hgate⟩, -, -, hbeside⟩ := h.spec (S := answeredBy o) hw'.known rfl
    (canDo_of_boundless (meets_fetching hw' trivial)) (fun _ _ _ => trivial)
    (Answers.bears (replies_answering w ⟨o, delay⟩) fun _ _ h => h) (meets_fetching hw' trivial)
  obtain rfl : o' = o := ho rfl
  have hkept := Core.kept_fetch o' (w.site n).core
  have hcore : (w'.site n).core = ((w.site n).core.fetch o').core := hcore
  have hfetchGate : (w'.session n).fetchGate = ((w.site n).core.fetch o').core.session.fetchGate :=
    congrArg (fun c : Core => c.session.fetchGate) hcore
  exact ⟨hr, hcore, hbeside.length ▸ hw'.known, hgate.trans hw.stateGate,
    hfetchGate.trans (hkept.fetchGate.trans hw.fetchGate)⟩

theorem does_fetching (hw : w.Rests n) : ∃ w' r, Does n fetching w w' r := by
  obtain ⟨w', r, hdoes, -⟩ := does_ended (s := ⟨w.site n, [], []⟩) hw.known rfl
    (canDo_of_boundless (meets_fetching hw trivial))
  exact ⟨w', r, hdoes⟩

/-- **A fetch gives the listing of the document that was answered**: each named resource once, with the shard it is
listed under. The list is kept, so that a later fetch gives it too, whatever would be answered. -/
theorem fetched_listing {a : Answer} {d : ResourcesDocument} (hw : w.Rests n) (hnone : (w.session n).resources = none)
    (hdoc : a.decode .getResources "resources" ResourcesDocument.read = .ok d) (delay : Int) :
    ∃ w', Does n fetching (w.answering ⟨.answered a, delay⟩) w' (.ok (.resources d.listing)) ∧
      (∀ line, ∃ w'', Does n fetching (w'.answering line) w'' (.ok (.resources d.listing))) ∧
      d.listing.Perm (d.singles ++ (d.shards.getD []).flatMap ResourcesDocument.listedUnder) ∧
      ((d.shards.getD []).map Prod.fst).Nodup ∧ ∀ r ∈ d.listing, r.name ≠ "" := by
  obtain ⟨v, hv, hread⟩ := Answer.named_of_decode hdoc
  have hnodup := ResourcesDocument.nodup_shards hv hread
  have hanswer : (Outcome.answered a).resources = .ok d.listing := by
    have hmap : a.toShardMap = .ok d.toShardMap := by
      rw [Answer.toShardMap, hdoc]
      rfl
    rw [Outcome.resources, Outcome.shards, hmap, ← d.flattenResources_toShardMap hnodup]
    rfl
  -- a fetch whose core says so gives the listing
  have hgives : ∀ (u : World) (line : ScriptLine), u.Rests n →
      ((u.site n).core.fetch line.outcome).result = .ok d.listing →
      ∃ u', Does n fetching (u.answering line) u' (.ok (.resources d.listing)) ∧
        (u'.site n).core = ((u.site n).core.fetch line.outcome).core ∧ u'.Rests n := by
    intro u line hu hresult
    obtain ⟨u', r, hdoes⟩ := does_fetching (hu.answering line)
    obtain ⟨hr, hcore, hrests⟩ := hdoes.fetched (o := line.outcome) hu
    rw [hresult] at hr
    obtain rfl : r = .ok (.resources d.listing) := hr
    exact ⟨u', hdoes, hcore, hrests⟩
  have hcnone : (w.site n).core.session.resources = none := hnone
  have hfetch : ((w.site n).core.fetch (.answered a)).result = .ok d.listing ∧
      ((w.site n).core.fetch (.answered a)).core.session.resources = some d.listing := by
    rw [Core.fetch, hcnone, hanswer]
    exact ⟨rfl, rfl⟩
  obtain ⟨w', hdoes, hcore, hrests⟩ := hgives w ⟨.answered a, delay⟩ hw hfetch.1
  refine ⟨w', hdoes, fun line => ?_, d.listing_perm, hnodup, fun r hr => d.named_of_mem_listing hr⟩
  have hkept : (w'.site n).core.session.resources = some d.listing := by
    rw [hcore]
    exact hfetch.2
  obtain ⟨w'', hagain, -⟩ := hgives w' line hrests (by rw [Core.fetch, hkept]; rfl)
  exact ⟨w'', hagain⟩

/-- A document with one single resource, an unnamed and a named entry of a shard, an entry under the empty shard id, and
a shard without entries. -/
def mixedText : String :=
  "\x7b\"DatabaseName\":\"db\",\"ShardToShardResourcesMap\":\x7b\"a\":[\x7b\x7d,\x7b\"ResourceName\":\"x\"\x7d]," ++
    "\"\":[\x7b\"ResourceType\":\"stream\",\"ResourceName\":\"y\"\x7d],\"b\":[]\x7d\x7d"

def mixedAnswer : Answer := { body := mixedText.toUTF8.toList }

/-- The document comes to three resources, the one under the empty shard id before that of the shard. -/
theorem fetched_mixed : ∃ d : ResourcesDocument,
    (mixedAnswer.decode .getResources "resources" ResourcesDocument.read).toOption = some d ∧
      d.listing = [{ kind := .database, name := "db" }, { kind := .stream, name := "y" }, { shard := "a", name := "x" }] ∧
      ∃ w', Does 0 fetching (({ sessions := [{}] } : World).answering ⟨.answered mixedAnswer, 0⟩) w'
        (.ok (.resources d.listing)) := by
  have hdecoded : ((mixedAnswer.decode .getResources "resources" ResourcesDocument.read).toOption.map
      ResourcesDocument.listing) =
      some [{ kind := .database, name := "db" }, { kind := .stream, name := "y" }, { shard := "a", name := "x" }] := by
    decide +kernel
  cases hdoc : mixedAnswer.decode .getResources "resources" ResourcesDocument.read with
  | error f =>
    rw [hdoc] at hdecoded
    cases hdecoded
  | ok d =>
    rw [hdoc] at hdecoded
    obtain ⟨w', hdoes, -⟩ := fetched_listing (w := { sessions := [{}] }) (n := 0) ⟨by decide, rfl, rfl⟩ rfl hdoc 0
    exact ⟨d, rfl, Option.some.inj hdecoded, w', hdoes⟩

end World

end Cutover
