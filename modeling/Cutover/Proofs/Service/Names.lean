import Cutover.Proofs.Value.Entries
import Cutover.Service.Answer

/-!
# Names in documents

A document that was read names each member of an object once, at every depth: of two members of one name the last
counts, at the place of the first.

* `Value.Named`: every object in a value names each member once;
* `Document.named_read`: **so does every document that was read**;
* `Reading.of_seq`: two readings that fit together fit each;
* `ResourcesDocument.nodup_shards`: a document of resources lists each shard once;
* `Answer.named_of_decode`: the document of an answer names each member once.
-/

namespace Cutover

/-- **Every object in the value names each member once.** -/
inductive Value.Named : Value → Prop
  | null : Named .null
  | bool (b : Bool) : Named (.bool b)
  | whole (n : Int) : Named (.whole n)
  | real (x : Double) : Named (.real x)
  | text (s : String) : Named (.text s)
  | list {items : List Value} (parts : ∀ v ∈ items, Named v) : Named (.list items)
  | object {members : Members} (names : (members.map Prod.fst).Nodup) (parts : ∀ m ∈ members, Named m.2) :
    Named (.object members)

namespace Document

variable {total fuel : Nat} {cs rest : Rest} {v : Value}

/-- What is read at the front is named, if anything is read. -/
def NamedFront (read : Except DocumentFault (Value × Rest)) : Prop := ∀ v rest, read = .ok (v, rest) → v.Named

theorem namedFront_ok (h : v.Named) : NamedFront (.ok (v, rest)) := by
  rintro _ _ ⟨⟩
  exact h

theorem namedFront_error (f : DocumentFault) : NamedFront (.error f) := by
  rintro _ _ ⟨⟩

theorem named_readNumber (total : Nat) (cs : Rest) : NamedFront (readNumber total cs) := by
  unfold readNumber
  dsimp only
  -- a number is whole or not; how its sign and its digits were found does not matter
  refine iteInduction (motive := NamedFront) (fun _ => namedFront_error _) fun _ => ?_
  split
  · exact namedFront_ok (.real _)
  · refine iteInduction (motive := NamedFront) (fun _ => ?_) fun _ => namedFront_ok (.real _)
    exact iteInduction (motive := NamedFront) (fun _ => namedFront_error _) fun _ => namedFront_ok (.whole _)

theorem named_readWord (h : readWord total cs = .ok (v, rest)) : v.Named := by
  unfold readWord at h
  dsimp only at h
  split at h
  next result hword =>
    obtain ⟨⟨word, value⟩, hmem, hvalue⟩ := List.exists_of_findSome?_eq_some hword
    obtain ⟨rest', -, hrest⟩ := Option.map_eq_some_iff.mp hvalue
    cases h
    cases hrest
    simp only [List.mem_cons, Prod.mk.injEq, List.not_mem_nil, or_false] at hmem
    rcases hmem with ⟨-, rfl⟩ | ⟨-, rfl⟩ | ⟨-, rfl⟩ | ⟨-, rfl⟩ | ⟨-, rfl⟩ | ⟨-, rfl⟩
    · exact .null
    · exact .bool _
    · exact .bool _
    · exact .real _
    · exact .real _
    · exact .real _
  next => exact named_readNumber _ _ _ _ h

/-- What is read with some budget is named: values, and lists and objects of which some parts were read before. -/
structure Names (total fuel : Nat) : Prop where
  value : ∀ cs v rest, readValue total fuel cs = .ok (v, rest) → v.Named
  items : ∀ done cs v rest, (∀ x ∈ done, Value.Named x) → readItems total fuel done cs = .ok (v, rest) → v.Named
  members : ∀ done cs v rest, (Value.object done).Named → readMembers total fuel done cs = .ok (v, rest) → v.Named

theorem named_empty : (Value.object []).Named := .object List.nodup_nil fun _ hm => absurd hm List.not_mem_nil

theorem named_put {done : Members} {value : Value} (h : (Value.object done).Named) (hv : value.Named) (name : String) :
    (Value.object (put done name value)).Named := by
  cases h with
  | object names parts =>
    refine .object (nodup_put names name value) fun m hm => ?_
    rcases mem_put hm with hm | rfl
    · exact parts m hm
    · exact hv

theorem names_succ (ih : Names total fuel) : Names total (fuel + 1) where
  value cs v rest h := by
    unfold readValue at h
    split at h
    next r =>
      cases hs : readText total ('"' :: r) (r.length + 1) [] r with
      | error f =>
        rw [hs] at h
        cases h
      | ok x =>
        rw [hs] at h
        cases h
        exact .text _
    next r =>
      split at h
      · cases h
        exact .list fun v hv => absurd hv List.not_mem_nil
      · exact ih.items _ _ _ _ (fun v hv => absurd hv List.not_mem_nil) h
    next r =>
      split at h
      · cases h
        exact named_empty
      · exact ih.members _ _ _ _ named_empty h
    next => exact named_readWord h
  items done cs v rest hdone h := by
    unfold readItems at h
    cases hvalue : readValue total fuel cs with
    | error f =>
      rw [hvalue] at h
      cases h
    | ok x =>
      rw [hvalue] at h
      have hall : ∀ y ∈ x.1 :: done, Value.Named y := by
        intro y hy
        rcases List.mem_cons.mp hy with rfl | hy
        · exact ih.value _ _ _ hvalue
        · exact hdone y hy
      simp only [bind, Except.bind] at h
      split at h
      · cases h
        exact .list fun y hy => hall y (List.mem_reverse.mp hy)
      · exact ih.items _ _ _ _ hall h
      · cases h
  members done cs v rest hdone h := by
    unfold readMembers at h
    split at h
    next r =>
      cases hname : readText total ('"' :: r) (r.length + 1) [] r with
      | error f =>
        rw [hname] at h
        cases h
      | ok x =>
        rw [hname] at h
        simp only [bind, Except.bind] at h
        split at h
        next r' _ =>
          cases hvalue : readValue total fuel (skipGap r') with
          | error f =>
            rw [hvalue] at h
            cases h
          | ok y =>
            rw [hvalue] at h
            have hput := named_put hdone (ih.value _ _ _ hvalue) x.1
            simp only at h
            split at h
            · cases h
              exact hput
            · exact ih.members _ _ _ _ hput h
            · cases h
        next => cases h
    next => cases h

theorem names (total fuel : Nat) : Names total fuel := by
  induction fuel with
  | zero =>
    refine ⟨fun cs v rest h => ?_, fun done cs v rest hdone h => ?_, fun done cs v rest hdone h => ?_⟩
    · unfold readValue at h
      cases h
    · unfold readItems at h
      cases h
    · unfold readMembers at h
      cases h
  | succ fuel ih => exact names_succ ih

theorem named_go (h : read.go total cs = .ok v) : v.Named := by
  unfold read.go at h
  cases hvalue : readValue total (2 * total + 2) (skipGap cs) with
  | error f =>
    rw [hvalue] at h
    cases h
  | ok x =>
    rw [hvalue] at h
    simp only [bind, Except.bind] at h
    split at h
    · cases h
      exact (names total _).value _ _ _ hvalue
    · cases h

/-- **Every document that was read names each member once**, at every depth. -/
theorem named_read {document : String} (h : read document = .ok v) : v.Named := by
  unfold read at h
  dsimp only at h
  split at h
  · split at h
    · cases h
    · exact named_go h
  · exact named_go h

end Document

namespace Reading

variable {α β : Type}

theorem of_seq {f : Reading (α → β)} {x : Reading α} {b : β} (h : f <*> x = fits b) :
    ∃ g a, f = fits g ∧ x = fits a ∧ g a = b := by
  have happly : apply f x = fits b := h
  cases f with
  | misfits i => cases x <;> cases happly
  | fits g =>
    cases x with
    | misfits i => cases happly
    | fits a =>
      cases happly
      exact ⟨g, a, rfl, rfl, rfl⟩

theorem of_map {f : α → β} {x : Reading α} {b : β} (h : f <$> x = fits b) : ∃ a, x = fits a ∧ f a = b := by
  obtain ⟨g, a, hg, hx, hb⟩ := of_seq (f := pure f) h
  cases hg
  exact ⟨a, hx, hb⟩

theorem of_under {step : Step} {x : Reading α} {a : α} (h : under step x = fits a) : x = fits a := by
  cases x with
  | misfits i => cases h
  | fits a' =>
    cases h
    rfl

theorem of_all {readings : List (Reading α)} {values : List α} (h : all readings = fits values) :
    readings = values.map fits := by
  induction readings generalizing values with
  | nil =>
    cases h
    rfl
  | cons x rest ih =>
    rw [all] at h
    obtain ⟨g, tail, hg, htail, rfl⟩ := of_seq h
    obtain ⟨a, rfl, rfl⟩ := of_map hg
    rw [ih htail, List.map_cons]

theorem names_members {read : Value → Reading α} {ms : Members} {entries : List (String × α)}
    (h : members read (.object ms) = fits entries) : entries.map Prod.fst = ms.map Prod.fst := by
  have hall := of_all h
  clear h
  induction ms generalizing entries with
  | nil =>
    rw [List.map_nil] at hall
    rw [List.map_eq_nil_iff.mp hall.symm]
    rfl
  | cons m rest ih =>
    cases entries with
    | nil => cases hall
    | cons entry entries =>
      rw [List.map_cons, List.map_cons, List.cons.injEq] at hall
      obtain ⟨a, -, rfl⟩ := of_map hall.1
      rw [List.map_cons, List.map_cons, ih hall.2]

theorem named_of_find {ms : Members} {name : Name} {found : String} {v : Value} (h : (Value.object ms).Named)
    (hfind : find? ms name = some (found, v)) : v.Named := by
  have hpart : ∀ {key : String}, ms.get? key = some v → v.Named := by
    intro key hkey
    obtain ⟨before, after, hms, -⟩ := List.lookup_eq_some_iff.mp hkey
    cases h with
    | object names parts => exact parts (key, v) (by simp [hms])
  unfold find? at hfind
  split at hfind
  next hspelled =>
    cases hfind
    exact hpart hspelled
  next =>
    obtain ⟨v', hplain, hfound⟩ := Option.map_eq_some_iff.mp hfind
    cases hfound
    exact hpart hplain

end Reading

namespace ResourcesDocument

/-- What is read for the shards of a value that names each member once lists each shard once. -/
theorem nodup_readShards {v : Value} {shards : Option ShardEntries} (hv : v.Named) (h : readShards v = .fits shards) :
    ((shards.getD []).map Prod.fst).Nodup := by
  unfold readShards at h
  split at h
  · cases h
    exact List.nodup_nil
  · obtain ⟨entries, hentries, rfl⟩ := Reading.of_map h
    cases hv with
    | object names parts =>
      rw [Option.getD_some, Reading.names_members hentries]
      exact names
    | _ => cases hentries

/-- **A document of resources lists each shard once.** -/
theorem nodup_shards {v : Value} {d : ResourcesDocument} (hv : v.Named) (h : read v = .fits d) :
    ((d.shards.getD []).map Prod.fst).Nodup := by
  cases hv with
  | object names parts =>
    rename_i ms
    -- the shards are the last of the nineteen fields
    obtain ⟨_, shards, hfields, hshards, rfl⟩ := Reading.of_seq h
    iterate 17
      replace hfields := Reading.of_seq hfields
      obtain ⟨_, _, hfields, -, rfl⟩ := hfields
    obtain ⟨_, -, rfl⟩ := Reading.of_map hfields
    show ((shards.getD []).map Prod.fst).Nodup
    unfold Reading.field at hshards
    split at hshards
    next found v hfound =>
      exact nodup_readShards (Reading.named_of_find (.object names parts) hfound) (Reading.of_under hshards)
    next =>
      cases hshards
      exact List.nodup_nil
  | _ => cases h

end ResourcesDocument

theorem Answer.named_of_decode {α : Type} {a : Answer} {c : Call} {what : String} {read : Value → Reading α} {d : α}
    (h : a.decode c what read = .ok d) : ∃ v, v.Named ∧ read v = .fits d := by
  unfold decode at h
  cases hdocument : a.document c with
  | error f =>
    rw [hdocument] at h
    cases h
  | ok v =>
    rw [hdocument] at h
    refine ⟨v, ?_, ?_⟩
    · unfold document at hdocument
      cases hcheck : a.check c with
      | error f =>
        rw [hcheck] at hdocument
        cases hdocument
      | ok u =>
        rw [hcheck] at hdocument
        cases hvalue : a.value? with
        | none =>
          rw [hvalue] at hdocument
          cases hdocument
        | some v' =>
          rw [hvalue] at hdocument
          cases hdocument
          obtain ⟨text, -, htext⟩ := Option.bind_eq_some_iff.mp hvalue
          cases hread : Document.read text with
          | error f =>
            rw [hread] at htext
            cases htext
          | ok v' =>
            rw [hread] at htext
            cases htext
            exact Document.named_read hread
    · cases hfits : read v with
      | misfits issues =>
        simp only [bind, Except.bind, hfits, Reading.toExcept] at h
        cases h
      | fits d' =>
        simp only [bind, Except.bind, hfits, Reading.toExcept] at h
        cases h
        rfl

end Cutover
