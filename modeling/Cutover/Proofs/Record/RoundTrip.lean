import Mathlib.Algebra.Group.Nat.Defs
import Cutover.Proofs.RunState.Soundness
import Cutover.Record

/-!
# From a state to its record and back

What the client makes itself are words, texts, truth values and whole numbers. A record of such values
is read back from its text as it was, and gives back the state it was made of.

* `readWhole_toString`: a whole number is read back from its text;
* `Record.decode_encode`: a plain record is read back from its text;
* `Record.toState_ofState`, `Record.readMode_ofState`, `Record.readTransfer_ofState`: a record gives
  back what it was made of.
-/

namespace Cutover

/-! ## Whole numbers -/

theorem plainNumeral_of_isPlainDigit {c : Char} (h : isPlainDigit c = true) : plainNumeral c = c := by
  simp only [isPlainDigit, Bool.and_eq_true, decide_eq_true_eq] at h
  rw [plainNumeral, if_pos (by omega)]

theorem digitRun_digits {cs : List Char} (h : ∀ c ∈ cs, isPlainDigit c = true) :
    digitRun cs = some (cs, []) := by
  induction cs with
  | nil => rfl
  | cons c r ih =>
    have hrest := ih fun d hd => h d (List.mem_cons_of_mem _ hd)
    simp [digitRun, h c List.mem_cons_self, hrest]

theorem isPlainDigit_toDigits {n : Nat} {c : Char} (h : c ∈ Nat.toDigits 10 n) :
    isPlainDigit c = true := by
  have hdigit := Nat.isDigit_of_mem_toDigits (by decide) (by decide) h
  simp only [Char.isDigit, Bool.and_eq_true, decide_eq_true_eq] at hdigit
  simp only [isPlainDigit, Bool.and_eq_true, decide_eq_true_eq]
  exact hdigit

theorem digitsValue_toDigits (n : Nat) : digitsValue (Nat.toDigits 10 n) = n :=
  Nat.ofDigitChars_ten_toDigits

theorem readPlainWhole_digits {cs : List Char} {negative : Bool} {n : Nat}
    (hn : n < 10 ^ digitLimit)
    (hcs : takeSign (trimFront isPlainBlank cs) = (negative, Nat.toDigits 10 n)) :
    readPlainWhole cs = .ok (signed negative n) := by
  have hdigits : ∀ c ∈ Nat.toDigits 10 n, isPlainDigit c = true := fun c hc => isPlainDigit_toDigits hc
  have hrun := digitRun_digits hdigits
  have hvalue := digitsValue_toDigits n
  have hlength : ¬ digitLimit < (Nat.toDigits 10 n).length := by
    rw [Nat.not_lt, Nat.length_toDigits_le_iff (by decide) (by decide)]
    exact hn
  unfold readPlainWhole
  rw [hcs]
  dsimp only
  revert hdigits hrun hvalue hlength
  cases hds : Nat.toDigits 10 n with
  | nil => exact absurd hds Nat.toDigits_ne_nil
  | cons c r =>
    intro hdigits hrun hvalue hlength
    simp only [if_pos (hdigits c List.mem_cons_self), hrun, if_neg hlength]
    simp [hvalue]

theorem takeSign_digits {cs : List Char} (h : ∀ c ∈ cs, isPlainDigit c = true) (hcs : cs ≠ []) :
    takeSign (trimFront isPlainBlank cs) = (false, cs) := by
  cases cs with
  | nil => exact absurd rfl hcs
  | cons c r =>
    have hc := h c List.mem_cons_self
    simp only [isPlainDigit, Bool.and_eq_true, decide_eq_true_eq] at hc
    have hblank : isPlainBlank c = false := by
      simp only [isPlainBlank, Bool.or_eq_false_iff, Bool.and_eq_false_iff, decide_eq_false_iff_not]
      omega
    rw [trimFront, List.dropWhile_cons, hblank, if_neg Bool.false_ne_true, takeSign]
    · rintro r' h'
      cases h'
      exact absurd hc.1 (by decide)
    · rintro r' h'
      cases h'
      exact absurd hc.1 (by decide)

/-- **A whole number is read back from its text**, unless it has too many digits to be read. -/
theorem readWhole_toString {n : Int} (h : n.natAbs < 10 ^ digitLimit) :
    readWhole (toString n) = .ok n := by
  have hmap : ∀ m : Nat, (Nat.toDigits 10 m).map plainNumeral = Nat.toDigits 10 m := fun m =>
    (List.map_congr_left fun c hc => plainNumeral_of_isPlainDigit (isPlainDigit_toDigits hc)).trans
      (List.map_id' _)
  rw [readWhole, Int.toString_eq_repr, Int.repr_eq_if]
  by_cases hn : 0 ≤ n
  · obtain ⟨m, rfl⟩ := Int.eq_ofNat_of_zero_le hn
    rw [if_pos hn, Nat.toList_repr, Int.toNat_natCast, hmap]
    have hsign : takeSign (trimFront isPlainBlank (Nat.toDigits 10 m)) = (false, Nat.toDigits 10 m) :=
      takeSign_digits (fun c hc => isPlainDigit_toDigits hc) Nat.toDigits_ne_nil
    exact readPlainWhole_digits h hsign
  · obtain ⟨m, rfl⟩ : ∃ m : Nat, n = -m := ⟨n.natAbs, by omega⟩
    rw [Int.natAbs_neg, Int.natAbs_natCast] at h
    have hsign : takeSign (trimFront isPlainBlank ('-' :: Nat.toDigits 10 m)) =
        (true, Nat.toDigits 10 m) := rfl
    rw [if_neg hn, Int.neg_neg, Int.toNat_natCast, String.toList_append, Nat.toList_repr,
      List.map_append, hmap]
    exact readPlainWhole_digits h hsign

/-! ## Plain records -/

namespace Value

/-- The value is a text. -/
def IsText (v : Value) : Prop := ∃ s, v = .text s

/-- The value is a truth value. -/
def IsFlag (v : Value) : Prop := ∃ b, v = .bool b

/-- The value is a whole number that can be read back from its text. -/
def IsWhole (v : Value) : Prop := ∃ n : Int, v = .whole n ∧ n.natAbs < 10 ^ digitLimit

end Value

theorem text_encodeValue {v : Value} (h : v.IsText) : Value.text (encodeValue v) = v := by
  obtain ⟨s, rfl⟩ := h
  rfl

theorem decodeFlag_encodeValue {v : Value} (h : v.IsFlag) (name : String) :
    decodeFlag name (.text (encodeValue v)) = .ok v := by
  obtain ⟨b, rfl⟩ := h
  cases b <;> rfl

theorem decodeWhole_encodeValue {v : Value} (h : v.IsWhole) :
    decodeWhole (.text (encodeValue v)) = .ok v := by
  obtain ⟨n, rfl, hn⟩ := h
  have hread : readWhole (encodeValue (.whole n)) = .ok n := by
    rw [encodeValue, Value.asText, Value.shown]
    · exact readWhole_toString hn
    · exact nofun
    · exact nofun
  rw [decodeWhole, hread]

namespace Record

/-- The fields are of the types that the client gives them. -/
structure Plain (r : Record) : Prop where
  texts : ∀ v ∈ [r.mode, r.transfer, r.phase, r.schemaMessage, r.dataMessage, r.foreignKeyMessage,
    r.errorText], v.IsText
  flags : ∀ v ∈ [r.inProgress, r.schemaStarted, r.dataStarted, r.dataCompleted, r.foreignKeysStarted,
    r.reconciled, r.targetSet], v.IsFlag
  wholes : ∀ v ∈ [r.schemaProgress, r.dataProgress, r.foreignKeyProgress, r.shardCount,
    r.instanceCount], v.IsWhole

theorem get?_storedIn (r : Record) (name : String) :
    (storedIn r.encode).get? name = (r.toMembers.get? name).map fun v => .text (encodeValue v) := by
  rw [storedIn, encode, List.map_map]
  induction r.toMembers with
  | nil => rfl
  | cons m rest ih =>
    obtain ⟨k, v⟩ := m
    simp only [Members.get?, List.map_cons, Function.comp_apply, List.lookup_cons] at ih ⊢
    cases hk : name == k with
    | true => rfl
    | false => exact ih

section
variable {r : Record} {name : String} {v : Value}

theorem flagIn_storedIn (hget : r.toMembers.get? name = some v) (h : v.IsFlag) :
    flagIn (storedIn r.encode) name = .ok v := by
  rw [flagIn, fieldIn, get?_storedIn, hget]
  exact decodeFlag_encodeValue h name

theorem wholeIn_storedIn (hget : r.toMembers.get? name = some v) (h : v.IsWhole) :
    wholeIn (storedIn r.encode) name = .ok v := by
  rw [wholeIn, fieldIn, get?_storedIn, hget]
  exact decodeWhole_encodeValue h

theorem textOr_storedIn (hget : r.toMembers.get? name = some v) (h : v.IsText) (default : String) :
    Form.textOr (storedIn r.encode) name default = v := by
  rw [Form.textOr, Members.getD, get?_storedIn, hget]
  exact text_encodeValue h

end

/-- **A plain record is read back from its text as it was.** -/
theorem decode_encode {r : Record} (h : r.Plain) : decode r.encode = .ok r := by
  obtain ⟨htexts, hflags, hwholes⟩ := h
  simp only [List.mem_cons, List.not_mem_nil, or_false, forall_eq_or_imp, forall_eq] at htexts
  simp only [List.mem_cons, List.not_mem_nil, or_false, forall_eq_or_imp, forall_eq] at hflags
  simp only [List.mem_cons, List.not_mem_nil, or_false, forall_eq_or_imp, forall_eq] at hwholes
  obtain ⟨hmode, htransfer, hphase, hschema, hdata, hforeignKeys, herror⟩ := htexts
  obtain ⟨hprogress, hschemaStarted, hdataStarted, hdataCompleted, hstarted, hreconciled, htarget⟩ :=
    hflags
  obtain ⟨hschemaProgress, hdataProgress, hforeignKeyProgress, hshards, hinstances⟩ := hwholes
  unfold decode ofStored
  rw [flagIn_storedIn rfl hprogress, flagIn_storedIn rfl hschemaStarted,
    flagIn_storedIn rfl hdataStarted, flagIn_storedIn rfl hdataCompleted,
    flagIn_storedIn rfl hstarted, wholeIn_storedIn rfl hschemaProgress,
    wholeIn_storedIn rfl hdataProgress, wholeIn_storedIn rfl hforeignKeyProgress,
    flagIn_storedIn rfl hreconciled, flagIn_storedIn rfl htarget, wholeIn_storedIn rfl hshards,
    wholeIn_storedIn rfl hinstances, textOr_storedIn rfl hmode, textOr_storedIn rfl htransfer,
    textOr_storedIn rfl hphase, textOr_storedIn rfl hschema, textOr_storedIn rfl hdata,
    textOr_storedIn rfl hforeignKeys, textOr_storedIn rfl herror]
  rfl

end Record

/-! ## Plain states -/

/-- The progress is a whole number within 0 and 100. -/
def Quantity.IsPlain (q : Quantity) : Prop := ∃ n : Int, q = .whole n ∧ 0 ≤ n ∧ n ≤ 100

/-- The state holds values of the types that the client gives them. -/
structure RunState.Plain (s : RunState) : Prop where
  schemaProgress : s.schemaProgress.IsPlain
  dataProgress : s.dataProgress.IsPlain
  foreignKeyProgress : s.foreignKeyProgress.IsPlain
  schemaMessage : s.schemaMessage.IsText
  dataMessage : s.dataMessage.IsText
  foreignKeyMessage : s.foreignKeyMessage.IsText
  errorText : s.errorText.IsText
  inProgress : s.inProgress.IsFlag
  reconciled : s.reconciled.IsFlag

/-- The counts of shards and instances are whole numbers. -/
structure Record.Context.Plain (c : Record.Context) : Prop where
  targetSet : c.targetSet.IsFlag
  shardCount : c.shardCount.IsWhole
  instanceCount : c.instanceCount.IsWhole

theorem Quantity.IsPlain.isWhole {q : Quantity} (h : q.IsPlain) : q.toValue.IsWhole := by
  obtain ⟨n, rfl, hlow, hhigh⟩ := h
  refine ⟨n, rfl, Nat.lt_of_le_of_lt (m := 100) (by omega) ?_⟩
  exact Nat.lt_of_lt_of_le (m := 10 ^ 3) (by decide) (Nat.pow_le_pow_right (by decide) (by decide))

theorem Value.isWhole_whole {n : Int} (h : 0 ≤ n) (h' : n ≤ 100) : (Value.whole n).IsWhole :=
  Quantity.IsPlain.isWhole (q := .whole n) ⟨n, rfl, h, h'⟩

theorem Quantity.IsPlain.isPercentage {q : Quantity} (h : q.IsPlain) : q.isPercentage = true := by
  obtain ⟨n, rfl, hlow, hhigh⟩ := h
  have hnone : (whole 100).isLess (whole n) = false := by
    rw [isLess_whole, decide_eq_false_iff_not]
    omega
  have hatMost : (whole n).isAtMost 100 = true := by
    rw [isAtMost, compare?_swap (whole 100) (whole n)]
    rw [isLess, compare?_whole] at hnone
    rw [compare?_whole]
    revert hnone
    cases compare 100 n <;> decide
  have hbelow : (whole n).isBelow 0 = false := by
    rw [isBelow_whole, decide_eq_false_iff_not]
    omega
  rw [Quantity.isPercentage, hatMost, hbelow]
  rfl

namespace Record

variable {s : RunState} {c : Context}

theorem isText_wordOrEmpty {α : Type} [Vocabulary α] (a : Option α) : (wordOrEmpty a).IsText := by
  cases a with
  | none => exact ⟨_, rfl⟩
  | some a => exact ⟨_, rfl⟩

/-- **The record of a plain state is plain.** -/
theorem plain_ofState (hs : s.Plain) (hc : c.Plain) : (ofState s c).Plain := by
  constructor
  · simp only [List.mem_cons, List.not_mem_nil, or_false, forall_eq_or_imp, forall_eq]
    exact ⟨isText_wordOrEmpty _, isText_wordOrEmpty _, ⟨_, rfl⟩, hs.schemaMessage, hs.dataMessage,
      hs.foreignKeyMessage, hs.errorText⟩
  · simp only [List.mem_cons, List.not_mem_nil, or_false, forall_eq_or_imp, forall_eq]
    exact ⟨hs.inProgress, ⟨_, rfl⟩, ⟨_, rfl⟩, ⟨_, rfl⟩, ⟨_, rfl⟩, hs.reconciled, hc.targetSet⟩
  · simp only [List.mem_cons, List.not_mem_nil, or_false, forall_eq_or_imp, forall_eq]
    exact ⟨hs.schemaProgress.isWhole, hs.dataProgress.isWhole, hs.foreignKeyProgress.isWhole,
      hc.shardCount, hc.instanceCount⟩

/-- **A record gives back the state it was made of.** -/
theorem toState_ofState (hs : s.Sound) : (ofState s c).toState = .ok s := by
  have hphase : (Vocabulary.read (ofState s c).phase : Except Fault Phase) = .ok s.phase := by
    rw [ofState]
    cases s.phase <;> rfl
  have hcheck := hs.check_eq
  simp only [toState, hphase, bind, Except.bind]
  exact hcheck

/-- **A record gives back the mode it was made with.** -/
theorem readMode_ofState : (ofState s c).readMode = .ok c.mode := by
  rcases c with ⟨_ | mode, _⟩
  · rfl
  · cases mode <;> rfl

/-- **A record gives back the transfer it was made with.** -/
theorem readTransfer_ofState : (ofState s c).readTransfer = .ok c.transfer := by
  rcases c with ⟨_, _ | transfer, _⟩
  · rfl
  · cases transfer <;> rfl

end Record

end Cutover
