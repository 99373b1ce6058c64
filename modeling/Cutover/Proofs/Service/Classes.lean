import Cutover.Session.Action
import Mathlib.Data.List.DropRight

/-!
# How answers are classed

Whatever the service answers to a call, and whatever stands in its way, comes to a value or to one fault. Which of them
it is can be told from the call, the status and the body alone.

* `Answer.Tells`: what an error status says;
* `Call.Classed`: **the classes of answers**, each with what it comes to;
* `Call.verdict`: what the client makes of an answer;
* `Call.classed_iff`: **the client makes of each answer what its class says**, and of no answer two things.
-/

namespace Cutover

/-! ## What an error says -/

namespace Answer

/-- The status is that of an error. -/
def Errs (a : Answer) : Prop := 400 ≤ a.status ∧ a.status ≤ 599

/-- **What an error says**: the text of the body without the line ends behind it; where nothing is left, the status. -/
inductive Tells (a : Answer) : String → Prop
  | text {line : String} {ends : Nat} (body : (Utf8.lenient a.body).toList = line.toList ++ List.replicate ends '\n')
    (last : line.toList.getLast? ≠ some '\n') (some : line ≠ "") : Tells a line
  | status {ends : Nat} (body : (Utf8.lenient a.body).toList = List.replicate ends '\n') :
    Tells a ("HTTP " ++ toString a.status)

end Answer

theorem trimBack_split (c : Char) (cs : List Char) : ∃ k, cs = trimBack (· == c) cs ++ List.replicate k c := by
  refine ⟨(List.rtakeWhile (· == c) cs).length, ?_⟩
  have hends : List.rtakeWhile (· == c) cs = List.replicate (List.rtakeWhile (· == c) cs).length c :=
    List.eq_replicate_of_mem fun d hd => beq_iff_eq.mp (List.mem_rtakeWhile_imp (p := (· == c)) hd)
  rw [← hends]
  exact List.rdropWhile_append_rtakeWhile.symm

theorem getLast?_trimBack (c : Char) (cs : List Char) : (trimBack (· == c) cs).getLast? ≠ some c := by
  intro hlast
  obtain ⟨front, hfront⟩ := List.getLast?_eq_some_iff.mp hlast
  have hagain : List.rdropWhile (· == c) (trimBack (· == c) cs) = trimBack (· == c) cs :=
    List.rdropWhile_idempotent ..
  rw [hfront, List.rdropWhile_concat_pos (· == c) front c (beq_self_eq_true c)] at hagain
  have hlength := List.IsPrefix.length_le (List.rdropWhile_prefix (p := (· == c)) (l := front))
  rw [hagain, List.length_append] at hlength
  rw [List.length_singleton] at hlength
  omega

/-- A text that does not end in the character is what is left of it with the character behind it. -/
theorem trimBack_append {c : Char} {line : List Char} (hlast : line.getLast? ≠ some c) (k : Nat) :
    trimBack (· == c) (line ++ List.replicate k c) = line := by
  induction k with
  | zero =>
    rw [List.replicate_zero, List.append_nil]
    refine List.rdropWhile_eq_self_iff.mpr fun hne hc => hlast ?_
    rw [List.getLast?_eq_some_getLast hne, beq_iff_eq.mp hc]
  | succ k ih =>
    rw [List.replicate_succ', ← List.append_assoc]
    exact (List.rdropWhile_concat_pos (· == c) _ c (beq_self_eq_true c)).trans ih

namespace Answer

variable {a : Answer} {message : String}

theorem tells_errorText (a : Answer) : a.Tells a.errorText := by
  obtain ⟨k, hbody⟩ := trimBack_split '\n' (Utf8.lenient a.body).toList
  unfold errorText
  dsimp only
  split
  next hempty =>
    rw [String.ofList_eq_empty_iff.mp hempty, List.nil_append] at hbody
    exact .status hbody
  next hsome =>
    have hlast : (String.ofList (trimBack (· == '\n') (Utf8.lenient a.body).toList)).toList.getLast? ≠ some '\n' := by
      rw [String.toList_ofList]
      exact getLast?_trimBack '\n' _
    rw [← String.toList_ofList (l := trimBack (· == '\n') _)] at hbody
    exact .text hbody hlast hsome

theorem Tells.eq_errorText (h : a.Tells message) : message = a.errorText := by
  unfold errorText
  cases h with
  | text body last some => rw [body, trimBack_append last, String.ofList_toList, if_neg some]
  | @status ends body =>
    have hnil : trimBack (· == '\n') ([] ++ List.replicate ends '\n') = [] := trimBack_append (by simp) ends
    rw [List.nil_append] at hnil
    rw [body, hnil]
    exact (if_pos rfl).symm

end Answer

/-! ## The classes -/

namespace Call

/-- A fault of a call. What goes wrong with the resources is a fault of fetching them, whatever else it is. -/
def fault (c : Call) (kind : CallFault) (message : String) (status : Option Int) (issues : List Issue := []) :
    ServiceFault where
  kind := match c with
    | getResources => .resourceFetch
    | _ => kind
  message
  operation := c.name
  status
  issues

/-- What the documents of a reading call are about. -/
def subject : Call → String
  | getStatus => "progress"
  | getResources => "resources"
  | getSummary => "summary"
  | _ => ""

/-- What the document of a reading call says, or what does not fit in it. A writing call reads none. -/
def content (c : Call) (v : Value) : Except (List Issue) Result :=
  match c with
  | getStatus => (ProgressDocument.read v).toExcept.map fun d => .status d.toStatus
  | getResources => (ResourcesDocument.read v).toExcept.map fun d => .shardMap d.toShardMap
  | getSummary => (SummaryDocument.read v).toExcept.map fun d => .summary (some d.toSummary)
  | _ => .ok .nothing

/-- **The classes of answers**, each with what it comes to: for a call that is not answered, for an error of a writing
and of a reading call, and for any other status. -/
inductive Classed (c : Call) : Outcome → Except ServiceFault Result → Prop
  | unreachable (failure text : String) :
    Classed c (.unreachable failure text) (.error (c.fault .unavailable (c.name ++ " failed: " ++ text) none))
  | rejected {a : Answer} {message : String} (writes : c.isReading = false) (errs : a.Errs) (telling : a.Tells message) :
    Classed c (.answered a) (.error (c.fault .rejected message (some a.status)))
  | failing {a : Answer} {message : String} (reads : c.isReading = true) (above : 500 ≤ a.status) (below : a.status ≤ 599)
    (telling : a.Tells message) : Classed c (.answered a) (.error (c.fault .unavailable message (some a.status)))
  | refused {a : Answer} {message : String} (reads : c.isReading = true) (above : 400 ≤ a.status) (below : a.status ≤ 499)
    (telling : a.Tells message) : Classed c (.answered a) (.error (c.fault .service message (some a.status)))
  | taken {a : Answer} (writes : c.isReading = false) (well : ¬a.Errs) : Classed c (.answered a) (.ok .nothing)
  | unreadable {a : Answer} (reads : c.isReading = true) (well : ¬a.Errs) (body : a.value? = none) :
    Classed c (.answered a) (.error (c.fault .malformed (c.name ++ " returned a non-JSON body") (some a.status)))
  | unfit {a : Answer} {v : Value} {issues : List Issue} (reads : c.isReading = true) (well : ¬a.Errs)
    (body : a.value? = some v) (misfits : c.content v = .error issues) :
    Classed c (.answered a) (.error
      (c.fault .malformed ("Undecodable " ++ c.subject ++ " response: " ++ issuesText issues) none issues))
  | fits {a : Answer} {v : Value} {x : Result} (reads : c.isReading = true) (well : ¬a.Errs) (body : a.value? = some v)
    (content : c.content v = .ok x) : Classed c (.answered a) (.ok x)

/-! ## What the client makes of an answer -/

/-- What the client makes of an answer to a call. -/
def verdict (c : Call) (a : Answer) : Except ServiceFault Result :=
  match c with
  | getStatus => .status <$> a.toStatus
  | getResources => (.shardMap <$> a.toShardMap).mapError ServiceFault.toFetchFault
  | getSummary => (.summary ∘ some) <$> a.toSummary
  | c => (fun _ => .nothing) <$> a.check c

section
variable {α : Type} {c : Call} {a : Answer} {what : String} {read : Value → Reading α}

theorem isError_iff : a.isError = true ↔ a.Errs := by
  simp [Answer.isError, Answer.Errs]

theorem check_errs (h : a.Errs) :
    a.check c = .error { kind := a.faultKind c, message := a.errorText, operation := c.name, status := some a.status } :=
  if_pos (isError_iff.mpr h)

theorem check_well (h : ¬a.Errs) : a.check c = .ok () := if_neg (mt isError_iff.mp h)

theorem decode_errs (h : a.Errs) : a.decode c what read =
    .error { kind := a.faultKind c, message := a.errorText, operation := c.name, status := some a.status } := by
  rw [Answer.decode, Answer.document, check_errs h]
  rfl

theorem decode_unreadable (h : ¬a.Errs) (hbody : a.value? = none) : a.decode c what read = .error {
    kind := .malformed
    message := c.name ++ " returned a non-JSON body"
    operation := c.name
    status := some a.status } := by
  rw [Answer.decode, Answer.document, check_well h, hbody]
  rfl

theorem decode_value {v : Value} (h : ¬a.Errs) (hbody : a.value? = some v) : a.decode c what read =
    (read v).toExcept.mapError fun issues => {
      kind := .malformed
      message := "Undecodable " ++ what ++ " response: " ++ issuesText issues
      operation := c.name
      issues } := by
  have hdocument : a.document c = .ok v := by
    rw [Answer.document, check_well h, hbody]
    rfl
  rw [Answer.decode, hdocument]
  cases hread : (read v).toExcept <;> simp only [bind, Except.bind, hread] <;> rfl

end

section
variable {c : Call} {a : Answer} {r : Except ServiceFault Result}

theorem verdict_write (h : c.isReading = false) : c.verdict a = (fun _ => .nothing) <$> a.check c := by
  cases c with
  | getStatus | getResources | getSummary => cases h
  | _ => rfl

theorem verdict_errs (h : a.Errs) : c.verdict a = .error (c.fault (a.faultKind c) a.errorText (some a.status)) := by
  cases c with
  | getStatus | getResources | getSummary =>
    simp only [verdict, Answer.toStatus, Answer.toShardMap, Answer.toSummary, decode_errs h]
    generalize a.errorText = message
    rfl
  | _ =>
    rw [verdict_write rfl, check_errs h]
    rfl

theorem verdict_unreadable (hreads : c.isReading = true) (h : ¬a.Errs) (hbody : a.value? = none) : c.verdict a =
    .error (c.fault .malformed (c.name ++ " returned a non-JSON body") (some a.status)) := by
  cases c with
  | getStatus | getResources | getSummary =>
    simp only [verdict, Answer.toStatus, Answer.toShardMap, Answer.toSummary, decode_unreadable h hbody]
    rfl
  | _ => cases hreads

theorem verdict_value {v : Value} (hreads : c.isReading = true) (h : ¬a.Errs) (hbody : a.value? = some v) :
    c.verdict a = (c.content v).mapError fun issues =>
      c.fault .malformed ("Undecodable " ++ c.subject ++ " response: " ++ issuesText issues) none issues := by
  cases c with
  | getStatus =>
    rw [verdict, Answer.toStatus, decode_value h hbody, content]
    cases (ProgressDocument.read v).toExcept <;> rfl
  | getResources =>
    rw [verdict, Answer.toShardMap, decode_value h hbody, content]
    cases (ResourcesDocument.read v).toExcept <;> rfl
  | getSummary =>
    rw [verdict, Answer.toSummary, decode_value h hbody, content]
    cases (SummaryDocument.read v).toExcept <;> rfl
  | _ => cases hreads

theorem Classed.eq_verdict (h : c.Classed (.answered a) r) : r = c.verdict a := by
  cases h with
  | rejected writes errs telling =>
    rw [verdict_errs errs, telling.eq_errorText, Answer.faultKind, writes]
    rfl
  | failing reads above below telling =>
    have hserver : a.isServerError = true := by simp [Answer.isServerError, above, below]
    rw [verdict_errs ⟨by omega, below⟩, telling.eq_errorText, Answer.faultKind, reads, hserver]
    rfl
  | refused reads above below telling =>
    have hserver : a.isServerError = false := by
      simp only [Answer.isServerError, Bool.and_eq_false_iff, decide_eq_false_iff_not]
      omega
    rw [verdict_errs ⟨above, by omega⟩, telling.eq_errorText, Answer.faultKind, reads, hserver]
    rfl
  | taken writes well =>
    rw [verdict_write writes, check_well well]
    rfl
  | unreadable reads well body => exact (verdict_unreadable reads well body).symm
  | unfit reads well body misfits =>
    rw [verdict_value reads well body, misfits]
    rfl
  | fits reads well body content =>
    rw [verdict_value reads well body, content]
    rfl

theorem exists_classed (c : Call) (a : Answer) : ∃ r, c.Classed (.answered a) r := by
  by_cases herrs : a.Errs
  · cases hreads : c.isReading with
    | false => exact ⟨_, .rejected hreads herrs a.tells_errorText⟩
    | true =>
      by_cases hserver : 500 ≤ a.status
      · exact ⟨_, .failing hreads hserver herrs.2 a.tells_errorText⟩
      · exact ⟨_, .refused hreads herrs.1 (by omega) a.tells_errorText⟩
  · cases hreads : c.isReading with
    | false => exact ⟨_, .taken hreads herrs⟩
    | true =>
      cases hbody : a.value? with
      | none => exact ⟨_, .unreadable hreads herrs hbody⟩
      | some v =>
        cases hcontent : c.content v with
        | error issues => exact ⟨_, .unfit hreads herrs hbody hcontent⟩
        | ok x => exact ⟨_, .fits hreads herrs hbody hcontent⟩

/-- **The client makes of each answer what its class says**, and of no answer two things. -/
theorem classed_iff : c.Classed (.answered a) r ↔ r = c.verdict a := by
  refine ⟨Classed.eq_verdict, ?_⟩
  rintro rfl
  obtain ⟨r, hr⟩ := c.exists_classed a
  rwa [← hr.eq_verdict]

end

/-- The operation by which a session makes a call. -/
def action : Call → ServiceAction
  | getStatus => .status
  | getResources => .resources
  | getSummary => .summary
  | c => .write c

end Call

end Cutover
