import Cutover.Form

/-!
# Policies

Parts of the client are tuned by small policies, which are checked when they are made.

* `PollPolicy`: how long to wait between two polls;
* `NoticePolicy`: how long notices stay and how many are kept.
-/

namespace Cutover

/-- Seconds that are waited, or notices that stay, when nothing else is set. -/
def fiveSeconds : Quantity := .real (.ofInt 5)

/-- How many resources a page shows when nothing else is set. -/
def usualPageSize : Int := 10

/-- How long to wait between two polls. -/
structure PollPolicy where
  interval : Quantity := fiveSeconds
  deriving DecidableEq, Repr

namespace PollPolicy

/-- The policy, if its interval is positive. -/
def make (interval : Quantity) : Except Fault PollPolicy :=
  if interval.isAtMost 0 then Fault.refuse (.notPositive "interval_seconds" interval)
  else .ok ⟨interval⟩

/-- The policy a form gives; other names are passed over. -/
def ofForm (form : Members) : Except Fault PollPolicy := do
  make (← Form.asQuantity (form.getD "interval_seconds" fiveSeconds.toValue))

/-- The policy as an object. -/
def toMembers (p : PollPolicy) : Members := [("interval_seconds", p.interval.toValue)]

end PollPolicy

/-- How long notices stay and how many are kept. -/
structure NoticePolicy where
  ttl : Quantity := fiveSeconds
  history : Quantity := .whole 100
  deriving DecidableEq, Repr

namespace NoticePolicy

/-- The policy, if notices stay for a while and one at least is kept. -/
def make (ttl history : Value) : Except Fault NoticePolicy := do
  let ttl ← Form.asQuantity ttl
  if ttl.isAtMost 0 then Fault.refuse (.notPositive "transient_ttl_seconds" ttl)
  let history ← Form.asQuantity history
  if history.isBelow 1 then Fault.refuse (.belowOne "max_history" history)
  return ⟨ttl, history⟩

/-- The policy a form gives; other names are passed over. -/
def ofForm (form : Members) : Except Fault NoticePolicy :=
  make (form.getD "transient_ttl_seconds" fiveSeconds.toValue) (form.getD "max_history" (.whole 100))

/-- The policy a form gives; other names are refused. -/
def ofStrictForm (form : Members) : Except Fault NoticePolicy := do
  Form.only ["transient_ttl_seconds", "max_history"] form
  ofForm form

/-- How many notices are kept: a whole number that can be counted to. -/
def historyLength (p : NoticePolicy) : Except Fault Nat :=
  match p.history with
  | .flag _ => .ok 1
  | .whole n => if n < Nat.pow 2 63 then .ok n.toNat else .error .outOfRange
  | .real _ => .error .illTyped

/-- The policy as an object. -/
def toMembers (p : NoticePolicy) : Members :=
  [("transient_ttl_seconds", p.ttl.toValue), ("max_history", p.history.toValue)]

end NoticePolicy

end Cutover
