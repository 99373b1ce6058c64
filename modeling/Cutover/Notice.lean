import Cutover.Settings.Policy

/-!
# Notices to the user

Transient notices expire by themselves after a while; persistent ones stay until the user dismisses
them. A board keeps the notices that are still visible and the last ones that were raised.

* `Board.transient`, `Board.persistent`: a notice is raised;
* `Board.publish`: it is handed to every listener;
* `Board.dismiss`: a visible notice is taken away;
* `Board.visible`: the notices still visible at some time.

Times are microseconds since the board was set up.
-/

namespace Cutover

/-- How a notice looks. -/
inductive Level where
  | info
  | success
  | warning
  | error
  deriving DecidableEq, Repr, Inhabited

instance : Vocabulary Level where
  noun := "NotificationLevel"
  all := [.info, .success, .warning, .error]
  word
    | .info => "info"
    | .success => "success"
    | .warning => "warning"
    | .error => "error"
  name
    | .info => "INFO"
    | .success => "SUCCESS"
    | .warning => "WARNING"
    | .error => "ERROR"

/-- A notice. One without a time of expiry is persistent. -/
structure Notice where
  id : Int
  message : Value
  level : Level
  created : Int
  expires : Option Int := none
  deriving DecidableEq, Repr, Inhabited

namespace Notice

/-- The notice expires by itself. -/
def isTransient (n : Notice) : Bool := n.expires.isSome

/-- The notice has expired. -/
def isExpired (n : Notice) (now : Int) : Bool :=
  match n.expires with
  | some t => decide (t ≤ now)
  | none => false

end Notice

/-- A listener: its number, the name it was added under, and whether it breaks. -/
structure Listener where
  number : Nat
  name : String
  breaks : Bool := false
  deriving DecidableEq, Repr

/-- A listener was handed a notice. -/
structure Delivery where
  listener : String
  notice : Int
  deriving DecidableEq, Repr

/-- What is done with listeners may break, and it counts what they were handed until then. -/
abbrev Hearing := ExceptT Fault (StateM (List Delivery))

/-- Calls a listener with a notice. -/
def Listener.call (l : Listener) (n : Notice) : Hearing Unit := do
  modify fun handed => handed ++ [⟨l.name, n.id⟩]
  if l.breaks then throw (.broken "the listener breaks")

/-- A board of notices. -/
structure Board where
  /-- How long a transient notice stays. -/
  ttl : Quantity := fiveSeconds
  /-- How many notices the history keeps. -/
  keep : Nat := 100
  nextId : Int := 1
  active : List Notice := []
  history : List Notice := []
  listeners : List Listener := []
  deriving Repr

/-- The last `n` items of a list. -/
def lastOf {α : Type} (n : Nat) (xs : List α) : List α := xs.drop (xs.length - n)

/-- The first instant of the calendar, in microseconds after the start of 2024. -/
def firstInstant : Int := -(738885 * 86400 * 1000000)

/-- The last instant of the calendar, in microseconds after the start of 2024. -/
def lastInstant : Int := 2913174 * 86400 * 1000000 - 1

/-- A time in seconds as microseconds, rounded to the nearest, a half to the even one. The fraction
of a second is multiplied as a floating-point number. -/
def microsecondsOf : Quantity → Except Fault Int
  | .flag b => .ok (if b then 1000000 else 0)
  | .whole n => .ok (n * 1000000)
  | .real .nan => Fault.refuse .notANumber
  | .real (.infinite _) => .error .outOfRange
  | .real (.finite negative mantissa exponent) =>
    let (num, den) := Double.ratio mantissa exponent
    let fraction := Double.ofRatio false (num % den) den
    let part := match fraction.times 1000000 with
      | .finite _ m e => let (n, d) := Double.ratio m e; roundHalfEven n d
      | _ => 0
    .ok (signed negative (num / den * 1000000 + part))

/-- A number rounded to a whole one, a half to the even one. -/
def roundedWhole : Quantity → Except Fault Int
  | .flag b => .ok (if b then 1 else 0)
  | .whole n => .ok n
  | .real .nan => Fault.refuse .notANumber
  | .real (.infinite _) => .error .outOfRange
  | .real (.finite negative mantissa exponent) =>
    let (num, den) := Double.ratio mantissa exponent
    .ok (signed negative (roundHalfEven num den))

/-- The instant that lies some microseconds after another, if the calendar has it. -/
def instantAfter (now : Int) (microseconds : Value) : Except Fault Int := do
  let t := now + (← roundedWhole (← Form.asQuantity microseconds))
  if t < firstInstant ∨ lastInstant < t then .error .outOfRange else return t

namespace Board

/-- A board with the settings of a policy. -/
def ofPolicy (p : NoticePolicy) : Except Fault Board := do
  return { ttl := p.ttl, keep := ← p.historyLength }

/-- The instant a notice expires that is raised now. -/
def expiry (b : Board) (now : Int) : Except Fault Int := do
  let t := now + (← microsecondsOf b.ttl)
  if lastInstant < t then .error .outOfRange else return t

/-- The board with one more notice. -/
def post (b : Board) (n : Notice) : Board :=
  { b with active := b.active ++ [n], history := lastOf b.keep (b.history ++ [n]) }

/-- Hands a notice to each listener in the order they were added. What a listener breaks with is caught, and keeps no
other from the notice. -/
def publish (b : Board) (n : Notice) : Hearing Notice := do
  b.listeners.forM fun l => tryCatch (l.call n) fun _ => return
  return n

/-- What the listeners were handed. -/
def deliveries (b : Board) (n : Notice) : List Delivery := ((b.publish n).run []).2

/-- Raises a notice that expires. Its number is used up even if its expiry is out of range. -/
def transient (b : Board) (now : Int) (message : Value) (level : Level := .info) :
    Board × Except Fault Notice :=
  let b' := { b with nextId := b.nextId + 1 }
  match b.expiry now with
  | .error e => (b', .error e)
  | .ok t =>
    let n : Notice := ⟨b.nextId, message, level, now, some t⟩
    (b'.post n, .ok n)

/-- Raises a notice that stays. -/
def persistent (b : Board) (now : Int) (message : Value) (level : Level := .error) :
    Board × Notice :=
  let n : Notice := ⟨b.nextId, message, level, now, none⟩
  ({ b with nextId := b.nextId + 1 }.post n, n)

/-- Takes a notice away; tells whether it was there. -/
def dismiss (b : Board) (id : Int) : Board × Bool :=
  ({ b with active := b.active.filter fun n => n.id ≠ id }, b.active.any fun n => n.id = id)

/-- Takes away the notice whose number a value is; tells whether it was there. -/
def dismissValue (b : Board) (v : Value) : Except Fault (Board × Bool) :=
  if v.isKey then
    match b.active.find? fun n => v.same (.whole n.id) with
    | some n => .ok (b.dismiss n.id)
    | none => .ok (b, false)
  else .error .illTyped

/-- The notices still visible, oldest first. Those that have expired are dropped. -/
def visible (b : Board) (now : Int) : Board × List Notice :=
  let rest := b.active.filter fun n => !n.isExpired now
  ({ b with active := rest }, rest)

/-- Adds a listener, behind those that are there. -/
def addListener (b : Board) (l : Listener) : Board := { b with listeners := b.listeners ++ [l] }

/-- Removes the first place of a listener. -/
def removeListener (b : Board) (number : Nat) : Board :=
  { b with listeners := b.listeners.eraseP fun l => l.number = number }

end Board

end Cutover
