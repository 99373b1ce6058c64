import Cutover.Session.Polling

/-!
# Work in the background

The poll loop and the readers of a stream go on in rounds, until a round is the last.

* `Reader.begin`, `Reader.round`: a reader takes its place, and reads one snapshot;
* `Background.begin`, `Background.round`: the first and the later rounds of any such work.
-/

namespace Cutover

namespace Reader

/-- A reader takes its place, with nothing to read. -/
def enter (number : Nat) (id : String) : Op Unit :=
  Op.modify fun s => { s with streams := s.streams ++ [{ number, id }] }

/-- A reader leaves its place. -/
def leave (number : Nat) : Op Unit :=
  Op.modify fun s => { s with streams := s.streams.filter fun r => r.number ≠ number }

/-- What a reader was given is reported. -/
def report (id : String) (state : Option RunState) : Op Unit :=
  Op.lift (Work.update fun site => { site with events := site.events ++ [⟨id, state⟩] })

/-- A reader comes to its end. -/
def finish (number : Nat) (id : String) : Op Unit := do
  leave number
  report id none

/-- A reader is given a state; a terminal one is its last. Tells whether there is another round. -/
def give (number : Nat) (id : String) (state : RunState) : Op Bool := do
  report id (some state)
  if state.phase.isTerminal then
    finish number id
    return false
  else return true

/-- **A reader begins**, with the current state if that is wanted. -/
def begin (number : Nat) (id : String) (includeCurrent : Bool) : Op Bool := do
  enter number id
  if includeCurrent then
    match (← Op.session).state.check with
    | .ok s => give number id s
    | .error f => do
      leave number
      Op.fail f
  else return true

/-- **A reader reads one snapshot.** -/
def round (number : Nat) (id : String) : Op Bool := do
  match ← Op.perform (.receive number) with
  | .back (some s) => give number id s
  | .back none => do
    finish number id
    return false
  | .cancelled => do
    leave number
    throw .cancelled

end Reader

namespace Background

/-- The first round; tells whether there is another. -/
def begin : Background → Op Bool
  | pollLoop => Poll.round
  | reader number id includeCurrent => Reader.begin number id includeCurrent

/-- A later round; tells whether there is another. -/
def round : Background → Op Bool
  | pollLoop => Poll.round
  | reader number id _ => Reader.round number id

end Background

end Cutover
