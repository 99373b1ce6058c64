import Cutover.World.Timing

/-!
# Observations

What shows of a world from the outside.

* `World.observe`: how a session stands at an instant;
* `News`, `World.takeNews`: what happened since it was last asked for.
-/

namespace Cutover

/-- How a session stands at an instant. -/
structure Observation where
  state : RunState
  mode : Option Mode
  transfer : Option Transfer
  /-- A poll loop is running. -/
  polling : Bool
  pollCount : Nat
  failureCount : Nat
  /-- The fragments that are set, in alphabetical order. -/
  flags : List String
  /-- The record in the store that was opened last. -/
  record : Table
  now : Int
  launching : Bool
  /-- The number of readers of the run. -/
  readers : Nat
  /-- How often resources were fetched, if they can be. -/
  fetches : Option Nat
  lastFailure : Option RunFailure
  lastFetchFault : Option ServiceFault
  deriving DecidableEq

/-- What happened since it was last asked for. -/
structure News where
  notices : List Notice := []
  sent : List Message := []
  events : List StreamEvent := []
  hookCalls : List HookCall := []
  spans : List Span := []

namespace World

/-- A session has a poll loop that runs. -/
def isPolling (w : World) (n : Nat) : Bool :=
  match (w.session n).pollTask with
  | some t => !w.hasEnded t
  | none => false

/-- **How a session stands.** -/
def observe (w : World) (n : Nat) : Observation :=
  let s := w.session n
  { state := s.state
    mode := s.mode
    transfer := s.transfer
    polling := w.isPolling n
    pollCount := s.pollCount
    failureCount := s.failureCount
    flags := s.fragments.flagWords
    record := w.storage.table w.storage.current
    now := w.now
    launching := s.launching
    readers := s.streams.length
    fetches := if s.isBare then none else some s.fetchCount
    lastFailure := s.lastFailure
    lastFetchFault := s.lastFetchFault }

/-- **What happened since it was last asked for.** Of the notices, those with a number above the last
one seen. -/
def takeNews (w : World) (n : Nat) (lastSeen : Int) : News × World :=
  ({ notices := (w.session n).board.history.filter fun h => lastSeen < h.id
     sent := w.sent
     events := w.events
     hookCalls := w.hookCalls
     spans := w.trace.ended },
    { w with sent := [], events := [], hookCalls := [], trace := { w.trace with ended := [] } })

end World

end Cutover
