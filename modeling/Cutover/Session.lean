import Cutover.Assembly
import Cutover.Notice
import Cutover.Session.Gate
import Cutover.Service.Answer
import Cutover.Store

/-!
# Sessions

A session holds everything of one client: the state of its run, the resources it fetched, its poll
loop, the configuration and the notices. Next to it stand the things that sessions share: the stores,
the trace and what was reported to the outside.

* `Session`: the parts of one session;
* `Site`: a session together with what it shares with others.
-/

namespace Cutover

/-- What is called when a run ends. -/
inductive StopHook where
  /-- The poll loop is asked to stop. -/
  | polling
  /-- The configuration of a complete run is forgotten. -/
  | configuration
  /-- Somebody outside is told. -/
  | user (number : Nat) (id : String) (fails : Bool)
  deriving DecidableEq, Repr

/-- A reader of the states of the run: the snapshots it has not read yet, and none for the end. -/
structure Stream where
  number : Nat
  id : String
  mailbox : List (Option RunState) := []
  deriving DecidableEq, Repr

/-- The flag that ends a poll loop. A new loop gets a new flag, of the next generation. -/
structure Latch where
  generation : Nat := 0
  raised : Bool := false
  deriving DecidableEq, Repr, Inhabited

/-- One session. -/
structure Session where
  /-- The number of its store. -/
  store : Nat := 0
  /-- Only the parts that follow a run are there: no resources are kept, and the configuration cannot
  be sent. -/
  isBare : Bool := false
  -- the run
  state : RunState := {}
  mode : Option Mode := none
  transfer : Option Transfer := none
  shardCount : Value := .whole 0
  instanceCount : Value := .whole 0
  lastFailure : Option RunFailure := none
  lastFetchFault : Option ServiceFault := none
  hooks : List StopHook := []
  streams : List Stream := []
  nextStream : Nat := 0
  stateGate : Gate := {}
  -- resources
  pageSize : Quantity := .whole usualPageSize
  resources : Option (List Resource) := none
  fetchCount : Nat := 0
  fetchGate : Gate := {}
  -- the poll loop
  interval : Quantity := fiveSeconds
  pollTask : Option Nat := none
  latch : Latch := {}
  applying : Bool := false
  pollCount : Nat := 0
  failureCount : Nat := 0
  -- launching and configuring
  launching : Bool := false
  fragments : FragmentSet := {}
  wizard : Wizard := {}
  summary : Option Summary := none
  board : Board := {}

namespace Session

/-- What the stored record holds beside the state. -/
def context (s : Session) : Record.Context where
  mode := s.mode
  transfer := s.transfer
  targetSet := .bool s.mode.isSome
  shardCount := s.shardCount
  instanceCount := s.instanceCount

/-- The record of the current state. -/
def record (s : Session) : Record := Record.ofState s.state s.context

/-- The flags and shards of the configuration are forgotten; the other values stay, unseen. -/
def forgetConfiguration (s : Session) : Session :=
  { s with
    fragments := { s.fragments with flags := [], shards := [] }
    wizard := s.wizard.clear }

/-- The modes that can be offered. -/
def offeredModes (s : Session) : List Mode :=
  match s.summary with
  | some summary => summary.offeredModes
  | none => Vocabulary.all

/-- The transfers that can be offered. -/
def offeredTransfers (s : Session) : Except Fault (List Transfer) :=
  match s.summary with
  | some summary => summary.offeredTransfers
  | none => .ok Vocabulary.all

end Session

/-- A stop hook outside was called: in which phase, and whether a record was still stored. -/
structure HookCall where
  id : String
  phase : Phase
  stored : Bool
  deriving DecidableEq, Repr

/-- A reader was given a state, or none at its end. -/
structure StreamEvent where
  id : String
  state : Option RunState
  deriving DecidableEq, Repr

/-- A session together with what it shares with others. -/
structure Site where
  session : Session := {}
  storage : Storage := {}
  trace : Trace := {}
  hookCalls : List HookCall := []
  events : List StreamEvent := []
  /-- Microseconds since the start. -/
  now : Int := 0

namespace Site

/-- The session is changed. -/
def onSession (f : Session → Session) (s : Site) : Site := { s with session := f s.session }

end Site

end Cutover
