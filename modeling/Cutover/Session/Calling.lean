import Cutover.Session.Work

/-!
# Calling the service

Each operation of the service is called within a span, and its answer is classified.

* `Call.send`: a call and its answer;
* `Call.write`, `Call.readStatus`, `Call.readResources`, `Call.readSummary`: what the answers say.
-/

namespace Cutover.Call

/-- The fault of a call. -/
def failService {α : Type} (f : ServiceFault) : Op α := Op.failClient (.service f)

/-- A value, or the fault of a call. -/
def ofService {α : Type} : Except ServiceFault α → Op α
  | .ok a => pure a
  | .error f => failService f

/-- Sends a call and waits for its answer. A message that cannot be sent is refused before that. -/
def send (c : Call) : Op Answer :=
  Op.traced c.span fun span => do
    if !c.message.isSendable then Op.fail (.refused .notFinite)
    match ← Op.unwrap (← Op.perform (.send c.message)) with
    | .answered a => do
      Op.tag span Attribute.httpStatus (.whole a.status)
      return a
    | .unreachable failure text => do
      Op.tag span Attribute.errorType (.text failure)
      failService (c.unreachable text)
    | .failed f => Op.fail f

/-- A writing call. -/
def write (c : Call) : Op Unit := do
  ofService ((← c.send).check c)

/-- The status report of the service. -/
def readStatus : Op Status := do
  ofService (← getStatus.send).toStatus

/-- The summary of source and destination. -/
def readSummary : Op Summary := do
  ofService (← getSummary.send).toSummary

/-- The generated resources by shard. Any fault of the call is one of fetching them. -/
def readResources : Op ShardMap :=
  Op.rescue (do ofService (← getResources.send).toShardMap) fun f => failService f.toFetchFault

end Cutover.Call
